import Mathlib.Logic.Function.Basic

namespace SimpleRV

/-!
# Data model of the dual-issue core

The types of `include/common.h`: machine words, decoded instructions, the two
slots of a latch and the four latches between the five stages.  Bit fields of
an instruction word have the width the decoder gives them, so a register
number is always a valid index of the register array.

The counters of `PipelineStats`, the `flush` bit of `IF_ID_Buffer` and the
`regWrite` pair of `MEM_WB_Buffer` are read by no stage and are left out.
-/

abbrev Word := BitVec 32
abbrev Addr := BitVec 32
abbrev Byte := BitVec 8

/-- A register number, an index of the array `gpr`. -/
abbrev RegNum := BitVec 5

/-- A CSR number, the field `instr[31:20]`. -/
abbrev CsrAddr := BitVec 12

/-- Bytes of RAM: 128 MB from address zero. -/
def MEMORY_SIZE : Addr := 0x08000000#32

def UART_TX_ADDR : Addr := 0x10000000#32
def UART_LSR_ADDR : Addr := 0x10000005#32

def CLINT_BASE : Addr := 0x02000000#32
def CLINT_MTIMECMP : Addr := 0x02004000#32
def CLINT_MTIME : Addr := 0x0200BFF8#32

/-- What ends the simulator from inside a tick: a `std::runtime_error`, or an
index outside the `memory` vector, where C++ leaves the behaviour undefined. -/
inductive Crash where
  | runtimeError (what : String)
  | outOfRange
deriving DecidableEq, Repr

/-- There are two lanes; this is what makes 0 and 1 lane numbers. -/
instance laneCount : @NeZero Nat Zero.ofOfNat0 2 := Nat.instNeZeroSucc

/-- A fact about both lanes is proved lane by lane. -/
@[elab_as_elim]
theorem laneCases {motive : Fin 2 -> Prop} (zero : motive 0) (one : motive 1) (lane : Fin 2) : motive lane := by
  match lane with
  | 0 => exact zero
  | 1 => exact one

/-- A pair of lanes, for the arrays of length two that every latch carries. -/
structure Dual (α : Type) where
  s0 : α
  s1 : α
deriving DecidableEq, Repr

namespace Dual

variable {α : Type}

def get (pair : Dual α) : Fin 2 -> α
  | 0 => pair.s0
  | 1 => pair.s1

def set (pair : Dual α) (lane : Fin 2) (value : α) : Dual α :=
  match lane with
  | 0 => { pair with s0 := value }
  | 1 => { pair with s1 := value }

@[simp] theorem get_zero (pair : Dual α) : pair.get 0 = pair.s0 := rfl
@[simp] theorem get_one (pair : Dual α) : pair.get 1 = pair.s1 := rfl
@[simp] theorem set_zero (pair : Dual α) (value : α) :
    pair.set 0 value = ⟨value, pair.s1⟩ := rfl
@[simp] theorem set_one (pair : Dual α) (value : α) :
    pair.set 1 value = ⟨pair.s0, value⟩ := rfl

@[simp] theorem get_set (pair : Dual α) (lane : Fin 2) (value : α) : (pair.set lane value).get lane = value := by
  cases lane using laneCases with
  | zero => rfl
  | one => rfl

theorem get_set_of_ne (pair : Dual α) {lane other : Fin 2} (different : other ≠ lane) (value : α) :
    (pair.set lane value).get other = pair.get other := by
  cases lane using laneCases with
  | zero =>
      cases other using laneCases with
      | zero => exact absurd rfl different
      | one => rfl
  | one =>
      cases other using laneCases with
      | zero => rfl
      | one => exact absurd rfl different

@[simp] theorem set_set (pair : Dual α) (lane : Fin 2) (first second : α) :
    (pair.set lane first).set lane second = pair.set lane second := by
  cases lane using laneCases with
  | zero => rfl
  | one => rfl

end Dual

/-- The static information of an instruction word (`DecodedData`). -/
structure DecodedData where
  op : BitVec 7 := 0
  rs1 : RegNum := 0
  rs2 : RegNum := 0
  rd : RegNum := 0
  funct3 : BitVec 3 := 0
  funct7 : BitVec 7 := 0
  imm : Word := 0
  usesRs1 : Bool := false
  usesRs2 : Bool := false
  regWrite : Bool := false
  isMemory : Bool := false
  isBranch : Bool := false
  isEcall : Bool := false
  isMret : Bool := false
  isSret : Bool := false
  isSfence : Bool := false
  isCsr : Bool := false
  isIllegal : Bool := false
  csrAddr : CsrAddr := 0
  predictedTaken : Bool := false
deriving DecidableEq, Repr

/-- One instruction on its way through the pipeline (`PipelineSlot`). -/
structure PipelineSlot where
  instr : Word := 0
  d : DecodedData := {}
  result : Word := 0
  rd : RegNum := 0
  valid : Bool := false
  regWrite : Bool := false
  jumpTarget : Addr := 0
  csrWriteVal : Word := 0
deriving DecidableEq, Repr

/-- `IF_ID_Buffer`: two fetched words and the address of the first. -/
structure IfIdBuffer where
  slots : Dual PipelineSlot := ⟨{}, {}⟩
  pc : Addr := 0
deriving DecidableEq, Repr

/-- `ID_EX_Buffer`: decoded instructions with their memory controls. -/
structure IdExBuffer where
  slots : Dual PipelineSlot := ⟨{}, {}⟩
  pc : Addr := 0
  memRead : Dual Bool := ⟨false, false⟩
  memWrite : Dual Bool := ⟨false, false⟩
deriving DecidableEq, Repr

/-- `EX_MEM_Buffer`: results, and the address and data of memory accesses. -/
structure ExMemBuffer where
  slots : Dual PipelineSlot := ⟨{}, {}⟩
  pc : Addr := 0
  memAddr : Dual Addr := ⟨0, 0⟩
  memData : Dual Word := ⟨0, 0⟩
  memRead : Dual Bool := ⟨false, false⟩
  memWrite : Dual Bool := ⟨false, false⟩
deriving DecidableEq, Repr

/-- `MEM_WB_Buffer`: instructions whose result only awaits write-back. -/
structure MemWbBuffer where
  slots : Dual PipelineSlot := ⟨{}, {}⟩
deriving DecidableEq, Repr

end SimpleRV
