import SimpleRV.Library.LittleEndian
import SimpleRV.Library.Rv32i
import SimpleRV.Library.StepLogic

/-!
# The machine of the base instruction set

The state that RV32I programs work on, and what one instruction does to it, as
the instruction-set manual gives it.  A program is a table from addresses to
instructions, and it runs as long as the pc is in the table.
-/

namespace Rv32i

/-! ## Registers -/

/-- The registers.  Register zero is zero in every value of the type. -/
@[ext]
structure Registers where
  read : Reg -> BitVec 32
  read_zero : read 0 = 0

namespace Registers

@[simp] theorem read_x0 (regs : Registers) : regs.read 0#5 = 0#32 := regs.read_zero

/-- A write, which register zero ignores. -/
def write (regs : Registers) (rd : Reg) (value : BitVec 32) : Registers where
  read rs := if rs = rd ∧ rd ≠ 0 then value else regs.read rs
  read_zero := by
    split
    case isTrue same => exact absurd same.1.symm same.2
    case isFalse => exact regs.read_zero

@[simp] theorem read_write_self (regs : Registers) {rd : Reg} (nonzero : rd ≠ 0) (value : BitVec 32) :
    (regs.write rd value).read rd = value :=
  if_pos ⟨rfl, nonzero⟩

@[simp] theorem read_write_other (regs : Registers) {rd rs : Reg} (other : rs ≠ rd) (value : BitVec 32) :
    (regs.write rd value).read rs = regs.read rs :=
  if_neg (fun same => other same.1)

@[simp] theorem write_zero (regs : Registers) (value : BitVec 32) : regs.write 0 value = regs := by
  apply Registers.ext
  funext rs
  exact if_neg (fun same => same.2 rfl)

end Registers

/-! ## Instructions -/

structure State where
  pc : BitVec 32
  regs : Registers
  memory : BitVec 32 -> BitVec 8

/-- The number of bytes that a store writes. -/
def StoreKind.bytes : StoreKind -> Nat
  | sb => 1 | sh => 2 | sw => 4

namespace Instr

/-- The number of bytes that are accessed at the effective address. -/
def width : Instr -> Nat
  | load kind _ _ _ => kind.bytes
  | store kind _ _ _ => kind.bytes
  | _ => 0

/-- The value that goes into `rd`. -/
def value (s : State) : Instr -> Option (BitVec 32)
  | load kind _ rs1 imm =>
      some (kind.extend (LittleEndian.load s.memory (s.regs.read rs1 + imm.signExtend 32) kind.bytes))
  | i => i.result s.pc s.regs.read

end Instr

namespace State

def writeBack (s : State) (i : Instr) : Registers :=
  match i.dest, i.value s with
  | some rd, some value => s.regs.write rd value
  | _, _ => s.regs

def storeTo (s : State) (i : Instr) : BitVec 32 -> BitVec 8 :=
  match i.address s.regs.read, i.stored s.regs.read with
  | some addr, some data => LittleEndian.store s.memory addr data i.width
  | _, _ => s.memory

/-- The state after an instruction. -/
def next (s : State) (i : Instr) : State where
  pc := (i.target s.pc s.regs.read).getD (s.pc + 4)
  regs := s.writeBack i
  memory := s.storeTo i

end State

/-! ## Programs -/

/-- A program: the instruction at each address, and the bytes that belong to
the program, which its instructions are among. -/
structure Program where
  code : BitVec 32 -> Option Instr
  text : BitVec 32 -> Prop
  within : forall pc i, code pc = some i -> forall a, a < 4 -> text (pc + BitVec.ofNat 32 a)

namespace Program

variable {program : Program} {s : State} {i : Instr}

/-- One instruction of the program.  Outside the program there is no next
state, and the error is the address where the program was left. -/
def step (program : Program) (s : State) : Except (BitVec 32) State :=
  match program.code s.pc with
  | some i => .ok (s.next i)
  | none => .error s.pc

theorem step_some (here : program.code s.pc = some i) : program.step s = .ok (s.next i) := by
  rw [step, here]

/-- The words of the program are in memory. -/
def LoadedIn (program : Program) (memory : BitVec 32 -> BitVec 8) : Prop :=
  forall pc i, program.code pc = some i -> LittleEndian.load memory pc 4 = i.encode

/-- The instruction does not store to the program. -/
def Spares (program : Program) (s : State) (i : Instr) : Prop :=
  forall addr data, i.address s.regs.read = some addr -> i.stored s.regs.read = some data ->
    forall b, b < i.width -> ¬program.text (addr + BitVec.ofNat 32 b)

/-- The bytes of the program are kept. -/
theorem Spares.memory (spares : program.Spares s i) {addr : BitVec 32} (text : program.text addr) :
    (s.next i).memory addr = s.memory addr := by
  change s.storeTo i addr = s.memory addr
  unfold State.storeTo
  cases address : i.address s.regs.read with
  | none => rfl
  | some target =>
      cases stored : i.stored s.regs.read with
      | none => rfl
      | some data =>
          apply LittleEndian.store_of_ne
          intro b below same
          exact spares target data address stored b below (same ▸ text)

/-- A program that does not store to itself stays loaded. -/
theorem LoadedIn.next (loaded : program.LoadedIn s.memory) (spares : program.Spares s i) :
    program.LoadedIn (s.next i).memory := by
  intro pc j there
  rw [← loaded pc j there]
  exact LittleEndian.load_congr (fun a below => spares.memory (program.within pc j there a below))

/-- The program that lies at address zero, with room behind it that it keeps. -/
def listing (instrs : List Instr) (room : Nat) : Program where
  code pc := if pc.toNat % 4 = 0 then instrs[pc.toNat / 4]? else none
  text addr := addr.toNat < 4 * instrs.length + room
  within := by
    intro pc i there a short
    split at there
    · rcases List.getElem?_eq_some_iff.mp there with ⟨inside, _⟩
      have atMost := Nat.mod_le (pc.toNat + (BitVec.ofNat 32 a).toNat) (2 ^ 32)
      rw [BitVec.toNat_add]
      rw [BitVec.toNat_ofNat] at atMost ⊢
      omega
    · cases there

theorem listing_code {instrs : List Instr} {room k : Nat} {pc : BitVec 32} (here : pc.toNat = 4 * k) :
    (listing instrs room).code pc = instrs[k]? := by
  have aligned : pc.toNat % 4 = 0 := by omega
  have index : pc.toNat / 4 = k := by omega
  change (if pc.toNat % 4 = 0 then _ else none) = _
  rw [if_pos aligned, index]

/-! ## Straight-line code -/

theorem next_pc_straight (s : State) {i : Instr} (straight : i.transfers = false) : (s.next i).pc = s.pc + 4 := by
  cases i <;> first | rfl | cases straight

theorem block_pc (block : List Instr) (s : State) (straight : forall i, i ∈ block -> i.transfers = false) :
    (block.foldl State.next s).pc = s.pc + BitVec.ofNat 32 (4 * block.length) := by
  induction block generalizing s with
  | nil => exact (BitVec.add_zero s.pc).symm
  | cons i rest ih =>
      rw [List.foldl_cons, ih (s.next i) (fun j member => straight j (List.mem_cons_of_mem i member)),
        next_pc_straight s (straight i List.mem_cons_self), BitVec.add_assoc, List.length_cons, Nat.mul_succ,
        Nat.add_comm, BitVec.ofNat_add]
      rfl

/-- The instructions of a block are executed one after another. -/
theorem block_leads {safe : State -> Prop} (block : List Instr) {s : State}
    (straight : forall i, i ∈ block -> i.transfers = false)
    (located : forall k i, block[k]? = some i -> program.code (s.pc + BitVec.ofNat 32 (4 * k)) = some i)
    (safely : forall k, k < block.length -> safe ((block.take k).foldl State.next s)) :
    StepLogic.Leads program.step safe s block.length (block.foldl State.next s) := by
  induction block generalizing s with
  | nil => exact .refl s
  | cons i rest ih =>
      have first := located 0 i rfl
      rw [show s.pc + BitVec.ofNat 32 (4 * 0) = s.pc from BitVec.add_zero s.pc] at first
      have pc : (s.next i).pc = s.pc + 4 := next_pc_straight s (straight i List.mem_cons_self)
      have shift : forall k, (s.next i).pc + BitVec.ofNat 32 (4 * k) = s.pc + BitVec.ofNat 32 (4 * (k + 1)) := by
        intro k
        rw [pc, BitVec.add_assoc, Nat.mul_succ, Nat.add_comm, BitVec.ofNat_add]
        rfl
      have later := @ih (s.next i) (fun j member => straight j (List.mem_cons_of_mem i member))
        (fun k j there => by rw [shift]; exact located (k + 1) j there)
        (fun k below => safely (k + 1) (Nat.succ_lt_succ below))
      rw [List.length_cons, Nat.add_comm]
      exact (StepLogic.Leads.single (safely 0 (Nat.succ_pos _)) (step_some first)).trans later

end Program

/-- All accesses of a block are of the kind that is asked for. -/
def State.Accesses (ok : BitVec 32 -> Nat -> Prop) : State -> List Instr -> Prop
  | _, [] => True
  | s, i :: rest => (forall addr, i.address s.regs.read = some addr -> ok addr i.width) ∧ (s.next i).Accesses ok rest

theorem State.Accesses.at {ok : BitVec 32 -> Nat -> Prop} {block : List Instr} {s : State} (all : s.Accesses ok block)
    {k : Nat} {i : Instr} (there : block[k]? = some i) {addr : BitVec 32}
    (has : i.address ((block.take k).foldl State.next s).regs.read = some addr) : ok addr i.width := by
  induction block generalizing s k with
  | nil => cases there
  | cons head rest ih =>
      cases k with
      | zero =>
          cases there
          exact all.1 addr has
      | succ k => exact ih all.2 there has

end Rv32i
