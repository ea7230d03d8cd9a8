import Mathlib.Logic.Function.Basic

/-!
# The base integer instruction set

The unprivileged instructions of RV32I with their encodings and their meaning,
as the instruction-set manual gives them.  An instruction is a value of `Instr`;
its immediates have the width and the parity that its format can encode, so
every value of the type is a legal instruction.
-/

namespace Rv32i

/-- A register number. -/
abbrev Reg := BitVec 5

/-- A branch offset: a signed number of bytes that is even. -/
abbrev Offset (w : Nat) := { offset : BitVec w // offset.getLsbD 0 = false }

/-! ## Instruction formats -/

section Formats

variable (funct7 : BitVec 7) (rs2 rs1 : Reg) (funct3 : BitVec 3) (rd : Reg) (opcode : BitVec 7)

def rType : BitVec 32 := funct7 ++ rs2 ++ rs1 ++ funct3 ++ rd ++ opcode

def iType (imm : BitVec 12) : BitVec 32 := imm ++ rs1 ++ funct3 ++ rd ++ opcode

def sType (imm : BitVec 12) : BitVec 32 :=
  imm.extractLsb' 5 7 ++ rs2 ++ rs1 ++ funct3 ++ imm.extractLsb' 0 5 ++ opcode

def bType (offset : BitVec 13) : BitVec 32 :=
  offset.extractLsb' 12 1 ++ offset.extractLsb' 5 6 ++ rs2 ++ rs1 ++ funct3 ++ offset.extractLsb' 1 4 ++
    offset.extractLsb' 11 1 ++ opcode

def uType (imm : BitVec 20) : BitVec 32 := imm ++ rd ++ opcode

def jType (offset : BitVec 21) : BitVec 32 :=
  offset.extractLsb' 20 1 ++ offset.extractLsb' 1 10 ++ offset.extractLsb' 11 1 ++ offset.extractLsb' 12 8 ++
    rd ++ opcode

end Formats

/-! ## Instructions -/

inductive Condition where
  | eq | ne | lt | ge | ltu | geu
deriving DecidableEq, Repr

inductive LoadKind where
  | lb | lh | lw | lbu | lhu
deriving DecidableEq, Repr

inductive StoreKind where
  | sb | sh | sw
deriving DecidableEq, Repr

inductive ImmOp where
  | addi | slti | sltiu | xori | ori | andi
deriving DecidableEq, Repr

inductive Shift where
  | sll | srl | sra
deriving DecidableEq, Repr

inductive RegOp where
  | add | sub | slt | sltu | xor | or | and | shift (kind : Shift)
deriving DecidableEq, Repr

/-- The instructions that are not SYSTEM instructions.  FENCE carries the
fields it has room for, which it does not use. -/
inductive Instr where
  | lui (rd : Reg) (imm : BitVec 20)
  | auipc (rd : Reg) (imm : BitVec 20)
  | jal (rd : Reg) (offset : Offset 21)
  | jalr (rd rs1 : Reg) (imm : BitVec 12)
  | branch (condition : Condition) (rs1 rs2 : Reg) (offset : Offset 13)
  | load (kind : LoadKind) (rd rs1 : Reg) (imm : BitVec 12)
  | store (kind : StoreKind) (rs1 rs2 : Reg) (imm : BitVec 12)
  | opImm (kind : ImmOp) (rd rs1 : Reg) (imm : BitVec 12)
  | shiftImm (kind : Shift) (rd rs1 : Reg) (shamt : BitVec 5)
  | op (kind : RegOp) (rd rs1 rs2 : Reg)
  | fence (rd rs1 : Reg) (sets : BitVec 12)
deriving DecidableEq, Repr

def Condition.funct3 : Condition -> BitVec 3
  | eq => 0 | ne => 1 | lt => 4 | ge => 5 | ltu => 6 | geu => 7

def LoadKind.funct3 : LoadKind -> BitVec 3
  | lb => 0 | lh => 1 | lw => 2 | lbu => 4 | lhu => 5

/-- The number of bytes that a load reads. -/
def LoadKind.bytes : LoadKind -> Nat
  | lb => 1 | lh => 2 | lw => 4 | lbu => 1 | lhu => 2

def StoreKind.funct3 : StoreKind -> BitVec 3
  | sb => 0 | sh => 1 | sw => 2

def ImmOp.funct3 : ImmOp -> BitVec 3
  | addi => 0 | slti => 2 | sltiu => 3 | xori => 4 | ori => 6 | andi => 7

def Shift.funct3 : Shift -> BitVec 3
  | sll => 1 | srl => 5 | sra => 5

def Shift.funct7 : Shift -> BitVec 7
  | sll => 0 | srl => 0 | sra => 0x20

def RegOp.funct3 : RegOp -> BitVec 3
  | add => 0 | sub => 0 | slt => 2 | sltu => 3 | xor => 4 | or => 6 | and => 7 | shift kind => kind.funct3

def RegOp.funct7 : RegOp -> BitVec 7
  | sub => 0x20 | shift kind => kind.funct7
  | add => 0 | slt => 0 | sltu => 0 | xor => 0 | or => 0 | and => 0

namespace Instr

/-- The word that stands for an instruction. -/
@[simp] def encode : Instr -> BitVec 32
  | lui rd imm => uType rd 0x37#7 imm
  | auipc rd imm => uType rd 0x17#7 imm
  | jal rd offset => jType rd 0x6F#7 offset.val
  | jalr rd rs1 imm => iType rs1 0#3 rd 0x67#7 imm
  | branch condition rs1 rs2 offset => bType rs2 rs1 condition.funct3 0x63#7 offset.val
  | load kind rd rs1 imm => iType rs1 kind.funct3 rd 0x03#7 imm
  | store kind rs1 rs2 imm => sType rs2 rs1 kind.funct3 0x23#7 imm
  | opImm kind rd rs1 imm => iType rs1 kind.funct3 rd 0x13#7 imm
  | shiftImm kind rd rs1 shamt => iType rs1 kind.funct3 rd 0x13#7 (kind.funct7 ++ shamt)
  | op kind rd rs1 rs2 => rType kind.funct7 rs2 rs1 kind.funct3 rd 0x33#7
  | fence rd rs1 sets => iType rs1 0#3 rd 0x0F#7 sets

end Instr

/-! ## Meaning -/

def Condition.holds (left right : BitVec 32) : Condition -> Bool
  | eq => left == right
  | ne => left != right
  | lt => left.slt right
  | ge => !left.slt right
  | ltu => left.ult right
  | geu => !left.ult right

/-- The value that a load puts into `rd`, from the bytes it has read. -/
def LoadKind.extend (data : BitVec 32) : LoadKind -> BitVec 32
  | lb => (data.setWidth 8).signExtend 32
  | lh => (data.setWidth 16).signExtend 32
  | lw => data
  | lbu => (data.setWidth 8).setWidth 32
  | lhu => (data.setWidth 16).setWidth 32

/-- The loads that extend with zeros. -/
def LoadKind.unsigned : LoadKind -> Bool
  | lbu => true
  | lhu => true
  | _ => false

def Shift.eval (value : BitVec 32) (amount : BitVec 5) : Shift -> BitVec 32
  | sll => value <<< amount.toNat
  | srl => value >>> amount.toNat
  | sra => value.sshiftRight amount.toNat

def ImmOp.eval (left right : BitVec 32) : ImmOp -> BitVec 32
  | addi => left + right
  | slti => if left.slt right then 1 else 0
  | sltiu => if left.ult right then 1 else 0
  | xori => left ^^^ right
  | ori => left ||| right
  | andi => left &&& right

def RegOp.eval (left right : BitVec 32) : RegOp -> BitVec 32
  | add => left + right
  | sub => left - right
  | slt => if left.slt right then 1 else 0
  | sltu => if left.ult right then 1 else 0
  | xor => left ^^^ right
  | or => left ||| right
  | and => left &&& right
  | shift kind => kind.eval left (right.setWidth 5)

namespace Instr

/-- The value of the immediate, for the formats that have one.  The amount of a
shift is not a number with a sign. -/
@[simp] def immediate : Instr -> Option (BitVec 32)
  | lui _ imm => some (imm ++ 0#12)
  | auipc _ imm => some (imm ++ 0#12)
  | jal _ offset => some (offset.val.signExtend 32)
  | jalr _ _ imm => some (imm.signExtend 32)
  | branch _ _ _ offset => some (offset.val.signExtend 32)
  | load _ _ _ imm => some (imm.signExtend 32)
  | store _ _ _ imm => some (imm.signExtend 32)
  | opImm _ _ _ imm => some (imm.signExtend 32)
  | _ => none

@[simp] def shamt : Instr -> Option (BitVec 5)
  | shiftImm _ _ _ amount => some amount
  | _ => none

/-- The register that is written. -/
@[simp] def dest : Instr -> Option Reg
  | lui rd _ => some rd
  | auipc rd _ => some rd
  | jal rd _ => some rd
  | jalr rd _ _ => some rd
  | load _ rd _ _ => some rd
  | opImm _ rd _ _ => some rd
  | shiftImm _ rd _ _ => some rd
  | op _ rd _ _ => some rd
  | branch _ _ _ _ => none
  | store _ _ _ _ => none
  | fence _ _ _ => none

/-- The register that is read through the field `rs1`. -/
@[simp] def source1 : Instr -> Option Reg
  | jalr _ rs1 _ => some rs1
  | branch _ rs1 _ _ => some rs1
  | load _ _ rs1 _ => some rs1
  | store _ rs1 _ _ => some rs1
  | opImm _ _ rs1 _ => some rs1
  | shiftImm _ _ rs1 _ => some rs1
  | op _ _ rs1 _ => some rs1
  | lui _ _ => none
  | auipc _ _ => none
  | jal _ _ => none
  | fence _ _ _ => none

/-- The register that is read through the field `rs2`. -/
@[simp] def source2 : Instr -> Option Reg
  | branch _ _ rs2 _ => some rs2
  | store _ _ rs2 _ => some rs2
  | op _ _ _ rs2 => some rs2
  | _ => none

/-- Does the instruction load? -/
@[simp] def loads : Instr -> Bool
  | load _ _ _ _ => true
  | _ => false

/-- Does the instruction store? -/
@[simp] def stores : Instr -> Bool
  | store _ _ _ _ => true
  | _ => false

/-- Can the instruction transfer control? -/
@[simp] def transfers : Instr -> Bool
  | jal _ _ => true
  | jalr _ _ _ => true
  | branch _ _ _ _ => true
  | _ => false

section Effects

variable (pc : BitVec 32) (regs : Reg -> BitVec 32)

/-- The value that goes into `rd`, unless it comes from memory. -/
def result : Instr -> Option (BitVec 32)
  | lui _ imm => some (imm ++ 0#12)
  | auipc _ imm => some (pc + (imm ++ 0#12))
  | jal _ _ => some (pc + 4)
  | jalr _ _ _ => some (pc + 4)
  | opImm kind _ rs1 imm => some (kind.eval (regs rs1) (imm.signExtend 32))
  | shiftImm kind _ rs1 shamt => some (kind.eval (regs rs1) shamt)
  | op kind _ rs1 rs2 => some (kind.eval (regs rs1) (regs rs2))
  | _ => none

/-- The effective address of a load or a store. -/
def address : Instr -> Option (BitVec 32)
  | load _ _ rs1 imm => some (regs rs1 + imm.signExtend 32)
  | store _ rs1 _ imm => some (regs rs1 + imm.signExtend 32)
  | _ => none

/-- The word whose low bytes are stored. -/
def stored : Instr -> Option (BitVec 32)
  | store _ _ rs2 _ => some (regs rs2)
  | _ => none

/-- Where control is transferred to, if it is. -/
def target : Instr -> Option (BitVec 32)
  | jal _ offset => some (pc + offset.val.signExtend 32)
  | jalr _ rs1 imm => some ((regs rs1 + imm.signExtend 32) &&& ~~~1#32)
  | branch condition rs1 rs2 offset =>
      if condition.holds (regs rs1) (regs rs2) then some (pc + offset.val.signExtend 32) else none
  | _ => none

end Effects

end Instr

/-! ## Reading the fields back -/

def opcodeField (word : BitVec 32) : BitVec 7 := word.extractLsb' 0 7
def rdField (word : BitVec 32) : Reg := word.extractLsb' 7 5
def funct3Field (word : BitVec 32) : BitVec 3 := word.extractLsb' 12 3
def rs1Field (word : BitVec 32) : Reg := word.extractLsb' 15 5
def rs2Field (word : BitVec 32) : Reg := word.extractLsb' 20 5
def funct7Field (word : BitVec 32) : BitVec 7 := word.extractLsb' 25 7

def immIField (word : BitVec 32) : BitVec 12 := word.extractLsb' 20 12

def immSField (word : BitVec 32) : BitVec 12 := word.extractLsb' 25 7 ++ word.extractLsb' 7 5

def immBField (word : BitVec 32) : BitVec 13 :=
  word.extractLsb' 31 1 ++ word.extractLsb' 7 1 ++ word.extractLsb' 25 6 ++ word.extractLsb' 8 4 ++ 0#1

def immUField (word : BitVec 32) : BitVec 20 := word.extractLsb' 12 20

def immJField (word : BitVec 32) : BitVec 21 :=
  word.extractLsb' 31 1 ++ word.extractLsb' 12 8 ++ word.extractLsb' 20 1 ++ word.extractLsb' 21 10 ++ 0#1

/-- Two neighbouring fields are one. -/
theorem append_adjacent {w : Nat} (word : BitVec w) (start low high : Nat) :
    word.extractLsb' (start + low) high ++ word.extractLsb' start low = word.extractLsb' start (high + low) := by
  apply BitVec.eq_of_getLsbD_eq
  intro i below
  rw [BitVec.getLsbD_append, BitVec.getLsbD_extractLsb', BitVec.getLsbD_extractLsb', BitVec.getLsbD_extractLsb']
  by_cases inLow : i < low
  · simp [inLow, below]
  · have index : start + low + (i - low) = start + i := by omega
    simp [inLow, below, index, show i - low < high by omega]

/-- The bit that a branch offset does not need. -/
theorem Offset.low {w : Nat} (offset : Offset w) : 0#1 = offset.val.extractLsb' 0 1 := by
  apply BitVec.eq_of_getLsbD_eq
  intro i below
  have first : i = 0 := by omega
  rw [first, BitVec.getLsbD_extractLsb', offset.property]
  rfl

section Fields

variable (funct7 : BitVec 7) (rs2 rs1 : Reg) (funct3 : BitVec 3) (rd : Reg) (opcode : BitVec 7)

theorem rType_fields : let word := rType funct7 rs2 rs1 funct3 rd opcode
    opcodeField word = opcode ∧ rdField word = rd ∧ funct3Field word = funct3 ∧ rs1Field word = rs1 ∧
      rs2Field word = rs2 ∧ funct7Field word = funct7 := by
  simp (disch := decide) only [rType, opcodeField, rdField, funct3Field, rs1Field, rs2Field, funct7Field,
    BitVec.extractLsb'_append_eq_of_add_le, BitVec.extractLsb'_append_eq_of_le]
  simp

theorem iType_fields (imm : BitVec 12) : let word := iType rs1 funct3 rd opcode imm
    opcodeField word = opcode ∧ rdField word = rd ∧ funct3Field word = funct3 ∧ rs1Field word = rs1 ∧
      funct7Field word = imm.extractLsb' 5 7 ∧ immIField word = imm := by
  simp (disch := decide) only [iType, opcodeField, rdField, funct3Field, rs1Field, funct7Field, immIField,
    BitVec.extractLsb'_append_eq_of_add_le, BitVec.extractLsb'_append_eq_of_le]
  simp

theorem sType_fields (imm : BitVec 12) : let word := sType rs2 rs1 funct3 opcode imm
    opcodeField word = opcode ∧ funct3Field word = funct3 ∧ rs1Field word = rs1 ∧ rs2Field word = rs2 ∧
      immSField word = imm := by
  have whole : imm.extractLsb' 5 7 ++ imm.extractLsb' 0 5 = imm.extractLsb' 0 (7 + 5) := append_adjacent imm 0 5 7
  simp (disch := decide) only [sType, opcodeField, funct3Field, rs1Field, rs2Field, immSField,
    BitVec.extractLsb'_append_eq_of_add_le, BitVec.extractLsb'_append_eq_of_le]
  simp [whole]

theorem uType_fields (imm : BitVec 20) : let word := uType rd opcode imm
    opcodeField word = opcode ∧ rdField word = rd ∧ immUField word = imm := by
  simp (disch := decide) only [uType, opcodeField, rdField, immUField, BitVec.extractLsb'_append_eq_of_add_le,
    BitVec.extractLsb'_append_eq_of_le]
  simp

theorem bType_fields (offset : Offset 13) : let word := bType rs2 rs1 funct3 opcode offset.val
    opcodeField word = opcode ∧ funct3Field word = funct3 ∧ rs1Field word = rs1 ∧ rs2Field word = rs2 ∧
      immBField word = offset.val := by
  have bits : offset.val.extractLsb' 12 1 ++ offset.val.extractLsb' 11 1 ++ offset.val.extractLsb' 5 6 ++
      offset.val.extractLsb' 1 4 ++ 0#1 = offset.val := by
    rw [Offset.low offset, append_adjacent offset.val 11 1 1, append_adjacent offset.val 5 6 (1 + 1),
      append_adjacent offset.val 1 4 (1 + 1 + 6), append_adjacent offset.val 0 1 (1 + 1 + 6 + 4)]
    exact BitVec.extractLsb'_eq_self
  simp (disch := decide) only [bType, opcodeField, funct3Field, rs1Field, rs2Field, immBField,
    BitVec.extractLsb'_append_eq_of_add_le, BitVec.extractLsb'_append_eq_of_le]
  simp [bits]

theorem jType_fields (offset : Offset 21) : let word := jType rd opcode offset.val
    opcodeField word = opcode ∧ rdField word = rd ∧ immJField word = offset.val := by
  have bits : offset.val.extractLsb' 20 1 ++ offset.val.extractLsb' 12 8 ++ offset.val.extractLsb' 11 1 ++
      offset.val.extractLsb' 1 10 ++ 0#1 = offset.val := by
    rw [Offset.low offset, append_adjacent offset.val 12 8 1, append_adjacent offset.val 11 1 (1 + 8),
      append_adjacent offset.val 1 10 (1 + 8 + 1), append_adjacent offset.val 0 1 (1 + 8 + 1 + 10)]
    exact BitVec.extractLsb'_eq_self
  simp (disch := decide) only [jType, opcodeField, rdField, immJField, BitVec.extractLsb'_append_eq_of_add_le,
    BitVec.extractLsb'_append_eq_of_le]
  simp [bits]

end Fields

/-- The opcode of an instruction. -/
@[simp] def Instr.opcode : Instr -> BitVec 7
  | lui _ _ => 0x37
  | auipc _ _ => 0x17
  | jal _ _ => 0x6F
  | jalr _ _ _ => 0x67
  | branch _ _ _ _ => 0x63
  | load _ _ _ _ => 0x03
  | store _ _ _ _ => 0x23
  | opImm _ _ _ _ => 0x13
  | shiftImm _ _ _ _ => 0x13
  | op _ _ _ _ => 0x33
  | fence _ _ _ => 0x0F

theorem encode_opcode (i : Instr) : opcodeField i.encode = i.opcode := by
  cases i with
  | lui rd imm => exact (uType_fields rd 0x37#7 imm).1
  | auipc rd imm => exact (uType_fields rd 0x17#7 imm).1
  | jal rd offset => exact (jType_fields rd 0x6F#7 offset).1
  | jalr rd rs1 imm => exact (iType_fields rs1 0#3 rd 0x67#7 imm).1
  | branch condition rs1 rs2 offset => exact (bType_fields rs2 rs1 condition.funct3 0x63#7 offset).1
  | load kind rd rs1 imm => exact (iType_fields rs1 kind.funct3 rd 0x03#7 imm).1
  | store kind rs1 rs2 imm => exact (sType_fields rs2 rs1 kind.funct3 0x23#7 imm).1
  | opImm kind rd rs1 imm => exact (iType_fields rs1 kind.funct3 rd 0x13#7 imm).1
  | shiftImm kind rd rs1 shamt => exact (iType_fields rs1 kind.funct3 rd 0x13#7 (kind.funct7 ++ shamt)).1
  | op kind rd rs1 rs2 => exact (rType_fields kind.funct7 rs2 rs1 kind.funct3 rd 0x33#7).1
  | fence rd rs1 sets => exact (iType_fields rs1 0#3 rd 0x0F#7 sets).1

end Rv32i
