import SimpleRV.Library.BitFields
import SimpleRV.Library.Rv32i
import SimpleRV.Machine.IssueUnit

namespace SimpleRV
namespace Isa

open IssueUnit Rv32i

/-!
# The decoder on encoded instructions

`decodeInstruction` takes an encoded instruction apart into the registers and
the immediate it was made from, and its flags say which of the registers are
read and written.
-/

/-! ## Fields and immediates of a word -/

theorem decodeFields_eq (word : Word) : decodeFields word =
    { op := opcodeField word, rs1 := rs1Field word, rs2 := rs2Field word, rd := rdField word
      funct3 := funct3Field word, funct7 := funct7Field word } := by
  have opcode : word.setWidth 7 = word.extractLsb' 0 7 := BitFields.setWidth_shiftRight word 0 7
  unfold decodeFields opcodeField rs1Field rs2Field rdField funct3Field funct7Field
  simp only [BitFields.setWidth_shiftRight, opcode]

/-- No opcode changes the fields that the decoder cuts out first. -/
theorem decode_fields (word : Word) : let d := decode word
    d.op = opcodeField word ∧ d.funct3 = funct3Field word ∧ d.funct7 = funct7Field word ∧
      d.rs1 = rs1Field word ∧ d.rs2 = rs2Field word ∧ d.rd = rdField word := by
  have system : forall d, (decodeSystem word d).op = d.op ∧ (decodeSystem word d).funct3 = d.funct3 ∧
      (decodeSystem word d).funct7 = d.funct7 ∧ (decodeSystem word d).rs1 = d.rs1 ∧
      (decodeSystem word d).rs2 = d.rs2 ∧ (decodeSystem word d).rd = d.rd := by
    intro d
    unfold decodeSystem
    split
    · split <;> exact ⟨rfl, rfl, rfl, rfl, rfl, rfl⟩
    · exact ⟨rfl, rfl, rfl, rfl, rfl, rfl⟩
  rw [decode, decodeFields_eq]
  unfold decodeOpcode
  simp only
  split
  case h_10 => exact system _
  all_goals exact ⟨rfl, rfl, rfl, rfl, rfl, rfl⟩

section Immediates

variable (word : Word)

theorem immI_eq : immI word = (immIField word).signExtend 32 := by
  apply BitVec.eq_of_getLsbD_eq
  intro i below
  simp only [immI, immIField, BitVec.getLsbD_sshiftRight, BitVec.getLsbD_signExtend, BitVec.getLsbD_extractLsb',
    BitVec.msb_eq_getLsbD_last]
  grind

theorem immS_eq : immS word = (immSField word).signExtend 32 := by
  have low5 := @BitFields.getLsbD_ones 32 5 (by decide)
  apply BitVec.eq_of_getLsbD_eq
  intro i below
  simp only [immS, immSField, BitVec.getLsbD_sshiftRight, BitVec.getLsbD_signExtend, BitVec.getLsbD_extractLsb',
    BitVec.msb_eq_getLsbD_last, BitVec.getLsbD_or, BitVec.getLsbD_and, BitVec.getLsbD_shiftLeft,
    BitVec.getLsbD_ushiftRight, BitVec.getLsbD_append]
  grind

theorem immB_eq : immB word = (immBField word).signExtend 32 := by
  have low1 := @BitFields.getLsbD_ones 32 1 (by decide)
  have low4 := @BitFields.getLsbD_ones 32 4 (by decide)
  have low6 := @BitFields.getLsbD_ones 32 6 (by decide)
  apply BitVec.eq_of_getLsbD_eq
  intro i below
  simp only [immB, immBField, BitVec.getLsbD_sshiftRight, BitVec.getLsbD_signExtend, BitVec.getLsbD_extractLsb',
    BitVec.msb_eq_getLsbD_last, BitVec.getLsbD_or, BitVec.getLsbD_and, BitVec.getLsbD_shiftLeft,
    BitVec.getLsbD_ushiftRight, BitVec.getLsbD_append]
  grind

theorem immJ_eq : immJ word = (immJField word).signExtend 32 := by
  have low1 := @BitFields.getLsbD_ones 32 1 (by decide)
  have low8 := @BitFields.getLsbD_ones 32 8 (by decide)
  have low10 := @BitFields.getLsbD_ones 32 10 (by decide)
  apply BitVec.eq_of_getLsbD_eq
  intro i below
  simp only [immJ, immJField, BitVec.getLsbD_sshiftRight, BitVec.getLsbD_signExtend, BitVec.getLsbD_extractLsb',
    BitVec.msb_eq_getLsbD_last, BitVec.getLsbD_or, BitVec.getLsbD_and, BitVec.getLsbD_shiftLeft,
    BitVec.getLsbD_ushiftRight, BitVec.getLsbD_append]
  grind

theorem immU_eq : word &&& 0xFFFFF000#32 = immUField word ++ 0#12 := by
  have high : 0xFFFFF000#32 = ~~~BitVec.ofNat 32 (2 ^ 12 - 1) := rfl
  apply BitVec.eq_of_getLsbD_eq
  intro i below
  simp only [high, immUField, BitVec.getLsbD_and, BitVec.getLsbD_not, BitVec.getLsbD_append,
    BitVec.getLsbD_extractLsb', BitFields.getLsbD_ones (show 12 <= 32 by decide)]
  grind

end Immediates

/-- The amount of a shift stands in the low bits of its immediate. -/
theorem setWidth_shamt (funct7 : BitVec 7) (shamt : BitVec 5) :
    ((funct7 ++ shamt).signExtend 32).setWidth 5 = shamt := by
  apply BitVec.eq_of_getLsbD_eq
  intro i below
  rw [BitVec.getLsbD_setWidth, BitVec.getLsbD_signExtend, BitVec.getLsbD_append]
  simp [below, show i < 12 by omega, show i < 32 by omega]

/-! ## What an instruction decodes to -/

/-- The decoded data that an instruction must have.  The registers and the
immediate are those encoded, and the flags say exactly which registers are read
and written and what kind of instruction it is. -/
structure DecodesTo (i : Instr) (d : DecodedData) : Prop where
  immediate : forall value, i.immediate = some value -> d.imm = value
  shamt : forall amount, i.shamt = some amount -> d.imm.setWidth 5 = amount
  dest : (if d.regWrite then some d.rd else none) = i.dest
  source1 : (if d.usesRs1 then some d.rs1 else none) = i.source1
  source2 : (if d.usesRs2 then some d.rs2 else none) = i.source2
  isMemory : d.isMemory = (i.loads || i.stores)
  isLoad : isLoad d = i.loads
  isStore : isStore d = i.stores
  isBranch : d.isBranch = i.transfers
  noSystem : isSystem d = false ∧ d.isSfence = false ∧ d.isIllegal = false

theorem DecodesTo.rs1 {i : Instr} {d : DecodedData} {reg : RegNum} (decoded : DecodesTo i d)
    (reads : i.source1 = some reg) : d.rs1 = reg := by
  have source := decoded.source1.trans reads
  split at source
  · exact Option.some.inj source
  · cases source

theorem DecodesTo.rs2 {i : Instr} {d : DecodedData} {reg : RegNum} (decoded : DecodesTo i d)
    (reads : i.source2 = some reg) : d.rs2 = reg := by
  have source := decoded.source2.trans reads
  split at source
  · exact Option.some.inj source
  · cases source

theorem DecodesTo.isCsr {i : Instr} {d : DecodedData} (decoded : DecodesTo i d) : d.isCsr = false :=
  (Bool.or_eq_false_iff.mp decoded.noSystem.1).2

section Opcodes

variable {word : Word}

theorem decode_upper (op : opcodeField word = 0x37#7 ∨ opcodeField word = 0x17#7) :
    decode word = { decodeFields word with regWrite := true, imm := immUField word ++ 0#12 } := by
  rcases op with op | op <;> simp [decode, decodeOpcode, decodeFields_eq, predict, immU_eq, op]

theorem decode_jal (op : opcodeField word = 0x6F#7) : decode word =
    { decodeFields word with
      regWrite := true, isBranch := true, imm := (immJField word).signExtend 32, predictedTaken := true } := by
  simp [decode, decodeOpcode, decodeFields_eq, predict, immJ_eq, op]

theorem decode_jalr (op : opcodeField word = 0x67#7) : decode word =
    { decodeFields word with
      usesRs1 := true, regWrite := true, isBranch := true, imm := (immIField word).signExtend 32 } := by
  simp [decode, decodeOpcode, decodeFields_eq, predict, immI_eq, op]

theorem decode_branch (op : opcodeField word = 0x63#7) : decode word =
    { decodeFields word with
      usesRs1 := true, usesRs2 := true, isBranch := true, imm := (immBField word).signExtend 32
      predictedTaken := ((immBField word).signExtend 32).slt 0 } := by
  simp [decode, decodeOpcode, decodeFields_eq, predict, immB_eq, op]

theorem decode_load (op : opcodeField word = 0x03#7) : decode word =
    { decodeFields word with
      usesRs1 := true, regWrite := true, isMemory := true, imm := (immIField word).signExtend 32 } := by
  simp [decode, decodeOpcode, decodeFields_eq, predict, immI_eq, op]

theorem decode_store (op : opcodeField word = 0x23#7) : decode word =
    { decodeFields word with
      usesRs1 := true, usesRs2 := true, isMemory := true, imm := (immSField word).signExtend 32 } := by
  simp [decode, decodeOpcode, decodeFields_eq, predict, immS_eq, op]

theorem decode_opImm (op : opcodeField word = 0x13#7) : decode word =
    { decodeFields word with usesRs1 := true, regWrite := true, imm := (immIField word).signExtend 32 } := by
  simp [decode, decodeOpcode, decodeFields_eq, predict, immI_eq, op]

theorem decode_op (op : opcodeField word = 0x33#7) : decode word =
    { decodeFields word with usesRs1 := true, usesRs2 := true, regWrite := true } := by
  simp [decode, decodeOpcode, decodeFields_eq, predict, op]

theorem decode_fence (op : opcodeField word = 0x0F#7) : decode word = decodeFields word := by
  simp [decode, decodeOpcode, decodeFields_eq, predict, op]

end Opcodes

theorem decode_encode (i : Instr) : DecodesTo i (decode i.encode) := by
  cases i with
  | lui rd imm =>
      rcases uType_fields rd 0x37#7 imm with ⟨op, rdEq, immEq⟩
      rw [Instr.encode, decode_upper (.inl op), decodeFields_eq]
      constructor <;> simp [isLoad, isStore, isSystem, rdEq, immEq]
  | auipc rd imm =>
      rcases uType_fields rd 0x17#7 imm with ⟨op, rdEq, immEq⟩
      rw [Instr.encode, decode_upper (.inr op), decodeFields_eq]
      constructor <;> simp [isLoad, isStore, isSystem, rdEq, immEq]
  | jal rd offset =>
      rcases jType_fields rd 0x6F#7 offset with ⟨op, rdEq, immEq⟩
      rw [Instr.encode, decode_jal op, decodeFields_eq]
      constructor <;> simp [isLoad, isStore, isSystem, rdEq, immEq]
  | jalr rd rs1 imm =>
      rcases iType_fields rs1 0#3 rd 0x67#7 imm with ⟨op, rdEq, _, rs1Eq, _, immEq⟩
      rw [Instr.encode, decode_jalr op, decodeFields_eq]
      constructor <;> simp [isLoad, isStore, isSystem, rdEq, rs1Eq, immEq]
  | branch condition rs1 rs2 offset =>
      rcases bType_fields rs2 rs1 condition.funct3 0x63#7 offset with ⟨op, _, rs1Eq, rs2Eq, immEq⟩
      rw [Instr.encode, decode_branch op, decodeFields_eq]
      constructor <;> simp [isLoad, isStore, isSystem, rs1Eq, rs2Eq, immEq]
  | load kind rd rs1 imm =>
      rcases iType_fields rs1 kind.funct3 rd 0x03#7 imm with ⟨op, rdEq, _, rs1Eq, _, immEq⟩
      rw [Instr.encode, decode_load op, decodeFields_eq]
      constructor <;> simp [isLoad, isStore, isSystem, rdEq, rs1Eq, immEq]
  | store kind rs1 rs2 imm =>
      rcases sType_fields rs2 rs1 kind.funct3 0x23#7 imm with ⟨op, _, rs1Eq, rs2Eq, immEq⟩
      rw [Instr.encode, decode_store op, decodeFields_eq]
      constructor <;> simp [isLoad, isStore, isSystem, rs1Eq, rs2Eq, immEq]
  | opImm kind rd rs1 imm =>
      rcases iType_fields rs1 kind.funct3 rd 0x13#7 imm with ⟨op, rdEq, _, rs1Eq, _, immEq⟩
      rw [Instr.encode, decode_opImm op, decodeFields_eq]
      constructor <;> simp [isLoad, isStore, isSystem, rdEq, rs1Eq, immEq]
  | shiftImm kind rd rs1 shamt =>
      rcases iType_fields rs1 kind.funct3 rd 0x13#7 (kind.funct7 ++ shamt) with ⟨op, rdEq, _, rs1Eq, _, immEq⟩
      rw [Instr.encode, decode_opImm op, decodeFields_eq]
      constructor <;> simp [isLoad, isStore, isSystem, rdEq, rs1Eq, immEq, setWidth_shamt]
  | op kind rd rs1 rs2 =>
      rcases rType_fields kind.funct7 rs2 rs1 kind.funct3 rd 0x33#7 with ⟨op, rdEq, _, rs1Eq, rs2Eq, _⟩
      rw [Instr.encode, decode_op op, decodeFields_eq]
      constructor <;> simp [isLoad, isStore, isSystem, rdEq, rs1Eq, rs2Eq]
  | fence rd rs1 sets =>
      rcases iType_fields rs1 0#3 rd 0x0F#7 sets with ⟨op, _⟩
      rw [Instr.encode, decode_fence op, decodeFields_eq]
      constructor <;> simp [isLoad, isStore, isSystem]

end Isa
end SimpleRV
