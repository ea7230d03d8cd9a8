import SimpleRV.Isa.Decoding
import SimpleRV.Pipeline.WellFormed

namespace SimpleRV
namespace Isa

open IssueUnit CPUCore ExecutionEngine Pipeline Rv32i

/-!
# The engine on encoded instructions

Executing a decoded instruction in slot 0 computes what the instruction-set
manual says: the value of `rd`, the effective address and the store operand,
and whether and where control is transferred.
-/

/-- The slot that the engine must deliver.  `isBranch` tells whether control is
transferred. -/
structure ExecutesAs (i : Instr) (pc : Addr) (regs : RegNum -> Word) (out : PipelineSlot) : Prop where
  result : forall value, i.result pc regs = some value -> out.result = value
  address : forall addr, i.address regs = some addr -> out.result = addr
  decision : out.d.isBranch = (i.target pc regs).isSome
  target : forall addr, i.target pc regs = some addr -> out.jumpTarget = addr

/-! ## The ALU -/

/-- The engine masks the amount of a shift with 31. -/
theorem and_31 (amount : Nat) : amount &&& 31 = amount % 32 := Nat.and_two_pow_sub_one_eq_mod amount 5

theorem executeRType_eq {d : DecodedData} (kind : RegOp) (funct3 : d.funct3 = kind.funct3)
    (funct7 : d.funct7 = kind.funct7) (left right : Word) :
    executeRType d left right = kind.eval left right := by
  unfold executeRType
  cases kind with
  | shift kind =>
      cases kind <;> simp [funct3, funct7, RegOp.funct3, RegOp.funct7, Shift.funct3, Shift.funct7, RegOp.eval,
        Shift.eval, BitVec.shiftLeft_eq', BitVec.ushiftRight_eq', and_31]
  | _ => simp [funct3, funct7, RegOp.funct3, RegOp.funct7, RegOp.eval, BitVec.ult, BitVec.lt_def]

theorem executeIType_opImm {d : DecodedData} (kind : ImmOp) (op : d.op = 0x13#7) (funct3 : d.funct3 = kind.funct3)
    (left old : Word) (pc : Addr) : executeIType d left old pc = kind.eval left d.imm := by
  unfold executeIType
  cases kind <;> simp [op, funct3, ImmOp.funct3, ImmOp.eval, BitVec.ult, BitVec.lt_def]

theorem executeIType_shift {d : DecodedData} (kind : Shift) (op : d.op = 0x13#7) (funct3 : d.funct3 = kind.funct3)
    (funct7 : d.funct7 = kind.funct7) (left old : Word) (pc : Addr) :
    executeIType d left old pc = kind.eval left (d.imm.setWidth 5) := by
  unfold executeIType
  cases kind <;> simp [op, funct3, funct7, Shift.funct3, Shift.funct7, Shift.eval, BitVec.shiftLeft_eq',
    BitVec.ushiftRight_eq', and_31]

theorem branchTaken_eq {d : DecodedData} (condition : Condition) (funct3 : d.funct3 = condition.funct3)
    (left right : Word) : branchTaken d left right = condition.holds left right := by
  unfold branchTaken
  cases condition <;> simp [funct3, Condition.funct3, Condition.holds, BitVec.ult, BitVec.slt, BitVec.sle,
    BitVec.lt_def, BitVec.le_def, ← decide_not]

/-! ## The slot -/

theorem target_of_noTransfer {i : Instr} (stays : i.transfers = false) (pc : Addr) (regs : RegNum -> Word) :
    i.target pc regs = none := by
  cases i <;> first | rfl | cases stays

section Slots

variable {i : Instr} {pc : Addr} {regs : RegNum -> Word} {slot : PipelineSlot} {regFile : RegisterFile}

/-- An instruction that stays where it is only has to compute its value. -/
theorem executesAs_compute (stays : i.transfers = false) (decoded : DecodesTo i slot.d)
    (noJump : ¬(slot.d.op = 0x6F ∨ slot.d.op = 0x67))
    (result : forall value, i.result pc regs = some value -> computed regs slot.d slot.result pc = value)
    (address : forall addr, i.address regs = some addr -> computed regs slot.d slot.result pc = addr) :
    ExecutesAs i pc regs (executeSlotWith regs slot regFile pc 0) := by
  have noBranch : slot.d.isBranch = false := decoded.isBranch.trans stays
  rw [executeSlotWith_compute decoded.isCsr noJump noBranch]
  refine ⟨result, address, ?_, ?_⟩
  · rw [target_of_noTransfer stays]
    exact noBranch
  · rw [target_of_noTransfer stays]
    intro addr impossible
    cases impossible

/-- LUI and AUIPC. -/
theorem executesAs_upper (stays : i.transfers = false) (decoded : DecodesTo i slot.d)
    (op : slot.d.op = 0x37#7 ∨ slot.d.op = 0x17#7)
    (result : i.result pc regs = some (if slot.d.op = 0x37#7 then slot.d.imm else pc + slot.d.imm))
    (address : i.address regs = none) : ExecutesAs i pc regs (executeSlotWith regs slot regFile pc 0) := by
  have noJump : ¬(slot.d.op = 0x6F ∨ slot.d.op = 0x67) := by
    rcases op with lui | auipc
    · rw [lui]
      decide
    · rw [auipc]
      decide
  refine executesAs_compute stays decoded noJump ?_ ?_
  · intro value same
    rw [← Option.some.inj (result.symm.trans same)]
    rcases op with lui | auipc
    · simp [computed, executeIType, lui]
    · simp [computed, executeIType, auipc]
  · intro addr impossible
    cases address.symm.trans impossible

/-- Loads and stores leave their effective address. -/
theorem executesAs_access (stays : i.transfers = false) (decoded : DecodesTo i slot.d)
    (op : slot.d.op = 0x03#7 ∨ slot.d.op = 0x23#7) (result : i.result pc regs = none)
    (address : i.address regs = some (regs slot.d.rs1 + slot.d.imm)) :
    ExecutesAs i pc regs (executeSlotWith regs slot regFile pc 0) := by
  have noJump : ¬(slot.d.op = 0x6F ∨ slot.d.op = 0x67) := by
    rcases op with load | store
    · rw [load]
      decide
    · rw [store]
      decide
  refine executesAs_compute stays decoded noJump ?_ ?_
  · intro value impossible
    cases result.symm.trans impossible
  · intro addr same
    rw [← Option.some.inj (address.symm.trans same)]
    rcases op with load | store
    · simp [computed, executeIType, load]
    · simp [computed, executeIType, store]

theorem executesAs_jump (decoded : DecodesTo i slot.d) (op : slot.d.op = 0x6F ∨ slot.d.op = 0x67)
    (result : i.result pc regs = some (pc + 4)) (address : i.address regs = none)
    (target : i.target pc regs =
      some (if slot.d.op = 0x6F#7 then pc + slot.d.imm else (regs slot.d.rs1 + slot.d.imm) &&& ~~~1#32)) :
    ExecutesAs i pc regs (executeSlotWith regs slot regFile pc 0) := by
  rw [executeSlotWith_jump decoded.isCsr op, if_pos rfl]
  constructor
  · intro value same
    exact Option.some.inj (result.symm.trans same)
  · intro addr impossible
    cases address.symm.trans impossible
  · rw [target]
    rfl
  · intro addr same
    have destination := Option.some.inj (target.symm.trans same)
    rw [← destination]
    rcases op with jal | jalr
    · simp [executeJump, jal]
    · simp [executeJump, jalr]

theorem executesAs_branch {condition : Condition} {rs1 rs2 : RegNum} {offset : Offset 13}
    (decoded : DecodesTo (.branch condition rs1 rs2 offset) slot.d) (op : slot.d.op = 0x63#7)
    (funct3 : slot.d.funct3 = condition.funct3) :
    ExecutesAs (.branch condition rs1 rs2 offset) pc regs (executeSlotWith regs slot regFile pc 0) := by
  have taken := branchTaken_eq condition funct3 (regs rs1) (regs rs2)
  rw [executeSlotWith_branch decoded.isCsr (by rw [op]; decide) decoded.isBranch, if_pos rfl, decoded.rs1 rfl,
    decoded.rs2 rfl]
  unfold executeBranch
  rw [taken, decoded.immediate _ rfl]
  constructor
  · rintro value ⟨⟩
  · rintro addr ⟨⟩
  · cases holds : condition.holds (regs rs1) (regs rs2) <;> simp [Instr.target, holds]
  · intro addr same
    cases holds : condition.holds (regs rs1) (regs rs2) with
    | true => simpa [Instr.target, holds] using same
    | false => simp [Instr.target, holds] at same

end Slots

/-- Every instruction, in slot 0. -/
theorem executeSlotWith_encoded (i : Instr) (pc : Addr) (regs : RegNum -> Word) {slot : PipelineSlot}
    (regFile : RegisterFile) (encoded : slot.d = decode i.encode) :
    ExecutesAs i pc regs (executeSlotWith regs slot regFile pc 0) := by
  have decoded : DecodesTo i slot.d := encoded ▸ decode_encode i
  have fields := decode_fields i.encode
  rw [← encoded] at fields
  cases i with
  | lui rd imm =>
      have op : slot.d.op = 0x37#7 := fields.1.trans (uType_fields rd 0x37#7 imm).1
      refine executesAs_upper rfl decoded (.inl op) ?_ rfl
      rw [if_pos op, decoded.immediate _ rfl]
      rfl
  | auipc rd imm =>
      have op : slot.d.op = 0x17#7 := fields.1.trans (uType_fields rd 0x17#7 imm).1
      refine executesAs_upper rfl decoded (.inr op) ?_ rfl
      rw [if_neg (by rw [op]; decide), decoded.immediate _ rfl]
      rfl
  | jal rd offset =>
      have op : slot.d.op = 0x6F#7 := fields.1.trans (jType_fields rd 0x6F#7 offset).1
      refine executesAs_jump decoded (.inl op) rfl rfl ?_
      rw [if_pos op, decoded.immediate _ rfl]
      rfl
  | jalr rd rs1 imm =>
      have op : slot.d.op = 0x67#7 := fields.1.trans (iType_fields rs1 0#3 rd 0x67#7 imm).1
      refine executesAs_jump decoded (.inr op) rfl rfl ?_
      rw [if_neg (by rw [op]; decide), decoded.immediate _ rfl, decoded.rs1 rfl]
      rfl
  | branch condition rs1 rs2 offset =>
      have word := bType_fields rs2 rs1 condition.funct3 0x63#7 offset
      exact executesAs_branch decoded (fields.1.trans word.1) (fields.2.1.trans word.2.1)
  | load kind rd rs1 imm =>
      have op : slot.d.op = 0x03#7 := fields.1.trans (iType_fields rs1 kind.funct3 rd 0x03#7 imm).1
      refine executesAs_access rfl decoded (.inl op) rfl ?_
      rw [decoded.rs1 rfl, decoded.immediate _ rfl]
      rfl
  | store kind rs1 rs2 imm =>
      have op : slot.d.op = 0x23#7 := fields.1.trans (sType_fields rs2 rs1 kind.funct3 0x23#7 imm).1
      refine executesAs_access rfl decoded (.inr op) rfl ?_
      rw [decoded.rs1 rfl, decoded.immediate _ rfl]
      rfl
  | opImm kind rd rs1 imm =>
      have word := iType_fields rs1 kind.funct3 rd 0x13#7 imm
      have op : slot.d.op = 0x13#7 := fields.1.trans word.1
      have funct3 : slot.d.funct3 = kind.funct3 := fields.2.1.trans word.2.2.1
      refine executesAs_compute rfl decoded (by rw [op]; decide) ?_ ?_
      · rintro value ⟨⟩
        rw [computed, if_neg (by rw [op]; decide), executeIType_opImm kind op funct3, decoded.rs1 rfl,
          decoded.immediate _ rfl]
      · rintro addr ⟨⟩
  | shiftImm kind rd rs1 shamt =>
      have word := iType_fields rs1 kind.funct3 rd 0x13#7 (kind.funct7 ++ shamt)
      have op : slot.d.op = 0x13#7 := fields.1.trans word.1
      have funct3 : slot.d.funct3 = kind.funct3 := fields.2.1.trans word.2.2.1
      have funct7 : slot.d.funct7 = kind.funct7 :=
        (fields.2.2.1.trans word.2.2.2.2.1).trans BitVec.extractLsb'_append_eq_left
      refine executesAs_compute rfl decoded (by rw [op]; decide) ?_ ?_
      · rintro value ⟨⟩
        rw [computed, if_neg (by rw [op]; decide), executeIType_shift kind op funct3 funct7, decoded.rs1 rfl,
          decoded.shamt _ rfl]
      · rintro addr ⟨⟩
  | op kind rd rs1 rs2 =>
      have word := rType_fields kind.funct7 rs2 rs1 kind.funct3 rd 0x33#7
      have op : slot.d.op = 0x33#7 := fields.1.trans word.1
      have funct3 : slot.d.funct3 = kind.funct3 := fields.2.1.trans word.2.2.1
      have funct7 : slot.d.funct7 = kind.funct7 := fields.2.2.1.trans word.2.2.2.2.2
      refine executesAs_compute rfl decoded (by rw [op]; decide) ?_ ?_
      · rintro value ⟨⟩
        rw [computed, if_pos (show slot.d.op = 0x33 from op), executeRType_eq kind funct3 funct7, decoded.rs1 rfl,
          decoded.rs2 rfl]
      · rintro addr ⟨⟩
  | fence rd rs1 sets =>
      have op : slot.d.op = 0x0F#7 := fields.1.trans (iType_fields rs1 0#3 rd 0x0F#7 sets).1
      refine executesAs_compute rfl decoded (by rw [op]; decide) ?_ ?_
      · rintro value ⟨⟩
      · rintro addr ⟨⟩

/-! ## The two targets of a predicted branch -/

/-- A slot that is issued as predicted taken carries the target that the engine
computes for it. -/
theorem issued_target {ifId : IfIdBuffer} {idEx : IdExBuffer} (valid : ifId.slots.s0.valid = true)
    (predicted : predictsTaken (IssueUnit.decodeAndIssue ifId idEx).2.slots.s0 = true) :
    let issued := (IssueUnit.decodeAndIssue ifId idEx).2
    issued.pc = ifId.pc ∧ issued.slots.s0.d = decode ifId.slots.s0.instr ∧
      issued.slots.s0.jumpTarget = ifId.pc + (decode ifId.slots.s0.instr).imm := by
  have issue := decodeAndIssue_issue ifId idEx
  generalize IssueUnit.decodeAndIssue ifId idEx = out at issue predicted
  cases issue with
  | idle empty => exact absurd (valid.symm.trans empty) (by decide)
  | stalled _ => simp [predictsTaken, invalidate] at predicted
  | predicted _ taken slot0 slot0Eq =>
      subst slot0Eq
      exact ⟨rfl, rfl, rfl⟩
  | pair _ _ notTaken _ => simp [predictsTaken, decodeInstruction, notTaken] at predicted
  | single _ notTaken => simp [predictsTaken, decodeInstruction, notTaken] at predicted

/-- What is predicted taken is a jump or a branch to its own address plus its
immediate. -/
theorem predicted_target (i : Instr) (predicted : (decode i.encode).predictedTaken = true) :
    i.immediate = some (decode i.encode).imm ∧
      forall pc regs addr, i.target pc regs = some addr -> addr = pc + (decode i.encode).imm := by
  have decoded := decode_encode i
  have transfers : i.transfers = true := decoded.isBranch.symm.trans ((decode_exclusive i.encode).predicted predicted)
  cases i with
  | jal rd offset =>
      have imm := decoded.immediate _ rfl
      rw [imm]
      refine ⟨rfl, ?_⟩
      rintro pc regs addr ⟨⟩
      rfl
  | branch condition rs1 rs2 offset =>
      have imm := decoded.immediate _ rfl
      rw [imm]
      refine ⟨rfl, ?_⟩
      intro pc regs addr same
      simp only [Instr.target] at same
      split at same
      · exact (Option.some.inj same).symm
      · cases same
  | jalr rd rs1 imm =>
      have op := (iType_fields rs1 0#3 rd 0x67#7 imm).1
      rw [Instr.encode, decode_jalr op] at predicted
      cases predicted
  | _ => cases transfers

/-- The target that the fetch is redirected to is the one that the engine finds
out. -/
theorem redirect_resolved {i : Instr} {ifId : IfIdBuffer} {older : IdExBuffer} {regs : RegNum -> Word}
    {resolved : PipelineSlot} (valid : ifId.slots.s0.valid = true) (encoded : ifId.slots.s0.instr = i.encode)
    (predicted : predictsTaken (IssueUnit.decodeAndIssue ifId older).2.slots.s0 = true)
    (resolves : ExecutesAs i (IssueUnit.decodeAndIssue ifId older).2.pc regs resolved) :
    let next := (IssueUnit.decodeAndIssue ifId older).2
    some next.slots.s0.jumpTarget = i.immediate.map (fun offset => ifId.pc + offset) ∧
      (resolved.d.isBranch = true -> next.slots.s0.jumpTarget = resolved.jumpTarget) := by
  rcases issued_target valid predicted with ⟨samePc, sameD, target⟩
  rw [encoded] at sameD target
  have taken : (decode i.encode).predictedTaken = true := by
    rw [predictsTaken] at predicted
    rw [← sameD]
    exact (Bool.and_eq_true_iff.mp (Bool.and_eq_true_iff.mp predicted).1).2
  rcases predicted_target i taken with ⟨imm, ends⟩
  refine ⟨?_, ?_⟩
  · rw [imm, target]
    rfl
  · intro transfers
    rcases Option.isSome_iff_exists.mp (resolves.decision.symm.trans transfers) with ⟨addr, there⟩
    have computedThere : resolved.jumpTarget = addr := resolves.target addr there
    rw [target, computedThere, ends _ _ addr there, samePc]

/-! ## Decode, issue and execution together -/

theorem executeSlot_zero (slot : PipelineSlot) (idEx : IdExBuffer) (memWb : MemWbBuffer) (regFile : RegisterFile)
    (exMem : ExMemBuffer) : executeSlot slot idEx memWb regFile exMem 0 =
      executeSlotWith (fun rs => getOperand rs memWb regFile exMem 0) slot regFile idEx.pc 0 := by
  unfold executeSlot
  rw [show idEx.pc + BitVec.ofNat 32 (4 * (0 : Fin 2).val) = idEx.pc from BitVec.add_zero idEx.pc]

/-- Only loads and stores have an address, and only stores an operand to store. -/
theorem memory_of_address {i : Instr} {regs : RegNum -> Word} {addr : Addr} (has : i.address regs = some addr) :
    (i.loads || i.stores) = true := by
  cases i <;> first | rfl | cases has

theorem store_of_stored {i : Instr} {regs : RegNum -> Word} {data : Word} (has : i.stored regs = some data) :
    (i.loads || i.stores) = true ∧ i.source2.map regs = some data := by
  cases i <;> first | exact ⟨rfl, has⟩ | cases has

/-- Any slot with an encoded instruction decodes to its registers, immediate
and flags, and executes in slot 0 as the manual says, on whatever operands the
forwarding network delivers.  The latch has the effective address and the store
operand beside it.  When decode predicts a branch or jump taken, the target it
redirects the fetch to is the one that the engine computes. -/
theorem base_instructions_implemented (i : Instr) (slot : PipelineSlot) (idEx : IdExBuffer) (memWb : MemWbBuffer)
    (regFile : RegisterFile) (exMem : ExMemBuffer) :
    let issued := decodeInstruction { slot with instr := i.encode }
    let regs := fun rs => getOperand rs memWb regFile exMem 0
    let latch := ExecutionEngine.execute
      { idEx with slots := idEx.slots.set 0 { issued with valid := true } } exMem memWb regFile
    (DecodesTo i issued.d ∧ issued.rd = issued.d.rd ∧ issued.regWrite = issued.d.regWrite) ∧
      ExecutesAs i idEx.pc regs (executeSlot issued idEx memWb regFile exMem 0) ∧
      ExecutesAs i idEx.pc regs latch.slots.s0 ∧
      (forall addr, i.address regs = some addr -> latch.memAddr.s0 = addr) ∧
      (forall data, i.stored regs = some data -> latch.memData.s0 = data) ∧
      (forall (ifId : IfIdBuffer) (older : IdExBuffer), ifId.slots.s0 = { slot with instr := i.encode, valid := true } ->
        let next := (IssueUnit.decodeAndIssue ifId older).2
        let resolved := executeSlot next.slots.s0 next memWb regFile exMem 0
        predictsTaken next.slots.s0 = true ->
          some next.slots.s0.jumpTarget = i.immediate.map (fun offset => ifId.pc + offset) ∧
            (resolved.d.isBranch = true -> next.slots.s0.jumpTarget = resolved.jumpTarget)) := by
  intro issued regs latch
  have decoded : DecodesTo i issued.d := decode_encode i
  have executes : forall (slot : PipelineSlot) (idEx : IdExBuffer), slot.d = decode i.encode ->
      ExecutesAs i idEx.pc regs (executeSlot slot idEx memWb regFile exMem 0) := by
    intro slot idEx encoded
    rw [executeSlot_zero]
    exact executeSlotWith_encoded i idEx.pc regs regFile encoded
  have out := executes { issued with valid := true } idEx rfl
  have engine := engine_eq { idEx with slots := idEx.slots.set 0 { issued with valid := true } } exMem memWb regFile
  simp only [Dual.set_zero, Bool.true_and] at engine
  have slot0 : latch.slots.s0 =
      { executeSlot { issued with valid := true } idEx memWb regFile exMem 0 with valid := true } := by
    rw [show latch = _ from engine]
    rfl
  refine ⟨⟨decoded, rfl, rfl⟩, executes issued idEx rfl, ?_, ?_, ?_, ?_⟩
  · rw [slot0]
    exact ⟨out.result, out.address, out.decision, out.target⟩
  · intro addr has
    have memory : issued.d.isMemory = true := decoded.isMemory.trans (memory_of_address has)
    rw [show latch = _ from engine]
    simp only [memory, if_true]
    exact out.address addr has
  · intro data has
    rcases store_of_stored has with ⟨stores, source⟩
    have memory : issued.d.isMemory = true := decoded.isMemory.trans stores
    rw [← decoded.source2] at source
    rw [show latch = _ from engine]
    simp only [memory, if_true]
    cases uses : issued.d.usesRs2 with
    | true => simpa [uses] using source
    | false => simp [uses] at source
  · intro ifId older inSlot next resolved predicted
    have sameD := (issued_target (by rw [inSlot]) predicted).2.1
    rw [inSlot] at sameD
    exact redirect_resolved (by rw [inSlot]) (by rw [inSlot]) predicted (executes next.slots.s0 next sameD)

end Isa
end SimpleRV
