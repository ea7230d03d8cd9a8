import SimpleRV.Refinement.Forwarding
import SimpleRV.Refinement.SequentialStep

namespace SimpleRV
namespace Refinement

open RegisterFile IssueUnit CPUCore ExecutionEngine Pipeline InFlight

/-!
# The engine against the sequential machine

An executed slot may carry leftovers of earlier instructions in the fields
that its own instruction does not set.  Two slots agree if they are the same
in the fields that later stages look at.
-/

/-- The two slots have the same effect. -/
structure Agrees (out ref : PipelineSlot) : Prop where
  instr : out.instr = ref.instr
  d : out.d = ref.d
  rd : out.rd = ref.rd
  regWrite : out.regWrite = ref.regWrite
  result : ref.regWrite = true ∨ ref.d.isMemory = true -> out.result = ref.result
  jumpTarget : ref.d.isBranch = true -> out.jumpTarget = ref.jumpTarget
  csrWriteVal : ref.d.isCsr = true -> out.csrWriteVal = ref.csrWriteVal

/-- An opcode with a result that is used ignores the old one. -/
theorem computed_old {d : DecodedData} (operand : RegNum -> Word) (left right : Word) (pc : Addr)
    (used : d.op = 0x33 ∨ d.op = 0x13 ∨ d.op = 0x03 ∨ d.op = 0x23 ∨ d.op = 0x37 ∨ d.op = 0x17) :
    computed operand d left pc = computed operand d right pc := by
  unfold computed executeIType
  rcases used with op | op | op | op | op | op <;> simp [op]

/-- Execution in any lane, with any leftovers, agrees with execution in slot 0
of the sequential machine.  Lane 1 has no branches. -/
theorem executeSlotWith_agrees {out ref : PipelineSlot} {left right : RegNum -> Word}
    {leftFile rightFile : RegisterFile} {pc : Addr} {slotId : Fin 2} (decodedOut : Decoded out)
    (decodedRef : Decoded ref) (sameInstr : out.instr = ref.instr) (same : SameSources ref.d left right)
    (sameCsr : ref.d.isCsr = true -> leftFile.readCsr ref.d.csrAddr = rightFile.readCsr ref.d.csrAddr)
    (inLane0 : slotId = 0 ∨ ref.d.isBranch = false) :
    Agrees (executeSlotWith left out leftFile pc slotId) (executeSlotWith right ref rightFile pc 0) := by
  have sameD : out.d = ref.d := by rw [decodedOut.d, decodedRef.d, sameInstr]
  have sameRd : out.rd = ref.rd := by rw [decodedOut.rd, decodedRef.rd, sameInstr]
  have sameWrite : out.regWrite = ref.regWrite := by rw [decodedOut.regWrite, decodedRef.regWrite, sameInstr]
  have exclusive := decode_exclusive ref.instr
  have sources := decode_sources ref.instr
  have results := decode_results ref.instr
  have writes : ref.regWrite = ref.d.regWrite := by rw [decodedRef.regWrite, decodedRef.d]
  rw [← decodedRef.d] at exclusive sources results
  rw [executeSlotWith_congr decodedOut.d (sameD ▸ same)]
  cases slotKind ref.d with
  | csr csr =>
      rw [executeSlotWith_csr csr, executeSlotWith_csr (sameD ▸ csr), sameD]
      have noBranch : ref.d.isBranch = false := by
        cases branch : ref.d.isBranch with
        | false => rfl
        | true => exact absurd ((exclusive.branch branch).2.1.symm.trans csr) Bool.false_ne_true
      refine ⟨sameInstr, sameD, sameRd, sameWrite, fun _ => sameCsr csr, ?_, fun _ => ?_⟩
      · intro branch
        exact absurd branch (ne_true_of_eq_false noBranch)
      · simp only [executeCSR, sameCsr csr]
  | jump plain op =>
      have lane : slotId = 0 := inLane0.resolve_right (fun noBranch =>
        absurd (noBranch.symm.trans (sources.2.2.1 op)) Bool.false_ne_true)
      rw [executeSlotWith_jump plain op, executeSlotWith_jump (sameD ▸ plain) (sameD ▸ op), sameD, if_pos lane,
        if_pos rfl]
      refine ⟨sameInstr, ?_, sameRd, sameWrite, fun _ => rfl, fun _ => ?_, fun csr => ?_⟩
      · simp only [executeJump, sameD]
      · rcases op with jal | jalr
        · simp only [executeJump, jal, if_true]
        · simp [executeJump, jalr]
      · exact absurd csr (ne_true_of_eq_false plain)
  | branch plain noJump isBranch =>
      have lane : slotId = 0 := inLane0.resolve_right (fun noBranch =>
        absurd isBranch (ne_true_of_eq_false noBranch))
      have noWrite := (results.2.1 isBranch noJump).1
      have noMemory : ref.d.isMemory = false := by
        cases memory : ref.d.isMemory with
        | false => rfl
        | true => exact absurd ((exclusive.memory memory).1.symm.trans isBranch) Bool.false_ne_true
      rw [executeSlotWith_branch plain noJump isBranch,
        executeSlotWith_branch (sameD ▸ plain) (sameD ▸ noJump) (sameD ▸ isBranch), sameD, if_pos lane, if_pos rfl]
      unfold executeBranch
      cases branchTaken ref.d (right ref.d.rs1) (right ref.d.rs2) with
      | true =>
          refine ⟨sameInstr, ?_, sameRd, sameWrite, ?_, fun _ => rfl, fun csr => ?_⟩
          · simp only [if_true, sameD]
          · simp [writes, noWrite, noMemory]
          · exact absurd csr (ne_true_of_eq_false plain)
      | false =>
          refine ⟨sameInstr, ?_, sameRd, sameWrite, ?_, Bool.false_ne_true.elim, fun csr => ?_⟩
          · simp only [Bool.false_eq_true, if_false, sameD]
          · simp [writes, noWrite, noMemory]
          · exact absurd csr (ne_true_of_eq_false plain)
  | compute plain noJump noBranch =>
      rw [executeSlotWith_compute plain noJump noBranch,
        executeSlotWith_compute (sameD ▸ plain) (sameD ▸ noJump) (sameD ▸ noBranch), sameD]
      refine ⟨sameInstr, rfl, sameRd, sameWrite, fun used => ?_, fun branch => ?_, fun csr => ?_⟩
      · exact computed_old right _ _ pc (results.1 plain noBranch (writes ▸ used))
      · exact absurd branch (ne_true_of_eq_false noBranch)
      · exact absurd csr (ne_true_of_eq_false plain)

/-! ## Instructions in flight -/

structure SameEffect (op ref : InFlight) : Prop where
  valid : op.slot.valid = ref.slot.valid
  slot : Agrees op.slot ref.slot
  memRead : op.memRead = ref.memRead
  memWrite : op.memWrite = ref.memWrite
  memAddr : ref.memRead = true ∨ ref.memWrite = true -> op.memAddr = ref.memAddr
  memData : ref.memWrite = true -> op.memData = ref.memData

theorem SameEffect.value {op ref : InFlight} (same : SameEffect op ref) (ram : Addr -> Byte)
    (used : ref.slot.regWrite = true) : op.value ram = ref.value ram := by
  unfold InFlight.value
  rw [same.memRead, same.slot.instr]
  by_cases load : ref.memRead = true
  · simp only [load, if_true, same.memAddr (.inl load)]
  · simp only [load, Bool.false_eq_true, if_false, same.slot.result (.inl used)]

theorem SameEffect.apply {op ref : InFlight} (same : SameEffect op ref) (data : DataState) :
    op.apply data = ref.apply data := by
  have writes : slotWrites (op.moved data.ram) = slotWrites (ref.moved data.ram) := by
    unfold InFlight.moved
    rw [same.valid]
    by_cases inUse : ref.slot.valid = true
    · rw [if_pos inUse, if_pos inUse]
      unfold slotWrites
      simp only [same.valid, same.slot.instr, same.slot.regWrite, same.slot.rd]
      by_cases used : ref.slot.regWrite = true
      · rw [same.value data.ram used]
      · simp [used]
    · rw [if_neg inUse, if_neg inUse]
  unfold InFlight.apply
  rw [writes, same.valid, same.memWrite, same.slot.instr]
  by_cases stores : ref.memWrite = true
  · rw [same.memAddr (.inr stores), same.memData stores]
  · simp [stores]

theorem SameEffect.canAccess {op ref : InFlight} (same : SameEffect op ref) (can : CanAccess ref) : CanAccess op where
  load loads := by
    have loadsRef : ref.memRead = true := same.memRead ▸ loads
    rw [same.memAddr (.inl loadsRef), same.slot.instr]
    exact can.load loadsRef
  store stores := by
    have storesRef : ref.memWrite = true := same.memWrite ▸ stores
    rw [same.memAddr (.inr storesRef), same.slot.instr]
    exact can.store storesRef

/-- The old latch that a lane of the engine looks at. -/
def seenBy (idEx : IdExBuffer) (memWb : MemWbBuffer) (regFile : RegisterFile) (exMem : ExMemBuffer) :
    Fin 2 -> ExMemBuffer
  | 0 => exMem
  | 1 => seenBySlot1 idEx memWb regFile exMem

theorem engine_inFlight (idEx : IdExBuffer) (exMem : ExMemBuffer) (memWb : MemWbBuffer) (regFile : RegisterFile)
    (lane : Fin 2) : let seen := seenBy idEx memWb regFile exMem lane
    inFlight (ExecutionEngine.execute idEx exMem memWb regFile) lane = {
      slot := executedSlot idEx memWb regFile seen lane
      memRead := (idEx.slots.get lane).valid && idEx.memRead.get lane
      memWrite := (idEx.slots.get lane).valid && idEx.memWrite.get lane
      memAddr := if (idEx.slots.get lane).valid && (idEx.slots.get lane).d.isMemory then
        (executedSlot idEx memWb regFile seen lane).result else 0
      memData := if (idEx.slots.get lane).valid && (idEx.slots.get lane).d.isMemory then
        getOperand (idEx.slots.get lane).d.rs2 memWb regFile seen lane else 0 } := by
  rw [engine_eq]
  cases lane using laneCases with
  | zero => rfl
  | one => rfl

/-- A lane whose operands are the registers of the sequential machine does
what the sequential machine does. -/
theorem engine_sameEffect {idEx : IdExBuffer} {exMem : ExMemBuffer} {memWb : MemWbBuffer} {regFile : RegisterFile}
    {lane : Fin 2} {r : SeqState} (issued : IssuedPair idEx) (valid : (idEx.slots.get lane).valid = true)
    (samePc : idEx.pc + BitVec.ofNat 32 (4 * lane.val) = r.pc) (sameInstr : (idEx.slots.get lane).instr = r.instr)
    (operands : forall rs, usesReg r.slot.d rs = true ->
      getOperand rs memWb regFile (seenBy idEx memWb regFile exMem lane) lane = r.regFile.readRs1 rs)
    (sameCsr : r.slot.d.isCsr = true -> regFile.readCsr r.slot.d.csrAddr = r.regFile.readCsr r.slot.d.csrAddr)
    (inLane0 : lane = 0 ∨ r.slot.d.isBranch = false) :
    SameEffect (inFlight (ExecutionEngine.execute idEx exMem memWb regFile) lane) r.inFlight := by
  have decoded := issued.decoded lane valid
  have controls := issued.controls lane valid
  have sameD : (idEx.slots.get lane).d = r.slot.d := by rw [decoded.d, sameInstr]; rfl
  have same : SameSources r.slot.d (fun rs => getOperand rs memWb regFile (seenBy idEx memWb regFile exMem lane) lane)
      r.regFile.readRs1 := by
    constructor
    · intro uses
      exact operands _ (by simp [usesReg, uses])
    · intro uses
      exact operands _ (by simp [usesReg, uses])
  have agrees := @executeSlotWith_agrees (idEx.slots.get lane) r.slot _ _ regFile r.regFile r.pc lane decoded
    ⟨rfl, rfl, rfl⟩ sameInstr same sameCsr inLane0
  have slotEq : executedSlot idEx memWb regFile (seenBy idEx memWb regFile exMem lane) lane =
      { executeSlotWith (fun rs => getOperand rs memWb regFile (seenBy idEx memWb regFile exMem lane) lane)
        (idEx.slots.get lane) regFile r.pc lane with valid := true } := by
    rw [← samePc]
    exact if_pos valid
  rw [engine_inFlight, slotEq]
  have memoryResult : r.slot.d.isMemory = true -> r.executed.d.isMemory = true := by
    intro memory
    rw [(executed_frame r).d]
    exact memory
  refine ⟨(executed_valid r).symm, ⟨agrees.instr, agrees.d, agrees.rd, agrees.regWrite, agrees.result,
    agrees.jumpTarget, agrees.csrWriteVal⟩, ?_, ?_, ?_, ?_⟩
  · simp only [valid, Bool.true_and, controls.1, sameD]
    rfl
  · simp only [valid, Bool.true_and, controls.2, sameD]
    rfl
  · intro accesses
    have memory : r.slot.d.isMemory = true := by
      rcases accesses with loads | stores
      · exact (Bool.and_eq_true_iff.mp loads).1
      · exact (Bool.and_eq_true_iff.mp stores).1
    simp only [valid, sameD, memory, Bool.true_and, if_true]
    exact agrees.result (.inr (memoryResult memory))
  · intro stores
    have memory : r.slot.d.isMemory = true := (Bool.and_eq_true_iff.mp stores).1
    simp only [valid, sameD, memory, Bool.true_and, if_true]
    exact same.2 ((decode_results r.instr).2.2 stores)

/-! ## The operands of slot 1 -/

/-- A register after one more instruction. -/
theorem apply_gpr {op : InFlight} (valid : op.slot.valid = true) (ran : Ran op.slot) (data : DataState)
    {rs : RegNum} (nonzero : rs ≠ 0) :
    (op.apply data).gpr rs = if forwards op.slot rs then op.value data.ram else data.gpr rs := by
  have moved : op.moved data.ram = { op.slot with result := op.value data.ram } := if_pos valid
  have write := @applyWrites_slot data.gpr (op.moved data.ram) rs nonzero (by
    rw [moved]
    exact fun _ => ran.regWrite)
  have sameForward : forwardsWb (op.moved data.ram) rs = forwards op.slot rs := by
    rw [moved, forwards_ran (fun _ => ran)]
    rfl
  rw [sameForward, moved] at write
  rw [← write, ← moved]
  rfl

/-- Slot 1 reads the registers as the sequential machine has them after the
instruction in slot 0. -/
theorem partner_operand {idEx : IdExBuffer} {exMem : ExMemBuffer} {memWb : MemWbBuffer} {regFile : RegisterFile}
    {r next : SeqState} (issued : IssuedPair idEx) (retiring : RetiringPair memWb)
    (valid1 : idEx.slots.s1.valid = true) (completes : Completes r next)
    (written : (writtenBack regFile memWb).gpr = r.regFile.gpr)
    (same : SameEffect (inFlight (ExecutionEngine.execute idEx exMem memWb regFile) 0) r.inFlight)
    {rs : RegNum} (uses : usesReg idEx.slots.s1.d rs = true) :
    getOperand rs memWb regFile (seenBySlot1 idEx memWb regFile exMem) 1 = next.regFile.readRs1 rs := by
  have valid0 : idEx.slots.s0.valid = true := issued.ordered valid1
  have together := canIssueTogether_together (issued.paired valid1)
  have partner : (seenBySlot1 idEx memWb regFile exMem).slots.s0 = executedSlot idEx memWb regFile exMem 0 := by
    rw [seenBySlot1, if_pos valid0]
    rfl
  rcases @executedSlot_ran idEx issued memWb regFile exMem 0 valid0 with ⟨ran, sameInstr⟩
  have outValid : (executedSlot idEx memWb regFile exMem 0).valid = true :=
    (executedSlot_valid idEx memWb regFile exMem 0).trans valid0
  have opEq := engine_inFlight idEx exMem memWb regFile 0
  have nextGpr : next.regFile.gpr =
      ((inFlight (ExecutionEngine.execute idEx exMem memWb regFile) 0).apply r.data).gpr := by
    rw [same.apply, ← completes.data]
    rfl
  generalize inFlight (ExecutionEngine.execute idEx exMem memWb regFile) 0 = op at opEq nextGpr
  have slotEq : op.slot = executedSlot idEx memWb regFile exMem 0 := by rw [opEq]; rfl
  rw [getOperand_slot1 retiring, partner, ← slotEq]
  by_cases zero : rs = 0
  · rw [if_neg (fun both => both.1 zero), zero]
    rfl
  · rw [readRs1_of_ne zero, readRs1_of_ne zero, nextGpr, apply_gpr (slotEq ▸ outValid) (slotEq ▸ ran) _ zero,
      written]
    by_cases forwarded : forwards op.slot rs = true
    · rw [if_pos ⟨zero, forwarded⟩, if_pos forwarded]
      -- a load would not have been issued together with an instruction that uses it
      have noLoad : op.memRead = false := by
        cases loads : op.memRead with
        | false => rfl
        | true =>
            have isLoad0 : isLoad idEx.slots.s0.d = true := by
              rw [opEq] at loads
              exact (issued.controls 0 valid0).1.symm.trans (Bool.and_eq_true_iff.mp loads).2
            have rdEq : idEx.slots.s0.d.rd = rs := by
              simp only [forwards, Bool.and_eq_true, beq_iff_eq] at forwarded
              rw [show idEx.slots.s0.d = _ from (issued.decoded 0 valid0).d, ← sameInstr, ← forwarded.2, slotEq,
                ran.d]
            have unused := together.noLoadUse isLoad0 (rdEq ▸ zero)
            rw [rdEq] at unused
            exact absurd uses (ne_true_of_eq_false unused)
      rw [value_of_noLoad noLoad]
    · rw [if_neg (fun both => forwarded both.2), if_neg forwarded]
      rfl

end Refinement
end SimpleRV
