import SimpleRV.Refinement.Effects

namespace SimpleRV
namespace Refinement

open IssueUnit CPUCore ExecutionEngine Pipeline InFlight

/-!
# The forwarding network

The operands that `getOperand` delivers are the registers as they will stand
once everything in MEM/WB has been written back.  Its four sources are one
function: EX/MEM holds the same instructions as MEM/WB, and what it is asked
for agrees with what has moved on.
-/

/-- The registers after write-back of MEM/WB. -/
def writtenBack (regFile : RegisterFile) (memWb : MemWbBuffer) : RegisterFile :=
  { regFile with gpr := applyWrites regFile.gpr (registerWrites memWb) }

theorem readRs1_of_ne {regFile : RegisterFile} {rs : RegNum} (nonzero : rs ≠ 0) :
    regFile.readRs1 rs = regFile.gpr rs := if_neg nonzero

/-- Write-back of one slot, seen from a register. -/
theorem applyWrites_slot {gpr : RegNum -> Word} {slot : PipelineSlot} {rs : RegNum} (nonzero : rs ≠ 0)
    (decoded : slot.valid = true -> slot.regWrite = (decode slot.instr).regWrite) :
    applyWrites gpr (slotWrites slot) rs = if forwardsWb slot rs then slot.result else gpr rs := by
  cases valid : slot.valid with
  | false => simp [slotWrites, forwardsWb, valid, applyWrites]
  | true =>
      rw [slotWrites_decoded (decoded valid)]
      cases write : slot.regWrite with
      | false => simp [forwardsWb, valid, write, applyWrites]
      | true =>
          simp only [forwardsWb, valid, write, Bool.true_and]
          by_cases same : slot.rd = rs
          · have written : (slot.rd != 0) = true := bne_iff_ne.mpr (same ▸ nonzero)
            rw [if_pos written, if_pos (beq_iff_eq.mpr same), ← same]
            exact Function.update_self slot.rd slot.result gpr
          · rw [if_neg (fun equal => same (beq_iff_eq.mp equal))]
            split
            · exact Function.update_of_ne (fun equal => same equal.symm) slot.result gpr
            · rfl

/-- Priorities 2 and 3 read the written-back registers. -/
theorem getWbOperand_eq {memWb : MemWbBuffer} (retiring : RetiringPair memWb) (regFile : RegisterFile)
    {rs : RegNum} (nonzero : rs ≠ 0) :
    getWbOperand rs memWb regFile = (writtenBack regFile memWb).readRs1 rs := by
  rw [readRs1_of_ne nonzero]
  unfold writtenBack registerWrites getWbOperand
  have slot0 := @applyWrites_slot regFile.gpr _ _ nonzero (fun valid => (retiring 0 valid).2)
  have slot1 := @applyWrites_slot (applyWrites regFile.gpr (slotWrites memWb.slots.s0)) _ _ nonzero
    (fun valid => (retiring 1 valid).2)
  simp only [Dual.get_zero, Dual.get_one] at slot0 slot1
  simp only [applyWrites_append, slot1, slot0, readRs1_of_ne nonzero]
  rfl

theorem forwards_ran {slot : PipelineSlot} (ran : slot.valid = true -> Ran slot) (rs : RegNum) :
    forwards slot rs = forwardsWb slot rs := by
  unfold forwards forwardsWb
  cases valid : slot.valid with
  | false => rfl
  | true => rw [(ran valid).rd, (ran valid).regWrite, (ran valid).d]

/-- The slots that move on to MEM/WB write what their instructions write. -/
theorem movedLatch_retiring {exMem : ExMemBuffer} (pair : EnginePair exMem) (ram : Addr -> Byte) :
    RetiringPair (movedLatch exMem ram) := by
  have moved : forall lane ram, ((inFlight exMem lane).moved ram).valid = true ->
      ((inFlight exMem lane).moved ram).rd = (decode ((inFlight exMem lane).moved ram).instr).rd ∧
        ((inFlight exMem lane).moved ram).regWrite = (decode ((inFlight exMem lane).moved ram).instr).regWrite := by
    intro lane ram valid
    unfold InFlight.moved at valid ⊢
    split
    · rename_i inUse
      exact ⟨(pair.ran lane inUse).rd, (pair.ran lane inUse).regWrite⟩
    · rename_i empty
      rw [if_neg empty] at valid
      cases valid
  intro lane valid
  cases lane using laneCases with
  | zero => exact moved 0 _ valid
  | one => exact moved 1 _ valid

/-- Slot 0 executes with the registers as they will be written back: what
EX/MEM still holds of lane 1 and offers has moved on as it is. -/
theorem getOperand_slot0_of_moved {exMem : ExMemBuffer} {memWb : MemWbBuffer} (pair : EnginePair exMem)
    (retiring : RetiringPair memWb)
    (moved : exMem.slots.s1.valid = true -> exMem.memRead.s1 = false -> memWb.slots.s1 = exMem.slots.s1)
    (regFile : RegisterFile) (rs : RegNum) :
    getOperand rs memWb regFile exMem 0 = (writtenBack regFile memWb).readRs1 rs := by
  unfold getOperand
  by_cases zero : rs = 0
  · rw [if_pos zero, zero]
    rfl
  · rw [if_neg zero, ← getWbOperand_eq retiring regFile zero]
    simp only [show ((0 : Fin 2) = 1) = False from by decide, decide_false, Bool.false_and, Bool.false_eq_true,
      if_false, show ((0 : Fin 2) != 1) = true from rfl, show ((0 : Fin 2) != 0) = false from rfl, Bool.true_and]
    split
    · -- EX/MEM still has the result that has just moved on
      rename_i both
      rcases Bool.and_eq_true_iff.mp both with ⟨forwarded, notMemory⟩
      have valid : exMem.slots.s1.valid = true := by
        cases valid : exMem.slots.s1.valid with
        | true => rfl
        | false => simp [forwards, valid] at forwarded
      have ran : Ran exMem.slots.s1 := pair.ran 1 valid
      have notLoad : exMem.memRead.s1 = false := by
        have memory : (decode exMem.slots.s1.instr).isMemory = exMem.slots.s1.d.isMemory := by
          rw [ran.d]
        have control : exMem.memRead.s1 = isLoad (decode exMem.slots.s1.instr) := (pair.controls 1 valid).1
        rw [control, isLoad, memory, (Bool.not_eq_true' _).mp notMemory, Bool.false_and]
      rw [forwards_ran (fun _ => ran)] at forwarded
      unfold getWbOperand
      rw [moved valid notLoad, if_pos forwarded]
    · rfl

theorem getOperand_slot0 {exMem : ExMemBuffer} (pair : EnginePair exMem) (ram : Addr -> Byte)
    (regFile : RegisterFile) (rs : RegNum) :
    getOperand rs (movedLatch exMem ram) regFile exMem 0 =
      (writtenBack regFile (movedLatch exMem ram)).readRs1 rs :=
  getOperand_slot0_of_moved pair (movedLatch_retiring pair ram)
    (fun valid notLoad => @moved_of_noLoad (inFlight exMem 1) valid notLoad _) regFile rs

/-- Slot 1 also sees the result of its partner. -/
theorem getOperand_slot1 {memWb : MemWbBuffer} (retiring : RetiringPair memWb) (regFile : RegisterFile)
    (exMem : ExMemBuffer) (rs : RegNum) :
    getOperand rs memWb regFile exMem 1 =
      if rs ≠ 0 ∧ forwards exMem.slots.s0 rs = true then exMem.slots.s0.result
      else (writtenBack regFile memWb).readRs1 rs := by
  unfold getOperand
  by_cases zero : rs = 0
  · rw [if_pos zero, if_neg (fun both => both.1 zero), zero]
    rfl
  · rw [if_neg zero, ← getWbOperand_eq retiring regFile zero]
    cases forwarded : forwards exMem.slots.s0 rs with
    | true =>
        have nonzero : ¬rs = 0#5 := zero
        simp [nonzero]
    | false => simp

end Refinement
end SimpleRV
