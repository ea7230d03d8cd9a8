import SimpleRV.Pipeline.WellFormed

namespace SimpleRV
namespace Refinement

open IssueUnit CPUCore Pipeline

/-!
# Words and their addresses

A latch has one pc for its two slots, and slot `i` is taken to come from
`pc + 4 * i`.  What holds of the words in IF/ID at their addresses, decode
leaves true, whether it moves slot 1 down or hands the words on.  Words can be
marked, and keep their marks.
-/

/-- The address of a slot. -/
def slotPc (pc : Addr) (lane : Fin 2) : Addr := pc + BitVec.ofNat 32 (4 * lane.val)

/-- Each word in the slots has the property that its mark stands for. -/
def Traced (fact : Bool -> Addr -> Word -> Prop) (pc : Addr) (slots : Dual PipelineSlot) (old : Dual Bool) : Prop :=
  forall lane, (slots.get lane).valid = true -> fact (old.get lane) (slotPc pc lane) (slots.get lane).instr

/-- The marks of IF/ID after decode, which has moved slot 1 down if it has
advanced the pc of the latch. -/
def moveMarks (before after : IfIdBuffer) (old : Dual Bool) : Dual Bool :=
  if after.pc = before.pc then old else ⟨old.s1, old.s1⟩

section Tracing

variable {fact : Bool -> Addr -> Word -> Prop}

theorem traced_of_invalid {pc : Addr} {slots : Dual PipelineSlot} {old : Dual Bool}
    (invalid0 : slots.s0.valid = false) (invalid1 : slots.s1.valid = false) : Traced fact pc slots old :=
  forall_lane_of_invalid invalid0 invalid1

/-- With slot 1 empty only slot 0 counts. -/
theorem traced_alone {pc : Addr} {slots : Dual PipelineSlot} {old : Dual Bool} (invalid1 : slots.s1.valid = false)
    (first : slots.s0.valid = true -> fact old.s0 (slotPc pc 0) slots.s0.instr) : Traced fact pc slots old := by
  intro lane valid
  cases lane using laneCases with
  | zero => exact first valid
  | one => exact absurd valid (ne_true_of_eq_false invalid1)

/-- Decode moves words with their marks. -/
theorem issue_traced {ifId : IfIdBuffer} {idEx : IdExBuffer} {out : IfIdBuffer × IdExBuffer}
    {ifIdOld idExOld : Dual Bool} (issue : Issue ifId idEx out) (waiting : Traced fact ifId.pc ifId.slots ifIdOld)
    (issued : ifId.slots.s0.valid = false -> Traced fact idEx.pc idEx.slots idExOld) :
    Traced fact out.1.pc out.1.slots (moveMarks ifId out.1 ifIdOld) ∧
      Traced fact out.2.pc out.2.slots (if ifId.slots.s0.valid then ifIdOld else idExOld) := by
  have unmoved : forall latch : IfIdBuffer, latch.pc = ifId.pc -> moveMarks ifId latch ifIdOld = ifIdOld :=
    fun _ same => if_pos same
  cases issue with
  | idle empty =>
      rw [unmoved ifId rfl, empty, if_neg Bool.false_ne_true]
      exact ⟨waiting, issued empty⟩
  | stalled valid =>
      refine ⟨?_, traced_of_invalid rfl rfl⟩
      rw [unmoved]
      · intro lane laneValid
        cases lane using laneCases with
        | zero => exact waiting 0 laneValid
        | one => exact waiting 1 laneValid
      · rfl
  | predicted valid taken slot0 slot0Eq =>
      subst slot0Eq
      rw [valid, if_pos rfl]
      exact ⟨traced_of_invalid rfl rfl, traced_alone rfl (fun _ => waiting 0 valid)⟩
  | pair valid0 valid1 notTaken together =>
      rw [valid0, if_pos rfl]
      refine ⟨traced_of_invalid rfl rfl, ?_⟩
      intro lane laneValid
      cases lane using laneCases with
      | zero => exact waiting 0 laneValid
      | one => exact waiting 1 laneValid
  | single valid notTaken =>
      have advanced : ifId.pc + 4 ≠ ifId.pc := by
        intro same
        exact absurd (BitVec.add_right_eq_self.mp same) (by decide : ¬(4 : Addr) = 0#32)
      rw [valid, if_pos rfl, moveMarks, if_neg advanced]
      refine ⟨traced_alone rfl (fun valid1 => ?_), traced_alone rfl (fun _ => waiting 0 valid)⟩
      have second := waiting 1 valid1
      have sameAddr : slotPc (ifId.pc + 4) 0 = slotPc ifId.pc 1 := BitVec.add_zero _
      rw [sameAddr]
      exact second

end Tracing

end Refinement
end SimpleRV
