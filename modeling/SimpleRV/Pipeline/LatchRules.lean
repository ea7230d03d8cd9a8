import SimpleRV.Pipeline.WellFormed

namespace SimpleRV
namespace Pipeline

open IssueUnit CPUCore Iteration

/-!
# The issue rules in the latches

The forwarding network and the one-port memory stage rely on what may stand
together in ID/EX and EX/MEM.  The rules are stated about the words in the
slots, and hold in every reachable state.
-/

/-- Slot 1 of a latch is in use only if slot 0 is. -/
def Ordered (slots : Dual PipelineSlot) : Prop := slots.s1.valid = true -> slots.s0.valid = true

/-- The rules for a latch whose slots have been decoded.  Only the flag
`isBranch` of a slot may differ from what the decoder says: the engine clears it
in a branch that is not taken. -/
structure PairRules (slots : Dual PipelineSlot) (memRead memWrite : Dual Bool) : Prop where
  ordered : Ordered slots
  flags : forall lane, (slots.get lane).valid = true ->
    (slots.get lane).d = { decode (slots.get lane).instr with isBranch := (slots.get lane).d.isBranch } ∧
      ((slots.get lane).d.isBranch = true -> (decode (slots.get lane).instr).isBranch = true)
  oneMemory : forall lane other, (slots.get lane).valid = true -> (slots.get other).valid = true ->
    (decode (slots.get lane).instr).isMemory = true -> (decode (slots.get other).instr).isMemory = true ->
      lane = other
  partner : slots.s1.valid = true ->
    (decode slots.s1.instr).isBranch = false ∧ isSystem (decode slots.s1.instr) = false
  noLoadUse : slots.s1.valid = true -> isLoad (decode slots.s0.instr) = true -> (decode slots.s0.instr).rd ≠ 0 ->
    usesReg (decode slots.s1.instr) (decode slots.s0.instr).rd = false
  alone : slots.s0.valid = true ->
    (isSystem (decode slots.s0.instr) || (decode slots.s0.instr).predictedTaken) = true -> slots.s1.valid = false
  controls : forall lane, (slots.get lane).valid = true ->
    (memRead.get lane = true ↔ (decode (slots.get lane).instr).op = 0x03) ∧
      (memWrite.get lane = true ↔ (decode (slots.get lane).instr).op = 0x23)

/-- The rules for all latches of a core. -/
structure LatchRules (s : CPUCore) : Prop where
  ifId : Ordered s.ifId.slots
  idEx : PairRules s.idEx.slots s.idEx.memRead s.idEx.memWrite
  exMem : PairRules s.exMem.slots s.exMem.memRead s.exMem.memWrite
  memWb : Ordered s.memWb.slots

/-! ## Pairs that were issued together -/

/-- What the issue unit allows together obeys the rules. -/
theorem pairRules_of_issued {slots : Dual PipelineSlot} {memRead memWrite : Dual Bool} (ordered : Ordered slots)
    (flags : forall lane, (slots.get lane).valid = true ->
      (slots.get lane).d = { decode (slots.get lane).instr with isBranch := (slots.get lane).d.isBranch } ∧
        ((slots.get lane).d.isBranch = true -> (decode (slots.get lane).instr).isBranch = true))
    (controls : forall lane, (slots.get lane).valid = true ->
      memRead.get lane = isLoad (decode (slots.get lane).instr) ∧
        memWrite.get lane = isStore (decode (slots.get lane).instr))
    (paired : slots.s1.valid = true -> canIssueTogether (decode slots.s0.instr) (decode slots.s1.instr) = true) :
    PairRules slots memRead memWrite where
  ordered := ordered
  flags := flags
  oneMemory := by
    intro lane other valid otherValid memory otherMemory
    have both : slots.s1.valid = true -> (decode slots.s0.instr).isMemory = true ->
        (decode slots.s1.instr).isMemory = true -> False := by
      intro valid1 memory0 memory1
      have together := canIssueTogether_together (paired valid1)
      exact absurd memory1 (ne_true_of_eq_false (together.oneMemory memory0))
    cases lane using laneCases with
    | zero =>
        cases other using laneCases with
        | zero => rfl
        | one => exact (both otherValid memory otherMemory).elim
    | one =>
        cases other using laneCases with
        | zero => exact (both valid otherMemory memory).elim
        | one => rfl
  partner := by
    intro valid1
    have together := canIssueTogether_together (paired valid1)
    exact ⟨together.noBranch, together.noSystem1⟩
  noLoadUse valid1 := (canIssueTogether_together (paired valid1)).noLoadUse
  alone := by
    intro _ special
    cases valid1 : slots.s1.valid with
    | false => rfl
    | true =>
        have together := canIssueTogether_together (paired valid1)
        rw [together.noSystem0, Bool.false_or] at special
        have branch := (decode_exclusive slots.s0.instr).predicted special
        exact absurd special (ne_true_of_eq_false (together.notPredicted branch))
  controls := by
    intro lane valid
    rcases decode_memory (slots.get lane).instr with ⟨loads, stores⟩
    rcases controls lane valid with ⟨reads, writes⟩
    rw [reads, writes]
    exact ⟨loads, stores⟩

theorem IssuedPair.rules {idEx : IdExBuffer} (issued : IssuedPair idEx) :
    PairRules idEx.slots idEx.memRead idEx.memWrite := by
  refine pairRules_of_issued issued.ordered ?_ ?_ ?_
  · intro lane valid
    rw [(issued.decoded lane valid).d]
    exact ⟨rfl, id⟩
  · intro lane valid
    rw [← (issued.decoded lane valid).d]
    exact issued.controls lane valid
  · intro valid1
    have decoded0 : idEx.slots.s0.d = decode idEx.slots.s0.instr := (issued.decoded 0 (issued.ordered valid1)).d
    have decoded1 : idEx.slots.s1.d = decode idEx.slots.s1.instr := (issued.decoded 1 valid1).d
    rw [← decoded0, ← decoded1]
    exact issued.paired valid1

theorem EnginePair.rules {exMem : ExMemBuffer} (pair : EnginePair exMem) :
    PairRules exMem.slots exMem.memRead exMem.memWrite :=
  pairRules_of_issued pair.ordered (fun lane valid => ⟨(pair.ran lane valid).d, (pair.ran lane valid).isBranch⟩)
    pair.controls pair.paired

/-! ## MEM/WB -/

/-- The memory stage fills MEM/WB from slot 0 on, and a trap ends the loop. -/
theorem StageOutcome.memWb_ordered {s : CPUCore} {out : CPUCore × Option (Fin 2)} (outcome : StageOutcome s out)
    (ordered : Ordered s.exMem.slots) : Ordered out.1.memWb.slots := by
  have first0 : forall {mid : CPUCore}, LaneOutcome { s with memWb := {} } 0 (mid, false) ->
      mid.memWb.slots.s0.valid = s.exMem.slots.s0.valid ∧ mid.memWb.slots.s1 = {} ∧ mid.exMem = s.exMem := by
    intro mid first
    exact ⟨(first.moved rfl).1, first.otherLane (show (1 : Fin 2) ≠ 0 by decide), first.sameExMem⟩
  cases outcome with
  | finished mid t first second =>
      rcases first0 first with ⟨valid0, free, sameExMem⟩
      intro valid1
      have slot0 : t.memWb.slots.s0 = mid.memWb.slots.s0 := second.otherLane (show (0 : Fin 2) ≠ 1 by decide)
      have came : t.memWb.slots.s1.valid = mid.exMem.slots.s1.valid := (second.moved free).1
      change t.memWb.slots.s0.valid = true
      rw [slot0, valid0]
      exact ordered (by rw [← sameExMem, ← came]; exact valid1)
  | trapped0 t first =>
      intro valid1
      rw [first.trap.2.2.2.2.2] at valid1
      cases valid1
  | trapped1 mid t first second =>
      rcases first0 first with ⟨valid0, _, sameExMem⟩
      intro _
      have slot0 : t.memWb.slots.s0 = mid.memWb.slots.s0 := by
        rw [second.trap.2.2.2.2.2]
        rfl
      change t.memWb.slots.s0.valid = true
      rw [slot0, valid0]
      exact ordered (sameExMem ▸ second.trap.1)

theorem tick_memWb_ordered {s t : CPUCore} (wellFormed : WellFormed s) (ordered : Ordered s.memWb.slots)
    (ran : s.tick = .ok t) : Ordered t.memWb.slots := by
  cases running : s.running with
  | false =>
      unfold tick at ran
      rw [running] at ran
      cases ran
      rw [(atWriteBack_backEnd s).2]
      exact ordered
  | true =>
      rcases tick_memWb wellFormed running ran with ⟨out, accessed, sameMemWb⟩
      have pair := (atMemoryAccess_wellFormed wellFormed).executedPair.toEnginePair
      rw [sameMemWb]
      exact (memoryAccess_outcome pair.oneAccess accessed).memWb_ordered pair.ordered

theorem Reachable.memWb_ordered {s : CPUCore} (reachable : Reachable s) : Ordered s.memWb.slots := by
  rcases reachable with ⟨config, image, keyboard, reaches⟩
  have preserved : forall before after : CPUCore, WellFormed before ∧ Ordered before.memWb.slots ->
      before.tick = .ok after -> WellFormed after ∧ Ordered after.memWb.slots := by
    rintro before after ⟨wellFormed, ordered⟩ ran
    exact ⟨tick_wellFormed before after wellFormed ran, tick_memWb_ordered wellFormed ordered ran⟩
  have initial : WellFormed (init config image keyboard) ∧ Ordered (init config image keyboard).memWb.slots :=
    ⟨init_wellFormed config image keyboard, fun impossible => absurd impossible Bool.false_ne_true⟩
  exact (@Reaches.invariant _ _ tick (fun s => WellFormed s ∧ Ordered s.memWb.slots) _ s reaches initial preserved).2

/-! ## Every reachable state -/

/-- In every reachable state the latches obey the rules, and the next fetch
never finds slot 1 of IF/ID in use and slot 0 free. -/
theorem latch_rules {s : CPUCore} (reachable : Reachable s) : LatchRules s ∧
    forall y, s.atFetch = .ok y -> ¬(y.ifId.slots.s0.valid = false ∧ y.ifId.slots.s1.valid = true) := by
  have wellFormed := reachable.wellFormed
  refine ⟨⟨wellFormed.frontEnd.ordered, wellFormed.frontEnd.issued.rules,
    wellFormed.executedPair.toEnginePair.rules, reachable.memWb_ordered⟩, ?_⟩
  rintro y fetching ⟨free, inUse⟩
  have ordered := (atFetch_wellFormed wellFormed fetching).frontEnd.ordered
  exact absurd (ordered inUse) (ne_true_of_eq_false free)

/-- `lw x5, 0(x0)` and `addi x6, x0, 1` are issued together. -/
theorem latch_rules_load : Exists fun s => Reachable s ∧ s.idEx.slots.s0.instr = 0x00002283#32 ∧
    s.idEx.slots.s1.valid = true ∧ LatchRules s ∧
      forall y, s.atFetch = .ok y -> ¬(y.ifId.slots.s0.valid = false ∧ y.ifId.slots.s1.valid = true) := by
  have passed : passes (iterate tick 2 (init .default128MB (ramImage [(0, 0x00002283#32), (4, 0x00100313#32)]) {}))
      (fun s => decide (s.idEx.slots.s0.instr = 0x00002283#32 ∧ s.idEx.slots.s1.valid = true)) = true := by
    decide +kernel
  rcases exists_of_passes passed with ⟨s, run, tests⟩
  rcases of_decide_eq_true tests with ⟨load, paired⟩
  have reachable : Reachable s := ⟨_, _, _, 2, run⟩
  exact ⟨s, reachable, load, paired, latch_rules reachable⟩

end Pipeline
end SimpleRV
