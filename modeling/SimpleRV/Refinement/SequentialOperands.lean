import SimpleRV.Refinement.Forwarding

namespace SimpleRV
namespace Refinement

open IssueUnit CPUCore ExecutionEngine Pipeline Iteration

/-!
# Operands are sequential

In every reachable state the operands that the engine reads are the registers
as the older instructions leave them: those that await write-back, lane 0
first, and for slot 1 the instruction that has just been executed in slot 0.
There is nothing here about privilege or translation; a load may take its data
from anywhere.
-/

/-! ## What moves on from the memory stage -/

/-- An access that is not a load leaves the result of the engine. -/
theorem laneAccess_noLoad {s : CPUCore} {lane : Fin 2} {value : Word} {mem : MemorySystem}
    (noLoad : s.exMem.memRead.get lane = false) (access : laneAccess s lane = .ok (.done value, mem)) :
    value = (s.exMem.slots.get lane).result := by
  have ends := laneAccess_end access
  cases ends with
  | load reads loaded => exact absurd reads (ne_true_of_eq_false noLoad)
  | store notRead writes stored => rfl
  | none notRead notWrite => rfl

/-- Behind the memory stage either the pair in ID/EX has been flushed by a
trap, or what is in lane 1 of EX/MEM and is no load is in MEM/WB as well. -/
theorem memoryAccess_moved {s t : CPUCore} {trapped : Option (Fin 2)} (one : OneAccess s.exMem)
    (ran : s.memoryAccess = .ok (t, trapped)) :
    t.idEx = {} ∨ (t.exMem.slots.s1.valid = true -> t.exMem.memRead.s1 = false -> t.memWb.slots.s1 = t.exMem.slots.s1) := by
  have outcome := memoryAccess_outcome one ran
  cases outcome with
  | trapped0 _ first => exact .inl first.trap.2.2.2.2.1.2
  | trapped1 mid _ first second => exact .inl second.trap.2.2.2.2.1.2
  | finished mid _ first second =>
      refine .inr ?_
      cases second with
      | empty invalid =>
          intro valid
          exact absurd (valid.symm.trans invalid) (by decide)
      | finished value mem valid access =>
          intro _ noLoad
          have same := @laneAccess_noLoad mid 1 value mem noLoad access
          change { mid.exMem.slots.s1 with result := value } = mid.exMem.slots.s1
          rw [same]
          rfl

/-! ## The operands of a pair -/

/-- The latches after the first round of the loop in `execute`: the new latch,
and the old one with lane 0 overwritten. -/
def firstRound (e : CPUCore) : ExMemBuffer × ExMemBuffer :=
  executeLane e.idEx e.memWb e.regFile 0 ({ pc := e.idEx.pc }, e.exMem)

/-- The latch from which a lane is forwarded to. -/
def forwardingLatch (e : CPUCore) (lane : Fin 2) : ExMemBuffer :=
  if lane = 1 then (firstRound e).2 else e.exMem

/-- The instruction that has been executed in slot 0, as it will await
write-back.  A load gets its data in the next tick; it is left open here. -/
def completedSlot0 (e : CPUCore) (loaded : Word) : PipelineSlot :=
  let out := (firstRound e).1.slots.s0
  if isLoad out.d then { out with result := loaded } else out

/-- The registers that the instruction in a lane has to see. -/
def sequentialRegisters (e : CPUCore) (lane : Fin 2) (loaded : Word) : RegisterFile :=
  let settled := applyWrites (applyWrites e.regFile.gpr (slotWrites e.memWb.slots.s0)) (slotWrites e.memWb.slots.s1)
  { e.regFile with
    gpr := if lane = 1 then applyWrites settled (slotWrites (completedSlot0 e loaded)) else settled }

theorem firstRound_eq {e : CPUCore} (valid : e.idEx.slots.s0.valid = true) :
    (firstRound e).1.slots.s0 = executedSlot e.idEx e.memWb e.regFile e.exMem 0 ∧
      (firstRound e).2 = seenBySlot1 e.idEx e.memWb e.regFile e.exMem := by
  unfold firstRound executeLane seenBySlot1 executedSlot
  cases memory : e.idEx.slots.s0.d.isMemory <;> simp [valid, memory]

theorem writtenBack_eq (e : CPUCore) (loaded : Word) :
    writtenBack e.regFile e.memWb = sequentialRegisters e 0 loaded := by
  rw [writtenBack, registerWrites, applyWrites_append]
  rfl

theorem sequentialRegisters_one (e : CPUCore) (loaded : Word) : (sequentialRegisters e 1 loaded).gpr =
    applyWrites (writtenBack e.regFile e.memWb).gpr (slotWrites (completedSlot0 e loaded)) := by
  rw [writtenBack, registerWrites, applyWrites_append]
  rfl

/-- The issue rules keep a load apart from an instruction that uses its data. -/
theorem load_partner {idEx : IdExBuffer} (issued : IssuedPair idEx) (valid : idEx.slots.s1.valid = true)
    {out : PipelineSlot} (ran : Ran out) (sameInstr : out.instr = idEx.slots.s0.instr)
    (loads : isLoad out.d = true) {rs : RegNum} (nonzero : rs ≠ 0) (uses : usesReg idEx.slots.s1.d rs = true) :
    out.rd ≠ rs := by
  intro same
  have together := canIssueTogether_together (issued.paired valid)
  have decoded : Decoded idEx.slots.s0 := issued.decoded 0 (issued.ordered valid)
  have sameRd : idEx.slots.s0.d.rd = rs := by
    rw [← same, ran.rd, sameInstr, decoded.d]
  have sameLoad : isLoad idEx.slots.s0.d = true := by
    rw [decoded.d, ← sameInstr, ← loads, ran.d]
    rfl
  have unused := together.noLoadUse sameLoad (sameRd ▸ nonzero)
  rw [sameRd, uses] at unused
  cases unused

/-- Slot 1 sees the write of slot 0 on top of what awaits write-back.  It never
needs the data of a load next to it. -/
theorem getOperand_partner {e : CPUCore} (issued : IssuedPair e.idEx) (retiring : RetiringPair e.memWb)
    (valid : e.idEx.slots.s1.valid = true) {rs : RegNum} (uses : usesReg e.idEx.slots.s1.d rs = true)
    (loaded : Word) :
    getOperand rs e.memWb e.regFile (firstRound e).2 1 = (sequentialRegisters e 1 loaded).readRs1 rs := by
  have valid0 := issued.ordered valid
  rcases firstRound_eq valid0 with ⟨outEq, seenEq⟩
  have slot0 : (firstRound e).2.slots.s0 = (firstRound e).1.slots.s0 := by
    rw [seenEq, outEq, seenBySlot1, if_pos valid0]
    rfl
  have executed := @executedSlot_ran e.idEx issued e.memWb e.regFile e.exMem 0 valid0
  rw [← outEq] at executed
  rcases executed with ⟨ran, sameInstr⟩
  have wrote : (completedSlot0 e loaded).regWrite = (decode (completedSlot0 e loaded).instr).regWrite := by
    unfold completedSlot0
    simp only
    split
    · exact ran.regWrite
    · exact ran.regWrite
  rw [getOperand_slot1 retiring, slot0]
  by_cases zero : rs = 0
  · rw [if_neg (fun both => both.1 zero), zero]
    rfl
  · rw [readRs1_of_ne zero, readRs1_of_ne zero]
    rw [sequentialRegisters_one, applyWrites_slot zero (fun _ => wrote), forwards_ran (fun _ => ran)]
    simp only [ne_eq, zero, not_false_eq_true, true_and]
    unfold completedSlot0
    simp only
    cases loads : isLoad (firstRound e).1.slots.s0.d with
    | false => rfl
    | true =>
        have apart := load_partner issued valid ran sameInstr loads zero uses
        have silent : forwardsWb (firstRound e).1.slots.s0 rs = false := by
          simp [forwardsWb, apart]
        rw [if_neg (ne_true_of_eq_false silent), if_neg]
        exact ne_true_of_eq_false silent

/-- In every reachable state, when the engine runs, the operands of both lanes
are the registers that sequential execution would have at that point. -/
theorem getOperand_sequential {s e : CPUCore} (reachable : Reachable s) (reached : s.atExecute = .ok e)
    (lane : Fin 2) (valid : (e.idEx.slots.get lane).valid = true) {rs : RegNum}
    (uses : usesReg (e.idEx.slots.get lane).d rs = true) (loaded : Word) :
    getOperand rs e.memWb e.regFile (forwardingLatch e lane) lane =
      (sequentialRegisters e lane loaded).readRs1 rs := by
  have wellFormed := atExecute_wellFormed reachable.wellFormed reached
  have issued := wellFormed.frontEnd.issued
  rcases map_eq_ok.mp reached with ⟨⟨t, trapped⟩, accessed, same⟩
  cases same
  have before := atMemoryAccess_wellFormed reachable.wellFormed
  cases lane using laneCases with
  | zero =>
      rw [← writtenBack_eq]
      rcases memoryAccess_moved before.executedPair.oneAccess accessed with flushed | moved
      · rw [flushed] at valid
        cases valid
      · exact getOperand_slot0_of_moved wellFormed.executedPair.toEnginePair wellFormed.retiringPair moved _ rs
  | one => exact getOperand_partner issued wellFormed.retiringPair valid uses loaded

/-- `addi x5, x0, 7` and `addi x6, x5, 1` execute together: slot 1 gets the 7
that has not been written yet. -/
theorem getOperand_sequential_pair : Exists fun s => Exists fun e => Reachable s ∧ s.atExecute = .ok e ∧
    e.regFile.readRs1 5 = 0 ∧ getOperand 5 e.memWb e.regFile (forwardingLatch e 1) 1 = 7 ∧
      getOperand 5 e.memWb e.regFile (forwardingLatch e 1) 1 = (sequentialRegisters e 1 0).readRs1 5 := by
  have passed : passes (iterate tick 2 (init .default128MB (ramImage [(0, 0x00700293#32), (4, 0x00128313#32)]) {}))
      (fun s => passes s.atExecute (fun e => e.idEx.slots.s1.valid && usesReg e.idEx.slots.s1.d 5 &&
        decide (e.regFile.readRs1 5 = 0 ∧ getOperand 5 e.memWb e.regFile (forwardingLatch e 1) 1 = 7))) = true := by
    decide +kernel
  rcases exists_of_passes passed with ⟨s, run, tests⟩
  rcases exists_of_passes tests with ⟨e, reached, tests⟩
  simp only [Bool.and_eq_true, decide_eq_true_eq] at tests
  rcases tests with ⟨⟨valid, uses⟩, before, forwarded⟩
  have reachable : Reachable s := ⟨_, _, _, 2, run⟩
  exact ⟨s, e, reachable, reached, before, forwarded, getOperand_sequential reachable reached 1 valid uses 0⟩

end Refinement
end SimpleRV
