import SimpleRV.Pipeline.WellFormed

namespace SimpleRV
namespace Traps

open IssueUnit CPUCore Pipeline Iteration

/-!
# Traps and returns in the execute stage

ECALL, MRET, SRET and illegal words act in EX.  `handleTrap` then empties both
lanes of EX/MEM.  That is right for a trap in slot 0, whose partner is younger.
The issue rules let an illegal word into slot 1, and there the same cleanup
takes its older partner out of the pipeline before the load, the store or the
register write of that partner has been done.
-/

/-- What an instruction still has to do after EX: its access, its register
write, or stopping the machine. -/
def hasWork (slot : PipelineSlot) : Bool :=
  slot.d.isMemory || (slot.regWrite && slot.rd != 0) || isHalt slot.instr

/-- The trap or return that a lane takes in EX leaves the older instructions
to complete.  `x` is the core when `execute` is called. -/
structure PreciseExecuteTrap (x : CPUCore) (lane : Fin 2) : Prop where
  /-- What has been through the memory stage still writes its register. -/
  retiring : x.execute.memWb = x.memWb
  /-- The slot-0 partner of a trapping slot 1 still does what it has to do. -/
  partner : lane = 1 -> hasWork x.idEx.slots.s0 = true ->
    x.execute.exMem.slots.s0 = x.executeResolved.exMem.slots.s0
  /-- The access of that partner does not trap itself. -/
  olderFirst : lane = 1 -> forall cause mem, laneAccess x.executeResolved 0 ≠ .ok (.trap cause, mem)

/-- The older instruction of the pair is the one that traps, or it has nothing
left to do after EX. -/
def OlderDone (x : CPUCore) : Prop :=
  trapsInEx x.idEx.slots.s0.d = true ∨ hasWork x.idEx.slots.s0 = false

/-- Slot 0 of an issued pair after the engine, against the pair. -/
theorem executeResolved_partner {x : CPUCore} (issued : IssuedPair x.idEx)
    (valid : x.executeResolved.exMem.slots.s0.valid = true) :
    x.idEx.slots.s0.valid = true ∧
      trapsInEx x.executeResolved.exMem.slots.s0.d = trapsInEx x.idEx.slots.s0.d ∧
      x.executeResolved.exMem.memRead.s0 = isLoad x.idEx.slots.s0.d ∧
      x.executeResolved.exMem.memWrite.s0 = isStore x.idEx.slots.s0.d := by
  rcases executeResolved_slot0 x with ⟨slotEq, readEq, writeEq⟩
  rw [slotEq, executedSlot_valid] at valid
  have valid0 : x.idEx.slots.s0.valid = true := valid
  rcases executedSlot_ran issued x.memWb x.regFile x.exMem valid with ⟨ran, instrEq⟩
  have controls := issued.controls 0 valid
  rw [slotEq, readEq, writeEq, trapsInEx_ran ran, instrEq, ← (issued.decoded 0 valid).d, valid0]
  exact ⟨rfl, rfl, (Bool.true_and _).trans controls.1, (Bool.true_and _).trans controls.2⟩

/-- An instruction with nothing left to do does not access memory. -/
theorem laneAccess_of_no_work {x : CPUCore} (issued : IssuedPair x.idEx)
    (valid : x.executeResolved.exMem.slots.s0.valid = true) (noWork : hasWork x.idEx.slots.s0 = false)
    (cause : Word) (mem : MemorySystem) : laneAccess x.executeResolved 0 ≠ .ok (.trap cause, mem) := by
  rcases executeResolved_partner issued valid with ⟨_, _, readEq, writeEq⟩
  have notMemory : x.idEx.slots.s0.d.isMemory = false := by
    simp only [hasWork, Bool.or_eq_false_iff] at noWork
    exact noWork.1.1
  rw [isLoad, notMemory, Bool.false_and] at readEq
  rw [isStore, notMemory, Bool.false_and] at writeEq
  unfold laneAccess
  simp [readEq, writeEq]

theorem execute_of_trapLane {x : CPUCore} {lane : Fin 2}
    (taken : trapLane x.executeResolved.exMem = some lane) :
    Exists fun target => x.execute = x.executeResolved.returnTo target := by
  unfold execute handleSlotTraps
  rw [taken]
  exact ⟨_, handleSlotTrap_eq _ _ (trapLane_some taken).2.2⟩

/-- In every reachable state whose execute stage takes a trap or a return, it
is precise exactly if the older instruction of the pair is done with. -/
theorem execute_trap_precise_iff {s x : CPUCore} {lane : Fin 2} (reachable : Reachable s)
    (reached : s.atExecute = .ok x) (taken : trapLane x.executeResolved.exMem = some lane) :
    PreciseExecuteTrap x lane ↔ OlderDone x := by
  have wellFormed := atExecute_wellFormed reachable.wellFormed reached
  have issued := wellFormed.frontEnd.issued
  rcases trapLane_some taken with ⟨valid0, _, _⟩
  rcases executeResolved_partner issued valid0 with ⟨_, trapsEq, _, _⟩
  rcases execute_of_trapLane taken with ⟨target, executed⟩
  have retiring := execute_memWb x
  cases lane using laneCases with
  | zero =>
      have traps : trapsInEx x.executeResolved.exMem.slots.s0.d = true := (trapLane_some taken).2.2
      constructor
      · intro _
        exact .inl (trapsEq.symm.trans traps)
      · intro _
        exact ⟨retiring, fun second => absurd second (by decide),
          fun second => absurd second (by decide)⟩
  | one =>
      have quiet : trapsInEx x.idEx.slots.s0.d = false := by
        rw [← trapsEq]
        exact trapLane_one taken
      constructor
      · intro precise
        cases work : hasWork x.idEx.slots.s0 with
        | false => exact .inr work
        | true =>
            have kept := precise.partner rfl work
            rw [executed] at kept
            have killed := congrArg PipelineSlot.valid kept
            exact absurd (killed.trans valid0) Bool.false_ne_true
      · rintro (traps | noWork)
        · exact absurd (quiet.symm.trans traps) (by decide)
        · refine ⟨retiring, fun _ work => absurd (noWork.symm.trans work) (by decide), fun _ => ?_⟩
          exact laneAccess_of_no_work issued valid0 noWork

/-! ## Two runs -/

/-- The state in whose next tick the first two words of a program execute. -/
def atPair (word0 word1 : Word) : Except Crash CPUCore :=
  iterate tick 2 (init .default128MB (ramImage [(0, word0), (4, word1)]) {})

theorem exists_of_atPair {word0 word1 : Word} {lane : Fin 2} {test : CPUCore -> Bool}
    (passed : passes (atPair word0 word1) (fun s =>
      passes s.atExecute (fun x => trapLane x.executeResolved.exMem == some lane && test x)) = true) :
    Exists fun s => Exists fun x => Reachable s ∧ s.atExecute = .ok x ∧
      trapLane x.executeResolved.exMem = some lane ∧ test x = true := by
  rcases exists_of_passes passed with ⟨s, run, tests⟩
  rcases exists_of_passes tests with ⟨x, reached, tests⟩
  rcases Bool.and_eq_true_iff.mp tests with ⟨taken, test⟩
  exact ⟨s, x, ⟨_, _, _, 2, run⟩, reached, beq_iff_eq.mp taken, test⟩

/-- An illegal word in slot 0 traps precisely. -/
theorem execute_trap_precise_iff_slot0 : Exists fun s => Exists fun x => Reachable s ∧ s.atExecute = .ok x ∧
    trapLane x.executeResolved.exMem = some 0 ∧ PreciseExecuteTrap x 0 := by
  have passed : passes (atPair 0xFFFFFFFF#32 0x00700293#32) (fun s =>
      passes s.atExecute (fun x => trapLane x.executeResolved.exMem == some 0 &&
        trapsInEx x.idEx.slots.s0.d)) = true := by
    decide +kernel
  rcases exists_of_atPair passed with ⟨s, x, reachable, reached, taken, traps⟩
  exact ⟨s, x, reachable, reached, taken, (execute_trap_precise_iff reachable reached taken).mpr (.inl traps)⟩

/-- `addi x5, x0, 7` next to an illegal word is lost, with its write of `x5`. -/
theorem illegal_partner_cancels_addi : Exists fun s => Exists fun x => Reachable s ∧ s.atExecute = .ok x ∧
    trapLane x.executeResolved.exMem = some 1 ∧
      (x.idEx.slots.s0.valid = true ∧ x.idEx.slots.s0.instr = 0x00700293#32 ∧
        (x.execute.exMem.slots.s0.valid = false)) ∧ ¬PreciseExecuteTrap x 1 := by
  have passed : passes (atPair 0x00700293#32 0xFFFFFFFF#32) (fun s =>
      passes s.atExecute (fun x => trapLane x.executeResolved.exMem == some 1 &&
        (x.idEx.slots.s0.valid && decide (x.idEx.slots.s0.instr = 0x00700293#32) &&
          !x.execute.exMem.slots.s0.valid && hasWork x.idEx.slots.s0))) = true := by
    decide +kernel
  rcases exists_of_atPair passed with ⟨s, x, reachable, reached, taken, test⟩
  simp only [Bool.and_eq_true, decide_eq_true_eq, Bool.not_eq_true'] at test
  rcases test with ⟨⟨⟨valid, word⟩, killed⟩, work⟩
  refine ⟨s, x, reachable, reached, taken, ⟨valid, word, killed⟩, fun precise => ?_⟩
  have kept := congrArg PipelineSlot.valid (precise.partner rfl work)
  rw [killed, (trapLane_some taken).1] at kept
  cases kept

end Traps
end SimpleRV
