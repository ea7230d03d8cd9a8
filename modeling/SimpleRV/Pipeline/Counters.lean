import SimpleRV.Pipeline.WellFormed

namespace SimpleRV
namespace Pipeline

open CPUCore Iteration

/-!
# The counter of instructions and the running flag

Both belong to write-back: no later stage of the tick touches them.
-/

/-! ## Write-back stops the simulator -/

/-- The lane of MEM/WB that ends the run: the older one if both halt. -/
def haltLane (memWb : MemWbBuffer) : Option (Fin 2) :=
  if memWb.slots.s0.valid && isHalt memWb.slots.s0.instr then some 0
  else if memWb.slots.s1.valid && isHalt memWb.slots.s1.instr then some 1
  else none

theorem haltLane_some {memWb : MemWbBuffer} {lane : Fin 2} (halts : haltLane memWb = some lane) :
    (memWb.slots.get lane).valid = true ∧ isHalt (memWb.slots.get lane).instr = true := by
  unfold haltLane at halts
  split at halts
  · cases halts
    exact Bool.and_eq_true_iff.mp ‹_›
  · split at halts
    · cases halts
      exact Bool.and_eq_true_iff.mp ‹_›
    · cases halts

theorem haltLane_none {memWb : MemWbBuffer} (continues : haltLane memWb = none) (lane : Fin 2)
    (valid : (memWb.slots.get lane).valid = true) : isHalt (memWb.slots.get lane).instr = false := by
  unfold haltLane at continues
  split at continues
  · cases continues
  · split at continues
    · cases continues
    · rename_i slot0 slot1
      cases lane using laneCases with
      | zero => simpa [show memWb.slots.s0.valid = true from valid] using slot0
      | one => simpa [show memWb.slots.s1.valid = true from valid] using slot1

theorem writeBackLane_running (s : CPUCore) (lane : Fin 2) : (s.writeBackLane lane).running =
    (s.running && !((s.memWb.slots.get lane).valid && isHalt (s.memWb.slots.get lane).instr)) := by
  unfold writeBackLane
  cases valid : (s.memWb.slots.get lane).valid with
  | false => simp [valid]
  | true => cases halts : isHalt (s.memWb.slots.get lane).instr <;> simp [valid, halts]

/-- A halting instruction in either lane stops the simulator. -/
theorem writeBack_running (s : CPUCore) :
    s.writeBack.running = (s.running && (haltLane s.memWb).isNone) := by
  rcases writeBackLane_frame s 0 with ⟨regFile, count, running, frame⟩
  have sameMemWb : (s.writeBackLane 0).memWb = s.memWb := by rw [frame]
  rw [writeBack, writeBackLane_running, sameMemWb, writeBackLane_running]
  simp only [Dual.get_zero, Dual.get_one]
  unfold haltLane
  cases s.memWb.slots.s0.valid && isHalt s.memWb.slots.s0.instr with
  | true => simp
  | false => cases s.memWb.slots.s1.valid && isHalt s.memWb.slots.s1.instr <;> simp

/-! ## The later stages -/

/-- Same count of instructions, and same running flag. -/
def SameCounters (s t : CPUCore) : Prop := t.instrCount = s.instrCount ∧ t.running = s.running

theorem SameCounters.trans {s t u : CPUCore} (first : SameCounters s t) (second : SameCounters t u) :
    SameCounters s u :=
  ⟨second.1.trans first.1, second.2.trans first.2⟩

theorem LaneOutcome.counters {s : CPUCore} {lane : Fin 2} {out : CPUCore × Bool}
    (outcome : LaneOutcome s lane out) : SameCounters s out.1 := by
  cases outcome with
  | empty invalid => exact ⟨rfl, rfl⟩
  | finished value mem valid access => exact ⟨rfl, rfl⟩
  | trapped cause mem valid access => exact ⟨rfl, rfl⟩

theorem StageOutcome.counters {s : CPUCore} {out : CPUCore × Option (Fin 2)} (outcome : StageOutcome s out) :
    SameCounters s out.1 := by
  have start : SameCounters s { s with memWb := {} } := ⟨rfl, rfl⟩
  exact outcome.preserves start (fun _ _ _ _ before lane => before.trans lane.counters)

theorem execute_counters (s : CPUCore) : SameCounters s s.execute := by
  rcases committed_frame s with ⟨regFile, memory, frame⟩
  have resolved : SameCounters (committed s) s.executeResolved := by
    have resolution := executeResolved_resolution s
    generalize s.executeResolved = t at resolution
    cases resolution with
    | fallsThrough notTaken => exact ⟨rfl, rfl⟩
    | asPredicted valid taken predicted => exact ⟨rfl, rfl⟩
    | redirected target valid mispredicted destination => exact ⟨rfl, rfl⟩
  have trapped : SameCounters s.executeResolved s.execute := by
    have outcome := handleSlotTraps_outcome s.executeResolved
    unfold CPUCore.execute
    generalize s.executeResolved.handleSlotTraps = t at outcome
    cases outcome with
    | none quiet => exact ⟨rfl, rfl⟩
    | taken lane found => exact ⟨rfl, rfl⟩
  rw [frame] at resolved
  exact SameCounters.trans ⟨resolved.1, resolved.2⟩ trapped

theorem Fetch.counters {s t : CPUCore} (fetched : Fetch s t) : SameCounters s t := by
  cases fetched with
  | full valid => exact ⟨rfl, rfl⟩
  | nothing mem empty same => exact ⟨rfl, rfl⟩
  | one word mem empty same => exact ⟨rfl, rfl⟩
  | pair word0 word1 mem empty same => exact ⟨rfl, rfl⟩
  | fault found mem faults => exact ⟨rfl, rfl⟩
  | faultNearEnd found mem faults => exact ⟨rfl, rfl⟩

/-- After write-back a tick leaves both alone. -/
theorem tick_counters {s t : CPUCore} (wellFormed : WellFormed s) (running : s.running = true)
    (ran : s.tick = .ok t) : SameCounters s.atMemoryAccess t := by
  rw [tick_running running] at ran
  rcases bind_eq_ok.mp ran with ⟨out, accessed, fetched⟩
  have before := atMemoryAccess_wellFormed wellFormed
  have after := memoryAccess_wellFormed before accessed
  have issued := decodeAndIssue_wellFormed (execute_wellFormed after)
  have stage := (memoryAccess_outcome before.executedPair.oneAccess accessed).counters
  exact (stage.trans (execute_counters out.1)).trans (fetch_fetch issued.frontEnd.ordered fetched).counters

/-- And so do timer and interrupts, in front of it. -/
theorem atWriteBack_counters (s : CPUCore) : SameCounters s s.atWriteBack := by
  unfold atWriteBack checkAndHandleInterrupts
  cases selectInterrupt s.updateTimer.regFile with
  | none => exact ⟨rfl, rfl⟩
  | some cause => exact ⟨rfl, rfl⟩

theorem writeBackLane_instrCount (s : CPUCore) (lane : Fin 2) : s.instrCount <= (s.writeBackLane lane).instrCount := by
  unfold writeBackLane
  simp only
  split
  · exact Nat.le_refl _
  · split
    · exact Nat.le_refl _
    · exact Nat.le_succ _

/-- The count never goes back. -/
theorem tick_instrCount {s t : CPUCore} (wellFormed : WellFormed s) (ran : s.tick = .ok t) :
    s.instrCount <= t.instrCount := by
  have start : s.atWriteBack.instrCount = s.instrCount := (atWriteBack_counters s).1
  cases running : s.running with
  | false =>
      unfold tick at ran
      rw [if_pos (by rw [running]; rfl)] at ran
      cases ran
      exact Nat.le_of_eq start.symm
  | true =>
      rw [(tick_counters wellFormed running ran).1, ← start]
      exact Nat.le_trans (writeBackLane_instrCount s.atWriteBack 0)
        (writeBackLane_instrCount (s.atWriteBack.writeBackLane 0) 1)

end Pipeline
end SimpleRV
