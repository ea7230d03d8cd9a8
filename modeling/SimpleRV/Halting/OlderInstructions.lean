import SimpleRV.Halting.QuietTicks

namespace SimpleRV
namespace Halting

open IssueUnit CPUCore Pipeline Iteration

/-!
# The run without younger instructions

By the time that an instruction halts the simulator, younger instructions are
in every latch.  The end of the run is compared here with the end that it has
when all of them are taken out two ticks earlier, as the halting instruction
stands in EX/MEM.
-/

/-- The core without what is younger than a lane of EX/MEM, and with nothing
left to fetch. -/
def onlyOlder (s : CPUCore) (lane : Fin 2) : CPUCore :=
  { s with
    pc := MEMORY_SIZE
    ifId := {}
    idEx := {}
    exMem := if lane = 0 then { s.exMem with slots := s.exMem.slots.set 1 {} } else s.exMem }

/-- Same registers, privilege and CSRs, same RAM, timer and UART output. -/
structure SameArchitecture (s t : CPUCore) : Prop where
  regFile : t.regFile = s.regFile
  storage : SameStorage s.memory t.memory

/-- A front end that holds nothing and fetches nothing. -/
structure FrontDrained (s : CPUCore) : Prop where
  pc : s.pc = MEMORY_SIZE
  ifId : s.ifId = {}
  idEx : s.idEx = {}

theorem onlyOlder_drained (s : CPUCore) (lane : Fin 2) : FrontDrained (onlyOlder s lane) := ⟨rfl, rfl, rfl⟩

/-! ## Stages that see nothing younger -/

/-- Behind the memory stage a drained core only empties EX/MEM. -/
theorem FrontDrained.rest {s : CPUCore} (drained : FrontDrained s) :
    s.execute.decodeAndIssue.fetch = .ok { s with exMem := {} } := by
  have invalid : forall lane, (s.idEx.slots.get lane).valid = false := by
    rw [drained.idEx]
    decide
  have executed := execute_of_invalid invalid
  have issued : s.execute.decodeAndIssue = s.execute := by
    rw [executed]
    apply decodeAndIssue_of_empty
    · rw [drained.ifId]
    · exact invalid 0
  have atEnd : ¬s.pc + 8 <= MEMORY_SIZE ∧ ¬s.pc + 4 <= MEMORY_SIZE := by
    rw [drained.pc]
    decide
  rw [issued, executed, drained.idEx]
  unfold fetch
  simp only [drained.ifId, Bool.false_eq_true, if_false, atEnd.1, atEnd.2]

theorem FrontDrained.tick {s e : CPUCore} (running : s.running = true) (drained : FrontDrained e)
    (accessed : s.atMemoryAccess.memoryAccess = .ok (e, none)) : s.tick = .ok { e with exMem := {} } := by
  rw [tick_running running, accessed]
  exact drained.rest

theorem onlyOlder_writeBackLane (s : CPUCore) (lane i : Fin 2) :
    (onlyOlder s lane).writeBackLane i = onlyOlder (s.writeBackLane i) lane := by
  unfold writeBackLane
  cases valid : (s.memWb.slots.get i).valid with
  | false => simp [onlyOlder, valid]
  | true => cases halts : isHalt (s.memWb.slots.get i).instr <;> simp [onlyOlder, valid, halts]

/-- Taking out younger instructions does not change what comes before the
memory stage. -/
theorem onlyOlder_atMemoryAccess {s : CPUCore} (noInterrupt : selectInterrupt s.updateTimer.regFile = none)
    (lane : Fin 2) : (onlyOlder s lane).atMemoryAccess = onlyOlder s.atMemoryAccess lane := by
  have sameStart : (onlyOlder s lane).updateTimer = onlyOlder s.updateTimer lane := rfl
  have noInterruptEither : selectInterrupt (onlyOlder s lane).updateTimer.regFile = none := noInterrupt
  rw [atMemoryAccess, atMemoryAccess, atWriteBack_quiet noInterrupt, atWriteBack_quiet noInterruptEither,
    sameStart, writeBack, writeBack, onlyOlder_writeBackLane, onlyOlder_writeBackLane]

/-! ## The memory stage -/

/-- A lane that stays makes the same access. -/
theorem onlyOlder_memoryAccessLane {s t : CPUCore} {lane i : Fin 2} (stays : i.val <= lane.val)
    (one : OneAccess s.exMem) (outcome : LaneOutcome s i (t, false)) :
    (onlyOlder s lane).memoryAccessLane i = .ok (onlyOlder t lane, false) := by
  have sameSlot : (onlyOlder s lane).exMem.slots.get i = s.exMem.slots.get i := by
    cases lane using laneCases with
    | zero =>
        cases i using laneCases with
        | zero => rfl
        | one => exact absurd stays (by decide)
    | one => rfl
  have sameControls : (onlyOlder s lane).exMem.memRead = s.exMem.memRead ∧
      (onlyOlder s lane).exMem.memWrite = s.exMem.memWrite ∧ (onlyOlder s lane).exMem.memAddr = s.exMem.memAddr ∧
      (onlyOlder s lane).exMem.memData = s.exMem.memData := by
    cases lane using laneCases with
    | zero => exact ⟨rfl, rfl, rfl, rfl⟩
    | one => exact ⟨rfl, rfl, rfl, rfl⟩
  rcases sameControls with ⟨sameRead, sameWrite, sameAddr, sameData⟩
  cases outcome with
  | empty invalid => exact memoryAccessLane_invalid (sameSlot ▸ invalid)
  | finished value mem valid access =>
      have sameAccess : laneAccess (onlyOlder s lane) i = laneAccess s i := by
        unfold laneAccess
        rw [sameSlot, sameRead, sameWrite, sameAddr, sameData]
        rfl
      rw [memoryAccessLane_eq (sameSlot ▸ valid) (by rw [sameRead, sameWrite]; exact one i valid), sameAccess, access]
      change Except.ok _ = _
      simp only [afterAccess, sameSlot]
      rfl

/-- A lane that makes no store leaves the storage alone, and the registers. -/
theorem sameArchitecture_of_noStore {s t : CPUCore} {lane : Fin 2} (outcome : LaneOutcome s lane (t, false))
    (noStore : (s.exMem.slots.get lane).valid = true -> s.exMem.memWrite.get lane = false) : SameArchitecture s t := by
  cases outcome with
  | empty invalid => exact ⟨rfl, .refl _⟩
  | finished value mem valid access =>
      refine ⟨rfl, ?_⟩
      have ends := laneAccess_end access
      cases ends with
      | load reads loaded => exact loadAccess_sameStorage loaded
      | store notRead writes stored => exact absurd writes (ne_true_of_eq_false (noStore valid))
      | none notRead notWrite => exact .refl _

/-- So does a memory stage that makes no store at all. -/
theorem memoryAccess_noStore {s t : CPUCore} (one : OneAccess s.exMem) (accessed : s.memoryAccess = .ok (t, none))
    (noStore : forall lane, (s.exMem.slots.get lane).valid = true -> s.exMem.memWrite.get lane = false) :
    SameArchitecture s t := by
  rcases memoryAccess_lanes one accessed with ⟨mid, first, second, sameExMem, _, _⟩
  have before := sameArchitecture_of_noStore first (noStore 0)
  have after := sameArchitecture_of_noStore second (by rw [sameExMem]; exact noStore 1)
  exact ⟨after.regFile.trans before.regFile, before.storage.trans after.storage⟩

/-- The memory stage with the younger lane taken out ends like the whole stage,
if that lane makes no store. -/
theorem onlyOlder_memoryAccess {s t : CPUCore} {lane : Fin 2} (one : OneAccess s.exMem)
    (accessed : s.memoryAccess = .ok (t, none))
    (noStore : lane = 0 -> s.exMem.slots.s1.valid = true -> s.exMem.memWrite.s1 = false) :
    Exists fun older => (onlyOlder s lane).memoryAccess = .ok (onlyOlder older lane, none) ∧
      SameArchitecture older t ∧ older.running = t.running ∧ older.memWb.slots.s0 = t.memWb.slots.s0 ∧
      older.memWb.slots.s1 = if lane = 0 then {} else t.memWb.slots.s1 := by
  rcases memoryAccess_lanes one accessed with ⟨mid, first, second, sameExMem, fresh, kept⟩
  have first' := @onlyOlder_memoryAccessLane { s with memWb := {} } mid lane 0 (Nat.zero_le _) one first
  cases lane using laneCases with
  | zero =>
      have second' : (onlyOlder mid 0).memoryAccessLane 1 = .ok (onlyOlder mid 0, false) := memoryAccessLane_invalid rfl
      have same := sameArchitecture_of_noStore second (by rw [sameExMem]; exact noStore rfl)
      have running : mid.running = t.running := by
        rcases second.frame with ⟨_, _, tEq⟩
        rw [tEq]
      exact ⟨mid, @memoryAccess_of_lanes (onlyOlder s 0) _ _ first' second', same, running, kept.symm, fresh⟩
  | one =>
      have second' := @onlyOlder_memoryAccessLane _ _ 1 1 (Nat.le_refl _) (by rw [sameExMem]; exact one) second
      exact ⟨t, @memoryAccess_of_lanes (onlyOlder s 1) _ _ first' second', ⟨rfl, .refl _⟩, rfl, rfl, rfl⟩

/-! ## The last two ticks -/

/-- What an instruction in slot 1 of MEM/WB must not be, if slot 0 halts. -/
structure QuietPartner (slot : PipelineSlot) : Prop where
  noStore : isStore (decode slot.instr) = false
  noWrite : slot.regWrite = false ∨ slot.rd = 0

/-- The last two ticks of a run, from `s` and from `t`, let nothing younger than
the halting instruction take effect. -/
structure UndisturbedHalt (s t : CPUCore) : Prop where
  before : QuietTick s
  last : QuietTick t
  partner : haltLane t.memWb = some 0 -> t.memWb.slots.s1.valid = true -> QuietPartner t.memWb.slots.s1
  noStore : forall lane, (t.exMem.slots.get lane).valid = true -> t.exMem.memWrite.get lane = false

/-- A slot of MEM/WB is the slot of EX/MEM from which it has come. -/
theorem memoryAccess_moved {s t : CPUCore} (one : OneAccess s.exMem) (accessed : s.memoryAccess = .ok (t, none))
    (lane : Fin 2) : (t.memWb.slots.get lane).valid = (s.exMem.slots.get lane).valid ∧
      ((s.exMem.slots.get lane).valid = true ->
        (t.memWb.slots.get lane).instr = (s.exMem.slots.get lane).instr) := by
  rcases memoryAccess_lanes one accessed with ⟨mid, first, second, sameExMem, fresh, kept⟩
  cases lane using laneCases with
  | zero =>
      rw [kept]
      exact first.moved rfl
  | one =>
      rw [← sameExMem]
      exact second.moved fresh

/-- Over a quiet tick the slots of EX/MEM become those of MEM/WB. -/
theorem QuietTick.moved {s t : CPUCore} (quiet : QuietTick s) (formed : WellFormed s) (running : s.running = true)
    (ticked : s.tick = .ok t) (lane : Fin 2) : (t.memWb.slots.get lane).valid = (s.exMem.slots.get lane).valid ∧
      ((s.exMem.slots.get lane).valid = true ->
        (t.memWb.slots.get lane).instr = (s.exMem.slots.get lane).instr) := by
  rcases quiet.outcome formed running ticked with ⟨e, accessed, _, memWb, _⟩
  have one := (atMemoryAccess_wellFormed formed).executedPair.oneAccess
  rw [memWb, ← (atMemoryAccess_backEnd s).1]
  exact memoryAccess_moved one accessed lane

theorem updateTimer_same {s t : CPUCore} (same : SameArchitecture s t) :
    SameArchitecture s.updateTimer t.updateTimer := by
  have storage : SameStorage s.memory.incrementTimer t.memory.incrementTimer :=
    ⟨same.storage.memory, congrArg (· + 1) same.storage.mtime, same.storage.mtimecmp, same.storage.uartOutput⟩
  refine ⟨?_, storage⟩
  unfold updateTimer MemorySystem.timerInterruptPending
  simp only [storage.mtime, storage.mtimecmp, same.regFile]

/-- Two cores that agree go on to agree through write-back. -/
theorem atMemoryAccess_same {s t : CPUCore} (same : SameArchitecture s t)
    (noInterrupt : selectInterrupt t.updateTimer.regFile = none)
    (writes : registerWrites t.memWb = registerWrites s.memWb) :
    selectInterrupt s.updateTimer.regFile = none ∧ SameArchitecture s.atMemoryAccess t.atMemoryAccess := by
  have updated := updateTimer_same same
  have noInterruptEither : selectInterrupt s.updateTimer.regFile = none := updated.regFile ▸ noInterrupt
  have updatedWrites : registerWrites t.updateTimer.memWb = registerWrites s.updateTimer.memWb := writes
  refine ⟨noInterruptEither, ?_, ?_⟩
  · rw [atMemoryAccess, atMemoryAccess, writeBack_regFile, writeBack_regFile, atWriteBack_quiet noInterrupt,
      atWriteBack_quiet noInterruptEither, updated.regFile, updatedWrites]
  · rcases writeBack_frame s.atWriteBack with ⟨_, _, _, first⟩
    rcases writeBack_frame t.atWriteBack with ⟨_, _, _, second⟩
    rw [atMemoryAccess, atMemoryAccess, first, second, atWriteBack_quiet noInterrupt,
      atWriteBack_quiet noInterruptEither]
    exact updated.storage

/-- The first of the two ticks, with and without the younger instructions. -/
theorem onlyOlder_tick {s t : CPUCore} {lane : Fin 2} (formed : WellFormed s) (quiet : QuietTick s)
    (ticked : s.tick = .ok t) (running : t.running = true)
    (noStore : lane = 0 -> s.exMem.slots.s1.valid = true -> s.exMem.memWrite.s1 = false) :
    Exists fun older => (onlyOlder s lane).tick = .ok older ∧ FrontDrained older ∧ older.exMem = {} ∧
      older.running = true ∧ SameArchitecture older t ∧ older.memWb.slots.s0 = t.memWb.slots.s0 ∧
      older.memWb.slots.s1 = if lane = 0 then {} else t.memWb.slots.s1 := by
  have start := running_of_tick ticked running
  have before := atMemoryAccess_wellFormed formed
  have one := before.executedPair.oneAccess
  rcases quiet.outcome formed start ticked with ⟨e, accessed, regFile, memWb, storage⟩
  rcases onlyOlder_memoryAccess one accessed (by rw [(atMemoryAccess_backEnd s).1]; exact noStore) with
    ⟨older, olderAccessed, same, sameRunning, slot0, slot1⟩
  have stillRunning : e.running = true := by
    have counters := tick_counters formed start ticked
    rcases memoryAccess_frame one accessed with ⟨_, _, eEq⟩
    rw [eEq]
    exact counters.2.symm.trans running
  rw [← onlyOlder_atMemoryAccess quiet.noInterrupt] at olderAccessed
  refine ⟨{ onlyOlder older lane with exMem := {} }, ?_, ⟨rfl, rfl, rfl⟩, rfl, sameRunning.trans stillRunning,
    ⟨regFile.trans same.regFile, same.storage.trans storage⟩, ?_, ?_⟩
  · exact (onlyOlder_drained older lane).tick start olderAccessed
  · rw [memWb]
    exact slot0
  · rw [memWb]
    exact slot1

/-- The last tick of a core that has nothing left but MEM/WB. -/
theorem FrontDrained.lastTick {s : CPUCore} (drained : FrontDrained s) (empty : s.exMem = {})
    (running : s.running = true) (noInterrupt : selectInterrupt s.updateTimer.regFile = none) :
    s.tick = .ok { s.atMemoryAccess with memWb := {}, exMem := {} } := by
  have noExMem : s.atMemoryAccess.exMem = {} := (atMemoryAccess_backEnd s).1.trans empty
  have invalid : forall lane, (s.atMemoryAccess.exMem.slots.get lane).valid = false := by
    rw [noExMem]
    decide
  have stillDrained : FrontDrained { s.atMemoryAccess with memWb := {} } := by
    rcases writeBack_frame s.atWriteBack with ⟨regFile, count, stopped, written⟩
    rw [atMemoryAccess, written, atWriteBack_quiet noInterrupt]
    exact ⟨drained.pc, drained.ifId, drained.idEx⟩
  apply stillDrained.tick running
  exact memoryAccess_of_lanes (memoryAccessLane_invalid (invalid 0)) (memoryAccessLane_invalid (invalid 1))

theorem QuietPartner.slotWrites {slot : PipelineSlot} (quiet : QuietPartner slot) : slotWrites slot = [] := by
  unfold Pipeline.slotWrites
  rcases quiet.noWrite with noWrite | toZero
  · simp [noWrite]
  · simp [toZero]

/-- A run that halts undisturbed ends as if nothing younger than the halting
instruction had ever been fetched. -/
theorem halt_without_younger {s t u : CPUCore} {lane : Fin 2} (formed : WellFormed s) (ticked : s.tick = .ok t)
    (last : t.tick = .ok u) (running : t.running = true) (halts : haltLane t.memWb = some lane)
    (undisturbed : UndisturbedHalt s t) : Exists fun alone =>
      iterate tick 2 (onlyOlder s lane) = .ok alone ∧ alone.running = false ∧ SameArchitecture alone u := by
  have formedT := tick_wellFormed s t formed ticked
  have partner : lane = 0 -> t.memWb.slots.s1.valid = true -> QuietPartner t.memWb.slots.s1 :=
    fun first => undisturbed.partner (first ▸ halts)
  have noStore : lane = 0 -> s.exMem.slots.s1.valid = true -> s.exMem.memWrite.s1 = false := by
    intro first valid
    rcases undisturbed.before.moved formed (running_of_tick ticked running) ticked 1 with ⟨sameValid, sameInstr⟩
    have quiet := partner first (sameValid.trans valid)
    have control : s.exMem.memWrite.s1 = isStore (decode s.exMem.slots.s1.instr) :=
      (formed.executedPair.controls 1 valid).2
    rw [control, ← show t.memWb.slots.s1.instr = s.exMem.slots.s1.instr from sameInstr valid]
    exact quiet.noStore
  rcases onlyOlder_tick formed undisturbed.before ticked running noStore with
    ⟨older, first, drained, noExMem, olderRunning, same, slot0, slot1⟩
  have writes : registerWrites t.memWb = registerWrites older.memWb := by
    unfold registerWrites
    rw [slot0, slot1]
    cases lane using laneCases with
    | one => rfl
    | zero =>
        cases valid : t.memWb.slots.s1.valid with
        | true =>
            rw [(partner rfl valid).slotWrites]
            rfl
        | false => simp [Pipeline.slotWrites, valid]
  have olderHalts : haltLane older.memWb = some lane := by
    rw [← halts]
    unfold haltLane
    rw [slot0, slot1]
    cases lane using laneCases with
    | one => rfl
    | zero =>
        rcases haltLane_some halts with ⟨valid, word⟩
        simp only [Dual.get_zero] at valid word
        simp [valid, word]
  rcases atMemoryAccess_same same undisturbed.last.noInterrupt writes with ⟨noInterrupt, sameBefore⟩
  rcases undisturbed.last.outcome formedT running last with ⟨f, accessedT, regFile, _, storage⟩
  have beforeT := atMemoryAccess_wellFormed formedT
  have sameAccess := memoryAccess_noStore beforeT.executedPair.oneAccess accessedT
    (by rw [(atMemoryAccess_backEnd t).1]; exact undisturbed.noStore)
  refine ⟨{ older.atMemoryAccess with memWb := {}, exMem := {} }, ?_, ?_, ?_, ?_⟩
  · exact iterate_succ.mpr ⟨older, first, drained.lastTick noExMem olderRunning noInterrupt⟩
  · change older.atMemoryAccess.running = false
    rw [atMemoryAccess_running, olderHalts]
    exact Bool.and_false _
  · exact regFile.trans (sameAccess.regFile.trans sameBefore.regFile)
  · exact sameBefore.storage.trans (sameAccess.storage.trans storage)

end Halting
end SimpleRV
