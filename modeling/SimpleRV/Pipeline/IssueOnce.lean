import SimpleRV.Pipeline.WellFormed

namespace SimpleRV
namespace Pipeline

open IssueUnit CPUCore Iteration

/-!
# Each fetched instruction is executed at most once

`decodeAndIssue` overwrites ID/EX when it takes something out of IF/ID.  When
IF/ID is empty it leaves ID/EX as it is, and the next tick executes the same
instructions again.  Mostly this goes unnoticed, because fetch leaves IF/ID
empty only behind a flush.  It shows when fetch has nothing to deliver.

The runs of this module carry two logs, of the instructions that fetch puts
into IF/ID and of those that the engine is given.
-/

/-- Decode hands over exactly what it takes out of IF/ID.  The partner of a
branch predicted taken is dropped. -/
def IssueExact (x : CPUCore) : Prop :=
  Exists fun dropped => entries x.ifId.pc x.ifId.slots =
      entries x.decodeAndIssue.idEx.pc x.decodeAndIssue.idEx.slots ++
        entries x.decodeAndIssue.ifId.pc x.decodeAndIssue.ifId.slots ++ dropped ∧
    (predictsTaken x.decodeAndIssue.idEx.slots.s0 = false -> dropped = [])

/-- There is something to take, or nothing old in ID/EX. -/
def NothingStale (x : CPUCore) : Prop :=
  x.ifId.slots.s0.valid = true ∨ forall lane, (x.idEx.slots.get lane).valid = false

/-- When decode takes something, it hands over exactly that. -/
theorem Issue.exact {ifId : IfIdBuffer} {idEx : IdExBuffer} {out : IfIdBuffer × IdExBuffer}
    (issue : Issue ifId idEx out) (valid : ifId.slots.s0.valid = true) :
    Exists fun dropped => entries ifId.pc ifId.slots =
        entries out.2.pc out.2.slots ++ entries out.1.pc out.1.slots ++ dropped ∧
      (predictsTaken out.2.slots.s0 = false -> dropped = []) := by
  cases issue with
  | idle empty => exact absurd valid (ne_true_of_eq_false empty)
  | stalled _ =>
      refine ⟨[], ?_, fun _ => rfl⟩
      rw [List.append_nil]
      rfl
  | predicted _ taken slot0 slot0Eq =>
      subst slot0Eq
      have branch := (decode_exclusive ifId.slots.s0.instr).predicted taken
      refine ⟨if ifId.slots.s1.valid then [(ifId.pc + 4, ifId.slots.s1.instr)] else [], ?_, ?_⟩
      · simp [entries, invalidate, decodeInstruction, valid]
      · intro notTaken
        simp [predictsTaken, decodeInstruction, valid, taken, branch] at notTaken
  | pair _ valid1 notTaken together =>
      exact ⟨[], by simp [entries, invalidate, decodeInstruction, valid, valid1], fun _ => rfl⟩
  | single _ notTaken =>
      refine ⟨[], ?_, fun _ => rfl⟩
      simp only [entries, invalidate, decodeInstruction, valid, if_true, Bool.false_eq_true, if_false,
        List.append_nil]
      rfl

/-- In a reachable state the hand-over is exact precisely if nothing stale can
be handed over. -/
theorem issueExact_iff {x : CPUCore} (wellFormed : WellFormed x) : IssueExact x ↔ NothingStale x := by
  have issue := decodeAndIssue_issue x.ifId x.idEx
  cases valid : x.ifId.slots.s0.valid with
  | true => exact ⟨fun _ => .inl valid, fun _ => issue.exact valid⟩
  | false =>
      have invalid1 := invalid_of_ordered wellFormed.frontEnd.ordered valid
      have unchanged : x.decodeAndIssue.idEx = x.idEx := by
        simp [CPUCore.decodeAndIssue, IssueUnit.decodeAndIssue, valid]
      constructor
      · rintro ⟨dropped, exact, _⟩
        refine .inr (fun lane => ?_)
        cases stale : (x.idEx.slots.get lane).valid with
        | false => rfl
        | true =>
            rw [entries_of_invalid valid invalid1, unchanged] at exact
            have none := (List.append_eq_nil_iff.mp (List.append_eq_nil_iff.mp exact.symm).1).1
            exact absurd none (entries_ne_nil stale)
      · rintro (impossible | noneStale)
        · exact absurd impossible (ne_true_of_eq_false valid)
        · refine ⟨[], ?_, fun _ => rfl⟩
          have sameIfId : x.decodeAndIssue.ifId = x.ifId := by
            simp [CPUCore.decodeAndIssue, IssueUnit.decodeAndIssue, valid]
          rw [unchanged, sameIfId, entries_of_invalid valid invalid1,
            entries_of_invalid (noneStale 0) (noneStale 1)]
          rfl

/-! ## Runs with logs -/

structure Logged where
  core : CPUCore
  fetched : List (Addr × Word)
  executed : List (Addr × Word)

/-- What a call of `fetch` has put into IF/ID. -/
def delivered (before after : CPUCore) : List (Addr × Word) :=
  if before.ifId.slots.s0.valid then [] else entries after.ifId.pc after.ifId.slots

/-- A tick that keeps the logs. -/
def loggedTick (log : Logged) : Except Crash Logged :=
  if !log.core.running then .ok { log with core := log.core.atWriteBack }
  else do
    let e ← log.core.atExecute
    let y := e.execute.decodeAndIssue
    let u ← y.fetch
    return {
      core := u
      fetched := log.fetched ++ delivered y u
      executed := log.executed ++ entries e.idEx.pc e.idEx.slots }

/-- The core of a logged run makes the ticks of the core. -/
theorem loggedTick_core {log next : Logged} (ran : loggedTick log = .ok next) :
    log.core.tick = .ok next.core := by
  unfold loggedTick at ran
  split at ran
  · cases ran
    rw [tick, if_pos ‹_›]
  · rename_i running
    rcases bind_eq_ok.mp ran with ⟨e, executing, rest⟩
    rcases bind_eq_ok.mp rest with ⟨u, fetched, done⟩
    cases done
    exact (tick_of_atExecute (by simpa using running) executing).trans fetched

/-! ## The front end between the stages -/

/-- IF/ID and ID/EX are as they were, or flushed. -/
def FrontKept (s t : CPUCore) : Prop :=
  (t.ifId = s.ifId ∧ t.idEx = s.idEx) ∨ (t.ifId = {} ∧ t.idEx = {})

theorem FrontKept.trans {s t u : CPUCore} (first : FrontKept s t) (second : FrontKept t u) : FrontKept s u := by
  rcases second with ⟨sameIfId, sameIdEx⟩ | flushed
  · rcases first with ⟨ifIdEq, idExEq⟩ | ⟨ifIdEq, idExEq⟩
    · exact .inl ⟨sameIfId.trans ifIdEq, sameIdEx.trans idExEq⟩
    · exact .inr ⟨sameIfId.trans ifIdEq, sameIdEx.trans idExEq⟩
  · exact .inr flushed

theorem atWriteBack_front (s : CPUCore) : FrontKept s s.atWriteBack := by
  unfold atWriteBack checkAndHandleInterrupts
  cases selectInterrupt s.updateTimer.regFile with
  | none => exact .inl ⟨rfl, rfl⟩
  | some cause => exact .inr ⟨rfl, rfl⟩

theorem atMemoryAccess_front (s : CPUCore) : FrontKept s s.atMemoryAccess := by
  rcases writeBack_frame s.atWriteBack with ⟨regFile, count, running, frame⟩
  rw [atMemoryAccess, frame]
  exact atWriteBack_front s

theorem LaneOutcome.front {s : CPUCore} {lane : Fin 2} {out : CPUCore × Bool}
    (outcome : LaneOutcome s lane out) : FrontKept s out.1 := by
  cases outcome with
  | empty invalid => exact .inl ⟨rfl, rfl⟩
  | finished value mem valid access => exact .inl ⟨rfl, rfl⟩
  | trapped cause mem valid access => exact .inr ⟨rfl, rfl⟩

theorem StageOutcome.front {s : CPUCore} {out : CPUCore × Option (Fin 2)} (outcome : StageOutcome s out) :
    FrontKept s out.1 := by
  have start : FrontKept s { s with memWb := {} } := .inl ⟨rfl, rfl⟩
  exact outcome.preserves start (fun _ _ _ _ before lane => before.trans lane.front)

theorem atExecute_front {s e : CPUCore} (wellFormed : WellFormed s) (ran : s.atExecute = .ok e) : FrontKept s e := by
  rcases atExecute_outcome wellFormed ran with ⟨trapped, outcome⟩
  exact (atMemoryAccess_front s).trans outcome.front

theorem Resolution.front {s t : CPUCore} (resolution : Resolution s t) : FrontKept s t := by
  cases resolution with
  | fallsThrough notTaken => exact .inl ⟨rfl, rfl⟩
  | asPredicted valid taken predicted => exact .inl ⟨rfl, rfl⟩
  | redirected target valid mispredicted destination => exact .inr ⟨rfl, rfl⟩

theorem TrapOutcome.front {s t : CPUCore} (outcome : TrapOutcome s t) : FrontKept s t := by
  cases outcome with
  | none quiet => exact .inl ⟨rfl, rfl⟩
  | taken lane found => exact .inr ⟨rfl, rfl⟩

theorem execute_front (s : CPUCore) : FrontKept s s.execute := by
  rcases committed_frame s with ⟨regFile, memory, frame⟩
  have resolved := (executeResolved_resolution s).front
  rw [frame] at resolved
  have before : FrontKept s s.executeResolved := resolved
  exact before.trans (handleSlotTraps_outcome s.executeResolved).front

/-! ## The logs -/

/-- What is still to be executed, oldest first, behind what has been executed:
a subsequence of what has been fetched. -/
def LogsAgree (log : Logged) : Prop :=
  (log.executed ++ entries log.core.idEx.pc log.core.idEx.slots ++
    entries log.core.ifId.pc log.core.ifId.slots).Sublist log.fetched

/-- Keeping or flushing the front end keeps the logs in step. -/
theorem FrontKept.sublist {s t : CPUCore} (kept : FrontKept s t) {executed fetched : List (Addr × Word)}
    (agree : (executed ++ entries s.idEx.pc s.idEx.slots ++ entries s.ifId.pc s.ifId.slots).Sublist fetched) :
    (executed ++ entries t.idEx.pc t.idEx.slots ++ entries t.ifId.pc t.ifId.slots).Sublist fetched := by
  rcases kept with ⟨sameIfId, sameIdEx⟩ | ⟨noIfId, noIdEx⟩
  · rw [sameIfId, sameIdEx]
    exact agree
  · rw [noIfId, noIdEx]
    refine List.Sublist.trans ?_ agree
    rw [List.append_assoc]
    exact List.sublist_append_of_sublist_left (by simp [entries])

/-- After execution only IF/ID waits, and it may have been flushed. -/
theorem execute_sublist {e : CPUCore} {executed fetched : List (Addr × Word)}
    (agree : (executed ++ entries e.idEx.pc e.idEx.slots ++ entries e.ifId.pc e.ifId.slots).Sublist fetched) :
    (executed ++ entries e.idEx.pc e.idEx.slots ++
      entries e.execute.ifId.pc e.execute.ifId.slots).Sublist fetched := by
  rcases execute_front e with ⟨sameIfId, _⟩ | ⟨noIfId, _⟩
  · rw [sameIfId]
    exact agree
  · rw [noIfId]
    refine List.Sublist.trans ?_ agree
    exact List.Sublist.append_left (List.nil_sublist _) _

/-- Exact hand-over moves entries from IF/ID to ID/EX and loses at most some. -/
theorem IssueExact.sublist {x : CPUCore} (exact : IssueExact x) {executed fetched : List (Addr × Word)}
    (agree : (executed ++ entries x.ifId.pc x.ifId.slots).Sublist fetched) :
    (executed ++ entries x.decodeAndIssue.idEx.pc x.decodeAndIssue.idEx.slots ++
      entries x.decodeAndIssue.ifId.pc x.decodeAndIssue.ifId.slots).Sublist fetched := by
  rcases exact with ⟨dropped, handOver, _⟩
  refine List.Sublist.trans ?_ agree
  rw [handOver, List.append_assoc]
  exact List.Sublist.append_left (List.sublist_append_left _ _) _

/-- Fetch delivers into an empty IF/ID, or flushes. -/
theorem Fetch.sublist {y u : CPUCore} (fetching : Fetch y u)
    (ordered : y.ifId.slots.s1.valid = true -> y.ifId.slots.s0.valid = true) {executed fetched : List (Addr × Word)}
    (agree : (executed ++ entries y.idEx.pc y.idEx.slots ++ entries y.ifId.pc y.ifId.slots).Sublist fetched) :
    (executed ++ entries u.idEx.pc u.idEx.slots ++ entries u.ifId.pc u.ifId.slots).Sublist
      (fetched ++ delivered y u) := by
  cases valid : y.ifId.slots.s0.valid with
  | true =>
      have same : u = y := by
        cases fetching with
        | full _ => rfl
        | nothing mem empty same => exact absurd valid (ne_true_of_eq_false empty)
        | one word mem empty same => exact absurd valid (ne_true_of_eq_false empty)
        | pair word0 word1 mem empty same => exact absurd valid (ne_true_of_eq_false empty)
        | fault found mem faults => exact absurd valid (ne_true_of_eq_false faults.free)
        | faultNearEnd found mem faults => exact absurd valid (ne_true_of_eq_false faults.free)
      rw [same, delivered, if_pos valid, List.append_nil]
      exact agree
  | false =>
      have invalid1 := invalid_of_ordered ordered valid
      rw [entries_of_invalid valid invalid1, List.append_nil] at agree
      have waiting : (entries u.idEx.pc u.idEx.slots).Sublist (entries y.idEx.pc y.idEx.slots) := by
        cases fetching with
        | full _ => exact .refl _
        | nothing mem empty same => exact .refl _
        | one word mem empty same => exact .refl _
        | pair word0 word1 mem empty same => exact .refl _
        | fault found mem faults => exact List.nil_sublist _
        | faultNearEnd found mem faults => exact List.nil_sublist _
      rw [delivered, if_neg (by rw [valid]; decide)]
      refine List.Sublist.append ?_ (.refl _)
      exact (List.Sublist.append_left waiting executed).trans agree

/-- Every tick that decodes has nothing stale to hand over. -/
def TickSafe (s : CPUCore) : Prop :=
  s.running = true -> forall x, s.atDecode = .ok x -> NothingStale x

/-- One tick that meets the condition keeps the logs in step. -/
theorem loggedTick_agree {log next : Logged} (wellFormed : WellFormed log.core) (safe : TickSafe log.core)
    (agree : LogsAgree log) (ran : loggedTick log = .ok next) : LogsAgree next := by
  unfold loggedTick at ran
  split at ran
  · cases ran
    exact (atWriteBack_front log.core).sublist agree
  · rename_i running
    rcases bind_eq_ok.mp ran with ⟨e, executing, rest⟩
    rcases bind_eq_ok.mp rest with ⟨u, fetching, done⟩
    cases done
    have decoding := atDecode_of_atExecute executing
    have formed := atDecode_wellFormed wellFormed decoding
    have issuedFormed := decodeAndIssue_wellFormed formed
    have exact := (issueExact_iff formed).mpr (safe (by simpa using running) _ decoding)
    have before := (atExecute_front wellFormed executing).sublist agree
    have handed := exact.sublist (execute_sublist before)
    exact (fetch_fetch issuedFormed.frontEnd.ordered fetching).sublist issuedFormed.frontEnd.ordered handed

/-- A fresh core with empty logs. -/
def startLogged (config : SystemConfig) (image : Addr -> Byte) (keyboard : HostKeyboard) : Logged :=
  ⟨init config image keyboard, [], []⟩

theorem iterate_loggedTick_core {start log : Logged} {n : Nat} (run : iterate loggedTick n start = .ok log) :
    iterate tick n start.core = .ok log.core := by
  induction n generalizing log with
  | zero =>
      cases run
      rfl
  | succ n ih =>
      rcases iterate_succ.mp run with ⟨before, earlier, last⟩
      exact iterate_succ.mpr ⟨before.core, ih earlier, loggedTick_core last⟩

/-- In a run whose ticks all meet the condition, every tick hands over exactly
what it takes from IF/ID, and the executed instructions are a subsequence of
the fetched ones: no fetched instruction is executed twice. -/
theorem issue_once {config : SystemConfig} {image : Addr -> Byte} {keyboard : HostKeyboard} {n : Nat} {log : Logged}
    (run : iterate loggedTick n (startLogged config image keyboard) = .ok log)
    (safe : forall k before, k < n -> iterate loggedTick k (startLogged config image keyboard) = .ok before ->
      TickSafe before.core) :
    (forall k before x, k < n -> iterate loggedTick k (startLogged config image keyboard) = .ok before ->
        before.core.running = true -> before.core.atDecode = .ok x -> IssueExact x) ∧
      log.executed.Sublist log.fetched := by
  have formed : forall {k before}, iterate loggedTick k (startLogged config image keyboard) = .ok before ->
      WellFormed before.core := fun earlier =>
    Reachable.wellFormed ⟨config, image, keyboard, _, iterate_loggedTick_core earlier⟩
  constructor
  · intro k before x below earlier running decoding
    have wellFormed := atDecode_wellFormed (formed earlier) decoding
    exact (issueExact_iff wellFormed).mpr (safe k before below earlier running x decoding)
  · have preserved : forall before after : Logged, WellFormed before.core ∧ LogsAgree before ->
        TickSafe before.core -> loggedTick before = .ok after -> WellFormed after.core ∧ LogsAgree after := by
      rintro before after ⟨wellFormed, agree⟩ safeHere ticked
      exact ⟨tick_wellFormed _ _ wellFormed (loggedTick_core ticked),
        loggedTick_agree wellFormed safeHere agree ticked⟩
    have initial : WellFormed (startLogged config image keyboard).core ∧
        LogsAgree (startLogged config image keyboard) :=
      ⟨init_wellFormed config image keyboard, List.Sublist.refl _⟩
    have agree := (@iterate_conditional _ _ loggedTick (fun log => WellFormed log.core ∧ LogsAgree log)
      (fun log => TickSafe log.core) _ initial preserved n log run safe).2
    refine List.Sublist.trans ?_ agree
    rw [List.append_assoc]
    exact List.sublist_append_left _ _

/-! ## A run off the end of memory -/

/-- `lui x1, 0x8000; jalr x0, -8(x1)`, and at the end of RAM one `addi` of `x5`
and one of `x6`. -/
def endOfMemory : List (Addr × Word) :=
  [(0, 0x080000B7#32), (4, 0xFF808067#32), (0x07FFFFF8, 0x00128293#32), (0x07FFFFFC, 0x00130313#32)]

def endOfMemoryRun (ticks : Nat) : Except Crash Logged :=
  iterate loggedTick ticks (startLogged .default128MB (ramImage endOfMemory) {})

/-- The test of `TickSafe`. -/
def tickSafe (s : CPUCore) : Bool :=
  !s.running || passes s.atDecode (fun x => x.ifId.slots.s0.valid ||
    (!x.idEx.slots.s0.valid && !x.idEx.slots.s1.valid))

theorem tickSafe_sound {s : CPUCore} (safe : tickSafe s = true) : TickSafe s := by
  intro running x decoding
  simp only [tickSafe, running, Bool.not_true, Bool.false_or, decoding, passes, Bool.or_eq_true,
    Bool.and_eq_true, Bool.not_eq_true'] at safe
  rcases safe with valid | ⟨invalid0, invalid1⟩
  · exact .inl valid
  · refine .inr (fun lane => ?_)
    cases lane using laneCases with
    | zero => exact invalid0
    | one => exact invalid1

/-- The first five ticks of that run are as they should be. -/
theorem issue_once_before_end : Exists fun log => endOfMemoryRun 5 = .ok log ∧
    log.executed.Sublist log.fetched := by
  have runs : passes (endOfMemoryRun 5) (fun _ => true) = true := by
    decide +kernel
  have tests : (List.range 5).all (fun k => passes (endOfMemoryRun k) (fun log => tickSafe log.core)) = true := by
    decide +kernel
  rcases exists_of_passes runs with ⟨log, run, _⟩
  refine ⟨log, run, (issue_once run (fun k before below earlier => ?_)).2⟩
  have test := List.all_eq_true.mp tests k (List.mem_range.mpr below)
  rcases exists_of_passes test with ⟨state, reached, safe⟩
  cases reached.symm.trans earlier
  exact tickSafe_sound safe

/-- Then fetch has nothing to deliver, and the last pair is executed in every
tick: after nine ticks `x5` has been incremented twice. -/
theorem last_pair_executes_again : Exists fun before => Exists fun x => Exists fun log =>
    (endOfMemoryRun 5 = .ok before ∧ before.core.running = true ∧ before.core.atDecode = .ok x ∧
      ¬IssueExact x) ∧ endOfMemoryRun 9 = .ok log ∧ log.core.regFile.gpr 5 = 2 ∧
        ¬log.executed.Sublist log.fetched := by
  have early : passes (endOfMemoryRun 5) (fun before => before.core.running &&
      passes before.core.atDecode (fun x => !x.ifId.slots.s0.valid && x.idEx.slots.s0.valid)) = true := by
    decide +kernel
  have late : passes (endOfMemoryRun 9) (fun log => decide (log.core.regFile.gpr 5 = 2) &&
      decide (log.fetched.length < log.executed.length)) = true := by
    decide +kernel
  rcases exists_of_passes early with ⟨before, run, tests⟩
  rcases Bool.and_eq_true_iff.mp tests with ⟨running, tests⟩
  rcases exists_of_passes tests with ⟨x, decoding, stale⟩
  rcases exists_of_passes late with ⟨log, run', tests'⟩
  simp only [Bool.and_eq_true, Bool.not_eq_true', decide_eq_true_eq] at stale tests'
  have formed : WellFormed x :=
    atDecode_wellFormed (Reachable.wellFormed ⟨_, _, _, 5, iterate_loggedTick_core run⟩) decoding
  refine ⟨before, x, log, ⟨run, running, decoding, fun exact => ?_⟩, run', tests'.1, fun once => ?_⟩
  · rcases (issueExact_iff formed).mp exact with valid | noneStale
    · exact absurd valid (ne_true_of_eq_false stale.1)
    · exact absurd ((noneStale 0).symm.trans stale.2) Bool.false_ne_true
  · exact absurd once.length_le (Nat.not_le.mpr tests'.2)

end Pipeline
end SimpleRV
