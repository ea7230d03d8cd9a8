import SimpleRV.Performance.Counting
import SimpleRV.Performance.Throughput

namespace SimpleRV
namespace Performance

open RegisterFile IssueUnit CPUCore Pipeline Refinement InFlight Iteration

/-!
# The counters along a path

The report of a run, computed from the sequential machine alone.  The branch
counters say how many instructions of the path branched and how many did not do
what the decoder had predicted, and every cycle without an issue has one of
three causes.
-/

/-- The instruction at the pc transfers control. -/
def takenAt (r : SeqState) : Bool := r.executed.d.isBranch

/-- The decoder predicts that it does. -/
def predictedAt (r : SeqState) : Bool := r.slot.d.predictedTaken

/-- The decoder is wrong. -/
def mispredictedAt (r : SeqState) : Bool := takenAt r != predictedAt r

/-- It traps, or returns from a trap. -/
def divertsAt (r : SeqState) : Bool := trapsInEx r.slot.d

/-- How many of the first `n` states of the path pass a test. -/
def tally (path : Nat -> SeqState) (test : SeqState -> Bool) (n : Nat) : Nat :=
  (List.range n).countP (fun i => test (path i))

theorem tally_succ (path : Nat -> SeqState) (test : SeqState -> Bool) (n : Nat) :
    tally path test (n + 1) = tally path test n + (test (path n)).toNat := by
  unfold tally
  rw [List.range_succ, List.countP_append]
  cases passed : test (path n) <;> simp [passed]

section Tick

variable {path : Nat -> SeqState} {length : Nat} {s e t : CPUCore} {retired accessed executed count : Nat}

/-! ## The branch of a tick -/

/-- The engine has the next instruction of the path in slot 0. -/
theorem SimulatedTick.leads (here : SimulatedTick path length s accessed executed e t count)
    (good : Followable path length) (below : executed < length) (issued : s.idEx.slots.s0.valid = true) :
    Leads e.runEngine.exMem (path executed) := by
  rw [← here.sameFront.2] at issued
  exact here.ready.leads good below issued

theorem SimulatedTick.takes_eq (here : SimulatedTick path length s accessed executed e t count)
    (good : Followable path length) (below : executed < length) :
    takes e.runEngine.exMem.slots.s0 = (s.idEx.slots.s0.valid && takenAt (path executed)) := by
  cases issued : s.idEx.slots.s0.valid with
  | false =>
      rw [takes, runEngine_valid, here.sameFront.2, issued]
      rfl
  | true =>
      have leads := here.leads good below issued
      rw [takes, leads.valid, leads.d]
      rfl

theorem SimulatedTick.mispredicts_eq (here : SimulatedTick path length s accessed executed e t count)
    (good : Followable path length) (below : executed < length) :
    mispredicts e.runEngine.exMem.slots.s0 = (s.idEx.slots.s0.valid && mispredictedAt (path executed)) := by
  cases issued : s.idEx.slots.s0.valid with
  | false =>
      rw [mispredicts, runEngine_valid, here.sameFront.2, issued]
      rfl
  | true =>
      have leads := here.leads good below issued
      rw [mispredicts, leads.valid, leads.predicted, leads.d]
      rfl

/-- The second of two instructions neither branches nor traps. -/
theorem SimulatedTick.partner (here : SimulatedTick path length s accessed executed e t 2)
    (good : Followable path length) (below : executed + 1 < length) :
    (path (executed + 1)).slot.d.isBranch = false ∧ divertsAt (path (executed + 1)) = false := by
  have pair := (executeResolved_wellFormed here.ready.formed).2.1
  have both := here.count_eq
  have valid1 : e.executeResolved.exMem.slots.s1.valid = true := by
    unfold occupied at both
    cases valid : e.executeResolved.exMem.slots.s1.valid with
    | true => rfl
    | false =>
        rw [valid] at both
        split at both <;> cases both
  have valid0 := pair.ordered valid1
  have words := here.log
  rw [processed, entries, if_pos valid0, if_pos valid1] at words
  have second : e.executeResolved.exMem.slots.s1.instr = (path (executed + 1)).instr :=
    congrArg Prod.snd (List.cons.inj (List.cons.inj words).2).1
  have together := canIssueTogether_together (pair.paired valid1)
  rw [second] at together
  refine ⟨together.noBranch, ?_⟩
  have noSystem := together.noSystem1
  simp only [isSystem, Bool.or_eq_false_iff] at noSystem
  rcases allowed_cases (good.allowed (executed + 1) below) with quiet | ⟨_, ecall | mret⟩
  · exact quiet
  · exact absurd ecall (ne_true_of_eq_false noSystem.1.1.1)
  · exact absurd mret.1 (ne_true_of_eq_false noSystem.1.1.2)

/-- A test that only a branch or a trap can pass is decided by slot 0. -/
theorem SimulatedTick.tally (here : SimulatedTick path length s accessed executed e t count)
    (good : Followable path length) (below : executed + 1 < length) {test : SeqState -> Bool}
    (ordinary : forall r : SeqState, r.slot.d.isBranch = false -> divertsAt r = false -> test r = false) :
    tally path test (executed + count) =
      tally path test executed + (s.idEx.slots.s0.valid && test (path executed)).toNat := by
  cases issued : s.idEx.slots.s0.valid with
  | false =>
      rw [here.rests issued]
      rfl
  | true =>
      have least := here.executes issued
      have most := here.atMost
      rcases (show count = 1 ∨ count = 2 by omega) with one | two
      · subst one
        exact tally_succ path test executed
      · subst two
        rcases here.partner good below with ⟨noBranch, quiet⟩
        rw [tally_succ path test (executed + 1), tally_succ path test executed, ordinary _ noBranch quiet]
        rfl

theorem takenAt_ordinary (r : SeqState) (noBranch : r.slot.d.isBranch = false) : takenAt r = false :=
  executed_straight noBranch

theorem predictedAt_ordinary (r : SeqState) (noBranch : r.slot.d.isBranch = false) : predictedAt r = false := by
  cases predicted : predictedAt r with
  | false => rfl
  | true =>
      have branch := (decode_exclusive r.instr).predicted predicted
      exact absurd branch (ne_true_of_eq_false noBranch)

theorem mispredictedAt_ordinary (r : SeqState) (noBranch : r.slot.d.isBranch = false) : mispredictedAt r = false := by
  rw [mispredictedAt, takenAt_ordinary r noBranch, predictedAt_ordinary r noBranch]
  rfl

/-- What traps is predicted right. -/
theorem mispredictedAt_of_diverts {r : SeqState} (diverts : divertsAt r = true) : mispredictedAt r = false :=
  mispredictedAt_ordinary r ((decode_exclusive r.instr).trapping diverts).1

/-- The branch that decode has just predicted is the next instruction. -/
theorem pending_prediction (sim : Simulates path length s retired accessed executed) (below : executed < length) :
    predictsTaken s.idEx.slots.s0 = (s.idEx.slots.s0.valid && predictedAt (path executed)) := by
  cases issued : s.idEx.slots.s0.valid with
  | false =>
      rw [predictsTaken, issued]
      rfl
  | true =>
      have next := sim.front.next
      rw [if_pos issued] at next
      have word := sim.front.idExWords 0 issued executed below (by rw [next]; simp)
      have sameD : s.idEx.slots.s0.d = (path executed).slot.d :=
        issued_slot_d sim.formed.frontEnd.issued 0 issued word
      rw [predictsTaken, issued, sameD]
      cases predicted : predictedAt (path executed) with
      | false => exact congrArg (fun b => b && (path executed).slot.d.isBranch) predicted
      | true =>
          have isBranch : (path executed).slot.d.isBranch = true :=
            (decode_exclusive (path executed).instr).predicted predicted
          rw [isBranch, show (path executed).slot.d.predictedTaken = true from predicted]
          rfl

/-! ## The three causes of a lost cycle -/

/-- As long as the prediction was right, resolution keeps the front end. -/
theorem executeResolved_kept (e : CPUCore) (right : mispredicts e.runEngine.exMem.slots.s0 = false) :
    e.executeResolved.idEx = e.idEx := by
  rcases committed_frame e with ⟨regFile, memory, frame⟩
  have resolution := executeResolved_resolution e
  rw [frame] at resolution
  generalize e.executeResolved = x at resolution
  cases resolution with
  | fallsThrough notTaken => rfl
  | asPredicted _ taken predicted => rfl
  | redirected target valid mispredicted destination =>
      have wrong : mispredicts e.runEngine.exMem.slots.s0 = true := by
        have inUse : e.runEngine.exMem.slots.s0.valid = true := valid
        have outcome : e.runEngine.exMem.slots.s0.d.isBranch = !e.runEngine.exMem.slots.s0.d.predictedTaken :=
          mispredicted
        rw [mispredicts, inUse, outcome]
        cases e.runEngine.exMem.slots.s0.d.predictedTaken <;> rfl
      exact absurd wrong (ne_true_of_eq_false right)

/-- What neither branches unexpectedly nor traps leaves ID/EX to be issued over. -/
theorem SimulatedTick.kept (here : SimulatedTick path length s accessed executed e t count)
    (good : Followable path length) (below : executed < length) (issued : s.idEx.slots.s0.valid = true)
    (right : mispredictedAt (path executed) = false) (quiet : divertsAt (path executed) = false) :
    e.execute.idEx = e.idEx := by
  have noWrong : mispredicts e.runEngine.exMem.slots.s0 = false := by
    rw [here.mispredicts_eq good below, right, Bool.and_false]
  have inMem := here.decoding.backEnd.inMem
  have least := here.executes issued
  have outcome := handleSlotTraps_outcome e.executeResolved
  unfold CPUCore.execute at inMem ⊢
  generalize e.executeResolved.handleSlotTraps = x at outcome inMem
  cases outcome with
  | none noTrap => exact executeResolved_kept e noWrong
  | taken lane found =>
      -- a trap would have emptied EX/MEM
      exfalso
      have traps : forall stop, Holds path length (e.executeResolved.returnTo
          (trapTarget e.executeResolved.regFile (e.executeResolved.exMem.slots.get lane)
            (e.executeResolved.exMem.pc + BitVec.ofNat 32 (4 * lane.val)))).exMem.slots executed stop ->
          executed < stop -> divertsAt (path executed) = true := by
        intro stop holds later
        cases holds with
        | nothing _ _ => exact absurd later (Nat.lt_irrefl _)
        | one valid0 _ _ => cases valid0
        | two valid0 _ _ _ => cases valid0
        | trapped _ _ _ diverts => exact diverts
      exact absurd (traps _ inMem (by omega)) (ne_true_of_eq_false quiet)

/-- A trap flushes the front end. -/
theorem SimulatedTick.diverted (here : SimulatedTick path length s accessed executed e t count)
    (good : Followable path length) (below : executed < length) (issued : s.idEx.slots.s0.valid = true)
    (diverts : divertsAt (path executed) = true) : e.execute.ifId = {} ∧ e.execute.idEx = {} := by
  have leads := here.leads good below issued
  have slot0 : e.executeResolved.exMem.slots.s0 = e.runEngine.exMem.slots.s0 := by
    rcases committed_frame e with ⟨regFile, memory, frame⟩
    rcases (executeResolved_resolution e).exMem with same | squashed
    · rw [same, frame]
    · rw [squashed, frame]
      rfl
  have found : trapLane e.executeResolved.exMem = some 0 := by
    have traps : trapsInEx e.runEngine.exMem.slots.s0.d = true := leads.traps.trans diverts
    simp only [trapLane, slot0, leads.valid, traps, Bool.not_true, Bool.false_eq_true, if_false, if_true]
  unfold CPUCore.execute
  rw [handleSlotTraps_some found]
  exact ⟨rfl, rfl⟩

/-- Decode finds IF/ID empty behind a wrong prediction, behind a trap, and in
the first cycle of all. -/
theorem SimulatedTick.starved (here : SimulatedTick path length s accessed executed e t count)
    (good : Followable path length) (below : executed < length) :
    (!e.execute.ifId.slots.s0.valid).toNat =
      (s.idEx.slots.s0.valid && mispredictedAt (path executed)).toNat +
        (s.idEx.slots.s0.valid && divertsAt (path executed)).toNat + (decide (bubbles s = 2)).toNat := by
  cases issued : s.idEx.slots.s0.valid with
  | false =>
      have invalid : e.idEx.slots.s0.valid = false := by
        rw [here.sameFront.2]
        exact issued
      have rests : e.execute.ifId = s.ifId := by
        rw [execute_of_invalid (s := e) ?_]
        · exact here.sameFront.1
        · intro lane
          cases lane using laneCases with
          | zero => exact invalid
          | one => exact invalid_of_ordered here.ready.formed.frontEnd.issued.ordered invalid
      rw [rests, bubbles, issued]
      cases s.ifId.slots.s0.valid <;> rfl
  | true =>
      rw [issued_of_bubbles issued]
      cases wrong : mispredictedAt (path executed) with
      | true =>
          have quiet : divertsAt (path executed) = false := by
            cases diverts : divertsAt (path executed) with
            | false => rfl
            | true => exact absurd wrong (ne_true_of_eq_false (mispredictedAt_of_diverts diverts))
          have flushed := execute_flushed (e := e) (by rw [here.mispredicts_eq good below, issued, wrong]; rfl)
          rw [flushed.1, quiet]
          rfl
      | false =>
          cases diverts : divertsAt (path executed) with
          | true =>
              rw [(here.diverted good below issued diverts).1]
              rfl
          | false =>
              have kept := here.kept good below issued wrong diverts
              have waits : e.execute.ifId.slots.s0.valid = true := by
                rcases here.decoding.fresh with waits | invalid
                · exact waits
                · rw [kept, here.sameFront.2] at invalid
                  exact absurd issued (ne_true_of_eq_false invalid)
              rw [waits]
              rfl

/-- Decode that finds IF/ID empty issues nothing. -/
theorem SimulatedTick.starved_issue (here : SimulatedTick path length s accessed executed e t count)
    (empty : e.execute.ifId.slots.s0.valid = false) : t.idEx.slots.s0.valid = false := by
  have invalid := here.decoding.fresh.resolve_left (ne_true_of_eq_false empty)
  rw [here.sameIssue, decodeAndIssue_of_empty empty invalid]
  exact invalid

/-- With interrupts off none is counted. -/
theorem noInterrupt_select (sim : Simulates path length s retired accessed executed) (good : Followable path length)
    (within : executed <= length) : selectInterrupt s.updateTimer.regFile = none := by
  have same : SameCsrs s.regFile s.updateTimer.regFile := by
    unfold updateTimer RegisterFile.hwSetMtip
    simp only
    split
    · exact ⟨s.regFile.gpr, _, rfl⟩
    · exact ⟨s.regFile.gpr, _, rfl⟩
  exact ((good.noInterrupts executed within).sameCsrs (sim.backEnd.csrs.trans same)).select

end Tick

/-! ## The report -/

/-- The counters after a number of executed instructions of the path. -/
structure Tallied (path : Nat -> SeqState) (p : ProfiledCore) (executed : Nat) : Prop where
  cycles : p.stats.dualIssues + p.stats.singleIssues + p.stats.stallCycles = p.cycleCount
  interrupts : p.stats.interruptFlushes = 0
  flushes : p.stats.branchFlushes = tally path takenAt executed
  wrong : p.stats.branchesMispredicted = tally path mispredictedAt executed
  predicted : p.stats.branchesPredicted =
    tally path predictedAt executed + (predictsTaken p.core.idEx.slots.s0).toNat
  stalls : p.stats.stallCycles + (decide (bubbles p.core = 2)).toNat =
    p.stats.loadUseStalls + tally path mispredictedAt executed + tally path divertsAt executed + 1

section Report

variable {path : Nat -> SeqState} {length : Nat}

theorem tallied_start (r : SeqState) : Tallied path { core := startCore r } 0 where
  cycles := rfl
  interrupts := rfl
  flushes := rfl
  wrong := rfl
  predicted := rfl
  stalls := rfl

/-- One cycle along the path keeps the tally. -/
theorem Tallied.tick {p q : ProfiledCore} {retired accessed executed : Nat} {e t : CPUCore} {count : Nat}
    (tallied : Tallied path p executed) (sim : Simulates path length p.core retired accessed executed)
    (good : Followable path length) (room : executed + 3 < length)
    (here : SimulatedTick path length p.core accessed executed e t count) (ran : p.tick = .ok q) :
    q.core = t ∧ Tallied path q (executed + count) := by
  rcases profiled_stages sim.running ran with ⟨other, executing, fetched, cycles, stats⟩
  cases here.executing.symm.trans executing
  have sameCore : q.core = t := by
    cases here.fetched.symm.trans fetched
    rfl
  refine ⟨sameCore, ?_⟩
  have below : executed < length := by omega
  have below1 : executed + 1 < length := by omega
  have counts := issue_counted ((p.stats.countInterrupt p.core.updateTimer.regFile).countBranch
    e.runEngine.exMem.slots.s0) e.execute.ifId e.execute.idEx
  have sameSlots : (IssueUnit.decodeAndIssue e.execute.ifId e.execute.idEx).2 = t.idEx := here.sameIssue.symm
  have afterStats : ((((p.stats.countInterrupt p.core.updateTimer.regFile).countBranch
      e.runEngine.exMem.slots.s0).countIssue e.execute.ifId e.execute.idEx).countSlots t.idEx.slots) = q.stats := by
    rw [here.sameIssue]
    exact stats.symm
  rw [sameSlots, afterStats, countInterrupt_eq, countBranch_eq, noInterrupt_select sim good (by omega),
    here.takes_eq good below, here.mispredicts_eq good below] at counts
  have cycle := counts.cycle
  rcases counts with ⟨_, _, stall, loadUse, predicted, _, flushes, wrong, interrupts⟩
  simp only [Option.isSome_none, Bool.toNat_false, Nat.add_zero]
    at cycle stall loadUse predicted flushes wrong interrupts
  -- an empty IF/ID is the only reason other than a load not to issue
  have split : (!t.idEx.slots.s0.valid).toNat =
      (e.execute.ifId.slots.s0.valid && !t.idEx.slots.s0.valid).toNat + (!e.execute.ifId.slots.s0.valid).toNat := by
    cases waits : e.execute.ifId.slots.s0.valid with
    | true => simp
    | false =>
        rw [here.starved_issue waits]
        rfl
  have prediction : (e.execute.ifId.slots.s0.valid && predictsTaken t.idEx.slots.s0) =
      predictsTaken t.idEx.slots.s0 := by
    cases waits : e.execute.ifId.slots.s0.valid with
    | true => rfl
    | false =>
        rw [predictsTaken, here.starved_issue waits]
        rfl
  have branched := here.tally good below1 (fun r noBranch _ => takenAt_ordinary r noBranch)
  have wronged := here.tally good below1 (fun r noBranch _ => mispredictedAt_ordinary r noBranch)
  have guessed := here.tally good below1 (fun r noBranch _ => predictedAt_ordinary r noBranch)
  have diverted : tally path divertsAt (executed + count) = tally path divertsAt executed +
      (p.core.idEx.slots.s0.valid && divertsAt (path executed)).toNat :=
    here.tally good below1 (fun r _ quiet => quiet)
  have pending := pending_prediction sim below
  have starved := here.starved good below
  have lively : (decide (bubbles t = 2)).toNat = 0 := by
    have atMost := here.lively
    rw [decide_eq_false (by omega)]
    rfl
  subst sameCore
  refine ⟨?_, ?_, ?_, ?_, ?_, ?_⟩
  · rw [cycle, cycles, tallied.cycles]
  · rw [interrupts, tallied.interrupts]
  · rw [flushes, branched, tallied.flushes]
  · rw [wrong, wronged, tallied.wrong]
  · rw [predicted, prediction, guessed, tallied.predicted, pending]
  · have before := tallied.stalls
    rw [lively]
    omega

/-- The cycles of a run that follows the path are its ticks. -/
theorem loop_running {p q : ProfiledCore} (running : p.core.running = true) (ran : p.loop = .ok q) :
    p.tick = .ok q := by
  unfold ProfiledCore.loop at ran
  rw [if_pos running] at ran
  exact ran

/-- The count of retired instructions never goes back. -/
theorem loop_instrCount {start p q : ProfiledCore} (formed : WellFormed start.core)
    (reached : Reaches ProfiledCore.loop start p) (ran : p.loop = .ok q) :
    p.core.instrCount <= q.core.instrCount := by
  have formedHere : WellFormed p.core := by
    refine @Reaches.invariant _ _ ProfiledCore.loop (fun p => WellFormed p.core) start p reached formed ?_
    intro before after holds stepped
    unfold ProfiledCore.loop at stepped
    split at stepped
    · exact tick_wellFormed _ _ holds (profiled_core stepped)
    · cases stepped
      exact holds
  unfold ProfiledCore.loop at ran
  split at ran
  · exact tick_instrCount formedHere (profiled_core ran)
  · cases ran
    exact Nat.le_refl _

/-- Every run along a path without traps keeps the tally. -/
theorem run_tallied {N : Nat} (good : Followable path (N + 8)) (noTraps : NoTraps path (N + 8))
    (continues : forall i, i < N + 8 -> isHalt (path i).instr = false) {n : Nat} {p : ProfiledCore}
    (run : iterate ProfiledCore.loop n { core := startCore (path 0) } = .ok p) (within : p.core.instrCount <= N) :
    iterate tick n (startCore (path 0)) = .ok p.core ∧ p.cycleCount = n ∧
      Exists fun accessed => Exists fun executed =>
        Paced path (N + 8) n p.core p.core.instrCount accessed executed ∧ executed <= N + 4 ∧
          Tallied path p executed := by
  induction n generalizing p with
  | zero =>
      cases run
      exact ⟨rfl, rfl, 0, 0, paced_start, Nat.zero_le _, tallied_start (path 0)⟩
  | succ n ih =>
      rcases iterate_succ.mp run with ⟨before, earlier, last⟩
      have monotone := loop_instrCount (startCore_simulates path (N + 8)).formed ⟨n, earlier⟩ last
      rcases ih earlier (Nat.le_trans monotone within) with
        ⟨core, cycles, accessed, executed, paced, bound, tallied⟩
      have sim := paced.simulated
      have ticked := loop_running sim.running last
      have next : iterate CPUCore.tick (n + 1) (startCore (path 0)) = .ok p.core :=
        iterate_succ.mpr ⟨before.core, core, profiled_core ticked⟩
      rcases simulated_tick sim good (by omega) (sim.noHalt continues (by omega)) with ⟨e, t, count, here⟩
      rcases tallied.tick sim good (by omega) here ticked with ⟨sameCore, after⟩
      rcases profiled_stages sim.running ticked with ⟨_, _, _, cycle, _⟩
      subst sameCore
      have pace := paced.tick here
      have ahead := pace.ahead
      have sameCount : p.core.instrCount = accessed := here.after.counted noTraps
      rw [sameCount] at within ⊢
      exact ⟨next, by rw [cycle, cycles], executed, executed + count, pace, by omega, after⟩

/-- The report of a run along a path of ordinary instructions is exact.  With
the instructions that have been executed, the counters of taken and mispredicted
branches are those of the sequential path, the one of predicted branches also has
the branch that waits in ID/EX, and the cycles are the ones that issue, those
lost to load-use stalls, one for each wrong prediction and the first one. -/
theorem counters_exact {N : Nat} (machine : (path 0).regFile.privilege = PRV_M)
    (disabled : hasBit (path 0).regFile.mstatus MSTATUS_MIE = false) (ordinary : OrdinaryPath path (N + 8))
    {n : Nat} {p : ProfiledCore} (run : iterate ProfiledCore.loop n { core := startCore (path 0) } = .ok p)
    (started : 0 < n) (within : p.core.instrCount <= N) :
    let executed := p.core.instrCount + occupied p.core.memWb.slots + occupied p.core.exMem.slots
    p.stats.branchFlushes = tally path takenAt executed ∧
      p.stats.branchesMispredicted = tally path mispredictedAt executed ∧
      p.stats.branchesPredicted = tally path predictedAt executed + (predictsTaken p.core.idEx.slots.s0).toNat ∧
      p.stats.interruptFlushes = 0 ∧
      n = p.stats.dualIssues + p.stats.singleIssues + p.stats.loadUseStalls +
        tally path mispredictedAt executed + 1 := by
  have good := ordinary.followable machine disabled
  have noTraps : NoTraps path (N + 8) := fun i below => (plain_of_ordinary (ordinary.ordinary i below)).quiet
  have continues := fun i below => (plain_of_ordinary (ordinary.ordinary i below)).noHalt
  rcases run_tallied good noTraps continues run within with ⟨_, cycles, accessed, executed, paced, bound, tallied⟩
  have back := paced.simulated.backEnd
  have here : p.core.instrCount + occupied p.core.memWb.slots + occupied p.core.exMem.slots = executed := by
    rw [← back.inWb.counted noTraps, ← back.inMem.counted noTraps]
  have noDiversion : tally path divertsAt executed = 0 := by
    apply List.countP_eq_zero.mpr
    intro i member
    have below := List.mem_range.mp member
    rw [Bool.not_eq_true]
    exact noTraps i (by omega)
  have full : decide (bubbles p.core = 2) = false := by
    have lively := paced.lively
    exact decide_eq_false (by omega)
  have stalls := tallied.stalls
  rw [noDiversion, full, Bool.toNat_false] at stalls
  have sum := tallied.cycles
  rw [here]
  exact ⟨tallied.flushes, tallied.wrong, tallied.predicted, tallied.interrupts, by omega⟩

end Report

/-- Twelve cycles of the counting loop: its one branch is predicted and taken,
so that no cycle is lost to it. -/
theorem counters_exact_countingLoop : Exists fun p =>
    iterate ProfiledCore.loop 12 { core := startCore countingStart } = .ok p ∧ p.core.instrCount = 8 ∧
      p.stats.branchFlushes = 2 ∧
      p.stats.branchFlushes = tally (pathFrom countingStart) takenAt
        (p.core.instrCount + occupied p.core.memWb.slots + occupied p.core.exMem.slots) ∧
      p.stats.branchesMispredicted = 0 ∧
      12 = p.stats.dualIssues + p.stats.singleIssues + p.stats.loadUseStalls + tally (pathFrom countingStart)
        mispredictedAt (p.core.instrCount + occupied p.core.memWb.slots + occupied p.core.exMem.slots) + 1 := by
  have runs : passes (iterate ProfiledCore.loop 12 { core := startCore countingStart }) (fun p =>
      p.core.instrCount == 8 && p.stats.branchFlushes == 2 && p.stats.branchesMispredicted == 0) = true := by
    decide +kernel
  rcases exists_of_passes runs with ⟨p, run, tests⟩
  simp only [Bool.and_eq_true, beq_iff_eq] at tests
  rcases tests with ⟨⟨retired, flushes⟩, wrong⟩
  rcases @counters_exact (pathFrom countingStart) 8 rfl rfl countingLoop_ordinary 12 p run (by decide)
      (Nat.le_of_eq retired) with ⟨flushesEq, _, _, _, cycles⟩
  exact ⟨p, run, retired, flushes, flushesEq, wrong, cycles⟩

end Performance
end SimpleRV
