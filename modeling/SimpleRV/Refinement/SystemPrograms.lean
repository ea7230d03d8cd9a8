import SimpleRV.Refinement.SimulationTick

namespace SimpleRV
namespace Refinement

open RegisterFile IssueUnit CPUCore Pipeline InFlight Iteration

/-!
# Programs with system instructions

CSR writes, traps and trap returns take effect in the execute stage, two
stages before an instruction retires.  The runs of this module carry a log of
the instructions that the stage processes.  The log is the sequential path,
and the CSRs are those of the sequential machine at its end, so that nothing
fetched down a wrong path has touched them.
-/

/-- The first `length` instructions of a path that runs in machine mode with
every interrupt disabled in `mie`. -/
structure SystemPath (path : Nat -> SeqState) (length : Nat) : Prop where
  steps : forall i, i < length -> (path i).step = .ok (path (i + 1))
  allowed : forall i, i < length -> (path i).Ordinary ∨ (path i).SystemInstr
  inBounds : forall i, i < length -> (path i).InBounds
  codeKept : CodeKept path length
  mieClear : forall i, i <= length -> (path i).regFile.mie = 0

variable {path : Nat -> SeqState} {length : Nat}

/-- Such a path stays in machine mode. -/
theorem SystemPath.machine (system : SystemPath path length) (start : (path 0).regFile.privilege = PRV_M)
    {i : Nat} (within : i <= length) : (path i).regFile.privilege = PRV_M := by
  induction i with
  | zero => exact start
  | succ i ih =>
      have before := ih (Nat.le_of_succ_le within)
      rcases allowed_cases ((system.allowed i within).imp_right .inl) with quiet | ⟨traps, stays⟩
      · have same := (step_completes before (system.inBounds i within).access quiet (system.steps i within)).csrs
        rw [same.privilege]
        split
        · exact (writeCsr_privilege _ _ _).trans before
        · exact before
      · rw [step_traps traps (system.steps i within)]
        exact trapTarget_machine before stays

theorem SystemPath.followable (system : SystemPath path length) (start : (path 0).regFile.privilege = PRV_M) :
    Followable path length where
  steps := system.steps
  allowed i below := (system.allowed i below).imp_right .inl
  inBounds := system.inBounds
  codeKept := system.codeKept
  noInterrupts i within := ⟨system.machine start within, .inr (system.mieClear i within)⟩

/-! ## Runs with a log -/

structure Processing where
  core : CPUCore
  log : List (Addr × Word)

/-- A tick that logs what `execute` processes. -/
def processingTick (run : Processing) : Except Crash Processing :=
  if !run.core.running then .ok { run with core := run.core.atWriteBack }
  else do
    let e ← run.core.atExecute
    let t ← e.execute.decodeAndIssue.fetch
    return ⟨t, run.log ++ processed e⟩

/-- The core of such a run makes its ticks. -/
theorem processingTick_core (run : Processing) :
    (processingTick run).map Processing.core = run.core.tick := by
  unfold processingTick CPUCore.tick atFetch atDecode
  split
  · rfl
  · cases run.core.atExecute with
    | error failure => rfl
    | ok e =>
        change Except.map Processing.core (Except.bind (e.execute.decodeAndIssue.fetch) _) =
          e.execute.decodeAndIssue.fetch
        cases e.execute.decodeAndIssue.fetch with
        | error failure => rfl
        | ok t => rfl

theorem processing_run {n : Nat} {first run : Processing} (ran : iterate processingTick n first = .ok run) :
    iterate CPUCore.tick n first.core = .ok run.core := by
  induction n generalizing run with
  | zero =>
      cases ran
      rfl
  | succ n ih =>
      rcases iterate_succ.mp ran with ⟨before, earlier, last⟩
      refine iterate_succ.mpr ⟨before.core, ih earlier, ?_⟩
      rw [← processingTick_core, last]
      rfl

theorem segment_append (path : Nat -> SeqState) (count more : Nat) :
    segment path 0 count ++ segment path count more = segment path 0 (count + more) := by
  unfold segment
  rw [List.range_add, List.map_append, List.map_map]
  simp [Function.comp_def]

theorem segment_length (path : Nat -> SeqState) (start count : Nat) : (segment path start count).length = count := by
  simp [segment]

/-- The log is the path up to the point that the simulation has reached. -/
structure LogOnPath (path : Nat -> SeqState) (length : Nat) (run : Processing) (executed : Nat) : Prop where
  simulated : Exists fun retired => Exists fun accessed => Simulates path length run.core retired accessed executed
  log : run.log = segment path 0 executed

/-- One tick keeps the log on the path. -/
theorem LogOnPath.tick {run : Processing} {executed : Nat} (here : LogOnPath path length run executed)
    (good : Followable path length) (continues : forall i, i < length -> isHalt (path i).instr = false)
    (room : executed + 3 < length) : Exists fun next => Exists fun count =>
      processingTick run = .ok next ∧ LogOnPath path length next (executed + count) := by
  rcases here.simulated with ⟨retired, accessed, sim⟩
  rcases sim.tick good room (sim.noHalt continues (by omega)) with ⟨e, t, count, accessOk, ticked, _, after, log⟩
  have fetched : e.execute.decodeAndIssue.fetch = .ok t :=
    (tick_of_atExecute sim.running accessOk).symm.trans ticked
  refine ⟨⟨t, run.log ++ processed e⟩, count, ?_, ⟨accessed, executed, after⟩, ?_⟩
  · unfold processingTick
    rw [sim.running, accessOk]
    simp only [Bool.not_true, Bool.false_eq_true, if_false, bind, Except.bind, fetched]
    rfl
  · rw [here.log, log, segment_append]

theorem run_logOnPath {N : Nat} (good : Followable path (N + 8))
    (continues : forall i, i < N + 8 -> isHalt (path i).instr = false) {n : Nat} {run : Processing}
    (ran : iterate processingTick n ⟨startCore (path 0), []⟩ = .ok run) (within : run.log.length <= N) :
    LogOnPath path (N + 8) run run.log.length := by
  have lengthEq : forall {run : Processing} {executed : Nat}, LogOnPath path (N + 8) run executed ->
      LogOnPath path (N + 8) run run.log.length := by
    intro run executed here
    have same : run.log.length = executed := by rw [here.log, segment_length]
    rw [same]
    exact here
  induction n generalizing run with
  | zero =>
      cases ran
      exact ⟨⟨0, 0, startCore_simulates path (N + 8)⟩, rfl⟩
  | succ n ih =>
      rcases iterate_succ.mp ran with ⟨before, earlier, last⟩
      have grows : before.log.length <= run.log.length := by
        unfold processingTick at last
        split at last
        · cases last
          exact Nat.le_refl _
        · rcases bind_eq_ok.mp last with ⟨e, _, rest⟩
          rcases bind_eq_ok.mp rest with ⟨t, _, done⟩
          cases done
          rw [List.length_append]
          exact Nat.le_add_right _ _
      have here := ih earlier (Nat.le_trans grows within)
      rcases here.tick good continues (by omega) with ⟨next, count, ticked, after⟩
      cases last.symm.trans ticked
      exact lengthEq after

/-- System instructions take effect in program order and never speculatively.
The instructions that the execute stage has processed are the sequential path,
the privilege and every CSR other than `mip` and `sip` are those of the
sequential machine behind them, and the simulator goes on.  The run is one of
the core. -/
theorem system_in_program_order {N : Nat} (start : (path 0).regFile.privilege = PRV_M)
    (system : SystemPath path (N + 8)) {n : Nat} {run : Processing}
    (ran : iterate processingTick n ⟨startCore (path 0), []⟩ = .ok run) (within : run.log.length <= N) :
    run.log = segment path 0 run.log.length ∧
      run.core.regFile.privilege = (path run.log.length).regFile.privilege ∧
      (forall csr, csr ≠ CSR_MIP -> csr ≠ CSR_SIP ->
        run.core.regFile.readCsr csr = (path run.log.length).regFile.readCsr csr) ∧
      (Exists fun next => processingTick run = .ok next) ∧
      iterate CPUCore.tick n (startCore (path 0)) = .ok run.core := by
  have good := system.followable start
  have continues := fun i below => noHalt_of_real (system.allowed i below)
  have here := run_logOnPath good continues ran within
  rcases here.simulated with ⟨retired, accessed, sim⟩
  have csrs := sim.backEnd.csrs
  rcases here.tick good continues (by omega) with ⟨next, _, ticked, _⟩
  exact ⟨here.log, csrs.privilege, fun csr notMip notSip => csrs.readCsr notMip notSip, ⟨next, ticked⟩,
    processing_run ran⟩

/-! ## A trap and its return -/

/-- `addi x1, x0, 32; csrw mtvec, x1; ecall` and a loop, with
`csrr x2, mcause; mret` at the trap vector. -/
def trapAndReturn : List (Addr × Word) :=
  [(0, 0x02000093#32), (4, 0x30509073#32), (8, 0x00000073#32), (12, 0x0000006F#32), (32, 0x34202173#32),
    (36, 0x30200073#32)]

def trapStart : SeqState where
  memory := { memory := ramImage trapAndReturn }
  regFile := {}
  pc := 0

theorem trapAndReturn_system : SystemPath (pathFrom trapStart) (6 + 8) := by
  have passed : everyState SeqState.step (fun r => (decide r.Ordinary || decide r.SystemInstr) && decide r.InBounds &&
      decide (Separate 256 r) && decide (r.regFile.mie = 0)) (6 + 8 + 1) trapStart = true := by
    decide +kernel
  have tested := fun i below => @pathFrom_tested _ _ _ passed i below
  simp only [Bool.and_eq_true, Bool.or_eq_true, decide_eq_true_eq] at tested
  exact ⟨fun i below => (tested i (Nat.lt_succ_of_lt below)).2,
    fun i below => (tested i (Nat.lt_succ_of_lt below)).1.1.1.1,
    fun i below => (tested i (Nat.lt_succ_of_lt below)).1.1.1.2,
    codeKept_of_separate (fun i below => (tested i (Nat.lt_succ_of_lt below)).1.1.2),
    fun i within => (tested i (Nat.lt_succ_of_le within)).1.2⟩

/-- Six instructions into that program the ECALL has been handled. -/
theorem trapAndReturn_in_order : Exists fun run =>
    iterate processingTick 10 ⟨startCore trapStart, []⟩ = .ok run ∧ run.log.length = 6 ∧
      run.log = segment (pathFrom trapStart) 0 run.log.length := by
  have runs : passes (iterate processingTick 10 ⟨startCore trapStart, []⟩) (fun run => run.log.length == 6) = true := by
    decide +kernel
  rcases exists_of_passes runs with ⟨run, ran, counted⟩
  have count : run.log.length = 6 := beq_iff_eq.mp counted
  exact ⟨run, ran, count,
    (@system_in_program_order (pathFrom trapStart) 6 rfl trapAndReturn_system 10 run ran (Nat.le_of_eq count)).1⟩

end Refinement
end SimpleRV
