import SimpleRV.Machine.Statistics
import SimpleRV.Pipeline.Counters
import SimpleRV.Pipeline.IssueOnce
import SimpleRV.Refinement.Simulation

namespace SimpleRV
namespace Performance

open IssueUnit CPUCore Pipeline Refinement Iteration

/-!
# What the counters add up to

An invariant of the counters over every run, whatever the program, its traps
and its interrupts do.  A cycle issues two instructions, one or none, and the
counter says which; what a stage counts as lost shows as a cycle that issues
less.
-/

/-! ## One event at a time -/

/-- A branch in EX/MEM that is taken. -/
def takes (slot : PipelineSlot) : Bool := slot.valid && slot.d.isBranch

/-- An instruction in EX/MEM whose outcome is not the predicted one. -/
def mispredicts (slot : PipelineSlot) : Bool := slot.valid && (slot.d.isBranch != slot.d.predictedTaken)

theorem countInterrupt_eq (stats : PipelineStats) (regFile : RegisterFile) : stats.countInterrupt regFile =
    { stats with interruptFlushes := stats.interruptFlushes + (selectInterrupt regFile).isSome.toNat } := by
  unfold PipelineStats.countInterrupt
  cases selectInterrupt regFile with
  | none => rfl
  | some cause => rfl

theorem countBranch_eq (stats : PipelineStats) (slot : PipelineSlot) : stats.countBranch slot =
    { stats with
      branchFlushes := stats.branchFlushes + (takes slot).toNat
      branchesMispredicted := stats.branchesMispredicted + (mispredicts slot).toNat } := by
  unfold PipelineStats.countBranch takes mispredicts
  cases slot.valid with
  | false => rfl
  | true => cases slot.d.isBranch <;> cases slot.d.predictedTaken <;> rfl

/-- What one call of `decodeAndIssue` adds to the counters, read off the slots
of the new ID/EX. -/
structure IssueCount (stats : PipelineStats) (ifId : IfIdBuffer) (slots : Dual PipelineSlot)
    (after : PipelineStats) : Prop where
  dual : after.dualIssues = stats.dualIssues + (slots.s0.valid && slots.s1.valid).toNat
  single : after.singleIssues = stats.singleIssues + (slots.s0.valid && !slots.s1.valid).toNat
  stall : after.stallCycles = stats.stallCycles + (!slots.s0.valid).toNat
  loadUse : after.loadUseStalls = stats.loadUseStalls + (ifId.slots.s0.valid && !slots.s0.valid).toNat
  predicted : after.branchesPredicted =
    stats.branchesPredicted + (ifId.slots.s0.valid && predictsTaken slots.s0).toNat
  alone : after.memoryPortConflicts + after.branchesPredicted + stats.singleIssues <=
    stats.memoryPortConflicts + stats.branchesPredicted + after.singleIssues
  branchFlushes : after.branchFlushes = stats.branchFlushes
  branchesMispredicted : after.branchesMispredicted = stats.branchesMispredicted
  interruptFlushes : after.interruptFlushes = stats.interruptFlushes

/-- A pair is issued only when one of the two leaves memory alone. -/
theorem countConflict_of_together (stats : PipelineStats) {i0 i1 : DecodedData}
    (together : canIssueTogether i0 i1 = true) : stats.countConflict i0 i1 = stats := by
  unfold PipelineStats.countConflict
  unfold canIssueTogether at together
  cases both : i0.isMemory && i1.isMemory with
  | false => rfl
  | true =>
      rw [both] at together
      cases together

section Slots

variable (stats : PipelineStats) {ifId : IfIdBuffer} {slots : Dual PipelineSlot}

/-- A cycle that issues two instructions. -/
theorem issueCount_dual (valid0 : slots.s0.valid = true) (valid1 : slots.s1.valid = true)
    (notPredicted : (ifId.slots.s0.valid && predictsTaken slots.s0) = false) :
    IssueCount stats ifId slots (stats.countSlots slots) := by
  have counted : stats.countSlots slots = { stats with dualIssues := stats.dualIssues + 1 } := by
    rw [PipelineStats.countSlots, valid0, valid1]
    rfl
  rw [counted]
  constructor <;> simp [valid0, valid1, notPredicted]

/-- A cycle that issues one. -/
theorem issueCount_single (predicted conflicts : Nat) (valid0 : slots.s0.valid = true)
    (invalid1 : slots.s1.valid = false)
    (prediction : predicted = (ifId.slots.s0.valid && predictsTaken slots.s0).toNat)
    (atMost : conflicts + predicted <= 1) : IssueCount stats ifId slots
      (PipelineStats.countSlots { stats with
        branchesPredicted := stats.branchesPredicted + predicted
        memoryPortConflicts := stats.memoryPortConflicts + conflicts } slots) := by
  have counted : forall stats : PipelineStats,
      stats.countSlots slots = { stats with singleIssues := stats.singleIssues + 1 } := by
    intro stats
    rw [PipelineStats.countSlots, valid0, invalid1]
    rfl
  rw [counted]
  refine ⟨?_, ?_, ?_, ?_, ?_, ?_, rfl, rfl, rfl⟩
  · simp [invalid1]
  · simp [valid0, invalid1]
  · simp [valid0]
  · simp [valid0]
  · exact congrArg (stats.branchesPredicted + ·) prediction
  · simp only
    omega

/-- A cycle that issues none. -/
theorem issueCount_stall (loadUse : Nat) (invalid0 : slots.s0.valid = false)
    (waiting : loadUse = ifId.slots.s0.valid.toNat) : IssueCount stats ifId slots
      (PipelineStats.countSlots { stats with loadUseStalls := stats.loadUseStalls + loadUse } slots) := by
  have counted : forall stats : PipelineStats,
      stats.countSlots slots = { stats with stallCycles := stats.stallCycles + 1 } := by
    intro stats
    rw [PipelineStats.countSlots, invalid0]
    rfl
  have noPrediction : predictsTaken slots.s0 = false := by
    rw [predictsTaken, invalid0]
    rfl
  rw [counted]
  constructor <;> simp [invalid0, noPrediction, waiting]

end Slots

/-- Only a branch is predicted taken. -/
theorem predictsTaken_decodeInstruction (slot : PipelineSlot) : predictsTaken (decodeInstruction slot) =
    (slot.valid && ((decode slot.instr).isBranch && (decode slot.instr).predictedTaken)) := by
  rw [predictsTaken, Bool.and_assoc, Bool.and_comm (decodeInstruction slot).d.predictedTaken]
  rfl

/-- Every call of `decodeAndIssue` is one of these cycles. -/
theorem issue_counted (stats : PipelineStats) (ifId : IfIdBuffer) (idEx : IdExBuffer) :
    IssueCount stats ifId (IssueUnit.decodeAndIssue ifId idEx).2.slots
      ((stats.countIssue ifId idEx).countSlots (IssueUnit.decodeAndIssue ifId idEx).2.slots) := by
  unfold IssueUnit.decodeAndIssue PipelineStats.countIssue
  cases valid0 : ifId.slots.s0.valid with
  | false =>
      -- ID/EX stays, and its slots are counted once more
      have idle : (ifId.slots.s0.valid && predictsTaken idEx.slots.s0) = false := by
        rw [valid0]
        rfl
      simp only [Bool.not_false, if_true]
      cases leading : idEx.slots.s0.valid with
      | false => exact issueCount_stall stats 0 leading (by rw [valid0]; rfl)
      | true =>
          cases second : idEx.slots.s1.valid with
          | false => exact issueCount_single stats 0 0 leading second (by rw [idle]; rfl) (Nat.zero_le 1)
          | true => exact issueCount_dual stats leading second idle
  | true =>
      have prediction := predictsTaken_decodeInstruction ifId.slots.s0
      rw [valid0, Bool.true_and] at prediction
      simp only [Bool.not_true, Bool.false_eq_true, if_false]
      split
      · exact issueCount_stall stats 1 rfl (by rw [valid0]; rfl)
      · split
        · rename_i taken
          have one : predictsTaken (decodeInstruction ifId.slots.s0) = true := prediction.trans taken
          refine issueCount_single stats 1 0 valid0 rfl ?_ (Nat.le_refl 1)
          change 1 = (ifId.slots.s0.valid && predictsTaken (decodeInstruction ifId.slots.s0)).toNat
          rw [valid0, one]
          rfl
        · rename_i notTaken
          have straight : (ifId.slots.s0.valid && predictsTaken (decodeInstruction ifId.slots.s0)) = false := by
            rw [valid0, prediction]
            exact Bool.eq_false_of_not_eq_true notTaken
          have none := congrArg Bool.toNat straight.symm
          cases valid1 : (decodeInstruction ifId.slots.s1).valid with
          | false =>
              exact issueCount_single stats 0 0 valid0 rfl none (Nat.zero_le 1)
          | true =>
              simp only [Bool.true_and, if_true]
              split
              · rename_i together
                rw [countConflict_of_together stats together]
                exact issueCount_dual stats valid0 valid1 straight
              · unfold PipelineStats.countConflict
                split
                · exact issueCount_single stats 0 1 valid0 rfl none (Nat.le_refl 1)
                · exact issueCount_single stats 0 0 valid0 rfl none (Nat.zero_le 1)

/-- The three kinds of cycle. -/
theorem IssueCount.cycle {stats after : PipelineStats} {ifId : IfIdBuffer} {slots : Dual PipelineSlot}
    (count : IssueCount stats ifId slots after) : after.dualIssues + after.singleIssues + after.stallCycles =
      stats.dualIssues + stats.singleIssues + stats.stallCycles + 1 := by
  rw [count.dual, count.single, count.stall]
  cases slots.s0.valid <;> cases slots.s1.valid <;> simp <;> omega

/-- A cycle issues what is in the slots. -/
theorem IssueCount.issued {stats after : PipelineStats} {ifId : IfIdBuffer} {slots : Dual PipelineSlot}
    (count : IssueCount stats ifId slots after) (ordered : slots.s1.valid = true -> slots.s0.valid = true) :
    2 * after.dualIssues + after.singleIssues = 2 * stats.dualIssues + stats.singleIssues + occupied slots := by
  rw [count.dual, count.single, occupied]
  cases valid0 : slots.s0.valid with
  | false => simp [invalid_of_ordered ordered valid0]
  | true => cases slots.s1.valid <;> simp <;> omega

/-- A cycle that issues at all fills slot 0. -/
theorem IssueCount.leading {stats after : PipelineStats} {ifId : IfIdBuffer} {slots : Dual PipelineSlot}
    (count : IssueCount stats ifId slots after) :
    after.dualIssues + after.singleIssues = stats.dualIssues + stats.singleIssues + slots.s0.valid.toNat := by
  rw [count.dual, count.single]
  cases slots.s0.valid <;> cases slots.s1.valid <;> simp <;> omega

/-! ## Slots in use -/

theorem occupied_mono {later earlier : Dual PipelineSlot}
    (kept : forall lane, (later.get lane).valid = true -> (earlier.get lane).valid = true) :
    occupied later <= occupied earlier := by
  have kept0 := kept 0
  have kept1 := kept 1
  simp only [Dual.get_zero, Dual.get_one] at kept0 kept1
  unfold occupied
  cases valid0 : later.s0.valid <;> cases valid1 : later.s1.valid <;> simp_all

/-- Write-back counts at most what is in MEM/WB. -/
theorem atMemoryAccess_instrCount (s : CPUCore) :
    s.atMemoryAccess.instrCount <= s.instrCount + occupied s.memWb.slots := by
  have lane : forall (s : CPUCore) lane,
      (s.writeBackLane lane).instrCount <= s.instrCount + (s.memWb.slots.get lane).valid.toNat := by
    intro s lane
    unfold writeBackLane
    cases valid : (s.memWb.slots.get lane).valid with
    | false => simp [valid]
    | true =>
        simp only [valid, Bool.not_true, Bool.false_eq_true, if_false]
        split
        · exact Nat.le_add_right _ _
        · exact Nat.le_refl _
  have start : s.atWriteBack.instrCount = s.instrCount := (atWriteBack_counters s).1
  rcases writeBackLane_frame s.atWriteBack 0 with ⟨regFile, count, running, frame⟩
  have first := lane s.atWriteBack 0
  have second := lane (s.atWriteBack.writeBackLane 0) 1
  have sameLatch : (s.atWriteBack.writeBackLane 0).memWb = s.memWb := by
    rw [frame]
    exact (atWriteBack_backEnd s).2
  rw [(atWriteBack_backEnd s).2, start] at first
  rw [sameLatch] at second
  unfold atMemoryAccess writeBack occupied
  simp only [Dual.get_zero, Dual.get_one] at first second
  cases valid0 : s.memWb.slots.s0.valid <;> cases valid1 : s.memWb.slots.s1.valid <;>
    simp [valid0, valid1] at first second ⊢ <;> omega

/-- What the memory stage hands on was in EX/MEM. -/
theorem memoryAccess_valid {s : CPUCore} {out : CPUCore × Option (Fin 2)} (outcome : StageOutcome s out)
    (lane : Fin 2) (valid : (out.1.memWb.slots.get lane).valid = true) : (s.exMem.slots.get lane).valid = true := by
  have start : forall other, (({} : MemWbBuffer).slots.get other).valid = true ->
      (s.exMem.slots.get other).valid = true := forall_lane_of_invalid rfl rfl
  refine @StageOutcome.preserves (fun t => forall other, (t.memWb.slots.get other).valid = true ->
    (s.exMem.slots.get other).valid = true) s out outcome start ?_ lane valid
  intro mem memWb current after before laneOutcome
  -- the slot that moves on was valid in EX/MEM, the others are as before
  have moved : forall slot other, (s.exMem.slots.get current).valid = true ->
      ((memWb.slots.set current slot).get other).valid = true -> (s.exMem.slots.get other).valid = true := by
    intro slot other inUse inLatch
    by_cases same : other = current
    · exact same ▸ inUse
    · rw [Dual.get_set_of_ne _ same] at inLatch
      exact before other inLatch
  cases laneOutcome with
  | empty invalid => exact before
  | finished value mem valid access => exact fun other => moved _ other valid
  | trapped cause mem valid access => exact fun other => moved _ other valid

/-- What the execute stage hands on was in ID/EX. -/
theorem execute_exMem_valid (e : CPUCore) (lane : Fin 2) (valid : (e.execute.exMem.slots.get lane).valid = true) :
    (e.idEx.slots.get lane).valid = true := by
  have engine : forall other, ((ExecutionEngine.execute e.idEx e.exMem e.memWb e.regFile).slots.get other).valid =
      (e.idEx.slots.get other).valid := by
    intro other
    rcases engine_slot e.idEx e.exMem e.memWb e.regFile other with ⟨latch, slotEq⟩
    rw [slotEq]
    exact executedSlot_valid e.idEx e.memWb e.regFile latch other
  rcases committed_frame e with ⟨regFile, memory, frame⟩
  have resolved : forall other, (e.executeResolved.exMem.slots.get other).valid = true ->
      (e.idEx.slots.get other).valid = true := by
    intro other inLatch
    rcases (executeResolved_resolution e).exMem with same | squashed
    · rw [same, frame] at inLatch
      rw [← engine other]
      exact inLatch
    · rw [squashed, frame] at inLatch
      cases other using laneCases with
      | zero =>
          rw [← engine 0]
          exact inLatch
      | one => exact absurd inLatch Bool.false_ne_true
  have outcome := handleSlotTraps_outcome e.executeResolved
  unfold CPUCore.execute at valid
  generalize e.executeResolved.handleSlotTraps = t at outcome valid
  cases outcome with
  | none quiet => exact resolved lane valid
  | taken other found =>
      cases lane using laneCases with
      | zero => exact absurd valid Bool.false_ne_true
      | one => exact absurd valid Bool.false_ne_true

/-- Fetch leaves the latches behind it alone, or flushes them. -/
theorem fetch_valid {s t : CPUCore} (fetched : Fetch s t) (lane : Fin 2) :
    ((t.idEx.slots.get lane).valid = true -> (s.idEx.slots.get lane).valid = true) ∧
      ((t.exMem.slots.get lane).valid = true -> (s.exMem.slots.get lane).valid = true) := by
  have flushed : forall {slots : Dual PipelineSlot} {fact : Fin 2 -> Prop}, slots.s0.valid = false ->
      slots.s1.valid = false -> (slots.get lane).valid = true -> fact lane :=
    fun invalid0 invalid1 => forall_lane_of_invalid invalid0 invalid1 lane
  cases fetched with
  | full valid => exact ⟨id, id⟩
  | nothing mem empty same => exact ⟨id, id⟩
  | one word mem empty same => exact ⟨id, id⟩
  | pair word0 word1 mem empty same => exact ⟨id, id⟩
  | fault found mem faults =>
      exact ⟨@flushed _ (fun other => (s.idEx.slots.get other).valid = true) rfl rfl,
        @flushed _ (fun other => (s.exMem.slots.get other).valid = true) rfl rfl⟩
  | faultNearEnd found mem faults =>
      exact ⟨@flushed _ (fun other => (s.idEx.slots.get other).valid = true) rfl rfl,
        @flushed _ (fun other => (s.exMem.slots.get other).valid = true) rfl rfl⟩

/-- A wrong prediction flushes the front end in the same cycle. -/
theorem execute_flushed {e : CPUCore} (wrong : mispredicts e.runEngine.exMem.slots.s0 = true) :
    e.execute.ifId = {} ∧ e.execute.idEx = {} := by
  rcases committed_frame e with ⟨regFile, memory, frame⟩
  have resolution := executeResolved_resolution e
  rw [frame] at resolution
  have flushed : e.executeResolved.ifId = {} ∧ e.executeResolved.idEx = {} := by
    generalize e.executeResolved = x at resolution
    rcases Bool.and_eq_true_iff.mp wrong with ⟨valid, outcome⟩
    cases resolution with
    | fallsThrough notTaken =>
        rcases notTaken valid with ⟨noBranch, noPrediction⟩
        have straight : e.runEngine.exMem.slots.s0.d.isBranch = false := noBranch
        have unpredicted : e.runEngine.exMem.slots.s0.d.predictedTaken = false := noPrediction
        rw [straight, unpredicted] at outcome
        cases outcome
    | asPredicted _ taken predicted =>
        have branches : e.runEngine.exMem.slots.s0.d.isBranch = true := taken
        have asSaid : e.runEngine.exMem.slots.s0.d.predictedTaken = true := predicted
        rw [branches, asSaid] at outcome
        cases outcome
    | redirected target _ mispredicted destination => exact ⟨rfl, rfl⟩
  rcases (handleSlotTraps_outcome e.executeResolved).front with ⟨sameIfId, sameIdEx⟩ | kept
  · exact ⟨sameIfId.trans flushed.1, sameIdEx.trans flushed.2⟩
  · exact kept

/-! ## One cycle -/

/-- The books of a profiled core.  A slot in use behind decode has been counted
as issued, and every lost cycle that a cause claims is among the stalls. -/
structure Accounted (p : ProfiledCore) : Prop where
  formed : WellFormed p.core
  cycles : p.stats.dualIssues + p.stats.singleIssues + p.stats.stallCycles = p.cycleCount
  issued : p.core.instrCount + occupied p.core.memWb.slots + occupied p.core.exMem.slots +
    occupied p.core.idEx.slots <= 2 * p.stats.dualIssues + p.stats.singleIssues
  branches : p.stats.branchFlushes + p.core.idEx.slots.s0.valid.toNat <= p.stats.dualIssues + p.stats.singleIssues
  alone : p.stats.memoryPortConflicts + p.stats.branchesPredicted <= p.stats.singleIssues
  stalled : p.stats.loadUseStalls + p.stats.branchesMispredicted + p.stats.interruptFlushes <= p.stats.stallCycles

/-- The stages of a cycle of the profiled core. -/
theorem profiled_stages {p q : ProfiledCore} (running : p.core.running = true) (ran : p.tick = .ok q) :
    Exists fun e => p.core.atExecute = .ok e ∧ e.execute.decodeAndIssue.fetch = .ok q.core ∧
      q.cycleCount = p.cycleCount + 1 ∧
      q.stats = ((((p.stats.countInterrupt p.core.updateTimer.regFile).countBranch
        e.runEngine.exMem.slots.s0).countIssue e.execute.ifId e.execute.idEx).countSlots
          e.execute.decodeAndIssue.idEx.slots) := by
  unfold ProfiledCore.tick at ran
  rw [running] at ran
  rcases bind_eq_ok.mp ran with ⟨⟨e, trapped⟩, accessed, rest⟩
  rcases bind_eq_ok.mp rest with ⟨t, fetched, done⟩
  cases done
  refine ⟨e, ?_, fetched, rfl, rfl⟩
  have accessedHere : p.core.atMemoryAccess.memoryAccess = .ok (e, trapped) := accessed
  rw [atExecute, accessedHere]
  rfl

/-- The profiled core makes the ticks of the core. -/
theorem profiled_core {p q : ProfiledCore} (ran : p.tick = .ok q) : p.core.tick = .ok q.core := by
  cases running : p.core.running with
  | false =>
      unfold ProfiledCore.tick at ran
      rw [running] at ran
      cases ran
      rw [tick, running]
      rfl
  | true =>
      rcases profiled_stages running ran with ⟨e, executing, fetched, _⟩
      exact (tick_of_atExecute running executing).trans fetched

/-- An interrupt empties the front end before the cycle starts. -/
theorem interrupt_flushed {s e : CPUCore} (wellFormed : WellFormed s) (executing : s.atExecute = .ok e)
    (taken : (selectInterrupt s.updateTimer.regFile).isSome = true) : e.ifId = {} ∧ e.idEx = {} := by
  rcases Option.isSome_iff_exists.mp taken with ⟨cause, selected⟩
  have flushed : s.atMemoryAccess.ifId = {} ∧ s.atMemoryAccess.idEx = {} := by
    rcases writeBack_frame s.atWriteBack with ⟨regFile, count, running, frame⟩
    rw [atMemoryAccess, frame]
    unfold atWriteBack checkAndHandleInterrupts
    rw [selected]
    exact ⟨rfl, rfl⟩
  rcases atExecute_outcome wellFormed executing with ⟨trapped, outcome⟩
  rcases outcome.front with ⟨sameIfId, sameIdEx⟩ | kept
  · exact ⟨sameIfId.trans flushed.1, sameIdEx.trans flushed.2⟩
  · exact kept

/-- A branch that resolves was in slot 0 of ID/EX. -/
theorem runEngine_valid (e : CPUCore) : e.runEngine.exMem.slots.s0.valid = e.idEx.slots.s0.valid := by
  rcases engine_slot e.idEx e.exMem e.memWb e.regFile 0 with ⟨latch, slotEq⟩
  change ((ExecutionEngine.execute e.idEx e.exMem e.memWb e.regFile).slots.get 0).valid = _
  rw [slotEq]
  exact executedSlot_valid e.idEx e.memWb e.regFile latch 0

/-- A flushed front end issues nothing. -/
theorem decode_flushed {x : CPUCore} (flushed : x.ifId = {} ∧ x.idEx = {}) :
    x.ifId.slots.s0.valid = false ∧ x.decodeAndIssue.idEx.slots.s0.valid = false := by
  have empty : x.ifId.slots.s0.valid = false := by rw [flushed.1]
  have invalid : x.idEx.slots.s0.valid = false := by rw [flushed.2]
  exact ⟨empty, (congrArg (fun s : CPUCore => s.idEx.slots.s0.valid) (decodeAndIssue_of_empty empty invalid)).trans
    invalid⟩

/-- An interrupt and a wrong prediction each cost the cycle, and never share it. -/
theorem lost_cycle {s e : CPUCore} (wellFormed : WellFormed s) (executing : s.atExecute = .ok e) :
    let lost := (mispredicts e.runEngine.exMem.slots.s0).toNat + (selectInterrupt s.updateTimer.regFile).isSome.toNat
    lost = 0 ∨ lost = 1 ∧ e.execute.ifId.slots.s0.valid = false ∧
      e.execute.decodeAndIssue.idEx.slots.s0.valid = false := by
  cases interrupted : (selectInterrupt s.updateTimer.regFile).isSome with
  | true =>
      have flushed := interrupt_flushed wellFormed executing interrupted
      have empty : forall lane, (e.idEx.slots.get lane).valid = false := by
        intro lane
        rw [flushed.2]
        cases lane using laneCases with
        | zero => rfl
        | one => rfl
      have noBranch : mispredicts e.runEngine.exMem.slots.s0 = false := by
        unfold mispredicts
        rw [runEngine_valid, show e.idEx.slots.s0.valid = false from empty 0]
        rfl
      refine .inr ⟨by rw [noBranch]; rfl, decode_flushed ?_⟩
      rw [execute_of_invalid empty]
      exact flushed
  | false =>
      cases wrong : mispredicts e.runEngine.exMem.slots.s0 with
      | false => exact .inl rfl
      | true => exact .inr ⟨rfl, decode_flushed (execute_flushed wrong)⟩

/-- The cycle rule: a tick while the simulator runs keeps the books. -/
theorem Accounted.tick {p q : ProfiledCore} (books : Accounted p) (running : p.core.running = true)
    (ran : p.tick = .ok q) : Accounted q := by
  rcases profiled_stages running ran with ⟨e, executing, fetched, cycles, stats⟩
  have formedE := atExecute_wellFormed books.formed executing
  have formedX := execute_wellFormed formedE
  have fetching := fetch_fetch (decodeAndIssue_wellFormed formedX).frontEnd.ordered fetched
  rcases atExecute_outcome books.formed executing with ⟨trapped, outcome⟩
  have retired := atMemoryAccess_instrCount p.core
  have sameCount : q.core.instrCount = p.core.atMemoryAccess.instrCount :=
    (tick_counters books.formed running (profiled_core ran)).1
  have inWb : occupied q.core.memWb.slots <= occupied p.core.exMem.slots := by
    apply occupied_mono
    intro lane valid
    rw [fetch_memWb fetching, show e.execute.decodeAndIssue.memWb = e.execute.memWb from rfl, execute_memWb e] at valid
    rw [← (atMemoryAccess_backEnd p.core).1]
    exact memoryAccess_valid outcome lane valid
  have keptIdEx : forall lane, (e.idEx.slots.get lane).valid = true -> (p.core.idEx.slots.get lane).valid = true := by
    intro lane valid
    rcases atExecute_front books.formed executing with ⟨_, same⟩ | ⟨_, flushed⟩
    · rw [← same]
      exact valid
    · rw [flushed] at valid
      exact (@forall_lane_of_invalid _ (fun _ => False) rfl rfl lane valid).elim
  have inMem : occupied q.core.exMem.slots <= occupied p.core.idEx.slots := by
    apply occupied_mono
    intro lane valid
    exact keptIdEx lane (execute_exMem_valid e lane ((fetch_valid fetching lane).2 valid))
  have inEx : occupied q.core.idEx.slots <= occupied e.execute.decodeAndIssue.idEx.slots :=
    occupied_mono (fun lane => (fetch_valid fetching lane).1)
  have leading : q.core.idEx.slots.s0.valid.toNat <= e.execute.decodeAndIssue.idEx.slots.s0.valid.toNat :=
    Bool.toNat_le_toNat (fetch_valid fetching 0).1
  have taken : (takes e.runEngine.exMem.slots.s0).toNat <= p.core.idEx.slots.s0.valid.toNat := by
    apply Bool.toNat_le_toNat
    intro branches
    have inUse := (Bool.and_eq_true_iff.mp branches).1
    rw [runEngine_valid] at inUse
    exact keptIdEx 0 inUse
  have counts := issue_counted ((p.stats.countInterrupt p.core.updateTimer.regFile).countBranch
    e.runEngine.exMem.slots.s0) e.execute.ifId e.execute.idEx
  rw [show ((((p.stats.countInterrupt p.core.updateTimer.regFile).countBranch
    e.runEngine.exMem.slots.s0).countIssue e.execute.ifId e.execute.idEx).countSlots
      (IssueUnit.decodeAndIssue e.execute.ifId e.execute.idEx).2.slots) = q.stats from stats.symm,
    countInterrupt_eq, countBranch_eq] at counts
  have sameSlots : e.execute.decodeAndIssue.idEx = (IssueUnit.decodeAndIssue e.execute.ifId e.execute.idEx).2 := rfl
  rw [← sameSlots] at counts
  have cycle := counts.cycle
  have issued := counts.issued (decodeAndIssue_wellFormed formedX).frontEnd.issued.ordered
  have first := counts.leading
  rcases counts with ⟨_, _, stall, loadUse, _, alone, flushes, wrong, interrupts⟩
  simp only at cycle issued first stall loadUse alone flushes wrong interrupts
  refine ⟨tick_wellFormed _ _ books.formed (profiled_core ran), ?_, ?_, ?_, ?_, ?_⟩
  · rw [cycle, cycles, books.cycles]
  · have before := books.issued
    omega
  · have before := books.branches
    omega
  · have before := books.alone
    omega
  · have before := books.stalled
    rcases lost_cycle books.formed executing with none | ⟨lost, empty, nothing⟩
    · have atMost : (e.execute.ifId.slots.s0.valid && !e.execute.decodeAndIssue.idEx.slots.s0.valid).toNat <=
          (!e.execute.decodeAndIssue.idEx.slots.s0.valid).toNat :=
        Bool.toNat_le_toNat (fun both => (Bool.and_eq_true_iff.mp both).2)
      omega
    · rw [nothing, Bool.not_false, Bool.toNat_true] at stall
      rw [empty, Bool.false_and, Bool.toNat_false] at loadUse
      omega

/-! ## Every run -/

theorem accounted_start {s : CPUCore} (wellFormed : WellFormed s) (counted : s.instrCount = 0)
    (inWb : occupied s.memWb.slots = 0) (inMem : occupied s.exMem.slots = 0) (inEx : s.idEx = {}) :
    Accounted { core := s } where
  formed := wellFormed
  cycles := rfl
  issued := by
    rw [inEx]
    change s.instrCount + occupied s.memWb.slots + occupied s.exMem.slots + 0 <= 0
    omega
  branches := by
    rw [inEx]
    exact Nat.le_refl 0
  alone := Nat.le_refl 0
  stalled := Nat.le_refl 0

theorem loop_accounted (p q : ProfiledCore) (books : Accounted p) (ran : p.loop = .ok q) : Accounted q := by
  unfold ProfiledCore.loop at ran
  split at ran
  · exact books.tick ‹_› ran
  · cases ran
    exact books

/-- The report of every run adds up.  The three kinds of cycle are all there
are; what retires was issued, so that the IPC is at most two; conflicts on the
memory port and predicted branches are cycles with a single issue; and load-use
stalls, wrong predictions and interrupts are cycles without one. -/
theorem counters_consistent (config : SystemConfig) (image : Addr -> Byte) (keyboard : HostKeyboard)
    {p : ProfiledCore} (reached : Reaches ProfiledCore.loop { core := init config image keyboard } p) :
    p.stats.dualIssues + p.stats.singleIssues + p.stats.stallCycles = p.cycleCount ∧
      p.core.instrCount <= 2 * p.stats.dualIssues + p.stats.singleIssues ∧
      p.stats.branchFlushes <= p.stats.dualIssues + p.stats.singleIssues ∧
      p.stats.memoryPortConflicts + p.stats.branchesPredicted <= p.stats.singleIssues ∧
      p.stats.loadUseStalls + p.stats.branchesMispredicted + p.stats.interruptFlushes <= p.stats.stallCycles := by
  have books : Accounted p := reached.invariant
    (accounted_start (init_wellFormed config image keyboard) rfl rfl rfl rfl) loop_accounted
  have issued := books.issued
  have branches := books.branches
  exact ⟨books.cycles, by omega, by omega, books.alone, books.stalled⟩

/-- A load, its use, a branch that is not predicted but taken, and a loop. -/
def stallingProgram : List (Addr × Word) :=
  [(0, 0x10002083#32), (4, 0x00108133#32), (8, 0x00000463#32), (12, 0x00100193#32), (16, 0x0000006F#32)]

/-- Its first twelve cycles: three issue nothing, one of them for the load and
one for the branch. -/
theorem counters_consistent_stalling : Exists fun p =>
    iterate ProfiledCore.loop 12 { core := init .default128MB (ramImage stallingProgram) {} } = .ok p ∧
      p.stats.loadUseStalls = 1 ∧ p.stats.branchesMispredicted = 1 ∧ p.stats.stallCycles = 3 ∧
      p.stats.dualIssues + p.stats.singleIssues + p.stats.stallCycles = p.cycleCount := by
  have runs : passes (iterate ProfiledCore.loop 12 { core := init .default128MB (ramImage stallingProgram) {} })
      (fun p => p.stats.loadUseStalls == 1 && p.stats.branchesMispredicted == 1 &&
        p.stats.stallCycles == 3) = true := by
    decide +kernel
  rcases exists_of_passes runs with ⟨p, run, tests⟩
  simp only [Bool.and_eq_true, beq_iff_eq] at tests
  exact ⟨p, run, tests.1.1, tests.1.2, tests.2,
    (counters_consistent .default128MB (ramImage stallingProgram) {} ⟨12, run⟩).1⟩

end Performance
end SimpleRV
