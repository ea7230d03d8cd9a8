import SimpleRV.Privilege.ControlEvents

namespace SimpleRV
namespace Privilege

open CPUCore RegisterFile IssueUnit Pipeline Iteration

/-!
# Alignment of the pc

The core has no exception for a misaligned instruction address: it goes to
whatever target a jump, a branch or a CSR gives it.  It brings in no
misalignment of its own.  Prediction, recovery, fetch, traps, interrupts and
returns keep the pc, the pcs of the latches and the four CSRs that the pc is
loaded from on multiples of four, as long as the targets and the values written
to these CSRs are.
-/

def Aligned (addr : Addr) : Prop := addr.toNat % 4 = 0

instance (addr : Addr) : Decidable (Aligned addr) := inferInstanceAs (Decidable (_ = _))

theorem Aligned.add {left right : Addr} (first : Aligned left) (second : Aligned right) : Aligned (left + right) := by
  unfold Aligned at *
  rw [BitVec.toNat_add]
  omega

theorem aligned_zero : Aligned 0 := rfl

theorem Aligned.slot {addr : Addr} (aligned : Aligned addr) (lane : Fin 2) :
    Aligned (addr + BitVec.ofNat 32 (4 * lane.val)) := by
  apply aligned.add
  cases lane using laneCases with
  | zero => decide
  | one => decide

/-- The CSRs that the pc is loaded from. -/
structure AlignedVectors (regFile : RegisterFile) : Prop where
  mtvec : Aligned regFile.mtvec
  stvec : Aligned regFile.stvec
  mepc : Aligned regFile.mepc
  sepc : Aligned regFile.sepc

/-- Every address that the next instructions are taken from. -/
structure AlignedPcs (s : CPUCore) : Prop where
  pc : Aligned s.pc
  ifId : Aligned s.ifId.pc
  idEx : Aligned s.idEx.pc
  exMem : Aligned s.exMem.pc
  vectors : AlignedVectors s.regFile

/-! ## Registers -/

section Registers

variable {regFile : RegisterFile}

theorem AlignedVectors.hwSetMtip (vectors : AlignedVectors regFile) (pending : Bool) :
    AlignedVectors (regFile.hwSetMtip pending) := by
  unfold RegisterFile.hwSetMtip
  split
  · exact ⟨vectors.mtvec, vectors.stvec, vectors.mepc, vectors.sepc⟩
  · exact ⟨vectors.mtvec, vectors.stvec, vectors.mepc, vectors.sepc⟩

/-- Trap entry saves its address and goes to a vector. -/
theorem AlignedVectors.handleTrap (vectors : AlignedVectors regFile) {epc : Word} (aligned : Aligned epc)
    (cause tval : Word) :
    AlignedVectors (regFile.handleTrap epc cause tval).1 ∧ Aligned (regFile.handleTrap epc cause tval).2 := by
  unfold RegisterFile.handleTrap
  simp only
  split
  · exact ⟨⟨vectors.mtvec, vectors.stvec, vectors.mepc, aligned⟩, vectors.stvec⟩
  · exact ⟨⟨vectors.mtvec, vectors.stvec, aligned, vectors.sepc⟩, vectors.mtvec⟩

theorem AlignedVectors.enterInterrupt (vectors : AlignedVectors regFile) {pc : Word} (aligned : Aligned pc)
    (cause : Word) :
    AlignedVectors (regFile.enterInterrupt pc cause).1 ∧ Aligned (regFile.enterInterrupt pc cause).2 := by
  unfold RegisterFile.enterInterrupt
  simp only
  split
  · exact ⟨⟨vectors.mtvec, vectors.stvec, vectors.mepc, aligned⟩, vectors.stvec⟩
  · exact ⟨⟨vectors.mtvec, vectors.stvec, aligned, vectors.sepc⟩, vectors.mtvec⟩

/-- Returns go to a saved address. -/
theorem AlignedVectors.trapTarget (vectors : AlignedVectors regFile) (slot : PipelineSlot) {slotPc : Addr}
    (aligned : Aligned slotPc) :
    AlignedVectors (trapTarget regFile slot slotPc).1 ∧ Aligned (trapTarget regFile slot slotPc).2 := by
  unfold Pipeline.trapTarget
  split
  · exact vectors.handleTrap (aligned.add (by decide)) _ _
  · split
    · exact vectors.handleTrap aligned _ _
    · split
      · rw [mret_eq]
        exact ⟨⟨vectors.mtvec, vectors.stvec, vectors.mepc, vectors.sepc⟩, vectors.mepc⟩
      · rw [sret_eq]
        exact ⟨⟨vectors.mtvec, vectors.stvec, vectors.mepc, vectors.sepc⟩, vectors.sepc⟩

/-- The addresses of those CSRs. -/
def vectorCsrs : List CsrAddr := [CSR_MTVEC, CSR_STVEC, CSR_MEPC, CSR_SEPC]

theorem AlignedVectors.writeCsr (vectors : AlignedVectors regFile) {number : CsrAddr} {data : Word}
    (aligned : number ∈ vectorCsrs -> Aligned data) : AlignedVectors (regFile.writeCsr number data) := by
  unfold RegisterFile.writeCsr
  split
  case h_6 => exact ⟨aligned (by decide), vectors.stvec, vectors.mepc, vectors.sepc⟩
  case h_8 => exact ⟨vectors.mtvec, vectors.stvec, aligned (by decide), vectors.sepc⟩
  case h_14 => exact ⟨vectors.mtvec, aligned (by decide), vectors.mepc, vectors.sepc⟩
  case h_16 => exact ⟨vectors.mtvec, vectors.stvec, vectors.mepc, aligned (by decide)⟩
  all_goals exact ⟨vectors.mtvec, vectors.stvec, vectors.mepc, vectors.sepc⟩

end Registers

/-! ## The stages -/

theorem atWriteBack_aligned {s : CPUCore} (aligned : AlignedPcs s) : AlignedPcs s.atWriteBack := by
  have vectors := aligned.vectors.hwSetMtip s.memory.incrementTimer.timerInterruptPending
  unfold atWriteBack checkAndHandleInterrupts
  cases selectInterrupt s.updateTimer.regFile with
  | none => exact ⟨aligned.pc, aligned.ifId, aligned.idEx, aligned.exMem, vectors⟩
  | some cause =>
      have entered := vectors.enterInterrupt aligned.pc cause
      exact ⟨entered.2, aligned_zero, aligned_zero, aligned.exMem, entered.1⟩

theorem atMemoryAccess_aligned {s : CPUCore} (aligned : AlignedPcs s) : AlignedPcs s.atMemoryAccess := by
  have before := atWriteBack_aligned aligned
  have registers := writeBack_regFile s.atWriteBack
  rcases writeBack_frame s.atWriteBack with ⟨regFile, count, running, frame⟩
  rw [frame] at registers
  rw [atMemoryAccess, frame]
  refine ⟨before.pc, before.ifId, before.idEx, before.exMem, ?_⟩
  rw [registers]
  exact ⟨before.vectors.mtvec, before.vectors.stvec, before.vectors.mepc, before.vectors.sepc⟩

/-- Traps and returns empty the latches in front of the stage. -/
theorem returnTo_aligned {s : CPUCore} {target : RegisterFile × Addr} (exMem : Aligned s.exMem.pc)
    (entered : AlignedVectors target.1 ∧ Aligned target.2) : AlignedPcs (s.returnTo target) :=
  ⟨entered.2, aligned_zero, aligned_zero, exMem, entered.1⟩

theorem laneOutcome_aligned {s : CPUCore} {lane : Fin 2} {out : CPUCore × Bool} (outcome : LaneOutcome s lane out)
    (aligned : AlignedPcs s) : AlignedPcs out.1 := by
  cases outcome with
  | empty invalid => exact aligned
  | finished value mem valid access =>
      exact ⟨aligned.pc, aligned.ifId, aligned.idEx, aligned.exMem, aligned.vectors⟩
  | trapped cause mem valid access =>
      exact returnTo_aligned aligned.exMem (aligned.vectors.handleTrap (aligned.exMem.slot lane) _ _)

theorem atExecute_aligned {s t : CPUCore} (wellFormed : WellFormed s) (aligned : AlignedPcs s)
    (ran : s.atExecute = .ok t) : AlignedPcs t := by
  rcases atExecute_outcome wellFormed ran with ⟨trapped, outcome⟩
  have before := atMemoryAccess_aligned aligned
  have start : AlignedPcs { s.atMemoryAccess with memWb := {} } :=
    ⟨before.pc, before.ifId, before.idEx, before.exMem, before.vectors⟩
  exact outcome.preserves start (fun _ _ _ _ aligned lane => laneOutcome_aligned lane aligned)

/-- The execute stage of the next tick jumps and branches to multiples of four
only, and writes only such values to the CSRs that the pc is loaded from. -/
structure ExecutesAligned (s : CPUCore) : Prop where
  target : forall slot, Executes s slot -> slot.d.isBranch = true -> Aligned slot.jumpTarget
  vector : forall slot, Executes s slot -> slot.d.isCsr = true -> slot.d.csrAddr ∈ vectorCsrs ->
    Aligned slot.csrWriteVal

theorem commitCsrLane_aligned {s before x : CPUCore} {lane : Fin 2} (executes : ExecutesAligned s)
    (ran : s.atExecute = .ok before) (sameLatch : x.exMem = before.runEngine.exMem)
    (vectors : AlignedVectors x.regFile) : AlignedVectors (x.commitCsrLane lane).regFile := by
  unfold commitCsrLane
  simp only
  split
  · rename_i both
    rcases Bool.and_eq_true_iff.mp both with ⟨valid, isCsr⟩
    have slot : Executes s (x.exMem.slots.get lane) := ⟨before, lane, ran, by rw [sameLatch], valid⟩
    exact vectors.writeCsr (executes.vector _ slot isCsr)
  · exact vectors

theorem committed_aligned {s before : CPUCore} (executes : ExecutesAligned s) (ran : s.atExecute = .ok before)
    (aligned : AlignedPcs before) : AlignedPcs (committed before) := by
  have first := @commitCsrLane_aligned s before before.runEngine 0 executes ran rfl aligned.vectors
  have second := @commitCsrLane_aligned s before _ 1 executes ran (commitCsrLane_exMem before.runEngine 0) first
  rcases committed_frame before with ⟨regFile, memory, frame⟩
  have sameRegFile : regFile = ((before.runEngine.commitCsrLane 0).commitCsrLane 1).regFile := by
    have sameControl : control (committed before) = control ((before.runEngine.commitCsrLane 0).commitCsrLane 1) := by
      rw [committed, commitSfenceLane_control, commitSfenceLane_control]
    rw [frame] at sameControl
    exact congrArg Prod.fst sameControl
  have enginePc : before.runEngine.exMem.pc = before.idEx.pc := by
    rw [runEngine, engine_eq]
  rw [frame]
  refine ⟨aligned.pc, aligned.ifId, aligned.idEx, ?_, ?_⟩
  · exact enginePc.symm ▸ aligned.idEx
  · exact sameRegFile.symm ▸ second

theorem resolution_aligned {x y : CPUCore} (resolution : Resolution x y) (aligned : AlignedPcs x)
    (target : x.exMem.slots.s0.valid = true -> x.exMem.slots.s0.d.isBranch = true ->
      Aligned x.exMem.slots.s0.jumpTarget) : AlignedPcs y := by
  cases resolution with
  | fallsThrough notTaken => exact aligned
  | asPredicted valid taken predicted =>
      exact ⟨aligned.pc, aligned.ifId, aligned.idEx, aligned.exMem, aligned.vectors⟩
  | redirected destination valid mispredicted destinationEq =>
      have there : Aligned destination := by
        rw [destinationEq]
        split
        · exact target valid ‹_›
        · exact aligned.exMem.add (by decide)
      exact ⟨there, aligned_zero, aligned_zero, aligned.exMem, aligned.vectors⟩

theorem atDecode_aligned {s t : CPUCore} (wellFormed : WellFormed s) (aligned : AlignedPcs s)
    (executes : ExecutesAligned s) (ran : s.atDecode = .ok t) : AlignedPcs t := by
  rcases map_eq_ok.mp ran with ⟨before, earlier, executed⟩
  subst executed
  have resolved : AlignedPcs before.executeResolved := by
    refine resolution_aligned (executeResolved_resolution before)
      (committed_aligned executes earlier (atExecute_aligned wellFormed aligned earlier)) ?_
    rcases committed_frame before with ⟨regFile, memory, frame⟩
    rw [frame]
    intro valid isBranch
    exact executes.target _ ⟨before, 0, earlier, rfl, valid⟩ isBranch
  have outcome := handleSlotTraps_outcome before.executeResolved
  unfold CPUCore.execute
  generalize before.executeResolved.handleSlotTraps = after at outcome
  cases outcome with
  | none quiet => exact resolved
  | taken lane found =>
      exact returnTo_aligned resolved.exMem (resolved.vectors.trapTarget _ (resolved.exMem.slot lane))

/-- What decode predicts, it predicts to a multiple of four. -/
def PredictsAligned (s : CPUCore) : Prop :=
  forall t, s.atFetch = .ok t -> predictsTaken t.idEx.slots.s0 = true -> Aligned t.idEx.slots.s0.jumpTarget

theorem issue_aligned {ifId : IfIdBuffer} {idEx : IdExBuffer} {out : IfIdBuffer × IdExBuffer}
    (issue : Issue ifId idEx out) (first : Aligned ifId.pc) (second : Aligned idEx.pc) :
    Aligned out.1.pc ∧ Aligned out.2.pc := by
  cases issue with
  | idle empty => exact ⟨first, second⟩
  | stalled valid => exact ⟨first, second⟩
  | predicted valid taken slot0 slot0Eq => exact ⟨first, first⟩
  | pair valid0 valid1 notTaken together => exact ⟨first, first⟩
  | single valid notTaken => exact ⟨first.add (by decide), first⟩

theorem atFetch_aligned {s t : CPUCore} (wellFormed : WellFormed s) (aligned : AlignedPcs s)
    (executes : ExecutesAligned s) (predicts : PredictsAligned s) (ran : s.atFetch = .ok t) : AlignedPcs t := by
  have target := predicts t ran
  rcases map_eq_ok.mp ran with ⟨before, earlier, issued⟩
  subst issued
  have decoding := atDecode_aligned wellFormed aligned executes earlier
  have latches := issue_aligned (decodeAndIssue_issue before.ifId before.idEx) decoding.ifId decoding.idEx
  refine ⟨?_, latches.1, latches.2, decoding.exMem, decoding.vectors⟩
  change Aligned (if predictsTaken (IssueUnit.decodeAndIssue before.ifId before.idEx).2.slots.s0 then _ else before.pc)
  split
  · exact target ‹_›
  · exact decoding.pc

theorem fetch_aligned {s t : CPUCore} (fetched : Fetch s t) (aligned : AlignedPcs s) : AlignedPcs t := by
  cases fetched with
  | full valid => exact aligned
  | nothing mem empty same =>
      exact ⟨aligned.pc, aligned.ifId, aligned.idEx, aligned.exMem, aligned.vectors⟩
  | one word mem empty same =>
      exact ⟨aligned.pc.add (by decide), aligned.pc, aligned.idEx, aligned.exMem, aligned.vectors⟩
  | pair word0 word1 mem empty same =>
      exact ⟨aligned.pc.add (by decide), aligned.pc, aligned.idEx, aligned.exMem, aligned.vectors⟩
  | fault found mem faults =>
      exact returnTo_aligned aligned.exMem (aligned.vectors.handleTrap aligned.pc _ _)
  | faultNearEnd found mem faults =>
      have entered := aligned.vectors.handleTrap aligned.pc found.cause s.pc
      exact ⟨entered.2.add (by decide), entered.2, aligned_zero, aligned.exMem, entered.1⟩

theorem tick_aligned {s t : CPUCore} (wellFormed : WellFormed s) (aligned : AlignedPcs s)
    (executes : ExecutesAligned s) (predicts : PredictsAligned s) (ran : s.tick = .ok t) : AlignedPcs t := by
  unfold tick at ran
  split at ran
  · cases ran
    exact atWriteBack_aligned aligned
  · rcases bind_eq_ok.mp ran with ⟨before, earlier, fetched⟩
    have formed := atFetch_wellFormed wellFormed earlier
    exact fetch_aligned (fetch_fetch formed.frontEnd.ordered fetched)
      (atFetch_aligned wellFormed aligned executes predicts earlier)

/-! ## Misaligned targets -/

/-- An instruction next to a jump or branch commits no CSR. -/
theorem committed_regFile_of_branch {s : CPUCore} (pair : EnginePair s.runEngine.exMem)
    (valid : s.runEngine.exMem.slots.s0.valid = true) (taken : s.runEngine.exMem.slots.s0.d.isBranch = true) :
    (committed s).regFile = s.regFile := by
  have ran0 := pair.ran 0 valid
  have branch := (decode_exclusive s.runEngine.exMem.slots.s0.instr).branch (ran0.isBranch taken)
  have quiet0 : s.runEngine.commitCsrLane 0 = s.runEngine := by
    apply commitCsrLane_quiet
    intro _
    rw [ran0.d]
    exact branch.2.1
  have quiet1 : s.runEngine.commitCsrLane 1 = s.runEngine := by
    apply commitCsrLane_quiet
    intro valid1
    have notSystem := (canIssueTogether_together (pair.paired valid1)).noSystem1
    rw [(pair.ran 1 valid1).d]
    exact (Bool.or_eq_false_iff.mp notSystem).2
  have sameControl : control (committed s) = control ((s.runEngine.commitCsrLane 0).commitCsrLane 1) := by
    rw [committed, commitSfenceLane_control, commitSfenceLane_control]
  rw [quiet0, quiet1] at sameControl
  exact congrArg Prod.fst sameControl

/-- A jump or a taken branch that was not predicted sends the pc to its target,
whatever the target is, and nothing is recorded in a CSR. -/
theorem jump_followed {s before : CPUCore} (wellFormed : WellFormed s) (earlier : s.atExecute = .ok before)
    (valid : before.runEngine.exMem.slots.s0.valid = true)
    (taken : before.runEngine.exMem.slots.s0.d.isBranch = true)
    (notPredicted : before.runEngine.exMem.slots.s0.d.predictedTaken = false) :
    before.execute.pc = before.runEngine.exMem.slots.s0.jumpTarget ∧ before.execute.regFile = before.regFile := by
  have formed := atExecute_wellFormed wellFormed earlier
  have pair : EnginePair before.runEngine.exMem :=
    engine_pair formed.frontEnd.issued before.exMem before.memWb before.regFile
  have sameRegFile := committed_regFile_of_branch pair valid taken
  have branch := (decode_exclusive before.runEngine.exMem.slots.s0.instr).branch ((pair.ran 0 valid).isBranch taken)
  rcases committed_frame before with ⟨regFile, memory, frame⟩
  have resolution := executeResolved_resolution before
  have resolved : before.executeResolved =
      { committed before with pc := before.runEngine.exMem.slots.s0.jumpTarget }.flush.squashSlot1 := by
    rw [frame] at resolution ⊢
    generalize before.executeResolved = after at resolution
    cases resolution with
    | fallsThrough notTaken => exact absurd ((notTaken valid).1.symm.trans taken) Bool.false_ne_true
    | asPredicted _ _ predicted => exact absurd predicted (ne_true_of_eq_false notPredicted)
    | redirected target _ _ destination =>
        rw [destination, if_pos taken]
  have quiet : trapLane before.executeResolved.exMem = none := by
    have noTrap : trapsInEx before.runEngine.exMem.slots.s0.d = false :=
      (trapsInEx_ran (pair.ran 0 valid)).trans branch.1
    rw [resolved, frame]
    simp [trapLane, squashSlot1, flush, valid, noTrap]
  unfold CPUCore.execute
  rw [handleSlotTraps_none quiet, resolved]
  exact ⟨rfl, sameRegFile⟩

/-! ## Runs -/

/-- Every pc is a multiple of four in every run from aligned reset values in
which jumps, branches and predictions go to multiples of four and only such
values are written to the CSRs that the pc is loaded from.  A jump or taken
branch to another target is followed, with no exception. -/
theorem pc_aligned :
    (forall config image keyboard n s, Aligned config.pcInit -> Aligned config.mtvecInit ->
      iterate tick n (init config image keyboard) = .ok s ->
      (forall k before, k < n -> iterate tick k (init config image keyboard) = .ok before ->
        ExecutesAligned before ∧ PredictsAligned before) -> AlignedPcs s) ∧
    (forall s before, Reachable s -> s.atExecute = .ok before -> before.runEngine.exMem.slots.s0.valid = true ->
      before.runEngine.exMem.slots.s0.d.isBranch = true ->
      before.runEngine.exMem.slots.s0.d.predictedTaken = false ->
      before.execute.pc = before.runEngine.exMem.slots.s0.jumpTarget ∧ before.execute.regFile = before.regFile) := by
  constructor
  · intro config image keyboard n s reset vector run ticks
    have both := @iterate_conditional _ _ tick (fun s => WellFormed s ∧ AlignedPcs s)
      (fun s => ExecutesAligned s ∧ PredictsAligned s) (init config image keyboard) ?_ ?_ n s run ticks
    · exact both.2
    · exact ⟨init_wellFormed config image keyboard,
        ⟨reset, aligned_zero, aligned_zero, aligned_zero, ⟨vector, aligned_zero, aligned_zero, aligned_zero⟩⟩⟩
    · rintro before after ⟨formed, aligned⟩ ⟨executes, predicts⟩ ran
      exact ⟨tick_wellFormed before after formed ran, tick_aligned formed aligned executes predicts ran⟩
  · intro s before reachable earlier valid taken notPredicted
    exact jump_followed reachable.wellFormed earlier valid taken notPredicted

/-! ## Two runs -/

/-- The jump `jalr x0, offset(x0)` at address zero, after `n` ticks. -/
def afterJump (word : Word) (n : Nat) : Except Crash CPUCore :=
  iterate tick n (init .default128MB (ramImage [(0, word)]) {})

/-- Does the next tick meet the condition of the run theorem? -/
def alignedTick (s : CPUCore) : Bool :=
  everyExecuted (fun slot => decide (slot.d.isBranch = true -> Aligned slot.jumpTarget) &&
    decide (slot.d.isCsr = true -> slot.d.csrAddr ∈ vectorCsrs -> Aligned slot.csrWriteVal)) s &&
  passes s.atFetch (fun t => decide (predictsTaken t.idEx.slots.s0 = true -> Aligned t.idEx.slots.s0.jumpTarget))

theorem alignedTick_sound {s : CPUCore} (passed : alignedTick s = true) : ExecutesAligned s ∧ PredictsAligned s := by
  rcases Bool.and_eq_true_iff.mp passed with ⟨executes, predicts⟩
  refine ⟨⟨?_, ?_⟩, ?_⟩
  · intro slot executed
    exact of_decide_eq_true (Bool.and_eq_true_iff.mp (everyExecuted_sound executes executed)).1
  · intro slot executed
    exact of_decide_eq_true (Bool.and_eq_true_iff.mp (everyExecuted_sound executes executed)).2
  · intro t ran
    rcases exists_of_passes predicts with ⟨other, same, test⟩
    cases ran.symm.trans same
    exact of_decide_eq_true test

/-- With an offset of 8 the pc stays aligned, and the jump is followed. -/
theorem pc_aligned_jump : Exists fun s => Exists fun before => afterJump 0x00800067#32 2 = .ok s ∧ AlignedPcs s ∧
    s.atExecute = .ok before ∧ before.execute.pc = 8 := by
  have ticks : everyState tick alignedTick 2 (init .default128MB (ramImage [(0, 0x00800067#32)]) {}) = true := by
    decide +kernel
  have reached : passes (afterJump 0x00800067#32 2) (fun s => passes s.atExecute (fun before =>
      let slot := before.runEngine.exMem.slots.s0
      slot.valid && slot.d.isBranch && !slot.d.predictedTaken && decide (slot.jumpTarget = 8))) = true := by
    decide +kernel
  rcases exists_of_passes reached with ⟨s, run, test⟩
  rcases exists_of_passes test with ⟨before, earlier, facts⟩
  simp only [Bool.and_eq_true, Bool.not_eq_true', decide_eq_true_eq] at facts
  rcases facts with ⟨⟨⟨valid, taken⟩, notPredicted⟩, target⟩
  refine ⟨s, before, run, ?_, earlier, ?_⟩
  · refine pc_aligned.1 _ _ _ 2 s (by decide) (by decide) run (fun k state below here => ?_)
    rcases everyState_sound ticks below with ⟨other, next, same, passed, _⟩
    cases same.symm.trans here
    exact alignedTick_sound passed
  · rw [(pc_aligned.2 s before ⟨_, _, _, 2, run⟩ earlier valid taken notPredicted).1, target]

/-- With an offset of 2 the jump goes to address 2, and no trap is recorded. -/
theorem jump_leaves_alignment : Exists fun s => Reachable s ∧ s.pc = 10 ∧ s.ifId.slots.s0.valid = true ∧
    s.ifId.pc = 2 ∧ s.regFile.mcause = 0 ∧ ¬Aligned s.pc := by
  have reached : passes (afterJump 0x00200067#32 3) (fun s => decide (s.pc = 10 ∧ s.ifId.slots.s0.valid = true ∧
      s.ifId.pc = 2 ∧ s.regFile.mcause = 0)) = true := by
    decide +kernel
  rcases exists_of_passes reached with ⟨s, run, test⟩
  rcases of_decide_eq_true test with ⟨pc, valid, latchPc, noTrap⟩
  refine ⟨s, ⟨_, _, _, 3, run⟩, pc, valid, latchPc, noTrap, ?_⟩
  rw [pc]
  decide

end Privilege
end SimpleRV
