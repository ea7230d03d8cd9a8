import SimpleRV.Pipeline.MemoryStage
import SimpleRV.Pipeline.ExecuteStage
import SimpleRV.Pipeline.FrontStages
import SimpleRV.Pipeline.WriteBackStage

namespace SimpleRV
namespace Pipeline

open IssueUnit CPUCore ExecutionEngine Iteration

/-!
# What the latches hold

An invariant of every reachable state.  It says which instructions may share a
latch, that control bits and register numbers agree with the instruction word,
and that the front end continues where the prediction for the pair in ID/EX
says.  Nothing here depends on what the program computes, so it holds for
arbitrary programs, interrupts and page tables.
-/

/-- Where the front end continues after the pair in ID/EX. -/
def predictedPc (idEx : IdExBuffer) : Addr :=
  if idEx.slots.s0.d.predictedTaken then idEx.slots.s0.jumpTarget else idEx.pc + span idEx.slots

/-- A slot as `decodeInstruction` leaves it. -/
structure Decoded (slot : PipelineSlot) : Prop where
  d : slot.d = decode slot.instr
  rd : slot.rd = (decode slot.instr).rd
  regWrite : slot.regWrite = (decode slot.instr).regWrite

structure IssuedPair (idEx : IdExBuffer) : Prop where
  ordered : idEx.slots.s1.valid = true -> idEx.slots.s0.valid = true
  decoded : forall lane, (idEx.slots.get lane).valid = true -> Decoded (idEx.slots.get lane)
  controls : forall lane, (idEx.slots.get lane).valid = true ->
    idEx.memRead.get lane = isLoad (idEx.slots.get lane).d ∧
      idEx.memWrite.get lane = isStore (idEx.slots.get lane).d
  paired : idEx.slots.s1.valid = true -> canIssueTogether idEx.slots.s0.d idEx.slots.s1.d = true
  target : idEx.slots.s0.valid = true -> idEx.slots.s0.d.predictedTaken = true ->
    idEx.slots.s0.jumpTarget = idEx.pc + idEx.slots.s0.d.imm

/-- The fetch pc with the two latches in front of the engine. -/
structure FrontEnd (pc : Addr) (ifId : IfIdBuffer) (idEx : IdExBuffer) : Prop where
  ordered : ifId.slots.s1.valid = true -> ifId.slots.s0.valid = true
  contiguous : ifId.slots.s0.valid = true -> pc = ifId.pc + span ifId.slots
  issued : IssuedPair idEx
  follows : idEx.slots.s0.valid = true -> frontPc ifId pc = predictedPc idEx

/-- A slot that has been through the engine. -/
structure Ran (slot : PipelineSlot) : Prop where
  d : slot.d = { decode slot.instr with isBranch := slot.d.isBranch }
  isBranch : slot.d.isBranch = true -> (decode slot.instr).isBranch = true
  rd : slot.rd = (decode slot.instr).rd
  regWrite : slot.regWrite = (decode slot.instr).regWrite

/-- EX/MEM as the engine builds it. -/
structure EnginePair (exMem : ExMemBuffer) : Prop where
  ordered : exMem.slots.s1.valid = true -> exMem.slots.s0.valid = true
  ran : forall lane, (exMem.slots.get lane).valid = true -> Ran (exMem.slots.get lane)
  controls : forall lane, (exMem.slots.get lane).valid = true ->
    exMem.memRead.get lane = isLoad (decode (exMem.slots.get lane).instr) ∧
      exMem.memWrite.get lane = isStore (decode (exMem.slots.get lane).instr)
  paired : exMem.slots.s1.valid = true ->
    canIssueTogether (decode exMem.slots.s0.instr) (decode exMem.slots.s1.instr) = true

/-- EX/MEM after the trap check. -/
structure ExecutedPair (exMem : ExMemBuffer) : Prop extends EnginePair exMem where
  quiet : forall lane, (exMem.slots.get lane).valid = true -> trapsInEx (decode (exMem.slots.get lane).instr) = false

/-- The slots that await write-back write what their instruction writes. -/
def RetiringPair (memWb : MemWbBuffer) : Prop :=
  forall lane, (memWb.slots.get lane).valid = true ->
    (memWb.slots.get lane).rd = (decode (memWb.slots.get lane).instr).rd ∧
      (memWb.slots.get lane).regWrite = (decode (memWb.slots.get lane).instr).regWrite

structure WellFormed (s : CPUCore) : Prop where
  frontEnd : FrontEnd s.pc s.ifId s.idEx
  executedPair : ExecutedPair s.exMem
  retiringPair : RetiringPair s.memWb

/-! ## Empty latches -/

/-- A fact about the valid lanes of a latch holds when there are none. -/
theorem forall_lane_of_invalid {slots : Dual PipelineSlot} {fact : Fin 2 -> Prop}
    (invalid0 : slots.s0.valid = false) (invalid1 : slots.s1.valid = false) (lane : Fin 2)
    (valid : (slots.get lane).valid = true) : fact lane := by
  cases lane using laneCases with
  | zero => exact absurd (invalid0.symm.trans valid) (by decide)
  | one => exact absurd (invalid1.symm.trans valid) (by decide)

theorem issuedPair_of_invalid {idEx : IdExBuffer} (invalid0 : idEx.slots.s0.valid = false)
    (invalid1 : idEx.slots.s1.valid = false) : IssuedPair idEx where
  ordered valid := absurd (invalid1.symm.trans valid) (by decide)
  decoded := forall_lane_of_invalid invalid0 invalid1
  controls := forall_lane_of_invalid invalid0 invalid1
  paired valid := absurd (invalid1.symm.trans valid) (by decide)
  target valid := absurd (invalid0.symm.trans valid) (by decide)

/-- A single instruction, issued with its own control signals. -/
theorem issuedPair_alone {idEx : IdExBuffer} (invalid1 : idEx.slots.s1.valid = false)
    (decoded : Decoded idEx.slots.s0)
    (controls : idEx.memRead.s0 = isLoad idEx.slots.s0.d ∧ idEx.memWrite.s0 = isStore idEx.slots.s0.d)
    (target : idEx.slots.s0.d.predictedTaken = true -> idEx.slots.s0.jumpTarget = idEx.pc + idEx.slots.s0.d.imm) :
    IssuedPair idEx where
  ordered valid := absurd (invalid1.symm.trans valid) (by decide)
  decoded lane valid := by
    cases lane using laneCases with
    | zero => exact decoded
    | one => exact absurd (invalid1.symm.trans valid) (by decide)
  controls lane valid := by
    cases lane using laneCases with
    | zero => exact controls
    | one => exact absurd (invalid1.symm.trans valid) (by decide)
  paired valid := absurd (invalid1.symm.trans valid) (by decide)
  target _ := target

/-- After a flush the front end is well formed wherever it is sent. -/
theorem frontEnd_flushed (pc : Addr) : FrontEnd pc {} {} where
  ordered impossible := by cases impossible
  contiguous impossible := by cases impossible
  issued := issuedPair_of_invalid rfl rfl
  follows impossible := by cases impossible

theorem executedPair_of_invalid {exMem : ExMemBuffer} (invalid0 : exMem.slots.s0.valid = false)
    (invalid1 : exMem.slots.s1.valid = false) : ExecutedPair exMem where
  ordered valid := absurd (invalid1.symm.trans valid) (by decide)
  ran := forall_lane_of_invalid invalid0 invalid1
  controls := forall_lane_of_invalid invalid0 invalid1
  paired valid := absurd (invalid1.symm.trans valid) (by decide)
  quiet := forall_lane_of_invalid invalid0 invalid1

theorem retiringPair_empty : RetiringPair {} := forall_lane_of_invalid rfl rfl

/-- A trap or return leaves only the slots that await write-back. -/
theorem returnTo_wellFormed {s : CPUCore} (retiring : RetiringPair s.memWb) (target : RegisterFile × Addr) :
    WellFormed (s.returnTo target) where
  frontEnd := frontEnd_flushed target.2
  executedPair := executedPair_of_invalid rfl rfl
  retiringPair := retiring

theorem init_wellFormed (config : SystemConfig) (image : Addr -> Byte) (keyboard : HostKeyboard) :
    WellFormed (init config image keyboard) where
  frontEnd := frontEnd_flushed config.pcInit
  executedPair := executedPair_of_invalid rfl rfl
  retiringPair := retiringPair_empty

/-! ## Interrupts and write-back -/

theorem atWriteBack_wellFormed {s : CPUCore} (wellFormed : WellFormed s) : WellFormed s.atWriteBack := by
  unfold atWriteBack checkAndHandleInterrupts
  cases selectInterrupt s.updateTimer.regFile with
  | none => exact ⟨wellFormed.frontEnd, wellFormed.executedPair, wellFormed.retiringPair⟩
  | some cause => exact ⟨frontEnd_flushed _, wellFormed.executedPair, wellFormed.retiringPair⟩

theorem atMemoryAccess_wellFormed {s : CPUCore} (wellFormed : WellFormed s) : WellFormed s.atMemoryAccess := by
  rcases writeBack_frame s.atWriteBack with ⟨regFile, count, running, frame⟩
  have before := atWriteBack_wellFormed wellFormed
  rw [atMemoryAccess, frame]
  exact ⟨before.frontEnd, before.executedPair, before.retiringPair⟩

/-! ## Memory access -/

/-- Loads and stores are different instructions. -/
theorem EnginePair.oneAccess {exMem : ExMemBuffer} (pair : EnginePair exMem) : OneAccess exMem := by
  intro lane valid reads
  rcases pair.controls lane valid with ⟨readEq, writeEq⟩
  rw [writeEq]
  exact isLoad_isStore_exclusive _ (readEq.symm.trans reads)

/-- Moving a slot of EX/MEM on, with any result. -/
theorem RetiringPair.set {memWb : MemWbBuffer} (retiring : RetiringPair memWb) {slot : PipelineSlot}
    (ran : slot.valid = true -> Ran slot) (lane : Fin 2) (value : Word) :
    RetiringPair ⟨memWb.slots.set lane { slot with result := value }⟩ := by
  intro other valid
  match lane, other with
  | 0, 0 => exact ⟨(ran valid).rd, (ran valid).regWrite⟩
  | 0, 1 => exact retiring 1 valid
  | 1, 0 => exact retiring 0 valid
  | 1, 1 => exact ⟨(ran valid).rd, (ran valid).regWrite⟩

theorem LaneOutcome.wellFormed {s : CPUCore} {lane : Fin 2} {out : CPUCore × Bool}
    (outcome : LaneOutcome s lane out) (wellFormed : WellFormed s) : WellFormed out.1 := by
  have ran := wellFormed.executedPair.ran lane
  cases outcome with
  | empty invalid => exact wellFormed
  | finished value mem valid access =>
      exact ⟨wellFormed.frontEnd, wellFormed.executedPair, wellFormed.retiringPair.set ran lane value⟩
  | trapped cause mem valid access =>
      exact returnTo_wellFormed (wellFormed.retiringPair.set ran lane _) _

theorem StageOutcome.wellFormed {s : CPUCore} {out : CPUCore × Option (Fin 2)} (outcome : StageOutcome s out)
    (wellFormed : WellFormed s) : WellFormed out.1 := by
  have start : WellFormed { s with memWb := {} } :=
    ⟨wellFormed.frontEnd, wellFormed.executedPair, retiringPair_empty⟩
  exact outcome.preserves start (fun _ _ _ _ before lane => lane.wellFormed before)

theorem memoryAccess_wellFormed {s : CPUCore} {out : CPUCore × Option (Fin 2)} (wellFormed : WellFormed s)
    (ran : s.memoryAccess = .ok out) : WellFormed out.1 :=
  (memoryAccess_outcome wellFormed.executedPair.oneAccess ran).wellFormed wellFormed

/-- How the memory stage of a tick ends. -/
theorem atExecute_outcome {s e : CPUCore} (wellFormed : WellFormed s) (ran : s.atExecute = .ok e) :
    Exists fun trapped => StageOutcome s.atMemoryAccess (e, trapped) := by
  rcases map_eq_ok.mp ran with ⟨out, accessed, outEq⟩
  subst outEq
  exact ⟨out.2, memoryAccess_outcome (atMemoryAccess_wellFormed wellFormed).executedPair.oneAccess accessed⟩

/-! ## Execute -/

theorem Decoded.ran {before after : PipelineSlot} (decoded : Decoded before) (frame : SlotFrame before after)
    (branch : after.d.isBranch = true -> before.d.isBranch = true) : Ran { after with valid := true } where
  d := by rw [frame.instr, ← decoded.d, ← frame.d]
  isBranch taken := by
    rw [frame.instr, ← decoded.d]
    exact branch taken
  rd := by rw [frame.rd, frame.instr, decoded.rd]
  regWrite := by rw [frame.regWrite, frame.instr, decoded.regWrite]

/-- The engine turns an issued lane into one that has run. -/
theorem executedSlot_ran {idEx : IdExBuffer} (issued : IssuedPair idEx) (memWb : MemWbBuffer)
    (regFile : RegisterFile) (exMem : ExMemBuffer) {lane : Fin 2} (valid : (idEx.slots.get lane).valid = true) :
    Ran (executedSlot idEx memWb regFile exMem lane) ∧
      (executedSlot idEx memWb regFile exMem lane).instr = (idEx.slots.get lane).instr := by
  have decoded := issued.decoded lane valid
  have jumps := (decode_sources (idEx.slots.get lane).instr).2.2.1
  rw [← decoded.d] at jumps
  have frame := executeSlotWith_frame (fun rs => getOperand rs memWb regFile exMem lane) (idEx.slots.get lane)
    regFile (idEx.pc + BitVec.ofNat 32 (4 * lane.val)) lane
  unfold executedSlot executeSlot
  rw [if_pos valid]
  exact ⟨decoded.ran frame (executeSlotWith_isBranch jumps), frame.instr⟩

theorem executedSlot_valid (idEx : IdExBuffer) (memWb : MemWbBuffer) (regFile : RegisterFile)
    (exMem : ExMemBuffer) (lane : Fin 2) :
    (executedSlot idEx memWb regFile exMem lane).valid = (idEx.slots.get lane).valid := by
  unfold executedSlot
  cases valid : (idEx.slots.get lane).valid <;> rfl

theorem engine_pair {idEx : IdExBuffer} (issued : IssuedPair idEx) (exMem : ExMemBuffer) (memWb : MemWbBuffer)
    (regFile : RegisterFile) : EnginePair (ExecutionEngine.execute idEx exMem memWb regFile) := by
  have ran := fun latch lane => @executedSlot_ran idEx issued memWb regFile latch lane
  have same := fun latch lane => executedSlot_valid idEx memWb regFile latch lane
  rw [engine_eq]
  simp only
  constructor
  · intro valid
    exact (same exMem 0).trans (issued.ordered ((same _ 1).symm.trans valid))
  · intro lane valid
    cases lane using laneCases with
    | zero => exact (ran exMem 0 ((same exMem 0).symm.trans valid)).1
    | one => exact (ran _ 1 ((same _ 1).symm.trans valid)).1
  · intro lane valid
    cases lane using laneCases with
    | zero =>
        have valid0 := (same exMem 0).symm.trans valid
        have controls := issued.controls 0 valid0
        simp only [Dual.get_zero] at valid0 controls ⊢
        rw [(ran exMem 0 valid0).2, valid0, Bool.true_and, Bool.true_and, controls.1, controls.2,
          ← (issued.decoded 0 valid0).d]
        exact ⟨rfl, rfl⟩
    | one =>
        have valid1 := (same _ 1).symm.trans valid
        have controls := issued.controls 1 valid1
        simp only [Dual.get_one] at valid1 controls ⊢
        rw [(ran _ 1 valid1).2, valid1, Bool.true_and, Bool.true_and, controls.1, controls.2,
          ← (issued.decoded 1 valid1).d]
        exact ⟨rfl, rfl⟩
  · intro valid
    have valid1 := (same _ 1).symm.trans valid
    have valid0 := issued.ordered valid1
    rw [(ran exMem 0 valid0).2, (ran _ 1 valid1).2, ← (issued.decoded 0 valid0).d, ← (issued.decoded 1 valid1).d]
    exact issued.paired valid1

theorem trapsInEx_ran {slot : PipelineSlot} (ran : Ran slot) : trapsInEx slot.d = trapsInEx (decode slot.instr) := by
  rw [ran.d]
  rfl

/-- Squashing the partner keeps the latch well formed. -/
theorem EnginePair.squash {s : CPUCore} (pair : EnginePair s.exMem) : EnginePair s.squashSlot1.exMem where
  ordered impossible := by cases impossible
  ran lane valid := by
    cases lane using laneCases with
    | zero => exact pair.ran 0 valid
    | one => cases valid
  controls lane valid := by
    cases lane using laneCases with
    | zero => exact pair.controls 0 valid
    | one => cases valid
  paired impossible := by cases impossible

theorem Resolution.wellFormed {s t : CPUCore} (resolution : Resolution s t)
    (frontEnd : FrontEnd s.pc s.ifId s.idEx) (pair : EnginePair s.exMem) :
    FrontEnd t.pc t.ifId t.idEx ∧ EnginePair t.exMem ∧ t.memWb = s.memWb := by
  cases resolution with
  | fallsThrough notTaken => exact ⟨frontEnd, pair, rfl⟩
  | asPredicted valid taken predicted => exact ⟨frontEnd, pair.squash, rfl⟩
  | redirected target valid mispredicted destination =>
      exact ⟨frontEnd_flushed target, EnginePair.squash (s := s) pair, rfl⟩

theorem TrapOutcome.wellFormed {s t : CPUCore} (outcome : TrapOutcome s t)
    (frontEnd : FrontEnd s.pc s.ifId s.idEx) (pair : EnginePair s.exMem) (retiring : RetiringPair s.memWb) :
    WellFormed t := by
  cases outcome with
  | none quiet =>
      refine ⟨frontEnd, ⟨pair, ?_⟩, retiring⟩
      intro lane valid
      rw [← trapsInEx_ran (pair.ran lane valid)]
      exact trapLane_none quiet pair.ordered lane valid
  | taken lane found => exact returnTo_wellFormed retiring _

/-- Behind branch resolution and before the trap check. -/
theorem executeResolved_wellFormed {s : CPUCore} (wellFormed : WellFormed s) :
    FrontEnd s.executeResolved.pc s.executeResolved.ifId s.executeResolved.idEx ∧
      EnginePair s.executeResolved.exMem ∧ RetiringPair s.executeResolved.memWb := by
  rcases committed_frame s with ⟨regFile, memory, frame⟩
  have resolution := executeResolved_resolution s
  have pair := engine_pair wellFormed.frontEnd.issued s.exMem s.memWb s.regFile
  rw [frame] at resolution
  rcases resolution.wellFormed wellFormed.frontEnd pair with ⟨frontEnd, resolved, sameMemWb⟩
  exact ⟨frontEnd, resolved, sameMemWb ▸ wellFormed.retiringPair⟩

theorem execute_wellFormed {s : CPUCore} (wellFormed : WellFormed s) : WellFormed s.execute := by
  rcases executeResolved_wellFormed wellFormed with ⟨frontEnd, resolved, retiring⟩
  exact (handleSlotTraps_outcome s.executeResolved).wellFormed frontEnd resolved retiring

/-! ## Decode and fetch -/

theorem decodeInstruction_decoded (slot : PipelineSlot) : Decoded (decodeInstruction slot) := ⟨rfl, rfl, rfl⟩

theorem predictsTaken_decoded {slot : PipelineSlot} (decoded : Decoded slot) :
    predictsTaken slot = (slot.valid && slot.d.predictedTaken) := by
  unfold predictsTaken
  cases taken : slot.d.predictedTaken with
  | false => simp
  | true =>
      rw [decoded.d] at taken ⊢
      rw [(decode_exclusive slot.instr).predicted taken]
      simp

/-- What decode leaves in ID/EX has been issued by the rules. -/
theorem Issue.issuedPair {ifId : IfIdBuffer} {idEx : IdExBuffer} {out : IfIdBuffer × IdExBuffer}
    (issue : Issue ifId idEx out) (issued : IssuedPair idEx) : IssuedPair out.2 := by
  cases issue with
  | idle empty => exact issued
  | stalled valid => exact issuedPair_of_invalid rfl rfl
  | predicted valid taken slot0 slot0Eq =>
      subst slot0Eq
      have branch := (decode_exclusive ifId.slots.s0.instr).predicted taken
      have notMemory : (decode ifId.slots.s0.instr).isMemory = false := by
        cases memory : (decode ifId.slots.s0.instr).isMemory with
        | false => rfl
        | true => exact absurd (((decode_exclusive _).memory memory).1.symm.trans branch) (by decide)
      refine issuedPair_alone rfl ⟨rfl, rfl, rfl⟩ ?_ (fun _ => rfl)
      simp [decodeInstruction, isLoad, isStore, notMemory]
  | pair valid0 valid1 notTaken together =>
      refine ⟨fun _ => valid0, ?_, ?_, fun _ => together, ?_⟩
      · intro lane _
        cases lane using laneCases with
        | zero => exact decodeInstruction_decoded _
        | one => exact decodeInstruction_decoded _
      · intro lane _
        cases lane using laneCases with
        | zero => exact ⟨rfl, rfl⟩
        | one => exact ⟨rfl, rfl⟩
      · intro _ taken
        exact absurd (notTaken.symm.trans taken) (by decide)
  | single valid notTaken =>
      refine issuedPair_alone rfl (decodeInstruction_decoded _) ⟨rfl, rfl⟩ (fun taken => ?_)
      exact absurd (notTaken.symm.trans taken) (by decide)

/-- Decode keeps the front end consistent, whatever it issues. -/
theorem Issue.frontEnd {ifId : IfIdBuffer} {idEx : IdExBuffer} {out : IfIdBuffer × IdExBuffer} {pc : Addr}
    (issue : Issue ifId idEx out) (front : FrontEnd pc ifId idEx) :
    FrontEnd (if predictsTaken out.2.slots.s0 then out.2.slots.s0.jumpTarget else pc) out.1 out.2 := by
  have issued := issue.issuedPair front.issued
  cases issue with
  | idle empty =>
      refine ⟨front.ordered, fun valid => absurd (empty.symm.trans valid) (by decide), issued, ?_⟩
      intro valid
      have follows := front.follows valid
      have predicts := predictsTaken_decoded (front.issued.decoded 0 valid)
      simp only [Dual.get_zero, show idEx.slots.s0.valid = true from valid, Bool.true_and] at predicts
      simp only [frontPc, empty, Bool.false_eq_true, if_false] at follows ⊢
      rw [predicts]
      unfold predictedPc at follows ⊢
      split
      · rfl
      · rename_i notTaken
        rwa [if_neg notTaken] at follows
  | stalled valid =>
      refine ⟨front.ordered, ?_, issued, Bool.false_ne_true.elim⟩
      intro _
      exact front.contiguous valid
  | predicted valid taken slot0 slot0Eq =>
      subst slot0Eq
      have branch := (decode_exclusive ifId.slots.s0.instr).predicted taken
      refine ⟨Bool.false_ne_true.elim, Bool.false_ne_true.elim, issued, ?_⟩
      intro _
      simp [predictsTaken, frontPc, predictedPc, invalidate, decodeInstruction, valid, taken, branch]
  | pair valid0 valid1 notTaken together =>
      refine ⟨Bool.false_ne_true.elim, Bool.false_ne_true.elim, issued, ?_⟩
      intro _
      have contiguous := front.contiguous valid0
      simp [predictsTaken, frontPc, predictedPc, invalidate, decodeInstruction, notTaken, contiguous, span,
        valid0, valid1]
  | single valid notTaken =>
      refine ⟨Bool.false_ne_true.elim, ?_, issued, ?_⟩
      · intro valid1
        have contiguous := front.contiguous valid
        simp only [decodeInstruction] at valid1
        simp [predictsTaken, contiguous, span, valid, valid1, decodeInstruction, notTaken, invalidate,
          BitVec.add_assoc]
      · intro _
        have contiguous := front.contiguous valid
        cases valid1 : ifId.slots.s1.valid <;>
          simp [predictsTaken, frontPc, predictedPc, invalidate, decodeInstruction, notTaken, contiguous, span,
            valid, valid1]

theorem decodeAndIssue_wellFormed {s : CPUCore} (wellFormed : WellFormed s) : WellFormed s.decodeAndIssue :=
  ⟨(decodeAndIssue_issue s.ifId s.idEx).frontEnd wellFormed.frontEnd, wellFormed.executedPair,
    wellFormed.retiringPair⟩

theorem Fetch.wellFormed {s t : CPUCore} (fetched : Fetch s t) (wellFormed : WellFormed s) : WellFormed t := by
  have ordered := wellFormed.frontEnd.ordered
  have free := invalid_of_ordered ordered
  have follows := wellFormed.frontEnd.follows
  cases fetched with
  | full valid => exact wellFormed
  | nothing mem empty same => exact ⟨wellFormed.frontEnd, wellFormed.executedPair, wellFormed.retiringPair⟩
  | one word mem empty same =>
      simp only [frontPc, empty, Bool.false_eq_true, if_false] at follows
      refine ⟨⟨fun _ => rfl, ?_, wellFormed.frontEnd.issued, ?_⟩, wellFormed.executedPair, wellFormed.retiringPair⟩
      · intro _
        simp [fillOne, fillSlot, span, free empty]
      · exact follows
  | pair word0 word1 mem empty same =>
      simp only [frontPc, empty, Bool.false_eq_true, if_false] at follows
      refine ⟨⟨fun _ => rfl, ?_, wellFormed.frontEnd.issued, ?_⟩, wellFormed.executedPair, wellFormed.retiringPair⟩
      · intro _
        simp [fillSlot, span]
      · exact follows
  | fault found mem faults =>
      exact returnTo_wellFormed (s := { s with memory := mem }) wellFormed.retiringPair _
  | faultNearEnd found mem faults =>
      refine ⟨⟨fun _ => rfl, ?_, issuedPair_of_invalid rfl rfl, Bool.false_ne_true.elim⟩,
        executedPair_of_invalid rfl rfl, wellFormed.retiringPair⟩
      intro _
      rfl

/-! ## Runs -/

theorem atExecute_wellFormed {s t : CPUCore} (wellFormed : WellFormed s) (ran : s.atExecute = .ok t) :
    WellFormed t := by
  rcases atExecute_outcome wellFormed ran with ⟨trapped, outcome⟩
  exact outcome.wellFormed (atMemoryAccess_wellFormed wellFormed)

theorem atDecode_wellFormed {s t : CPUCore} (wellFormed : WellFormed s) (ran : s.atDecode = .ok t) :
    WellFormed t := by
  rcases map_eq_ok.mp ran with ⟨before, earlier, executed⟩
  subst executed
  exact execute_wellFormed (atExecute_wellFormed wellFormed earlier)

theorem atFetch_wellFormed {s t : CPUCore} (wellFormed : WellFormed s) (ran : s.atFetch = .ok t) :
    WellFormed t := by
  rcases map_eq_ok.mp ran with ⟨before, earlier, issued⟩
  subst issued
  exact decodeAndIssue_wellFormed (atDecode_wellFormed wellFormed earlier)

/-- A tick of a running core, from the memory stage on. -/
theorem tick_running {s : CPUCore} (running : s.running = true) :
    s.tick = s.atMemoryAccess.memoryAccess.bind (fun out => out.1.execute.decodeAndIssue.fetch) := by
  unfold tick atFetch atDecode atExecute
  rw [running]
  cases s.atMemoryAccess.memoryAccess <;> rfl

/-- Past the memory stage the execute and decode stages cannot fail. -/
theorem atDecode_of_atExecute {s e : CPUCore} (executing : s.atExecute = .ok e) : s.atDecode = .ok e.execute := by
  rw [atDecode, executing]
  rfl

theorem atFetch_of_atExecute {s e : CPUCore} (executing : s.atExecute = .ok e) :
    s.atFetch = .ok e.execute.decodeAndIssue := by
  rw [atFetch, atDecode_of_atExecute executing]
  rfl

theorem tick_of_atExecute {s e : CPUCore} (running : s.running = true) (executing : s.atExecute = .ok e) :
    s.tick = e.execute.decodeAndIssue.fetch := by
  unfold tick
  rw [running, atFetch_of_atExecute executing]
  rfl

/-- The timer line is in `mip`. -/
theorem updateTimer_regFile (s : CPUCore) : Exists fun mip => s.updateTimer.regFile = { s.regFile with mip := mip } := by
  unfold updateTimer RegisterFile.hwSetMtip
  simp only
  split
  · exact ⟨_, rfl⟩
  · exact ⟨_, rfl⟩

theorem atWriteBack_quiet {s : CPUCore} (noInterrupt : selectInterrupt s.updateTimer.regFile = none) :
    s.atWriteBack = s.updateTimer := by
  unfold atWriteBack checkAndHandleInterrupts
  rw [noInterrupt]

/-- Before the memory stage a tick only advances the timer in memory. -/
theorem atWriteBack_memory (s : CPUCore) : s.atWriteBack.memory = s.memory.incrementTimer := by
  unfold atWriteBack checkAndHandleInterrupts
  cases selectInterrupt s.updateTimer.regFile with
  | none => rfl
  | some cause => rfl

theorem atMemoryAccess_memory (s : CPUCore) : s.atMemoryAccess.memory = s.memory.incrementTimer := by
  rcases writeBack_frame s.atWriteBack with ⟨regFile, count, running, frame⟩
  rw [atMemoryAccess, frame]
  exact atWriteBack_memory s

/-- Interrupts leave the executed instructions in flight alone. -/
theorem atWriteBack_backEnd (s : CPUCore) : s.atWriteBack.exMem = s.exMem ∧ s.atWriteBack.memWb = s.memWb := by
  unfold atWriteBack checkAndHandleInterrupts
  cases selectInterrupt s.updateTimer.regFile with
  | none => exact ⟨rfl, rfl⟩
  | some cause => exact ⟨rfl, rfl⟩

/-- So does write-back, which is not the stage to empty its latch. -/
theorem atMemoryAccess_backEnd (s : CPUCore) :
    s.atMemoryAccess.exMem = s.exMem ∧ s.atMemoryAccess.memWb = s.memWb := by
  rcases writeBack_frame s.atWriteBack with ⟨regFile, count, running, frame⟩
  rw [atMemoryAccess, frame]
  exact atWriteBack_backEnd s

theorem fetch_memWb {s t : CPUCore} (fetched : Fetch s t) : t.memWb = s.memWb := by
  cases fetched <;> rfl

/-- The rest of the tick leaves alone what the memory stage has handed on. -/
theorem tick_memWb {s t : CPUCore} (wellFormed : WellFormed s) (running : s.running = true) (ran : s.tick = .ok t) :
    Exists fun out => s.atMemoryAccess.memoryAccess = .ok out ∧ t.memWb = out.1.memWb := by
  rw [tick_running running] at ran
  rcases bind_eq_ok.mp ran with ⟨out, accessed, fetched⟩
  have formed := decodeAndIssue_wellFormed
    (execute_wellFormed (memoryAccess_wellFormed (atMemoryAccess_wellFormed wellFormed) accessed))
  exact ⟨out, accessed, (fetch_memWb (fetch_fetch formed.frontEnd.ordered fetched)).trans (execute_memWb out.1)⟩

/-- One tick keeps the latches well formed. -/
theorem tick_wellFormed (s t : CPUCore) (wellFormed : WellFormed s) (ran : s.tick = .ok t) : WellFormed t := by
  unfold tick at ran
  split at ran
  · cases ran
    exact atWriteBack_wellFormed wellFormed
  · rcases bind_eq_ok.mp ran with ⟨before, earlier, fetched⟩
    have formed := atFetch_wellFormed wellFormed earlier
    exact (fetch_fetch formed.frontEnd.ordered fetched).wellFormed formed

/-- A state that some run of the simulator on some program reaches. -/
def Reachable (s : CPUCore) : Prop :=
  Exists fun config => Exists fun image => Exists fun keyboard => Reaches tick (init config image keyboard) s

theorem Reachable.wellFormed {s : CPUCore} (reachable : Reachable s) : WellFormed s := by
  rcases reachable with ⟨config, image, keyboard, reaches⟩
  exact reaches.invariant (init_wellFormed config image keyboard) tick_wellFormed

end Pipeline
end SimpleRV
