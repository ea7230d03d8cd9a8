import SimpleRV.Pipeline.Decode
import SimpleRV.Pipeline.MemoryFrames

namespace SimpleRV
namespace Pipeline

open IssueUnit CPUCore ExecutionEngine

/-!
# The execute stage

What executing a slot may change and which registers it looks at, the latch
that the engine builds, and the ways in which branch resolution and the trap
check can end.
-/

/-! ## One slot -/

/-- Executing a slot fills in its result, jump target and CSR value.  Of the
decoded data only the branch flag changes. -/
structure SlotFrame (before after : PipelineSlot) : Prop where
  instr : after.instr = before.instr
  rd : after.rd = before.rd
  regWrite : after.regWrite = before.regWrite
  d : after.d = { before.d with isBranch := after.d.isBranch }

theorem SlotFrame.isCsr {before after : PipelineSlot} (frame : SlotFrame before after) :
    after.d.isCsr = before.d.isCsr := by
  rw [frame.d]

theorem executeSlotWith_frame (operand : RegNum -> Word) (slot : PipelineSlot) (regFile : RegisterFile)
    (pc : Addr) (slotId : Fin 2) : SlotFrame slot (executeSlotWith operand slot regFile pc slotId) := by
  unfold executeSlotWith executeCSR executeJump executeBranch
  simp only
  repeat' split
  all_goals exact ⟨rfl, rfl, rfl, rfl⟩

/-- A slot that leaves the engine as a branch was decoded as one. -/
theorem executeSlotWith_isBranch {operand : RegNum -> Word} {slot : PipelineSlot} {regFile : RegisterFile}
    {pc : Addr} {slotId : Fin 2} (jumps : slot.d.op = 0x6F ∨ slot.d.op = 0x67 -> slot.d.isBranch = true)
    (taken : (executeSlotWith operand slot regFile pc slotId).d.isBranch = true) :
    slot.d.isBranch = true := by
  unfold executeSlotWith executeCSR executeJump executeBranch at taken
  simp only at taken
  split at taken
  · exact taken
  · split at taken
    · rename_i jump
      exact jumps (by simpa using jump)
    · split at taken
      · assumption
      · split at taken
        · exact taken
        · exact taken

/-- The switch of `executeSlot`, in the order of the source. -/
inductive SlotKind (d : DecodedData) : Prop where
  | csr (csr : d.isCsr = true)
  | jump (plain : d.isCsr = false) (op : d.op = 0x6F ∨ d.op = 0x67)
  | branch (plain : d.isCsr = false) (noJump : ¬(d.op = 0x6F ∨ d.op = 0x67)) (isBranch : d.isBranch = true)
  | compute (plain : d.isCsr = false) (noJump : ¬(d.op = 0x6F ∨ d.op = 0x67)) (noBranch : d.isBranch = false)

theorem slotKind (d : DecodedData) : SlotKind d := by
  cases csr : d.isCsr with
  | true => exact .csr csr
  | false =>
      by_cases jump : d.op = 0x6F ∨ d.op = 0x67
      · exact .jump csr jump
      · cases isBranch : d.isBranch with
        | true => exact .branch csr jump isBranch
        | false => exact .compute csr jump isBranch

section Kinds

variable {operand : RegNum -> Word} {slot : PipelineSlot} {regFile : RegisterFile} {pc : Addr} {slotId : Fin 2}

theorem executeSlotWith_csr (csr : slot.d.isCsr = true) : executeSlotWith operand slot regFile pc slotId =
    executeCSR slot.d (if slot.d.usesRs1 then operand slot.d.rs1 else 0) slot regFile := by
  simp [executeSlotWith, csr]

theorem executeSlotWith_jump (plain : slot.d.isCsr = false) (op : slot.d.op = 0x6F ∨ slot.d.op = 0x67) :
    executeSlotWith operand slot regFile pc slotId =
      if slotId = 0 then executeJump slot.d (operand slot.d.rs1) slot pc else slot := by
  rcases op with op | op <;> simp [executeSlotWith, plain, op]

theorem executeSlotWith_branch (plain : slot.d.isCsr = false) (noJump : ¬(slot.d.op = 0x6F ∨ slot.d.op = 0x67))
    (isBranch : slot.d.isBranch = true) : executeSlotWith operand slot regFile pc slotId =
      if slotId = 0 then executeBranch slot.d (operand slot.d.rs1) (operand slot.d.rs2) slot pc else slot := by
  simp at noJump
  simp [executeSlotWith, plain, noJump, isBranch]

/-- The result of an instruction that neither jumps nor touches a CSR. -/
def computed (operand : RegNum -> Word) (d : DecodedData) (old : Word) (pc : Addr) : Word :=
  if d.op = 0x33 then executeRType d (operand d.rs1) (operand d.rs2)
  else executeIType d (operand d.rs1) old pc

theorem executeSlotWith_compute (plain : slot.d.isCsr = false)
    (noJump : ¬(slot.d.op = 0x6F ∨ slot.d.op = 0x67)) (noBranch : slot.d.isBranch = false) :
    executeSlotWith operand slot regFile pc slotId =
      { slot with result := computed operand slot.d slot.result pc } := by
  simp at noJump
  by_cases register : slot.d.op = 0x33#7
  · simp [executeSlotWith, computed, plain, noBranch, register]
  · simp [executeSlotWith, computed, plain, noJump, noBranch, register]

end Kinds

/-- Two operand functions that agree on the sources a slot uses. -/
def SameSources (d : DecodedData) (left right : RegNum -> Word) : Prop :=
  (d.usesRs1 = true -> left d.rs1 = right d.rs1) ∧ (d.usesRs2 = true -> left d.rs2 = right d.rs2)

/-- `executeIType` looks at its operand for OP-IMM, loads and stores only. -/
theorem executeIType_congr {d : DecodedData} {left right : Word}
    (same : d.op = 0x13 ∨ d.op = 0x03 ∨ d.op = 0x23 -> left = right) (old : Word) (pc : Addr) :
    executeIType d left old pc = executeIType d right old pc := by
  unfold executeIType
  simp only
  split
  · rw [same (.inl ‹_›)]
  · rw [same (.inr (.inl ‹_›))]
  · rw [same (.inr (.inr ‹_›))]
  all_goals rfl

/-- The engine calls `getOperand` for registers that an instruction does not
use as well, but their values never show. -/
theorem executeSlotWith_congr {left right : RegNum -> Word} {slot : PipelineSlot}
    (decoded : slot.d = decode slot.instr) (same : SameSources slot.d left right)
    (regFile : RegisterFile) (pc : Addr) (slotId : Fin 2) :
    executeSlotWith left slot regFile pc slotId = executeSlotWith right slot regFile pc slotId := by
  have sources := decode_sources slot.instr
  rw [← decoded] at sources
  rcases sources with ⟨registerOps, immediateOps, jumpOps, branchOps⟩
  cases slotKind slot.d with
  | csr csr =>
      rw [executeSlotWith_csr csr, executeSlotWith_csr csr]
      cases uses : slot.d.usesRs1 with
      | false => rfl
      | true => rw [same.1 uses]
  | jump plain op =>
      rw [executeSlotWith_jump plain op, executeSlotWith_jump plain op]
      rcases op with jal | jalr
      · simp [executeJump, jal]
      · rw [same.1 (immediateOps (.inr (.inr (.inr jalr))))]
  | branch plain noJump isBranch =>
      rw [executeSlotWith_branch plain noJump isBranch, executeSlotWith_branch plain noJump isBranch]
      rcases branchOps isBranch with jal | jalr | ⟨uses1, uses2⟩
      · exact absurd (.inl jal) noJump
      · exact absurd (.inr jalr) noJump
      · rw [same.1 uses1, same.2 uses2]
  | compute plain noJump noBranch =>
      rw [executeSlotWith_compute plain noJump noBranch, executeSlotWith_compute plain noJump noBranch]
      unfold computed
      by_cases register : slot.d.op = 0x33
      · rw [if_pos register, if_pos register, same.1 (registerOps register).1, same.2 (registerOps register).2]
      · rw [if_neg register, if_neg register, executeIType_congr]
        rintro (op | op | op)
        · exact same.1 (immediateOps (.inl op))
        · exact same.1 (immediateOps (.inr (.inl op)))
        · exact same.1 (immediateOps (.inr (.inr (.inl op))))

/-! ## The latch that the engine builds -/

/-- A lane of ID/EX after execution against the given old EX/MEM latch. -/
def executedSlot (idEx : IdExBuffer) (memWb : MemWbBuffer) (regFile : RegisterFile) (exMem : ExMemBuffer)
    (lane : Fin 2) : PipelineSlot :=
  if (idEx.slots.get lane).valid then
    { executeSlot (idEx.slots.get lane) idEx memWb regFile exMem lane with valid := true }
  else {}

/-- The old latch as slot 1 sees it: lane 0 already holds its partner. -/
def seenBySlot1 (idEx : IdExBuffer) (memWb : MemWbBuffer) (regFile : RegisterFile) (exMem : ExMemBuffer) :
    ExMemBuffer :=
  if idEx.slots.s0.valid then
    { exMem with slots := exMem.slots.set 0 (executedSlot idEx memWb regFile exMem 0) }
  else exMem

theorem engine_eq (idEx : IdExBuffer) (exMem : ExMemBuffer) (memWb : MemWbBuffer) (regFile : RegisterFile) :
    ExecutionEngine.execute idEx exMem memWb regFile =
      let seen := seenBySlot1 idEx memWb regFile exMem
      let out0 := executedSlot idEx memWb regFile exMem 0
      let out1 := executedSlot idEx memWb regFile seen 1
      { slots := ⟨out0, out1⟩
        pc := idEx.pc
        memAddr := ⟨if idEx.slots.s0.valid && idEx.slots.s0.d.isMemory then out0.result else 0,
          if idEx.slots.s1.valid && idEx.slots.s1.d.isMemory then out1.result else 0⟩
        memData := ⟨if idEx.slots.s0.valid && idEx.slots.s0.d.isMemory then
            getOperand idEx.slots.s0.d.rs2 memWb regFile exMem 0 else 0,
          if idEx.slots.s1.valid && idEx.slots.s1.d.isMemory then
            getOperand idEx.slots.s1.d.rs2 memWb regFile seen 1 else 0⟩
        memRead := ⟨idEx.slots.s0.valid && idEx.memRead.s0, idEx.slots.s1.valid && idEx.memRead.s1⟩
        memWrite := ⟨idEx.slots.s0.valid && idEx.memWrite.s0, idEx.slots.s1.valid && idEx.memWrite.s1⟩ } := by
  unfold ExecutionEngine.execute executeLane seenBySlot1 executedSlot
  cases valid0 : idEx.slots.s0.valid <;> cases valid1 : idEx.slots.s1.valid <;>
    cases memory0 : idEx.slots.s0.d.isMemory <;> cases memory1 : idEx.slots.s1.d.isMemory <;>
    simp [valid0, valid1, memory0, memory1]

/-- Each lane of the latch is its slot of ID/EX, executed. -/
theorem engine_slot (idEx : IdExBuffer) (exMem : ExMemBuffer) (memWb : MemWbBuffer) (regFile : RegisterFile)
    (lane : Fin 2) : Exists fun latch =>
      (ExecutionEngine.execute idEx exMem memWb regFile).slots.get lane =
        executedSlot idEx memWb regFile latch lane := by
  rw [engine_eq]
  cases lane using laneCases with
  | zero => exact ⟨exMem, rfl⟩
  | one => exact ⟨_, rfl⟩

/-! ## Commits in the execute stage -/

/-- The state after the engine and the CSR and SFENCE commits. -/
def committed (s : CPUCore) : CPUCore :=
  (((s.runEngine.commitCsrLane 0).commitCsrLane 1).commitSfenceLane 0).commitSfenceLane 1

/-- The commits change CSRs and the TLB only. -/
theorem committed_frame (s : CPUCore) : Exists fun regFile => Exists fun memory =>
    committed s = { s.runEngine with regFile := regFile, memory := memory } := by
  have csr : forall (s : CPUCore) lane, Exists fun regFile => s.commitCsrLane lane = { s with regFile := regFile } := by
    intro s lane
    unfold commitCsrLane
    simp only
    split
    · exact ⟨_, rfl⟩
    · exact ⟨s.regFile, rfl⟩
  have sfence : forall (s : CPUCore) lane, Exists fun memory => s.commitSfenceLane lane = { s with memory := memory } := by
    intro s lane
    unfold commitSfenceLane
    simp only
    split
    · exact ⟨_, rfl⟩
    · exact ⟨s.memory, rfl⟩
  rcases csr s.runEngine 0 with ⟨regFile0, eq0⟩
  rcases csr { s.runEngine with regFile := regFile0 } 1 with ⟨regFile1, eq1⟩
  rcases sfence { s.runEngine with regFile := regFile1 } 0 with ⟨memory0, eq2⟩
  rcases sfence { s.runEngine with regFile := regFile1, memory := memory0 } 1 with ⟨memory1, eq3⟩
  exact ⟨regFile1, memory1, by rw [committed, eq0, eq1, eq2, eq3]⟩

theorem commitCsrLane_quiet {s : CPUCore} {lane : Fin 2}
    (quiet : (s.exMem.slots.get lane).valid = true -> (s.exMem.slots.get lane).d.isCsr = false) :
    s.commitCsrLane lane = s := by
  unfold commitCsrLane
  simp only
  split
  · rename_i both
    rcases Bool.and_eq_true_iff.mp both with ⟨valid, isCsr⟩
    exact absurd ((quiet valid).symm.trans isCsr) Bool.false_ne_true
  · rfl

theorem commitCsrLane_exMem (s : CPUCore) (lane : Fin 2) : (s.commitCsrLane lane).exMem = s.exMem := by
  unfold commitCsrLane
  simp only
  split
  · rfl
  · rfl

theorem commitCsrLane_memory (s : CPUCore) (lane : Fin 2) : (s.commitCsrLane lane).memory = s.memory := by
  unfold commitCsrLane
  simp only
  split
  · rfl
  · rfl

theorem commitSfenceLane_sameStorage (s : CPUCore) (lane : Fin 2) :
    SameStorage s.memory (s.commitSfenceLane lane).memory := by
  unfold commitSfenceLane
  simp only
  split
  · exact ⟨rfl, rfl, rfl, rfl⟩
  · exact .refl s.memory

/-- The commits write no memory. -/
theorem committed_sameStorage (s : CPUCore) : SameStorage s.memory (committed s).memory := by
  have csrs : ((s.runEngine.commitCsrLane 0).commitCsrLane 1).memory = s.memory :=
    (commitCsrLane_memory _ 1).trans (commitCsrLane_memory _ 0)
  rw [← csrs]
  exact (commitSfenceLane_sameStorage _ 0).trans (commitSfenceLane_sameStorage _ 1)

/-! ## Branch resolution -/

/-- What `resolveBranch` can do with the pc and the two front-end latches. -/
inductive Resolution (s : CPUCore) : CPUCore -> Prop where
  | fallsThrough (notTaken : s.exMem.slots.s0.valid = true -> s.exMem.slots.s0.d.isBranch = false ∧
      s.exMem.slots.s0.d.predictedTaken = false) : Resolution s s
  | asPredicted (valid : s.exMem.slots.s0.valid = true) (taken : s.exMem.slots.s0.d.isBranch = true)
      (predicted : s.exMem.slots.s0.d.predictedTaken = true) : Resolution s s.squashSlot1
  | redirected (target : Addr) (valid : s.exMem.slots.s0.valid = true)
      (mispredicted : s.exMem.slots.s0.d.isBranch = !s.exMem.slots.s0.d.predictedTaken)
      (destination : target = if s.exMem.slots.s0.d.isBranch then s.exMem.slots.s0.jumpTarget
        else s.exMem.pc + 4) : Resolution s ({ s with pc := target }.flush.squashSlot1)

theorem resolveBranch_resolution (s : CPUCore) : Resolution s s.resolveBranch := by
  unfold resolveBranch
  simp only
  cases valid : s.exMem.slots.s0.valid with
  | false => exact .fallsThrough (fun impossible => absurd (valid.symm.trans impossible) (by decide))
  | true =>
      cases taken : s.exMem.slots.s0.d.isBranch <;> cases predicted : s.exMem.slots.s0.d.predictedTaken
      · exact .fallsThrough (fun _ => ⟨taken, predicted⟩)
      · exact .redirected _ valid (by rw [taken, predicted]; rfl) (by rw [taken]; rfl)
      · exact .redirected _ valid (by rw [taken, predicted]; rfl) (by rw [taken]; rfl)
      · exact .asPredicted valid taken predicted

/-- Resolution can only take slot 1 out of EX/MEM. -/
theorem Resolution.exMem {s t : CPUCore} (resolution : Resolution s t) :
    t.exMem = s.exMem ∨ t.exMem = s.squashSlot1.exMem := by
  cases resolution with
  | fallsThrough notTaken => exact .inl rfl
  | asPredicted valid taken predicted => exact .inr rfl
  | redirected target valid mispredicted destination => exact .inr rfl

theorem executeResolved_resolution (s : CPUCore) : Resolution (committed s) s.executeResolved :=
  resolveBranch_resolution (committed s)

/-- Slot 0 goes through the stage as the engine left it. -/
theorem executeResolved_slot0 (s : CPUCore) :
    s.executeResolved.exMem.slots.s0 = executedSlot s.idEx s.memWb s.regFile s.exMem 0 ∧
      s.executeResolved.exMem.memRead.s0 = (s.idEx.slots.s0.valid && s.idEx.memRead.s0) ∧
      s.executeResolved.exMem.memWrite.s0 = (s.idEx.slots.s0.valid && s.idEx.memWrite.s0) := by
  rcases committed_frame s with ⟨regFile, memory, frame⟩
  have engine := engine_eq s.idEx s.exMem s.memWb s.regFile
  rcases (executeResolved_resolution s).exMem with same | squashed
  · rw [same, frame, runEngine]
    simp only [engine, and_self]
  · rw [squashed, frame, runEngine, squashSlot1]
    simp only [engine, Dual.set_one, and_self]

/-! ## Traps and returns -/

/-- Registers and pc after the trap or return of a slot. -/
def trapTarget (regFile : RegisterFile) (slot : PipelineSlot) (slotPc : Addr) : RegisterFile × Addr :=
  if slot.d.isEcall then regFile.handleTrap (slotPc + 4) regFile.ecallCause 0
  else if slot.d.isIllegal then regFile.handleTrap slotPc MCAUSE_ILLEGAL slot.instr
  else if slot.d.isMret then regFile.mret
  else regFile.sret

/-- Every trap, from whichever stage, empties the same three latches. -/
theorem handleTrap_eq (s : CPUCore) (faultPc causeVal tvalVal : Word) :
    s.handleTrap faultPc causeVal tvalVal = s.returnTo (s.regFile.handleTrap faultPc causeVal tvalVal) := rfl

theorem handleSlotTrap_eq (s : CPUCore) {slot : PipelineSlot} (slotPc : Addr)
    (traps : trapsInEx slot.d = true) :
    s.handleSlotTrap slot slotPc = s.returnTo (trapTarget s.regFile slot slotPc) := by
  unfold handleSlotTrap trapTarget
  simp only [trapsInEx, Bool.or_eq_true] at traps
  by_cases ecall : slot.d.isEcall = true
  · simp only [if_pos ecall, handleTrap_eq]
  by_cases illegal : slot.d.isIllegal = true
  · simp only [if_neg ecall, if_pos illegal, handleTrap_eq]
  by_cases mret : slot.d.isMret = true
  · simp only [if_neg ecall, if_neg illegal, if_pos mret]
  have sret : slot.d.isSret = true := by
    simpa [ecall, illegal, mret] using traps
  simp only [if_neg ecall, if_neg illegal, if_neg mret, if_pos sret]

/-- How the trap check ends. -/
inductive TrapOutcome (s : CPUCore) : CPUCore -> Prop where
  | none (quiet : trapLane s.exMem = none) : TrapOutcome s s
  | taken (lane : Fin 2) (found : trapLane s.exMem = some lane) :
      TrapOutcome s (s.returnTo (trapTarget s.regFile (s.exMem.slots.get lane)
        (s.exMem.pc + BitVec.ofNat 32 (4 * lane.val))))

/-- The lane that traps is valid and holds a trapping instruction. -/
theorem trapLane_some {exMem : ExMemBuffer} {lane : Fin 2} (found : trapLane exMem = some lane) :
    exMem.slots.s0.valid = true ∧ (exMem.slots.get lane).valid = true ∧
      trapsInEx (exMem.slots.get lane).d = true := by
  unfold trapLane at found
  cases valid : exMem.slots.s0.valid with
  | false => simp [valid] at found
  | true =>
      simp only [valid, Bool.not_true, Bool.false_eq_true, if_false] at found
      split at found
      · cases found
        exact ⟨rfl, valid, ‹_›⟩
      · split at found
        · cases found
          rename_i both
          exact ⟨rfl, Bool.and_eq_true_iff.mp both⟩
        · cases found

/-- Slot 1 is looked at when slot 0 does not trap. -/
theorem trapLane_one {exMem : ExMemBuffer} (found : trapLane exMem = some 1) :
    trapsInEx exMem.slots.s0.d = false := by
  unfold trapLane at found
  split at found
  · cases found
  · split at found
    · cases found
    · simpa using ‹¬trapsInEx exMem.slots.s0.d = true›

theorem trapLane_none {exMem : ExMemBuffer} (quiet : trapLane exMem = none)
    (ordered : exMem.slots.s1.valid = true -> exMem.slots.s0.valid = true) (lane : Fin 2)
    (valid : (exMem.slots.get lane).valid = true) : trapsInEx (exMem.slots.get lane).d = false := by
  have valid0 : exMem.slots.s0.valid = true := by
    cases lane using laneCases with
    | zero => exact valid
    | one => exact ordered valid
  simp only [trapLane, valid0, Bool.not_true, Bool.false_eq_true, if_false] at quiet
  split at quiet
  · cases quiet
  · split at quiet
    · cases quiet
    · rename_i quiet0 quiet1
      cases lane using laneCases with
      | zero => simpa using quiet0
      | one => simpa [show exMem.slots.s1.valid = true from valid] using quiet1

theorem handleSlotTraps_none {s : CPUCore} (quiet : trapLane s.exMem = none) : s.handleSlotTraps = s := by
  rw [handleSlotTraps, quiet]

theorem handleSlotTraps_some {s : CPUCore} {lane : Fin 2} (found : trapLane s.exMem = some lane) :
    s.handleSlotTraps = s.returnTo (trapTarget s.regFile (s.exMem.slots.get lane)
      (s.exMem.pc + BitVec.ofNat 32 (4 * lane.val))) := by
  rw [handleSlotTraps, found]
  exact handleSlotTrap_eq s _ (trapLane_some found).2.2

theorem handleSlotTraps_outcome (s : CPUCore) : TrapOutcome s s.handleSlotTraps := by
  cases found : trapLane s.exMem with
  | none =>
      rw [handleSlotTraps_none found]
      exact .none found
  | some lane =>
      rw [handleSlotTraps_some found]
      exact .taken lane found

theorem Resolution.memWb {s t : CPUCore} (resolution : Resolution s t) : t.memWb = s.memWb := by
  cases resolution <;> rfl

theorem TrapOutcome.memWb {s t : CPUCore} (outcome : TrapOutcome s t) : t.memWb = s.memWb := by
  cases outcome <;> rfl

/-- The execute stage does not touch MEM/WB. -/
theorem execute_memWb (s : CPUCore) : s.execute.memWb = s.memWb := by
  rcases committed_frame s with ⟨regFile, memory, frame⟩
  have trapped := (handleSlotTraps_outcome s.executeResolved).memWb
  have resolved := (executeResolved_resolution s).memWb
  rw [frame] at resolved
  exact trapped.trans resolved

/-- Only the commits reach memory. -/
theorem execute_memory (s : CPUCore) : s.execute.memory = (committed s).memory := by
  have resolved : s.executeResolved.memory = (committed s).memory := by
    have resolution := executeResolved_resolution s
    generalize s.executeResolved = t at resolution
    cases resolution <;> rfl
  have trapped : s.execute.memory = s.executeResolved.memory := by
    have outcome := handleSlotTraps_outcome s.executeResolved
    unfold CPUCore.execute
    generalize s.executeResolved.handleSlotTraps = t at outcome
    cases outcome <;> rfl
  exact trapped.trans resolved

/-- They write none. -/
theorem execute_sameStorage (s : CPUCore) : SameStorage s.memory s.execute.memory := by
  rw [execute_memory]
  exact committed_sameStorage s

/-! ## Nothing to execute -/

theorem executedSlot_of_invalid {idEx : IdExBuffer} {lane : Fin 2} (invalid : (idEx.slots.get lane).valid = false)
    (memWb : MemWbBuffer) (regFile : RegisterFile) (exMem : ExMemBuffer) :
    executedSlot idEx memWb regFile exMem lane = {} := by
  unfold executedSlot
  rw [if_neg (by rw [invalid]; decide)]

theorem engine_of_invalid {idEx : IdExBuffer} (invalid : forall lane, (idEx.slots.get lane).valid = false)
    (exMem : ExMemBuffer) (memWb : MemWbBuffer) (regFile : RegisterFile) :
    ExecutionEngine.execute idEx exMem memWb regFile = { pc := idEx.pc } := by
  have invalid0 : idEx.slots.s0.valid = false := invalid 0
  have invalid1 : idEx.slots.s1.valid = false := invalid 1
  rw [engine_eq]
  simp only [executedSlot_of_invalid (invalid 0), executedSlot_of_invalid (invalid 1), invalid0, invalid1,
    Bool.false_and, Bool.false_eq_true, if_false]

/-- With nothing in ID/EX the execute stage empties EX/MEM and does no more. -/
theorem execute_of_invalid {s : CPUCore} (invalid : forall lane, (s.idEx.slots.get lane).valid = false) :
    s.execute = { s with exMem := { pc := s.idEx.pc } } := by
  have engine : s.runEngine = { s with exMem := { pc := s.idEx.pc } } := by
    rw [runEngine, engine_of_invalid invalid]
  unfold CPUCore.execute executeResolved
  rw [engine]
  rfl

end Pipeline
end SimpleRV
