import SimpleRV.Refinement.Simulation

namespace SimpleRV
namespace Refinement

open RegisterFile IssueUnit CPUCore ExecutionEngine Pipeline InFlight

/-!
# The simulation through the execute stage

The engine executes the next instruction of the path in lane 0, and the one
after it in lane 1 if the two were issued together and the first does not
branch away.  Whatever else is in lane 1 is squashed before it has an effect.
-/

section Relation

variable (path : Nat -> SeqState) (length : Nat)

/-- A state between the execute and the decode stage. -/
structure AtDecode (s : CPUCore) (retired accessed executed : Nat) : Prop where
  formed : WellFormed s
  running : s.running = true
  backEnd : BackEnd path length s.regFile s.memory.memory s.exMem s.memWb retired accessed executed
  next : frontPc s.ifId s.pc = (path executed).pc
  ifIdWords : WordsOfPath path length s.ifId.pc s.ifId.slots
  fresh : s.ifId.slots.s0.valid = true ∨ s.idEx.slots.s0.valid = false
  counted : NoTraps path length -> s.instrCount = retired

/-- The instructions of the path from one point on. -/
def segment (start count : Nat) : List (Addr × Word) :=
  (List.range count).map (fun k => ((path (start + k)).pc, (path (start + k)).instr))

end Relation

/-- The instructions that `execute` processes: what is in EX/MEM once the
branch in slot 0 has been resolved. -/
def processed (e : CPUCore) : List (Addr × Word) :=
  entries e.executeResolved.exMem.pc e.executeResolved.exMem.slots

variable {path : Nat -> SeqState} {length : Nat}

/-! ## Instructions of the path -/

theorem allowed_csr {r : SeqState} (allowed : r.Allowed) (isCsr : r.slot.d.isCsr = true) :
    r.slot.d.csrAddr ≠ CSR_MIP ∧ r.slot.d.csrAddr ≠ CSR_SIP := by
  rcases allowed with ordinary | system | halts
  · exact absurd ((plain_of_ordinary ordinary).noCsr.symm.trans isCsr) Bool.false_ne_true
  · have quiet := ((decode_exclusive r.instr).csr isCsr).1
    cases system with
    | csr _ notMip notSip => exact ⟨notMip, notSip⟩
    | ecall isEcall =>
        have flag : (decode r.instr).isEcall = true := isEcall
        have traps : trapsInEx (decode r.instr) = true := by simp [trapsInEx, flag]
        exact absurd traps (ne_true_of_eq_false quiet)
    | mret isMret mpp =>
        have flag : (decode r.instr).isMret = true := isMret
        have traps : trapsInEx (decode r.instr) = true := by simp [trapsInEx, flag]
        exact absurd traps (ne_true_of_eq_false quiet)
  · exact absurd ((decode_halt halts).2.2.1.symm.trans isCsr) Bool.false_ne_true

/-- A real instruction does not halt the simulator. -/
theorem noHalt_of_real {r : SeqState} (allowed : r.Ordinary ∨ r.SystemInstr) : isHalt r.instr = false := by
  cases halts : isHalt r.instr with
  | false => rfl
  | true =>
      have flags := decode_halt halts
      rcases allowed with ordinary | system
      · exact absurd ((plain_of_ordinary ordinary).noHalt.symm.trans halts) Bool.false_ne_true
      · have quiet : trapsInEx r.slot.d = false := flags.2.2.2.2.1
        cases system with
        | csr isCsr _ _ => exact absurd isCsr (ne_true_of_eq_false flags.2.2.1)
        | ecall isEcall => simp [trapsInEx, isEcall] at quiet
        | mret isMret mpp => simp [trapsInEx, isMret] at quiet

/-- An issued slot that holds the word of a state is decoded like it. -/
theorem issued_slot_d {idEx : IdExBuffer} (issued : IssuedPair idEx) (lane : Fin 2)
    (valid : (idEx.slots.get lane).valid = true) {r : SeqState}
    (sameInstr : (idEx.slots.get lane).instr = r.instr) : (idEx.slots.get lane).d = r.slot.d := by
  rw [(issued.decoded lane valid).d, sameInstr]
  rfl

/-- What is no branch is not taken. -/
theorem executed_straight {r : SeqState} (noBranch : r.slot.d.isBranch = false) :
    r.executed.d.isBranch = false := by
  cases taken : r.executed.d.isBranch with
  | false => rfl
  | true =>
      have branch := executeSlotWith_isBranch (decode_sources r.instr).2.2.1 taken
      exact absurd branch (ne_true_of_eq_false noBranch)

/-- Only jumps and conditional branches are predicted taken. -/
theorem decode_predicted {instr : Word} (predicted : (decode instr).predictedTaken = true) :
    (decode instr).op = 0x6F ∨ (decode instr).op = 0x63 := by
  have choice : predict (decodeOpcode instr (decodeFields instr)) = true := predicted
  simp only [predict, Bool.and_eq_true, Bool.or_eq_true, beq_iff_eq] at choice
  exact choice.2.imp id And.left

/-- A branch that is taken as predicted goes where the decoder said. -/
theorem predicted_target {r : SeqState} (predicted : r.slot.d.predictedTaken = true)
    (taken : r.executed.d.isBranch = true) : r.executed.jumpTarget = r.pc + r.slot.d.imm := by
  have opcode : r.slot.d.op = 0x6F ∨ r.slot.d.op = 0x63 := decode_predicted predicted
  have isBranch : r.slot.d.isBranch = true := (decode_exclusive r.instr).predicted predicted
  unfold SeqState.executed at taken ⊢
  cases slotKind r.slot.d with
  | csr csr => exact absurd (((decode_exclusive r.instr).branch isBranch).2.1.symm.trans csr) Bool.false_ne_true
  | jump plain op =>
      rw [executeSlotWith_jump plain op, if_pos rfl]
      rcases opcode with jal | branch
      · simp only [executeJump, jal, if_true]
      · rcases op with jal | jalr
        · exact absurd (jal.symm.trans branch) (by decide)
        · exact absurd (jalr.symm.trans branch) (by decide)
  | branch plain noJump branch =>
      rw [executeSlotWith_branch plain noJump branch, if_pos rfl] at taken ⊢
      unfold executeBranch at taken ⊢
      split
      · rfl
      · rename_i notTaken
        rw [if_neg notTaken] at taken
        cases taken
  | compute plain noJump noBranch => exact absurd isBranch (ne_true_of_eq_false noBranch)

/-! ## The instruction in slot 0 -/

section Leading

variable {e : CPUCore} {accessed executed : Nat}

/-- The instruction in slot 0 of ID/EX is the next one of the path. -/
theorem AtExecute.leading (here : AtExecute path length e accessed executed) (below : executed < length)
    (valid : e.idEx.slots.s0.valid = true) :
    e.idEx.pc = (path executed).pc ∧ e.idEx.slots.s0.instr = (path executed).instr := by
  have next := here.front.next
  rw [if_pos valid] at next
  exact ⟨next, here.front.idExWords 0 valid executed below (by rw [next]; simp)⟩

/-- It does in the engine what it does in the sequential machine. -/
theorem AtExecute.leadingEffect (here : AtExecute path length e accessed executed) (good : Followable path length)
    (below : executed < length) (valid : e.idEx.slots.s0.valid = true) :
    SameEffect (inFlight (ExecutionEngine.execute e.idEx e.exMem e.memWb e.regFile) 0) (path executed).inFlight := by
  rcases here.leading below valid with ⟨samePc, sameInstr⟩
  rcases here.moved with ⟨ram, moved⟩
  refine @engine_sameEffect _ _ _ _ 0 _ here.formed.frontEnd.issued valid ?_ sameInstr ?_ ?_ (.inl rfl)
  · rw [← samePc]
    simp
  · intro rs _
    have operand := getOperand_slot0 here.formed.executedPair.toEnginePair ram e.regFile rs
    rw [← moved] at operand
    rw [show seenBy e.idEx e.memWb e.regFile e.exMem 0 = e.exMem from rfl, operand, RegisterFile.readRs1,
      RegisterFile.readRs1, here.toWrite]
  · intro isCsr
    rcases allowed_csr (good.allowed executed below) isCsr with ⟨notMip, notSip⟩
    exact here.csrs.readCsr notMip notSip

/-- The register file after the CSR commit of the instruction in slot 0. -/
def csrWritten (regFile : RegisterFile) (r : SeqState) : RegisterFile :=
  if r.slot.d.isCsr then regFile.writeCsr r.slot.d.csrAddr r.executed.csrWriteVal else regFile

theorem csrWritten_gpr (regFile : RegisterFile) (r : SeqState) : (csrWritten regFile r).gpr = regFile.gpr := by
  unfold csrWritten
  split
  · exact writeCsr_gpr _ _ _
  · rfl

theorem csrWritten_sameCsrs {regFile : RegisterFile} {r : SeqState} (allowed : r.Allowed)
    (same : SameCsrs r.regFile regFile) : SameCsrs (csrWritten r.regFile r) (csrWritten regFile r) := by
  unfold csrWritten
  by_cases isCsr : r.slot.d.isCsr = true
  · rcases allowed_csr allowed isCsr with ⟨notMip, notSip⟩
    rw [if_pos isCsr, if_pos isCsr]
    exact same.writeCsr notMip notSip _
  · rw [if_neg isCsr, if_neg isCsr]
    exact same

theorem commitSfenceLane_ram (s : CPUCore) (lane : Fin 2) : Exists fun memory =>
    s.commitSfenceLane lane = { s with memory := memory } ∧ memory.memory = s.memory.memory := by
  unfold commitSfenceLane
  simp only
  split
  · exact ⟨_, rfl, rfl⟩
  · exact ⟨s.memory, rfl, rfl⟩

/-- The commits write the CSR of slot 0.  Slot 1 has none, and an SFENCE that
was fetched down the wrong path only flushes the TLB. -/
theorem AtExecute.committed_eq (here : AtExecute path length e accessed executed) (good : Followable path length)
    (below : executed < length) (valid : e.idEx.slots.s0.valid = true) : Exists fun memory =>
      committed e = { e with
        exMem := ExecutionEngine.execute e.idEx e.exMem e.memWb e.regFile
        memory := memory
        regFile := csrWritten e.regFile (path executed) } ∧ memory.memory = e.memory.memory := by
  have effect := here.leadingEffect good below valid
  have pair := engine_pair here.formed.frontEnd.issued e.exMem e.memWb e.regFile
  have frame := executed_frame (path executed)
  have first : e.runEngine.commitCsrLane 0 =
      { e.runEngine with regFile := csrWritten e.regFile (path executed) } := by
    have slotD : e.runEngine.exMem.slots.s0.d = (path executed).executed.d := effect.slot.d
    have slotValid : e.runEngine.exMem.slots.s0.valid = true := effect.valid.trans (executed_valid _)
    have isCsr : (path executed).executed.d.isCsr = (path executed).slot.d.isCsr := by rw [frame.d]
    have csrAddr : (path executed).executed.d.csrAddr = (path executed).slot.d.csrAddr := by rw [frame.d]
    unfold commitCsrLane csrWritten
    simp only [Dual.get_zero, slotValid, slotD, isCsr, csrAddr, Bool.true_and]
    by_cases csr : (path executed).slot.d.isCsr = true
    · rw [if_pos csr, if_pos csr]
      have written : e.runEngine.exMem.slots.s0.csrWriteVal = (path executed).executed.csrWriteVal :=
        effect.slot.csrWriteVal (isCsr.trans csr)
      rw [written]
      rfl
    · rw [if_neg csr, if_neg csr]
      rfl
  have second : CPUCore.commitCsrLane { e.runEngine with regFile := csrWritten e.regFile (path executed) } 1 =
      { e.runEngine with regFile := csrWritten e.regFile (path executed) } := by
    apply commitCsrLane_quiet
    intro valid1
    have noSystem := (canIssueTogether_together (pair.paired valid1)).noSystem1
    have ran := pair.ran 1 valid1
    simp only [isSystem, Bool.or_eq_false_iff] at noSystem
    change (ExecutionEngine.execute e.idEx e.exMem e.memWb e.regFile).slots.s1.d.isCsr = false
    rw [show (ExecutionEngine.execute e.idEx e.exMem e.memWb e.regFile).slots.s1.d = _ from ran.d]
    exact noSystem.2
  rcases commitSfenceLane_ram { e.runEngine with regFile := csrWritten e.regFile (path executed) } 0 with
    ⟨memory0, third, ram0⟩
  rcases commitSfenceLane_ram
    { e.runEngine with regFile := csrWritten e.regFile (path executed), memory := memory0 } 1 with
    ⟨memory1, fourth, ram1⟩
  refine ⟨memory1, ?_, ram1.trans ram0⟩
  rw [committed, first, second, third, fourth]
  rfl

/-! ## How the stage ends -/

/-- EX/MEM with an instruction of the path in slot 0. -/
structure Leads (exMem : ExMemBuffer) (r : SeqState) : Prop where
  pc : exMem.pc = r.pc
  effect : SameEffect (inFlight exMem 0) r.inFlight

section Leads

variable {exMem : ExMemBuffer} {r : SeqState}

theorem Leads.valid (leads : Leads exMem r) : exMem.slots.s0.valid = true :=
  leads.effect.valid.trans (executed_valid r)

theorem Leads.instr (leads : Leads exMem r) : exMem.slots.s0.instr = r.instr :=
  leads.effect.slot.instr.trans (executed_frame r).instr

theorem Leads.d (leads : Leads exMem r) : exMem.slots.s0.d = r.executed.d := leads.effect.slot.d

/-- Only the outcome of a branch is news to the decoder. -/
theorem Leads.decoded (leads : Leads exMem r) :
    exMem.slots.s0.d = { r.slot.d with isBranch := exMem.slots.s0.d.isBranch } := by
  rw [leads.d]
  exact (executed_frame r).d

theorem Leads.traps (leads : Leads exMem r) : trapsInEx exMem.slots.s0.d = trapsInEx r.slot.d := by
  rw [leads.decoded]
  rfl

theorem Leads.predicted (leads : Leads exMem r) :
    exMem.slots.s0.d.predictedTaken = r.slot.d.predictedTaken := by
  rw [leads.decoded]

theorem Leads.entries (leads : Leads exMem r) (alone : exMem.slots.s1.valid = false) :
    entries exMem.pc exMem.slots = [(r.pc, r.instr)] := by
  simp only [Pipeline.entries, leads.valid, alone, leads.pc, leads.instr, if_true, Bool.false_eq_true, if_false,
    List.append_nil]

end Leads

/-- The back end behind the engine, for a new EX/MEM. -/
theorem AtExecute.backEnd (here : AtExecute path length e accessed executed) {regFile : RegisterFile}
    {ram : Addr -> Byte} {exMem : ExMemBuffer} {next : Nat} (sameGpr : regFile.gpr = e.regFile.gpr)
    (sameRam : ram = e.memory.memory) (csrs : SameCsrs (path next).regFile regFile)
    (toAccess : pending exMem (path executed).data = (path next).data)
    (canAccess : forall lane, (exMem.slots.get lane).valid = true -> CanAccess (inFlight exMem lane))
    (inMem : Holds path length exMem.slots executed next) :
    BackEnd path length regFile ram exMem e.memWb accessed executed next where
  csrs := csrs
  written := sameGpr.trans here.written
  toWrite := by
    rw [← here.toWrite, writtenBack, writtenBack, sameGpr]
  stored := sameRam.trans here.stored
  toAccess := toAccess
  canAccess := canAccess
  inWb := here.inWb
  inMem := inMem

theorem trapLane_of_quiet {exMem : ExMemBuffer} (quiet0 : trapsInEx exMem.slots.s0.d = false)
    (quiet1 : exMem.slots.s1.valid = true -> trapsInEx exMem.slots.s1.d = false) : trapLane exMem = none := by
  unfold trapLane
  split
  · rfl
  · rw [if_neg (ne_true_of_eq_false quiet0)]
    split
    · rename_i both
      rcases Bool.and_eq_true_iff.mp both with ⟨valid, traps⟩
      exact absurd ((quiet1 valid).symm.trans traps) Bool.false_ne_true
    · rfl

/-- With nothing in ID/EX nothing is executed. -/
theorem AtExecute.idle (here : AtExecute path length e accessed executed)
    (invalid : e.idEx.slots.s0.valid = false) :
    AtDecode path length e.execute accessed executed executed ∧ processed e = [] := by
  have invalid1 := invalid_of_ordered here.formed.frontEnd.issued.ordered invalid
  have empty : forall lane, (e.idEx.slots.get lane).valid = false := by
    intro lane
    cases lane using laneCases with
    | zero => exact invalid
    | one => exact invalid1
  have executedEq := execute_of_invalid empty
  have formed := execute_wellFormed here.formed
  have next := here.front.next
  rw [if_neg (ne_true_of_eq_false invalid)] at next
  rw [executedEq] at formed ⊢
  refine ⟨⟨formed, here.running, here.backEnd rfl rfl here.csrs ?_ ?_ (.nothing rfl rfl), next, here.front.ifIdWords,
    .inr invalid, here.counted⟩, ?_⟩
  · rw [pending, apply_invalid rfl, apply_invalid rfl]
  · exact forall_lane_of_invalid rfl rfl
  · have engine : e.runEngine = { e with exMem := { pc := e.idEx.pc } } := by
      rw [runEngine, engine_of_invalid empty]
    unfold processed CPUCore.executeResolved
    rw [engine]
    rfl

/-- The instruction in slot 0 completes and has no partner. -/
theorem AtExecute.alone (here : AtExecute path length e accessed executed) (good : Followable path length)
    (below : executed < length) (quiet : trapsInEx (path executed).slot.d = false)
    (completes : Completes (path executed) (path (executed + 1))) {t : CPUCore}
    (formed : WellFormed t.handleSlotTraps) (running : t.running = true)
    (regFile : t.regFile = csrWritten e.regFile (path executed)) (sameRam : t.memory.memory = e.memory.memory)
    (memWb : t.memWb = e.memWb) (leads : Leads t.exMem (path executed)) (invalid1 : t.exMem.slots.s1.valid = false)
    (count : t.instrCount = e.instrCount) (next : frontPc t.ifId t.pc = (path (executed + 1)).pc)
    (words : WordsOfPath path length t.ifId.pc t.ifId.slots)
    (fresh : t.ifId.slots.s0.valid = true ∨ t.idEx.slots.s0.valid = false) :
    AtDecode path length t.handleSlotTraps accessed executed (executed + 1) ∧
      entries t.exMem.pc t.exMem.slots = segment path executed 1 := by
  have noTrap : trapLane t.exMem = none := by
    refine trapLane_of_quiet (leads.traps.trans quiet) ?_
    intro valid1
    exact absurd valid1 (ne_true_of_eq_false invalid1)
  rw [handleSlotTraps_none noTrap] at formed ⊢
  refine ⟨⟨formed, running, ?_, next, words, fresh, fun noTraps => count.trans (here.counted noTraps)⟩,
    leads.entries invalid1⟩
  rw [memWb]
  refine here.backEnd (by rw [regFile, csrWritten_gpr]) sameRam ?_ ?_ ?_ (.one leads.valid leads.instr invalid1)
  · rw [regFile]
    exact completes.csrs.symm.trans (csrWritten_sameCsrs (good.allowed executed below) here.csrs)
  · rw [pending, leads.effect.apply, apply_invalid invalid1, completes.data]
  · intro lane valid
    cases lane using laneCases with
    | zero => exact leads.effect.canAccess (good.inBounds executed below).access
    | one => exact absurd valid (ne_true_of_eq_false invalid1)

theorem nextPc_straight {r : SeqState} (straight : r.executed.d.isBranch = false) : r.nextPc = r.pc + 4 := by
  rw [SeqState.nextPc, if_neg (ne_true_of_eq_false straight)]

/-- The partner of an instruction that does not branch away is the instruction
behind it on the path. -/
theorem AtExecute.following (here : AtExecute path length e accessed executed)
    (below : executed + 1 < length) (valid1 : e.idEx.slots.s1.valid = true)
    (straight : (path executed).executed.d.isBranch = false)
    (completes : Completes (path executed) (path (executed + 1))) :
    e.idEx.pc + 4 = (path (executed + 1)).pc ∧ e.idEx.slots.s1.instr = (path (executed + 1)).instr := by
  have valid := here.formed.frontEnd.issued.ordered valid1
  have samePc := (here.leading (Nat.lt_of_succ_lt below) valid).1
  have next : e.idEx.pc + 4 = (path (executed + 1)).pc := by
    rw [completes.pc, nextPc_straight straight, samePc]
  exact ⟨next, here.front.idExWords 1 valid1 (executed + 1) below next.symm⟩

/-- It is no system instruction, and no branch. -/
theorem AtExecute.following_plain (here : AtExecute path length e accessed executed)
    (good : Followable path length) (below : executed + 1 < length) (valid1 : e.idEx.slots.s1.valid = true)
    (sameInstr : e.idEx.slots.s1.instr = (path (executed + 1)).instr) :
    trapsInEx (path (executed + 1)).slot.d = false ∧ (path (executed + 1)).slot.d.isCsr = false ∧
      (path (executed + 1)).slot.d.isBranch = false := by
  have issued := here.formed.frontEnd.issued
  have together := canIssueTogether_together (issued.paired valid1)
  have sameD : e.idEx.slots.s1.d = (path (executed + 1)).slot.d := issued_slot_d issued 1 valid1 sameInstr
  rw [sameD] at together
  have noSystem := together.noSystem1
  simp only [isSystem, Bool.or_eq_false_iff] at noSystem
  refine ⟨?_, noSystem.2, together.noBranch⟩
  rcases allowed_cases (good.allowed (executed + 1) below) with quiet | ⟨_, ecall | mret⟩
  · exact quiet
  · exact absurd ecall (ne_true_of_eq_false noSystem.1.1.1)
  · exact absurd mret.1 (ne_true_of_eq_false noSystem.1.1.2)

/-- It does in the engine what it does in the sequential machine. -/
theorem AtExecute.followingEffect (here : AtExecute path length e accessed executed) (good : Followable path length)
    (below : executed + 1 < length) (valid1 : e.idEx.slots.s1.valid = true)
    (straight : (path executed).executed.d.isBranch = false)
    (completes : Completes (path executed) (path (executed + 1))) :
    SameEffect (inFlight (ExecutionEngine.execute e.idEx e.exMem e.memWb e.regFile) 1)
      (path (executed + 1)).inFlight := by
  have issued := here.formed.frontEnd.issued
  have valid := issued.ordered valid1
  rcases here.following below valid1 straight completes with ⟨samePc, sameInstr⟩
  rcases here.following_plain good below valid1 sameInstr with ⟨_, noCsr, noBranch⟩
  have effect := here.leadingEffect good (Nat.lt_of_succ_lt below) valid
  have sameD : e.idEx.slots.s1.d = (path (executed + 1)).slot.d := issued_slot_d issued 1 valid1 sameInstr
  refine @engine_sameEffect _ _ _ _ 1 _ issued valid1 samePc sameInstr ?_ ?_ (.inr noBranch)
  · intro rs uses
    exact partner_operand issued here.formed.retiringPair valid1 completes here.toWrite effect (sameD ▸ uses)
  · intro isCsr
    exact absurd isCsr (ne_true_of_eq_false noCsr)

/-! ## The three ways in which slot 0 can end -/

theorem engine_pc (idEx : IdExBuffer) (exMem : ExMemBuffer) (memWb : MemWbBuffer) (regFile : RegisterFile) :
    (ExecutionEngine.execute idEx exMem memWb regFile).pc = idEx.pc := by
  rw [engine_eq]

theorem engine_valid1 (idEx : IdExBuffer) (exMem : ExMemBuffer) (memWb : MemWbBuffer) (regFile : RegisterFile) :
    (ExecutionEngine.execute idEx exMem memWb regFile).slots.s1.valid = idEx.slots.s1.valid := by
  rw [engine_eq]
  exact executedSlot_valid idEx memWb regFile _ 1

/-- The engine puts the next instruction of the path into EX/MEM. -/
theorem AtExecute.leads (here : AtExecute path length e accessed executed) (good : Followable path length)
    (below : executed < length) (valid : e.idEx.slots.s0.valid = true) :
    Leads (ExecutionEngine.execute e.idEx e.exMem e.memWb e.regFile) (path executed) where
  pc := (engine_pc e.idEx e.exMem e.memWb e.regFile).trans (here.leading below valid).1
  effect := here.leadingEffect good below valid

theorem trapTarget_congr {out ref : PipelineSlot} (sameInstr : out.instr = ref.instr)
    (sameD : out.d = { ref.d with isBranch := out.d.isBranch }) (regFile : RegisterFile) (pc : Addr) :
    trapTarget regFile out pc = trapTarget regFile ref pc := by
  unfold trapTarget
  rw [sameInstr, sameD]

/-- Without a branch resolution changes nothing. -/
theorem resolution_straight {s t : CPUCore} (resolution : Resolution s t)
    (noBranch : s.exMem.slots.s0.d.isBranch = false) (notPredicted : s.exMem.slots.s0.d.predictedTaken = false) :
    t = s := by
  cases resolution with
  | fallsThrough _ => rfl
  | asPredicted _ taken _ => exact absurd taken (ne_true_of_eq_false noBranch)
  | redirected _ _ mispredicted _ =>
      rw [noBranch, notPredicted] at mispredicted
      exact absurd mispredicted Bool.false_ne_true

/-- A trap or trap return is issued alone. -/
theorem AtExecute.trapsAlone (here : AtExecute path length e accessed executed) (good : Followable path length)
    (below : executed < length) (valid : e.idEx.slots.s0.valid = true)
    (traps : trapsInEx (path executed).slot.d = true) : e.idEx.slots.s1.valid = false := by
  have issued := here.formed.frontEnd.issued
  have sameD : e.idEx.slots.s0.d = (path executed).slot.d := issued_slot_d issued 0 valid (here.leading below valid).2
  cases valid1 : e.idEx.slots.s1.valid with
  | false => rfl
  | true =>
      have noSystem := (canIssueTogether_together (issued.paired valid1)).noSystem0
      simp only [isSystem, Bool.or_eq_false_iff, sameD] at noSystem
      rcases allowed_cases (good.allowed executed below) with quiet | ⟨_, ecall | ⟨mret, _⟩⟩
      · exact absurd traps (ne_true_of_eq_false quiet)
      · exact absurd ecall (ne_true_of_eq_false noSystem.1.1.1)
      · exact absurd mret (ne_true_of_eq_false noSystem.1.1.2)

/-- A trap or trap return jumps away with the CSR effects of the path. -/
theorem AtExecute.traps (here : AtExecute path length e accessed executed) (good : Followable path length)
    (below : executed < length) (valid : e.idEx.slots.s0.valid = true)
    (traps : trapsInEx (path executed).slot.d = true)
    (jumps : path (executed + 1) = (path executed).jumpTo
      (trapTarget (path executed).regFile (path executed).slot (path executed).pc)) :
    AtDecode path length e.execute accessed executed (executed + 1) ∧
      processed e = [((path executed).pc, (path executed).instr)] := by
  have leads := here.leads good below valid
  rcases here.committed_eq good below valid with ⟨memory, committedEq, sameRam⟩
  have exclusive : Exclusive (path executed).slot.d := decode_exclusive (path executed).instr
  rcases exclusive.trapping traps with ⟨noBranch, noCsr, notPredicted⟩
  have alone := here.trapsAlone good below valid traps
  have formed := execute_wellFormed here.formed
  have latchAlone := (engine_valid1 e.idEx e.exMem e.memWb e.regFile).trans alone
  have resolution := executeResolved_resolution e
  rw [committedEq] at resolution
  generalize ExecutionEngine.execute e.idEx e.exMem e.memWb e.regFile = latch
    at leads committedEq latchAlone resolution
  have resolved := resolution_straight resolution
    ((congrArg DecodedData.isBranch leads.d).trans (executed_straight noBranch)) (leads.predicted.trans notPredicted)
  have found : trapLane latch = some 0 := by
    simp only [trapLane, leads.valid, leads.traps, traps, Bool.not_true, Bool.false_eq_true, if_false, if_true]
  have executedEq : e.execute = CPUCore.returnTo
      { e with exMem := latch, memory := memory, regFile := e.regFile }
      (trapTarget e.regFile (path executed).slot (path executed).pc) := by
    have target := @trapTarget_congr _ (path executed).slot leads.instr leads.decoded e.regFile (path executed).pc
    have sameFile : csrWritten e.regFile (path executed) = e.regFile :=
      if_neg (ne_true_of_eq_false noCsr)
    have slotPc : latch.pc + BitVec.ofNat 32 (4 * (0 : Fin 2).val) = (path executed).pc := by
      rw [leads.pc]
      simp
    rw [CPUCore.execute, resolved, sameFile, handleSlotTraps_some (by exact found)]
    change CPUCore.returnTo _ (trapTarget e.regFile latch.slots.s0 _) = _
    rw [slotPc, target]
  rw [executedEq] at formed ⊢
  have sameTarget := here.csrs.trapTarget (path executed).slot (path executed).pc
  refine ⟨⟨formed, here.running, here.backEnd (trapTarget_gpr _ _ _) sameRam ?_ ?_ ?_ (.trapped rfl rfl below traps),
    ?_, ?_, .inr rfl, here.counted⟩, ?_⟩
  · rw [jumps]
    exact sameTarget.1
  · rw [pending, apply_invalid rfl, apply_invalid rfl, jumps]
    exact congrArg (fun gpr => DataState.mk gpr (path executed).memory.memory) (trapTarget_gpr _ _ _).symm
  · exact forall_lane_of_invalid rfl rfl
  · rw [jumps]
    exact sameTarget.2
  · exact forall_lane_of_invalid rfl rfl
  · rw [processed, resolved]
    exact leads.entries latchAlone

/-- On the right path something is waiting in IF/ID. -/
theorem AtExecute.waiting (here : AtExecute path length e accessed executed) (valid : e.idEx.slots.s0.valid = true)
    {next : Nat} (below : next < length) (onPath : frontPc e.ifId e.pc = (path next).pc) :
    e.ifId.slots.s0.valid = true := by
  rcases here.front.moving valid with waits | offPath
  · exact waits
  · cases waits : e.ifId.slots.s0.valid with
    | true => rfl
    | false =>
        rw [frontPc, if_neg (ne_true_of_eq_false waits)] at onPath
        exact absurd onPath (offPath next below)

/-- Two instructions complete together. -/
theorem AtExecute.both (here : AtExecute path length e accessed executed) (good : Followable path length)
    (room : executed + 2 < length) (valid1 : e.idEx.slots.s1.valid = true)
    (quiet0 : trapsInEx (path executed).slot.d = false)
    (straight : (path executed).executed.d.isBranch = false)
    (completes : Completes (path executed) (path (executed + 1)))
    (notPredicted : e.idEx.slots.s0.d.predictedTaken = false) {t : CPUCore} (formed : WellFormed t.handleSlotTraps)
    (running : t.running = true) (regFile : t.regFile = csrWritten e.regFile (path executed))
    (sameRam : t.memory.memory = e.memory.memory) (memWb : t.memWb = e.memWb)
    (front : t.ifId = e.ifId ∧ t.pc = e.pc) (leads : Leads t.exMem (path executed))
    (effect1 : SameEffect (inFlight t.exMem 1) (path (executed + 1)).inFlight)
    (count : t.instrCount = e.instrCount) :
    AtDecode path length t.handleSlotTraps accessed executed (executed + 2) ∧
      entries t.exMem.pc t.exMem.slots = segment path executed 2 := by
  have below1 : executed + 1 < length := Nat.lt_of_succ_lt room
  have below : executed < length := Nat.lt_of_succ_lt below1
  have valid := here.formed.frontEnd.issued.ordered valid1
  have samePc0 := (here.leading below valid).1
  rcases here.following below1 valid1 straight completes with ⟨samePc, sameInstr⟩
  rcases here.following_plain good below1 valid1 sameInstr with ⟨quiet, noCsr, noBranch⟩
  have frame1 := executed_frame (path (executed + 1))
  have slotValid1 : t.exMem.slots.s1.valid = true := effect1.valid.trans (executed_valid _)
  have slotInstr1 : t.exMem.slots.s1.instr = (path (executed + 1)).instr := effect1.slot.instr.trans frame1.instr
  have slotQuiet1 : trapsInEx t.exMem.slots.s1.d = false := by
    rw [show t.exMem.slots.s1.d = _ from effect1.slot.d]
    change trapsInEx (path (executed + 1)).executed.d = false
    rw [frame1.d]
    exact quiet
  rw [handleSlotTraps_none (trapLane_of_quiet (leads.traps.trans quiet0) (fun _ => slotQuiet1))] at formed ⊢
  have completes1 : Completes (path (executed + 1)) (path (executed + 2)) := by
    rcases good.step below1 with ⟨_, done⟩ | ⟨traps, _⟩
    · exact done
    · exact absurd traps (ne_true_of_eq_false quiet)
  have straight1 := executed_straight noBranch
  have onPath : frontPc e.ifId e.pc = (path (executed + 2)).pc := by
    rw [here.formed.frontEnd.follows valid, predictedPc,
      if_neg (ne_true_of_eq_false notPredicted), completes1.pc, nextPc_straight straight1, ← samePc]
    simp [span, valid, valid1, BitVec.add_assoc]
  have csrs : SameCsrs (path (executed + 2)).regFile (csrWritten e.regFile (path executed)) := by
    have second := completes1.csrs
    rw [if_neg (show ¬(path (executed + 1)).slot.d.isCsr = true from noCsr ▸ Bool.false_ne_true)] at second
    exact (completes.csrs.trans second).symm.trans (csrWritten_sameCsrs (good.allowed executed below) here.csrs)
  have words := here.front.ifIdWords
  have waits := here.waiting valid room onPath
  rw [← front.1] at onPath words waits
  rw [← front.2] at onPath
  refine ⟨⟨formed, running, ?_, onPath, words, .inl waits,
    fun noTraps => count.trans (here.counted noTraps)⟩, ?_⟩
  · rw [memWb]
    refine here.backEnd (by rw [regFile, csrWritten_gpr]) sameRam (regFile ▸ csrs) ?_ ?_
      (.two leads.valid leads.instr slotValid1 slotInstr1)
    · rw [pending, leads.effect.apply, ← completes.data, effect1.apply, completes1.data]
    · intro lane _
      cases lane using laneCases with
      | zero => exact leads.effect.canAccess (good.inBounds executed below).access
      | one => exact effect1.canAccess (good.inBounds (executed + 1) below1).access
  · have twoOfPath : segment path executed 2 = [((path executed).pc, (path executed).instr),
        ((path (executed + 1)).pc, (path (executed + 1)).instr)] := rfl
    rw [twoOfPath, ← samePc, samePc0]
    simp only [entries, leads.pc, leads.valid, leads.instr, slotValid1, slotInstr1, if_true]
    rfl

/-- Fetch is behind an instruction that neither branches nor has a partner. -/
theorem AtExecute.onPath_straight (here : AtExecute path length e accessed executed) (below : executed < length)
    (valid : e.idEx.slots.s0.valid = true) (completes : Completes (path executed) (path (executed + 1)))
    (straight : (path executed).executed.d.isBranch = false)
    (notPredicted : e.idEx.slots.s0.d.predictedTaken = false) (alone : ¬e.idEx.slots.s1.valid = true) :
    frontPc e.ifId e.pc = (path (executed + 1)).pc := by
  rw [here.formed.frontEnd.follows valid, predictedPc, if_neg (ne_true_of_eq_false notPredicted),
    completes.pc, nextPc_straight straight, ← (here.leading below valid).1]
  simp [span, valid, alone]

/-- Fetch is at the target of a branch that is taken as predicted. -/
theorem AtExecute.onPath_predicted (here : AtExecute path length e accessed executed) (below : executed < length)
    (valid : e.idEx.slots.s0.valid = true) (completes : Completes (path executed) (path (executed + 1)))
    (predicted : (path executed).slot.d.predictedTaken = true)
    (taken : (path executed).executed.d.isBranch = true) : frontPc e.ifId e.pc = (path (executed + 1)).pc := by
  have issued := here.formed.frontEnd.issued
  rcases here.leading below valid with ⟨samePc, sameInstr⟩
  have sameD : e.idEx.slots.s0.d = (path executed).slot.d := issued_slot_d issued 0 valid sameInstr
  have predictedD : e.idEx.slots.s0.d.predictedTaken = true := sameD ▸ predicted
  rw [here.formed.frontEnd.follows valid, predictedPc, if_pos predictedD, issued.target valid predictedD, completes.pc,
    SeqState.nextPc, if_pos taken, predicted_target predicted taken, samePc, sameD]

/-- A redirection goes to the next instruction of the path. -/
theorem Leads.destination {exMem : ExMemBuffer} {r next : SeqState} (leads : Leads exMem r)
    (completes : Completes r next) :
    (if exMem.slots.s0.d.isBranch then exMem.slots.s0.jumpTarget else exMem.pc + 4) = next.pc := by
  rw [completes.pc, SeqState.nextPc, leads.d, leads.pc]
  by_cases branches : r.executed.d.isBranch = true
  · rw [if_pos branches, if_pos branches]
    exact leads.effect.slot.jumpTarget branches
  · rw [if_neg branches, if_neg branches]

/-- The next instruction completes, alone or with its partner. -/
theorem AtExecute.completed (here : AtExecute path length e accessed executed) (good : Followable path length)
    (room : executed + 2 < length) (valid : e.idEx.slots.s0.valid = true)
    (quiet : trapsInEx (path executed).slot.d = false)
    (completes : Completes (path executed) (path (executed + 1))) : Exists fun count => count <= 2 ∧
      AtDecode path length e.execute accessed executed (executed + count) ∧
      processed e = segment path executed count := by
  have below1 : executed + 1 < length := Nat.lt_of_succ_lt room
  have below : executed < length := Nat.lt_of_succ_lt below1
  have sameD : e.idEx.slots.s0.d = (path executed).slot.d :=
    issued_slot_d here.formed.frontEnd.issued 0 valid (here.leading below valid).2
  rcases here.committed_eq good below valid with ⟨memory, committedEq, sameRam⟩
  have formed := execute_wellFormed here.formed
  have leads := here.leads good below valid
  have effect1 := fun valid1 straight => here.followingEffect good below1 valid1 straight completes
  have latchValid1 := engine_valid1 e.idEx e.exMem e.memWb e.regFile
  have resolution := executeResolved_resolution e
  rw [committedEq] at resolution
  unfold CPUCore.execute at formed ⊢
  unfold processed
  generalize ExecutionEngine.execute e.idEx e.exMem e.memWb e.regFile = latch
    at leads effect1 latchValid1 resolution
  generalize e.executeResolved = t at resolution formed
  cases resolution with
  | fallsThrough notTaken =>
      rcases notTaken leads.valid with ⟨noBranch, noPrediction⟩
      have straight : (path executed).executed.d.isBranch = false :=
        (congrArg DecodedData.isBranch leads.d).symm.trans noBranch
      have notPredicted : e.idEx.slots.s0.d.predictedTaken = false := by
        rw [sameD]
        exact leads.predicted.symm.trans noPrediction
      by_cases valid1 : e.idEx.slots.s1.valid = true
      · exact ⟨2, Nat.le_refl 2, here.both good room valid1 quiet straight completes notPredicted formed here.running
          rfl sameRam rfl ⟨rfl, rfl⟩ leads (effect1 valid1 straight) rfl⟩
      · have alone : latch.slots.s1.valid = false := latchValid1.trans (Bool.eq_false_of_not_eq_true valid1)
        have onPath := here.onPath_straight below valid completes straight notPredicted valid1
        exact ⟨1, Nat.le_succ 1, here.alone good below quiet completes formed here.running rfl sameRam rfl leads alone
          rfl onPath here.front.ifIdWords (.inl (here.waiting valid below1 onPath))⟩
  | asPredicted _ taken predicted =>
      have wasPredicted := leads.predicted.symm.trans predicted
      have branches : (path executed).executed.d.isBranch = true :=
        (congrArg DecodedData.isBranch leads.d).symm.trans taken
      have onPath := here.onPath_predicted below valid completes wasPredicted branches
      exact ⟨1, Nat.le_succ 1, here.alone good below quiet completes formed here.running rfl sameRam rfl
        ⟨leads.pc, leads.effect⟩ rfl rfl onPath here.front.ifIdWords (.inl (here.waiting valid below1 onPath))⟩
  | redirected target _ _ destination =>
      exact ⟨1, Nat.le_succ 1, here.alone good below quiet completes formed here.running rfl sameRam rfl
        ⟨leads.pc, leads.effect⟩ rfl rfl (destination.trans (leads.destination completes))
        (forall_lane_of_invalid rfl rfl) (.inr rfl)⟩

/-- The execute stage goes on along the path by up to two instructions. -/
theorem AtExecute.execute (here : AtExecute path length e accessed executed) (good : Followable path length)
    (room : executed + 2 < length) : Exists fun count => count <= 2 ∧
      AtDecode path length e.execute accessed executed (executed + count) ∧
      processed e = segment path executed count := by
  have below : executed < length := Nat.lt_of_succ_lt (Nat.lt_of_succ_lt room)
  cases valid : e.idEx.slots.s0.valid with
  | false =>
      rcases here.idle valid with ⟨after, nothing⟩
      exact ⟨0, Nat.zero_le 2, after, nothing⟩
  | true =>
      rcases good.step below with ⟨quiet, completes⟩ | ⟨traps, jumps⟩
      · exact here.completed good room valid quiet completes
      · rcases here.traps good below valid traps jumps with ⟨after, one⟩
        exact ⟨1, Nat.le_succ 1, after, one⟩

end Leading

end Refinement
end SimpleRV
