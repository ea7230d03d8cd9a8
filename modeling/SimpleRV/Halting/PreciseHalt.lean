import SimpleRV.Halting.OlderInstructions
import SimpleRV.Refinement.SimulationTick

namespace SimpleRV
namespace Halting

open RegisterFile IssueUnit CPUCore Pipeline Refinement InFlight Iteration

/-!
# Precise halting

The halting words are no-ops of the sequential machine, so its path goes on
behind the first of them.  The pipeline has followed it there by the time that
it halts, and an undisturbed halt is one where that makes no difference.
-/

/-- A path on which instruction `halt` is the first to halt the simulator. -/
structure HaltingPath (path : Nat -> SeqState) (halt : Nat) : Prop where
  followable : Followable path (halt + 8)
  halts : (path halt).Halts
  first : forall i, i < halt -> isHalt (path i).instr = false

/-- Registers, privilege, CSRs other than `mip`, RAM and UART output of the core
are those of the sequential machine. -/
structure Shows (s : CPUCore) (r : SeqState) : Prop where
  gpr : s.regFile.gpr = r.regFile.gpr
  csrs : SameCsrs r.regFile s.regFile
  memory : s.memory.memory = r.memory.memory
  uartOutput : s.memory.uartOutput = r.memory.uartOutput

/-! ## Instructions without effect -/

section Path

variable {path : Nat -> SeqState} {length : Nat}

/-- Nothing on the path writes to the UART. -/
theorem path_uartOutput (good : Followable path length) {i : Nat} (within : i <= length) :
    (path i).memory.uartOutput = (path 0).memory.uartOutput := by
  induction i with
  | zero => rfl
  | succ i ih =>
      rw [← ih (Nat.le_of_succ_le within)]
      rcases good.step within with ⟨_, completes⟩ | ⟨_, jumps⟩
      · exact completes.uart
      · rw [jumps]
        rfl

/-- An instruction that stores nothing and writes neither a register nor a CSR. -/
structure Silent (d : DecodedData) : Prop where
  quiet : trapsInEx d = false
  noCsr : d.isCsr = false
  noStore : isStore d = false
  noWrite : d.regWrite = false ∨ d.rd = 0

theorem silent_of_halt {instr : Word} (halts : isHalt instr = true) : Silent (decode instr) := by
  rcases decode_halt halts with ⟨noMemory, _, noCsr, noWrite, quiet, _⟩
  exact ⟨quiet, noCsr, by rw [isStore, noMemory]; rfl, .inl noWrite⟩

/-- What shows the state behind such an instruction shows the one before it. -/
theorem Shows.before_silent {s : CPUCore} {i : Nat} (good : Followable path length) (below : i < length)
    (silent : Silent (path i).slot.d) (shows : Shows s (path (i + 1))) : Shows s (path i) := by
  rcases good.step below with ⟨_, completes⟩ | ⟨traps, _⟩
  · have frame := executed_frame (path i)
    have writes : slotWrites ((path i).inFlight.moved (path i).memory.memory) = [] := by
      have moved : (path i).inFlight.moved (path i).memory.memory =
          { (path i).executed with result := (path i).inFlight.value (path i).memory.memory } :=
        if_pos (executed_valid (path i))
      have regWrite : (path i).executed.regWrite = (path i).slot.d.regWrite := frame.regWrite
      have rd : (path i).executed.rd = (path i).slot.d.rd := frame.rd
      rw [moved]
      unfold slotWrites
      rcases silent.noWrite with noWrite | toZero
      · simp [regWrite, noWrite]
      · simp [rd, toZero]
    have sameData : (path (i + 1)).data = (path i).data := by
      rw [completes.data]
      apply DataState.ext
      · change applyWrites (path i).regFile.gpr (slotWrites ((path i).inFlight.moved (path i).memory.memory)) =
          (path i).regFile.gpr
        rw [writes]
        rfl
      · simp only [InFlight.apply, SeqState.inFlight, silent.noStore, Bool.and_false, Bool.false_eq_true, if_false]
    have csrs := completes.csrs
    rw [if_neg (ne_true_of_eq_false silent.noCsr)] at csrs
    exact ⟨shows.gpr.trans (congrArg DataState.gpr sameData), csrs.trans shows.csrs,
      shows.memory.trans (congrArg DataState.ram sameData), shows.uartOutput.trans completes.uart⟩
  · exact absurd traps (ne_true_of_eq_false silent.quiet)

/-! ## The run up to the halt -/

/-- A tick on the path sends nothing to the UART. -/
theorem tick_uartOutput {s t : CPUCore} {retired accessed executed : Nat}
    (sim : Simulates path length s retired accessed executed) (good : Followable path length)
    (within : executed <= length) (noHalt : NoHalt s.memWb.slots) (ticked : s.tick = .ok t) :
    t.memory.uartOutput = s.memory.uartOutput := by
  rcases sim.atExecute good within noHalt with ⟨e, accessOk, _, uart⟩
  rcases map_eq_ok.mp accessOk with ⟨⟨_, trapped⟩, accessed, same⟩
  subst same
  exact (tick_sameStorage sim.formed sim.running accessed ticked).uartOutput.trans uart

/-- As long as the simulator runs, nothing in MEM/WB has halted it. -/
theorem noHalt_of_tick {s t : CPUCore} (formed : WellFormed s) (ticked : s.tick = .ok t) (running : t.running = true) :
    NoHalt s.memWb.slots := by
  have start := running_of_tick ticked running
  rw [tick_running_eq formed start ticked] at running
  exact haltLane_none (Option.isNone_iff_eq_none.mp running)

theorem accessed_le_halt {halt : Nat} (good : HaltingPath path halt) {s : CPUCore} {retired accessed executed : Nat}
    (sim : Simulates path (halt + 8) s retired accessed executed) (within : retired <= halt)
    (noHalt : NoHalt s.memWb.slots) : accessed <= halt := by
  rcases Nat.lt_or_ge halt accessed with past | order
  · have quiet : trapsInEx (path halt).slot.d = false := (silent_of_halt good.halts).quiet
    rcases sim.backEnd.inWb.slot within past quiet with ⟨lane, here, valid⟩
    have word := (sim.backEnd.inWb.word valid).2
    have stops : isHalt (path halt).instr = true := good.halts
    rw [← here] at word
    rw [← word, noHalt lane valid] at stops
    cases stops
  · exact order

/-- Before the halt the run follows the path. -/
theorem run_simulates_halting {halt : Nat} (good : HaltingPath path halt) {n : Nat} {s : CPUCore}
    (run : iterate CPUCore.tick n (startCore (path 0)) = .ok s) (running : s.running = true) :
    Exists fun retired => Exists fun accessed => Exists fun executed =>
      Simulates path (halt + 8) s retired accessed executed ∧ retired <= halt ∧
        s.memory.uartOutput = (path 0).memory.uartOutput := by
  induction n generalizing s with
  | zero =>
      cases run
      exact ⟨0, 0, 0, startCore_simulates path (halt + 8), Nat.zero_le _, rfl⟩
  | succ n ih =>
      rcases iterate_succ.mp run with ⟨before, earlier, last⟩
      have runningBefore := running_of_tick last running
      rcases ih earlier runningBefore with ⟨retired, accessed, executed, sim, within, uart⟩
      have noHalt := noHalt_of_tick sim.formed last running
      have order := accessed_le_halt good sim within noHalt
      have bound := sim.backEnd.inMem.bounds.2
      rcases sim.tick good.followable (by omega) noHalt with ⟨_, t, count, _, ticked, _, after, _⟩
      cases last.symm.trans ticked
      exact ⟨accessed, executed, executed + count, after, order,
        (tick_uartOutput sim good.followable (by omega) noHalt ticked).trans uart⟩

/-! ## The end of the run -/

/-- After the last two ticks the core shows the path behind MEM/WB. -/
theorem shows_behind {s t u : CPUCore} {retired accessed executed following : Nat}
    (sim : Simulates path length s retired accessed executed) (good : Followable path length)
    (noHalt : NoHalt s.memWb.slots) (within : following <= length)
    (next : Simulates path length t accessed executed following) (ticked : s.tick = .ok t) (last : t.tick = .ok u)
    (undisturbed : UndisturbedHalt s t) (uart : t.memory.uartOutput = (path 0).memory.uartOutput) :
    Shows u (path executed) := by
  have order := next.backEnd.inMem.bounds.1
  have csrs : SameCsrs (path executed).regFile t.regFile := by
    rcases undisturbed.before.outcome sim.formed sim.running ticked with ⟨e, accessOk, sameRegFile, _, _⟩
    have one := (atMemoryAccess_wellFormed sim.formed).executedPair.oneAccess
    rcases memoryAccess_frame one accessOk with ⟨_, _, eEq⟩
    rcases sim.atMemoryAccess good (by omega) noHalt with ⟨memory, regFile, count, atMem, _, same, _, _⟩
    rw [sameRegFile, eEq, atMem]
    exact same
  have none := (good.noInterrupts following within).sameCsrs next.backEnd.csrs
  rcases atWriteBack_machine none with ⟨memory, mip, atWb, sameRam, sameUart⟩
  rcases writeBack_frame t.atWriteBack with ⟨regFile, count, stopped, written⟩
  have sameMemory : t.atMemoryAccess.memory = memory := by rw [atMemoryAccess, written, atWb]
  have regFileEq : t.atMemoryAccess.regFile = writtenBack { t.regFile with mip := mip } t.memWb := by
    rw [atMemoryAccess, writeBack_regFile, atWb]
    rfl
  rcases undisturbed.last.outcome next.formed next.running last with ⟨f, accessOk, sameRegFile, _, storage⟩
  have one := (atMemoryAccess_wellFormed next.formed).executedPair.oneAccess
  have access := memoryAccess_noStore one accessOk (by rw [(atMemoryAccess_backEnd t).1]; exact undisturbed.noStore)
  have finalRegFile : u.regFile = writtenBack { t.regFile with mip := mip } t.memWb :=
    (sameRegFile.trans access.regFile).trans regFileEq
  have finalStorage : SameStorage memory u.memory := sameMemory ▸ access.storage.trans storage
  refine ⟨?_, ?_, ?_, ?_⟩
  · rw [finalRegFile]
    exact next.backEnd.toWrite
  · rw [finalRegFile]
    exact csrs.trans ⟨_, mip, rfl⟩
  · rw [finalStorage.memory, sameRam]
    exact next.backEnd.stored
  · rw [finalStorage.uartOutput, sameUart, uart, path_uartOutput good (Nat.le_trans order within)]

/-- The partner of a halting instruction is silent on the path too. -/
theorem partner_silent {s t : CPUCore} {retired accessed executed following : Nat}
    (sim : Simulates path length s retired accessed executed)
    (next : Simulates path length t accessed executed following) (ticked : s.tick = .ok t)
    (quiet : QuietTick s) (valid1 : t.memWb.slots.s1.valid = true) (partner : QuietPartner t.memWb.slots.s1) :
    Silent (path (accessed + 1)).slot.d := by
  rcases quiet.moved sim.formed sim.running ticked 1 with ⟨sameValid, _⟩
  have inUse : (s.exMem.slots.get 1).valid = true := sameValid.symm.trans valid1
  have pair := sim.formed.executedPair
  have noSystem := (canIssueTogether_together (pair.paired inUse)).noSystem1
  simp only [isSystem, Bool.or_eq_false_iff] at noSystem
  have word : s.exMem.slots.s1.instr = (path (accessed + 1)).instr := (sim.backEnd.inMem.word inUse).2
  have wordWb : t.memWb.slots.s1.instr = (path (accessed + 1)).instr :=
    (next.backEnd.inWb.word (show (t.memWb.slots.get 1).valid = true from valid1)).2
  have retiring := next.formed.retiringPair 1 valid1
  refine ⟨?_, ?_, ?_, ?_⟩
  · have noTrap : trapsInEx (decode s.exMem.slots.s1.instr) = false := pair.quiet 1 inUse
    rw [word] at noTrap
    exact noTrap
  · rw [word] at noSystem
    exact noSystem.2
  · have noStore := partner.noStore
    rw [wordWb] at noStore
    exact noStore
  · rcases retiring with ⟨rd, regWrite⟩
    simp only [Dual.get_one, wordWb] at rd regWrite
    have noWrite := partner.noWrite
    rw [rd, regWrite] at noWrite
    exact noWrite

/-- An undisturbed halt shows the path before the halting instruction. -/
theorem shows_halt {halt : Nat} (good : HaltingPath path halt) {n : Nat} {s t u : CPUCore} {lane : Fin 2}
    (run : iterate CPUCore.tick n (startCore (path 0)) = .ok s) (ticked : s.tick = .ok t) (last : t.tick = .ok u)
    (running : t.running = true) (halts : haltLane t.memWb = some lane) (undisturbed : UndisturbedHalt s t) :
    Shows u (path halt) := by
  rcases run_simulates_halting good run (running_of_tick ticked running) with
    ⟨retired, accessed, executed, sim, within, uart⟩
  have follow := good.followable
  have noHalt := noHalt_of_tick sim.formed ticked running
  have order := accessed_le_halt good sim within noHalt
  have bound := sim.backEnd.inMem.bounds.2
  rcases sim.tick follow (by omega) noHalt with ⟨_, _, count, _, tickOk, atMost, next, _⟩
  cases ticked.symm.trans tickOk
  have behind := shows_behind sim follow noHalt (by omega) next ticked last undisturbed
    ((tick_uartOutput sim follow (by omega) noHalt ticked).trans uart)
  rcases haltLane_some halts with ⟨valid, stops⟩
  have silent : Silent (path halt).slot.d := silent_of_halt good.halts
  have inWb := next.backEnd.inWb
  -- the halting slot is the first halting instruction of the path
  have notBefore : halt <= accessed + lane.val := by
    rcases Nat.lt_or_ge (accessed + lane.val) halt with earlier | order
    · rw [(inWb.word valid).2, good.first _ earlier] at stops
      cases stops
    · exact order
  cases inWb with
  | nothing invalid0 invalid1 => exact (@forall_lane_of_invalid _ (fun _ => False) invalid0 invalid1 lane valid).elim
  | trapped invalid0 invalid1 _ _ =>
      exact (@forall_lane_of_invalid _ (fun _ => False) invalid0 invalid1 lane valid).elim
  | one valid0 word0 invalid1 =>
      cases lane using laneCases with
      | zero =>
          have here : accessed = halt := Nat.le_antisymm order notBefore
          subst here
          exact behind.before_silent follow (by omega) silent
      | one => exact absurd valid (ne_true_of_eq_false invalid1)
  | two valid0 word0 valid1 word1 =>
      cases lane using laneCases with
      | zero =>
          have here : accessed = halt := Nat.le_antisymm order notBefore
          subst here
          have partner := partner_silent sim next ticked undisturbed.before valid1 (undisturbed.partner halts valid1)
          exact (behind.before_silent follow (by omega) partner).before_silent follow (by omega) silent
      | one =>
          have slot0 : accessed ≠ halt := by
            intro here
            have stops0 : isHalt t.memWb.slots.s0.instr = true := by
              rw [word0, here]
              exact good.halts
            simp [haltLane, valid0, stops0] at halts
          have here : halt = accessed + 1 := by
            simp only [Fin.val_one] at notBefore
            omega
          subst here
          exact behind.before_silent follow (by omega) silent

end Path

/-- Halting is precise in every run whose last two ticks are undisturbed: they
take no interrupt and no trap and write no CSR, the last of them makes no
store, and a slot-1 partner of the halting instruction neither stores nor writes
a register.  Then nothing younger than the halting instruction has had an
effect, and on a path that the pipeline can follow the run ends in the state of
the sequential machine before that instruction. -/
theorem halting_precise {start : SeqState} {n : Nat} {s t u : CPUCore}
    (run : iterate CPUCore.tick n (startCore start) = .ok s) (ticked : s.tick = .ok t) (last : t.tick = .ok u)
    (running : t.running = true) (halted : u.running = false) (undisturbed : UndisturbedHalt s t) :
    (Exists fun lane => haltLane t.memWb = some lane ∧ Exists fun alone =>
      iterate CPUCore.tick 2 (onlyOlder s lane) = .ok alone ∧ alone.running = false ∧ SameArchitecture alone u) ∧
    forall path halt, path 0 = start -> HaltingPath path halt -> Shows u (path halt) := by
  have reached : Reaches CPUCore.tick (startCore start) s := ⟨n, run⟩
  have formed : WellFormed s :=
    reached.invariant (startCore_simulates (fun _ => start) 0).formed tick_wellFormed
  have formedT := tick_wellFormed s t formed ticked
  cases halts : haltLane t.memWb with
  | none =>
      rw [tick_running_eq formedT running last, halts] at halted
      cases halted
  | some lane =>
      refine ⟨⟨lane, rfl, halt_without_younger formed ticked last running halts undisturbed⟩, ?_⟩
      intro path halt same good
      subst same
      exact shows_halt good run ticked last running halts undisturbed

/-! ## Two runs -/

/-- `addi x5, x0, 7; sw x5, 256(x0)`, then an EBREAK that is issued together
with a `nop`. -/
def storeThenHalt : List (Addr × Word) :=
  [(0, 0x00700293#32), (4, 0x10502023#32), (8, 0x00100073#32), (12, 0x00000013#32)]

def storeThenHaltStart : SeqState where
  memory := { memory := ramImage storeThenHalt }
  regFile := {}
  pc := 0

/-- Is this the tick of a core in machine mode that writes no CSR? -/
def quietTest (s : CPUCore) : Bool :=
  decide (selectInterrupt s.updateTimer.regFile = none) &&
    passes s.atMemoryAccess.memoryAccess (fun out => out.2.isNone) &&
    decide (forall lane : Fin 2, (s.idEx.slots.get lane).valid = true -> (s.idEx.slots.get lane).d.isCsr = false) &&
    passes s.atExecute (fun e => (trapLane e.executeResolved.exMem).isNone) &&
    passes s.atFetch (fun f => f.regFile.privilege == PRV_M)

theorem quietTest_sound {s : CPUCore} (passed : quietTest s = true) : QuietTick s := by
  simp only [quietTest, Bool.and_eq_true, decide_eq_true_eq] at passed
  rcases passed with ⟨⟨⟨⟨noInterrupt, access⟩, noCsr⟩, execute⟩, fetch⟩
  rcases exists_of_passes access with ⟨out, accessOk, noTrap⟩
  rcases exists_of_passes execute with ⟨e, executeOk, noLane⟩
  rcases exists_of_passes fetch with ⟨f, fetchOk, machine⟩
  refine ⟨noInterrupt, fun other ran => ?_, noCsr, fun other ran => ?_, fun other ran => ?_⟩
  · cases accessOk.symm.trans ran
    exact Option.isNone_iff_eq_none.mp noTrap
  · cases executeOk.symm.trans ran
    exact Option.isNone_iff_eq_none.mp noLane
  · cases fetchOk.symm.trans ran
    rintro ⟨found, mem, faults⟩
    have translated := faults.translated
    rw [translateFetch, beq_iff_eq.mp machine, translate_machine] at translated
    cases translated
    exact absurd faults.faulted Bool.false_ne_true

theorem storeThenHalt_path : HaltingPath (pathFrom storeThenHaltStart) 2 := by
  have passed : everyState SeqState.step (fun r =>
      (decide r.Ordinary || isHalt r.instr) && decide r.InBounds && decide (Separate 256 r) &&
        (r.regFile.privilege == PRV_M) && (r.regFile.mie == 0)) (2 + 8 + 1) storeThenHaltStart = true := by
    decide +kernel
  have tested := fun i below => @pathFrom_tested _ _ _ passed i below
  simp only [Bool.and_eq_true, Bool.or_eq_true, decide_eq_true_eq, beq_iff_eq] at tested
  refine ⟨⟨?_, ?_, ?_, ?_, ?_⟩, by decide +kernel, by decide +kernel⟩
  · exact fun i below => (tested i (Nat.lt_succ_of_lt below)).2
  · exact fun i below => (tested i (Nat.lt_succ_of_lt below)).1.1.1.1.1.imp id (fun halts => .inr halts)
  · exact fun i below => (tested i (Nat.lt_succ_of_lt below)).1.1.1.1.2
  · exact codeKept_of_separate (fun i below => (tested i (Nat.lt_succ_of_lt below)).1.1.1.2)
  · intro i within
    have test := (tested i (Nat.lt_succ_of_le within)).1
    exact ⟨test.1.2, .inr test.2⟩

/-- That run ends in the state behind the store. -/
theorem storeThenHalt_precise : Exists fun u =>
    iterate CPUCore.tick 6 (startCore storeThenHaltStart) = .ok u ∧ u.running = false ∧
      Shows u (pathFrom storeThenHaltStart 2) := by
  have runs : passes (iterate CPUCore.tick 4 (startCore storeThenHaltStart)) (fun s => quietTest s &&
      passes s.tick (fun t => t.running && quietTest t && decide (haltLane t.memWb = some 0) &&
        !isStore (decode t.memWb.slots.s1.instr) && t.memWb.slots.s1.rd == 0 &&
        !t.exMem.memWrite.s0 && !t.exMem.memWrite.s1 && passes t.tick (fun u => !u.running))) = true := by
    decide +kernel
  rcases exists_of_passes runs with ⟨s, run, tests⟩
  rcases Bool.and_eq_true_iff.mp tests with ⟨quietS, rest⟩
  rcases exists_of_passes rest with ⟨t, ticked, testsT⟩
  simp only [Bool.and_eq_true, Bool.not_eq_true', decide_eq_true_eq, beq_iff_eq] at testsT
  rcases testsT with ⟨⟨⟨⟨⟨⟨⟨running, quietT⟩, halts⟩, noStore⟩, noWrite⟩, noStore0⟩, noStore1⟩, final⟩
  rcases exists_of_passes final with ⟨u, last, halted⟩
  have stopped : u.running = false := by simpa using halted
  have undisturbed : UndisturbedHalt s t := by
    refine ⟨quietTest_sound quietS, quietTest_sound quietT, fun _ _ => ⟨noStore, .inr noWrite⟩, ?_⟩
    intro lane _
    cases lane using laneCases with
    | zero => exact noStore0
    | one => exact noStore1
  refine ⟨u, ?_, stopped, ?_⟩
  · exact iterate_succ.mpr ⟨t, iterate_succ.mpr ⟨s, run, ticked⟩, last⟩
  · exact (halting_precise run ticked last running stopped undisturbed).2 _ 2 rfl storeThenHalt_path

/-- An EBREAK that is issued together with `addi x5, x0, 7`. -/
def haltWithPartner : List (Addr × Word) := [(0, 0x00100073#32), (4, 0x00700293#32)]

def haltWithPartnerStart : SeqState where
  memory := { memory := ramImage haltWithPartner }
  regFile := (init .default128MB (ramImage haltWithPartner) {}).regFile
  pc := 0

/-- Nothing comes before this EBREAK, but `x5` has been written in the end. -/
theorem halt_writes_partner : Exists fun u =>
    iterate CPUCore.tick 5 (init .default128MB (ramImage haltWithPartner) {}) = .ok u ∧ u.running = false ∧
      (startCore haltWithPartnerStart = init .default128MB (ramImage haltWithPartner) {} ∧ haltWithPartnerStart.Halts) ∧
      haltWithPartnerStart.regFile.gpr 5 = 0 ∧ u.regFile.gpr 5 = 7 ∧ ¬Shows u haltWithPartnerStart := by
  have runs : passes (iterate CPUCore.tick 5 (init .default128MB (ramImage haltWithPartner) {}))
      (fun u => !u.running && u.regFile.gpr 5 == 7) = true := by
    decide +kernel
  rcases exists_of_passes runs with ⟨u, run, tests⟩
  simp only [Bool.and_eq_true, Bool.not_eq_true', beq_iff_eq] at tests
  have before : haltWithPartnerStart.regFile.gpr 5 = 0 := by decide +kernel
  refine ⟨u, run, tests.1, ⟨rfl, by decide +kernel⟩, before, tests.2, ?_⟩
  intro shows
  have same : u.regFile.gpr 5 = haltWithPartnerStart.regFile.gpr 5 := congrFun shows.gpr 5
  rw [tests.2, before] at same
  exact absurd same (by decide)

end Halting
end SimpleRV
