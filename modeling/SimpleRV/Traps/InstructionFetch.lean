import SimpleRV.Pipeline.AccessAddress
import SimpleRV.Pipeline.Counters
import SimpleRV.Traps.ExecuteTraps

namespace SimpleRV
namespace Traps

open IssueUnit CPUCore Pipeline Iteration

/-!
# Page faults of fetch

Fetch runs last in a tick and ahead of the instructions in ID/EX.  Its page
fault calls `handleTrap` at once, which empties ID/EX and EX/MEM although what
they hold is older, and although a branch in ID/EX or a halting word ahead of it
may keep the program from ever coming to the faulting address.  Near the end of
memory fetch goes on after the trap and hands a zero word, which was never
fetched, to decode.
-/

/-- What an instruction that has not been executed can do at all. -/
def hasEffect (slot : PipelineSlot) : Bool :=
  hasWork slot || slot.d.isBranch || trapsInEx slot.d || slot.d.isCsr || slot.d.isSfence

/-- One tick of the back end alone: nothing is decoded and nothing fetched.  A
simulator that has stopped makes no more ticks. -/
def drainRound (s : CPUCore) : Except Crash CPUCore :=
  if !s.running then .ok s
  else s.writeBack.memoryAccess.map (fun out => { out.1.execute with idEx := {} })

/-- The core after everything behind decode has been written back, which takes
three ticks for what is in ID/EX. -/
def drain (s : CPUCore) : Except Crash CPUCore :=
  (drainRound s).bind (fun executed => (drainRound executed).bind drainRound)

/-- The fault that takes the core from `x` to `t` is precise. -/
structure PreciseFetchFault (x t : CPUCore) (found : TranslationResult) : Prop where
  /-- Older instructions that are not done yet stay in the pipeline. -/
  issued : forall lane, (x.idEx.slots.get lane).valid = true -> hasEffect (x.idEx.slots.get lane) = true ->
    t.idEx.slots.get lane = x.idEx.slots.get lane
  executed : forall lane, (x.exMem.slots.get lane).valid = true -> hasWork (x.exMem.slots.get lane) = true ->
    t.exMem.slots.get lane = x.exMem.slots.get lane
  retiring : t.memWb = x.memWb
  /-- The program does come to the faulting pc when they complete: none of them
  leads elsewhere, and none stops the simulator. -/
  reached : Exists fun d => drain x = .ok d ∧ d.running = true ∧ d.pc = x.pc
  /-- The next instruction is the one at the trap vector. -/
  vector : t.pc = (x.regFile.handleTrap x.pc found.cause x.pc).2
  noWord : forall lane, (t.ifId.slots.get lane).valid = false

/-- Nothing older is left to do, nothing that is done stops the simulator, and
the fault is found by the pair fetch. -/
structure FaultAlone (x : CPUCore) : Prop where
  running : x.running = true
  issued : forall lane, (x.idEx.slots.get lane).valid = true -> hasEffect (x.idEx.slots.get lane) = false
  executed : forall lane, (x.exMem.slots.get lane).valid = true -> hasWork (x.exMem.slots.get lane) = false
  continues : haltLane x.memWb = none
  room : x.pc + 8 <= MEMORY_SIZE

/-! ## What `fetch` does with the fault -/

theorem fetch_of_fault_room {x : CPUCore} {found : TranslationResult} {mem : MemorySystem}
    (ordered : x.ifId.slots.s1.valid = true -> x.ifId.slots.s0.valid = true)
    (faults : FetchFaults x found mem) (room : x.pc + 8 <= MEMORY_SIZE) :
    x.fetch = .ok ({ x with memory := mem }.handleTrap x.pc found.cause x.pc) := by
  have free1 := invalid_of_ordered ordered faults.free
  unfold fetch fetchPair
  simp only [faults.free, free1, Bool.false_eq_true, if_false, room, if_true, faults.translated, bind,
    Except.bind, faults.faulted, pure, Except.pure]

theorem fetch_of_fault_near_end {x : CPUCore} {found : TranslationResult} {mem : MemorySystem}
    (ordered : x.ifId.slots.s1.valid = true -> x.ifId.slots.s0.valid = true)
    (faults : FetchFaults x found mem) (noRoom : ¬x.pc + 8 <= MEMORY_SIZE) :
    x.fetch = .ok (if x.running then ({ x with memory := mem }.handleTrap x.pc found.cause x.pc).fillOne 0
      else { x with memory := mem }.handleTrap x.pc found.cause x.pc) := by
  have free1 := invalid_of_ordered ordered faults.free
  have single : x.pc + 4 <= MEMORY_SIZE := faults.inMemory.resolve_left noRoom
  unfold fetch fetchSingle fetchInstr
  simp only [faults.free, free1, Bool.false_eq_true, if_false, noRoom, single, if_true, faults.translated, bind,
    Except.bind, faults.faulted, pure, Except.pure, handleTrap_running]
  cases x.running <;> rfl

/-! ## Draining instructions that have nothing to do -/

/-- The state that is drained: well formed, with nothing left to do. -/
structure Idle (s : CPUCore) : Prop where
  wellFormed : WellFormed s
  running : s.running = true
  issued : forall lane, (s.idEx.slots.get lane).valid = true -> hasEffect (s.idEx.slots.get lane) = false
  executed : forall lane, (s.exMem.slots.get lane).valid = true -> hasWork (s.exMem.slots.get lane) = false
  continues : haltLane s.memWb = none

/-- A slot of EX/MEM with no work left does not access memory. -/
theorem Idle.noAccess {s : CPUCore} (idle : Idle s) (lane : Fin 2) : Pipeline.Idle s.exMem lane := by
  intro valid
  have pair := idle.wellFormed.executedPair
  rcases pair.controls lane valid with ⟨readEq, writeEq⟩
  have noWork := idle.executed lane valid
  have notMemory : (decode (s.exMem.slots.get lane).instr).isMemory = false := by
    simp only [hasWork, Bool.or_eq_false_iff] at noWork
    rw [(pair.ran lane valid).d] at noWork
    exact noWork.1.1
  rw [readEq, writeEq, isLoad, isStore, notMemory]
  exact ⟨rfl, rfl⟩

/-- Nor does it stop the simulator when it is written back. -/
theorem Idle.latchedContinues {s : CPUCore} (idle : Idle s) :
    haltLane ⟨⟨latched s.exMem.slots.s0, latched s.exMem.slots.s1⟩⟩ = none := by
  have goesOn : forall lane, ((latched (s.exMem.slots.get lane)).valid &&
      isHalt (latched (s.exMem.slots.get lane)).instr) = false := by
    intro lane
    unfold latched
    cases valid : (s.exMem.slots.get lane).valid with
    | false => rw [if_neg Bool.false_ne_true]; rfl
    | true =>
        have noWork := idle.executed lane valid
        simp only [hasWork, Bool.or_eq_false_iff] at noWork
        rw [if_pos rfl, noWork.2, Bool.and_false]
  have first := goesOn 0
  have second := goesOn 1
  simp only [Dual.get_zero, Dual.get_one] at first second
  unfold haltLane
  simp only [first, second, Bool.false_eq_true, if_false]

/-- Write-back goes on. -/
theorem Idle.writeBack {s : CPUCore} (idle : Idle s) : Idle s.writeBack ∧ s.writeBack.pc = s.pc := by
  have goesOn : s.writeBack.running = true := by
    rw [writeBack_running, idle.running, idle.continues]
    rfl
  rcases writeBack_frame s with ⟨regFile, count, running, frame⟩
  rw [frame] at goesOn ⊢
  exact ⟨⟨⟨idle.wellFormed.frontEnd, idle.wellFormed.executedPair, idle.wellFormed.retiringPair⟩, goesOn, idle.issued,
    idle.executed, idle.continues⟩, rfl⟩

/-- The memory stage only moves the slots on. -/
theorem Idle.memoryAccess {s : CPUCore} (idle : Idle s) :
    Exists fun t => s.memoryAccess = .ok (t, none) ∧ Idle t ∧ t.pc = s.pc := by
  have ran := memoryAccess_idle idle.noAccess
  have wellFormed := memoryAccess_wellFormed idle.wellFormed ran
  exact ⟨_, ran, ⟨wellFormed, idle.running, idle.issued, idle.executed, idle.latchedContinues⟩, rfl⟩

/-- A slot that runs keeps the work it has left. -/
theorem hasWork_of_frame {before after : PipelineSlot} (frame : SlotFrame before after) :
    hasWork { after with valid := true } = hasWork before := by
  unfold hasWork
  rw [frame.instr, frame.rd, frame.regWrite, frame.d]

/-- A slot without effect leaves the engine as one that does nothing in EX. -/
theorem Idle.engineSlot {s : CPUCore} (idle : Idle s) {lane : Fin 2} {latch : ExMemBuffer}
    (valid : (executedSlot s.idEx s.memWb s.regFile latch lane).valid = true) :
    let slot := executedSlot s.idEx s.memWb s.regFile latch lane
    slot.d.isBranch = false ∧ slot.d.predictedTaken = false ∧ trapsInEx slot.d = false ∧ hasWork slot = false := by
  have issued := idle.wellFormed.frontEnd.issued
  rw [executedSlot_valid] at valid
  have decoded := issued.decoded lane valid
  have noEffect := idle.issued lane valid
  simp only [hasEffect, Bool.or_eq_false_iff] at noEffect
  rcases noEffect with ⟨⟨⟨⟨noWork, noBranch⟩, noTrap⟩, _⟩, _⟩
  rcases executedSlot_ran issued s.memWb s.regFile latch valid with ⟨ran, instrEq⟩
  have branch := ran.isBranch
  have predicted := (decode_exclusive (s.idEx.slots.get lane).instr).predicted
  rw [instrEq, ← decoded.d, noBranch] at branch
  rw [← decoded.d, noBranch] at predicted
  refine ⟨?_, ?_, ?_, ?_⟩
  · exact Bool.eq_false_iff.mpr (fun taken => Bool.false_ne_true (branch taken))
  · rw [ran.d, instrEq, ← decoded.d]
    exact Bool.eq_false_iff.mpr (fun taken => Bool.false_ne_true (predicted taken))
  · rw [trapsInEx_ran ran, instrEq, ← decoded.d]
    exact noTrap
  · unfold executedSlot ExecutionEngine.executeSlot
    rw [if_pos valid, hasWork_of_frame (executeSlotWith_frame _ _ _ _ _)]
    exact noWork

/-- The execute stage neither redirects nor traps. -/
theorem Idle.execute {s : CPUCore} (idle : Idle s) : Idle { s.execute with idEx := {} } ∧ s.execute.pc = s.pc := by
  rcases committed_frame s with ⟨regFile, memory, frame⟩
  have slots : forall lane, ((committed s).exMem.slots.get lane).valid = true ->
      let slot := (committed s).exMem.slots.get lane
      slot.d.isBranch = false ∧ slot.d.predictedTaken = false ∧ trapsInEx slot.d = false ∧
        hasWork slot = false := by
    intro lane
    rcases engine_slot s.idEx s.exMem s.memWb s.regFile lane with ⟨latch, slotEq⟩
    rw [frame]
    change ((ExecutionEngine.execute _ _ _ _).slots.get lane).valid = true -> _
    simp only [runEngine, slotEq]
    exact fun valid => idle.engineSlot valid
  have resolved : s.executeResolved = committed s := by
    have resolution := executeResolved_resolution s
    generalize s.executeResolved = t at resolution
    cases resolution with
    | fallsThrough notTaken => rfl
    | asPredicted valid taken predicted => exact absurd ((slots 0 valid).1.symm.trans taken) Bool.false_ne_true
    | redirected target valid mispredicted destination =>
        rcases slots 0 valid with ⟨noBranch, notPredicted, _, _⟩
        simp only [Dual.get_zero] at noBranch notPredicted
        rw [noBranch, notPredicted] at mispredicted
        cases mispredicted
  have untrapped : s.execute = committed s := by
    have outcome := handleSlotTraps_outcome s.executeResolved
    change TrapOutcome s.executeResolved s.execute at outcome
    rw [resolved] at outcome
    generalize s.execute = t at outcome
    cases outcome with
    | none quiet => rfl
    | taken lane found =>
        rcases trapLane_some found with ⟨_, valid, traps⟩
        exact absurd ((slots lane valid).2.2.1.symm.trans traps) Bool.false_ne_true
  have wellFormed := execute_wellFormed idle.wellFormed
  refine ⟨⟨⟨?_, wellFormed.executedPair, wellFormed.retiringPair⟩, ?_, ?_, ?_, ?_⟩, ?_⟩
  · have front := wellFormed.frontEnd
    exact ⟨front.ordered, front.contiguous, issuedPair_of_invalid rfl rfl,
      Bool.false_ne_true.elim⟩
  · rw [untrapped, frame]
    exact idle.running
  · exact forall_lane_of_invalid rfl rfl
  · rw [untrapped]
    exact fun lane valid => (slots lane valid).2.2.2
  · rw [untrapped, frame]
    exact idle.continues
  · rw [untrapped, frame]
    rfl

theorem Idle.drainRound {s : CPUCore} (idle : Idle s) :
    Exists fun d => drainRound s = .ok d ∧ Idle d ∧ d.pc = s.pc := by
  rcases idle.writeBack with ⟨written, writtenPc⟩
  rcases written.memoryAccess with ⟨t, accessed, accessedIdle, accessedPc⟩
  rcases accessedIdle.execute with ⟨executedIdle, executedPc⟩
  refine ⟨_, ?_, executedIdle, executedPc.trans (accessedPc.trans writtenPc)⟩
  unfold Traps.drainRound
  rw [idle.running, accessed]
  rfl

theorem Idle.drain {s : CPUCore} (idle : Idle s) :
    Exists fun d => drain s = .ok d ∧ d.running = true ∧ d.pc = s.pc := by
  rcases idle.drainRound with ⟨executed, first, executedIdle, executedPc⟩
  rcases executedIdle.drainRound with ⟨accessed, second, accessedIdle, accessedPc⟩
  rcases accessedIdle.drainRound with ⟨d, third, idle, pc⟩
  refine ⟨d, ?_, idle.running, pc.trans (accessedPc.trans executedPc)⟩
  unfold Traps.drain
  rw [first]
  change (Traps.drainRound executed).bind Traps.drainRound = _
  rw [second]
  exact third

/-! ## Draining instructions that stop the simulator -/

/-- A round keeps the latches well formed, and only write-back can stop it. -/
theorem drainRound_outcome {s d : CPUCore} (wellFormed : WellFormed s) (ran : drainRound s = .ok d) :
    WellFormed d ∧ d.running = (s.running && (haltLane s.memWb).isNone) := by
  unfold drainRound at ran
  cases before : s.running with
  | false =>
      rw [if_pos (by rw [before]; rfl)] at ran
      cases ran
      exact ⟨wellFormed, before⟩
  | true =>
      rw [if_neg (by rw [before]; decide)] at ran
      rcases map_eq_ok.mp ran with ⟨out, accessed, outEq⟩
      subst outEq
      have written : WellFormed s.writeBack := by
        rcases writeBack_frame s with ⟨regFile, count, running, frame⟩
        rw [frame]
        exact ⟨wellFormed.frontEnd, wellFormed.executedPair, wellFormed.retiringPair⟩
      have stage := (memoryAccess_outcome written.executedPair.oneAccess accessed).counters
      have executed := execute_wellFormed (memoryAccess_wellFormed written accessed)
      have front := executed.frontEnd
      refine ⟨⟨⟨front.ordered, front.contiguous, issuedPair_of_invalid rfl rfl, Bool.false_ne_true.elim⟩,
        executed.executedPair, executed.retiringPair⟩, ?_⟩
      change out.1.execute.running = _
      rw [(execute_counters out.1).2, stage.2, writeBack_running, before]

/-- What is drained without stopping was running, with nothing in MEM/WB that
halts. -/
theorem drain_running {s d : CPUCore} (wellFormed : WellFormed s) (ran : drain s = .ok d) (running : d.running = true) :
    s.running = true ∧ haltLane s.memWb = none := by
  rcases bind_eq_ok.mp ran with ⟨executed, first, rest⟩
  rcases bind_eq_ok.mp rest with ⟨accessed, second, third⟩
  rcases drainRound_outcome wellFormed first with ⟨formed1, running1⟩
  rcases drainRound_outcome formed1 second with ⟨formed2, running2⟩
  have running3 := (drainRound_outcome formed2 third).2
  have stayed2 := Bool.and_eq_true_iff.mp (running3.symm.trans running)
  have stayed1 := Bool.and_eq_true_iff.mp (running2.symm.trans stayed2.1)
  have stayed0 := Bool.and_eq_true_iff.mp (running1.symm.trans stayed1.1)
  exact ⟨stayed0.1, Option.isNone_iff_eq_none.mp stayed0.2⟩

/-! ## The fault -/

/-- When fetch only traps, what may be missing is older work, and the program
may have ended. -/
theorem preciseFetchFault_trap_iff {x : CPUCore} (wellFormed : WellFormed x) (found : TranslationResult)
    (mem : MemorySystem) :
    PreciseFetchFault x ({ x with memory := mem }.handleTrap x.pc found.cause x.pc) found ↔
      x.running = true ∧
        (forall lane, (x.idEx.slots.get lane).valid = true -> hasEffect (x.idEx.slots.get lane) = false) ∧
        (forall lane, (x.exMem.slots.get lane).valid = true -> hasWork (x.exMem.slots.get lane) = false) ∧
        haltLane x.memWb = none := by
  have killed : forall lane, (({ x with memory := mem }.handleTrap x.pc found.cause x.pc).idEx.slots.get lane).valid
      = false ∧ (({ x with memory := mem }.handleTrap x.pc found.cause x.pc).exMem.slots.get lane).valid = false ∧
      (({ x with memory := mem }.handleTrap x.pc found.cause x.pc).ifId.slots.get lane).valid = false := by
    intro lane
    cases lane using laneCases with
    | zero => exact ⟨rfl, rfl, rfl⟩
    | one => exact ⟨rfl, rfl, rfl⟩
  constructor
  · intro precise
    rcases precise.reached with ⟨d, drained, stillRunning, _⟩
    rcases drain_running wellFormed drained stillRunning with ⟨running, continues⟩
    refine ⟨running, ?_, ?_, continues⟩
    · intro lane valid
      cases effect : hasEffect (x.idEx.slots.get lane) with
      | false => rfl
      | true =>
          have kept := congrArg PipelineSlot.valid (precise.issued lane valid effect)
          rw [(killed lane).1, valid] at kept
          cases kept
    · intro lane valid
      cases work : hasWork (x.exMem.slots.get lane) with
      | false => rfl
      | true =>
          have kept := congrArg PipelineSlot.valid (precise.executed lane valid work)
          rw [(killed lane).2.1, valid] at kept
          cases kept
  · rintro ⟨running, noEffect, noWork, continues⟩
    have idle : Idle x := ⟨wellFormed, running, noEffect, noWork, continues⟩
    refine ⟨?_, ?_, rfl, idle.drain, rfl, fun lane => (killed lane).2.2⟩
    · intro lane valid effect
      exact absurd ((noEffect lane valid).symm.trans effect) Bool.false_ne_true
    · intro lane valid work
      exact absurd ((noWork lane valid).symm.trans work) Bool.false_ne_true

/-- In every reachable state in which fetch meets a fault, the fault is
precise exactly if nothing older is in flight, the simulator goes on, and fetch
does not. -/
theorem fetch_fault_precise_iff {s x t : CPUCore} {found : TranslationResult} {mem : MemorySystem}
    (reachable : Reachable s) (reached : s.atFetch = .ok x) (faults : FetchFaults x found mem)
    (ran : x.fetch = .ok t) : PreciseFetchFault x t found ↔ FaultAlone x := by
  have wellFormed := atFetch_wellFormed reachable.wellFormed reached
  have ordered := wellFormed.frontEnd.ordered
  have trapped := preciseFetchFault_trap_iff wellFormed found mem
  by_cases room : x.pc + 8 <= MEMORY_SIZE
  · rw [fetch_of_fault_room ordered faults room] at ran
    cases ran
    refine trapped.trans ⟨?_, ?_⟩
    · rintro ⟨running, issued, executed, continues⟩
      exact ⟨running, issued, executed, continues, room⟩
    · intro idle
      exact ⟨idle.running, idle.issued, idle.executed, idle.continues⟩
  · refine ⟨?_, fun idle => absurd idle.room room⟩
    intro precise
    rw [fetch_of_fault_near_end ordered faults room] at ran
    cases running : x.running with
    | false =>
        rcases precise.reached with ⟨d, drained, stillRunning, _⟩
        exact absurd (drain_running wellFormed drained stillRunning).1 (ne_true_of_eq_false running)
    | true =>
        rw [if_pos running] at ran
        cases ran
        exact absurd (precise.noWord 0) (Bool.false_ne_true ∘ Eq.symm)

/-! ## Two runs -/

/-- Machine code that sets `satp` to the root table at 0x3000, `mepc` to 0x1FF8
and `MPP` to S and returns there, where two words set `x5` and `x6`. -/
def enterSupervisor : List (Addr × Word) :=
  [(0x00, 0x800000B7#32), (0x04, 0x00308093#32), (0x08, 0x18009073#32), (0x0C, 0x000021B7#32),
    (0x10, 0xFF818193#32), (0x14, 0x34119073#32), (0x18, 0x00100113#32), (0x1C, 0x00B11113#32),
    (0x20, 0x30011073#32), (0x24, 0x30200073#32), (0x1FF8, 0x00100293#32), (0x1FFC, 0x00100313#32)]

/-- Page tables that map the page at 0x1000 to itself and nothing else. -/
def onePage : List (Addr × Word) := [(0x3000, 0x1001#32), (0x4004, 0x40B#32)]

def atFault (tables : List (Addr × Word)) (ticks : Nat) : Except Crash CPUCore :=
  iterate tick ticks (init .default128MB (ramImage (enterSupervisor ++ tables)) {})

theorem exists_of_atFault {tables : List (Addr × Word)} {ticks : Nat} {test : CPUCore -> Bool}
    (passed : passes (atFault tables ticks) (fun s => passes s.atFetch (fun x =>
      !x.ifId.slots.s0.valid && decide (x.pc + 8 <= MEMORY_SIZE) &&
        passes (x.translateFetch x.pc) (fun out => out.1.fault) && passes x.fetch (fun _ => true) &&
          test x)) = true) :
    Exists fun s => Exists fun x => Exists fun t => Exists fun found => Exists fun mem => Reachable s ∧
      s.atFetch = .ok x ∧ FetchFaults x found mem ∧ x.fetch = .ok t ∧ x.pc + 8 <= MEMORY_SIZE ∧
        test x = true := by
  rcases exists_of_passes passed with ⟨s, run, tests⟩
  rcases exists_of_passes tests with ⟨x, reached, tests⟩
  simp only [Bool.and_eq_true, Bool.not_eq_true', decide_eq_true_eq] at tests
  rcases tests with ⟨⟨⟨⟨free, room⟩, faulting⟩, fetching⟩, test⟩
  rcases exists_of_passes faulting with ⟨⟨found, mem⟩, translated, faulted⟩
  rcases exists_of_passes fetching with ⟨t, ran, _⟩
  exact ⟨s, x, t, found, mem, ⟨_, _, _, ticks, run⟩, reached, ⟨free, .inl room, translated, faulted⟩, ran, room,
    test⟩

/-- Does a latch hold no valid slot? -/
def vacant (slots : Dual PipelineSlot) : Bool := !slots.s0.valid && !slots.s1.valid

theorem vacant_lane {slots : Dual PipelineSlot} {fact : Fin 2 -> Prop} (none : vacant slots = true) (lane : Fin 2)
    (valid : (slots.get lane).valid = true) : fact lane := by
  simp only [vacant, Bool.and_eq_true, Bool.not_eq_true'] at none
  exact forall_lane_of_invalid none.1 none.2 lane valid

/-- Without page tables the MRET itself leads to a precise fault. -/
theorem fetch_fault_precise_iff_mret : Exists fun s => Exists fun x => Exists fun t => Exists fun found =>
    Reachable s ∧ s.atFetch = .ok x ∧ x.fetch = .ok t ∧ PreciseFetchFault x t found := by
  have passed : passes (atFault [] 9) (fun s => passes s.atFetch (fun x =>
      !x.ifId.slots.s0.valid && decide (x.pc + 8 <= MEMORY_SIZE) &&
        passes (x.translateFetch x.pc) (fun out => out.1.fault) && passes x.fetch (fun _ => true) &&
          (vacant x.idEx.slots && vacant x.exMem.slots && x.running && decide (haltLane x.memWb = none)))) = true := by
    decide +kernel
  rcases exists_of_atFault passed with ⟨s, x, t, found, mem, reachable, reached, faults, ran, room, test⟩
  simp only [Bool.and_eq_true, decide_eq_true_eq] at test
  rcases test with ⟨⟨⟨noIssued, noExecuted⟩, running⟩, continues⟩
  refine ⟨s, x, t, found, reachable, reached, ran, ?_⟩
  exact (fetch_fault_precise_iff reachable reached faults ran).mpr
    ⟨running, vacant_lane noIssued, vacant_lane noExecuted, continues, room⟩

/-- With the page mapped, fetch meets the unmapped page behind it while the
two words are in ID/EX, and they are never executed. -/
theorem fetch_fault_cancels_issued : Exists fun s => Exists fun x => Exists fun t => Exists fun found =>
    Exists fun mem => Reachable s ∧ s.atFetch = .ok x ∧ FetchFaults x found mem ∧ x.fetch = .ok t ∧
      (x.idEx.slots.s0.instr = 0x00100293#32 ∧ x.idEx.slots.s1.instr = 0x00100313#32) ∧
        ¬PreciseFetchFault x t found := by
  have passed : passes (atFault onePage 10) (fun s => passes s.atFetch (fun x =>
      !x.ifId.slots.s0.valid && decide (x.pc + 8 <= MEMORY_SIZE) &&
        passes (x.translateFetch x.pc) (fun out => out.1.fault) && passes x.fetch (fun _ => true) &&
          (decide (x.idEx.slots.s0.instr = 0x00100293#32) && decide (x.idEx.slots.s1.instr = 0x00100313#32) &&
            x.idEx.slots.s0.valid && hasEffect x.idEx.slots.s0 &&
              passes x.fetch (fun t => vacant t.idEx.slots)))) = true := by
    decide +kernel
  rcases exists_of_atFault passed with ⟨s, x, t, found, mem, reachable, reached, faults, ran, room, test⟩
  simp only [Bool.and_eq_true, decide_eq_true_eq] at test
  rcases test with ⟨⟨⟨⟨word0, word1⟩, valid⟩, effect⟩, cleared⟩
  refine ⟨s, x, t, found, mem, reachable, reached, faults, ran, ⟨word0, word1⟩, fun precise => ?_⟩
  have kept := congrArg PipelineSlot.valid (precise.issued 0 valid effect)
  rw [ran] at cleared
  exact @vacant_lane t.idEx.slots (fun _ => False) cleared 0 (kept.trans valid)

end Traps
end SimpleRV
