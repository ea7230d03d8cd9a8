import Mathlib.Logic.Relation
import SimpleRV.Pipeline.WellFormed
import SimpleRV.Privilege.TrapStack

namespace SimpleRV
namespace Privilege

open CPUCore RegisterFile Pipeline Iteration

/-!
# What happens to the registers and the pc in a tick

A tick is a sequence of events on the registers and the fetch pc: the timer
line, an interrupt, write-back, a trap of the memory stage, the CSR commits,
redirection, and the traps and returns of the execute and fetch stages.  The
stages are gone through once here, and each entry into a handler is traced to
the call that makes it.  What holds of the privilege and the CSRs in all runs is
then proved event by event.
-/

/-- The registers with the fetch pc. -/
abbrev Control := RegisterFile × Addr

/-- The control part of a core. -/
def control (s : CPUCore) : Control := (s.regFile, s.pc)

inductive ControlEvent where
  | timer (pending : Bool)
  | interrupt (cause : Word)
  | retire (gpr : RegNum -> Word)
  | trap (epc cause tval : Word)
  | csr (number : CsrAddr) (data : Word)
  | mret
  | sret
  | redirect (target : Addr)

/-- The effect of an event. -/
def ControlEvent.apply (state : Control) : ControlEvent -> Control
  | timer pending => (state.1.hwSetMtip pending, state.2)
  | interrupt cause => state.1.enterInterrupt state.2 cause
  | retire gpr => ({ state.1 with gpr := gpr }, state.2)
  | trap epc cause tval => state.1.handleTrap epc cause tval
  | csr number data => (state.1.writeCsr number data, state.2)
  | mret => state.1.mret
  | sret => state.1.sret
  | redirect target => (state.1, target)

/-- The execute stage of the next tick processes this slot. -/
def Executes (s : CPUCore) (slot : PipelineSlot) : Prop :=
  Exists fun before => Exists fun lane => s.atExecute = .ok before ∧
    before.runEngine.exMem.slots.get lane = slot ∧ slot.valid = true

/-- Do all slots that the execute stage processes pass the test? -/
def everyExecuted (test : PipelineSlot -> Bool) (s : CPUCore) : Bool :=
  passes s.atExecute (fun before =>
    (!before.runEngine.exMem.slots.s0.valid || test before.runEngine.exMem.slots.s0) &&
      (!before.runEngine.exMem.slots.s1.valid || test before.runEngine.exMem.slots.s1))

theorem everyExecuted_sound {test : PipelineSlot -> Bool} {s : CPUCore} {slot : PipelineSlot}
    (passed : everyExecuted test s = true) (executes : Executes s slot) : test slot = true := by
  rcases executes with ⟨before, lane, ran, here, valid⟩
  rcases exists_of_passes passed with ⟨other, same, tests⟩
  cases ran.symm.trans same
  rcases Bool.and_eq_true_iff.mp tests with ⟨test0, test1⟩
  subst here
  cases lane using laneCases with
  | zero =>
      rw [show before.runEngine.exMem.slots.s0.valid = true from valid] at test0
      exact test0
  | one =>
      rw [show before.runEngine.exMem.slots.s1.valid = true from valid] at test1
      exact test1

/-- The instructions among the events are instructions that the execute stage
processes, and an interrupt is the selected one. -/
def Justified (s : CPUCore) : ControlEvent -> Prop
  | .interrupt cause => selectInterrupt s.updateTimer.regFile = some cause
  | .csr number data => Exists fun slot =>
      Executes s slot ∧ slot.d.isCsr = true ∧ slot.d.csrAddr = number ∧ slot.csrWriteVal = data
  | .mret => Exists fun slot => Executes s slot ∧ slot.d.isMret = true
  | .sret => Exists fun slot => Executes s slot ∧ slot.d.isSret = true
  | _ => True

/-- A sequence of justified events leads from one control part to another. -/
def Explained (s : CPUCore) (before after : Control) : Prop :=
  Exists fun events : List ControlEvent =>
    (forall event, event ∈ events -> Justified s event) ∧ events.foldl ControlEvent.apply before = after

section Explained

variable {s : CPUCore} {first second third : Control}

theorem Explained.single {event : ControlEvent} (justified : Justified s event) (state : Control) :
    Explained s state (event.apply state) :=
  Applies.single justified state

theorem Explained.trans (left : Explained s first second) (right : Explained s second third) :
    Explained s first third :=
  Applies.trans left right

/-- What every justified event keeps, every explained change keeps. -/
theorem Explained.invariant {property : Control -> Prop} (explained : Explained s first second)
    (initial : property first)
    (preserved : forall state event, property state -> Justified s event -> property (event.apply state)) :
    property second :=
  Applies.invariant explained initial preserved

end Explained

/-! ## Entries into a handler -/

/-- The entries among the events. -/
def ControlEvent.isEntry : ControlEvent -> Bool
  | interrupt _ => true
  | trap _ _ _ => true
  | _ => false

/-- The core around each entry of the tick from `s` into a handler: the
interrupt that `checkAndHandleInterrupts` takes, and the calls of `handleTrap`
by the memory stage, by the execute stage and by fetch. -/
inductive Enters (s : CPUCore) : CPUCore -> CPUCore -> Prop where
  | interrupt (cause : Word) (selected : selectInterrupt s.updateTimer.regFile = some cause) :
      Enters s s.updateTimer s.atWriteBack
  | access (lane : Fin 2) (older : CPUCore) (cause : Word) (mem : MemorySystem)
      (before : olderAccesses s.atMemoryAccess lane = .ok older) (valid : (older.exMem.slots.get lane).valid = true)
      (trap : laneAccess older lane = .ok (.trap cause, mem)) :
      Enters s older
        ({ older with
            memory := mem
            memWb := ⟨older.memWb.slots.set lane (older.exMem.slots.get lane)⟩ }.handleTrap
          (lanePc older lane) cause (older.exMem.memAddr.get lane))
  | ecall (x : CPUCore) (lane : Fin 2) (earlier : s.atExecute = .ok x)
      (found : trapLane x.executeResolved.exMem = some lane)
      (isEcall : (x.executeResolved.exMem.slots.get lane).d.isEcall = true) :
      Enters s x.executeResolved
        (x.executeResolved.handleTrap (lanePc x.executeResolved lane + 4) x.executeResolved.regFile.ecallCause 0)
  | illegal (x : CPUCore) (lane : Fin 2) (earlier : s.atExecute = .ok x)
      (found : trapLane x.executeResolved.exMem = some lane)
      (notEcall : (x.executeResolved.exMem.slots.get lane).d.isEcall = false)
      (isIllegal : (x.executeResolved.exMem.slots.get lane).d.isIllegal = true) :
      Enters s x.executeResolved
        (x.executeResolved.handleTrap (lanePc x.executeResolved lane) MCAUSE_ILLEGAL
          (x.executeResolved.exMem.slots.get lane).instr)
  | fetch (x : CPUCore) (found : TranslationResult) (mem : MemorySystem) (earlier : s.atFetch = .ok x)
      (faults : FetchFaults x found mem) :
      Enters s x ({ x with memory := mem }.handleTrap x.pc found.cause x.pc)

/-- Each of them is an event. -/
theorem Enters.event {s before after : CPUCore} (entry : Enters s before after) :
    Exists fun event => Justified s event ∧ event.isEntry = true ∧ control after = event.apply (control before) := by
  cases entry with
  | interrupt cause selected =>
      refine ⟨.interrupt cause, selected, rfl, ?_⟩
      unfold atWriteBack checkAndHandleInterrupts
      rw [selected]
      rfl
  | access lane older cause mem done valid trap => exact ⟨.trap _ cause _, trivial, rfl, rfl⟩
  | ecall x lane earlier found isEcall => exact ⟨.trap _ _ _, trivial, rfl, rfl⟩
  | illegal x lane earlier found notEcall isIllegal => exact ⟨.trap _ _ _, trivial, rfl, rfl⟩
  | fetch x found mem earlier faults => exact ⟨.trap _ _ _, trivial, rfl, rfl⟩

/-- An entry leads to the vector of the mode that it enters. -/
theorem entry_vector {event : ControlEvent} (entry : event.isEntry = true) (state : Control) :
    (event.apply state).2 =
      if (event.apply state).1.privilege = PRV_S then state.1.stvec else state.1.mtvec := by
  cases event with
  | interrupt cause =>
      change (state.1.enterInterrupt state.2 cause).2 = if (state.1.enterInterrupt state.2 cause).1.privilege = PRV_S
        then state.1.stvec else state.1.mtvec
      unfold enterInterrupt
      simp only
      split
      · rfl
      · rfl
  | trap epc cause tval =>
      change (state.1.handleTrap epc cause tval).2 = if (state.1.handleTrap epc cause tval).1.privilege = PRV_S
        then state.1.stvec else state.1.mtvec
      unfold RegisterFile.handleTrap
      simp only
      split
      · rfl
      · rfl
  | _ => cases entry

theorem Enters.vector {s before after : CPUCore} (entry : Enters s before after) : after.pc =
    if after.regFile.privilege = PRV_S then before.regFile.stvec else before.regFile.mtvec := by
  rcases entry.event with ⟨event, _, isEntry, applied⟩
  have vector := entry_vector isEntry (control before)
  rw [← applied] at vector
  exact vector

/-! ## The stages -/

/-- The timer line is driven once a tick, in front of all other events. -/
def ControlEvent.isTimer : ControlEvent -> Bool
  | timer _ => true
  | _ => false

/-- A step of the control part behind the timer: an entry into a handler, from
the core in which it is made, or another justified event. -/
inductive Moves (s : CPUCore) : Control -> Control -> Prop where
  | event (event : ControlEvent) (justified : Justified s event) (inside : event.isEntry = false)
      (other : event.isTimer = false) (state : Control) : Moves s state (event.apply state)
  | enters {before after : CPUCore} (entry : Enters s before after) : Moves s (control before) (control after)

/-- A sequence of such steps. -/
def Steps (s : CPUCore) : Control -> Control -> Prop := Relation.ReflTransGen (Moves s)

section Steps

variable {s : CPUCore} {first second third : Control}

theorem Moves.justified (moves : Moves s first second) :
    Exists fun event => Justified s event ∧ event.isTimer = false ∧ second = event.apply first := by
  cases moves with
  | event event justified inside other => exact ⟨event, justified, other, rfl⟩
  | enters entry =>
      rcases entry.event with ⟨event, justified, isEntry, applied⟩
      refine ⟨event, justified, ?_, applied⟩
      cases event with
      | timer pending => cases isEntry
      | _ => rfl

theorem Steps.refl (s : CPUCore) (state : Control) : Steps s state state := Relation.ReflTransGen.refl

theorem Steps.single {event : ControlEvent} (justified : Justified s event) (inside : event.isEntry = false)
    (other : event.isTimer = false) (state : Control) : Steps s state (event.apply state) :=
  Relation.ReflTransGen.single (.event event justified inside other state)

theorem Steps.entry {before after : CPUCore} (entry : Enters s before after) :
    Steps s (control before) (control after) :=
  Relation.ReflTransGen.single (.enters entry)

theorem Steps.trans (left : Steps s first second) (right : Steps s second third) : Steps s first third :=
  Relation.ReflTransGen.trans left right

/-- What every step keeps, the whole sequence keeps. -/
theorem Steps.invariant {property : Control -> Prop} (steps : Steps s first second) (initial : property first)
    (preserved : forall before after, property before -> Moves s before after -> property after) : property second := by
  induction steps with
  | refl => exact initial
  | tail earlier last holds => exact preserved _ _ holds last

theorem Steps.explained (steps : Steps s first second) : Explained s first second := by
  refine steps.invariant (Applies.refl first) ?_
  intro before after earlier moves
  rcases moves.justified with ⟨event, justified, _, applied⟩
  rw [applied]
  exact Explained.trans earlier (.single justified before)

end Steps

theorem atWriteBack_steps (s : CPUCore) : Steps s (control s.updateTimer) (control s.atWriteBack) := by
  cases selected : selectInterrupt s.updateTimer.regFile with
  | none =>
      rw [atWriteBack_quiet selected]
      exact .refl s _
  | some cause => exact .entry (.interrupt cause selected)

theorem atMemoryAccess_steps (s : CPUCore) : Steps s (control s.updateTimer) (control s.atMemoryAccess) := by
  have same : control s.atMemoryAccess =
      ControlEvent.apply (control s.atWriteBack) (.retire s.atMemoryAccess.regFile.gpr) := by
    rcases writeBack_frame s.atWriteBack with ⟨regFile, count, running, frame⟩
    have samePc : s.atMemoryAccess.pc = s.atWriteBack.pc := by rw [atMemoryAccess, frame]
    refine Prod.ext ?_ samePc
    change s.atWriteBack.writeBack.regFile = { s.atWriteBack.regFile with gpr := s.atWriteBack.writeBack.regFile.gpr }
    rw [writeBack_regFile]
  rw [same]
  exact (atWriteBack_steps s).trans (@Steps.single s (.retire _) trivial rfl rfl _)

theorem atExecute_steps {s t : CPUCore} (wellFormed : WellFormed s) (ran : s.atExecute = .ok t) :
    Steps s (control s.updateTimer) (control t) := by
  have one := (atMemoryAccess_wellFormed wellFormed).executedPair.oneAccess
  rcases map_eq_ok.mp ran with ⟨⟨t', trapped⟩, accessed, same⟩
  cases same
  refine (atMemoryAccess_steps s).trans ?_
  cases trapped with
  | none =>
      rcases memoryAccess_frame one accessed with ⟨mem, memWb, frame⟩
      rw [frame]
      exact .refl s _
  | some lane =>
      rcases memoryAccess_trap one accessed with ⟨older, before, _, ⟨sameRegFile, samePc⟩, _, _, outcome⟩
      have sameControl : control s.atMemoryAccess = control older := Prod.ext sameRegFile.symm samePc.symm
      rw [sameControl]
      cases outcome with
      | trapped cause mem valid access => exact .entry (.access lane older cause mem before valid access)

/-! ## Execute -/

theorem commitCsrLane_steps {s before x : CPUCore} (lane : Fin 2) (ran : s.atExecute = .ok before)
    (sameLatch : x.exMem = before.runEngine.exMem) : Steps s (control x) (control (x.commitCsrLane lane)) := by
  unfold commitCsrLane
  simp only
  split
  · rename_i both
    rcases Bool.and_eq_true_iff.mp both with ⟨valid, isCsr⟩
    have slot : Executes s (x.exMem.slots.get lane) := ⟨before, lane, ran, by rw [sameLatch], valid⟩
    exact @Steps.single s (.csr _ _) ⟨_, slot, isCsr, rfl, rfl⟩ rfl rfl (control x)
  · exact .refl s _

theorem commitSfenceLane_control (x : CPUCore) (lane : Fin 2) : control (x.commitSfenceLane lane) = control x := by
  unfold commitSfenceLane
  simp only
  split
  · rfl
  · rfl

theorem committed_steps {s before : CPUCore} (ran : s.atExecute = .ok before) :
    Steps s (control before) (control (committed before)) := by
  have first := @commitCsrLane_steps s before before.runEngine 0 ran rfl
  have second := @commitCsrLane_steps s before (before.runEngine.commitCsrLane 0) 1 ran (commitCsrLane_exMem _ 0)
  rw [committed, commitSfenceLane_control, commitSfenceLane_control]
  exact first.trans second

theorem resolution_steps {x y : CPUCore} (s : CPUCore) (resolution : Resolution x y) :
    Steps s (control x) (control y) := by
  cases resolution with
  | fallsThrough notTaken => exact .refl s _
  | asPredicted valid taken predicted => exact .refl s _
  | redirected target valid mispredicted destination =>
      exact @Steps.single s (.redirect target) trivial rfl rfl (control x)

/-- What is valid behind branch resolution, the engine has put there. -/
theorem executes_of_resolved {s before : CPUCore} {lane : Fin 2} (ran : s.atExecute = .ok before)
    (valid : (before.executeResolved.exMem.slots.get lane).valid = true) :
    Executes s (before.executeResolved.exMem.slots.get lane) := by
  refine ⟨before, lane, ran, ?_, valid⟩
  rcases committed_frame before with ⟨regFile, memory, frame⟩
  have sameLatch : (committed before).exMem = before.runEngine.exMem := by rw [frame]
  rcases (executeResolved_resolution before).exMem with same | squashed
  · rw [same, sameLatch]
  · rw [squashed] at valid ⊢
    cases lane using laneCases with
    | zero => rw [← sameLatch]; rfl
    | one => cases valid

/-- The trap or the return that the execute stage takes. -/
theorem trapTarget_steps {s x : CPUCore} {lane : Fin 2} (earlier : s.atExecute = .ok x)
    (found : trapLane x.executeResolved.exMem = some lane) : Steps s (control x.executeResolved)
      (trapTarget x.executeResolved.regFile (x.executeResolved.exMem.slots.get lane) (lanePc x.executeResolved lane)) := by
  rcases trapLane_some found with ⟨_, valid, traps⟩
  have executes := executes_of_resolved earlier valid
  unfold trapTarget
  simp only [trapsInEx, Bool.or_eq_true] at traps
  by_cases ecall : (x.executeResolved.exMem.slots.get lane).d.isEcall = true
  · rw [if_pos ecall]
    exact .entry (.ecall x lane earlier found ecall)
  by_cases illegal : (x.executeResolved.exMem.slots.get lane).d.isIllegal = true
  · rw [if_neg ecall, if_pos illegal]
    exact .entry (.illegal x lane earlier found (Bool.eq_false_iff.mpr ecall) illegal)
  by_cases mret : (x.executeResolved.exMem.slots.get lane).d.isMret = true
  · rw [if_neg ecall, if_neg illegal, if_pos mret]
    exact @Steps.single s .mret ⟨_, executes, mret⟩ rfl rfl (control x.executeResolved)
  · have sret : (x.executeResolved.exMem.slots.get lane).d.isSret = true := by
      simpa [ecall, illegal, mret] using traps
    rw [if_neg ecall, if_neg illegal, if_neg mret]
    exact @Steps.single s .sret ⟨_, executes, sret⟩ rfl rfl (control x.executeResolved)

theorem atDecode_steps {s t : CPUCore} (wellFormed : WellFormed s) (ran : s.atDecode = .ok t) :
    Steps s (control s.updateTimer) (control t) := by
  rcases map_eq_ok.mp ran with ⟨before, earlier, executed⟩
  subst executed
  refine (atExecute_steps wellFormed earlier).trans ?_
  refine (committed_steps earlier).trans ?_
  refine (resolution_steps s (executeResolved_resolution before)).trans ?_
  change Steps s _ (control before.executeResolved.handleSlotTraps)
  cases found : trapLane before.executeResolved.exMem with
  | none =>
      rw [handleSlotTraps_none found]
      exact .refl s _
  | some lane =>
      rw [handleSlotTraps_some found]
      exact trapTarget_steps earlier found

/-! ## Decode and fetch -/

theorem fetch_steps {s x y : CPUCore} (earlier : s.atFetch = .ok x) (fetched : Fetch x y) :
    Steps s (control x) (control y) := by
  cases fetched with
  | full valid => exact .refl s _
  | nothing mem empty same => exact .refl s _
  | one word mem empty same => exact @Steps.single s (.redirect _) trivial rfl rfl (control x)
  | pair word0 word1 mem empty same => exact @Steps.single s (.redirect _) trivial rfl rfl (control x)
  | fault found mem faults => exact .entry (.fetch x found mem earlier faults)
  | faultNearEnd found mem faults =>
      exact (Steps.entry (.fetch x found mem earlier faults)).trans (@Steps.single s (.redirect _) trivial rfl rfl _)

theorem atFetch_steps {s t : CPUCore} (wellFormed : WellFormed s) (ran : s.atFetch = .ok t) :
    Steps s (control s.updateTimer) (control t) := by
  rcases map_eq_ok.mp ran with ⟨decoded, earlier, issued⟩
  refine (atDecode_steps wellFormed earlier).trans ?_
  rw [← issued]
  exact @Steps.single s (.redirect _) trivial rfl rfl (control decoded)

/-! ## Points of a tick -/

/-- The states that a tick passes through behind the update of the timer, and
the one in which it ends. -/
inductive Point (s : CPUCore) : CPUCore -> Prop where
  | interrupts : Point s s.updateTimer
  | writeBack : Point s s.atWriteBack
  | memoryAccess : Point s s.atMemoryAccess
  | execute (x : CPUCore) (ran : s.atExecute = .ok x) : Point s x
  | decode (x : CPUCore) (ran : s.atDecode = .ok x) : Point s x
  | fetch (x : CPUCore) (ran : s.atFetch = .ok x) : Point s x
  | finish (x : CPUCore) (ran : s.tick = .ok x) : Point s x

theorem Point.steps {s x : CPUCore} (wellFormed : WellFormed s) (point : Point s x) :
    Steps s (control s.updateTimer) (control x) := by
  cases point with
  | interrupts => exact .refl s _
  | writeBack => exact atWriteBack_steps s
  | memoryAccess => exact atMemoryAccess_steps s
  | execute x ran => exact atExecute_steps wellFormed ran
  | decode x ran => exact atDecode_steps wellFormed ran
  | fetch x ran => exact atFetch_steps wellFormed ran
  | finish x ran =>
      unfold tick at ran
      split at ran
      · cases ran
        exact atWriteBack_steps s
      · rcases bind_eq_ok.mp ran with ⟨before, earlier, fetched⟩
        have formed := atFetch_wellFormed wellFormed earlier
        exact (atFetch_steps wellFormed earlier).trans (fetch_steps earlier (fetch_fetch formed.frontEnd.ordered fetched))

/-- Every tick is a sequence of justified events, the timer first. -/
theorem tick_explained {s t : CPUCore} (wellFormed : WellFormed s) (ran : s.tick = .ok t) :
    Explained s (control s) (control t) := by
  have timer := @Explained.single s (.timer s.memory.incrementTimer.timerInterruptPending) trivial (control s)
  have steps : Steps s (control s.updateTimer) (control t) := (Point.finish t ran).steps wellFormed
  exact timer.trans steps.explained

end Privilege
end SimpleRV
