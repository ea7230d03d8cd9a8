import SimpleRV.Privilege.Escalation
import SimpleRV.Privilege.InterruptRouting
import SimpleRV.Privilege.LegalLevels

namespace SimpleRV
namespace Privilege

open CPUCore RegisterFile BitFields Pipeline Iteration

/-!
# M mode is not preempted

Every trap to M mode clears MIE, and its MRET takes back what MIE was before.
So M mode becomes interruptible by a write to `mstatus` only: by one that sets
MIE, or by one that sets MPIE for a return to M mode.  If the program makes no
such write, its M mode runs undisturbed from each entry to the return that
leaves it, through any traps of its own and whatever is pending.
-/

/-- Neither M mode nor the mode that MRET leads back to, if it is M mode, can
be interrupted. -/
structure Guarded (state : Control) : Prop where
  levels : LegalControl state
  current : state.1.privilege = PRV_M -> state.1.mstatus.getLsbD 3 = false
  saved : mppOf state.1.mstatus = PRV_M -> state.1.mstatus.getLsbD 7 = false

/-- A value of `mstatus` that leaves M mode so. -/
structure Guards (mstatus : Word) : Prop where
  level : Legal (mppOf mstatus)
  current : mstatus.getLsbD 3 = false
  saved : mppOf mstatus = PRV_M -> mstatus.getLsbD 7 = false

/-- What an event must not do. -/
def WritesGuarded : ControlEvent -> Prop
  | .csr number data => number = CSR_MSTATUS -> Guards data
  | _ => True

/-! ## Event by event -/

theorem WritesGuarded.writesLevel {event : ControlEvent} (writes : WritesGuarded event) : WritesLevel event := by
  cases event with
  | csr number data => exact fun isStatus => (writes isStatus).level
  | _ => trivial

/-- On the way to S mode the part of M mode stays as it is. -/
theorem pushedS_saved {mstatus : Word} (saved : mppOf mstatus = PRV_M -> mstatus.getLsbD 7 = false) (prv : Byte) :
    mppOf (pushedS mstatus prv) = PRV_M -> (pushedS mstatus prv).getLsbD 7 = false := by
  rw [mppOf_pushedS, getLsbD_pushedS]
  exact saved

/-- A trap from M mode saves that it could not be interrupted. -/
theorem pushedM_guards {mstatus : Word} {prv : Byte} (legal : Legal prv)
    (current : prv = PRV_M -> mstatus.getLsbD 3 = false) : Guards (pushedM mstatus prv) where
  level := by
    rw [mppOf_pushedM _ legal]
    exact legal
  current := getLsbD_pushedM mstatus prv 3
  saved := by
    rw [mppOf_pushedM _ legal]
    intro machine
    rw [getLsbD_pushedM]
    exact current machine

theorem handleTrap_guarded {regFile : RegisterFile} {pc : Addr} (guarded : Guarded (regFile, pc))
    (epc cause tval : Word) : Guarded (regFile.handleTrap epc cause tval) := by
  have levels := handleTrap_legal guarded.levels.1 guarded.levels.2 epc cause tval
  cases target : toSupervisor regFile cause with
  | true =>
      rw [handleTrap_supervisor target] at levels ⊢
      exact ⟨levels, fun impossible => absurd impossible supervisor_ne_machine, pushedS_saved guarded.saved _⟩
  | false =>
      rw [handleTrap_machine target guarded.levels.1] at levels ⊢
      have guards := pushedM_guards guarded.levels.1 guarded.current
      exact ⟨levels, fun _ => guards.current, guards.saved⟩

theorem enterInterrupt_guarded {regFile : RegisterFile} {pc : Addr} (guarded : Guarded (regFile, pc))
    (epc cause : Word) : Guarded (regFile.enterInterrupt epc cause) := by
  have levels := enterInterrupt_legal guarded.levels.1 guarded.levels.2 epc cause
  unfold enterInterrupt at levels ⊢
  simp only at levels ⊢
  split at levels
  · rename_i delegated
    rw [if_pos delegated]
    refine ⟨levels, fun impossible => absurd impossible supervisor_ne_machine, ?_⟩
    change mppOf (regFile.pushSstatus regFile.privilege).mstatus = PRV_M ->
      (regFile.pushSstatus regFile.privilege).mstatus.getLsbD 7 = false
    rw [pushSstatus_eq]
    exact pushedS_saved guarded.saved _
  · rename_i kept
    rw [if_neg kept]
    have guards := pushedM_guards guarded.levels.1 guarded.current
    have status : (regFile.pushMstatus regFile.privilege).mstatus = pushedM regFile.mstatus regFile.privilege := by
      rw [pushMstatus_eq regFile guarded.levels.1]
    refine ⟨levels, fun _ => ?_, ?_⟩
    · change (regFile.pushMstatus regFile.privilege).mstatus.getLsbD 3 = false
      rw [status]
      exact guards.current
    · change mppOf (regFile.pushMstatus regFile.privilege).mstatus = PRV_M ->
        (regFile.pushMstatus regFile.privilege).mstatus.getLsbD 7 = false
      rw [status]
      exact guards.saved

/-- A write through `sstatus` reaches neither MIE nor MPIE. -/
theorem writeCsr_guarded {regFile : RegisterFile} {pc : Addr} {number : CsrAddr} {data : Word}
    (guarded : Guarded (regFile, pc)) (guards : number = CSR_MSTATUS -> Guards data) :
    Guarded (regFile.writeCsr number data, pc) := by
  have levels := writeCsr_legal guarded.levels.1 guarded.levels.2 (fun isStatus => (guards isStatus).level)
  unfold writeCsr at levels ⊢
  split at levels
  case h_1 => exact ⟨levels, fun _ => (guards rfl).current, (guards rfl).saved⟩
  case h_12 =>
    have bit (i : Nat) : (merge regFile.mstatus data SSTATUS_MASK).getLsbD i =
        if SSTATUS_MASK.getLsbD i then data.getLsbD i else regFile.mstatus.getLsbD i :=
      getLsbD_merge regFile.mstatus data SSTATUS_MASK i
    refine ⟨levels, ?_, ?_⟩
    · intro machine
      exact (bit 3).trans (guarded.current machine)
    · intro returns
      change mppOf (merge regFile.mstatus data SSTATUS_MASK) = PRV_M at returns
      rw [mppOf_merge_sstatus] at returns
      exact (bit 7).trans (guarded.saved returns)
  all_goals exact ⟨levels, guarded.current, guarded.saved⟩

theorem apply_guarded {state : Control} {event : ControlEvent} (guarded : Guarded state)
    (writes : WritesGuarded event) : Guarded (event.apply state) := by
  have levels := apply_legal guarded.levels writes.writesLevel
  cases event with
  | timer pending =>
      cases pending with
      | true => exact ⟨levels, guarded.current, guarded.saved⟩
      | false => exact ⟨levels, guarded.current, guarded.saved⟩
  | interrupt cause => exact enterInterrupt_guarded guarded state.2 cause
  | retire gpr => exact ⟨levels, guarded.current, guarded.saved⟩
  | trap epc cause tval => exact handleTrap_guarded guarded epc cause tval
  | csr number data => exact writeCsr_guarded guarded writes
  | mret =>
      change Guarded state.1.mret
      change LegalControl state.1.mret at levels
      rw [mret_eq] at levels ⊢
      refine ⟨levels, ?_, ?_⟩
      · intro machine
        exact (getLsbD_poppedM state.1.mstatus 3).trans (guarded.saved machine)
      · change mppOf (poppedM state.1.mstatus) = PRV_M -> _
        rw [mppOf_poppedM]
        exact fun impossible => absurd impossible (by decide)
  | sret =>
      change Guarded state.1.sret
      change LegalControl state.1.sret at levels
      rw [sret_eq] at levels ⊢
      refine ⟨levels, ?_, ?_⟩
      · change (if state.1.mstatus.getLsbD 8 then PRV_S else PRV_U) = PRV_M -> _
        cases state.1.mstatus.getLsbD 8 <;> exact fun impossible => absurd impossible (by decide)
      · change mppOf (poppedS state.1.mstatus) = PRV_M -> (poppedS state.1.mstatus).getLsbD 7 = false
        rw [mppOf_poppedS, getLsbD_poppedS]
        exact guarded.saved
  | redirect target => exact ⟨levels, guarded.current, guarded.saved⟩

/-! ## Ticks -/

/-- What the execute stage of the next tick writes to `mstatus` guards M mode. -/
def KeepsGuarded (s : CPUCore) : Prop :=
  forall slot, Executes s slot -> slot.d.isCsr = true -> slot.d.csrAddr = CSR_MSTATUS -> Guards slot.csrWriteVal

theorem tick_guarded {s t : CPUCore} (wellFormed : WellFormed s) (guarded : Guarded (control s))
    (keeps : KeepsGuarded s) (ran : s.tick = .ok t) : Guarded (control t) := by
  refine (tick_explained wellFormed ran).invariant guarded ?_
  intro state event holds justified
  apply apply_guarded holds
  cases event with
  | csr number data =>
      rcases justified with ⟨slot, executes, isCsr, numberEq, dataEq⟩
      intro isStatus
      rw [← dataEq]
      exact keeps slot executes isCsr (numberEq.trans isStatus)
  | _ => trivial

/-- The timer line is no part of `mstatus`. -/
theorem updateTimer_control (s : CPUCore) : s.updateTimer.regFile.privilege = s.regFile.privilege ∧
    s.updateTimer.regFile.mstatus = s.regFile.mstatus := by
  rcases updateTimer_regFile s with ⟨mip, updated⟩
  rw [updated]
  exact ⟨rfl, rfl⟩

theorem Guarded.undisturbed {s : CPUCore} (guarded : Guarded (control s)) (machine : s.regFile.privilege = PRV_M) :
    selectInterrupt s.updateTimer.regFile = none := by
  rcases updateTimer_control s with ⟨privilege, mstatus⟩
  have disabled : hasBit s.updateTimer.regFile.mstatus MSTATUS_MIE = false := by
    rw [mstatus, hasBit_flag 3 MSTATUS_MIE_eq (by decide)]
    exact guarded.current machine
  rw [selectInterrupt_machine (privilege.trans machine), disabled]
  rfl

/-- A trap in M mode stays in M mode. -/
theorem handleTrap_inMachine {regFile : RegisterFile} (machine : regFile.privilege = PRV_M) (epc cause tval : Word) :
    (regFile.handleTrap epc cause tval).1.privilege = PRV_M := by
  have kept : toSupervisor regFile cause = false := by
    unfold toSupervisor
    rw [machine]
    exact Bool.and_false _
  rw [handleTrap_machine kept (.inr (.inr machine))]

/-- M mode is left by an interrupt or by a return. -/
theorem tick_inMachine {s t : CPUCore} (wellFormed : WellFormed s) (machine : s.regFile.privilege = PRV_M)
    (undisturbed : selectInterrupt s.updateTimer.regFile = none) (noReturn : ¬ExecutesReturn s)
    (ran : s.tick = .ok t) : t.regFile.privilege = PRV_M := by
  refine @Explained.invariant s _ _ (fun state => state.1.privilege = PRV_M) (tick_explained wellFormed ran) machine ?_
  intro state event holds justified
  cases event with
  | interrupt cause => cases undisturbed.symm.trans justified
  | trap epc cause tval => exact handleTrap_inMachine holds epc cause tval
  | timer pending => exact ((apply_privilege rfl justified state).resolve_right noReturn).trans holds
  | retire gpr => exact holds
  | csr number data => exact ((apply_privilege rfl justified state).resolve_right noReturn).trans holds
  | mret => exact ((apply_privilege rfl justified state).resolve_right noReturn).trans holds
  | sret => exact ((apply_privilege rfl justified state).resolve_right noReturn).trans holds
  | redirect target => exact holds

/-! ## Runs -/

theorem init_guarded (config : SystemConfig) (image : Addr -> Byte) (keyboard : HostKeyboard) :
    Guarded (control (init config image keyboard)) where
  levels := init_legal config image keyboard
  current _ := BitVec.getLsbD_zero
  saved _ := BitVec.getLsbD_zero

section Runs

variable {config : SystemConfig} {image : Addr -> Byte} {keyboard : HostKeyboard} {n m : Nat} {s t : CPUCore}

theorem run_guarded (run : iterate tick n (init config image keyboard) = .ok s)
    (keeps : forall k before, k < n -> iterate tick k (init config image keyboard) = .ok before ->
      KeepsGuarded before) : WellFormed s ∧ Guarded (control s) := by
  refine @iterate_conditional _ _ tick (fun s => WellFormed s ∧ Guarded (control s)) KeepsGuarded
    (init config image keyboard) ⟨init_wellFormed config image keyboard, init_guarded config image keyboard⟩ ?_ n s run
    keeps
  rintro before after ⟨formed, guarded⟩ keepsHere ran
  exact ⟨tick_wellFormed before after formed ran, tick_guarded formed guarded keepsHere ran⟩

/-- In a run in which the writes to `mstatus` guard M mode, no interrupt is
taken in M mode: from any of its states in M mode on the core stays there, and
takes none, until it executes a return. -/
theorem machine_mode_undisturbed (run : iterate tick n (init config image keyboard) = .ok s)
    (machine : s.regFile.privilege = PRV_M) (later : iterate tick m s = .ok t)
    (keeps : forall k before, k < n + m -> iterate tick k (init config image keyboard) = .ok before ->
      KeepsGuarded before)
    (noReturn : forall k before, k < m -> iterate tick k s = .ok before -> ¬ExecutesReturn before) :
    t.regFile.privilege = PRV_M ∧ selectInterrupt t.updateTimer.regFile = none := by
  have start := run_guarded run (fun k before below => keeps k before (Nat.lt_add_right m below))
  have met (k : Nat) (before : CPUCore) (below : k < m) (reached : iterate tick k s = .ok before) :
      KeepsGuarded before ∧ ¬ExecutesReturn before := by
    refine ⟨keeps (n + k) before (Nat.add_lt_add_left below n) ?_, noReturn k before below reached⟩
    rw [iterate_add, run]
    exact reached
  have last := @iterate_conditional _ _ tick
    (fun s => WellFormed s ∧ Guarded (control s) ∧ s.regFile.privilege = PRV_M)
    (fun s => KeepsGuarded s ∧ ¬ExecutesReturn s) s ⟨start.1, start.2, machine⟩ ?_ m t later met
  · exact ⟨last.2.2, last.2.1.undisturbed last.2.2⟩
  · rintro before after ⟨formed, guarded, inMachine⟩ ⟨keepsHere, returnsNot⟩ ran
    exact ⟨tick_wellFormed before after formed ran, tick_guarded formed guarded keepsHere ran,
      tick_inMachine formed inMachine (guarded.undisturbed inMachine) returnsNot ran⟩

end Runs

/-! ## A pending timer -/

instance (mstatus : Word) : Decidable (Guards mstatus) :=
  decidable_of_iff (Legal (mppOf mstatus) ∧ mstatus.getLsbD 3 = false ∧
    (mppOf mstatus = PRV_M -> mstatus.getLsbD 7 = false))
    ⟨fun fields => ⟨fields.1, fields.2.1, fields.2.2⟩, fun guards => ⟨guards.level, guards.current, guards.saved⟩⟩

/-- The comparator is set to one and the timer interrupt enabled in `mie`; then
`csrw mstatus, x4` writes MPP = M, and an ECALL traps. -/
def pendingTimer : CPUCore :=
  init .default128MB (ramImage [(0, 0x00100093#32), (4, 0x02004137#32), (8, 0x00112023#32), (12, 0x08000193#32),
    (16, 0x30419073#32), (20, 0x00002237#32), (24, 0x80020213#32), (28, 0x30021073#32), (32, 0x00000073#32)]) {}

/-- No return, and no write to `mstatus` that exposes M mode. -/
def guardedSlot (slot : PipelineSlot) : Bool :=
  decide (slot.d.isCsr = true -> slot.d.csrAddr = CSR_MSTATUS -> Guards slot.csrWriteVal) &&
    !(slot.d.isMret || slot.d.isSret)

theorem keeps_of_guardedSlot {s : CPUCore} (passed : everyExecuted guardedSlot s = true) :
    KeepsGuarded s ∧ ¬ExecutesReturn s := by
  constructor
  · intro slot executes
    exact of_decide_eq_true (Bool.and_eq_true_iff.mp (everyExecuted_sound passed executes)).1
  · rintro ⟨slot, executes, returns⟩
    have test := (Bool.and_eq_true_iff.mp (everyExecuted_sound passed executes)).2
    rcases returns with isMret | isSret
    · simp [isMret] at test
    · simp [isSret] at test

theorem machine_mode_undisturbed_pendingTimer : Exists fun s => Exists fun t =>
    iterate tick 8 pendingTimer = .ok s ∧ iterate tick 6 s = .ok t ∧ t.regFile.mcause = MCAUSE_ECALL_M ∧
      t.updateTimer.regFile.mip &&& t.updateTimer.regFile.mie = MIP_MTIP ∧ t.regFile.privilege = PRV_M ∧
        selectInterrupt t.updateTimer.regFile = none := by
  have steady : everyState tick (everyExecuted guardedSlot) 14 pendingTimer = true := by decide +kernel
  have halfway : passes (iterate tick 8 pendingTimer) (fun s => s.regFile.privilege == PRV_M &&
      passes (iterate tick 6 s) (fun t => t.regFile.mcause == MCAUSE_ECALL_M &&
        t.updateTimer.regFile.mip &&& t.updateTimer.regFile.mie == MIP_MTIP)) = true := by
    decide +kernel
  have tested (k : Nat) (u : CPUCore) (below : k < 14) (reached : iterate tick k pendingTimer = .ok u) :
      KeepsGuarded u ∧ ¬ExecutesReturn u := by
    rcases everyState_sound steady below with ⟨state, next, there, passed, _⟩
    cases there.symm.trans reached
    exact keeps_of_guardedSlot passed
  rcases exists_of_passes halfway with ⟨s, run, atHalf⟩
  rcases Bool.and_eq_true_iff.mp atHalf with ⟨machine, rest⟩
  rcases exists_of_passes rest with ⟨t, later, atEnd⟩
  rcases Bool.and_eq_true_iff.mp atEnd with ⟨cause, pending⟩
  have undisturbed := machine_mode_undisturbed run (eq_of_beq machine) later
    (fun k u below reached => (tested k u below reached).1)
    (fun k u below reached => (tested (8 + k) u (Nat.add_lt_add_left below 8)
      (by rw [iterate_add]; exact (congrArg (fun r => r.bind (iterate tick k)) run).trans reached)).2)
  exact ⟨s, t, run, later, eq_of_beq cause, eq_of_beq pending, undisturbed⟩

end Privilege
end SimpleRV
