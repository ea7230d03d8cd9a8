import SimpleRV.Pipeline.AccessAddress
import SimpleRV.Privilege.InterruptRouting
import SimpleRV.Traps.Interrupts

namespace SimpleRV
namespace Traps

open CPUCore RegisterFile Pipeline Privilege Iteration

/-!
# An interrupt over an older access

`checkAndHandleInterrupts` switches the privilege at the start of a tick, and
the memory stage of the same tick translates with the privilege that it finds
then.  So a load or a store that was executed before the interrupt is accessed
after it.  If it traps, the trap is taken in the handler that the interrupt has
just entered, and what it records is the state of that handler.
-/

/-! ## The two ticks -/

/-- Privilege of the handler, previous privilege and enable, and address that
the last trap has recorded. -/
def trapRecord (regFile : RegisterFile) : Byte × Byte × Bool × Addr :=
  if regFile.privilege = PRV_S then
    (PRV_S, if hasBit regFile.mstatus MSTATUS_SPP then PRV_S else PRV_U, hasBit regFile.mstatus MSTATUS_SPIE,
      regFile.sepc)
  else
    (regFile.privilege, mppOf regFile.mstatus, hasBit regFile.mstatus MSTATUS_MPIE, regFile.mepc)

/-- The interrupt enables of the two modes. -/
def enables (regFile : RegisterFile) : Bool × Bool :=
  (hasBit regFile.mstatus MSTATUS_MIE, hasBit regFile.mstatus MSTATUS_SIE)

/-- A trap taken in the tick of an interrupt, against the same trap without the
interrupt and the registers before both. -/
structure RecordsInterrupted (before trapped uninterrupted : RegisterFile) : Prop where
  record : trapRecord trapped = trapRecord uninterrupted
  /-- Its return leads back to the interrupted state. -/
  privilege : (handlerReturn trapped).1.privilege = before.privilege
  enable : enables (handlerReturn trapped).1 = enables before

/-- The core before the memory stage of a tick, had no interrupt been taken. -/
def uninterrupted (s : CPUCore) : CPUCore := s.updateTimer.writeBack

/-- The access of a lane of EX/MEM takes no notice of the interrupt. -/
structure Undisturbed (s : CPUCore) (lane : Fin 2) : Prop where
  address : accessAddress s.atMemoryAccess lane s.atMemoryAccess.regFile.privilege =
    accessAddress (uninterrupted s) lane (uninterrupted s).regFile.privilege
  outcome : s.atMemoryAccess.memoryAccess.map observed = (uninterrupted s).memoryAccess.map observed
  record : forall t, s.atMemoryAccess.memoryAccess = .ok (t, some lane) ->
    Exists fun u => (uninterrupted s).memoryAccess = .ok (u, some lane) ∧
      RecordsInterrupted (uninterrupted s).regFile t.regFile u.regFile

/-- When it is so: the access takes no trap at the privilege before the
interrupt, and if the interrupt leads from M to S mode, the page tables map its
address to itself. -/
structure OutOfReach (s : CPUCore) (cause : Word) (lane : Fin 2) : Prop where
  noTrap : forall fault, accessAddress s.updateTimer lane s.updateTimer.regFile.privilege ≠ .ok (.trap fault)
  identity : s.updateTimer.regFile.privilege = PRV_M -> s.updateTimer.regFile.interruptDelegated cause = true ->
    accessAddress s.updateTimer lane PRV_S = .ok (.done (s.exMem.memAddr.get lane))

/-! ## Entering a handler -/

/-- The privilege, the enables and `satp` of a handler that an interrupt enters. -/
theorem enterInterrupt_frame (regFile : RegisterFile) (pc cause : Word) :
    (regFile.enterInterrupt pc cause).1.satp = regFile.satp ∧
      (regFile.enterInterrupt pc cause).1.privilege =
        (if regFile.interruptDelegated cause || regFile.privilege != PRV_M then PRV_S else PRV_M) := by
  unfold enterInterrupt
  simp only
  split
  · exact ⟨rfl, rfl⟩
  · exact ⟨rfl, rfl⟩

/-- An interrupt is taken with the enable of its mode set. -/
theorem selectInterrupt_enabled {regFile : RegisterFile} {cause : Word}
    (selected : selectInterrupt regFile = some cause) :
    (if regFile.privilege = PRV_M then hasBit regFile.mstatus MSTATUS_MIE
      else hasBit regFile.mstatus MSTATUS_SIE) = true := by
  by_cases machine : regFile.privilege = PRV_M
  · rw [selectInterrupt_machine machine] at selected
    rw [if_pos machine]
    cases enabled : hasBit regFile.mstatus MSTATUS_MIE with
    | true => rfl
    | false =>
        rw [enabled] at selected
        cases selected
  · rw [selectInterrupt_lower machine] at selected
    rw [if_neg machine]
    cases enabled : hasBit regFile.mstatus MSTATUS_SIE with
    | true => rfl
    | false =>
        rw [enabled] at selected
        cases selected

/-- In the handler the mode or the enable is not the interrupted one. -/
theorem enterInterrupt_ne {regFile : RegisterFile} {cause : Word} (selected : selectInterrupt regFile = some cause)
    (pc : Word) (samePrivilege : (regFile.enterInterrupt pc cause).1.privilege = regFile.privilege) :
    enables (regFile.enterInterrupt pc cause).1 ≠ enables regFile := by
  have enabled := selectInterrupt_enabled selected
  rw [(enterInterrupt_frame regFile pc cause).2] at samePrivilege
  intro same
  unfold enterInterrupt at same
  simp only at same
  split at same
  · rename_i toSupervisor
    rw [if_pos toSupervisor] at samePrivilege
    rw [← samePrivilege, if_neg (by decide)] at enabled
    -- from S mode to S mode, with SIE cleared
    have cleared : hasBit (regFile.pushSstatus regFile.privilege).mstatus MSTATUS_SIE = false := by
      rw [pushSstatus_eq, hasBit_flag 1 MSTATUS_SIE_eq (by decide)]
      exact getLsbD_pushedS _ _ 1
    exact absurd (cleared.symm.trans ((congrArg Prod.snd same).trans enabled)) Bool.false_ne_true
  · rename_i toMachine
    rw [if_neg toMachine] at samePrivilege
    rw [← samePrivilege, if_pos rfl] at enabled
    -- from M mode to M mode, with MIE cleared
    have cleared : hasBit (regFile.pushMstatus regFile.privilege).mstatus MSTATUS_MIE = false := by
      rw [pushMstatus_eq regFile (.inr (.inr samePrivilege.symm)), hasBit_flag 3 MSTATUS_MIE_eq (by decide)]
      exact getLsbD_pushedM _ _ 3
    exact absurd (cleared.symm.trans ((congrArg Prod.fst same).trans enabled)) Bool.false_ne_true

theorem traceOfTrap_enables (regFile : RegisterFile) (epc cause tval : Word) :
    enables (traceOfTrap regFile epc cause tval) = enables regFile := by
  unfold enables
  simp only [hasBit_flag 1 MSTATUS_SIE_eq (by decide), hasBit_flag 3 MSTATUS_MIE_eq (by decide)]
  unfold traceOfTrap
  split
  · simp [MSTATUS_SPIE_eq, MSTATUS_SPP_eq]
  · simp [MSTATUS_MPIE_eq, MSTATUS_MPP_eq]

/-- The return of a trap, taken at once, leads back to the state before it. -/
theorem handlerReturn_handleTrap {regFile : RegisterFile} (legal : Legal regFile.privilege) (epc cause tval : Word) :
    (handlerReturn (regFile.handleTrap epc cause tval).1).1 = traceOfTrap regFile epc cause tval := by
  have returned := congrArg Prod.fst (trap_then_return legal epc cause tval)
  unfold handlerReturn
  cases delegated : toSupervisor regFile cause with
  | true =>
      have supervisor : (regFile.handleTrap epc cause tval).1.privilege = PRV_S := by
        rw [handleTrap_supervisor delegated]
      rw [delegated, if_pos rfl] at returned
      rw [if_pos supervisor]
      exact returned
  | false =>
      have machine : (regFile.handleTrap epc cause tval).1.privilege ≠ PRV_S := by
        rw [handleTrap_machine delegated legal]
        exact supervisor_ne_machine.symm
      rw [delegated, if_neg Bool.false_ne_true] at returned
      rw [if_neg machine]
      exact returned

/-- A trap in the tick of the interrupt never records the interrupted state. -/
theorem not_recordsInterrupted {regFile : RegisterFile} {cause : Word}
    (selected : selectInterrupt regFile = some cause) {pc epc trapCause tval : Word} {before handler : RegisterFile}
    (beforeEq : before.mstatus = regFile.mstatus ∧ before.privilege = regFile.privilege)
    (handlerEq : handler.mstatus = (regFile.enterInterrupt pc cause).1.mstatus ∧
      handler.privilege = (regFile.enterInterrupt pc cause).1.privilege) (other : RegisterFile) :
    ¬RecordsInterrupted before (handler.handleTrap epc trapCause tval).1 other := by
  intro records
  have legal : Legal handler.privilege := by
    rw [handlerEq.2, (enterInterrupt_frame regFile pc cause).2]
    split
    · exact .inr (.inl rfl)
    · exact .inr (.inr rfl)
  have privilege := records.privilege
  have enable := records.enable
  rw [handlerReturn_handleTrap legal] at privilege enable
  rw [traceOfTrap_privilege, handlerEq.2, beforeEq.2] at privilege
  rw [traceOfTrap_enables] at enable
  refine enterInterrupt_ne selected pc privilege ?_
  unfold enables at enable ⊢
  rw [← handlerEq.1, ← beforeEq.1]
  exact enable

/-! ## The core in the two ticks -/

/-- The cores of the two ticks before the memory stage differ in the registers
that the interrupt has changed, and in the front end. -/
theorem uninterrupted_frame (s : CPUCore) : (uninterrupted s).exMem = s.exMem ∧
    (uninterrupted s).memory = s.updateTimer.memory ∧
    Exists fun gpr => (uninterrupted s).regFile = { s.updateTimer.regFile with gpr := gpr } := by
  rcases writeBack_frame s.updateTimer with ⟨regFile, count, running, frame⟩
  have registers := writeBack_regFile s.updateTimer
  unfold uninterrupted
  refine ⟨by rw [frame]; rfl, by rw [frame], _, registers⟩

theorem atMemoryAccess_frame {s : CPUCore} {cause : Word}
    (selected : selectInterrupt s.updateTimer.regFile = some cause) : s.atMemoryAccess.exMem = s.exMem ∧
    s.atMemoryAccess.memory = s.updateTimer.memory ∧
    Exists fun gpr => s.atMemoryAccess.regFile =
      { (s.updateTimer.regFile.enterInterrupt s.updateTimer.pc cause).1 with gpr := gpr } := by
  have entered : s.atWriteBack.regFile = (s.updateTimer.regFile.enterInterrupt s.updateTimer.pc cause).1 ∧
      s.atWriteBack.memory = s.updateTimer.memory := by
    unfold atWriteBack checkAndHandleInterrupts
    rw [selected]
    exact ⟨rfl, rfl⟩
  rcases writeBack_frame s.atWriteBack with ⟨regFile, count, running, frame⟩
  have registers := writeBack_regFile s.atWriteBack
  rw [entered.1] at registers
  refine ⟨(atMemoryAccess_backEnd s).1, ?_, _, registers⟩
  rw [← entered.2, atMemoryAccess, frame]

/-! ## The access -/

/-- Interrupt entry leaves the address to the privilege of the handler. -/
theorem atMemoryAccess_address {s : CPUCore} {cause : Word}
    (selected : selectInterrupt s.updateTimer.regFile = some cause) (lane : Fin 2) :
    accessAddress s.atMemoryAccess lane s.atMemoryAccess.regFile.privilege = accessAddress s.updateTimer lane
      (s.updateTimer.regFile.enterInterrupt s.updateTimer.pc cause).1.privilege := by
  rcases atMemoryAccess_frame selected with ⟨latch, memory, gpr, registers⟩
  have satp : s.atMemoryAccess.regFile.satp = s.updateTimer.regFile.satp := by
    rw [registers]
    exact (enterInterrupt_frame _ _ _).1
  have privilege : s.atMemoryAccess.regFile.privilege =
      (s.updateTimer.regFile.enterInterrupt s.updateTimer.pc cause).1.privilege := by
    rw [registers]
  rw [privilege]
  exact @accessAddress_congr s.updateTimer s.atMemoryAccess latch memory satp lane _

theorem uninterrupted_address (s : CPUCore) (lane : Fin 2) :
    accessAddress (uninterrupted s) lane (uninterrupted s).regFile.privilege =
      accessAddress s.updateTimer lane s.updateTimer.regFile.privilege := by
  rcases uninterrupted_frame s with ⟨latch, memory, gpr, registers⟩
  have satp : (uninterrupted s).regFile.satp = s.updateTimer.regFile.satp := by rw [registers]
  have privilege : (uninterrupted s).regFile.privilege = s.updateTimer.regFile.privilege := by rw [registers]
  rw [privilege]
  exact @accessAddress_congr s.updateTimer (uninterrupted s) latch memory satp lane _

/-- An access that takes no trap before the interrupt keeps its address, but
for one in M mode that the interrupt hands over to the page tables. -/
theorem interrupted_address_iff {u : CPUCore} {lane : Fin 2}
    (noTrap : forall fault, accessAddress u lane u.regFile.privilege ≠ .ok (.trap fault)) (pc cause : Word) :
    accessAddress u lane (u.regFile.enterInterrupt pc cause).1.privilege =
        accessAddress u lane u.regFile.privilege ↔
      (u.regFile.privilege = PRV_M -> u.regFile.interruptDelegated cause = true ->
        accessAddress u lane PRV_S = .ok (.done (u.exMem.memAddr.get lane))) := by
  rw [(enterInterrupt_frame u.regFile pc cause).2]
  by_cases machine : u.regFile.privilege = PRV_M
  · rw [machine] at noTrap ⊢
    rw [accessAddress_machine noTrap, bne_self_eq_false, Bool.or_false]
    cases delegated : u.regFile.interruptDelegated cause with
    | true =>
        rw [if_pos rfl]
        constructor
        · intro same _ _
          exact same
        · intro mapped
          exact mapped rfl rfl
    | false =>
        rw [if_neg Bool.false_ne_true, accessAddress_machine noTrap]
        constructor
        · intro _ _ impossible
          exact absurd impossible Bool.false_ne_true
        · intro _
          rfl
  · rw [bne_iff_ne.mpr machine, Bool.or_true, if_pos rfl]
    rcases accessAddress_privilege u lane machine with ⟨fault, trapped⟩ | same
    · exact absurd trapped (noTrap fault)
    · exact ⟨fun _ impossible => absurd impossible machine, fun _ => same⟩

/-- In every reachable state whose tick takes an interrupt over a load or a
store in EX/MEM, the access is undisturbed exactly if it takes no trap and the
interrupt does not hand its address over to a page table that moves it. -/
theorem interrupted_access_iff {s : CPUCore} {lane : Fin 2} {cause : Word} (reachable : Reachable s)
    (selected : selectInterrupt s.updateTimer.regFile = some cause)
    (valid : (s.exMem.slots.get lane).valid = true)
    (accesses : s.exMem.memRead.get lane = true ∨ s.exMem.memWrite.get lane = true) :
    Undisturbed s lane ↔ OutOfReach s cause lane := by
  have pair := (atMemoryAccess_wellFormed reachable.wellFormed).executedPair.toEnginePair
  rcases atMemoryAccess_frame selected with ⟨latch, memory, gpr, registers⟩
  rcases uninterrupted_frame s with ⟨plainLatch, plainMemory, plainGpr, plainRegisters⟩
  rw [latch] at pair
  have here := atMemoryAccess_address selected lane
  have plain := uninterrupted_address s lane
  have stage := @memoryAccess_trap_iff s.atMemoryAccess lane (latch ▸ pair) (latch ▸ valid) (latch ▸ accesses)
  constructor
  · intro undisturbed
    have address := undisturbed.address
    rw [here, plain] at address
    have noTrap : forall fault,
        accessAddress s.updateTimer lane s.updateTimer.regFile.privilege ≠ .ok (.trap fault) := by
      intro fault trapped
      rw [here, address] at stage
      rcases stage.mpr ⟨fault, trapped⟩ with ⟨t, ran⟩
      rcases undisturbed.record t ran with ⟨u, _, records⟩
      rcases memoryAccess_trap (latch ▸ pair.oneAccess) ran with ⟨older, _, _, ⟨sameRegisters, _⟩, _, _, outcome⟩
      rcases outcome.trap with ⟨_, _, _, ⟨faultPc, trapCause, tval, trapRegisters⟩, _⟩
      rw [trapRegisters, sameRegisters] at records
      exact not_recordsInterrupted selected ⟨by rw [plainRegisters], by rw [plainRegisters]⟩
        ⟨by rw [registers], by rw [registers]⟩ u.regFile records
    exact ⟨noTrap, (interrupted_address_iff noTrap s.updateTimer.pc cause).mp address⟩
  · intro reach
    have address : accessAddress s.atMemoryAccess lane s.atMemoryAccess.regFile.privilege =
        accessAddress (uninterrupted s) lane (uninterrupted s).regFile.privilege := by
      rw [here, plain]
      exact (interrupted_address_iff reach.noTrap s.updateTimer.pc cause).mpr reach.identity
    refine ⟨address, ?_, ?_⟩
    · rw [← plainLatch] at pair valid accesses
      exact memoryAccess_agree pair valid accesses (latch.trans plainLatch.symm) (memory.trans plainMemory.symm)
        address
    · intro t ran
      rcases stage.mp ⟨t, ran⟩ with ⟨fault, trapped⟩
      rw [address, plain] at trapped
      exact absurd trapped (reach.noTrap fault)

/-! ## Two runs

A program that turns paging on with an empty root table, enables the timer
interrupt, and sets `mtimecmp` right before a load. -/

/-- The word at 8 may delegate the timer interrupt. -/
def timerOverLoad (delegate : Word) : List (Addr × Word) :=
  [(0, 0x08000093#32), (4, 0x30409073#32), (8, delegate), (12, 0x80000337#32), (16, 0x00130313#32),
    (20, 0x18031073#32), (24, 0x02004137#32), (28, 0x00100193#32), (32, 0x30046073#32), (36, 0x00312023#32),
    (40, 0x00802283#32)]

/-- The core of that program, and whether its next tick takes the timer
interrupt with the load in EX/MEM. -/
def atTimer (delegate : Word) (ticks : Nat) : Except Crash CPUCore :=
  iterate tick ticks (init .default128MB (ramImage (timerOverLoad delegate)) {})

def interruptsLoad (s : CPUCore) : Bool :=
  selectInterrupt s.updateTimer.regFile == some MCAUSE_TIMER_INT && s.exMem.slots.s0.valid && s.exMem.memRead.s0

theorem exists_of_atTimer {delegate : Word} {ticks : Nat} {test : CPUCore -> Bool}
    (passed : passes (atTimer delegate ticks) (fun s => interruptsLoad s && test s) = true) :
    Exists fun s => Reachable s ∧ selectInterrupt s.updateTimer.regFile = some MCAUSE_TIMER_INT ∧
      ((s.exMem.slots.get 0).valid = true ∧ s.exMem.memRead.get 0 = true) ∧ test s = true := by
  rcases exists_of_passes passed with ⟨s, run, tests⟩
  simp only [interruptsLoad, Bool.and_eq_true, beq_iff_eq] at tests
  exact ⟨s, ⟨_, _, _, ticks, run⟩, tests.1.1.1, ⟨tests.1.1.2, tests.1.2⟩, tests.2⟩

/-- Not delegated, the interrupt stays in M mode, and the load is as before. -/
theorem interrupted_access_iff_machine : Exists fun s => Reachable s ∧
    selectInterrupt s.updateTimer.regFile = some MCAUSE_TIMER_INT ∧
      ((s.exMem.slots.get 0).valid = true ∧ s.exMem.memRead.get 0 = true) ∧ Undisturbed s 0 := by
  have passed : passes (atTimer 0x00000013#32 11) (fun s => interruptsLoad s &&
      (decide (s.updateTimer.regFile.privilege = PRV_M) &&
        !s.updateTimer.regFile.interruptDelegated MCAUSE_TIMER_INT &&
          !misaligned (s.exMem.memAddr.get 0) (accessWidth s.exMem 0))) = true := by
    decide +kernel
  rcases exists_of_atTimer passed with ⟨s, reachable, selected, load, test⟩
  simp only [Bool.and_eq_true, decide_eq_true_eq, Bool.not_eq_true'] at test
  rcases test with ⟨⟨machine, kept⟩, aligned⟩
  refine ⟨s, reachable, selected, load, ?_⟩
  refine (interrupted_access_iff reachable selected load.1 (.inl load.2)).mpr ⟨?_, ?_⟩
  · intro fault trapped
    rw [machine, @accessAddress_aligned s.updateTimer 0 aligned] at trapped
    cases trapped
  · intro _ delegated
    exact absurd delegated (ne_true_of_eq_false kept)

/-- Delegated, the interrupt takes the core from M to S mode, and the load that
was executed before it takes a page fault there. -/
theorem interrupt_faults_older_load : Exists fun s => Reachable s ∧
    selectInterrupt s.updateTimer.regFile = some MCAUSE_TIMER_INT ∧
      ((s.exMem.slots.get 0).valid = true ∧ s.exMem.memRead.get 0 = true) ∧
      (Exists fun t => s.atMemoryAccess.memoryAccess = .ok (t, some 0) ∧
        t.regFile.mcause = MCAUSE_LOAD_PAGE_FAULT) ∧
      (Exists fun u => (uninterrupted s).memoryAccess = .ok (u, none)) ∧ ¬Undisturbed s 0 := by
  have passed : passes (atTimer 0x30309073#32 12) (fun s => interruptsLoad s &&
      (passes s.atMemoryAccess.memoryAccess (fun out =>
          out.2 == some 0 && decide (out.1.regFile.mcause = MCAUSE_LOAD_PAGE_FAULT)) &&
        passes (uninterrupted s).memoryAccess (fun out => out.2 == none))) = true := by
    decide +kernel
  rcases exists_of_atTimer passed with ⟨s, reachable, selected, load, test⟩
  rcases Bool.and_eq_true_iff.mp test with ⟨faults, loads⟩
  rcases exists_of_passes faults with ⟨⟨t, lane⟩, ran, inLane0⟩
  rcases exists_of_passes loads with ⟨⟨u, trapped⟩, plainRan, quiet⟩
  simp only [Bool.and_eq_true, beq_iff_eq, decide_eq_true_eq] at inLane0 quiet
  rw [inLane0.1] at ran
  rw [quiet] at plainRan
  refine ⟨s, reachable, selected, load, ⟨t, ran, inLane0.2⟩, ⟨u, plainRan⟩, fun undisturbed => ?_⟩
  rcases undisturbed.record t ran with ⟨other, otherRan, _⟩
  cases plainRan.symm.trans otherRan

end Traps
end SimpleRV
