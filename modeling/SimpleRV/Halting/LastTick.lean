import SimpleRV.Halting.PreciseHalt

namespace SimpleRV
namespace Halting

open RegisterFile IssueUnit CPUCore Memory Pipeline Refinement InFlight Iteration

/-!
# The tick that halts

The tick in which a halting word reaches write-back still runs every stage.
Only fetch looks at the running flag, so up to fetch the tick is one of the
simulation: it makes the accesses of EX/MEM and executes what is in ID/EX.
-/

/-! ## The running flag -/

/-- Another running flag and another count of instructions. -/
def relabel (running : Bool) (count : Nat) (s : CPUCore) : CPUCore :=
  { s with running := running, instrCount := count }

section Relabel

variable (running : Bool) (count : Nat) (s : CPUCore)

theorem commitCsrLane_relabel (lane : Fin 2) :
    (relabel running count s).commitCsrLane lane = relabel running count (s.commitCsrLane lane) := by
  unfold commitCsrLane
  simp only [apply_ite (relabel running count)]
  rfl

theorem commitSfenceLane_relabel (lane : Fin 2) :
    (relabel running count s).commitSfenceLane lane = relabel running count (s.commitSfenceLane lane) := by
  unfold commitSfenceLane
  simp only [apply_ite (relabel running count)]
  rfl

theorem resolveBranch_relabel : (relabel running count s).resolveBranch = relabel running count s.resolveBranch := by
  have squash : forall s, relabel running count (squashSlot1 s) = (relabel running count s).squashSlot1 := fun _ => rfl
  unfold resolveBranch
  simp only [apply_ite (relabel running count), squash]
  rfl

theorem handleSlotTraps_relabel :
    (relabel running count s).handleSlotTraps = relabel running count s.handleSlotTraps := by
  have slotTrap : forall slot slotPc, (relabel running count s).handleSlotTrap slot slotPc =
      relabel running count (s.handleSlotTrap slot slotPc) := by
    intro slot slotPc
    unfold handleSlotTrap
    simp only [apply_ite (relabel running count)]
    rfl
  have sameLane : trapLane (relabel running count s).exMem = trapLane s.exMem := rfl
  unfold handleSlotTraps
  rw [sameLane]
  cases trapLane s.exMem with
  | none => rfl
  | some lane => exact slotTrap _ _

/-- The execute stage does not look at the running flag. -/
theorem execute_relabel : (relabel running count s).execute = relabel running count s.execute := by
  have engine : (relabel running count s).runEngine = relabel running count s.runEngine := rfl
  unfold CPUCore.execute executeResolved
  simp only [engine, commitCsrLane_relabel, commitSfenceLane_relabel, resolveBranch_relabel, handleSlotTraps_relabel]

end Relabel

/-- In machine mode fetch succeeds whether the simulator runs or not. -/
theorem fetch_succeeds {s : CPUCore} (machine : s.regFile.privilege = PRV_M)
    (ordered : s.ifId.slots.s1.valid = true -> s.ifId.slots.s0.valid = true)
    (within : s.ifId.slots.s0.valid = false -> s.pc.toNat <= MEMORY_SIZE.toNat) :
    Exists fun t => s.fetch = .ok t ∧ t.regFile = s.regFile ∧ t.running = s.running ∧
      SameStorage s.memory t.memory := by
  have succeeds : Exists fun t => s.fetch = .ok t := by
    cases running : s.running with
    | true =>
        rcases fetch_machine machine running ordered within with ⟨t, fetched, _⟩
        exact ⟨t, fetched⟩
    | false =>
        unfold CPUCore.fetch
        cases valid : s.ifId.slots.s0.valid with
        | true => exact ⟨s, rfl⟩
        | false =>
            have empty1 := invalid_of_ordered ordered valid
            have pair := add_le_memorySize (within valid) (Nat.le_refl 8)
            have single := @add_le_memorySize s.pc (within valid) 4 (by decide)
            simp only [empty1, Bool.false_eq_true, if_false]
            by_cases room : s.pc + 8 <= MEMORY_SIZE
            · rw [if_pos room]
              rcases fetchPair_machine machine valid (pair.mp room) with ⟨t, fetched, _⟩
              exact ⟨t, fetched⟩
            · rw [if_neg room]
              by_cases oneWord : s.pc + 4 <= MEMORY_SIZE
              · rw [if_pos oneWord]
                rcases read_word s.memory (single.mp oneWord) with ⟨word, mem, readOk, _, _⟩
                unfold fetchSingle fetchInstr translateFetch
                simp only [machine, translate_machine, bind, Except.bind, Bool.false_eq_true, if_false, readOk, pure,
                  Except.pure, running, Bool.not_false, if_true]
                exact ⟨_, rfl⟩
              · rw [if_neg oneWord]
                exact ⟨s, rfl⟩
  rcases succeeds with ⟨t, fetched⟩
  have outcome := fetch_fetch ordered fetched
  have noFault : ¬Exists fun found => Exists fun mem => FetchFaults s found mem := by
    rintro ⟨found, mem, faults⟩
    have translated := faults.translated
    rw [translateFetch, machine, translate_machine] at translated
    cases translated
    exact absurd faults.faulted Bool.false_ne_true
  exact ⟨t, fetched, (fetch_quiet outcome noFault).1, outcome.counters.2, outcome.sameStorage⟩

/-! ## The last tick of the simulation -/

section Path

variable {path : Nat -> SeqState} {length : Nat}

/-- Registers, CSRs, RAM and UART output after the tick that halts. -/
structure Halted (path : Nat -> SeqState) (t u : CPUCore) (accessed executed following : Nat) : Prop where
  running : u.running = false
  gpr : u.regFile.gpr = (path accessed).regFile.gpr
  csrs : SameCsrs (path following).regFile u.regFile
  memory : u.memory.memory = (path executed).memory.memory
  uartOutput : u.memory.uartOutput = t.memory.uartOutput

/-- The memory stage of the tick, for a simulator that has just been stopped. -/
theorem atExecute_halting {t : CPUCore} {retired accessed executed : Nat}
    (sim : Simulates path length t retired accessed executed) (good : Followable path length)
    (within : executed <= length) : Exists fun e => t.atExecute = .ok e ∧
      AtExecute path length (relabel true accessed e) accessed executed ∧
      e.running = t.atMemoryAccess.running ∧ e.memory.uartOutput = t.memory.uartOutput := by
  have back := sim.backEnd
  have none := (good.noInterrupts executed within).sameCsrs back.csrs
  rcases atWriteBack_machine none with ⟨memory, mip, atWb, sameRam, sameUart⟩
  rcases writeBack_frame t.atWriteBack with ⟨regFile, count, stopped, written⟩
  have regFileEq : regFile = writtenBack { t.regFile with mip := mip } t.memWb := by
    have wrote := writeBack_regFile t.atWriteBack
    rw [written, atWb] at wrote
    exact wrote
  have atMem : t.atMemoryAccess =
      { t with memory := memory, regFile := regFile, instrCount := count, running := stopped } := by
    rw [CPUCore.atMemoryAccess, written, atWb]
  have csrs : SameCsrs (path executed).regFile regFile := by
    rw [regFileEq]
    exact back.csrs.trans ⟨_, mip, rfl⟩
  have gpr : regFile.gpr = (path accessed).regFile.gpr := by
    rw [regFileEq]
    exact back.toWrite
  have machine : regFile.privilege = PRV_M := csrs.privilege.trans (good.noInterrupts executed within).machine
  rcases @memoryAccess_machine t.atMemoryAccess (by rw [atMem]; exact machine)
      (by rw [atMem]; exact sim.formed.executedPair.oneAccess) (by rw [atMem]; exact back.canAccess) with
    ⟨mem, accessOk, storedRam, uart⟩
  have ran : t.atExecute = .ok { t.atMemoryAccess with
      memory := mem
      memWb := movedLatch t.atMemoryAccess.exMem t.atMemoryAccess.memory.memory } := by
    rw [CPUCore.atExecute, accessOk]
    rfl
  have formed := atExecute_wellFormed sim.formed ran
  have performed : pending t.exMem ⟨regFile.gpr, memory.memory⟩ = (path executed).data := by
    rw [gpr, sameRam, back.stored]
    exact back.toAccess
  rw [atMem] at ran storedRam formed uart
  refine ⟨_, ran, ⟨⟨formed.frontEnd, formed.executedPair, formed.retiringPair⟩, rfl, csrs, gpr, ?_, ?_,
    ⟨memory.memory, rfl⟩, back.inMem.moved _, sim.front, fun _ => rfl⟩, by rw [atMem], uart.trans sameUart⟩
  · exact (pending_gpr t.exMem ⟨regFile.gpr, memory.memory⟩).symm.trans (congrArg DataState.gpr performed)
  · exact (storedRam regFile.gpr).symm.trans (congrArg DataState.ram performed)

/-- The tick that halts succeeds, and the core shows the path behind MEM/WB. -/
theorem halting_tick {t : CPUCore} {retired accessed executed : Nat}
    (sim : Simulates path length t retired accessed executed) (good : Followable path length)
    (room : executed + 3 < length) (halts : (haltLane t.memWb).isSome = true) :
    Exists fun u => Exists fun following =>
      t.tick = .ok u ∧ executed <= following ∧ following <= executed + 2 ∧
        Halted path t u accessed executed following := by
  rcases atExecute_halting sim good (by omega) with ⟨e, accessOk, ready, sameRunning, uart⟩
  rcases ready.execute good (by omega) with ⟨count, atMost, decoding, _⟩
  have fetching := decoding.decodeAndIssue good (by omega)
  have same : (relabel true accessed e).execute.decodeAndIssue = relabel true accessed e.execute.decodeAndIssue := by
    rw [execute_relabel]
    rfl
  rw [same] at fetching
  have back := fetching.backEnd
  have machine : e.execute.decodeAndIssue.regFile.privilege = PRV_M :=
    back.csrs.privilege.trans (good.noInterrupts (executed + count) (by omega)).machine
  rcases fetch_succeeds machine fetching.formed.frontEnd.ordered fetching.front.within with
    ⟨u, fetched, regFile, running, storage⟩
  have ticked : t.tick = .ok u := (tick_of_atExecute sim.running accessOk).trans fetched
  have stored : SameStorage e.memory e.execute.decodeAndIssue.memory := execute_sameStorage e
  refine ⟨u, executed + count, ticked, Nat.le_add_right _ _, by omega, ?_, ?_, ?_, ?_, ?_⟩
  · rw [tick_running_eq sim.formed sim.running ticked, Option.isNone_eq_false_iff]
    exact halts
  · rw [regFile]
    exact back.written
  · rw [regFile]
    exact back.csrs
  · rw [storage.memory]
    exact back.stored
  · rw [storage.uartOutput, stored.uartOutput, uart]

end Path

end Halting
end SimpleRV
