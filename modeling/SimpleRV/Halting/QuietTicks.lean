import SimpleRV.Pipeline.Counters

namespace SimpleRV
namespace Halting

open IssueUnit CPUCore ExecutionEngine Pipeline Iteration

/-!
# Ticks without side effects

EBREAK and the all-zero word are recognised in write-back only, and the tick
goes on after it.  What the stages of such a tick do to the registers and to
memory, if nothing in them traps and no CSR is written, is settled here.
-/

/-- A tick that takes no interrupt and no trap and writes no CSR. -/
structure QuietTick (s : CPUCore) : Prop where
  noInterrupt : selectInterrupt s.updateTimer.regFile = none
  noAccessTrap : forall out, s.atMemoryAccess.memoryAccess = .ok out -> out.2 = none
  noCsr : forall lane, (s.idEx.slots.get lane).valid = true -> (s.idEx.slots.get lane).d.isCsr = false
  noTrap : forall e, s.atExecute = .ok e -> trapLane e.executeResolved.exMem = none
  noFetchFault : forall f, s.atFetch = .ok f -> ¬Exists fun found => Exists fun mem => FetchFaults f found mem

/-! ## Write-back and the running flag -/

theorem atMemoryAccess_running (s : CPUCore) :
    s.atMemoryAccess.running = (s.running && (haltLane s.memWb).isNone) := by
  rw [atMemoryAccess, writeBack_running, (atWriteBack_counters s).2, (atWriteBack_backEnd s).2]

/-- A tick that ends with the simulator running was made by a running one. -/
theorem running_of_tick {s t : CPUCore} (ticked : s.tick = .ok t) (running : t.running = true) : s.running = true := by
  cases before : s.running with
  | true => rfl
  | false =>
      unfold CPUCore.tick at ticked
      rw [if_pos (by rw [before]; rfl)] at ticked
      cases ticked
      exact before.symm.trans ((atWriteBack_counters s).2.symm.trans running)

/-- A simulator that runs has been running all along. -/
theorem running_before {start s t : CPUCore} {n k : Nat} (run : iterate CPUCore.tick n start = .ok s)
    (running : s.running = true) (earlier : k <= n) (reached : iterate CPUCore.tick k start = .ok t) :
    t.running = true := by
  induction n generalizing s with
  | zero =>
      rw [Nat.le_zero.mp earlier] at reached
      cases run
      cases reached
      exact running
  | succ n ih =>
      rcases iterate_succ.mp run with ⟨before, front, last⟩
      rcases Nat.lt_or_eq_of_le earlier with below | same
      · exact ih front (running_of_tick last running) (Nat.le_of_lt_succ below)
      · rw [same, run] at reached
        cases reached
        exact running

/-- A running simulator stops exactly if something in MEM/WB halts. -/
theorem tick_running_eq {s t : CPUCore} (formed : WellFormed s) (running : s.running = true) (ticked : s.tick = .ok t) :
    t.running = (haltLane s.memWb).isNone := by
  rw [(tick_counters formed running ticked).2, atMemoryAccess_running, running, Bool.true_and]

/-! ## A quiet tick -/

/-- Without a CSR instruction the commits flush the TLB at most. -/
theorem committed_quiet {s : CPUCore}
    (noCsr : forall lane, (s.idEx.slots.get lane).valid = true -> (s.idEx.slots.get lane).d.isCsr = false) :
    (committed s).regFile = s.regFile := by
  have engineCsr : forall lane, (s.runEngine.exMem.slots.get lane).valid = true ->
      (s.runEngine.exMem.slots.get lane).d.isCsr = false := by
    intro lane
    rcases engine_slot s.idEx s.exMem s.memWb s.regFile lane with ⟨latch, slotEq⟩
    change ((ExecutionEngine.execute s.idEx s.exMem s.memWb s.regFile).slots.get lane).valid = true ->
      ((ExecutionEngine.execute s.idEx s.exMem s.memWb s.regFile).slots.get lane).d.isCsr = false
    rw [slotEq, executedSlot_valid]
    intro valid
    unfold executedSlot ExecutionEngine.executeSlot
    rw [if_pos valid]
    have frame := executeSlotWith_frame (fun rs => getOperand rs s.memWb s.regFile latch lane)
      (s.idEx.slots.get lane) s.regFile (s.idEx.pc + BitVec.ofNat 32 (4 * lane.val)) lane
    exact frame.isCsr.trans (noCsr lane valid)
  have sfence : forall (s : CPUCore) lane, (s.commitSfenceLane lane).regFile = s.regFile := by
    intro s lane
    unfold commitSfenceLane
    simp only
    split <;> rfl
  rw [committed, sfence, sfence, commitCsrLane_quiet (engineCsr 0), commitCsrLane_quiet (engineCsr 1)]
  rfl

theorem execute_quiet {s : CPUCore}
    (noCsr : forall lane, (s.idEx.slots.get lane).valid = true -> (s.idEx.slots.get lane).d.isCsr = false)
    (noTrap : trapLane s.executeResolved.exMem = none) : s.execute.regFile = s.regFile := by
  have resolved : s.executeResolved.regFile = (committed s).regFile := by
    have resolution := executeResolved_resolution s
    generalize s.executeResolved = t at resolution
    cases resolution <;> rfl
  rw [CPUCore.execute, handleSlotTraps_none noTrap, resolved, committed_quiet noCsr]

/-- Fetch without a fault fills IF/ID and does no more. -/
theorem fetch_quiet {s t : CPUCore} (fetched : Fetch s t)
    (noFault : ¬Exists fun found => Exists fun mem => FetchFaults s found mem) :
    t.regFile = s.regFile ∧ t.memWb = s.memWb := by
  cases fetched with
  | full valid => exact ⟨rfl, rfl⟩
  | nothing mem empty same => exact ⟨rfl, rfl⟩
  | one word mem empty same => exact ⟨rfl, rfl⟩
  | pair word0 word1 mem empty same => exact ⟨rfl, rfl⟩
  | fault found mem faults => exact absurd ⟨found, mem, faults⟩ noFault
  | faultNearEnd found mem faults => exact absurd ⟨found, mem, faults⟩ noFault

/-- Whatever happens in a tick, nothing is stored behind the memory stage. -/
theorem tick_sameStorage {s e t : CPUCore} {trapped : Option (Fin 2)} (formed : WellFormed s)
    (running : s.running = true) (accessed : s.atMemoryAccess.memoryAccess = .ok (e, trapped))
    (ticked : s.tick = .ok t) : SameStorage e.memory t.memory := by
  rw [tick_running running, accessed] at ticked
  have after := memoryAccess_wellFormed (atMemoryAccess_wellFormed formed) accessed
  have issued := decodeAndIssue_wellFormed (execute_wellFormed after)
  exact (execute_sameStorage e).trans (fetch_fetch issued.frontEnd.ordered ticked).sameStorage

/-- Behind the memory stage a quiet tick leaves the register file alone too. -/
theorem QuietTick.outcome {s t : CPUCore} (quiet : QuietTick s) (formed : WellFormed s)
    (running : s.running = true) (ticked : s.tick = .ok t) : Exists fun e =>
      s.atMemoryAccess.memoryAccess = .ok (e, none) ∧ t.regFile = e.regFile ∧ t.memWb = e.memWb ∧
        SameStorage e.memory t.memory := by
  have whole := ticked
  rw [tick_running running] at ticked
  rcases bind_eq_ok.mp ticked with ⟨⟨e, trapped⟩, accessed, fetched⟩
  have notTrapped : trapped = none := quiet.noAccessTrap _ accessed
  subst notTrapped
  have before := atMemoryAccess_wellFormed formed
  have after := memoryAccess_wellFormed before accessed
  have issued := decodeAndIssue_wellFormed (execute_wellFormed after)
  have atExecute : s.atExecute = .ok e := by rw [CPUCore.atExecute, accessed]; rfl
  have atFetch := atFetch_of_atExecute atExecute
  have sameIdEx : e.idEx = s.idEx := by
    rcases memoryAccess_frame before.executedPair.oneAccess accessed with ⟨mem, memWb, eEq⟩
    rcases writeBack_frame s.atWriteBack with ⟨regFile, count, stopped, written⟩
    rw [eEq, atMemoryAccess, written, atWriteBack_quiet quiet.noInterrupt]
    rfl
  have executed : e.execute.regFile = e.regFile :=
    execute_quiet (sameIdEx ▸ quiet.noCsr) (quiet.noTrap e atExecute)
  rcases fetch_quiet (fetch_fetch issued.frontEnd.ordered fetched) (quiet.noFetchFault _ atFetch) with
    ⟨sameRegFile, sameMemWb⟩
  exact ⟨e, accessed, sameRegFile.trans executed, sameMemWb.trans (execute_memWb e),
    tick_sameStorage formed running accessed whole⟩

end Halting
end SimpleRV
