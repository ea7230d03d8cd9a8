import SimpleRV.Pipeline.Counters
import SimpleRV.Refinement.SimulationTick

namespace SimpleRV
namespace Refinement

open RegisterFile IssueUnit CPUCore Pipeline InFlight Iteration

/-!
# Programs without system instructions

The pipeline refines the sequential machine: as long as the path consists of
ordinary instructions, every state of the pipeline shows the registers of the
sequential machine after as many instructions as have been retired.
-/

/-- The first `length` instructions of a path are RV32I instructions outside the
SYSTEM opcode, at pcs in RAM outside the CLINT with room for a pair.  Branches
point into RAM, accesses are aligned and in RAM outside the CLINT, and no store
overwrites one of these instructions.  Theorems about such a path start it in
M mode with MIE clear. -/
structure OrdinaryPath (path : Nat -> SeqState) (length : Nat) : Prop where
  steps : forall i, i < length -> (path i).step = .ok (path (i + 1))
  ordinary : forall i, i < length -> (path i).Ordinary
  inBounds : forall i, i < length -> (path i).InBounds
  codeKept : CodeKept path length

variable {path : Nat -> SeqState} {length : Nat}

/-- Ordinary instructions leave the CSRs alone. -/
theorem OrdinaryPath.csrs (ordinary : OrdinaryPath path length) (machine : (path 0).regFile.privilege = PRV_M)
    {i : Nat} (within : i <= length) : SameCsrs (path 0).regFile (path i).regFile := by
  induction i with
  | zero => exact .refl _
  | succ i ih =>
      have before := ih (Nat.le_of_succ_le within)
      have plain := plain_of_ordinary (ordinary.ordinary i within)
      have completes := step_completes (before.privilege.trans machine) (ordinary.inBounds i within).access plain.quiet
        (ordinary.steps i within)
      have same := completes.csrs
      rw [if_neg (show ¬(path i).slot.d.isCsr = true from plain.noCsr ▸ Bool.false_ne_true)] at same
      exact before.trans same

theorem OrdinaryPath.followable (ordinary : OrdinaryPath path length)
    (machine : (path 0).regFile.privilege = PRV_M)
    (disabled : hasBit (path 0).regFile.mstatus MSTATUS_MIE = false) : Followable path length where
  steps := ordinary.steps
  allowed i below := .inl (ordinary.ordinary i below)
  inBounds := ordinary.inBounds
  codeKept := ordinary.codeKept
  noInterrupts _ within :=
    NoInterrupts.sameCsrs ⟨machine, .inl disabled⟩ (ordinary.csrs machine within)

theorem occupied_le (slots : Dual PipelineSlot) : occupied slots <= 2 := by
  unfold occupied
  split <;> split <;> decide

/-- Every state of a run that has not retired too much is simulated. -/
theorem run_simulates {N : Nat} (good : Followable path (N + 8)) (noTraps : NoTraps path (N + 8))
    (continues : forall i, i < N + 8 -> isHalt (path i).instr = false) {n : Nat} {s : CPUCore}
    (run : iterate tick n (startCore (path 0)) = .ok s) (within : s.instrCount <= N) :
    Exists fun accessed => Exists fun executed =>
      Simulates path (N + 8) s s.instrCount accessed executed ∧ accessed = s.instrCount + occupied s.memWb.slots ∧
        executed <= N + 4 := by
  have counted : forall {s : CPUCore} {retired accessed executed : Nat},
      Simulates path (N + 8) s retired accessed executed -> s.instrCount <= N ->
      Exists fun accessed => Exists fun executed =>
        Simulates path (N + 8) s s.instrCount accessed executed ∧ accessed = s.instrCount + occupied s.memWb.slots ∧
          executed <= N + 4 := by
    intro s retired accessed executed sim within
    have retiredEq := sim.counted noTraps
    have accessedEq := sim.backEnd.inWb.counted noTraps
    have executedEq := sim.backEnd.inMem.counted noTraps
    have inWb := occupied_le s.memWb.slots
    have inMem := occupied_le s.exMem.slots
    rw [← retiredEq] at sim accessedEq
    exact ⟨accessed, executed, sim, accessedEq, by omega⟩
  induction n generalizing s with
  | zero =>
      cases run
      exact counted (startCore_simulates path (N + 8)) within
  | succ n ih =>
      rcases iterate_succ.mp run with ⟨before, earlier, last⟩
      have reached : Reaches tick (startCore (path 0)) before := ⟨n, earlier⟩
      have formed := reached.invariant (startCore_simulates path (N + 8)).formed tick_wellFormed
      have withinBefore := Nat.le_trans (tick_instrCount formed last) within
      rcases ih earlier withinBefore with ⟨accessed, executed, sim, _, bound⟩
      rcases sim.tick good (by omega) (sim.noHalt continues (by omega)) with ⟨_, t, count, _, ticked, _, after, _⟩
      cases last.symm.trans ticked
      exact counted after within

/-- The pipeline refines the unpipelined machine.  After every tick that has
retired at most `N` instructions the registers are those of the sequential
machine after exactly that many instructions, RAM is that of the sequential
machine after the instructions in MEM/WB too, and the simulator goes on. -/
theorem pipeline_refines_sequential {N : Nat} (machine : (path 0).regFile.privilege = PRV_M)
    (disabled : hasBit (path 0).regFile.mstatus MSTATUS_MIE = false) (ordinary : OrdinaryPath path (N + 8))
    {n : Nat} {s : CPUCore} (run : iterate tick n (startCore (path 0)) = .ok s) (within : s.instrCount <= N) :
    s.regFile.gpr = (path s.instrCount).regFile.gpr ∧
      s.memory.memory = (path (s.instrCount + occupied s.memWb.slots)).memory.memory ∧
      s.running = true ∧ Exists fun next => s.tick = .ok next := by
  have good := ordinary.followable machine disabled
  have noTraps : NoTraps path (N + 8) := fun i below => (plain_of_ordinary (ordinary.ordinary i below)).quiet
  have continues := fun i below => (plain_of_ordinary (ordinary.ordinary i below)).noHalt
  rcases run_simulates good noTraps continues run within with ⟨accessed, executed, sim, accessedEq, bound⟩
  rcases sim.tick good (by omega) (sim.noHalt continues (by omega)) with ⟨_, next, _, _, ticked, _, _, _⟩
  exact ⟨sim.backEnd.written, accessedEq ▸ sim.backEnd.stored, sim.running, next, ticked⟩

/-! ## A loop -/

/-- `addi x1, x1, 1; sw x1, 256(x0); lw x2, 256(x0); add x3, x2, x1` and a
branch back to the beginning. -/
def countingLoop : List (Addr × Word) :=
  [(0, 0x00108093#32), (4, 0x10102023#32), (8, 0x10002103#32), (12, 0x001101B3#32), (16, 0xFE0198E3#32)]

def countingStart : SeqState where
  memory := { memory := ramImage countingLoop }
  regFile := {}
  pc := 0

theorem countingLoop_ordinary : OrdinaryPath (pathFrom countingStart) (8 + 8) := by
  have passed : everyState SeqState.step
      (fun r => decide r.Ordinary && decide r.InBounds && decide (Separate 256 r)) (8 + 8) countingStart = true := by
    decide +kernel
  have tested := fun i below => @pathFrom_tested _ _ _ passed i below
  simp only [Bool.and_eq_true, decide_eq_true_eq] at tested
  exact ⟨fun i below => (tested i below).2, fun i below => (tested i below).1.1.1,
    fun i below => (tested i below).1.1.2, codeKept_of_separate (fun i below => (tested i below).1.2)⟩

/-- After twelve ticks the pipeline is where the sequential machine is after
eight instructions. -/
theorem countingLoop_refines : Exists fun s => iterate tick 12 (startCore countingStart) = .ok s ∧
    s.instrCount = 8 ∧ s.regFile.gpr = (pathFrom countingStart s.instrCount).regFile.gpr := by
  have runs : passes (iterate tick 12 (startCore countingStart)) (fun s => s.instrCount == 8) = true := by
    decide +kernel
  rcases exists_of_passes runs with ⟨s, run, counted⟩
  have count : s.instrCount = 8 := beq_iff_eq.mp counted
  exact ⟨s, run, count,
    (@pipeline_refines_sequential (pathFrom countingStart) 8 rfl rfl countingLoop_ordinary 12 s run
      (Nat.le_of_eq count)).1⟩

end Refinement
end SimpleRV
