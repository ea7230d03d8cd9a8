import SimpleRV.Halting.ProgramRuns
import SimpleRV.Halting.Progress
import SimpleRV.Pipeline.LatchRules

namespace SimpleRV
namespace Halting

open RegisterFile IssueUnit CPUCore Pipeline Refinement InFlight Rv32i Iteration StepLogic

/-!
# Runs that do not end

A program that runs forever keeps the simulator running forever.  So does one
that jumps to a pc that fetch takes to be outside memory: the pipeline is empty
then, and stays so until an interrupt comes.
-/

/-- The loop has not ended as long as the simulator runs. -/
theorem run_goes_on {s u : CPUCore} {fuel : Nat} (reached : iterate tick fuel s = .ok u) (running : u.running = true) :
    s.run fuel = .ok none := by
  induction fuel generalizing s with
  | zero =>
      cases reached
      unfold CPUCore.run
      rw [running]
      rfl
  | succ fuel ih =>
      have started := running_before reached running (Nat.zero_le _) rfl
      rw [iterate_succ_head] at reached
      rcases bind_eq_ok.mp reached with ⟨next, first, rest⟩
      unfold CPUCore.run
      rw [started, first]
      exact ih rest

/-! ## Programs that run forever -/

/-- The pipeline runs as long as the program does. -/
theorem goes_on_forever {program : Program} {r : SeqState} {start : State} (initial : Implements program r start)
    (disabled : hasBit r.regFile.mstatus MSTATUS_MIE = false) (forever : forall length, Runs program start length)
    (n : Nat) : Exists fun c => iterate tick n (startCore r) = .ok c ∧ c.running = true := by
  induction n with
  | zero => exact ⟨startCore r, rfl, rfl⟩
  | succ n ih =>
      rcases ih with ⟨c, run, running⟩
      rcases simulates_of_runs initial disabled (forever (c.instrCount + 8)) run (Nat.le_refl _) with ⟨_, _, next, ticked⟩
      have after : iterate tick (n + 1) (startCore r) = .ok next := iterate_succ.mpr ⟨c, run, ticked⟩
      rcases simulates_of_runs initial disabled (forever (next.instrCount + 8)) after (Nat.le_refl _) with ⟨_, sim, _⟩
      exact ⟨next, after, sim.running⟩

/-- `main` does not return from a program that runs forever: for every number of
ticks the loop goes on.  With `main_runs_program` the simulator ends exactly
with the program. -/
theorem main_runs_forever {instrs : List Instr} (short : 4 * instrs.length + 36 <= CLINT_BASE.toNat)
    (forever : forall n, Exists fun s => Leads (fileProgram instrs).step (Permitted instrs) (bootState instrs) n s)
    (fuel : Nat) (command programPath : String) (options : List String) {files : String -> Option (List Byte)}
    (found : files programPath = some (programFile instrs)) (keyboard : HostKeyboard) :
    main fuel (command :: programPath :: options) files keyboard = none := by
  have runs : forall n, Runs (fileProgram instrs) (bootState instrs) n := by
    intro n
    rcases forever n with ⟨s, leads⟩
    exact runs_of_leads short leads
  rcases goes_on_forever (boot_implements short keyboard) (boot_disabled _ keyboard) runs fuel with ⟨u, reached, running⟩
  unfold main
  simp only [found, initProgram_boot, run_goes_on reached running]

/-- `beq x0, x0, 0`. -/
def spin : List Instr := [.branch .eq 0 0 ⟨0, by decide⟩]

theorem spin_forever (n : Nat) :
    Exists fun s => Leads (fileProgram spin).step (Permitted spin) (bootState spin) n s := by
  apply @Leads.forever _ _ _ _ (fun s => s.pc = 0)
  · intro s here
    have code : (fileProgram spin).code s.pc = some (.branch .eq 0 0 ⟨0, by decide⟩) := by
      rw [here]
      rfl
    refine ⟨1, _, by decide, .single ⟨_, code, ?_, ?_, ?_⟩ (Program.step_some code), ?_⟩
    · rintro condition rs1 rs2 offset ⟨⟩
      rw [here]
      decide
    · rintro addr ⟨⟩
    · rintro addr data ⟨⟩
    · change ((if (s.regs.read 0 == s.regs.read 0) = true then some (s.pc + BitVec.signExtend 32 0) else none).getD
        (s.pc + 4)) = 0
      rw [here, if_pos (beq_self_eq_true _)]
      rfl
  · rfl

theorem main_runs_forever_spin :
    main 1000000 ["sim-rv", "spin.bin"] (fun _ => some (programFile spin)) {} = none :=
  @main_runs_forever spin (by decide) spin_forever 1000000 "sim-rv" "spin.bin" [] _ rfl {}

/-! ## A pc outside memory -/

/-- Nothing is in the pipeline, the pc is outside memory for fetch, and no
interrupt can be taken. -/
structure Stuck (s : CPUCore) : Prop where
  formed : WellFormed s
  retiring : Ordered s.memWb.slots
  running : s.running = true
  nothing : distance s = 4
  noPair : ¬s.pc + 8 <= MEMORY_SIZE
  noSingle : ¬s.pc + 4 <= MEMORY_SIZE
  masked : forall pending, selectInterrupt (s.regFile.hwSetMtip pending) = none

theorem hwSetMtip_again (regFile : RegisterFile) (first second : Bool) :
    (regFile.hwSetMtip first).hwSetMtip second = regFile.hwSetMtip second := by
  have cleared : regFile.mip &&& ~~~MIP_MTIP ||| MIP_MTIP = regFile.mip ||| MIP_MTIP := by
    ext i
    simp
    grind
  have set : (regFile.mip ||| MIP_MTIP) &&& ~~~MIP_MTIP = regFile.mip &&& ~~~MIP_MTIP := by
    ext i
    simp
    grind
  cases first <;> cases second <;> simp [hwSetMtip, BitVec.and_assoc, BitVec.or_assoc, cleared, set]

theorem empty_of_distance {s : CPUCore} (nothing : distance s = 4) : s.memWb.slots.s0.valid = false ∧
    s.exMem.slots.s0.valid = false ∧ s.idEx.slots.s0.valid = false ∧ s.ifId.slots.s0.valid = false := by
  unfold distance at nothing
  repeat' split at nothing
  all_goals simp_all

theorem fetch_outside {f : CPUCore} (empty : f.ifId.slots.s0.valid = false) (empty1 : f.ifId.slots.s1.valid = false)
    (noPair : ¬f.pc + 8 <= MEMORY_SIZE) (noSingle : ¬f.pc + 4 <= MEMORY_SIZE) : f.fetch = .ok f := by
  unfold CPUCore.fetch
  rw [if_neg (ne_true_of_eq_false empty), if_neg (ne_true_of_eq_false empty1), if_neg noPair, if_neg noSingle]

/-- The core after a tick that has nothing to do. -/
def afterIdling (s : CPUCore) : CPUCore := { s.updateTimer with memWb := {}, exMem := { pc := s.idEx.pc } }

/-- A tick only advances the timer. -/
theorem Stuck.tick {s : CPUCore} (stuck : Stuck s) : Exists fun t =>
    s.tick = .ok t ∧ Stuck t ∧ t.instrCount = s.instrCount ∧ t.pc = s.pc := by
  rcases empty_of_distance stuck.nothing with ⟨noWb, noMem, noEx, noId⟩
  have noWb1 := invalid_of_ordered stuck.retiring noWb
  have noMem1 := invalid_of_ordered stuck.formed.executedPair.ordered noMem
  have noEx1 := invalid_of_ordered stuck.formed.frontEnd.issued.ordered noEx
  have noId1 := invalid_of_ordered stuck.formed.frontEnd.ordered noId
  have written : s.atMemoryAccess = s.updateTimer := by
    have quiet : s.atWriteBack = s.updateTimer := atWriteBack_quiet (stuck.masked _)
    have first : s.updateTimer.writeBackLane 0 = s.updateTimer := by
      change (if (!s.memWb.slots.s0.valid) = true then _ else _) = _
      rw [noWb]
      rfl
    have second : s.updateTimer.writeBackLane 1 = s.updateTimer := by
      change (if (!s.memWb.slots.s1.valid) = true then _ else _) = _
      rw [noWb1]
      rfl
    rw [atMemoryAccess, quiet, writeBack, first, second]
  have accessed : s.updateTimer.memoryAccess = .ok ({ s.updateTimer with memWb := {} }, none) :=
    memoryAccess_of_lanes (memoryAccessLane_invalid noMem) (memoryAccessLane_invalid noMem1)
  have executed : CPUCore.execute { s.updateTimer with memWb := {} } = afterIdling s := by
    apply execute_of_invalid
    intro lane
    cases lane using laneCases with
    | zero => exact noEx
    | one => exact noEx1
  have idle : (afterIdling s).decodeAndIssue = afterIdling s := decodeAndIssue_of_empty noId noEx
  have fetched : (afterIdling s).fetch = .ok (afterIdling s) := fetch_outside noId noId1 stuck.noPair stuck.noSingle
  have ticked : s.tick = .ok (afterIdling s) := by
    rw [tick_running stuck.running, written, accessed]
    change CPUCore.fetch (CPUCore.decodeAndIssue (CPUCore.execute _)) = _
    rw [executed, idle, fetched]
  refine ⟨_, ticked, ⟨tick_wellFormed s _ stuck.formed ticked, fun impossible => absurd impossible Bool.false_ne_true,
    stuck.running, ?_, stuck.noPair, stuck.noSingle, ?_⟩, rfl, rfl⟩
  · simp [distance, afterIdling, updateTimer, noEx, noId]
  · intro pending
    change selectInterrupt ((s.regFile.hwSetMtip _).hwSetMtip pending) = none
    rw [hwSetMtip_again]
    exact stuck.masked pending

theorem Stuck.run {s : CPUCore} (stuck : Stuck s) (n : Nat) : Exists fun t =>
    iterate CPUCore.tick n s = .ok t ∧ Stuck t ∧ t.instrCount = s.instrCount ∧ t.pc = s.pc := by
  induction n with
  | zero => exact ⟨s, rfl, stuck, rfl, rfl⟩
  | succ n ih =>
      rcases ih with ⟨t, reached, stillStuck, sameCount, samePc⟩
      rcases stillStuck.tick with ⟨u, ticked, after, count, pc⟩
      exact ⟨u, iterate_succ.mpr ⟨t, reached, ticked⟩, after, count.trans sameCount, pc.trans samePc⟩

/-- A jump out of memory hangs the simulator.  Fetch compares the virtual pc
with the size of RAM, and beyond it does nothing: once the pipeline is empty and
no interrupt can be taken, `run` never returns and nothing is retired. -/
theorem out_of_memory_never_returns {s : CPUCore} (reachable : Reachable s) (running : s.running = true)
    (nothing : distance s = 4) (noPair : ¬s.pc + 8 <= MEMORY_SIZE) (noSingle : ¬s.pc + 4 <= MEMORY_SIZE)
    (masked : forall pending, selectInterrupt (s.regFile.hwSetMtip pending) = none) (fuel : Nat) :
    s.run fuel = .ok none ∧ Exists fun t =>
      iterate tick fuel s = .ok t ∧ t.instrCount = s.instrCount ∧ t.pc = s.pc := by
  have stuck : Stuck s :=
    ⟨reachable.wellFormed, reachable.memWb_ordered, running, nothing, noPair, noSingle, masked⟩
  rcases stuck.run fuel with ⟨t, reached, stillStuck, sameCount, samePc⟩
  exact ⟨run_goes_on reached stillStuck.running, t, reached, sameCount, samePc⟩

/-- `lui x1, 0x80000; jalr x0, 0(x1)`. -/
def wildJump : List (Addr × Word) := [(0, 0x800000B7#32), (4, 0x00008067#32)]

/-- The pipeline is empty after six ticks of this program, and stays empty. -/
theorem out_of_memory_never_returns_wildJump : Exists fun s =>
    iterate tick 6 (init .default128MB (ramImage wildJump) {}) = .ok s ∧ s.pc = 0x80000000#32 ∧
      s.run 1000000 = .ok none := by
  have passed : passes (iterate tick 6 (init .default128MB (ramImage wildJump) {})) (fun s => s.running &&
      decide (distance s = 4) && decide (s.pc = 0x80000000#32) &&
        decide (forall pending, selectInterrupt (s.regFile.hwSetMtip pending) = none)) = true := by
    decide +kernel
  rcases exists_of_passes passed with ⟨s, run, tests⟩
  simp only [Bool.and_eq_true, decide_eq_true_eq] at tests
  rcases tests with ⟨⟨⟨running, nothing⟩, pc⟩, masked⟩
  have noPair : ¬s.pc + 8 <= MEMORY_SIZE := by
    rw [pc]
    decide
  have noSingle : ¬s.pc + 4 <= MEMORY_SIZE := by
    rw [pc]
    decide
  exact ⟨s, run, pc, (out_of_memory_never_returns ⟨_, _, _, 6, run⟩ running nothing noPair noSingle masked 1000000).1⟩

end Halting
end SimpleRV
