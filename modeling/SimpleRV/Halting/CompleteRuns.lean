import SimpleRV.Halting.LastTick
import SimpleRV.Machine.Simulator
import SimpleRV.Performance.Throughput

namespace SimpleRV
namespace Halting

open RegisterFile IssueUnit CPUCore Pipeline Refinement InFlight Iteration Performance

/-!
# Runs from the start to the halt

`run` ticks until a halting word is written back.  On a path that reaches one,
with nothing but instructions without effect behind it, the run ends in the
state of the sequential machine before the halting word, and the pace of the
pipeline bounds the number of its ticks.
-/

/-! ## The loop -/

/-- The loop ends with the first state that does not run. -/
theorem run_of_iterate {s u : CPUCore} {n fuel : Nat} (enough : n <= fuel) (reached : iterate tick n s = .ok u)
    (stopped : u.running = false)
    (before : forall k t, k < n -> iterate tick k s = .ok t -> t.running = true) : s.run fuel = .ok (some u) := by
  induction n generalizing s fuel with
  | zero =>
      cases reached
      unfold CPUCore.run
      rw [stopped]
      rfl
  | succ n ih =>
      have running : s.running = true := before 0 s (Nat.succ_pos n) rfl
      rw [iterate_succ_head] at reached
      rcases bind_eq_ok.mp reached with ⟨next, first, rest⟩
      cases fuel with
      | zero => exact absurd enough (Nat.not_succ_le_zero n)
      | succ fuel =>
          unfold CPUCore.run
          rw [running, first]
          apply ih (Nat.le_of_succ_le_succ enough) rest
          intro k t below later
          apply before (k + 1) t (Nat.succ_lt_succ below)
          rw [iterate_succ_head, first]
          exact later

/-! ## Behind the halting word -/

/-- A path that halts, with nothing but silent instructions behind the halting
word as far as the pipeline looks ahead. -/
structure EndingPath (path : Nat -> SeqState) (halt : Nat) : Prop where
  halting : HaltingPath path halt
  tail : forall i, halt <= i -> i < halt + 8 -> Silent (path i).slot.d

section Path

variable {path : Nat -> SeqState} {halt : Nat}

/-- The silent instructions leave everything as it was. -/
theorem EndingPath.settled (ending : EndingPath path halt) {i : Nat} (behind : halt <= i) (within : i <= halt + 8) :
    Shows (startCore (path i)) (path halt) := by
  have back : forall j, j <= i - halt -> Shows (startCore (path i)) (path (i - j)) := by
    intro j
    induction j with
    | zero => exact fun _ => ⟨rfl, .refl _, rfl, rfl⟩
    | succ j ih =>
        intro below
        have next := ih (Nat.le_of_succ_le below)
        have index : i - j = i - (j + 1) + 1 := by omega
        rw [index] at next
        exact next.before_silent ending.halting.followable (by omega) (ending.tail _ (by omega) (by omega))
  have whole := back (i - halt) (Nat.le_refl _)
  rwa [Nat.sub_sub_self behind] at whole

/-- The core that has halted shows the path before the halting word. -/
theorem EndingPath.shows (ending : EndingPath path halt) {t u : CPUCore} {accessed executed following : Nat}
    (halted : Halted path t u accessed executed following) (past : halt < accessed) (order : accessed <= executed)
    (onwards : executed <= following) (bound : following <= halt + 8)
    (uart : t.memory.uartOutput = (path 0).memory.uartOutput) : Shows u (path halt) where
  gpr := halted.gpr.trans (ending.settled (Nat.le_of_lt past) (by omega)).gpr
  csrs := (ending.settled (i := following) (by omega) bound).csrs.trans halted.csrs
  memory := halted.memory.trans (ending.settled (i := executed) (by omega) (by omega)).memory
  uartOutput := by
    rw [halted.uartOutput, uart, path_uartOutput ending.halting.followable (Nat.le_add_right halt 8)]

/-! ## The run -/

/-- As long as the simulator runs, it keeps the pace and has not retired the
halting word. -/
theorem run_paced_halting (good : HaltingPath path halt) {n : Nat} {s : CPUCore}
    (run : iterate CPUCore.tick n (startCore (path 0)) = .ok s) (running : s.running = true) :
    Exists fun retired => Exists fun accessed => Exists fun executed =>
      Paced path (halt + 8) n s retired accessed executed ∧ retired <= halt := by
  induction n generalizing s with
  | zero =>
      cases run
      exact ⟨0, 0, 0, paced_start, Nat.zero_le _⟩
  | succ n ih =>
      rcases iterate_succ.mp run with ⟨before, earlier, last⟩
      rcases ih earlier (running_of_tick last running) with ⟨retired, accessed, executed, paced, within⟩
      have sim := paced.simulated
      have noHalt := noHalt_of_tick sim.formed last running
      have order := accessed_le_halt good sim within noHalt
      have bound := sim.backEnd.inMem.bounds.2
      rcases simulated_tick sim good.followable (by omega) noHalt with ⟨e, t, count, here⟩
      cases last.symm.trans here.ticked
      exact ⟨accessed, executed, executed + count, paced.tick here, order⟩

/-- What has halted is not before the halting word of the path. -/
theorem halt_lt_accessed (good : HaltingPath path halt) {s : CPUCore} {retired accessed executed : Nat} {lane : Fin 2}
    (sim : Simulates path (halt + 8) s retired accessed executed) (halts : haltLane s.memWb = some lane) :
    halt < accessed := by
  rcases haltLane_some halts with ⟨valid, stops⟩
  rcases sim.backEnd.inWb.word valid with ⟨below, word⟩
  rcases Nat.lt_or_ge (retired + lane.val) halt with earlier | order
  · rw [word, good.first _ earlier] at stops
    cases stops
  · omega

/-- After `n` ticks the simulator runs, or it has halted before. -/
theorem run_or_halted (ending : EndingPath path halt) (n : Nat) :
    (Exists fun s => iterate CPUCore.tick n (startCore (path 0)) = .ok s ∧ s.running = true) ∨
      Exists fun k => Exists fun u => k <= n ∧ iterate CPUCore.tick k (startCore (path 0)) = .ok u ∧
        u.running = false ∧ (forall j t, j < k -> iterate CPUCore.tick j (startCore (path 0)) = .ok t ->
          t.running = true) ∧ Shows u (path halt) := by
  have good := ending.halting
  induction n with
  | zero => exact .inl ⟨startCore (path 0), rfl, rfl⟩
  | succ n ih =>
      rcases ih with ⟨s, run, running⟩ | ⟨k, u, earlier, rest⟩
      · rcases run_paced_halting good run running with ⟨retired, accessed, executed, paced, within⟩
        have sim := paced.simulated
        have retiring := sim.backEnd.inWb.bounds
        have bounds := sim.backEnd.inMem.bounds
        cases halts : haltLane s.memWb with
        | none =>
            rcases simulated_tick sim good.followable (by omega) (haltLane_none halts) with ⟨e, t, count, here⟩
            exact .inl ⟨t, iterate_succ.mpr ⟨s, run, here.ticked⟩, here.after.running⟩
        | some lane =>
            rcases halting_tick sim good.followable (by omega) (Option.isSome_of_eq_some halts) with
              ⟨u, following, ticked, onwards, atMost, halted⟩
            rcases run_simulates_halting good run running with ⟨_, _, _, _, _, uart⟩
            refine .inr ⟨n + 1, u, Nat.le_refl _, iterate_succ.mpr ⟨s, run, ticked⟩, halted.running, ?_,
              ending.shows halted (halt_lt_accessed good sim halts) bounds.1 onwards (by omega) uart⟩
            intro j t below reached
            exact running_before run running (Nat.le_of_lt_succ below) reached
      · exact .inr ⟨k, u, Nat.le_succ_of_le earlier, rest⟩

/-- The run halts within the time that the pace of the pipeline allows. -/
theorem run_halts (ending : EndingPath path halt) {fuel : Nat} (enough : 2 * halt + 5 <= fuel) :
    Exists fun u => (startCore (path 0)).run fuel = .ok (some u) ∧ Shows u (path halt) := by
  rcases run_or_halted ending (2 * halt + 5) with ⟨s, run, running⟩ | ⟨k, u, within, reached, stopped, before, shows⟩
  · rcases run_paced_halting ending.halting run running with ⟨retired, accessed, executed, paced, bound⟩
    have least := paced.retiredLeast
    omega
  · exact ⟨u, run_of_iterate (Nat.le_trans within enough) reached stopped before, shows⟩

/-! ## The program -/

/-- The state in which the simulator starts a program file. -/
def boot (bytes : List Byte) (keyboard : HostKeyboard) : SeqState where
  memory := {
    memory := fun addr =>
      if addr.toNat < min bytes.length MEMORY_SIZE.toNat then bytes.getD addr.toNat 0 else 0
    keyboard := keyboard }
  regFile := (({} : RegisterFile).writeRd 2 (MEMORY_SIZE - 16) true).writeCsr CSR_MTVEC 0x00010000#32
  pc := 0

/-- `init` on the core that `main` has made. -/
theorem initProgram_boot (bytes : List Byte) (keyboard : HostKeyboard) :
    ({ memory := { keyboard := keyboard } } : CPUCore).initProgram .default128MB (some bytes) =
      .ok (startCore (boot bytes keyboard)) := by
  have size : (if bytes.length > MEMORY_SIZE.toNat then MEMORY_SIZE.toNat else bytes.length) =
      min bytes.length MEMORY_SIZE.toNat := by
    rw [Nat.min_def]
    split <;> split <;> omega
  unfold initProgram MemorySystem.loadProgram
  simp only [size]
  rfl

/-- `main` on a file that the core runs to its halt. -/
theorem main_of_run {bytes : List Byte} {keyboard : HostKeyboard} {fuel : Nat} {u : CPUCore} (command : String)
    {programPath : String} (options : List String) {files : String -> Option (List Byte)}
    (found : files programPath = some bytes) (run : (startCore (boot bytes keyboard)).run fuel = .ok (some u)) :
    main fuel (command :: programPath :: options) files keyboard = some (.halted u) := by
  unfold main
  simp only [found, initProgram_boot, run]

/-- `main` on a file whose program ends.  It returns zero, in the state of the
sequential machine before the halting word. -/
theorem main_halts {bytes : List Byte} {keyboard : HostKeyboard} (start : path 0 = boot bytes keyboard)
    (ending : EndingPath path halt) {fuel : Nat} (enough : 2 * halt + 5 <= fuel) (command programPath : String)
    (options : List String) {files : String -> Option (List Byte)} (found : files programPath = some bytes) :
    Exists fun u => main fuel (command :: programPath :: options) files keyboard = some (.halted u) ∧
      Ended.exitCode (.halted u) = some 0 ∧ Shows u (path halt) := by
  rcases run_halts ending enough with ⟨u, run, shows⟩
  rw [start] at run
  exact ⟨u, main_of_run command options found run, rfl, shows⟩

end Path

/-- `addi x5, x0, 7; sw x5, 256(x0)` and an EBREAK, as the bytes of a file. -/
def storeFile : List Byte := LittleEndian.bytes 4 [0x00700293#32, 0x10502023#32, 0x00100073#32]

theorem storeFile_ends : EndingPath (pathFrom (boot storeFile {})) 2 := by
  have passed : everyState SeqState.step (fun r =>
      (decide r.Ordinary || isHalt r.instr) && decide r.InBounds && decide (Separate 256 r) &&
        (r.regFile.privilege == PRV_M) && (r.regFile.mie == 0)) (2 + 8 + 1) (boot storeFile {}) = true := by
    decide +kernel
  have tested := fun i below => @pathFrom_tested _ _ _ passed i below
  simp only [Bool.and_eq_true, Bool.or_eq_true, decide_eq_true_eq, beq_iff_eq] at tested
  have halts : forall i, i < 8 -> isHalt (pathFrom (boot storeFile {}) (2 + i)).instr = true := by decide +kernel
  refine ⟨⟨⟨?_, ?_, ?_, ?_, ?_⟩, by decide +kernel, by decide +kernel⟩, ?_⟩
  · exact fun i below => (tested i (Nat.lt_succ_of_lt below)).2
  · exact fun i below => (tested i (Nat.lt_succ_of_lt below)).1.1.1.1.1.imp id (fun halts => .inr halts)
  · exact fun i below => (tested i (Nat.lt_succ_of_lt below)).1.1.1.1.2
  · exact codeKept_of_separate (fun i below => (tested i (Nat.lt_succ_of_lt below)).1.1.1.2)
  · intro i within
    have test := (tested i (Nat.lt_succ_of_le within)).1
    exact ⟨test.1.2, .inr test.2⟩
  · intro i behind below
    have halting := halts (i - 2) (by omega)
    rw [Nat.add_sub_of_le behind] at halting
    exact silent_of_halt halting

theorem main_halts_storeFile : Exists fun u =>
    main 9 ["sim-rv", "store.bin"] (fun _ => some storeFile) {} = some (.halted u) ∧
      Ended.exitCode (.halted u) = some 0 ∧ Shows u (pathFrom (boot storeFile {}) 2) :=
  @main_halts _ _ _ _ rfl storeFile_ends 9 (by decide) "sim-rv" "store.bin" [] _ rfl

end Halting
end SimpleRV
