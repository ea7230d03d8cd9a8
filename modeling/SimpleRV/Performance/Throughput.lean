import SimpleRV.Refinement.OrdinaryPrograms
import SimpleRV.Refinement.SystemPrograms

namespace SimpleRV
namespace Performance

open RegisterFile IssueUnit CPUCore Pipeline Refinement InFlight Iteration

/-!
# How fast the pipeline goes along a path

Between two ticks the front end owes the engine at most one tick: an
instruction is in ID/EX, or one is in IF/ID that decode will not hold back.
So two successive ticks never both execute nothing, and after `n` ticks at
least about half as many instructions have been executed, and at most twice as
many.
-/

/-- How many ticks go by before the engine is given an instruction. -/
def bubbles (s : CPUCore) : Nat :=
  if s.idEx.slots.s0.valid then 0 else if s.ifId.slots.s0.valid then 1 else 2

/-- A tick of a core that follows the path, with the state `e` in front of the
engine and the number of instructions that it executes. -/
structure SimulatedTick (path : Nat -> SeqState) (length : Nat) (s : CPUCore) (accessed executed : Nat)
    (e t : CPUCore) (count : Nat) : Prop where
  executing : s.atExecute = .ok e
  sameFront : e.ifId = s.ifId ∧ e.idEx = s.idEx
  ready : AtExecute path length e accessed executed
  atMost : count <= 2
  log : processed e = segment path executed count
  decoding : AtDecode path length e.execute accessed executed (executed + count)
  ticked : s.tick = .ok t
  fetched : e.execute.decodeAndIssue.fetch = .ok t
  after : Simulates path length t accessed executed (executed + count)
  sameIssue : t.idEx = e.execute.decodeAndIssue.idEx
  lively : bubbles t <= 1

section Tick

variable {path : Nat -> SeqState} {length : Nat} {s e t : CPUCore} {retired accessed executed count : Nat}

/-- In machine mode with interrupts off nothing in front of the engine happens
to the front end. -/
theorem atExecute_sameFront (sim : Simulates path length s retired accessed executed)
    (good : Followable path length) (within : executed <= length) (noHalt : NoHalt s.memWb.slots)
    (executing : s.atExecute = .ok e) : e.ifId = s.ifId ∧ e.idEx = s.idEx := by
  rcases sim.atMemoryAccess good within noHalt with ⟨memory, regFile, _, atMem, _, csrs, _, _⟩
  have machine : regFile.privilege = PRV_M := csrs.privilege.trans (good.noInterrupts executed within).machine
  rcases @memoryAccess_machine s.atMemoryAccess (by rw [atMem]; exact machine)
      (by rw [atMem]; exact sim.formed.executedPair.oneAccess) (by rw [atMem]; exact sim.backEnd.canAccess) with
    ⟨mem, accessOk, _, _⟩
  rw [atExecute, accessOk] at executing
  cases executing
  rw [atMem]
  exact ⟨rfl, rfl⟩

/-- Fetch does not touch ID/EX, and leaves IF/ID empty only behind a branch
that is about to be resolved. -/
theorem fetch_lively {y : CPUCore} (here : AtFetch path length y retired accessed executed)
    (good : Followable path length) (below : executed < length) (fetched : y.fetch = .ok t) :
    t.idEx = y.idEx ∧ bubbles t <= 1 := by
  have machine : y.regFile.privilege = PRV_M :=
    here.backEnd.csrs.privilege.trans (good.noInterrupts executed (Nat.le_of_lt below)).machine
  rcases fetch_machine machine here.running here.formed.frontEnd.ordered here.front.within
    with ⟨u, fetchOk, outcome⟩
  cases fetched.symm.trans fetchOk
  have waiting : forall {s : CPUCore}, s.ifId.slots.s0.valid = true -> bubbles s <= 1 := by
    intro s valid
    unfold bubbles
    rw [if_pos valid]
    split
    · exact Nat.zero_le 1
    · exact Nat.le_refl 1
  cases outcome with
  | full valid => exact ⟨rfl, waiting valid⟩
  | one word mem empty sameRam wordEq => exact ⟨rfl, waiting rfl⟩
  | pair word0 word1 empty word0Eq word1Eq => exact ⟨rfl, waiting rfl⟩
  | pastEnd empty noRoom =>
      refine ⟨rfl, ?_⟩
      cases issued : t.idEx.slots.s0.valid with
      | true =>
          unfold bubbles
          rw [if_pos issued]
          exact Nat.zero_le 1
      | false =>
          -- then the next instruction of the path is at the fetch pc, where there is RAM
          have next := here.front.next
          rw [if_neg (ne_true_of_eq_false issued), frontPc, if_neg (ne_true_of_eq_false empty)] at next
          have room := (good.inBounds executed below).room
          rw [← next] at room
          omega

/-- Every tick is one of these. -/
theorem simulated_tick (sim : Simulates path length s retired accessed executed) (good : Followable path length)
    (room : executed + 3 < length) (noHalt : NoHalt s.memWb.slots) :
    Exists fun e => Exists fun t => Exists fun count => SimulatedTick path length s accessed executed e t count := by
  have within : executed <= length := by omega
  rcases sim.atExecute good within noHalt with ⟨e, executing, ready, _⟩
  rcases ready.execute good (by omega) with ⟨count, atMost, decoding, log⟩
  have fetching := decoding.decodeAndIssue good (by omega)
  rcases fetching.fetch good (by omega) within with ⟨t, fetched, after⟩
  rcases fetch_lively fetching good (by omega) fetched with ⟨sameIssue, lively⟩
  exact ⟨e, t, count, executing, atExecute_sameFront sim good within noHalt executing, ready, atMost, log, decoding,
    (tick_of_atExecute sim.running executing).trans fetched, fetched, after, sameIssue, lively⟩

/-! ## Ticks that execute -/

theorem entries_length (pc : Addr) (slots : Dual PipelineSlot) : (entries pc slots).length = occupied slots := by
  unfold entries occupied
  split <;> split <;> rfl

theorem SimulatedTick.count_eq (here : SimulatedTick path length s accessed executed e t count) :
    count = occupied e.executeResolved.exMem.slots := by
  have lengths := congrArg List.length here.log
  rw [processed, entries_length, segment_length] at lengths
  exact lengths.symm

/-- What is in ID/EX is executed. -/
theorem SimulatedTick.executes (here : SimulatedTick path length s accessed executed e t count)
    (issued : s.idEx.slots.s0.valid = true) : 1 <= count := by
  have slot0 := (executeResolved_slot0 e).1
  have valid : e.executeResolved.exMem.slots.s0.valid = true := by
    rw [slot0, executedSlot_valid, here.sameFront.2]
    exact issued
  rw [here.count_eq, occupied, if_pos valid]
  exact Nat.le_add_right 1 _

/-- With nothing in ID/EX nothing is executed. -/
theorem SimulatedTick.rests (here : SimulatedTick path length s accessed executed e t count)
    (invalid : s.idEx.slots.s0.valid = false) : count = 0 := by
  rw [← here.sameFront.2] at invalid
  have none := (here.ready.idle invalid).2
  have lengths := congrArg List.length here.log
  rw [none, segment_length] at lengths
  exact lengths.symm

/-- Behind an empty ID/EX decode holds nothing back. -/
theorem SimulatedTick.issues (here : SimulatedTick path length s accessed executed e t count)
    (invalid : s.idEx.slots.s0.valid = false) (waits : s.ifId.slots.s0.valid = true) : bubbles t = 0 := by
  rw [← here.sameFront.2] at invalid
  rw [← here.sameFront.1] at waits
  have invalid1 := invalid_of_ordered here.ready.formed.frontEnd.issued.ordered invalid
  have empty : forall lane, (e.idEx.slots.get lane).valid = false := by
    intro lane
    cases lane using laneCases with
    | zero => exact invalid
    | one => exact invalid1
  have issued : e.execute.decodeAndIssue.idEx.slots.s0.valid = true := by
    rw [execute_of_invalid empty]
    have noStall : forall slots, crossCycleStall e.idEx slots = false := by
      intro slots
      unfold crossCycleStall loadUse
      rw [invalid, invalid1]
      rfl
    change (IssueUnit.decodeAndIssue e.ifId e.idEx).2.slots.s0.valid = true
    unfold IssueUnit.decodeAndIssue
    simp only [waits, noStall, Bool.not_true, Bool.false_eq_true, if_false]
    split
    · exact waits
    · split
      · exact waits
      · exact waits
  unfold bubbles
  rw [here.sameIssue, if_pos issued]

/-- With an empty front end the tick only fetches. -/
theorem SimulatedTick.fetches (here : SimulatedTick path length s accessed executed e t count)
    (invalid : s.idEx.slots.s0.valid = false) (empty : s.ifId.slots.s0.valid = false) : bubbles t = 1 := by
  rw [← here.sameFront.2] at invalid
  rw [← here.sameFront.1] at empty
  have invalid1 := invalid_of_ordered here.ready.formed.frontEnd.issued.ordered invalid
  have rests : e.execute = { e with exMem := { pc := e.idEx.pc } } := by
    apply execute_of_invalid
    intro lane
    cases lane using laneCases with
    | zero => exact invalid
    | one => exact invalid1
  have same : e.execute.decodeAndIssue = e.execute :=
    decodeAndIssue_of_empty (by rw [rests]; exact empty) (by rw [rests]; exact invalid)
  have nothing : t.idEx.slots.s0.valid = false := by
    rw [here.sameIssue, same, rests]
    exact invalid
  have atMost := here.lively
  unfold bubbles at atMost ⊢
  rw [if_neg (ne_true_of_eq_false nothing)] at atMost ⊢
  split
  · rfl
  · rename_i waits
    rw [if_neg waits] at atMost
    omega

end Tick

/-! ## The pace of a run -/

/-- Where the three points of the path are after `n` ticks. -/
structure Paced (path : Nat -> SeqState) (length n : Nat) (s : CPUCore) (retired accessed executed : Nat) : Prop where
  simulated : Simulates path length s retired accessed executed
  filling : 2 <= n + bubbles s
  lively : n = 0 ∨ bubbles s <= 1
  executedLeast : n + bubbles s <= 2 * executed + 2
  accessedLeast : n <= 2 * accessed + 3
  retiredLeast : n <= 2 * retired + 4
  executedMost : executed <= 2 * (n - 2)
  accessedMost : accessed <= 2 * (n - 3)
  retiredMost : retired <= 2 * (n - 4)

section Pace

variable {path : Nat -> SeqState} {length : Nat}

theorem paced_start : Paced path length 0 (startCore (path 0)) 0 0 0 where
  simulated := startCore_simulates path length
  filling := Nat.le_refl 2
  lively := .inl rfl
  executedLeast := Nat.le_refl 2
  accessedLeast := Nat.zero_le 3
  retiredLeast := Nat.zero_le 4
  executedMost := Nat.le_refl 0
  accessedMost := Nat.le_refl 0
  retiredMost := Nat.le_refl 0

theorem issued_of_bubbles {s : CPUCore} (issued : s.idEx.slots.s0.valid = true) : bubbles s = 0 := if_pos issued

/-- One tick keeps the pace. -/
theorem Paced.tick {n : Nat} {s e t : CPUCore} {retired accessed executed count : Nat}
    (paced : Paced path length n s retired accessed executed)
    (here : SimulatedTick path length s accessed executed e t count) :
    Paced path length (n + 1) t accessed executed (executed + count) := by
  rcases paced
    with ⟨_, filling, _, executedLeast, accessedLeast, retiredLeast, executedMost, accessedMost, retiredMost⟩
  have atMost := here.atMost
  have lively := here.lively
  cases issued : s.idEx.slots.s0.valid with
  | true =>
      have none := issued_of_bubbles issued
      have some := here.executes issued
      exact ⟨here.after, by omega, .inr lively, by omega, by omega, by omega, by omega, by omega, by omega⟩
  | false =>
      have none := here.rests issued
      cases waits : s.ifId.slots.s0.valid with
      | true =>
          have one : bubbles s = 1 := by rw [bubbles, issued, waits]; rfl
          have next := here.issues issued waits
          exact ⟨here.after, by omega, .inr lively, by omega, by omega, by omega, by omega, by omega, by omega⟩
      | false =>
          have two : bubbles s = 2 := by rw [bubbles, issued, waits]; rfl
          have next := here.fetches issued waits
          exact ⟨here.after, by omega, .inr lively, by omega, by omega, by omega, by omega, by omega, by omega⟩

/-- At most four instructions are in flight behind the engine. -/
theorem Paced.ahead {n : Nat} {s : CPUCore} {retired accessed executed : Nat}
    (paced : Paced path length n s retired accessed executed) : executed <= retired + 4 := by
  have inWb := paced.simulated.backEnd.inWb.bounds.2
  have inMem := paced.simulated.backEnd.inMem.bounds.2
  omega

/-- Every run along a path without traps keeps the pace. -/
theorem run_paced {N : Nat} (good : Followable path (N + 8)) (noTraps : NoTraps path (N + 8))
    (continues : forall i, i < N + 8 -> isHalt (path i).instr = false) {n : Nat} {s : CPUCore}
    (run : iterate tick n (startCore (path 0)) = .ok s) (within : s.instrCount <= N) :
    Exists fun accessed => Exists fun executed =>
      Paced path (N + 8) n s s.instrCount accessed executed ∧ executed <= N + 4 := by
  induction n generalizing s with
  | zero =>
      cases run
      exact ⟨0, 0, paced_start, Nat.zero_le _⟩
  | succ n ih =>
      rcases iterate_succ.mp run with ⟨before, earlier, last⟩
      have reached : Reaches CPUCore.tick (startCore (path 0)) before := ⟨n, earlier⟩
      have formed := reached.invariant (startCore_simulates path (N + 8)).formed tick_wellFormed
      have withinBefore := Nat.le_trans (tick_instrCount formed last) within
      rcases ih earlier withinBefore with ⟨accessed, executed, paced, bound⟩
      have sim := paced.simulated
      rcases simulated_tick sim good (by omega) (sim.noHalt continues (by omega)) with ⟨e, t, count, here⟩
      cases last.symm.trans here.ticked
      have after := paced.tick here
      have ahead := after.ahead
      have sameCount : s.instrCount = accessed := here.after.counted noTraps
      rw [sameCount] at within ⊢
      exact ⟨executed, executed + count, after, by omega⟩

/-- The run goes on until the instructions have retired. -/
theorem run_progress {N : Nat} (good : Followable path (N + 8)) (noTraps : NoTraps path (N + 8))
    (continues : forall i, i < N + 8 -> isHalt (path i).instr = false) (n : Nat) :
    (Exists fun s => iterate tick n (startCore (path 0)) = .ok s ∧ s.instrCount <= N) ∨
      Exists fun k => Exists fun s => k <= n ∧ iterate tick k (startCore (path 0)) = .ok s ∧ N < s.instrCount := by
  induction n with
  | zero => exact .inl ⟨startCore (path 0), rfl, Nat.zero_le N⟩
  | succ n ih =>
      rcases ih with ⟨s, run, within⟩ | ⟨k, s, earlier, run, past⟩
      · rcases run_paced good noTraps continues run within with ⟨accessed, executed, paced, bound⟩
        have sim := paced.simulated
        rcases simulated_tick sim good (by omega) (sim.noHalt continues (by omega)) with ⟨e, t, count, here⟩
        have next : iterate CPUCore.tick (n + 1) (startCore (path 0)) = .ok t :=
          iterate_succ.mpr ⟨s, run, here.ticked⟩
        rcases Nat.lt_or_ge N t.instrCount with past | within
        · exact .inr ⟨n + 1, t, Nat.le_refl _, next, past⟩
        · exact .inl ⟨t, next, within⟩
      · exact .inr ⟨k, s, Nat.le_succ_of_le earlier, run, past⟩

/-- The throughput of the pipeline, for every program of ordinary instructions.
Behind the four ticks that fill it, a tick retires at most two instructions, and
two successive ticks retire at least one; so the first `N` instructions have
retired after at most `2 * N + 4` ticks. -/
theorem throughput {N : Nat} (machine : (path 0).regFile.privilege = PRV_M)
    (disabled : hasBit (path 0).regFile.mstatus MSTATUS_MIE = false) (ordinary : OrdinaryPath path (N + 8)) :
    (forall n s, iterate tick n (startCore (path 0)) = .ok s -> s.instrCount <= N ->
      n <= 2 * s.instrCount + 4 ∧ s.instrCount <= 2 * (n - 4)) ∧
    Exists fun n => Exists fun s =>
      n <= 2 * N + 4 ∧ iterate tick n (startCore (path 0)) = .ok s ∧ N <= s.instrCount := by
  have good := ordinary.followable machine disabled
  have noTraps : NoTraps path (N + 8) := fun i below => (plain_of_ordinary (ordinary.ordinary i below)).quiet
  have continues := fun i below => (plain_of_ordinary (ordinary.ordinary i below)).noHalt
  have pace : forall n s, iterate tick n (startCore (path 0)) = .ok s -> s.instrCount <= N ->
      n <= 2 * s.instrCount + 4 ∧ s.instrCount <= 2 * (n - 4) := by
    intro n s run within
    rcases run_paced good noTraps continues run within with ⟨_, _, paced, _⟩
    exact ⟨paced.retiredLeast, paced.retiredMost⟩
  refine ⟨pace, ?_⟩
  rcases run_progress good noTraps continues (2 * N + 4) with ⟨s, run, within⟩ | ⟨k, s, earlier, run, past⟩
  · have least := (pace _ s run within).1
    exact ⟨2 * N + 4, s, Nat.le_refl _, run, by omega⟩
  · exact ⟨k, s, earlier, run, Nat.le_of_lt past⟩

end Pace

/-- The counting loop of five instructions retires its first eight within
twenty ticks. -/
theorem throughput_countingLoop : Exists fun n => Exists fun s =>
    n <= 2 * 8 + 4 ∧ iterate tick n (startCore countingStart) = .ok s ∧ 8 <= s.instrCount :=
  (@throughput (pathFrom countingStart) 8 rfl rfl countingLoop_ordinary).2

end Performance
end SimpleRV
