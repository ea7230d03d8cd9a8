import SimpleRV.Halting.PreciseHalt

namespace SimpleRV
namespace Halting

open IssueUnit CPUCore Pipeline Iteration

/-!
# Progress

The oldest instruction in the pipeline moves on with every tick that takes no
interrupt, no trap and no trap return, whatever stalls and mispredictions there
are behind it.  So such ticks retire instructions, unless there is nothing in
the pipeline and nothing that fetch could reach.
-/

/-- A tick that takes no interrupt, no trap and no trap return. -/
structure Undiverted (s : CPUCore) : Prop where
  noInterrupt : selectInterrupt s.updateTimer.regFile = none
  noAccessTrap : forall out, s.atMemoryAccess.memoryAccess = .ok out -> out.2 = none
  noTrap : forall e, s.atExecute = .ok e -> trapLane e.executeResolved.exMem = none
  noFetchFault : forall f, s.atFetch = .ok f -> ¬Exists fun found => Exists fun mem => FetchFaults f found mem

/-- The stages between the oldest instruction and write-back, if there is one. -/
def distance (s : CPUCore) : Nat :=
  if s.memWb.slots.s0.valid then 0
  else if s.exMem.slots.s0.valid then 1
  else if s.idEx.slots.s0.valid then 2
  else if s.ifId.slots.s0.valid then 3
  else 4

/-- Neither the eight bytes at the pc nor the four are in memory, or those at
the pc are, but the eight bytes of RAM that they stand for are not. -/
inductive OutOfReach (f : CPUCore) : Prop where
  | virtual (noPair : ¬f.pc + 8 <= MEMORY_SIZE) (noSingle : ¬f.pc + 4 <= MEMORY_SIZE)
  | physical (found : TranslationResult) (mem : MemorySystem) (room : f.pc + 8 <= MEMORY_SIZE)
      (translated : f.translateFetch f.pc = .ok (found, mem)) (permitted : found.fault = false)
      (noRoom : ¬found.paddr + 8 <= MEMORY_SIZE)

/-- The tick finds nothing in the pipeline and fetches nothing. -/
structure Starves (s : CPUCore) : Prop where
  nothing : distance s = 4
  outOfReach : forall f, s.atFetch = .ok f -> OutOfReach f

/-! ## One stage after another -/

theorem distance_memWb {s : CPUCore} (valid : s.memWb.slots.s0.valid = true) : distance s = 0 := if_pos valid

theorem distance_exMem {s : CPUCore} (valid : s.exMem.slots.s0.valid = true) : distance s <= 1 := by
  unfold distance
  rw [if_pos valid]
  split <;> decide

theorem distance_idEx {s : CPUCore} (valid : s.idEx.slots.s0.valid = true) : distance s <= 2 := by
  unfold distance
  rw [if_pos valid]
  split
  · decide
  · split <;> decide

theorem distance_ifId {s : CPUCore} (valid : s.ifId.slots.s0.valid = true) : distance s <= 3 := by
  unfold distance
  rw [if_pos valid]
  repeat' split
  all_goals decide

/-- A slot in MEM/WB is retired, or it stops the simulator. -/
theorem writeBack_retires {s : CPUCore} (valid : s.memWb.slots.s0.valid = true)
    (continues : isHalt s.memWb.slots.s0.instr = false) : s.instrCount < s.writeBack.instrCount := by
  have first : (s.writeBackLane 0).instrCount = s.instrCount + 1 := by
    unfold writeBackLane
    simp [valid, continues]
  have second := writeBackLane_instrCount (s.writeBackLane 0) 1
  rw [first] at second
  exact second

theorem memoryAccess_moves {s e : CPUCore} (one : OneAccess s.exMem) (ran : s.memoryAccess = .ok (e, none))
    (valid : s.exMem.slots.s0.valid = true) : e.memWb.slots.s0.valid = true := by
  rcases memoryAccess_lanes one ran with ⟨mid, first, _, _, _, kept⟩
  have moved := (first.moved rfl).1
  change (e.memWb.slots.get 0).valid = true
  rw [kept, moved]
  exact valid

theorem execute_moves {e : CPUCore} (noTrap : trapLane e.executeResolved.exMem = none) :
    e.execute.exMem.slots.s0.valid = e.idEx.slots.s0.valid := by
  rw [CPUCore.execute, handleSlotTraps_none noTrap, (executeResolved_slot0 e).1]
  exact executedSlot_valid e.idEx e.memWb e.regFile e.exMem 0

/-- Behind a bubble the next instruction is issued. -/
theorem decodeAndIssue_moves {f : CPUCore} (valid : f.ifId.slots.s0.valid = true)
    (bubble : forall lane, (f.idEx.slots.get lane).valid = false) : f.decodeAndIssue.idEx.slots.s0.valid = true := by
  have bubble0 : f.idEx.slots.s0.valid = false := bubble 0
  have bubble1 : f.idEx.slots.s1.valid = false := bubble 1
  have noStall : forall slots, crossCycleStall f.idEx slots = false := by
    intro slots
    simp [crossCycleStall, loadUse, bubble0, bubble1]
  change (IssueUnit.decodeAndIssue f.ifId f.idEx).2.slots.s0.valid = true
  unfold IssueUnit.decodeAndIssue
  simp only [valid, noStall, Bool.not_true, Bool.false_eq_true, if_false]
  repeat' split
  all_goals exact valid

/-- Fetch fills an empty IF/ID, or there is nothing that it could reach. -/
theorem fetch_fills {f t : CPUCore} (running : f.running = true) (empty : f.ifId.slots.s0.valid = false)
    (ordered : f.ifId.slots.s1.valid = true -> f.ifId.slots.s0.valid = true)
    (noFault : ¬Exists fun found => Exists fun mem => FetchFaults f found mem) (ran : f.fetch = .ok t) :
    t.ifId.slots.s0.valid = true ∨ OutOfReach f := by
  have empty1 := invalid_of_ordered ordered empty
  unfold CPUCore.fetch at ran
  simp only [empty, empty1, Bool.false_eq_true, if_false] at ran
  split at ran
  · rename_i room
    rcases bind_eq_ok.mp ran with ⟨⟨found, mem⟩, translated, rest⟩
    have permitted : found.fault = false := by
      cases faulted : found.fault with
      | false => rfl
      | true => exact absurd ⟨found, mem, empty, .inl room, translated, faulted⟩ noFault
    simp only [permitted, Bool.false_eq_true, if_false] at rest
    split at rest
    · rcases bind_eq_ok.mp rest with ⟨⟨word, after⟩, _, done⟩
      cases done
      exact .inl rfl
    · split at rest
      · rcases bind_eq_ok.mp rest with ⟨double, _, done⟩
        cases done
        exact .inl rfl
      · exact .inr (.physical found mem room translated permitted ‹_›)
  · rename_i noPair
    split at ran
    · rename_i room
      rcases bind_eq_ok.mp ran with ⟨⟨word, mid⟩, fetched, rest⟩
      rcases bind_eq_ok.mp fetched with ⟨⟨found, mem⟩, translated, read⟩
      have permitted : found.fault = false := by
        cases faulted : found.fault with
        | false => rfl
        | true => exact absurd ⟨found, mem, empty, .inr room, translated, faulted⟩ noFault
      simp only [permitted, Bool.false_eq_true, if_false] at read
      rcases bind_eq_ok.mp read with ⟨⟨other, after⟩, _, done⟩
      cases done
      simp only [running, Bool.not_true, Bool.false_eq_true, if_false] at rest
      cases rest
      exact .inl rfl
    · exact .inr (.virtual noPair ‹_›)

/-! ## One tick -/

/-- What an undiverted tick does to the latches. -/
structure Advances (s t : CPUCore) : Prop where
  retires : s.memWb.slots.s0.valid = true -> s.instrCount < t.instrCount
  accesses : s.exMem.slots.s0.valid = true -> t.memWb.slots.s0.valid = true
  executes : t.exMem.slots.s0.valid = s.idEx.slots.s0.valid
  issues : s.idEx.slots.s0.valid = false -> s.ifId.slots.s0.valid = true -> t.idEx.slots.s0.valid = true
  fetches : s.idEx.slots.s0.valid = false -> s.ifId.slots.s0.valid = false ->
    t.ifId.slots.s0.valid = true ∨ forall f, s.atFetch = .ok f -> OutOfReach f

theorem Fetch.latches {s t : CPUCore} (fetched : Fetch s t)
    (noFault : ¬Exists fun found => Exists fun mem => FetchFaults s found mem) :
    t.idEx = s.idEx ∧ t.exMem = s.exMem ∧ t.memWb = s.memWb := by
  cases fetched with
  | full valid => exact ⟨rfl, rfl, rfl⟩
  | nothing mem empty same => exact ⟨rfl, rfl, rfl⟩
  | one word mem empty same => exact ⟨rfl, rfl, rfl⟩
  | pair word0 word1 mem empty same => exact ⟨rfl, rfl, rfl⟩
  | fault found mem faults => exact absurd ⟨found, mem, faults⟩ noFault
  | faultNearEnd found mem faults => exact absurd ⟨found, mem, faults⟩ noFault

theorem Undiverted.advances {s t : CPUCore} (undiverted : Undiverted s) (formed : WellFormed s)
    (running : t.running = true) (ticked : s.tick = .ok t) : Advances s t := by
  have wasRunning := running_of_tick ticked running
  have counters := tick_counters formed wasRunning ticked
  have continues : haltLane s.memWb = none := by
    have same := tick_running_eq formed wasRunning ticked
    rw [running] at same
    exact Option.isNone_iff_eq_none.mp same.symm
  rw [tick_running wasRunning] at ticked
  rcases bind_eq_ok.mp ticked with ⟨⟨e, trapped⟩, accessed, fetched⟩
  cases (show trapped = none from undiverted.noAccessTrap _ accessed)
  have before := atMemoryAccess_wellFormed formed
  have after := memoryAccess_wellFormed before accessed
  have atExecute : s.atExecute = .ok e := by
    rw [CPUCore.atExecute, accessed]
    rfl
  have atFetch := atFetch_of_atExecute atExecute
  have issued := decodeAndIssue_wellFormed (execute_wellFormed after)
  have front : e.ifId = s.ifId ∧ e.idEx = s.idEx ∧ s.atMemoryAccess.exMem = s.exMem := by
    rcases memoryAccess_frame before.executedPair.oneAccess accessed with ⟨mem, memWb, eEq⟩
    rcases writeBack_frame s.atWriteBack with ⟨regFile, count, stopped, written⟩
    rw [eEq, atMemoryAccess, written, atWriteBack_quiet undiverted.noInterrupt]
    exact ⟨rfl, rfl, rfl⟩
  rcases front with ⟨sameIfId, sameIdEx, sameExMem⟩
  have noFault := undiverted.noFetchFault _ atFetch
  rcases Fetch.latches (fetch_fetch issued.frontEnd.ordered fetched) noFault with ⟨keptIdEx, keptExMem, keptMemWb⟩
  have bubble : s.idEx.slots.s0.valid = false -> forall lane, (e.idEx.slots.get lane).valid = false := by
    intro invalid lane
    rw [sameIdEx]
    cases lane using laneCases with
    | zero => exact invalid
    | one => exact invalid_of_ordered formed.frontEnd.issued.ordered invalid
  refine ⟨?_, ?_, ?_, ?_, ?_⟩
  · intro valid
    rw [counters.1]
    have latch := (atWriteBack_backEnd s).2
    have retired := @writeBack_retires s.atWriteBack (by rw [latch]; exact valid)
      (by rw [latch]; exact haltLane_none continues 0 valid)
    have start : s.atWriteBack.instrCount = s.instrCount := by
      rw [atWriteBack_quiet undiverted.noInterrupt]
      rfl
    rw [start] at retired
    exact retired
  · intro valid
    rw [keptMemWb]
    change e.execute.memWb.slots.s0.valid = true
    rw [execute_memWb]
    exact memoryAccess_moves before.executedPair.oneAccess accessed (by rw [sameExMem]; exact valid)
  · rw [keptExMem, ← sameIdEx]
    exact execute_moves (undiverted.noTrap e atExecute)
  · intro invalid valid
    rw [keptIdEx, execute_of_invalid (bubble invalid)]
    exact decodeAndIssue_moves (by rw [← sameIfId] at valid; exact valid) (bubble invalid)
  · intro invalid empty
    have idle : e.execute.decodeAndIssue = e.execute := by
      rw [execute_of_invalid (bubble invalid)]
      exact decodeAndIssue_of_empty (by rw [← sameIfId] at empty; exact empty) (bubble invalid 0)
    have stillEmpty : e.execute.decodeAndIssue.ifId.slots.s0.valid = false := by
      rw [idle, execute_of_invalid (bubble invalid), ← empty, ← sameIfId]
    have stillRunning : e.execute.decodeAndIssue.running = true :=
      (fetch_fetch issued.frontEnd.ordered fetched).counters.2.symm.trans running
    rcases fetch_fills stillRunning stillEmpty issued.frontEnd.ordered noFault fetched with filled | outOfReach
    · exact .inl filled
    · refine .inr (fun f reached => ?_)
      cases atFetch.symm.trans reached
      exact outOfReach

/-- Everything that is in the pipeline comes closer to write-back. -/
theorem Undiverted.closer {s t : CPUCore} (undiverted : Undiverted s) (formed : WellFormed s)
    (running : t.running = true) (ticked : s.tick = .ok t) :
    s.instrCount < t.instrCount ∨ distance t < distance s ∨ Starves s := by
  have advances := undiverted.advances formed running ticked
  cases inWb : s.memWb.slots.s0.valid with
  | true => exact .inl (advances.retires inWb)
  | false =>
      apply Or.inr
      cases inMem : s.exMem.slots.s0.valid with
      | true =>
          have here : distance s = 1 := by simp [distance, inWb, inMem]
          rw [here, distance_memWb (advances.accesses inMem)]
          exact .inl (by decide)
      | false =>
          cases inEx : s.idEx.slots.s0.valid with
          | true =>
              have here : distance s = 2 := by simp [distance, inWb, inMem, inEx]
              rw [here]
              exact .inl (Nat.lt_succ_of_le (distance_exMem (advances.executes.trans inEx)))
          | false =>
              cases inId : s.ifId.slots.s0.valid with
              | true =>
                  have here : distance s = 3 := by simp [distance, inWb, inMem, inEx, inId]
                  rw [here]
                  exact .inl (Nat.lt_succ_of_le (distance_idEx (advances.issues inEx inId)))
              | false =>
                  have here : distance s = 4 := by simp [distance, inWb, inMem, inEx, inId]
                  rcases advances.fetches inEx inId with moved | outOfReach
                  · rw [here]
                    exact .inl (Nat.lt_succ_of_le (distance_ifId moved))
                  · exact .inr ⟨here, outOfReach⟩

/-! ## Every five ticks -/

theorem distance_le (s : CPUCore) : distance s <= 4 := by
  unfold distance
  repeat' split
  all_goals decide

theorem run_wellFormed {s t : CPUCore} (formed : WellFormed s) {n : Nat} (run : iterate tick n s = .ok t) :
    WellFormed t ∧ s.instrCount <= t.instrCount := by
  induction n generalizing t with
  | zero =>
      cases run
      exact ⟨formed, Nat.le_refl _⟩
  | succ n ih =>
      rcases iterate_succ.mp run with ⟨u, earlier, last⟩
      rcases ih earlier with ⟨before, since⟩
      exact ⟨tick_wellFormed u t before last, Nat.le_trans since (tick_instrCount before last)⟩

/-- After `n` undiverted ticks something has been retired, or has come closer,
or there was nothing to do. -/
theorem run_closer {s t : CPUCore} (formed : WellFormed s) {n : Nat} (run : iterate tick n s = .ok t)
    (running : t.running = true) (undiverted : forall k u, k < n -> iterate tick k s = .ok u -> Undiverted u) :
    s.instrCount < t.instrCount ∨ distance t + n <= distance s ∨
      Exists fun k => Exists fun u => k < n ∧ iterate tick k s = .ok u ∧ Starves u := by
  induction n generalizing t with
  | zero =>
      cases run
      exact .inr (.inl (Nat.le_refl _))
  | succ n ih =>
      rcases iterate_succ.mp run with ⟨u, earlier, last⟩
      rcases run_wellFormed formed earlier with ⟨before, since⟩
      have onwards := tick_instrCount before last
      rcases ih earlier (running_of_tick last running) (fun k v below => undiverted k v (Nat.lt_succ_of_lt below)) with
        retired | closer | ⟨k, v, below, reached, starves⟩
      · exact .inl (Nat.lt_of_lt_of_le retired onwards)
      · rcases (undiverted n u (Nat.lt_succ_self n) earlier).closer before running last with retired | nearer | starves
        · exact .inl (Nat.lt_of_le_of_lt since retired)
        · exact .inr (.inl (by omega))
        · exact .inr (.inr ⟨n, u, Nat.lt_succ_self n, earlier, starves⟩)
      · exact .inr (.inr ⟨k, v, Nat.lt_succ_of_lt below, reached, starves⟩)

/-- The simulator makes progress.  In every run, `5 * n` ticks that take no
interrupt, no trap and no trap return, and in which the simulator does not halt,
retire at least `n` instructions, unless in one of them the pipeline is empty
and the pc stands for no memory. -/
theorem every_five_ticks_retire {s t : CPUCore} (reachable : Reachable s) {n : Nat}
    (run : iterate tick (5 * n) s = .ok t) (running : t.running = true)
    (undiverted : forall k u, k < 5 * n -> iterate tick k s = .ok u -> Undiverted u) :
    s.instrCount + n <= t.instrCount ∨
      Exists fun k => Exists fun u => k < 5 * n ∧ iterate tick k s = .ok u ∧ Starves u := by
  have formed := reachable.wellFormed
  induction n generalizing t with
  | zero =>
      cases run
      exact .inl (Nat.le_refl _)
  | succ n ih =>
      rw [Nat.mul_succ, iterate_add] at run
      rcases bind_eq_ok.mp run with ⟨u, earlier, window⟩
      have middle := run_wellFormed formed earlier
      rcases ih earlier (running_before window running (Nat.zero_le 5) rfl)
          (fun k v below => undiverted k v (by omega)) with counted | ⟨k, v, below, reached, starves⟩
      · have later : forall k v, k < 5 -> iterate tick k u = .ok v -> iterate tick (5 * n + k) s = .ok v := by
          intro k v _ reached
          rw [iterate_add, earlier]
          exact reached
        rcases run_closer middle.1 window running (fun k v below reached =>
            undiverted (5 * n + k) v (by omega) (later k v below reached)) with
          retired | closer | ⟨k, v, below, reached, starves⟩
        · exact .inl (by omega)
        · have least := distance_le u
          omega
        · exact .inr ⟨5 * n + k, v, by omega, later k v below reached, starves⟩
      · exact .inr ⟨k, v, by omega, reached, starves⟩

theorem QuietTick.undiverted {s : CPUCore} (quiet : QuietTick s) : Undiverted s :=
  ⟨quiet.noInterrupt, quiet.noAccessTrap, quiet.noTrap, quiet.noFetchFault⟩

/-- A load, its use, a branch that is not predicted but taken, and a loop. -/
def bubbles : CPUCore := init .default128MB (ramImage
  [(0, 0x10002083#32), (4, 0x00108133#32), (8, 0x00000463#32), (12, 0x00100193#32), (16, 0x0000006F#32)]) {}

theorem every_five_ticks_retire_bubbles : Exists fun t => iterate tick (5 * 2) bubbles = .ok t ∧
    (bubbles.instrCount + 2 <= t.instrCount ∨
      Exists fun k => Exists fun u => k < 5 * 2 ∧ iterate tick k bubbles = .ok u ∧ Starves u) := by
  have passed : everyState tick quietTest (5 * 2) bubbles = true := by decide +kernel
  have finished : passes (iterate tick (5 * 2) bubbles) (fun t => t.running) = true := by decide +kernel
  rcases exists_of_passes finished with ⟨t, run, running⟩
  refine ⟨t, run, every_five_ticks_retire ⟨_, _, _, 0, rfl⟩ run running ?_⟩
  intro k u below reached
  rcases everyState_sound passed below with ⟨v, _, same, tested, _⟩
  cases reached.symm.trans same
  exact (quietTest_sound tested).undiverted

end Halting
end SimpleRV
