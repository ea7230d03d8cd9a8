import SimpleRV.Pipeline.AccessAddress
import SimpleRV.Pipeline.IssueOnce
import SimpleRV.Refinement.Effects
import SimpleRV.Refinement.SlotWords

namespace SimpleRV
namespace Refinement

open IssueUnit CPUCore Memory MemorySystem Pipeline InFlight Iteration

/-!
# Programs that store to their own code

FENCE.I is decoded as a NOP, so nothing drops the words that were fetched
before a store to their address.  What is executed is the word that RAM held
when it was fetched.  Fetch follows the memory stage in a tick, so only the
words in IF/ID and ID/EX at the time of the store can be old ones.

The runs of this module mark these words, and carry the marks along.
-/

/-! ## Marks -/

/-- A core, and for each slot of IF/ID and ID/EX whether its word was there when
the run began. -/
structure Marked where
  core : CPUCore
  ifIdOld : Dual Bool
  idExOld : Dual Bool

def startMarked (s : CPUCore) : Marked := ⟨s, ⟨true, true⟩, ⟨true, true⟩⟩

/-- A tick with marks: fetch fills slots with unmarked words. -/
def markedTick (m : Marked) : Except Crash Marked :=
  if !m.core.running then .ok { m with core := m.core.atWriteBack }
  else do
    let e ← m.core.atExecute
    let d := e.execute
    let y := d.decodeAndIssue
    let u ← y.fetch
    return {
      core := u
      ifIdOld := if y.ifId.slots.s0.valid then moveMarks d.ifId y.ifId m.ifIdOld else ⟨false, false⟩
      idExOld := if d.ifId.slots.s0.valid then m.ifIdOld else m.idExOld }

/-- The core of a run with marks makes the ticks of the core. -/
theorem markedTick_core {m next : Marked} (ran : markedTick m = .ok next) : m.core.tick = .ok next.core := by
  unfold markedTick at ran
  split at ran
  · cases ran
    rw [tick, if_pos ‹_›]
  · rename_i running
    rcases bind_eq_ok.mp ran with ⟨e, executing, rest⟩
    rcases bind_eq_ok.mp rest with ⟨u, fetched, done⟩
    cases done
    exact (tick_of_atExecute (by simpa using running) executing).trans fetched

theorem iterate_markedTick_core {s : CPUCore} {m : Marked} {n : Nat}
    (run : iterate markedTick n (startMarked s) = .ok m) : iterate tick n s = .ok m.core := by
  induction n generalizing m with
  | zero =>
      cases run
      rfl
  | succ n ih =>
      rcases iterate_succ.mp run with ⟨before, earlier, last⟩
      exact iterate_succ.mpr ⟨before.core, ih earlier, markedTick_core last⟩

/-! ## What marked and unmarked words are -/

section Tracing

variable {fact : Bool -> Addr -> Word -> Prop}

/-- Both latches of the front end. -/
structure TracedFront (fact : Bool -> Addr -> Word -> Prop) (s : CPUCore) (ifIdOld idExOld : Dual Bool) : Prop where
  waiting : Traced fact s.ifId.pc s.ifId.slots ifIdOld
  issued : Traced fact s.idEx.pc s.idEx.slots idExOld

theorem TracedFront.kept {s t : CPUCore} {ifIdOld idExOld : Dual Bool} (traced : TracedFront fact s ifIdOld idExOld)
    (kept : FrontKept s t) : TracedFront fact t ifIdOld idExOld := by
  rcases kept with ⟨sameIfId, sameIdEx⟩ | ⟨noIfId, noIdEx⟩
  · constructor
    · rw [sameIfId]
      exact traced.waiting
    · rw [sameIdEx]
      exact traced.issued
  · constructor
    · rw [noIfId]
      exact traced_of_invalid rfl rfl
    · rw [noIdEx]
      exact traced_of_invalid rfl rfl

/-- A tick keeps what the marks stand for, if it is true of the words that are
fetched. -/
theorem markedTick_traced {m next : Marked} (wellFormed : WellFormed m.core)
    (traced : TracedFront fact m.core m.ifIdOld m.idExOld)
    (fetched : forall y, m.core.atFetch = .ok y -> y.fetch = .ok next.core -> y.ifId.slots.s0.valid = false ->
      Traced fact next.core.ifId.pc next.core.ifId.slots ⟨false, false⟩)
    (ran : markedTick m = .ok next) : TracedFront fact next.core next.ifIdOld next.idExOld := by
  unfold markedTick at ran
  split at ran
  · cases ran
    exact traced.kept (atWriteBack_front m.core)
  · rcases bind_eq_ok.mp ran with ⟨e, executing, rest⟩
    rcases bind_eq_ok.mp rest with ⟨u, fetching, done⟩
    cases done
    have issuing := atFetch_of_atExecute executing
    have before := (traced.kept (atExecute_front wellFormed executing)).kept (execute_front e)
    have moved := issue_traced (decodeAndIssue_issue e.execute.ifId e.execute.idEx) before.waiting
      (fun _ => before.issued)
    have ordered := (atFetch_wellFormed wellFormed issuing).frontEnd.ordered
    have ending := fetch_fetch ordered fetching
    constructor
    · cases empty : e.execute.decodeAndIssue.ifId.slots.s0.valid with
      | true =>
          have same : u = e.execute.decodeAndIssue := by
            unfold CPUCore.fetch at fetching
            rw [if_pos empty] at fetching
            exact (Except.ok.inj fetching).symm
          simp only [if_true, same]
          exact moved.1
      | false =>
          simp only [Bool.false_eq_true, if_false]
          exact fetched _ issuing fetching empty
    · have flushed : u.idEx = e.execute.decodeAndIssue.idEx ∨ u.idEx = {} := by
        cases ending with
        | full valid => exact .inl rfl
        | nothing mem empty same => exact .inl rfl
        | one word mem empty same => exact .inl rfl
        | pair word0 word1 mem empty same => exact .inl rfl
        | fault found mem faults => exact .inr rfl
        | faultNearEnd found mem faults => exact .inr rfl
      rcases flushed with same | none
      · simp only [same]
        exact moved.2
      · simp only [none]
        exact traced_of_invalid rfl rfl

end Tracing

/-! ## The words that fetch delivers -/

/-- Outside the CLINT window the word is the one that RAM holds there. -/
def FromRam (ram : Addr -> Byte) (_ : Bool) (pc : Addr) (word : Word) : Prop :=
  inClint pc = false -> word = LittleEndian.load ram pc 4

/-- In M mode fetch delivers the words of RAM. -/
theorem fetch_fromRam {y u : CPUCore} (machine : y.regFile.privilege = PRV_M)
    (ordered : y.ifId.slots.s1.valid = true -> y.ifId.slots.s0.valid = true)
    (empty : y.ifId.slots.s0.valid = false) (ran : y.fetch = .ok u) :
    Traced (FromRam y.memory.memory) u.ifId.pc u.ifId.slots ⟨false, false⟩ := by
  have empty1 := invalid_of_ordered ordered empty
  have none : Traced (FromRam y.memory.memory) y.ifId.pc y.ifId.slots ⟨false, false⟩ := traced_of_invalid empty empty1
  have ending := fetch_end ordered ran
  cases ending with
  | full valid => exact none
  | outside free => exact none
  | beyond found mem finds => exact none
  | stopped found mem after word finds reads => exact none
  | one found mem after word finds reads =>
      rcases finds.machine machine with ⟨samePc, sameMem⟩
      rw [samePc, sameMem] at reads
      refine traced_alone empty1 (fun _ => ?_)
      change FromRam y.memory.memory false (slotPc y.pc 0) word
      rw [show slotPc y.pc 0 = y.pc from BitVec.add_zero _]
      intro noClint
      exact read_ok_load noClint (noUart_of_bounds finds.inMemory) reads
  | pair found mem double finds reads =>
      rcases finds.machine machine with ⟨samePc, sameMem⟩
      rw [samePc, sameMem] at reads
      have loaded := readDoubleInstr_ok_load reads
      rcases load_double y.memory.memory y.pc with ⟨low, high⟩
      rw [← loaded] at low high
      have first : slotPc y.pc 0 = y.pc := BitVec.add_zero _
      intro lane _ _
      cases lane using laneCases with
      | zero =>
          rw [first]
          exact low
      | one => exact high
  | fault found mem faults => exact absurd machine faults.notMachine
  | faultNearEnd found mem faults => exact absurd machine faults.notMachine

/-! ## The tick of a store -/

/-- In its next tick the core makes the store of this lane, which is one to RAM
in M mode. -/
structure StoresToRam (s : CPUCore) (lane : Fin 2) : Prop where
  running : s.running = true
  machine : s.atMemoryAccess.regFile.privilege = PRV_M
  valid : (s.exMem.slots.get lane).valid = true
  writes : s.exMem.memWrite.get lane = true
  accessible : Accessible (s.exMem.memAddr.get lane) (storeWidth (memFunct3 (s.exMem.slots.get lane).instr))

/-- RAM with the store made. -/
def storedRam (s : CPUCore) (lane : Fin 2) : Addr -> Byte :=
  LittleEndian.store s.memory.memory (s.exMem.memAddr.get lane) (s.exMem.memData.get lane)
    (storeWidth (memFunct3 (s.exMem.slots.get lane).instr))

theorem pending_store {exMem : ExMemBuffer} (pair : EnginePair exMem) {lane : Fin 2}
    (valid : (exMem.slots.get lane).valid = true) (writes : exMem.memWrite.get lane = true) (data : DataState) :
    (pending exMem data).ram = LittleEndian.store data.ram (exMem.memAddr.get lane) (exMem.memData.get lane)
      (storeWidth (memFunct3 (exMem.slots.get lane).instr)) := by
  have stores : forall data : DataState, ((inFlight exMem lane).apply data).ram =
      LittleEndian.store data.ram (exMem.memAddr.get lane) (exMem.memData.get lane)
        (storeWidth (memFunct3 (exMem.slots.get lane).instr)) := by
    intro data
    unfold InFlight.apply
    simp only [inFlight, valid, writes, Bool.and_self, if_true]
  have quiet : forall other, other ≠ lane -> forall data : DataState,
      ((inFlight exMem other).apply data).ram = data.ram := by
    intro other different data
    have idle := pair.idle valid (.inr writes) different
    unfold InFlight.apply
    refine if_neg (fun both => ?_)
    rcases Bool.and_eq_true_iff.mp both with ⟨otherValid, otherWrites⟩
    exact absurd otherWrites (ne_true_of_eq_false (idle otherValid).2)
  unfold pending
  cases lane using laneCases with
  | zero => rw [quiet 1 (by decide), stores]
  | one => rw [stores, quiet 0 (by decide)]

/-- At the end of the tick the store is made. -/
theorem tick_stores {s t : CPUCore} {lane : Fin 2} (wellFormed : WellFormed s) (stores : StoresToRam s lane)
    (ran : s.tick = .ok t) : t.memory.memory = storedRam s lane := by
  have formed := atMemoryAccess_wellFormed wellFormed
  have pair := formed.executedPair.toEnginePair
  have latch := (atMemoryAccess_backEnd s).1
  have sameRam : s.atMemoryAccess.memory.memory = s.memory.memory := by
    rw [atMemoryAccess_memory]
    rfl
  have can : forall other, (s.atMemoryAccess.exMem.slots.get other).valid = true ->
      CanAccess (inFlight s.atMemoryAccess.exMem other) := by
    rw [latch] at pair ⊢
    intro other otherValid
    by_cases here : other = lane
    · subst here
      exact ⟨fun reads => absurd stores.writes (ne_true_of_eq_false (pair.oneAccess other otherValid reads)),
        fun _ => stores.accessible⟩
    · have idle := pair.idle stores.valid (.inr stores.writes) here otherValid
      exact ⟨fun reads => absurd reads (ne_true_of_eq_false idle.1),
        fun writes => absurd writes (ne_true_of_eq_false idle.2)⟩
  rcases memoryAccess_machine stores.machine pair.oneAccess can with ⟨mem, accessed, ram, _⟩
  rw [tick_running stores.running, accessed] at ran
  have fetched : CPUCore.fetch (CPUCore.decodeAndIssue (CPUCore.execute { s.atMemoryAccess with
    memory := mem, memWb := movedLatch s.atMemoryAccess.exMem s.atMemoryAccess.memory.memory })) = .ok t := ran
  have executed := execute_wellFormed (memoryAccess_wellFormed formed accessed)
  have ordered := (decodeAndIssue_wellFormed executed).frontEnd.ordered
  have same := (fetch_fetch ordered fetched).sameStorage.memory.trans (execute_sameStorage _).memory
  rw [same]
  change mem.memory = _
  rw [← ram (fun _ => 0), pending_store pair (latch ▸ stores.valid) (latch ▸ stores.writes), latch, sameRam]
  rfl

/-! ## Runs from the store on -/

/-- The instructions behind the store in the pipeline, with their addresses. -/
def heldBehind (s : CPUCore) : List (Addr × Word) :=
  entries s.idEx.pc s.idEx.slots ++ entries s.ifId.pc s.ifId.slots

/-- The fetches of the first `n` ticks are made in M mode. -/
def FetchesInMachineMode (s : CPUCore) (n : Nat) : Prop :=
  forall k before x, k < n -> iterate tick k s = .ok before -> before.atFetch = .ok x -> x.regFile.privilege = PRV_M

/-- From the second to the `n`-th tick the word at the address stays. -/
def WordStays (s : CPUCore) (n : Nat) (addr : Addr) : Prop :=
  forall k before after, 0 < k -> k < n -> iterate tick k s = .ok before -> before.tick = .ok after ->
    (LittleEndian.load after.memory.memory addr 4 : Word) = LittleEndian.load before.memory.memory addr 4

/-- Marked words were behind the store, and an unmarked word from the address
is the one that the store has left there. -/
def Stored (s : CPUCore) (lane : Fin 2) (addr : Addr) (old : Bool) (pc : Addr) (instr : Word) : Prop :=
  (old = true -> (pc, instr) ∈ heldBehind s) ∧
    (old = false -> pc = addr -> instr = LittleEndian.load (storedRam s lane) addr 4)

theorem mem_entries {pc : Addr} {slots : Dual PipelineSlot} {lane : Fin 2} (valid : (slots.get lane).valid = true) :
    (slotPc pc lane, (slots.get lane).instr) ∈ entries pc slots := by
  cases lane using laneCases with
  | zero =>
      have valid0 : slots.s0.valid = true := valid
      rw [show slotPc pc 0 = pc from BitVec.add_zero _, entries, valid0]
      exact List.mem_append_left _ (List.mem_singleton.mpr rfl)
  | one =>
      have valid1 : slots.s1.valid = true := valid
      rw [entries, valid1]
      exact List.mem_append_right _ (List.mem_singleton.mpr rfl)

theorem start_traced (s : CPUCore) (lane : Fin 2) (addr : Addr) :
    TracedFront (Stored s lane addr) s ⟨true, true⟩ ⟨true, true⟩ := by
  have marked : forall slot : Fin 2, (Dual.mk true true).get slot ≠ false := by decide
  constructor
  · intro slot valid
    exact ⟨fun _ => List.mem_append_right _ (mem_entries valid), fun young => absurd young (marked slot)⟩
  · intro slot valid
    exact ⟨fun _ => List.mem_append_left _ (mem_entries valid), fun young => absurd young (marked slot)⟩

section Run

variable {s : CPUCore} {lane : Fin 2}

theorem run_traced (wellFormed : WellFormed s) (stores : StoresToRam s lane) {addr : Addr}
    (noClint : inClint addr = false) {n : Nat} {m : Marked} (run : iterate markedTick n (startMarked s) = .ok m)
    (machine : FetchesInMachineMode s n) (stays : WordStays s n addr) :
    WellFormed m.core ∧ TracedFront (Stored s lane addr) m.core m.ifIdOld m.idExOld ∧
      (0 < n -> (LittleEndian.load m.core.memory.memory addr 4 : Word) =
        LittleEndian.load (storedRam s lane) addr 4) := by
  induction n generalizing m with
  | zero =>
      cases run
      exact ⟨wellFormed, start_traced s lane addr, fun impossible => absurd impossible (Nat.lt_irrefl 0)⟩
  | succ n ih =>
      rcases iterate_succ.mp run with ⟨before, earlier, last⟩
      have coreEarlier := iterate_markedTick_core earlier
      have ticked := markedTick_core last
      rcases ih earlier (fun k u x below => machine k u x (Nat.lt_succ_of_lt below))
        (fun k u v positive below => stays k u v positive (Nat.lt_succ_of_lt below)) with ⟨formed, traced, word⟩
      have wordAfter : (LittleEndian.load m.core.memory.memory addr 4 : Word) =
          LittleEndian.load (storedRam s lane) addr 4 := by
        cases n with
        | zero =>
            cases coreEarlier
            rw [tick_stores wellFormed stores ticked]
        | succ n =>
            rw [stays (n + 1) before.core m.core (Nat.succ_pos n) (Nat.lt_succ_self (n + 1)) coreEarlier ticked]
            exact word (Nat.succ_pos n)
      refine ⟨tick_wellFormed _ _ formed ticked, ?_, fun _ => wordAfter⟩
      refine markedTick_traced formed traced ?_ last
      intro y issuing fetching empty slot valid
      have inMachine := machine n before.core y (Nat.lt_succ_self n) coreEarlier issuing
      have ordered := (atFetch_wellFormed formed issuing).frontEnd.ordered
      have word := fetch_fromRam inMachine ordered empty fetching slot valid
      rw [← (fetch_fetch ordered fetching).sameStorage.memory] at word
      have unmarked : forall slot : Fin 2, (Dual.mk false false).get slot = false := by decide
      refine ⟨fun old => absurd ((unmarked slot).symm.trans old) Bool.false_ne_true, fun _ here => ?_⟩
      rw [here] at word
      exact (word noClint).trans wordAfter

/-- The store of a word leaves that word. -/
theorem storedRam_word (word : storeWidth (memFunct3 (s.exMem.slots.get lane).instr) = 4) :
    LittleEndian.load (storedRam s lane) (s.exMem.memAddr.get lane) 4 = s.exMem.memData.get lane := by
  rw [storedRam, word]
  exact LittleEndian.load_store _ _ _ (by decide) rfl

/-- In every run in M mode from a store to RAM on, an instruction from the
stored address is the word that the store has left there, as long as no other
store follows.  Only instructions that were in the pipeline behind the store
are executed as they were fetched. -/
theorem executed_after_store (reachable : Reachable s) (stores : StoresToRam s lane) {addr : Addr}
    (noClint : inClint addr = false) {n : Nat} {m : Marked} (run : iterate markedTick n (startMarked s) = .ok m)
    (machine : FetchesInMachineMode s n) (stays : WordStays s n addr) {e : CPUCore}
    (executing : m.core.atExecute = .ok e) {slot : Fin 2} (valid : (e.idEx.slots.get slot).valid = true) :
    ((m.idExOld.get slot = true ∧ (slotPc e.idEx.pc slot, (e.idEx.slots.get slot).instr) ∈ heldBehind s) ∨
      (m.idExOld.get slot = false ∧ (slotPc e.idEx.pc slot = addr ->
        (e.idEx.slots.get slot).instr = LittleEndian.load (storedRam s lane) addr 4))) ∧
      (storeWidth (memFunct3 (s.exMem.slots.get lane).instr) = 4 ->
        LittleEndian.load (storedRam s lane) (s.exMem.memAddr.get lane) 4 = s.exMem.memData.get lane) := by
  refine ⟨?_, storedRam_word⟩
  rcases run_traced reachable.wellFormed stores noClint run machine stays with ⟨formed, traced, _⟩
  have fact := (traced.kept (atExecute_front formed executing)).issued slot valid
  cases old : m.idExOld.get slot with
  | true => exact .inl ⟨rfl, fact.1 old⟩
  | false => exact .inr ⟨rfl, fact.2 old⟩

end Run

/-! ## Two runs -/

/-- Machine code that puts the word 0x00200093 (`addi x1, x0, 2`) into `x6`, an
address into `x5`, stores the one to the other and executes a FENCE.I. -/
def storeThenFence (loadAddr : Word) (rest : List (Addr × Word)) : List (Addr × Word) :=
  [(0x00, 0x00200337#32), (0x04, 0x09330313#32), (0x08, loadAddr), (0x0C, 0x0062A023#32), (0x10, 0x0000100F#32)] ++ rest

def storeRun (loadAddr : Word) (rest : List (Addr × Word)) (ticks : Nat) : Except Crash CPUCore :=
  iterate tick ticks (init .default128MB (ramImage (storeThenFence loadAddr rest)) {})

/-- The test of `StoresToRam`, for a store of the word to the address. -/
def storesWord (s : CPUCore) (lane : Fin 2) (addr : Addr) (word : Word) : Bool :=
  s.running && decide (s.atMemoryAccess.regFile.privilege = PRV_M) && (s.exMem.slots.get lane).valid &&
    s.exMem.memWrite.get lane && decide (memFunct3 (s.exMem.slots.get lane).instr = 2) &&
      decide (s.exMem.memAddr.get lane = addr) && decide (s.exMem.memData.get lane = word)

theorem storesWord_sound {s : CPUCore} {lane : Fin 2} {addr : Addr} {word : Word} (accessible : Accessible addr 4)
    (tested : storesWord s lane addr word = true) : StoresToRam s lane ∧ s.exMem.memAddr.get lane = addr ∧
      s.exMem.memData.get lane = word ∧ storeWidth (memFunct3 (s.exMem.slots.get lane).instr) = 4 := by
  simp only [storesWord, Bool.and_eq_true, decide_eq_true_eq] at tested
  rcases tested with ⟨⟨⟨⟨⟨⟨running, machine⟩, valid⟩, writes⟩, funct3⟩, here⟩, data⟩
  have width : storeWidth (memFunct3 (s.exMem.slots.get lane).instr) = 4 := by
    rw [funct3]
    rfl
  refine ⟨⟨running, machine, valid, writes, ?_⟩, here, data, width⟩
  rw [here, width]
  exact accessible

theorem fetchesInMachineMode_of_everyState {s : CPUCore} {n : Nat}
    (passed : everyState tick (fun u => passes u.atFetch (fun x => decide (x.regFile.privilege = PRV_M))) n s = true) :
    FetchesInMachineMode s n := by
  intro k before x below earlier issuing
  rcases everyState_sound passed below with ⟨state, _, reached, test, _⟩
  cases reached.symm.trans earlier
  rw [issuing] at test
  exact of_decide_eq_true test

theorem wordStays_of_everyState {s t : CPUCore} {n : Nat} {addr : Addr} (first : s.tick = .ok t)
    (passed : everyState tick (fun u => passes u.tick (fun v => decide
      ((LittleEndian.load v.memory.memory addr 4 : Word) = LittleEndian.load u.memory.memory addr 4))) n t = true) :
    WordStays s (n + 1) addr := by
  intro k before after positive below earlier ticked
  cases k with
  | zero => exact absurd positive (Nat.lt_irrefl 0)
  | succ k =>
      rw [iterate_succ_head, first] at earlier
      rcases everyState_sound passed (Nat.lt_of_succ_lt_succ below) with ⟨state, _, reached, test, _⟩
      cases reached.symm.trans earlier
      rw [ticked] at test
      exact of_decide_eq_true test

/-- The store is to an address that is not fetched yet. -/
theorem executed_after_store_far : Exists fun s => Exists fun m : Marked => Exists fun e : CPUCore => Reachable s ∧
    StoresToRam s 1 ∧ s.exMem.memAddr.s1 = 0x34 ∧ iterate markedTick 4 (startMarked s) = .ok m ∧
      m.core.atExecute = .ok e ∧ slotPc e.idEx.pc 1 = 0x34 ∧ e.idEx.slots.s1.valid = true ∧
        e.idEx.slots.s1.instr = 0x00200093#32 := by
  have passed : passes (storeRun 0x03400293#32 ((List.range 9).map (fun i => (BitVec.ofNat 32 (0x14 + 4 * i),
      0x00000013#32))) 4) (fun s => storesWord s 1 0x34 0x00200093#32 &&
        everyState tick (fun u => passes u.atFetch (fun x => decide (x.regFile.privilege = PRV_M))) 4 s &&
        passes s.tick (fun t => everyState tick (fun u => passes u.tick (fun v => decide
          ((LittleEndian.load v.memory.memory 0x34 4 : Word) = LittleEndian.load u.memory.memory 0x34 4))) 3 t) &&
        passes (iterate markedTick 4 (startMarked s)) (fun m => !m.idExOld.s1 && passes m.core.atExecute (fun e =>
          e.idEx.slots.s1.valid && decide (slotPc e.idEx.pc 1 = 0x34)))) = true := by
    decide +kernel
  rcases exists_of_passes passed with ⟨s, reached, tests⟩
  simp only [Bool.and_eq_true] at tests
  rcases tests with ⟨⟨⟨stored, machine⟩, staying⟩, running⟩
  have accessible : Accessible 0x34 4 := ⟨by decide, by decide, by decide⟩
  rcases storesWord_sound accessible stored with ⟨stores, here, data, width⟩
  rcases exists_of_passes staying with ⟨t, first, stays⟩
  rcases exists_of_passes running with ⟨m, run, tests⟩
  rcases Bool.and_eq_true_iff.mp tests with ⟨unmarked, tests⟩
  rcases exists_of_passes tests with ⟨e, executing, tests⟩
  simp only [Bool.and_eq_true, decide_eq_true_eq] at tests
  have young : m.idExOld.get 1 ≠ true := ne_true_of_eq_false (by simpa using unmarked)
  rcases executed_after_store ⟨_, _, _, 4, reached⟩ stores accessible.noClint run
    (fetchesInMachineMode_of_everyState machine) (wordStays_of_everyState first stays) executing
      (show (e.idEx.slots.get 1).valid = true from tests.1) with ⟨old | fresh, word⟩
  · exact absurd old.1 young
  · have instr := (fresh.2 tests.2).trans ((congrArg (fun addr => LittleEndian.load (storedRam s 1) addr 4)
      here.symm).trans ((word width).trans data))
    exact ⟨s, m, e, ⟨_, _, _, 4, reached⟩, stores, here, run, executing, tests.2, tests.1, instr⟩

/-- The store is to the instruction behind the FENCE.I.  It is executed as it
was fetched, when RAM holds the new word. -/
theorem fence_i_keeps_stale_word : Exists fun s => Exists fun e : CPUCore => Exists fun u : CPUCore =>
    Reachable s ∧ StoresToRam s 1 ∧ s.exMem.memAddr.s1 = 0x14 ∧ s.atExecute = .ok e ∧
      LittleEndian.load e.memory.memory 0x14 4 = 0x00200093#32 ∧
      entries e.idEx.pc e.idEx.slots = [(0x10#32, 0x0000100F#32), (0x14#32, 0x00100093#32)] ∧
      iterate tick 4 s = .ok u ∧ u.regFile.gpr 1 = 1 := by
  have passed : passes (storeRun 0x01400293#32 [(0x14, 0x00100093#32)] 4) (fun s =>
      storesWord s 1 0x14 0x00200093#32 && passes s.atExecute (fun e =>
        decide (LittleEndian.load e.memory.memory 0x14 4 = 0x00200093#32) &&
          decide (entries e.idEx.pc e.idEx.slots = [(0x10#32, 0x0000100F#32), (0x14#32, 0x00100093#32)])) &&
        passes (iterate tick 4 s) (fun u => decide (u.regFile.gpr 1 = 1))) = true := by
    decide +kernel
  rcases exists_of_passes passed with ⟨s, reached, tests⟩
  simp only [Bool.and_eq_true] at tests
  rcases tests with ⟨⟨stored, executing⟩, ending⟩
  rcases storesWord_sound ⟨by decide, by decide, by decide⟩ stored with ⟨stores, here, _⟩
  rcases exists_of_passes executing with ⟨e, executing, tests⟩
  rcases exists_of_passes ending with ⟨u, run, result⟩
  simp only [Bool.and_eq_true, decide_eq_true_eq] at tests result
  exact ⟨s, e, u, ⟨_, _, _, 4, reached⟩, stores, here, executing, tests.1, tests.2, run, result⟩

end Refinement
end SimpleRV
