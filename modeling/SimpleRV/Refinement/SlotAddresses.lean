import SimpleRV.Memory.Operations
import SimpleRV.Refinement.Path
import SimpleRV.Refinement.StoredCode

namespace SimpleRV
namespace Refinement

open IssueUnit CPUCore ExecutionEngine Memory MemorySystem Pipeline InFlight Iteration

/-!
# The addresses of the instructions in the pipeline

A latch has one pc for its two slots, and slot `i` is taken to come from
`pc + 4 * i`.  In a run in M mode that does not overwrite its own code, the word
in the slot is the one that RAM holds at that address, through shifts, stalls,
redirections, traps and interrupts.
-/

/-! ## What a tick can do to RAM -/

theorem storeAccess_aligned {mem after : MemorySystem} {regFile : RegisterFile} {funct3 : BitVec 3} {addr : Addr}
    {data : Word} (ran : storeAccess mem regFile funct3 addr data = .ok (.done (), after)) :
    misaligned addr (storeWidth funct3) = false := by
  cases aligned : misaligned addr (storeWidth funct3) with
  | false => rfl
  | true =>
      unfold storeAccess at ran
      simp only [aligned, if_true] at ran
      cases ran

/-- In M mode a store changes only its own bytes of RAM. -/
theorem storeAccess_byte {mem after : MemorySystem} {regFile : RegisterFile} {funct3 : BitVec 3} {addr : Addr}
    {data : Word} {x : Addr} (machine : regFile.privilege = PRV_M)
    (ran : storeAccess mem regFile funct3 addr data = .ok (.done (), after))
    (outside : Accessible addr (storeWidth funct3) -> forall j, j < storeWidth funct3 -> x ≠ addr + BitVec.ofNat 32 j) :
    after.memory x = mem.memory x := by
  have aligned := storeAccess_aligned ran
  have ends := storeAccess_end ran
  cases ends with
  | stored found between after translated served written =>
      rw [machine, translate_machine] at translated
      cases translated
      have effect := write_effect written
      cases effect with
      | compareLow here whole => rfl
      | compareHigh here whole => rfl
      | ignored clint elsewhere => rfl
      | uart here => rfl
      | ram noClint noUart within =>
          have inRam := inRam_of_inRange (storeWidth_pos funct3) (storeWidth_le funct3) within
          exact LittleEndian.store_of_ne (outside ⟨aligned, inRam, noClint⟩)

/-- The byte is not one that a store in this lane goes to. -/
def OutsideStore (exMem : ExMemBuffer) (lane : Fin 2) (x : Addr) : Prop :=
  (exMem.slots.get lane).valid = true -> exMem.memWrite.get lane = true ->
    Accessible (exMem.memAddr.get lane) (storeWidth (memFunct3 (exMem.slots.get lane).instr)) ->
      forall j, j < storeWidth (memFunct3 (exMem.slots.get lane).instr) ->
        x ≠ exMem.memAddr.get lane + BitVec.ofNat 32 j

theorem laneOutcome_byte {s : CPUCore} {lane : Fin 2} {out : CPUCore × Bool} {x : Addr}
    (outcome : LaneOutcome s lane out) (machine : s.regFile.privilege = PRV_M)
    (outside : OutsideStore s.exMem lane x) : out.1.memory.memory x = s.memory.memory x := by
  have accessed : forall {result : Access Word} {mem : MemorySystem}, (s.exMem.slots.get lane).valid = true ->
      laneAccess s lane = .ok (result, mem) -> mem.memory x = s.memory.memory x := by
    intro result mem valid access
    have ends := laneAccess_end access
    cases ends with
    | load reads loaded => rw [(loadAccess_sameStorage loaded).memory]
    | storeTrap notRead writes trap => rw [(storeAccess_trap trap).sameStorage.memory]
    | store notRead writes stored => exact storeAccess_byte machine stored (outside valid writes)
    | none notRead notWrite => rfl
  cases outcome with
  | empty invalid => rfl
  | finished value mem valid access => exact accessed valid access
  | trapped cause mem valid access => exact accessed valid access

/-- The memory stage changes only the bytes that its stores go to. -/
theorem stageOutcome_byte {s : CPUCore} {out : CPUCore × Option (Fin 2)} {x : Addr} (outcome : StageOutcome s out)
    (machine : s.regFile.privilege = PRV_M) (outside : forall lane, OutsideStore s.exMem lane x) :
    out.1.memory.memory x = s.memory.memory x :=
  @StageOutcome.preserves (fun t => t.memory.memory x = s.memory.memory x) _ _ outcome rfl
    (fun _ _ lane _ same done => (laneOutcome_byte done machine (outside lane)).trans same)

/-! ## The words in the latches -/

/-- Every word in the slots has the property at its address. -/
def SlotsHold (fact : Addr -> Word -> Prop) (pc : Addr) (slots : Dual PipelineSlot) : Prop :=
  forall lane, (slots.get lane).valid = true -> fact (slotPc pc lane) (slots.get lane).instr

structure LatchesHold (fact : Addr -> Word -> Prop) (s : CPUCore) : Prop where
  ifId : SlotsHold fact s.ifId.pc s.ifId.slots
  idEx : SlotsHold fact s.idEx.pc s.idEx.slots
  exMem : SlotsHold fact s.exMem.pc s.exMem.slots

/-- EX/MEM is as it was, or a trap has emptied it. -/
def ExMemKept (s t : CPUCore) : Prop :=
  t.exMem = s.exMem ∨ forall lane, (t.exMem.slots.get lane).valid = false

theorem returnTo_empties (s : CPUCore) (target : RegisterFile × Addr) (lane : Fin 2) :
    ((s.returnTo target).exMem.slots.get lane).valid = false := by
  cases lane using laneCases with
  | zero => rfl
  | one => rfl

theorem stageOutcome_exMemKept {s : CPUCore} {out : CPUCore × Option (Fin 2)} (outcome : StageOutcome s out) :
    ExMemKept s out.1 := by
  refine outcome.preserves (.inl rfl) ?_
  intro mem memWb lane after _ done
  cases done with
  | empty invalid => exact .inl rfl
  | finished value changed valid access => exact .inl rfl
  | trapped cause changed valid access => exact .inr (returnTo_empties _ _)

theorem atExecute_exMemKept {s e : CPUCore} (wellFormed : WellFormed s) (ran : s.atExecute = .ok e) :
    ExMemKept s e := by
  rcases atExecute_outcome wellFormed ran with ⟨trapped, outcome⟩
  have kept := stageOutcome_exMemKept outcome
  rw [ExMemKept, (atMemoryAccess_backEnd s).1] at kept
  exact kept

theorem fetch_exMemKept {s t : CPUCore} (fetched : Fetch s t) : ExMemKept s t := by
  cases fetched with
  | full valid => exact .inl rfl
  | nothing mem empty same => exact .inl rfl
  | one word mem empty same => exact .inl rfl
  | pair word0 word1 mem empty same => exact .inl rfl
  | fault found mem faults => exact .inr (returnTo_empties { s with memory := mem } _)
  | faultNearEnd found mem faults => exact .inr (returnTo_empties { s with memory := mem } _)

/-- A slot behind the engine holds the word of the slot of ID/EX, under the same
pc, whether its branch is resolved or not. -/
theorem executeResolved_slot {e : CPUCore} (wellFormed : WellFormed e) {lane : Fin 2}
    (valid : (e.executeResolved.exMem.slots.get lane).valid = true) :
    e.executeResolved.exMem.pc = e.idEx.pc ∧ (e.idEx.slots.get lane).valid = true ∧
      (e.executeResolved.exMem.slots.get lane).instr = (e.idEx.slots.get lane).instr := by
  rcases committed_frame e with ⟨regFile, memory, frame⟩
  have samePc : (committed e).exMem.pc = e.idEx.pc := by
    rw [frame, runEngine, engine_eq]
  have engine : ((committed e).exMem.slots.get lane).valid = true -> (e.idEx.slots.get lane).valid = true ∧
      ((committed e).exMem.slots.get lane).instr = (e.idEx.slots.get lane).instr := by
    rw [frame, runEngine]
    rcases engine_slot e.idEx e.exMem e.memWb e.regFile lane with ⟨latch, slotEq⟩
    intro validHere
    simp only [slotEq] at validHere ⊢
    rw [executedSlot_valid] at validHere
    exact ⟨validHere, (executedSlot_ran wellFormed.frontEnd.issued e.memWb e.regFile latch validHere).2⟩
  rcases (executeResolved_resolution e).exMem with same | squashed
  · rw [same] at valid ⊢
    exact ⟨samePc, engine valid⟩
  · rw [squashed] at valid ⊢
    cases lane using laneCases with
    | zero => exact ⟨samePc, engine valid⟩
    | one => cases valid

section Holding

variable {fact later : Addr -> Word -> Prop}

theorem SlotsHold.mono {pc : Addr} {slots : Dual PipelineSlot} (holds : SlotsHold fact pc slots)
    (implies : forall addr word, fact addr word -> later addr word) : SlotsHold later pc slots :=
  fun lane valid => implies _ _ (holds lane valid)

theorem LatchesHold.mono {s : CPUCore} (holds : LatchesHold fact s)
    (implies : forall addr word, fact addr word -> later addr word) : LatchesHold later s :=
  ⟨holds.ifId.mono implies, holds.idEx.mono implies, holds.exMem.mono implies⟩

/-- Nothing is lost by keeping the latches or emptying them. -/
theorem LatchesHold.kept {s t : CPUCore} (holds : LatchesHold fact s) (front : FrontKept s t)
    (exMem : ExMemKept s t) : LatchesHold fact t := by
  have traced : TracedFront (fun _ => fact) s ⟨false, false⟩ ⟨false, false⟩ := ⟨holds.ifId, holds.idEx⟩
  rcases traced.kept front with ⟨waiting, issued⟩
  refine ⟨waiting, issued, ?_⟩
  rcases exMem with same | empty
  · rw [same]
    exact holds.exMem
  · intro lane valid
    exact absurd valid (ne_true_of_eq_false (empty lane))

theorem LatchesHold.atExecute {s e : CPUCore} (holds : LatchesHold fact s) (wellFormed : WellFormed s)
    (ran : s.atExecute = .ok e) : LatchesHold fact e :=
  holds.kept (atExecute_front wellFormed ran) (atExecute_exMemKept wellFormed ran)

/-- Execution moves the pair in ID/EX on under its pc. -/
theorem LatchesHold.execute {e : CPUCore} (holds : LatchesHold fact e) (wellFormed : WellFormed e) :
    LatchesHold fact e.execute := by
  have traced : TracedFront (fun _ => fact) e ⟨false, false⟩ ⟨false, false⟩ := ⟨holds.ifId, holds.idEx⟩
  rcases traced.kept (execute_front e) with ⟨waiting, issued⟩
  refine ⟨waiting, issued, ?_⟩
  have outcome := handleSlotTraps_outcome e.executeResolved
  unfold CPUCore.execute
  generalize e.executeResolved.handleSlotTraps = t at outcome
  cases outcome with
  | none quiet =>
      intro lane valid
      rcases executeResolved_slot wellFormed valid with ⟨samePc, issuedValid, sameInstr⟩
      rw [samePc, sameInstr]
      exact holds.idEx lane issuedValid
  | taken lane found =>
      intro other valid
      exact absurd valid (ne_true_of_eq_false (returnTo_empties _ _ other))

theorem LatchesHold.decodeAndIssue {s : CPUCore} (holds : LatchesHold fact s) :
    LatchesHold fact s.decodeAndIssue := by
  have waiting : Traced (fun _ => fact) s.ifId.pc s.ifId.slots ⟨false, false⟩ := holds.ifId
  have issued : Traced (fun _ => fact) s.idEx.pc s.idEx.slots ⟨false, false⟩ := holds.idEx
  rcases issue_traced (decodeAndIssue_issue s.ifId s.idEx) waiting (fun _ => issued) with ⟨moved, taken⟩
  exact ⟨moved, taken, holds.exMem⟩

theorem LatchesHold.fetch {s t : CPUCore} (holds : LatchesHold fact s) (ending : Fetch s t)
    (fetched : s.ifId.slots.s0.valid = false -> SlotsHold fact t.ifId.pc t.ifId.slots) : LatchesHold fact t := by
  have exMem : SlotsHold fact t.exMem.pc t.exMem.slots := by
    rcases fetch_exMemKept ending with same | empty
    · rw [same]
      exact holds.exMem
    · intro lane valid
      exact absurd valid (ne_true_of_eq_false (empty lane))
  cases ending with
  | full valid => exact holds
  | nothing mem empty same => exact ⟨fetched empty, holds.idEx, exMem⟩
  | one word mem empty same => exact ⟨fetched empty, holds.idEx, exMem⟩
  | pair word0 word1 mem empty same => exact ⟨fetched empty, holds.idEx, exMem⟩
  | fault found mem faults => exact ⟨fetched faults.free, forall_lane_of_invalid rfl rfl, exMem⟩
  | faultNearEnd found mem faults => exact ⟨fetched faults.free, forall_lane_of_invalid rfl rfl, exMem⟩

end Holding

/-! ## Runs that keep their code -/

/-- The tick takes the word at this address into IF/ID. -/
def Fetches (u : CPUCore) (addr : Addr) : Prop :=
  u.running = true ∧ Exists fun y => Exists fun t => Exists fun lane => u.atFetch = .ok y ∧
    y.ifId.slots.s0.valid = false ∧ y.fetch = .ok t ∧ (t.ifId.slots.get lane).valid = true ∧ addr = slotPc y.pc lane

/-- One of the first `n` ticks fetches from this address. -/
def FetchedBefore (start : CPUCore) (n : Nat) (addr : Addr) : Prop :=
  Exists fun k => Exists fun u => k < n ∧ iterate tick k start = .ok u ∧ Fetches u addr

/-- The store of the lane and the word at the address have a byte in common. -/
def Overwrites (u : CPUCore) (lane : Fin 2) (addr : Addr) : Prop :=
  Exists fun i => Exists fun j => i < 4 ∧ j < storeWidth (memFunct3 (u.exMem.slots.get lane).instr) ∧
    addr + BitVec.ofNat 32 i = u.exMem.memAddr.get lane + BitVec.ofNat 32 j

/-- The first `n` ticks access memory and fetch in M mode, none of them stores
to a word that has been fetched, and none fetches from the CLINT window. -/
structure KeepsCode (start : CPUCore) (n : Nat) : Prop where
  machine : forall k u, k < n -> iterate tick k start = .ok u -> u.running = true ->
    u.atMemoryAccess.regFile.privilege = PRV_M ∧ forall y, u.atFetch = .ok y -> y.regFile.privilege = PRV_M
  spares : forall k u lane addr, k < n -> iterate tick k start = .ok u -> StoresToRam u lane ->
    FetchedBefore start k addr -> ¬Overwrites u lane addr
  noClint : forall addr, FetchedBefore start n addr -> inClint addr = false

theorem FetchedBefore.mono {start : CPUCore} {n m : Nat} {addr : Addr} (fetched : FetchedBefore start n addr)
    (order : n <= m) : FetchedBefore start m addr := by
  rcases fetched with ⟨k, u, below, run, fetches⟩
  exact ⟨k, u, Nat.lt_of_lt_of_le below order, run, fetches⟩

theorem KeepsCode.mono {start : CPUCore} {n m : Nat} (keeps : KeepsCode start m) (order : n <= m) :
    KeepsCode start n where
  machine k u below := keeps.machine k u (Nat.lt_of_lt_of_le below order)
  spares k u lane addr below := keeps.spares k u lane addr (Nat.lt_of_lt_of_le below order)
  noClint addr fetched := keeps.noClint addr (fetched.mono order)

/-- The word was fetched from the address, and RAM holds it there. -/
def Known (start : CPUCore) (n : Nat) (ram : Addr -> Byte) (addr : Addr) (word : Word) : Prop :=
  FetchedBefore start n addr ∧ word = LittleEndian.load ram addr 4

/-- The memory stage leaves the words that have been fetched as they are. -/
theorem known_atExecute {start u e : CPUCore} {n k : Nat} (keeps : KeepsCode start n) (below : k < n)
    (run : iterate tick k start = .ok u) (wellFormed : WellFormed u) (running : u.running = true)
    (executing : u.atExecute = .ok e) {addr : Addr} {word : Word} (known : Known start k u.memory.memory addr word) :
    Known start k e.memory.memory addr word := by
  rcases known with ⟨fetched, wordEq⟩
  refine ⟨fetched, wordEq.trans (LittleEndian.load_congr (fun i inWord => ?_))⟩
  rcases atExecute_outcome wellFormed executing with ⟨trapped, outcome⟩
  have machine := (keeps.machine k u below run running).1
  have sameRam : u.atMemoryAccess.memory.memory = u.memory.memory := by
    rw [atMemoryAccess_memory]
    rfl
  rw [← sameRam]
  refine (stageOutcome_byte outcome machine ?_).symm
  intro lane
  rw [(atMemoryAccess_backEnd u).1]
  intro valid writes accessible j inStore same
  exact keeps.spares k u lane addr below run ⟨running, machine, valid, writes, accessible⟩ fetched
    ⟨i, j, inWord, inStore, same⟩

/-- In M mode fetch files the words under the pc that it fetched from. -/
theorem fetch_latchPc {y t : CPUCore} {lane : Fin 2} (machine : y.regFile.privilege = PRV_M) (ending : Fetch y t)
    (ordered : y.ifId.slots.s1.valid = true -> y.ifId.slots.s0.valid = true)
    (empty : y.ifId.slots.s0.valid = false) (valid : (t.ifId.slots.get lane).valid = true) : t.ifId.pc = y.pc := by
  cases ending with
  | full inUse => exact absurd inUse (ne_true_of_eq_false empty)
  | nothing mem free same =>
      exact @forall_lane_of_invalid y.ifId.slots (fun _ => y.ifId.pc = y.pc) empty (invalid_of_ordered ordered empty)
        lane valid
  | one word mem free same => rfl
  | pair word0 word1 mem free same => rfl
  | fault found mem faults => exact absurd machine faults.notMachine
  | faultNearEnd found mem faults => exact absurd machine faults.notMachine

/-- The words in the latches are known, at the end of every run. -/
theorem run_known {config : SystemConfig} {image : Addr -> Byte} {keyboard : HostKeyboard} {n : Nat} {s : CPUCore}
    (keeps : KeepsCode (init config image keyboard) n) (run : iterate tick n (init config image keyboard) = .ok s) :
    LatchesHold (Known (init config image keyboard) n s.memory.memory) s := by
  induction n generalizing s with
  | zero =>
      cases run
      exact ⟨forall_lane_of_invalid rfl rfl, forall_lane_of_invalid rfl rfl, forall_lane_of_invalid rfl rfl⟩
  | succ n ih =>
      rcases iterate_succ.mp run with ⟨u, earlier, last⟩
      have below := Nat.lt_succ_self n
      have holds := ih (keeps.mono (Nat.le_succ n)) earlier
      have wellFormed : WellFormed u := Reachable.wellFormed ⟨config, image, keyboard, n, earlier⟩
      cases running : u.running with
      | false =>
          unfold tick at last
          rw [running] at last
          cases last
          have kept := holds.kept (atWriteBack_front u) (.inl (atWriteBack_backEnd u).1)
          refine kept.mono (fun addr word known => ?_)
          rw [atWriteBack_memory]
          exact ⟨known.1.mono (Nat.le_succ n), known.2⟩
      | true =>
          rw [tick_running running] at last
          rcases bind_eq_ok.mp last with ⟨out, accessed, fetching⟩
          have executing : u.atExecute = .ok out.1 := by
            rw [CPUCore.atExecute, accessed]
            rfl
          have issuing := atFetch_of_atExecute executing
          have formed := atExecute_wellFormed wellFormed executing
          have machine := (keeps.machine n u below earlier running).2 _ issuing
          have ordered := (atFetch_wellFormed wellFormed issuing).frontEnd.ordered
          have ending := fetch_fetch ordered fetching
          have sameRam : s.memory.memory = out.1.memory.memory :=
            ending.sameStorage.memory.trans (execute_sameStorage out.1).memory
          have before := (((holds.atExecute wellFormed executing).mono
            (fun _ _ => known_atExecute keeps below earlier wellFormed running executing)).execute formed).decodeAndIssue
          rw [← sameRam] at before
          refine (before.mono (fun addr word known => ⟨known.1.mono (Nat.le_succ n), known.2⟩)).fetch ending ?_
          intro empty lane valid
          have latchPc := fetch_latchPc machine ending ordered empty valid
          have fetched : FetchedBefore (init config image keyboard) (n + 1) (slotPc s.ifId.pc lane) :=
            ⟨n, u, below, earlier, running, _, s, lane, issuing, empty, fetching, valid, by rw [latchPc]⟩
          have word := fetch_fromRam machine ordered empty fetching lane valid (keeps.noClint _ fetched)
          rw [← ending.sameStorage.memory] at word
          exact ⟨fetched, word⟩

/-! ## What is computed from the pc of a latch -/

/-- The word that RAM holds at an address. -/
def ramWord (s : CPUCore) (addr : Addr) : Word := LittleEndian.load s.memory.memory addr 4

/-- The latches hold the words of RAM, and IF/ID ends where fetch goes on. -/
structure SlotsTagged (s : CPUCore) : Prop where
  latches : LatchesHold (fun addr word => word = ramWord s addr) s
  fetchPc : forall lane, (s.ifId.slots.get lane).valid = true -> s.pc = s.ifId.pc + span s.ifId.slots

/-- In the tick of `u`, whose execute stage starts in `e`, what the stages
compute from the pc of a latch they compute for the word that RAM holds there. -/
structure RefersToSlots (u e : CPUCore) : Prop where
  /-- Results, link values, branch and jump targets. -/
  engine : forall lane, (e.idEx.slots.get lane).valid = true ->
    (e.idEx.slots.get lane).d = decode (ramWord e (slotPc e.idEx.pc lane)) ∧ Exists fun operand =>
      e.runEngine.exMem.slots.get lane =
        { executeSlotWith operand (e.idEx.slots.get lane) e.regFile (slotPc e.idEx.pc lane) lane with valid := true }
  predicted : e.idEx.slots.s0.valid = true -> e.idEx.slots.s0.d.predictedTaken = true ->
    e.idEx.slots.s0.jumpTarget = slotPc e.idEx.pc 0 + (decode (ramWord e (slotPc e.idEx.pc 0))).imm
  /-- The way back from a branch that was predicted taken and is not. -/
  recovery : e.runEngine.exMem.slots.s0.valid = true -> e.runEngine.exMem.slots.s0.d.isBranch = false ->
    e.runEngine.exMem.slots.s0.d.predictedTaken = true -> e.executeResolved.pc = slotPc e.idEx.pc 0 + 4
  executeTrap : forall lane, trapLane e.executeResolved.exMem = some lane ->
    (e.executeResolved.exMem.slots.get lane).instr = ramWord e (slotPc e.idEx.pc lane) ∧
      e.execute = e.executeResolved.returnTo (trapTarget e.executeResolved.regFile
        (e.executeResolved.exMem.slots.get lane) (slotPc e.idEx.pc lane))
  accessTrap : forall lane, u.atMemoryAccess.memoryAccess = .ok (e, some lane) ->
    (u.exMem.slots.get lane).instr = ramWord e (slotPc u.exMem.pc lane) ∧ Exists fun cause =>
      e.regFile = (u.atMemoryAccess.regFile.handleTrap (slotPc u.exMem.pc lane) cause (u.exMem.memAddr.get lane)).1

theorem recovery_pc {e : CPUCore} (valid : e.runEngine.exMem.slots.s0.valid = true)
    (notTaken : e.runEngine.exMem.slots.s0.d.isBranch = false)
    (predicted : e.runEngine.exMem.slots.s0.d.predictedTaken = true) : e.executeResolved.pc = e.idEx.pc + 4 := by
  rcases committed_frame e with ⟨regFile, memory, frame⟩
  have samePc : e.runEngine.exMem.pc = e.idEx.pc := by
    rw [runEngine, engine_eq]
  change (committed e).resolveBranch.pc = _
  rw [frame, resolveBranch]
  simp only [valid, notTaken, predicted, Bool.and_false, Bool.and_true, Bool.false_eq_true, if_false, if_true]
  change e.runEngine.exMem.pc + 4 = _
  rw [samePc]

theorem refersToSlots_of_hold {u e : CPUCore} (wellFormed : WellFormed u) (executing : u.atExecute = .ok e)
    (holds : LatchesHold (fun addr word => word = ramWord e addr) u) : RefersToSlots u e := by
  have formed := atExecute_wellFormed wellFormed executing
  have issued := formed.frontEnd.issued
  have words := (holds.atExecute wellFormed executing).idEx
  have decoded : forall lane, (e.idEx.slots.get lane).valid = true ->
      (e.idEx.slots.get lane).d = decode (ramWord e (slotPc e.idEx.pc lane)) := by
    intro lane valid
    rw [(issued.decoded lane valid).d, words lane valid]
  have first : slotPc e.idEx.pc 0 = e.idEx.pc := BitVec.add_zero _
  constructor
  · intro lane valid
    refine ⟨decoded lane valid, ?_⟩
    rcases engine_slot e.idEx e.exMem e.memWb e.regFile lane with ⟨latch, slotEq⟩
    refine ⟨fun rs => getOperand rs e.memWb e.regFile latch lane, ?_⟩
    rw [runEngine, slotEq, executedSlot, if_pos valid]
    rfl
  · intro valid taken
    have target := issued.target valid taken
    have sameD : e.idEx.slots.s0.d = decode (ramWord e (slotPc e.idEx.pc 0)) := decoded 0 valid
    rw [sameD, first] at target
    rw [first]
    exact target
  · intro valid notTaken taken
    rw [recovery_pc valid notTaken taken, first]
  · intro lane found
    rcases executeResolved_slot formed (trapLane_some found).2.1 with ⟨samePc, valid, sameInstr⟩
    refine ⟨sameInstr.trans (words lane valid), ?_⟩
    rw [CPUCore.execute, handleSlotTraps_some found, samePc]
    rfl
  · intro lane accessed
    have one := (atMemoryAccess_wellFormed wellFormed).executedPair.oneAccess
    rcases memoryAccess_trap one accessed with ⟨older, _, sameExMem, ⟨sameRegFile, _⟩, _, _, outcome⟩
    rcases laneOutcome_trap_regFile outcome with ⟨cause, mem, valid, _, registers⟩
    rw [lanePc, sameExMem, sameRegFile, (atMemoryAccess_backEnd u).1] at registers
    rw [sameExMem, (atMemoryAccess_backEnd u).1] at valid
    exact ⟨holds.exMem lane valid, cause, registers⟩

/-- In every run in M mode that keeps its code, every valid slot holds the word
of RAM at its address, the fetch pc is behind IF/ID, and all that is computed
from the pc of a latch is computed for the instruction in the slot. -/
theorem slots_tagged {config : SystemConfig} {image : Addr -> Byte} {keyboard : HostKeyboard} {n : Nat} {s : CPUCore}
    (keeps : KeepsCode (init config image keyboard) n) (run : iterate tick n (init config image keyboard) = .ok s) :
    SlotsTagged s ∧ forall k u e, k < n -> iterate tick k (init config image keyboard) = .ok u -> u.running = true ->
      u.atExecute = .ok e -> RefersToSlots u e := by
  constructor
  · have wellFormed : WellFormed s := Reachable.wellFormed ⟨config, image, keyboard, n, run⟩
    refine ⟨(run_known keeps run).mono (fun _ _ known => known.2), ?_⟩
    intro lane valid
    cases lane using laneCases with
    | zero => exact wellFormed.frontEnd.contiguous valid
    | one => exact wellFormed.frontEnd.contiguous (wellFormed.frontEnd.ordered valid)
  · intro k u e below earlier running executing
    have wellFormed : WellFormed u := Reachable.wellFormed ⟨config, image, keyboard, k, earlier⟩
    have holds := run_known (keeps.mono (Nat.le_of_lt below)) earlier
    exact refersToSlots_of_hold wellFormed executing (holds.mono (fun _ _ known =>
      (known_atExecute keeps below earlier wellFormed running executing known).2))

/-! ## A run that stores -/

/-- In M mode this tick fetches from below the limit and stores from there on. -/
def codeBelow (limit : Nat) (u : CPUCore) : Bool :=
  decide (u.atMemoryAccess.regFile.privilege = PRV_M) &&
    passes u.atFetch (fun y => decide (y.regFile.privilege = PRV_M) && decide (y.pc.toNat + 8 <= limit)) &&
    decide (forall lane, (u.exMem.slots.get lane).valid = true -> u.exMem.memWrite.get lane = true ->
      limit <= (u.exMem.memAddr.get lane).toNat)

/-- With code below the limit and data from there on, a run keeps its code. -/
theorem keepsCode_of_everyState {start : CPUCore} {n limit : Nat} (small : limit <= CLINT_BASE.toNat)
    (passed : everyState tick (codeBelow limit) n start = true) : KeepsCode start n := by
  have tested : forall {k u}, k < n -> iterate tick k start = .ok u -> codeBelow limit u = true := by
    intro k u below earlier
    rcases everyState_sound passed below with ⟨state, _, reached, test, _⟩
    cases reached.symm.trans earlier
    exact test
  have size : CLINT_BASE.toNat = 0x02000000 := rfl
  have low : forall {m addr}, m <= n -> FetchedBefore start m addr -> addr.toNat + 4 <= limit := by
    rintro m addr order ⟨k, u, below, earlier, _, y, t, lane, issuing, _, _, _, addrEq⟩
    have test := tested (Nat.lt_of_lt_of_le below order) earlier
    simp only [codeBelow, issuing, passes, Bool.and_eq_true, decide_eq_true_eq] at test
    have bound := test.1.2.2
    have small := lane.isLt
    rw [addrEq, slotPc, BitVec.toNat_add, BitVec.toNat_ofNat]
    omega
  constructor
  · intro k u below earlier _
    have test := tested below earlier
    simp only [codeBelow, Bool.and_eq_true, decide_eq_true_eq] at test
    refine ⟨test.1.1, fun y issuing => ?_⟩
    have fetchTest := test.1.2
    simp only [issuing, passes, Bool.and_eq_true, decide_eq_true_eq] at fetchTest
    exact fetchTest.1
  · rintro k u lane addr below earlier stores fetched ⟨i, j, inWord, inStore, same⟩
    have test := tested below earlier
    simp only [codeBelow, Bool.and_eq_true, decide_eq_true_eq] at test
    have above := test.2 lane stores.valid stores.writes
    have code := low (Nat.le_of_lt below) fetched
    have data := stores.accessible.inRam
    have ramSize : MEMORY_SIZE.toNat = 0x08000000 := rfl
    have sameNat := congrArg BitVec.toNat same
    rw [BitVec.toNat_add, BitVec.toNat_add, BitVec.toNat_ofNat, BitVec.toNat_ofNat] at sameNat
    omega
  · intro addr fetched
    have code := low (Nat.le_refl n) fetched
    have before : ¬CLINT_BASE <= addr := by
      rw [BitVec.le_def]
      omega
    rw [inClint, decide_eq_false before, Bool.false_and]

/-- `addi x5, x0, 0x100`, `sw x5, 0(x5)` and two more instructions.  In the
fourth tick the store is made. -/
theorem slots_tagged_store : Exists fun s => iterate tick 4 (init .default128MB (ramImage [(0x00, 0x10000293#32),
    (0x04, 0x0052A023#32), (0x08, 0x00100313#32), (0x0C, 0x00200393#32)]) {}) = .ok s ∧ ramWord s 0x100 = 0x100 ∧
      s.exMem.slots.s1.valid = true ∧ s.exMem.pc = 0x08 ∧ SlotsTagged s := by
  have passed : passes (iterate tick 4 (init .default128MB (ramImage [(0x00, 0x10000293#32), (0x04, 0x0052A023#32),
      (0x08, 0x00100313#32), (0x0C, 0x00200393#32)]) {})) (fun s => decide (ramWord s 0x100 = 0x100 ∧
        s.exMem.slots.s1.valid = true ∧ s.exMem.pc = 0x08)) = true := by
    decide +kernel
  have code : everyState tick (codeBelow 0x80) 4 (init .default128MB (ramImage [(0x00, 0x10000293#32),
      (0x04, 0x0052A023#32), (0x08, 0x00100313#32), (0x0C, 0x00200393#32)]) {}) = true := by
    decide +kernel
  rcases exists_of_passes passed with ⟨s, run, tests⟩
  rcases of_decide_eq_true tests with ⟨stored, valid, here⟩
  exact ⟨s, run, stored, valid, here, (slots_tagged (keepsCode_of_everyState (by decide) code) run).1⟩

end Refinement
end SimpleRV
