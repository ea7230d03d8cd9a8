import SimpleRV.Refinement.SimulationExecute
import SimpleRV.Refinement.SlotWords

namespace SimpleRV
namespace Refinement

open IssueUnit CPUCore ExecutionEngine Pipeline InFlight Iteration

/-!
# The simulation through decode, fetch and a whole tick

Decode hands the next instruction of the path to the engine.  The pc that it
leaves behind may be on a wrong path, but it is in RAM or just behind it, so
that fetch has no effect other than filling IF/ID.
-/

section Relation

variable (path : Nat -> SeqState) (length : Nat)

/-- The front end between decode and fetch. -/
structure FrontIssued (pc : Addr) (ifId : IfIdBuffer) (idEx : IdExBuffer) (executed : Nat) : Prop where
  next : (if idEx.slots.s0.valid then idEx.pc else frontPc ifId pc) = (path executed).pc
  ifIdWords : WordsOfPath path length ifId.pc ifId.slots
  idExWords : WordsOfPath path length idEx.pc idEx.slots
  within : ifId.slots.s0.valid = false -> pc.toNat <= MEMORY_SIZE.toNat

/-- A state between the decode and the fetch stage. -/
structure AtFetch (s : CPUCore) (retired accessed executed : Nat) : Prop where
  formed : WellFormed s
  running : s.running = true
  backEnd : BackEnd path length s.regFile s.memory.memory s.exMem s.memWb retired accessed executed
  front : FrontIssued path length s.pc s.ifId s.idEx executed
  counted : NoTraps path length -> s.instrCount = retired

end Relation

variable {path : Nat -> SeqState} {length : Nat}

/-! ## Decode -/

/-- The decoder sends the front end to an address in RAM. -/
theorem predicted_inRam {executed : Nat} (good : Followable path length) (below : executed + 1 < length)
    (predicted : (path executed).slot.d.predictedTaken = true) :
    ((path executed).pc + (path executed).slot.d.imm).toNat <= MEMORY_SIZE.toNat := by
  have size : MEMORY_SIZE.toNat = 0x08000000 := rfl
  have isBranch : (path executed).slot.d.isBranch = true := (decode_exclusive _).predicted predicted
  have opcode : (path executed).slot.d.op = 0x6F ∨ (path executed).slot.d.op = 0x63 := decode_predicted predicted
  rcases opcode with jal | branch
  · -- a JAL goes there, and the path goes on there
    rcases good.step (Nat.lt_of_succ_lt below) with ⟨_, completes⟩ | ⟨traps, _⟩
    · have noCsr := ((decode_exclusive (path executed).instr).branch isBranch).2.1
      have jumped : (path executed).executed =
          executeJump (path executed).slot.d ((path executed).regFile.readRs1 (path executed).slot.d.rs1)
            (path executed).slot (path executed).pc := by
        rw [SeqState.executed, executeSlotWith_jump noCsr (.inl jal), if_pos rfl]
      have target : (path (executed + 1)).pc = (path executed).pc + (path executed).slot.d.imm := by
        rw [completes.pc, SeqState.nextPc, jumped, if_pos (by rfl)]
        simp only [executeJump, jal, if_true]
      rw [← target]
      exact Nat.le_trans (Nat.le_add_right _ 8) (good.inBounds (executed + 1) below).room
    · have quiet := ((decode_exclusive (path executed).instr).branch isBranch).1
      exact absurd traps (ne_true_of_eq_false quiet)
  · have bound := (good.inBounds executed (Nat.lt_of_succ_lt below)).branchTarget branch
    rw [BitVec.lt_def] at bound
    have limit : (MEMORY_SIZE - 8).toNat <= MEMORY_SIZE.toNat := by decide
    exact Nat.le_of_lt (Nat.lt_of_lt_of_le bound limit)

theorem notPredicted_decoded {slot : PipelineSlot} (notTaken : (decode slot.instr).predictedTaken = false) :
    predictsTaken (decodeInstruction slot) = false := by
  simp [predictsTaken, decodeInstruction, notTaken]

/-- Behind a pair of instructions there still is RAM. -/
theorem span_inRam {pc : Addr} (room : pc.toNat + 8 <= MEMORY_SIZE.toNat) (slots : Dual PipelineSlot) :
    (pc + span slots).toNat <= MEMORY_SIZE.toNat := by
  have size : MEMORY_SIZE.toNat = 0x08000000 := rfl
  have short : (span slots).toNat <= 8 := by
    unfold span
    cases slots.s0.valid <;> cases slots.s1.valid <;> decide
  rw [BitVec.toNat_add]
  omega

/-- Decode hands on the instruction in front, or leaves it there. -/
theorem issue_next {ifId : IfIdBuffer} {idEx : IdExBuffer} {out : IfIdBuffer × IdExBuffer} {pc : Addr}
    (issue : Issue ifId idEx out) (fresh : ifId.slots.s0.valid = true ∨ idEx.slots.s0.valid = false) :
    (if out.2.slots.s0.valid then out.2.pc
      else frontPc out.1 (if predictsTaken out.2.slots.s0 then out.2.slots.s0.jumpTarget else pc)) =
        frontPc ifId pc := by
  have front : ifId.slots.s0.valid = true -> frontPc ifId pc = ifId.pc := fun valid => if_pos valid
  cases issue with
  | idle empty =>
      have invalid : idEx.slots.s0.valid = false := fresh.resolve_left (ne_true_of_eq_false empty)
      have noPrediction : predictsTaken idEx.slots.s0 = false := by rw [predictsTaken, invalid]; rfl
      rw [noPrediction, if_neg Bool.false_ne_true, if_neg (ne_true_of_eq_false invalid)]
  | stalled valid => rfl
  | predicted valid taken slot0 slot0Eq =>
      subst slot0Eq
      rw [front valid, if_pos (by exact valid)]
  | pair valid0 valid1 notTaken together => rw [front valid0, if_pos (by exact valid0)]
  | single valid notTaken => rw [front valid, if_pos (by exact valid)]

/-- Both latches of the front end still hold words of the path. -/
theorem issue_wordsOfPath {ifId : IfIdBuffer} {idEx : IdExBuffer} {out : IfIdBuffer × IdExBuffer}
    (issue : Issue ifId idEx out) (ordered : idEx.slots.s1.valid = true -> idEx.slots.s0.valid = true)
    (words : WordsOfPath path length ifId.pc ifId.slots)
    (fresh : ifId.slots.s0.valid = true ∨ idEx.slots.s0.valid = false) :
    WordsOfPath path length out.1.pc out.1.slots ∧ WordsOfPath path length out.2.pc out.2.slots := by
  have waiting : Traced (fun _ addr word => forall j, j < length -> (path j).pc = addr -> word = (path j).instr)
      ifId.pc ifId.slots ⟨false, false⟩ := words
  have moved := @issue_traced _ ifId idEx out _ ⟨false, false⟩ issue waiting ?_
  · exact moved
  · intro empty
    have invalid : idEx.slots.s0.valid = false := fresh.resolve_left (ne_true_of_eq_false empty)
    exact traced_of_invalid invalid (invalid_of_ordered ordered invalid)

/-- When decode has emptied IF/ID, fetch goes on in RAM or just behind it. -/
theorem issue_within {ifId : IfIdBuffer} {idEx : IdExBuffer} {out : IfIdBuffer × IdExBuffer} {pc : Addr}
    {executed : Nat} (issue : Issue ifId idEx out) (front : FrontEnd pc ifId idEx) (good : Followable path length)
    (below : executed + 1 < length) (next : frontPc ifId pc = (path executed).pc)
    (words : WordsOfPath path length ifId.pc ifId.slots)
    (fresh : ifId.slots.s0.valid = true ∨ idEx.slots.s0.valid = false) (empty : out.1.slots.s0.valid = false) :
    (if predictsTaken out.2.slots.s0 then out.2.slots.s0.jumpTarget else pc).toNat <= MEMORY_SIZE.toNat := by
  have room := (good.inBounds executed (Nat.lt_of_succ_lt below)).room
  have onPath : ifId.slots.s0.valid = true -> ifId.pc = (path executed).pc := by
    intro valid
    rw [← next, frontPc, if_pos valid]
  have behind : ifId.slots.s0.valid = true -> pc.toNat <= MEMORY_SIZE.toNat := by
    intro valid
    rw [front.contiguous valid, onPath valid]
    exact span_inRam room ifId.slots
  cases issue with
  | idle free =>
      have invalid : idEx.slots.s0.valid = false := fresh.resolve_left (ne_true_of_eq_false free)
      have noPrediction : predictsTaken idEx.slots.s0 = false := by rw [predictsTaken, invalid]; rfl
      rw [frontPc, if_neg (ne_true_of_eq_false free)] at next
      rw [noPrediction, if_neg Bool.false_ne_true, next]
      omega
  | stalled valid => exact absurd valid (ne_true_of_eq_false empty)
  | predicted valid taken slot0 slot0Eq =>
      subst slot0Eq
      have branch := (decode_exclusive ifId.slots.s0.instr).predicted taken
      have prediction : predictsTaken { decodeInstruction ifId.slots.s0 with
          jumpTarget := ifId.pc + (decode ifId.slots.s0.instr).imm } = true := by
        simp [predictsTaken, decodeInstruction, valid, taken, branch]
      have sameInstr : ifId.slots.s0.instr = (path executed).instr :=
        words 0 valid executed (Nat.lt_of_succ_lt below) (by rw [onPath valid]; simp)
      rw [sameInstr] at taken
      have target := predicted_inRam good below taken
      rw [prediction, if_pos rfl, onPath valid, sameInstr]
      exact target
  | pair valid0 valid1 notTaken together =>
      rw [notPredicted_decoded notTaken, if_neg Bool.false_ne_true]
      exact behind valid0
  | single valid notTaken =>
      rw [notPredicted_decoded notTaken, if_neg Bool.false_ne_true]
      exact behind valid

/-- The instruction that decode takes is the next one of the path. -/
theorem issue_onPath {ifId : IfIdBuffer} {idEx : IdExBuffer} {out : IfIdBuffer × IdExBuffer} {pc : Addr}
    {executed : Nat} (issue : Issue ifId idEx out) (front : FrontEnd pc ifId idEx) (good : Followable path length)
    (below : executed + 1 < length) (next : frontPc ifId pc = (path executed).pc)
    (words : WordsOfPath path length ifId.pc ifId.slots)
    (fresh : ifId.slots.s0.valid = true ∨ idEx.slots.s0.valid = false) :
    FrontIssued path length (if predictsTaken out.2.slots.s0 then out.2.slots.s0.jumpTarget else pc) out.1 out.2
      executed := by
  rcases issue_wordsOfPath issue front.issued.ordered words fresh with ⟨waiting, issued⟩
  exact ⟨(issue_next issue fresh).trans next, waiting, issued,
    issue_within issue front good below next words fresh⟩

/-- Decode keeps the simulation, with the next instruction in ID/EX or still
to come. -/
theorem AtDecode.decodeAndIssue {s : CPUCore} {retired accessed executed : Nat}
    (here : AtDecode path length s retired accessed executed) (good : Followable path length)
    (below : executed + 1 < length) : AtFetch path length s.decodeAndIssue retired accessed executed where
  formed := decodeAndIssue_wellFormed here.formed
  running := here.running
  backEnd := here.backEnd
  front := issue_onPath (decodeAndIssue_issue s.ifId s.idEx) here.formed.frontEnd good below here.next
    here.ifIdWords here.fresh
  counted := here.counted

/-! ## Fetch -/

/-- Fetch keeps the simulation and does not fail. -/
theorem AtFetch.fetch {s : CPUCore} {retired accessed executed : Nat}
    (here : AtFetch path length s retired accessed executed) (good : Followable path length)
    (below : executed < length) (order : accessed <= length) :
    Exists fun t => s.fetch = .ok t ∧ Simulates path length t retired accessed executed := by
  have ordered := here.formed.frontEnd.ordered
  have machine : s.regFile.privilege = PRV_M :=
    here.backEnd.csrs.privilege.trans (good.noInterrupts executed (Nat.le_of_lt below)).machine
  rcases fetch_machine machine here.running ordered here.front.within with ⟨t, fetched, outcome⟩
  have formed := (fetch_fetch ordered fetched).wellFormed here.formed
  refine ⟨t, fetched, ?_⟩
  -- what is in RAM at an address of the path is the word of the path
  have inRam : forall {word : Word} {addr : Addr} {j : Nat}, word = LittleEndian.load s.memory.memory addr 4 ->
      j < length -> (path j).pc = addr -> word = (path j).instr := by
    intro word addr j loaded belowPath samePc
    rw [loaded, here.backEnd.stored, ← samePc]
    exact good.wordAt order belowPath
  have front := here.front
  -- filling IF/ID from the fetch pc does not change what comes next
  have filled : forall (ifId : IfIdBuffer) (pc : Addr), s.ifId.slots.s0.valid = false ->
      ifId.slots.s0.valid = true -> ifId.pc = s.pc ->
      (if s.idEx.slots.s0.valid then s.idEx.pc else frontPc ifId pc) = (path executed).pc := by
    intro ifId pc empty valid samePc
    have next := front.next
    rw [show frontPc s.ifId s.pc = s.pc from if_neg (ne_true_of_eq_false empty)] at next
    rw [show frontPc ifId pc = s.pc from (if_pos valid).trans samePc]
    exact next
  cases outcome with
  | full valid =>
      exact ⟨formed, here.running, here.backEnd, ⟨front.next, front.ifIdWords, front.idExWords, fun _ => .inl valid⟩,
        here.counted⟩
  | pastEnd empty noRoom =>
      refine ⟨formed, here.running, here.backEnd, ⟨front.next, front.ifIdWords, front.idExWords, fun _ => .inr ?_⟩,
        here.counted⟩
      intro j belowPath samePc
      have room := (good.inBounds j belowPath).room
      rw [samePc] at noRoom
      omega
  | one word mem empty sameRam wordEq =>
      refine ⟨formed, here.running, ?_, ⟨?_, ?_, front.idExWords, fun _ => .inl rfl⟩, here.counted⟩
      · have back := here.backEnd
        rw [← sameRam] at back
        exact back
      · exact filled _ _ empty rfl rfl
      · intro lane laneValid j belowPath samePc
        cases lane using laneCases with
        | zero =>
            have here0 : (path j).pc = s.pc := by
              rw [samePc]
              simp [fillOne]
            exact inRam (wordEq (here0 ▸ (good.inBounds j belowPath).noClint)) belowPath here0
        | one => exact absurd ((invalid_of_ordered ordered empty).symm.trans laneValid) Bool.false_ne_true
  | pair word0 word1 empty word0Eq word1Eq =>
      refine ⟨formed, here.running, here.backEnd, ⟨?_, ?_, front.idExWords, fun _ => .inl rfl⟩, here.counted⟩
      · exact filled _ _ empty rfl rfl
      · intro lane _ j belowPath samePc
        cases lane using laneCases with
        | zero =>
            have here0 : (path j).pc = s.pc := by
              rw [samePc]
              simp
            exact inRam word0Eq belowPath here0
        | one => exact inRam word1Eq belowPath samePc

/-! ## A whole tick -/

/-- One tick of the pipeline goes on along the path by up to two instructions,
unless one of those in MEM/WB halts. -/
theorem Simulates.tick {s : CPUCore} {retired accessed executed : Nat}
    (sim : Simulates path length s retired accessed executed) (good : Followable path length)
    (room : executed + 3 < length) (noHalt : NoHalt s.memWb.slots) :
    Exists fun e => Exists fun t => Exists fun count => s.atExecute = .ok e ∧ s.tick = .ok t ∧ count <= 2 ∧
      Simulates path length t accessed executed (executed + count) ∧ processed e = segment path executed count := by
  have within : executed <= length := by omega
  rcases sim.atExecute good within noHalt with ⟨e, accessOk, ready, _⟩
  rcases ready.execute good (by omega) with ⟨count, atMost, decoding, log⟩
  have fetching := decoding.decodeAndIssue good (by omega)
  rcases fetching.fetch good (by omega) within with ⟨t, fetchOk, after⟩
  exact ⟨e, t, count, accessOk, (tick_of_atExecute sim.running accessOk).trans fetchOk, atMost, after, log⟩

/-- On a path without a halting word nothing in MEM/WB halts. -/
theorem Simulates.noHalt {s : CPUCore} {retired accessed executed : Nat}
    (sim : Simulates path length s retired accessed executed)
    (continues : forall i, i < length -> isHalt (path i).instr = false) (within : executed <= length) :
    NoHalt s.memWb.slots := by
  have order := sim.backEnd.inMem.bounds.1
  exact sim.backEnd.inWb.noHalt (fun i below => continues i (by omega))

/-- A core with empty latches, in the state of the sequential machine. -/
def startCore (r : SeqState) : CPUCore where
  memory := r.memory
  regFile := r.regFile
  pc := r.pc

theorem startCore_simulates (path : Nat -> SeqState) (length : Nat) :
    Simulates path length (startCore (path 0)) 0 0 0 where
  formed := ⟨frontEnd_flushed _, executedPair_of_invalid rfl rfl, retiringPair_empty⟩
  running := rfl
  backEnd := {
    csrs := .refl _
    written := rfl
    toWrite := rfl
    stored := rfl
    toAccess := rfl
    canAccess := forall_lane_of_invalid rfl rfl
    inWb := .nothing rfl rfl
    inMem := .nothing rfl rfl }
  front := {
    next := rfl
    ifIdWords := forall_lane_of_invalid rfl rfl
    idExWords := forall_lane_of_invalid rfl rfl
    moving := Bool.false_ne_true.elim }
  counted := fun _ => rfl

end Refinement
end SimpleRV
