import SimpleRV.Library.Iteration
import SimpleRV.Pipeline.Decode
import SimpleRV.Pipeline.MemoryFrames

namespace SimpleRV
namespace Pipeline

open IssueUnit CPUCore Iteration

/-!
# The memory stage

One equation for a lane of `memoryAccess`, and an inversion of the whole stage.
-/

/-! ## A lane -/

/-- The access of a lane of EX/MEM: its load, its store, or none. -/
def laneAccess (s : CPUCore) (lane : Fin 2) : Except Crash (Access Word × MemorySystem) :=
  let slot := s.exMem.slots.get lane
  let addr := s.exMem.memAddr.get lane
  if s.exMem.memRead.get lane then loadAccess s.memory s.regFile (memFunct3 slot.instr) addr
  else if s.exMem.memWrite.get lane then
    (storeAccess s.memory s.regFile (memFunct3 slot.instr) addr (s.exMem.memData.get lane)).map
      (fun out =>
        match out with
        | (.trap cause, mem) => (.trap cause, mem)
        | (.done (), mem) => (.done slot.result, mem))
  else .ok (.done slot.result, s.memory)

/-- The address that a trap of the lane reports. -/
def lanePc (s : CPUCore) (lane : Fin 2) : Addr := s.exMem.pc + BitVec.ofNat 32 (4 * lane.val)

/-- The core after the access of a lane: the slot has moved on to MEM/WB, with
its loaded value or with its result as it was. -/
def afterAccess (s : CPUCore) (lane : Fin 2) : Access Word × MemorySystem -> CPUCore × Bool
  | (.trap cause, mem) =>
      ({ s with
          memory := mem
          memWb := ⟨s.memWb.slots.set lane (s.exMem.slots.get lane)⟩ }.handleTrap
        (lanePc s lane) cause (s.exMem.memAddr.get lane), true)
  | (.done value, mem) =>
      ({ s with
          memory := mem
          memWb := ⟨s.memWb.slots.set lane { s.exMem.slots.get lane with result := value }⟩ }, false)

theorem memoryAccessLane_invalid {s : CPUCore} {lane : Fin 2}
    (invalid : (s.exMem.slots.get lane).valid = false) : s.memoryAccessLane lane = .ok (s, false) := by
  simp [memoryAccessLane, invalid, pure, Except.pure]

theorem memoryAccessLane_eq {s : CPUCore} {lane : Fin 2} (valid : (s.exMem.slots.get lane).valid = true)
    (oneAccess : s.exMem.memRead.get lane = true -> s.exMem.memWrite.get lane = false) :
    s.memoryAccessLane lane = (laneAccess s lane).map (afterAccess s lane) := by
  unfold memoryAccessLane loadLane storeLane laneAccess
  simp only [valid, Bool.not_true, Bool.false_eq_true, if_false]
  cases reads : s.exMem.memRead.get lane with
  | true =>
      simp only [oneAccess reads, Bool.not_true, Bool.false_eq_true, if_false, if_true]
      cases loadAccess s.memory s.regFile (memFunct3 (s.exMem.slots.get lane).instr)
          (s.exMem.memAddr.get lane) with
      | error failure => rfl
      | ok out =>
          rcases out with ⟨_ | value, mem⟩
          · rfl
          · simp [bind, Except.bind, pure, Except.pure, Except.map, afterAccess, oneAccess reads]
  | false =>
      cases writes : s.exMem.memWrite.get lane with
      | false => simp [bind, Except.bind, pure, Except.pure, Except.map, afterAccess, writes]
      | true =>
          simp only [Bool.not_false, if_true, Bool.false_eq_true, if_false, bind, Except.bind, pure, Except.pure,
            writes, Bool.not_true]
          cases storeAccess s.memory s.regFile (memFunct3 (s.exMem.slots.get lane).instr)
              (s.exMem.memAddr.get lane) (s.exMem.memData.get lane) with
          | error failure => rfl
          | ok out => rcases out with ⟨_ | _, mem⟩ <;> rfl

/-! ## The whole stage -/

/-- No lane of the latch both loads and stores. -/
def OneAccess (exMem : ExMemBuffer) : Prop :=
  forall lane, (exMem.slots.get lane).valid = true -> exMem.memRead.get lane = true ->
    exMem.memWrite.get lane = false

/-- What a lane of the loop can do: nothing, complete its access, or trap. -/
inductive LaneOutcome (s : CPUCore) (lane : Fin 2) : CPUCore × Bool -> Prop where
  | empty (invalid : (s.exMem.slots.get lane).valid = false) : LaneOutcome s lane (s, false)
  | finished (value : Word) (mem : MemorySystem) (valid : (s.exMem.slots.get lane).valid = true)
      (access : laneAccess s lane = .ok (.done value, mem)) :
      LaneOutcome s lane (afterAccess s lane (.done value, mem))
  | trapped (cause : Word) (mem : MemorySystem) (valid : (s.exMem.slots.get lane).valid = true)
      (access : laneAccess s lane = .ok (.trap cause, mem)) :
      LaneOutcome s lane (afterAccess s lane (.trap cause, mem))

theorem memoryAccessLane_outcome {s : CPUCore} {lane : Fin 2} {out : CPUCore × Bool}
    (one : OneAccess s.exMem) (ran : s.memoryAccessLane lane = .ok out) : LaneOutcome s lane out := by
  cases valid : (s.exMem.slots.get lane).valid with
  | false =>
      rw [memoryAccessLane_invalid valid] at ran
      cases ran
      exact .empty valid
  | true =>
      rw [memoryAccessLane_eq valid (one lane valid)] at ran
      rcases map_eq_ok.mp ran with ⟨⟨result, mem⟩, access, outEq⟩
      subst outEq
      cases result with
      | trap cause => exact .trapped cause mem valid access
      | done value => exact .finished value mem valid access

/-- A lane that does not trap changes the memory and MEM/WB only. -/
theorem LaneOutcome.frame {s t : CPUCore} {lane : Fin 2} (outcome : LaneOutcome s lane (t, false)) :
    Exists fun mem => Exists fun memWb => t = { s with memory := mem, memWb := memWb } := by
  cases outcome with
  | empty invalid => exact ⟨s.memory, s.memWb, rfl⟩
  | finished value mem valid access => exact ⟨mem, _, rfl⟩

theorem LaneOutcome.sameExMem {s t : CPUCore} {lane : Fin 2} (outcome : LaneOutcome s lane (t, false)) :
    t.exMem = s.exMem := by
  rcases outcome.frame with ⟨mem, memWb, frame⟩
  rw [frame]

/-- How the stage ends: both lanes done, a trap of lane 0 that leaves lane 1
alone, or a trap of lane 1 after lane 0 is done. -/
inductive StageOutcome (s : CPUCore) : CPUCore × Option (Fin 2) -> Prop where
  | finished (mid t : CPUCore) (first : LaneOutcome { s with memWb := {} } 0 (mid, false))
      (second : LaneOutcome mid 1 (t, false)) : StageOutcome s (t, none)
  | trapped0 (t : CPUCore) (first : LaneOutcome { s with memWb := {} } 0 (t, true)) :
      StageOutcome s (t, some 0)
  | trapped1 (mid t : CPUCore) (first : LaneOutcome { s with memWb := {} } 0 (mid, false))
      (second : LaneOutcome mid 1 (t, true)) : StageOutcome s (t, some 1)

theorem memoryAccess_outcome {s : CPUCore} {out : CPUCore × Option (Fin 2)} (one : OneAccess s.exMem)
    (ran : s.memoryAccess = .ok out) : StageOutcome s out := by
  rcases bind_eq_ok.mp ran with ⟨⟨mid, trapped⟩, first, rest⟩
  have firstOutcome := memoryAccessLane_outcome (s := { s with memWb := {} }) one first
  cases trapped with
  | true =>
      cases rest
      exact .trapped0 mid firstOutcome
  | false =>
      rcases bind_eq_ok.mp rest with ⟨⟨t, trapped⟩, second, last⟩
      have sameExMem : mid.exMem = s.exMem := firstOutcome.sameExMem
      have secondOutcome := memoryAccessLane_outcome (sameExMem ▸ one) second
      cases trapped with
      | true =>
          cases last
          exact .trapped1 mid t firstOutcome secondOutcome
      | false =>
          cases last
          exact .finished mid t firstOutcome secondOutcome

/-- A memory stage without a trap changes the memory and MEM/WB. -/
theorem memoryAccess_frame {s e : CPUCore} (one : OneAccess s.exMem) (ran : s.memoryAccess = .ok (e, none)) :
    Exists fun mem => Exists fun memWb => e = { s with memory := mem, memWb := memWb } := by
  rcases memoryAccess_outcome one ran with ⟨mid, _, first, second⟩
  rcases first.frame with ⟨_, _, midEq⟩
  rcases second.frame with ⟨mem, memWb, eEq⟩
  rw [midEq] at eEq
  exact ⟨mem, memWb, eEq⟩

/-- What holds once MEM/WB is empty, and is kept by each lane, holds behind the
stage.  Lanes in front of the last one have changed memory and MEM/WB only. -/
theorem StageOutcome.preserves {property : CPUCore -> Prop} {s : CPUCore} {out : CPUCore × Option (Fin 2)}
    (outcome : StageOutcome s out) (start : property { s with memWb := {} })
    (kept : forall mem memWb lane after, property { s with memory := mem, memWb := memWb } ->
      LaneOutcome { s with memory := mem, memWb := memWb } lane after -> property after.1) : property out.1 := by
  have first0 : forall {after : CPUCore × Bool}, LaneOutcome { s with memWb := {} } 0 after -> property after.1 :=
    kept s.memory {} 0 _ start
  have second1 : forall {mid : CPUCore} {after : CPUCore × Bool}, LaneOutcome { s with memWb := {} } 0 (mid, false) ->
      LaneOutcome mid 1 after -> property after.1 := by
    intro mid after first second
    have holds := first0 first
    rcases first.frame with ⟨mem, memWb, frame⟩
    subst frame
    exact kept mem memWb 1 after holds second
  cases outcome with
  | finished mid t first second => exact second1 first second
  | trapped0 t first => exact first0 first
  | trapped1 mid t first second => exact second1 first second

/-- The access of a lane is a load, a store that traps, one that is done, or none. -/
inductive LaneEnd (s : CPUCore) (lane : Fin 2) : Access Word × MemorySystem -> Prop where
  | load {out : Access Word × MemorySystem} (reads : s.exMem.memRead.get lane = true)
      (access : loadAccess s.memory s.regFile (memFunct3 (s.exMem.slots.get lane).instr) (s.exMem.memAddr.get lane) =
        .ok out) : LaneEnd s lane out
  | storeTrap {cause : Word} {mem : MemorySystem} (notRead : s.exMem.memRead.get lane = false)
      (writes : s.exMem.memWrite.get lane = true)
      (access : storeAccess s.memory s.regFile (memFunct3 (s.exMem.slots.get lane).instr) (s.exMem.memAddr.get lane)
        (s.exMem.memData.get lane) = .ok (.trap cause, mem)) : LaneEnd s lane (.trap cause, mem)
  | store {mem : MemorySystem} (notRead : s.exMem.memRead.get lane = false)
      (writes : s.exMem.memWrite.get lane = true)
      (access : storeAccess s.memory s.regFile (memFunct3 (s.exMem.slots.get lane).instr) (s.exMem.memAddr.get lane)
        (s.exMem.memData.get lane) = .ok (.done (), mem)) :
      LaneEnd s lane (.done (s.exMem.slots.get lane).result, mem)
  | none (notRead : s.exMem.memRead.get lane = false) (notWrite : s.exMem.memWrite.get lane = false) :
      LaneEnd s lane (.done (s.exMem.slots.get lane).result, s.memory)

theorem laneAccess_end {s : CPUCore} {lane : Fin 2} {out : Access Word × MemorySystem}
    (access : laneAccess s lane = .ok out) : LaneEnd s lane out := by
  unfold laneAccess at access
  simp only at access
  split at access
  · exact .load ‹_› access
  · rename_i notRead
    split at access
    · rcases map_eq_ok.mp access with ⟨⟨stored, mem⟩, storeOk, outEq⟩
      subst outEq
      cases stored with
      | trap cause => exact .storeTrap (Bool.eq_false_iff.mpr notRead) ‹_› storeOk
      | done _ => exact .store (Bool.eq_false_iff.mpr notRead) ‹_› storeOk
    · rename_i notWrite
      cases access
      exact .none (Bool.eq_false_iff.mpr notRead) (Bool.eq_false_iff.mpr notWrite)

/-- An access that traps has changed at most the TLB, and was a load or a
store. -/
theorem laneAccess_trap {s : CPUCore} {lane : Fin 2} {cause : Word} {mem : MemorySystem}
    (trap : laneAccess s lane = .ok (.trap cause, mem)) :
    OnlyTlb s.memory mem ∧ (s.exMem.memRead.get lane = true ∨ s.exMem.memWrite.get lane = true) := by
  have ends := laneAccess_end trap
  cases ends with
  | load reads access => exact ⟨loadAccess_trap access, .inl reads⟩
  | storeTrap notRead writes access => exact ⟨storeAccess_trap access, .inr writes⟩

/-- The stage behind a first lane that is done. -/
theorem memoryAccess_of_first {s mid : CPUCore}
    (first : CPUCore.memoryAccessLane { s with memWb := {} } 0 = .ok (mid, false)) :
    s.memoryAccess = (mid.memoryAccessLane 1).map (fun out => (out.1, if out.2 then some 1 else none)) := by
  unfold memoryAccess
  simp only [bind, Except.bind] at first ⊢
  rw [first]
  simp only [Bool.false_eq_true, if_false]
  cases mid.memoryAccessLane 1 <;> rfl

/-- The stage, when both lanes are done. -/
theorem memoryAccess_of_lanes {s mid t : CPUCore}
    (first : CPUCore.memoryAccessLane { s with memWb := {} } 0 = .ok (mid, false))
    (second : mid.memoryAccessLane 1 = .ok (t, false)) : s.memoryAccess = .ok (t, none) := by
  rw [memoryAccess_of_first first, second]
  rfl

/-! ## A lane that is done, and one that traps -/

/-- A lane that is done leaves the other lane of MEM/WB as it was. -/
theorem LaneOutcome.otherLane {s t : CPUCore} {lane other : Fin 2} (outcome : LaneOutcome s lane (t, false))
    (different : other ≠ lane) : t.memWb.slots.get other = s.memWb.slots.get other := by
  cases outcome with
  | empty invalid => rfl
  | finished value mem valid access => exact Dual.get_set_of_ne _ different _

/-- A lane that is done has moved on as it was, but for its result. -/
theorem LaneOutcome.moved {s t : CPUCore} {lane : Fin 2} (outcome : LaneOutcome s lane (t, false))
    (free : s.memWb.slots.get lane = {}) :
    (t.memWb.slots.get lane).valid = (s.exMem.slots.get lane).valid ∧
      ((s.exMem.slots.get lane).valid = true ->
        (t.memWb.slots.get lane).instr = (s.exMem.slots.get lane).instr) := by
  cases outcome with
  | empty invalid =>
      rw [free, invalid]
      exact ⟨rfl, Bool.false_ne_true.elim⟩
  | finished value mem valid access =>
      change ((s.memWb.slots.set lane _).get lane).valid = _ ∧ (_ -> ((s.memWb.slots.set lane _).get lane).instr = _)
      rw [Dual.get_set]
      exact ⟨rfl, fun _ => rfl⟩

/-- What the trap of a lane does to the core. -/
theorem LaneOutcome.trap {s t : CPUCore} {lane : Fin 2} (outcome : LaneOutcome s lane (t, true)) :
    (s.exMem.slots.get lane).valid = true ∧
      (s.exMem.memRead.get lane = true ∨ s.exMem.memWrite.get lane = true) ∧ OnlyTlb s.memory t.memory ∧
      (Exists fun faultPc => Exists fun cause => Exists fun tval =>
        t.regFile = (s.regFile.handleTrap faultPc cause tval).1) ∧
      (t.ifId = {} ∧ t.idEx = {}) ∧ t.memWb = ⟨s.memWb.slots.set lane (s.exMem.slots.get lane)⟩ := by
  cases outcome with
  | trapped cause mem valid access =>
      rcases laneAccess_trap access with ⟨storage, accesses⟩
      exact ⟨valid, accesses, storage, ⟨_, _, _, rfl⟩, ⟨rfl, rfl⟩, rfl⟩

/-- Without a trap both lanes are done, and neither touches the slot of the
other in MEM/WB. -/
theorem memoryAccess_lanes {s t : CPUCore} (one : OneAccess s.exMem) (ran : s.memoryAccess = .ok (t, none)) :
    Exists fun mid => LaneOutcome { s with memWb := {} } 0 (mid, false) ∧ LaneOutcome mid 1 (t, false) ∧
      mid.exMem = s.exMem ∧ mid.memWb.slots.get 1 = {} ∧ t.memWb.slots.get 0 = mid.memWb.slots.get 0 := by
  rcases memoryAccess_outcome one ran with ⟨mid, _, first, second⟩
  exact ⟨mid, first, second, first.sameExMem, first.otherLane (by decide), second.otherLane (by decide)⟩

theorem laneOutcome_trap_regFile {s t : CPUCore} {lane : Fin 2} (outcome : LaneOutcome s lane (t, true)) :
    Exists fun cause => Exists fun mem => (s.exMem.slots.get lane).valid = true ∧
      laneAccess s lane = .ok (.trap cause, mem) ∧
      t.regFile = (s.regFile.handleTrap (lanePc s lane) cause (s.exMem.memAddr.get lane)).1 := by
  cases outcome with
  | trapped cause mem valid access => exact ⟨cause, mem, valid, access, rfl⟩

/-- The core when the loop of `memoryAccess` comes to a lane: the accesses
that are older in program order are done. -/
def olderAccesses (s : CPUCore) (lane : Fin 2) : Except Crash CPUCore :=
  if lane = 1 then ({ s with memWb := {} }.memoryAccessLane 0).map Prod.fst else .ok { s with memWb := {} }

/-- The core before the access that traps, whichever lane it is in. -/
theorem memoryAccess_trap {s t : CPUCore} {lane : Fin 2} (one : OneAccess s.exMem)
    (ran : s.memoryAccess = .ok (t, some lane)) :
    Exists fun older => olderAccesses s lane = .ok older ∧ older.exMem = s.exMem ∧
      (older.regFile = s.regFile ∧ older.pc = s.pc) ∧ older.memWb.slots.get lane = {} ∧
      (lane = 0 -> older.memWb = {}) ∧ LaneOutcome older lane (t, true) := by
  rcases bind_eq_ok.mp ran with ⟨⟨mid, trapped⟩, first, rest⟩
  have firstOutcome := memoryAccessLane_outcome (s := { s with memWb := {} }) one first
  cases trapped with
  | true =>
      cases rest
      exact ⟨{ s with memWb := {} }, rfl, rfl, ⟨rfl, rfl⟩, rfl, fun _ => rfl, firstOutcome⟩
  | false =>
      rcases firstOutcome.frame with ⟨mem, memWb, midEq⟩
      have sameExMem : mid.exMem = s.exMem := by rw [midEq]
      have sameControl : mid.regFile = s.regFile ∧ mid.pc = s.pc := by
        rw [midEq]
        exact ⟨rfl, rfl⟩
      rcases bind_eq_ok.mp rest with ⟨⟨t', trapped⟩, second, last⟩
      have secondOutcome := memoryAccessLane_outcome (sameExMem ▸ one) second
      cases trapped with
      | false => cases last
      | true =>
          cases last
          have fresh : mid.memWb.slots.get 1 = {} := firstOutcome.otherLane (by decide)
          refine ⟨mid, ?_, sameExMem, sameControl, fresh, fun first => absurd first (by decide), secondOutcome⟩
          unfold olderAccesses
          rw [if_pos rfl, first]
          rfl

end Pipeline
end SimpleRV
