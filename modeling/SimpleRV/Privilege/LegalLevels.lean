import SimpleRV.Privilege.ControlEvents

namespace SimpleRV
namespace Privilege

open CPUCore RegisterFile BitFields Pipeline Iteration

/-!
# The privilege is always a level

The privilege and the field MPP hold one of the three levels, through every
trap, interrupt and return.  A write to `mstatus` takes the two bits of MPP
from the program, so it is the one event that can bring in the encoding that
is not a level.
-/

/-- The privilege and the one that MRET will restore are levels. -/
def LegalControl (state : Control) : Prop := Legal state.1.privilege ∧ Legal (mppOf state.1.mstatus)

/-- What an event must not do: write an MPP that is not a level. -/
def WritesLevel : ControlEvent -> Prop
  | .csr number data => number = CSR_MSTATUS -> Legal (mppOf data)
  | _ => True

/-- MPP is bits 12 and 11. -/
theorem mppOf_congr {left right : Word} (low : left.getLsbD 11 = right.getLsbD 11)
    (high : left.getLsbD 12 = right.getLsbD 12) : mppOf left = mppOf right := by
  apply BitVec.eq_of_getLsbD_eq
  intro i below
  simp only [mppOf, BitVec.getLsbD_setWidth, BitVec.getLsbD_ushiftRight, BitVec.getLsbD_and, MSTATUS_MPP_eq,
    BitVec.getLsbD_or, BitVec.getLsbD_twoPow]
  by_cases is0 : i = 0
  · subst is0
    rw [low]
  by_cases is1 : i = 1
  · subst is1
    rw [high]
  have not12 : ¬12 = 11 + i := by omega
  simp [not12, is0]

theorem mppOf_pushedS (mstatus : Word) (prv : Byte) : mppOf (pushedS mstatus prv) = mppOf mstatus := by
  apply mppOf_congr
  · rw [getLsbD_pushedS]
    simp
  · rw [getLsbD_pushedS]
    simp

theorem mppOf_poppedS (mstatus : Word) : mppOf (poppedS mstatus) = mppOf mstatus := by
  apply mppOf_congr
  · rw [getLsbD_poppedS]
    simp
  · rw [getLsbD_poppedS]
    simp

/-- MRET leaves U behind. -/
theorem mppOf_poppedM (mstatus : Word) : mppOf (poppedM mstatus) = PRV_U := by
  have empty : mppOf (poppedM mstatus) = mppOf 0 := by
    apply mppOf_congr
    · rw [getLsbD_poppedM]
      simp
    · rw [getLsbD_poppedM]
      simp
  rw [empty]
  rfl

/-- A write through `sstatus` does not reach MPP. -/
theorem mppOf_merge_sstatus (mstatus data : Word) : mppOf (merge mstatus data SSTATUS_MASK) = mppOf mstatus := by
  apply mppOf_congr
  · exact getLsbD_merge mstatus data SSTATUS_MASK 11
  · exact getLsbD_merge mstatus data SSTATUS_MASK 12

/-! ## Event by event -/

theorem handleTrap_legal {regFile : RegisterFile} (legal : Legal regFile.privilege)
    (field : Legal (mppOf regFile.mstatus)) (epc cause tval : Word) :
    LegalControl (regFile.handleTrap epc cause tval) := by
  cases target : toSupervisor regFile cause with
  | true =>
      rw [handleTrap_supervisor target]
      refine ⟨.inr (.inl rfl), ?_⟩
      rw [mppOf_pushedS]
      exact field
  | false =>
      rw [handleTrap_machine target legal]
      refine ⟨.inr (.inr rfl), ?_⟩
      rw [mppOf_pushedM _ legal]
      exact legal

theorem enterInterrupt_legal {regFile : RegisterFile} (legal : Legal regFile.privilege)
    (field : Legal (mppOf regFile.mstatus)) (pc cause : Word) : LegalControl (regFile.enterInterrupt pc cause) := by
  unfold enterInterrupt
  simp only
  split
  · refine ⟨.inr (.inl rfl), ?_⟩
    change Legal (mppOf (regFile.pushSstatus regFile.privilege).mstatus)
    rw [pushSstatus_eq, mppOf_pushedS]
    exact field
  · refine ⟨.inr (.inr rfl), ?_⟩
    change Legal (mppOf (regFile.pushMstatus regFile.privilege).mstatus)
    rw [pushMstatus_eq regFile legal, mppOf_pushedM _ legal]
    exact legal

/-- The privilege is not a CSR, and MPP is reached through `mstatus` alone. -/
theorem writeCsr_legal {regFile : RegisterFile} {number : CsrAddr} {data : Word} (legal : Legal regFile.privilege)
    (field : Legal (mppOf regFile.mstatus)) (level : number = CSR_MSTATUS -> Legal (mppOf data)) :
    Legal (regFile.writeCsr number data).privilege ∧ Legal (mppOf (regFile.writeCsr number data).mstatus) := by
  unfold writeCsr
  split
  case h_1 => exact ⟨legal, level rfl⟩
  case h_12 =>
    refine ⟨legal, ?_⟩
    change Legal (mppOf (merge regFile.mstatus data SSTATUS_MASK))
    rw [mppOf_merge_sstatus]
    exact field
  all_goals exact ⟨legal, field⟩

theorem hwSetMtip_legal {regFile : RegisterFile} (legal : Legal regFile.privilege)
    (field : Legal (mppOf regFile.mstatus)) (pending : Bool) :
    Legal (regFile.hwSetMtip pending).privilege ∧ Legal (mppOf (regFile.hwSetMtip pending).mstatus) := by
  unfold hwSetMtip
  split
  · exact ⟨legal, field⟩
  · exact ⟨legal, field⟩

/-- No event but a bad write to `mstatus` brings in another encoding. -/
theorem apply_legal {state : Control} {event : ControlEvent} (legal : LegalControl state)
    (level : WritesLevel event) : LegalControl (event.apply state) := by
  rcases legal with ⟨legal, field⟩
  cases event with
  | timer pending => exact hwSetMtip_legal legal field pending
  | interrupt cause => exact enterInterrupt_legal legal field state.2 cause
  | retire gpr => exact ⟨legal, field⟩
  | trap epc cause tval => exact handleTrap_legal legal field epc cause tval
  | csr number data => exact writeCsr_legal legal field level
  | mret =>
      change LegalControl state.1.mret
      rw [mret_eq]
      refine ⟨field, ?_⟩
      rw [mppOf_poppedM]
      exact .inl rfl
  | sret =>
      change LegalControl state.1.sret
      rw [sret_eq]
      refine ⟨?_, ?_⟩
      · change Legal (if state.1.mstatus.getLsbD 8 then PRV_S else PRV_U)
        cases state.1.mstatus.getLsbD 8 with
        | true => exact .inr (.inl rfl)
        | false => exact .inl rfl
      · rw [mppOf_poppedS]
        exact field
  | redirect target => exact ⟨legal, field⟩

/-! ## Runs -/

/-- The execute stage of the next tick writes no encoding to MPP that is not a
level. -/
def KeepsLevels (s : CPUCore) : Prop :=
  forall slot, Executes s slot -> slot.d.isCsr = true -> slot.d.csrAddr = CSR_MSTATUS -> Legal (mppOf slot.csrWriteVal)

theorem tick_legal {s t : CPUCore} (wellFormed : WellFormed s) (legal : LegalControl (control s))
    (keeps : KeepsLevels s) (ran : s.tick = .ok t) : LegalControl (control t) := by
  refine (tick_explained wellFormed ran).invariant legal ?_
  intro state event holds justified
  apply apply_legal holds
  cases event with
  | csr number data =>
      rcases justified with ⟨slot, executes, isCsr, numberEq, dataEq⟩
      intro isStatus
      rw [← dataEq]
      exact keeps slot executes isCsr (numberEq.trans isStatus)
  | _ => trivial

theorem init_legal (config : SystemConfig) (image : Addr -> Byte) (keyboard : HostKeyboard) :
    LegalControl (control (init config image keyboard)) := by
  have privilege : (init config image keyboard).regFile.privilege = PRV_M := rfl
  have mstatus : (init config image keyboard).regFile.mstatus = 0 := rfl
  refine ⟨.inr (.inr privilege), .inl ?_⟩
  change mppOf (init config image keyboard).regFile.mstatus = PRV_U
  rw [mstatus]
  rfl

section Runs

variable {config : SystemConfig} {image : Addr -> Byte} {keyboard : HostKeyboard} {n : Nat} {s : CPUCore}

/-- In a run in which no CSR instruction writes the reserved encoding to MPP,
the privilege and MPP are levels in every state. -/
theorem privilege_legal (run : iterate tick n (init config image keyboard) = .ok s)
    (keeps : forall k before, k < n -> iterate tick k (init config image keyboard) = .ok before ->
      KeepsLevels before) : Legal s.regFile.privilege ∧ Legal (mppOf s.regFile.mstatus) := by
  have both := @iterate_conditional _ _ tick (fun s => WellFormed s ∧ LegalControl (control s)) KeepsLevels
    (init config image keyboard) ⟨init_wellFormed config image keyboard, init_legal config image keyboard⟩ ?_ n s run
    keeps
  · exact both.2
  · rintro before after ⟨formed, legal⟩ levels ran
    exact ⟨tick_wellFormed before after formed ran, tick_legal formed legal levels ran⟩

end Runs

/-! ## Two runs -/

instance (prv : Byte) : Decidable (Legal prv) := inferInstanceAs (Decidable (_ ∨ _ ∨ _))

/-- `lui x1, bits`, `csrw mstatus, x1` and MRET, after `n` ticks. -/
def afterStatus (bits : Word) (n : Nat) : Except Crash CPUCore :=
  iterate tick n (init .default128MB
    (ramImage [(0, bits ||| 0x000000B7#32), (4, 0x30009073#32), (8, MRET)]) {})

/-- With MPP = U the return leads to U mode. -/
theorem privilege_legal_user : Exists fun s => afterStatus 0x2000#32 5 = .ok s ∧ s.regFile.privilege = PRV_U ∧
    Legal s.regFile.privilege ∧ Legal (mppOf s.regFile.mstatus) := by
  have reached : passes (afterStatus 0x2000#32 5) (fun s => decide (s.regFile.privilege = PRV_U)) = true := by
    decide +kernel
  have tests : everyState tick (everyExecuted (fun slot =>
      decide (slot.d.isCsr = true -> slot.d.csrAddr = CSR_MSTATUS -> Legal (mppOf slot.csrWriteVal)))) 5
        (init .default128MB (ramImage [(0, 0x000020B7#32), (4, 0x30009073#32), (8, MRET)]) {}) = true := by
    decide +kernel
  rcases exists_of_passes reached with ⟨s, run, user⟩
  refine ⟨s, run, of_decide_eq_true user, privilege_legal run (fun k before below earlier slot executes => ?_)⟩
  rcases everyState_sound tests below with ⟨state, next, same, passed, _⟩
  cases same.symm.trans earlier
  exact of_decide_eq_true (everyExecuted_sound passed executes)

/-- With MPP = 2 it leads to a privilege that is none of the three. -/
theorem reserved_mpp_becomes_privilege : Exists fun s => Reachable s ∧ s.regFile.privilege = 2#8 ∧
    ¬Legal s.regFile.privilege := by
  have reached : passes (afterStatus 0x1000#32 5) (fun s => decide (s.regFile.privilege = 2#8)) = true := by
    decide +kernel
  rcases exists_of_passes reached with ⟨s, run, test⟩
  have privilege := of_decide_eq_true test
  refine ⟨s, ⟨_, _, _, 5, run⟩, privilege, ?_⟩
  rw [privilege]
  decide

end Privilege
end SimpleRV
