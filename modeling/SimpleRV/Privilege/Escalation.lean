import SimpleRV.Privilege.ControlEvents

namespace SimpleRV
namespace Privilege

open CPUCore RegisterFile BitFields Pipeline Iteration

/-!
# What can change the privilege and the CSRs

The core checks no privilege: CSR instructions, MRET and SRET take effect in
every mode.  These three, the entries into a handler and the timer line are all
that changes the privilege or a CSR.
-/

/-- A return changes no CSR word but `mstatus`. -/
theorem mret_other {cell : CsrWord} (other : cell ≠ .mstatus) (regFile : RegisterFile) :
    word regFile.mret.1 cell = word regFile cell := by
  rw [mret_eq]
  cases cell with
  | mstatus => exact absurd rfl other
  | _ => rfl

theorem sret_other {cell : CsrWord} (other : cell ≠ .mstatus) (regFile : RegisterFile) :
    word regFile.sret.1 cell = word regFile cell := by
  rw [sret_eq]
  cases cell with
  | mstatus => exact absurd rfl other
  | _ => rfl

/-- The timer line is bit 7 of `mip`. -/
theorem hwSetMtip_other {cell : CsrWord} {i : Nat} (other : ¬(cell = .mip ∧ i = 7)) (regFile : RegisterFile)
    (pending : Bool) : (word (regFile.hwSetMtip pending) cell).getLsbD i = (word regFile cell).getLsbD i := by
  have line : MIP_MTIP = BitVec.twoPow 32 7 := rfl
  cases cell with
  | mip =>
      have notLine : ¬7 = i := fun same => other ⟨rfl, same.symm⟩
      unfold hwSetMtip
      split
      · change (regFile.mip ||| MIP_MTIP).getLsbD i = regFile.mip.getLsbD i
        rw [line]
        simp [BitVec.getLsbD_twoPow, notLine]
      · change (regFile.mip &&& ~~~MIP_MTIP).getLsbD i = regFile.mip.getLsbD i
        rw [line]
        by_cases below : i < 32
        · simp [below, Ne.symm notLine]
        · rw [BitVec.getLsbD_of_ge _ i (Nat.le_of_not_lt below), BitVec.getLsbD_of_ge _ i (Nat.le_of_not_lt below)]
  | _ =>
      unfold hwSetMtip
      split
      · rfl
      · rfl

/-! ## Event by event -/

/-- The next tick executes MRET or SRET. -/
def ExecutesReturn (s : CPUCore) : Prop :=
  Exists fun slot => Executes s slot ∧ (slot.d.isMret = true ∨ slot.d.isSret = true)

theorem apply_privilege {s : CPUCore} {event : ControlEvent} (inside : event.isEntry = false)
    (justified : Justified s event) (state : Control) :
    (event.apply state).1.privilege = state.1.privilege ∨ ExecutesReturn s := by
  cases event with
  | timer pending =>
      left
      change (state.1.hwSetMtip pending).privilege = _
      unfold hwSetMtip
      split
      · rfl
      · rfl
  | interrupt cause => cases inside
  | retire gpr => exact .inl rfl
  | trap epc cause tval => cases inside
  | csr number data => exact .inl (writeCsr_frame state.1 number data).2
  | mret =>
      rcases justified with ⟨slot, executes, isMret⟩
      exact .inr ⟨slot, executes, .inl isMret⟩
  | sret =>
      rcases justified with ⟨slot, executes, isSret⟩
      exact .inr ⟨slot, executes, .inr isSret⟩
  | redirect target => exact .inl rfl

end Privilege
end SimpleRV
