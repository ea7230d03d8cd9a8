import SimpleRV.Library.BitFields
import SimpleRV.Pipeline.MemoryFrames

namespace SimpleRV
namespace Memory

open MemorySystem Pipeline Iteration

/-!
# The operations of the memory system

Everything the core can ask of `MemorySystem`, as one step function, and what
the two operations with an effect, `write` and `increment_timer`, can change.
-/

/-- A call of a member function. -/
inductive Operation where
  | read (addr : Addr) (n : Nat)
  | readDoubleInstr (pc : Addr)
  | write (addr : Addr) (n : Nat) (data : Word)
  | incrementTimer
  | translate (vaddr : Addr) (isWrite isFetch : Bool) (satp : Word) (privilege : Byte)
  | tlbFlush
deriving DecidableEq

/-- The memory system after a call, if it returns. -/
def perform (mem : MemorySystem) : Operation -> Except Crash MemorySystem
  | .read addr n => (mem.read addr n).map Prod.snd
  | .readDoubleInstr pc => (mem.readDoubleInstr pc).map (fun _ => mem)
  | .write addr n data => mem.write addr n data
  | .incrementTimer => .ok mem.incrementTimer
  | .translate vaddr isWrite isFetch satp privilege =>
      (mem.translate vaddr isWrite isFetch satp privilege).map Prod.snd
  | .tlbFlush => .ok mem.tlbFlush

/-! ## Writes -/

/-- The high and the low word of `mtimecmp`, as a write replaces them. -/
theorem replace_low (old : BitVec 64) (data : Word) :
    (old &&& 0xFFFFFFFF00000000#64) ||| data.setWidth 64 = old.extractLsb' 32 32 ++ data := by
  have mask : 0xFFFFFFFF00000000#64 = ~~~BitVec.ofNat 64 (2 ^ 32 - 1) := rfl
  apply BitVec.eq_of_getLsbD_eq
  intro i below
  simp only [mask, BitVec.getLsbD_or, BitVec.getLsbD_and, BitVec.getLsbD_not, BitVec.getLsbD_setWidth,
    BitVec.getLsbD_append, BitVec.getLsbD_extractLsb', BitFields.getLsbD_ones (show 32 <= 64 by decide)]
  grind

theorem replace_high (old : BitVec 64) (data : Word) :
    (old &&& 0xFFFFFFFF#64) ||| (data.setWidth 64 <<< 32) = data ++ old.extractLsb' 0 32 := by
  have mask : 0xFFFFFFFF#64 = BitVec.ofNat 64 (2 ^ 32 - 1) := rfl
  apply BitVec.eq_of_getLsbD_eq
  intro i below
  simp only [mask, BitVec.getLsbD_or, BitVec.getLsbD_and, BitVec.getLsbD_shiftLeft, BitVec.getLsbD_setWidth,
    BitVec.getLsbD_append, BitVec.getLsbD_extractLsb', BitFields.getLsbD_ones (show 32 <= 64 by decide)]
  grind

/-- What a write can do. -/
inductive WriteEffect (mem : MemorySystem) (addr : Addr) (n : Nat) (data : Word) : MemorySystem -> Prop where
  | compareLow (here : addr = CLINT_MTIMECMP) (whole : n = 4) :
      WriteEffect mem addr n data { mem with mtimecmp := mem.mtimecmp.extractLsb' 32 32 ++ data }
  | compareHigh (here : addr = CLINT_MTIMECMP + 4) (whole : n = 4) :
      WriteEffect mem addr n data { mem with mtimecmp := data ++ mem.mtimecmp.extractLsb' 0 32 }
  | ignored (clint : inClint addr = true) (elsewhere : n = 4 -> addr ≠ CLINT_MTIMECMP ∧ addr ≠ CLINT_MTIMECMP + 4) :
      WriteEffect mem addr n data mem
  | uart (here : addr = UART_TX_ADDR) :
      WriteEffect mem addr n data { mem with uartOutput := data.setWidth 8 :: mem.uartOutput }
  | ram (noClint : inClint addr = false) (noUart : addr ≠ UART_TX_ADDR) (within : inRange addr n = true) :
      WriteEffect mem addr n data { mem with memory := LittleEndian.store mem.memory addr data n }

theorem write_effect {mem after : MemorySystem} {addr : Addr} {n : Nat} {data : Word}
    (ran : mem.write addr n data = .ok after) : WriteEffect mem addr n data after := by
  unfold MemorySystem.write at ran
  cases clint : inClint addr with
  | true =>
      rw [clint, if_pos rfl] at ran
      split at ran
      · rename_i low
        simp only [Bool.and_eq_true, decide_eq_true_eq, beq_iff_eq] at low
        cases ran
        rw [replace_low]
        exact .compareLow low.1 low.2
      · rename_i notLow
        split at ran
        · rename_i high
          simp only [Bool.and_eq_true, decide_eq_true_eq, beq_iff_eq] at high
          cases ran
          rw [replace_high]
          exact .compareHigh high.1 high.2
        · rename_i notHigh
          simp only [Bool.and_eq_true, decide_eq_true_eq, beq_iff_eq, not_and] at notLow notHigh
          cases ran
          exact .ignored clint (fun whole => ⟨fun here => notLow here whole, fun here => notHigh here whole⟩)
  | false =>
      rw [clint, if_neg Bool.false_ne_true] at ran
      split at ran
      · cases ran
        exact .uart ‹_›
      · split at ran
        · cases ran
        · unfold storeBytes at ran
          split at ran
          · cases ran
            exact .ram clint ‹_› ‹_›
          · cases ran

theorem WriteEffect.mtime {mem after : MemorySystem} {addr : Addr} {n : Nat} {data : Word}
    (effect : WriteEffect mem addr n data after) : after.mtime = mem.mtime := by
  cases effect <;> rfl

/-- Outside the CLINT window the comparator is out of reach. -/
theorem WriteEffect.mtimecmp {mem after : MemorySystem} {addr : Addr} {n : Nat} {data : Word}
    (effect : WriteEffect mem addr n data after) (noClint : inClint addr = false) : after.mtimecmp = mem.mtimecmp := by
  cases effect with
  | compareLow here whole =>
      subst here
      exact absurd noClint (by decide)
  | compareHigh here whole =>
      subst here
      exact absurd noClint (by decide)
  | ignored clint elsewhere => rfl
  | uart here => rfl
  | ram noClint noUart within => rfl

/-- Inside it, and at the UART, the RAM is. -/
theorem WriteEffect.memory {mem after : MemorySystem} {addr : Addr} {n : Nat} {data : Word}
    (effect : WriteEffect mem addr n data after) (device : inClint addr = true ∨ addr = UART_TX_ADDR) :
    after.memory = mem.memory := by
  cases effect with
  | ram noClint noUart within =>
      rcases device with clint | uart
      · exact absurd (noClint.symm.trans clint) (by decide)
      · exact absurd uart noUart
  | compareLow here whole => rfl
  | compareHigh here whole => rfl
  | ignored clint elsewhere => rfl
  | uart here => rfl

/-! ## All operations -/

/-- Apart from writes and the timer nothing is stored. -/
theorem perform_sameStorage {mem after : MemorySystem} {operation : Operation}
    (ran : perform mem operation = .ok after)
    (quiet : operation ≠ .incrementTimer ∧ forall addr n data, operation ≠ .write addr n data) :
    SameStorage mem after := by
  cases operation with
  | read addr n =>
      rcases map_eq_ok.mp ran with ⟨⟨data, mem'⟩, readOk, rfl⟩
      exact read_sameStorage readOk
  | readDoubleInstr pc =>
      rcases map_eq_ok.mp ran with ⟨data, _, rfl⟩
      exact .refl mem
  | write addr n data => exact absurd rfl (quiet.2 addr n data)
  | incrementTimer => exact absurd rfl quiet.1
  | translate vaddr isWrite isFetch satp privilege =>
      rcases map_eq_ok.mp ran with ⟨⟨found, mem'⟩, translated, rfl⟩
      exact (translate_onlyTlb translated).sameStorage
  | tlbFlush =>
      cases ran
      exact ⟨rfl, rfl, rfl, rfl⟩

/-- The timer advances by one in `increment_timer` and is otherwise left alone. -/
theorem perform_mtime {mem after : MemorySystem} {operation : Operation} (ran : perform mem operation = .ok after) :
    after.mtime = if operation = .incrementTimer then mem.mtime + 1 else mem.mtime := by
  by_cases timer : operation = .incrementTimer
  · subst timer
    cases ran
    rfl
  · rw [if_neg timer]
    by_cases writes : Exists fun addr => Exists fun n => Exists fun data => operation = .write addr n data
    · rcases writes with ⟨addr, n, data, rfl⟩
      exact (write_effect ran).mtime
    · refine (perform_sameStorage ran ⟨timer, ?_⟩).mtime
      intro addr n data same
      exact writes ⟨addr, n, data, same⟩

end Memory
end SimpleRV
