import SimpleRV.Memory.Operations
import SimpleRV.Refinement.Effects

namespace SimpleRV
namespace Memory

open MemorySystem Pipeline Iteration Refinement

/-!
# Stores, loads and the device windows

What is read after a write, byte by byte, and that the RAM, the timer and the
UART do not reach into each other, although the CLINT window lies inside the
range of RAM addresses.
-/

/-! ## RAM -/

/-- A byte of RAM after a store, addressed without wrapping. -/
theorem store_inRam (ram : Addr -> Byte) {addr : Addr} {n x : Nat} (data : Word)
    (inRam : addr.toNat + n <= MEMORY_SIZE.toNat) (xInRam : x < MEMORY_SIZE.toNat) :
    LittleEndian.store ram addr data n (BitVec.ofNat 32 x) =
      if addr.toNat <= x ∧ x < addr.toNat + n then LittleEndian.byte data (x - addr.toNat)
      else ram (BitVec.ofNat 32 x) := by
  have size : MEMORY_SIZE.toNat = 0x08000000 := rfl
  have index : (BitVec.ofNat 32 x).toNat = x := by
    rw [BitVec.toNat_ofNat, Nat.mod_eq_of_lt (by omega)]
  rw [LittleEndian.store_apply ram addr data (by omega)]
  by_cases above : addr.toNat <= x
  · have distance : (BitVec.ofNat 32 x - addr).toNat = x - addr.toNat := by
      rw [BitVec.toNat_sub_of_le (by rw [BitVec.le_def, index]; exact above), index]
    rw [distance]
    by_cases inside : x - addr.toNat < n
    · rw [if_pos inside, if_pos ⟨above, by omega⟩]
    · rw [if_neg inside, if_neg (by omega)]
  · have distance : (BitVec.ofNat 32 x - addr).toNat = 2 ^ 32 - (addr.toNat - x) := by
      rw [BitVec.toNat_sub, index]
      omega
    rw [distance, if_neg (by omega), if_neg (by omega)]

/-- The store/load law: each byte that is read is the one that was just
written there, and otherwise the old one. -/
theorem read_after_write (mem : MemorySystem) {addr other : Addr} {n k : Nat} (data : Word) (width : n ∈ [1, 2, 4])
    (otherWidth : k ∈ [1, 2, 4]) (inRam : addr.toNat + n <= MEMORY_SIZE.toNat)
    (otherInRam : other.toNat + k <= MEMORY_SIZE.toNat) (noClint : inClint addr = false)
    (otherNoClint : inClint other = false) :
    Exists fun after => Exists fun value => Exists fun out =>
      mem.write addr n data = .ok after ∧ after.read other k = .ok (value, out) ∧
        forall i, LittleEndian.byte value i =
          if i < k then
            if addr.toNat <= other.toNat + i ∧ other.toNat + i < addr.toNat + n then
              LittleEndian.byte data (other.toNat + i - addr.toNat)
            else mem.memory (other + BitVec.ofNat 32 i)
          else 0 := by
  have positive : forall m, m ∈ [1, 2, 4] -> 0 < m ∧ 8 * m <= 32 := by decide
  refine ⟨_, _, _, write_inRam (positive n width).1 inRam noClint, read_inRam (positive k otherWidth).1 otherInRam
    otherNoClint, ?_⟩
  intro i
  rw [LittleEndian.byte_load _ _ (positive k otherWidth).2]
  by_cases inside : i < k
  · have place : other + BitVec.ofNat 32 i = BitVec.ofNat 32 (other.toNat + i) := by
      rw [BitVec.ofNat_add, BitVec.ofNat_toNat, BitVec.setWidth_eq]
    rw [if_pos inside, if_pos inside, place]
    exact store_inRam mem.memory data inRam (by omega)
  · rw [if_neg inside, if_neg inside]

/-- The eight bytes of a double fetch are two words. -/
theorem readDoubleInstr_eq (mem : MemorySystem) {pc : Addr} (inRam : pc.toNat + 8 <= MEMORY_SIZE.toNat)
    (noClint : inClint pc = false) (noClint4 : inClint (pc + 4) = false) :
    Exists fun double => Exists fun low => Exists fun between => Exists fun high => Exists fun after =>
      mem.readDoubleInstr pc = .ok double ∧ mem.read pc 4 = .ok (low, between) ∧
        between.read (pc + 4) 4 = .ok (high, after) ∧ double.toNat = low.toNat + 2 ^ 32 * high.toNat := by
  have size : MEMORY_SIZE.toNat = 0x08000000 := rfl
  have four : (4 : Addr).toNat = 4 := rfl
  have next : (pc + 4).toNat = pc.toNat + 4 := by
    rw [BitVec.toNat_add, four]
    omega
  have double := @readDoubleInstr_inRam mem pc inRam
  have low := @read_inRam mem pc 4 (by decide) (by omega) noClint
  refine ⟨_, _, _, LittleEndian.load mem.memory (pc + 4) 4, _, double, low, read_inRam (by decide) (by omega) noClint4, ?_⟩
  rcases load_double mem.memory pc with ⟨lowWord, highWord⟩
  have lowNat := congrArg BitVec.toNat lowWord
  have highNat := congrArg BitVec.toNat highWord
  simp only [BitVec.toNat_setWidth, BitVec.toNat_ushiftRight, Nat.shiftRight_eq_div_pow] at lowNat highNat
  have bound := (LittleEndian.load mem.memory pc 8 : BitVec 64).isLt
  omega

/-! ## The timer -/

/-- The last word that a list of operations writes to an address, or the given
one if it writes none. -/
def lastWord (addr : Addr) (initial : Word) (operations : List Operation) : Word :=
  operations.foldl (fun word operation =>
    match operation with
    | .write target n data => if target = addr ∧ n = 4 then data else word
    | _ => word) initial

/-- The comparator as its two words. -/
theorem mtimecmp_words (mtimecmp : BitVec 64) :
    mtimecmp = mtimecmp.extractLsb' 32 32 ++ mtimecmp.extractLsb' 0 32 := by
  apply BitVec.eq_of_getLsbD_eq
  intro i below
  rw [BitVec.getLsbD_append, BitVec.getLsbD_extractLsb', BitVec.getLsbD_extractLsb']
  by_cases low : i < 32
  · simp [low]
  · have index : 32 + (i - 32) = i := by omega
    simp [low, index, show i - 32 < 32 by omega]

/-- One operation, seen from the comparator. -/
theorem perform_mtimecmp {mem after : MemorySystem} {operation : Operation} (ran : perform mem operation = .ok after) :
    after.mtimecmp = lastWord (CLINT_MTIMECMP + 4) (mem.mtimecmp.extractLsb' 32 32) [operation] ++
      lastWord CLINT_MTIMECMP (mem.mtimecmp.extractLsb' 0 32) [operation] := by
  have kept : mem.mtimecmp = mem.mtimecmp.extractLsb' 32 32 ++ mem.mtimecmp.extractLsb' 0 32 :=
    mtimecmp_words mem.mtimecmp
  cases operation with
  | write addr n data =>
      cases write_effect ran with
      | compareLow here whole =>
          subst here whole
          rfl
      | compareHigh here whole =>
          subst here whole
          rfl
      | ignored clint elsewhere =>
          have high : ¬(addr = CLINT_MTIMECMP + 4 ∧ n = 4) := fun both => (elsewhere both.2).2 both.1
          have low : ¬(addr = CLINT_MTIMECMP ∧ n = 4) := fun both => (elsewhere both.2).1 both.1
          simp only [lastWord, List.foldl_cons, List.foldl_nil, if_neg high, if_neg low]
          exact kept
      | uart here =>
          subst here
          exact kept
      | ram noClint noUart within =>
          have high : ¬(addr = CLINT_MTIMECMP + 4 ∧ n = 4) := by
            rintro ⟨rfl, _⟩
            exact absurd noClint (by decide)
          have low : ¬(addr = CLINT_MTIMECMP ∧ n = 4) := by
            rintro ⟨rfl, _⟩
            exact absurd noClint (by decide)
          simp only [lastWord, List.foldl_cons, List.foldl_nil, if_neg high, if_neg low]
          exact kept
  | incrementTimer =>
      cases ran
      exact kept
  | read addr n => exact (perform_sameStorage ran (by simp)).mtimecmp.trans kept
  | readDoubleInstr pc => exact (perform_sameStorage ran (by simp)).mtimecmp.trans kept
  | translate vaddr isWrite isFetch satp privilege => exact (perform_sameStorage ran (by simp)).mtimecmp.trans kept
  | tlbFlush => exact (perform_sameStorage ran (by simp)).mtimecmp.trans kept

/-- After any operations the comparator is made of the last words written to
its halves. -/
theorem run_mtimecmp {mem after : MemorySystem} {operations : List Operation}
    (run : runInputs perform mem operations = .ok after) :
    after.mtimecmp = lastWord (CLINT_MTIMECMP + 4) (mem.mtimecmp.extractLsb' 32 32) operations ++
      lastWord CLINT_MTIMECMP (mem.mtimecmp.extractLsb' 0 32) operations := by
  induction operations generalizing mem with
  | nil =>
      cases run
      exact mtimecmp_words _
  | cons operation rest ih =>
      rcases bind_eq_ok.mp run with ⟨next, first, later⟩
      have here := perform_mtimecmp first
      rw [ih later, here, BitVec.extractLsb'_append_eq_left, BitVec.extractLsb'_append_eq_right]
      rfl

/-! ## The memory system as a whole -/

/-- RAM obeys the store/load law for every two ranges outside the CLINT window,
a double fetch is two loads, and RAM, UART and timer are separate: `mtime` is
changed by `increment_timer` alone, and `mtimecmp` consists of the last words
written to its two halves, whatever else is done in between. -/
theorem storage_laws (mem : MemorySystem) :
    (forall (addr other : Addr) (n k : Nat) (data : Word), n ∈ [1, 2, 4] -> k ∈ [1, 2, 4] ->
      addr.toNat + n <= MEMORY_SIZE.toNat -> other.toNat + k <= MEMORY_SIZE.toNat -> inClint addr = false ->
      inClint other = false ->
      Exists fun after => Exists fun value => Exists fun out =>
        mem.write addr n data = .ok after ∧ after.read other k = .ok (value, out) ∧
          forall i, LittleEndian.byte value i =
            if i < k then
              if addr.toNat <= other.toNat + i ∧ other.toNat + i < addr.toNat + n then
                LittleEndian.byte data (other.toNat + i - addr.toNat)
              else mem.memory (other + BitVec.ofNat 32 i)
            else 0) ∧
      (forall pc : Addr, pc.toNat + 8 <= MEMORY_SIZE.toNat -> inClint pc = false -> inClint (pc + 4) = false ->
        Exists fun double => Exists fun low => Exists fun between => Exists fun high => Exists fun after =>
          mem.readDoubleInstr pc = .ok double ∧ mem.read pc 4 = .ok (low, between) ∧
            between.read (pc + 4) 4 = .ok (high, after) ∧ double.toNat = low.toNat + 2 ^ 32 * high.toNat) ∧
      (forall (addr : Addr) (n : Nat) (data : Word) (after : MemorySystem), mem.write addr n data = .ok after ->
        (inClint addr = false -> after.mtime = mem.mtime ∧ after.mtimecmp = mem.mtimecmp) ∧
          (inClint addr = true ∨ addr = UART_TX_ADDR -> after.memory = mem.memory)) ∧
      (forall operation after, perform mem operation = .ok after ->
        after.mtime = if operation = .incrementTimer then mem.mtime + 1 else mem.mtime) ∧
      (forall operations after, runInputs perform mem operations = .ok after ->
        after.mtimecmp.toNat =
          (lastWord (CLINT_MTIMECMP + 4) (mem.mtimecmp.extractLsb' 32 32) operations).toNat * 2 ^ 32 +
            (lastWord CLINT_MTIMECMP (mem.mtimecmp.extractLsb' 0 32) operations).toNat) := by
  refine ⟨?_, ?_, ?_, ?_, ?_⟩
  · intro addr other n k data width otherWidth inRam otherInRam noClint otherNoClint
    exact read_after_write mem data width otherWidth inRam otherInRam noClint otherNoClint
  · intro pc inRam noClint noClint4
    exact readDoubleInstr_eq mem inRam noClint noClint4
  · intro addr n data after written
    have effect := write_effect written
    exact ⟨fun noClint => ⟨effect.mtime, effect.mtimecmp noClint⟩, effect.memory⟩
  · intro operation after ran
    exact perform_mtime ran
  · intro operations after run
    rw [run_mtimecmp run, BitVec.toNat_append, ← Nat.shiftLeft_add_eq_or_of_lt (BitVec.isLt _), Nat.shiftLeft_eq]

end Memory
end SimpleRV
