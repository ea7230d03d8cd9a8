import Mathlib.Algebra.Group.Nat.Defs
import Mathlib.Logic.Function.Basic

/-!
# Little-endian words over byte-addressed memory

A memory is a function from addresses of any width to bytes.  Words of any
width are loaded and stored one byte at a time, lowest address first, with
address arithmetic wrapping as it does in hardware.
-/

namespace LittleEndian

variable {a w : Nat}

/-- The word whose byte `i` is the byte at `addr + i`, for `i < n`. -/
def load (mem : BitVec a -> BitVec 8) (addr : BitVec a) : Nat -> BitVec w
  | 0 => 0
  | n + 1 => load mem addr n ||| ((mem (addr + BitVec.ofNat a n)).setWidth w <<< (8 * n))

/-- Memory after the low `n` bytes of `data` went to `addr`, `addr + 1`, ... -/
def store (mem : BitVec a -> BitVec 8) (addr : BitVec a) (data : BitVec w) : Nat -> BitVec a -> BitVec 8
  | 0 => mem
  | n + 1 => fun x =>
      if x = addr + BitVec.ofNat a n then (data >>> (8 * n)).setWidth 8 else store mem addr data n x

/-- A load reads only its own bytes. -/
theorem load_congr {left right : BitVec a -> BitVec 8} {addr : BitVec a} {n : Nat}
    (agree : forall i, i < n -> left (addr + BitVec.ofNat a i) = right (addr + BitVec.ofNat a i)) :
    (load left addr n : BitVec w) = load right addr n := by
  induction n with
  | zero => rfl
  | succ n ih =>
      have earlier := ih (fun i below => agree i (Nat.lt_succ_of_lt below))
      rw [load, load, earlier, agree n (Nat.lt_succ_self n)]

/-- A store changes only its own bytes. -/
theorem store_of_ne {mem : BitVec a -> BitVec 8} {addr : BitVec a} {data : BitVec w} {n : Nat}
    {x : BitVec a} (outside : forall i, i < n -> x ≠ addr + BitVec.ofNat a i) :
    store mem addr data n x = mem x := by
  induction n with
  | zero => rfl
  | succ n ih =>
      have earlier := ih (fun i below => outside i (Nat.lt_succ_of_lt below))
      simp only [store, if_neg (outside n (Nat.lt_succ_self n)), earlier]

/-- A load is not changed by a store to other bytes. -/
theorem load_store_of_disjoint {v : Nat} {mem : BitVec a -> BitVec 8} {addr other : BitVec a}
    {data : BitVec v} {n k : Nat}
    (disjoint : forall i, i < n -> forall j, j < k ->
      addr + BitVec.ofNat a i ≠ other + BitVec.ofNat a j) :
    (load (store mem other data k) addr n : BitVec w) = load mem addr n :=
  load_congr (fun i below => store_of_ne (disjoint i below))

/-- Every bit of a loaded word is a bit of one loaded byte. -/
theorem getLsbD_load (mem : BitVec a -> BitVec 8) (addr : BitVec a) (n i : Nat) :
    (load mem addr n : BitVec w).getLsbD i =
      (decide (i < w) && decide (i < 8 * n) && (mem (addr + BitVec.ofNat a (i / 8))).getLsbD (i % 8)) := by
  induction n with
  | zero => simp [load]
  | succ n ih =>
      rw [load, BitVec.getLsbD_or, ih, BitVec.getLsbD_shiftLeft, BitVec.getLsbD_setWidth]
      by_cases width : i < w
      · rcases Nat.lt_trichotomy (i / 8) n with below | here | above
        · have inside : i < 8 * n := by omega
          simp [width, inside, show i < 8 * (n + 1) by omega]
        · have start : ¬ i < 8 * n := by omega
          have offset : i - 8 * n = i % 8 := by omega
          simp [width, start, offset, here, show i < 8 * (n + 1) by omega, show i % 8 < w by omega]
        · have beyond : 8 ≤ i - 8 * n := by omega
          simp [width, show ¬ i < 8 * n by omega, show ¬ i < 8 * (n + 1) by omega,
            BitVec.getLsbD_of_ge _ _ beyond]
      · simp [width]

/-- Byte `i` of a word. -/
def byte (data : BitVec w) (i : Nat) : BitVec 8 := (data >>> (8 * i)).setWidth 8

/-- The bytes of a loaded word are those of memory, up to its length. -/
theorem byte_load (mem : BitVec a -> BitVec 8) (addr : BitVec a) {n i : Nat} (fits : 8 * n <= w) :
    byte (load mem addr n : BitVec w) i = if i < n then mem (addr + BitVec.ofNat a i) else 0 := by
  apply BitVec.eq_of_getLsbD_eq
  intro j below
  have quotient : (8 * i + j) / 8 = i := by omega
  have remainder : (8 * i + j) % 8 = j := by omega
  rw [byte, BitVec.getLsbD_setWidth, BitVec.getLsbD_ushiftRight, getLsbD_load, quotient, remainder]
  by_cases inside : i < n
  · simp [inside, below, show 8 * i + j < w by omega, show 8 * i + j < 8 * n by omega]
  · simp [inside, show ¬8 * i + j < 8 * n by omega]

/-- A store of at most as many bytes as there are addresses, seen from an
address: the byte of `data` that went there, or what was there before. -/
theorem store_apply (mem : BitVec a -> BitVec 8) (addr : BitVec a) (data : BitVec w) {n : Nat} (fits : n <= 2 ^ a)
    (x : BitVec a) :
    store mem addr data n x = if (x - addr).toNat < n then byte data (x - addr).toNat else mem x := by
  induction n with
  | zero => rfl
  | succ n ih =>
      simp only [store, ih (Nat.le_of_succ_le fits)]
      by_cases here : x = addr + BitVec.ofNat a n
      · have distance : (x - addr).toNat = n := by
          rw [here, BitVec.add_comm, BitVec.add_sub_cancel, BitVec.toNat_ofNat, Nat.mod_eq_of_lt fits]
        rw [if_pos here, distance, if_pos (Nat.lt_succ_self n)]
        rfl
      · have apart : (x - addr).toNat ≠ n := by
          intro same
          have index : BitVec.ofNat a n = x - addr := by rw [← same, BitVec.ofNat_toNat, BitVec.setWidth_eq]
          exact here (by rw [index, BitVec.add_comm, BitVec.sub_add_cancel])
        rw [if_neg here]
        by_cases below : (x - addr).toNat < n
        · rw [if_pos below, if_pos (Nat.lt_succ_of_lt below)]
        · rw [if_neg below, if_neg (by omega)]

/-- Loading what was stored gives it back. -/
theorem load_store (mem : BitVec a -> BitVec 8) (addr : BitVec a) (data : BitVec w) {n : Nat} (fits : n <= 2 ^ a)
    (whole : 8 * n = w) : (load (store mem addr data n) addr n : BitVec w) = data := by
  apply BitVec.eq_of_getLsbD_eq
  intro i below
  have inside : i / 8 < n := by omega
  have distance : (addr + BitVec.ofNat a (i / 8) - addr).toNat = i / 8 := by
    rw [BitVec.add_comm, BitVec.add_sub_cancel, BitVec.toNat_ofNat, Nat.mod_eq_of_lt (by omega)]
  rw [getLsbD_load, store_apply mem addr data fits, distance, if_pos inside, byte, BitVec.getLsbD_setWidth,
    BitVec.getLsbD_ushiftRight, show 8 * (i / 8) + i % 8 = i by omega]
  simp [below, show i < 8 * n by omega, show i % 8 < 8 by omega]

/-- A load of the bytes of a word gives the word. -/
theorem load_of_byte {mem : BitVec a -> BitVec 8} {addr : BitVec a} {data : BitVec w} {n : Nat} (whole : 8 * n = w)
    (agree : forall i, i < n -> mem (addr + BitVec.ofNat a i) = byte data i) :
    (load mem addr n : BitVec w) = data := by
  apply BitVec.eq_of_getLsbD_eq
  intro i below
  rw [getLsbD_load, agree (i / 8) (by omega), byte, BitVec.getLsbD_setWidth, BitVec.getLsbD_ushiftRight,
    show 8 * (i / 8) + i % 8 = i by omega]
  simp [below, show i < 8 * n by omega, show i % 8 < 8 by omega]

/-- The bytes of words of `n` bytes each, in the order in which they lie in memory. -/
def bytes (n : Nat) (words : List (BitVec w)) : List (BitVec 8) :=
  words.flatMap (fun word => (List.range n).map (byte word))

theorem length_bytes (n : Nat) (words : List (BitVec w)) : (bytes n words).length = n * words.length := by
  induction words with
  | nil => rfl
  | cons word rest ih =>
      have step : (bytes n (word :: rest)).length = n + (bytes n rest).length := by simp [bytes]
      rw [step, ih, List.length_cons, Nat.mul_succ, Nat.add_comm]

theorem getElem?_bytes (n : Nat) (words : List (BitVec w)) (k : Nat) {b : Nat} (below : b < n) :
    (bytes n words)[n * k + b]? = words[k]?.map (fun word => byte word b) := by
  induction words generalizing k with
  | nil => simp [bytes]
  | cons word rest ih =>
      have split : bytes n (word :: rest) = (List.range n).map (byte word) ++ bytes n rest := rfl
      rw [split]
      cases k with
      | zero =>
          rw [List.getElem?_append_left (by simpa using below)]
          simp [below]
      | succ k =>
          have later : n * (k + 1) + b = n + (n * k + b) := by rw [Nat.mul_succ]; omega
          rw [later, List.getElem?_append_right (by simp)]
          simpa using ih k

/-- The low word of a double word. -/
theorem setWidth_load {v : Nat} (mem : BitVec a -> BitVec 8) (addr : BitVec a) {n k : Nat}
    (narrow : 8 * k = v) (wide : v ≤ w) (within : k ≤ n) :
    (load mem addr n : BitVec w).setWidth v = load mem addr k := by
  apply BitVec.eq_of_getLsbD_eq
  intro i below
  rw [BitVec.getLsbD_setWidth, getLsbD_load, getLsbD_load]
  simp [below, show i < w by omega, show i < 8 * n by omega, show i < 8 * k by omega]

/-- The high word of a double word is the load at the address behind the low one. -/
theorem setWidth_shiftRight_load {v : Nat} (mem : BitVec a -> BitVec 8) (addr : BitVec a) {n k : Nat}
    (narrow : 8 * k = v) (wide : 2 * v = w) (within : n = 2 * k) :
    ((load mem addr n : BitVec w) >>> v).setWidth v = load mem (addr + BitVec.ofNat a k) k := by
  apply BitVec.eq_of_getLsbD_eq
  intro i below
  have quotient : (v + i) / 8 = k + i / 8 := by omega
  have remainder : (v + i) % 8 = i % 8 := by omega
  rw [BitVec.getLsbD_setWidth, BitVec.getLsbD_ushiftRight, getLsbD_load, getLsbD_load, quotient,
    remainder, BitVec.ofNat_add, BitVec.add_assoc]
  simp [below, show v + i < w by omega, show v + i < 8 * n by omega, show i < 8 * k by omega]

end LittleEndian
