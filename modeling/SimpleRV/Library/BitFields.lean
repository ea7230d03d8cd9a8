import Mathlib.Algebra.Group.Nat.Defs
import Mathlib.Logic.Function.Basic

/-!
# Fields of a word

A status word packs flags that are set, cleared and tested one at a time, and
some of its bits can be seen or written through other addresses.  This module
has the update of one bit, the masked update, and the address maps whose
entries are views of shared cells.
-/

namespace BitFields

variable {w : Nat}

/-- A field cut out by a shift and a mask. -/
theorem setWidth_shiftRight (word : BitVec w) (start len : Nat) :
    (word >>> start).setWidth len = word.extractLsb' start len := by
  apply BitVec.eq_of_toNat_eq
  simp

/-- The mask of the low `len` bits. -/
theorem getLsbD_ones {len : Nat} (within : len <= w) (i : Nat) :
    (BitVec.ofNat w (2 ^ len - 1)).getLsbD i = decide (i < len) := by
  rw [BitVec.getLsbD_ofNat, Nat.testBit_two_pow_sub_one]
  by_cases below : i < len
  · simp [below, show i < w by omega]
  · simp [below]

/-- A sum whose low bits do not carry changes the low bits only. -/
theorem getLsbD_add_low {k : Nat} (word addend : BitVec w) (noCarry : word.toNat % 2 ^ k + addend.toNat < 2 ^ k)
    (within : k <= w) (i : Nat) : (word + addend).getLsbD i =
      if i < k then (word.toNat % 2 ^ k + addend.toNat).testBit i else word.getLsbD i := by
  have split := Nat.div_add_mod word.toNat (2 ^ k)
  have fits : word.toNat + addend.toNat < 2 ^ w := by
    have top : 2 ^ k * (word.toNat / 2 ^ k) + 2 ^ k <= 2 ^ w := by
      have quotient : word.toNat / 2 ^ k < 2 ^ (w - k) := by
        rw [Nat.div_lt_iff_lt_mul (Nat.two_pow_pos k), ← Nat.pow_add, Nat.sub_add_cancel within]
        exact word.isLt
      calc 2 ^ k * (word.toNat / 2 ^ k) + 2 ^ k = 2 ^ k * (word.toNat / 2 ^ k + 1) := by rw [Nat.mul_add, Nat.mul_one]
        _ <= 2 ^ k * 2 ^ (w - k) := Nat.mul_le_mul_left _ quotient
        _ = 2 ^ w := by rw [← Nat.pow_add, Nat.add_sub_cancel' within]
    omega
  have sum : (word + addend).toNat = 2 ^ k * (word.toNat / 2 ^ k) + (word.toNat % 2 ^ k + addend.toNat) := by
    rw [BitVec.toNat_add, Nat.mod_eq_of_lt fits]
    omega
  rw [BitVec.getLsbD, sum, Nat.testBit_two_pow_mul_add _ noCarry]
  by_cases low : i < k
  · rw [if_pos low, if_pos low]
  · rw [if_neg low, if_neg low, BitVec.getLsbD, Nat.testBit_div_two_pow, Nat.sub_add_cancel (Nat.le_of_not_lt low)]

/-! ## One bit -/

/-- The word with bit `index` set to `value`. -/
def setTo (word : BitVec w) (index : Nat) (value : Bool) : BitVec w :=
  if value then word ||| BitVec.twoPow w index else word &&& ~~~BitVec.twoPow w index

theorem getLsbD_setTo (word : BitVec w) (index i : Nat) (value : Bool) (below : index < w) :
    (setTo word index value).getLsbD i = if i = index then value else word.getLsbD i := by
  unfold setTo
  by_cases same : i = index
  · subst same
    cases value <;> simp [below]
  · have other : (BitVec.twoPow w index).getLsbD i = false := by
      simp [BitVec.getLsbD_twoPow, Ne.symm same]
    cases value with
    | false =>
        simp only [Bool.false_eq_true, if_false, same, BitVec.getLsbD_and, BitVec.getLsbD_not, other, Bool.not_false,
          Bool.and_true, Bool.and_eq_left_iff_imp, decide_eq_true_eq]
        exact BitVec.lt_of_getLsbD
    | true => simp [same, other]

/-- The test `word & (1 << index)`. -/
theorem and_twoPow_bne_zero (word : BitVec w) (index : Nat) (below : index < w) :
    (word &&& BitVec.twoPow w index != 0) = word.getLsbD index := by
  rw [BitVec.and_twoPow]
  cases word.getLsbD index with
  | false => simp
  | true =>
      have nonzero : BitVec.twoPow w index ≠ 0 := by
        intro zero
        have bit := congrArg (fun word => word.getLsbD index) zero
        simp [below] at bit
      simpa using nonzero

/-! ## Masked updates -/

/-- The bits of `mask` are taken from `data`, the others stay. -/
def merge (old data mask : BitVec w) : BitVec w :=
  (old &&& ~~~mask) ||| (data &&& mask)

theorem getLsbD_merge (old data mask : BitVec w) (i : Nat) :
    (merge old data mask).getLsbD i = if mask.getLsbD i then data.getLsbD i else old.getLsbD i := by
  unfold merge
  simp only [BitVec.getLsbD_or, BitVec.getLsbD_and, BitVec.getLsbD_not]
  cases masked : mask.getLsbD i with
  | true => simp
  | false =>
      simp only [Bool.not_false, Bool.and_true, Bool.and_false, Bool.or_false, Bool.false_eq_true, if_false,
        Bool.and_eq_left_iff_imp, decide_eq_true_eq]
      exact BitVec.lt_of_getLsbD

@[simp] theorem merge_zero (old data : BitVec w) : merge old data 0 = old := by
  simp [merge]

@[simp] theorem merge_allOnes (old data : BitVec w) : merge old data (BitVec.allOnes w) = data := by
  unfold merge
  rw [BitVec.not_allOnes, BitVec.and_zero, BitVec.zero_or, BitVec.and_allOnes]

/-- A masked update of a word that has no bit outside the mask. -/
theorem merge_of_within {old mask : BitVec w} (within : old &&& ~~~mask = 0) (data : BitVec w) :
    merge old data mask = data &&& mask := by
  rw [merge, within]
  exact BitVec.zero_or

/-- A masked update, seen through another mask. -/
theorem merge_and (old data mask shown : BitVec w) :
    merge old data mask &&& shown = merge (old &&& shown) data (mask &&& shown) := by
  apply BitVec.eq_of_getLsbD_eq
  intro i _
  simp only [getLsbD_merge, BitVec.getLsbD_and]
  cases mask.getLsbD i <;> cases shown.getLsbD i <;> simp

/-- Writing back what a view shows changes nothing. -/
theorem merge_self {mask shown : BitVec w} (visible : mask &&& ~~~shown = 0) (old : BitVec w) :
    merge old (old &&& shown) mask = old := by
  apply BitVec.eq_of_getLsbD_eq
  intro i below
  have bit := congrArg (fun word => word.getLsbD i) visible
  simp only [BitVec.getLsbD_and, BitVec.getLsbD_not, below, decide_true, Bool.true_and, BitVec.ofNat_eq_ofNat,
    BitVec.getLsbD_zero] at bit
  rw [getLsbD_merge]
  cases writable : mask.getLsbD i with
  | false => rfl
  | true =>
      rw [writable, Bool.true_and, Bool.not_eq_false'] at bit
      simp [bit]

/-! ## Views of shared cells -/

/-- What an address stands for: a constant, or some bits of a cell, of which
some can be written. -/
inductive Port (Cell : Type) (w : Nat) where
  | constant (value : BitVec w)
  | view (cell : Cell) (readable writable : BitVec w)

namespace Port

variable {Cell : Type} [DecidableEq Cell]

def read (port : Port Cell w) (cells : Cell -> BitVec w) : BitVec w :=
  match port with
  | .constant value => value
  | .view cell readable _ => cells cell &&& readable

def write (port : Port Cell w) (cells : Cell -> BitVec w) (data : BitVec w) : Cell -> BitVec w :=
  match port with
  | .constant _ => cells
  | .view cell _ writable => Function.update cells cell (merge (cells cell) data writable)

/-- The bits seen at `port` that a write to `other` changes. -/
def overlap (other port : Port Cell w) : BitVec w :=
  match other, port with
  | .view cell _ writable, .view seen readable _ => if cell = seen then writable &&& readable else 0
  | _, _ => 0

/-- Bits that can be written can be read. -/
def Readable : Port Cell w -> Prop
  | .constant _ => True
  | .view _ readable writable => writable &&& ~~~readable = 0

/-- A write is seen in the overlap of the two ports and nowhere else. -/
theorem read_write (other port : Port Cell w) (cells : Cell -> BitVec w) (data : BitVec w) :
    port.read (other.write cells data) = merge (port.read cells) data (other.overlap port) := by
  cases other with
  | constant value => exact (merge_zero _ _).symm
  | view cell readable writable =>
      cases port with
      | constant seen => exact (merge_zero _ _).symm
      | view seen shown writable' =>
          change Function.update cells cell _ seen &&& shown =
            merge (cells seen &&& shown) data (if cell = seen then writable &&& shown else 0)
          by_cases same : cell = seen
          · subst same
            rw [Function.update_self, if_pos rfl, merge_and]
          · rw [Function.update_of_ne (Ne.symm same), if_neg same, merge_zero]

/-- A port that is read and written back leaves every cell as it was. -/
theorem write_read {port : Port Cell w} (readable : port.Readable) (cells : Cell -> BitVec w) :
    port.write cells (port.read cells) = cells := by
  cases port with
  | constant value => rfl
  | view cell shown writable =>
      change Function.update cells cell (merge (cells cell) (cells cell &&& shown) writable) = cells
      rw [merge_self readable, Function.update_eq_self]

end Port

end BitFields
