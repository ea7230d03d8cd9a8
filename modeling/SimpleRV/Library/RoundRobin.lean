import Mathlib.Logic.Function.Basic
import Mathlib.Data.List.FinRange

/-!
# Small fully associative tables

A table of `n` entries is searched in index order, and filled at an index
that the caller advances.  A property of all entries survives an insertion of
an entry that has it, whatever entry is evicted, and holds of what a search
finds.
-/

namespace RoundRobin

variable {n : Nat} {ε : Type u}

/-- Overwrite the entry at `index`. -/
def insert (table : Fin n -> ε) (index : Nat) (entry : ε) : Fin n -> ε :=
  fun i => if i.val = index then entry else table i

/-- The first entry that satisfies the test. -/
def search (table : Fin n -> ε) (test : ε -> Bool) : Option ε :=
  ((List.finRange n).map table).find? test

theorem forall_insert {table : Fin n -> ε} {index : Nat} {entry : ε} {property : ε -> Prop}
    (old : forall i, property (table i)) (new : property entry) (i : Fin n) :
    property (insert table index entry i) := by
  unfold insert
  by_cases here : i.val = index
  · rw [if_pos here]
    exact new
  · rw [if_neg here]
    exact old i

theorem search_test {table : Fin n -> ε} {test : ε -> Bool} {entry : ε}
    (found : search table test = some entry) : test entry = true :=
  List.find?_some found

theorem search_property {table : Fin n -> ε} {test : ε -> Bool} {entry : ε} {property : ε -> Prop}
    (all : forall i, property (table i)) (found : search table test = some entry) : property entry := by
  rcases List.mem_map.mp (List.mem_of_find?_eq_some found) with ⟨i, _, here⟩
  exact here ▸ all i

/-- A search finds nothing where no entry passes the test. -/
theorem search_eq_none {table : Fin n -> ε} {test : ε -> Bool}
    (none_passes : forall i, test (table i) = false) : search table test = none := by
  apply List.find?_eq_none.mpr
  intro entry member
  rcases List.mem_map.mp member with ⟨i, _, here⟩
  rw [← here, none_passes i]
  exact Bool.false_ne_true

/-! ## Unique keys -/

section Keys

variable {κ : Type v} {inUse : ε -> Bool} {key : ε -> κ}

/-- No two entries in use have one key. -/
def UniqueKeys (inUse : ε -> Bool) (key : ε -> κ) (table : Fin n -> ε) : Prop :=
  forall i j, inUse (table i) = true -> inUse (table j) = true -> key (table i) = key (table j) -> i = j

/-- Inserting keeps the keys unique exactly when the new key stands nowhere
but in the entry that is overwritten. -/
theorem uniqueKeys_insert_iff {table : Fin n -> ε} {index : Nat} {entry : ε} (unique : UniqueKeys inUse key table)
    (below : index < n) (used : inUse entry = true) :
    UniqueKeys inUse key (insert table index entry) ↔
      forall i, i.val ≠ index -> inUse (table i) = true -> key (table i) ≠ key entry := by
  have overwritten : insert table index entry ⟨index, below⟩ = entry := if_pos rfl
  have kept : forall i : Fin n, i.val ≠ index -> insert table index entry i = table i := fun _ other => if_neg other
  constructor
  · intro afterwards i other usedThere same
    have here := afterwards i ⟨index, below⟩
    rw [overwritten, kept i other] at here
    exact other (congrArg Fin.val (here usedThere used same))
  · intro fresh i j usedI usedJ same
    by_cases hereI : i.val = index
    · by_cases hereJ : j.val = index
      · exact Fin.ext (hereI.trans hereJ.symm)
      · have atI : insert table index entry i = entry := if_pos hereI
        rw [atI, kept j hereJ] at same
        rw [kept j hereJ] at usedJ
        exact absurd same.symm (fresh j hereJ usedJ)
    · by_cases hereJ : j.val = index
      · have atJ : insert table index entry j = entry := if_pos hereJ
        rw [atJ, kept i hereI] at same
        rw [kept i hereI] at usedI
        exact absurd same (fresh i hereI usedI)
      · rw [kept i hereI, kept j hereJ] at same
        rw [kept i hereI] at usedI
        rw [kept j hereJ] at usedJ
        exact unique i j usedI usedJ same

/-- With unique keys the first match of a search is the only one. -/
theorem search_of_uniqueKeys [BEq κ] [LawfulBEq κ] {table : Fin n -> ε} (unique : UniqueKeys inUse key table)
    {i : Fin n} (used : inUse (table i) = true) :
    search table (fun entry => inUse entry && key entry == key (table i)) = some (table i) := by
  cases found : search table (fun entry => inUse entry && key entry == key (table i)) with
  | none =>
      have passes : (inUse (table i) && key (table i) == key (table i)) = true := by simp [used]
      have listed : table i ∈ (List.finRange n).map table := List.mem_map.mpr ⟨i, List.mem_finRange i, rfl⟩
      exact absurd passes (List.find?_eq_none.mp found (table i) listed)
  | some entry =>
      rcases List.mem_map.mp (List.mem_of_find?_eq_some found) with ⟨j, _, here⟩
      have test := search_test found
      rw [← here] at test ⊢
      simp only [Bool.and_eq_true, beq_iff_eq] at test
      rw [unique j i test.1 used test.2]

end Keys

/-! ## The latest entries -/

section Recent

variable {inUse : ε -> Bool}

/-- The entries in use are the latest ones, at the places behind the index: the
`k`-th latest is `k + 1` places before it, counted around the table. -/
structure Recent (inUse : ε -> Bool) (table : Fin n -> ε) (index : Nat) (recent : List ε) : Prop where
  position : index < n
  placed : forall (i : Fin n) k, k < n -> i.val + 1 + k = index ∨ i.val + 1 + k = index + n ->
    recent[k]? = if inUse (table i) then some (table i) else none
  capacity : recent.length <= n

/-- A table without entries in use holds nothing. -/
theorem recent_nil {table : Fin n -> ε} (empty : forall i, inUse (table i) = false) (positive : 0 < n) :
    Recent inUse table 0 [] where
  position := positive
  placed i k _ _ := by
    rw [empty i]
    rfl
  capacity := Nat.zero_le n

theorem Recent.insert {table : Fin n -> ε} {index : Nat} {recent : List ε} (holds : Recent inUse table index recent)
    {entry : ε} (used : inUse entry = true) :
    Recent inUse (RoundRobin.insert table index entry) ((index + 1) % n) ((entry :: recent).take n) := by
  have position := holds.position
  have next : (index + 1) % n = if index + 1 = n then 0 else index + 1 := by
    split
    · rename_i full
      rw [full, Nat.mod_self]
    · exact Nat.mod_eq_of_lt (by omega)
  refine ⟨Nat.mod_lt _ (by omega), ?_, List.length_take_le _ _⟩
  intro i k below there
  rw [next] at there
  rw [List.getElem?_take_of_lt below]
  cases k with
  | zero =>
      have here : i.val = index := by
        split at there <;> omega
      rw [RoundRobin.insert, if_pos here, used]
      rfl
  | succ k =>
      have other : i.val ≠ index := by
        split at there <;> omega
      rw [RoundRobin.insert, if_neg other]
      exact holds.placed i k (by omega) (by split at there <;> omega)

/-- Every entry in use is among the latest. -/
theorem Recent.mem_of_inUse {table : Fin n -> ε} {index : Nat} {recent : List ε}
    (holds : Recent inUse table index recent) {i : Fin n} (used : inUse (table i) = true) : table i ∈ recent := by
  have position := holds.position
  rcases Nat.lt_or_ge i.val index with before | behind
  · have there := holds.placed i (index - 1 - i.val) (by omega) (by omega)
    rw [if_pos used] at there
    exact List.mem_of_getElem? there
  · have there := holds.placed i (index + n - 1 - i.val) (by omega) (by omega)
    rw [if_pos used] at there
    exact List.mem_of_getElem? there

/-- Each of the latest entries is in use. -/
theorem Recent.inUse_of_mem {table : Fin n -> ε} {index : Nat} {recent : List ε}
    (holds : Recent inUse table index recent) {entry : ε} (member : entry ∈ recent) :
    Exists fun i => table i = entry ∧ inUse entry = true := by
  have position := holds.position
  have capacity := holds.capacity
  rcases List.getElem?_of_mem member with ⟨k, there⟩
  have below := (List.getElem?_eq_some_iff.mp there).1
  have place : Exists fun i : Fin n => i.val + 1 + k = index ∨ i.val + 1 + k = index + n := by
    rcases Nat.lt_or_ge k index with early | late
    · exact ⟨⟨index - 1 - k, by omega⟩, .inl (by simp only; omega)⟩
    · exact ⟨⟨index + n - 1 - k, by omega⟩, .inr (by simp only; omega)⟩
  rcases place with ⟨i, place⟩
  have here := holds.placed i k (by omega) place
  rw [there] at here
  split at here
  · rename_i used
    cases here
    exact ⟨i, rfl, used⟩
  · cases here

end Recent

end RoundRobin
