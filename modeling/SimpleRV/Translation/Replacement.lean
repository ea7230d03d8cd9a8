import SimpleRV.Translation.UniqueEntries

namespace SimpleRV
namespace Translation

open MemorySystem Memory Pipeline Iteration RoundRobin

/-!
# The TLB as a queue

The TLB replaces its entries in the order of their insertion.  The abstract TLB
is the list of the entries inserted since the last flush, the latest first, cut
off at eight; the table with its replacement index stands for that list after
every sequence of operations.
-/

/-- The TLB does not serve the access. -/
def misses (mem : MemorySystem) (vaddr : Addr) (isWrite isFetch : Bool) : Bool :=
  (mem.tlbMatch (vpnOf vaddr)).all (fun entry => denies entry isWrite isFetch)

/-- The leaf that a translation caches: the one to which it walks, if the leaf
permits the access. -/
def cachedLeaf (mem : MemorySystem) (vaddr : Addr) (isWrite isFetch : Bool) (satp : Word) (privilege : Byte) :
    Option Leaf :=
  if Mmu.translates ⟨mem, satp⟩ privilege && misses mem vaddr isWrite isFetch then
    (walkLeaf mem.memory satp vaddr).toOption.join.filter (fun leaf => grants leaf isWrite isFetch privilege)
  else none

/-- The entry for a leaf. -/
def entryOf (vaddr : Addr) (leaf : Leaf) : TLBEntry := ⟨vpnOf vaddr, leaf.pte.ppn, leaf.pte.flags, true⟩

/-- One operation on the abstract TLB. -/
def remember (mem : MemorySystem) (operation : Operation) (recent : List TLBEntry) : List TLBEntry :=
  match operation with
  | .translate vaddr isWrite isFetch satp privilege =>
      (((cachedLeaf mem vaddr isWrite isFetch satp privilege).map (entryOf vaddr)).toList ++ recent).take TLB_SIZE
  | .tlbFlush => []
  | _ => recent

section Translate

variable {mem after : MemorySystem} {vaddr : Addr} {isWrite isFetch : Bool} {satp : Word} {privilege : Byte}

theorem misses_iff : misses mem vaddr isWrite isFetch = true ↔
    forall entry, mem.tlbMatch (vpnOf vaddr) = some entry -> denies entry isWrite isFetch = true := by
  unfold misses
  cases mem.tlbMatch (vpnOf vaddr) with
  | none => simp
  | some entry => simp

theorem cachedLeaf_iff {leaf : Leaf} :
    cachedLeaf mem vaddr isWrite isFetch satp privilege = some leaf ↔
      Inserts mem vaddr isWrite isFetch satp privilege leaf := by
  unfold cachedLeaf
  constructor
  · intro found
    split at found
    · rename_i walks
      rcases Bool.and_eq_true_iff.mp walks with ⟨translates, missed⟩
      rcases Option.filter_eq_some_iff.mp found with ⟨walked, granted⟩
      refine ⟨translates, misses_iff.mp missed, ?_, granted⟩
      cases outcome : walkLeaf mem.memory satp vaddr with
      | error crash =>
          rw [outcome] at walked
          cases walked
      | ok end_ =>
          rw [outcome] at walked
          exact congrArg Except.ok walked
    · cases found
  · intro inserts
    rw [inserts.translates, misses_iff.mpr inserts.notServed, inserts.walked, Bool.and_self, if_pos rfl]
    change Option.filter _ (some leaf) = some leaf
    rw [Option.filter_some, inserts.granted, if_pos rfl]

theorem translate_recent {recent : List TLBEntry} {found : TranslationResult}
    (holds : Recent TLBEntry.valid mem.tlb mem.tlbReplaceIdx recent)
    (ran : mem.translate vaddr isWrite isFetch satp privilege = .ok (found, after)) :
    Recent TLBEntry.valid after.tlb after.tlbReplaceIdx
      (remember mem (.translate vaddr isWrite isFetch satp privilege) recent) := by
  change Recent TLBEntry.valid after.tlb after.tlbReplaceIdx
    ((((cachedLeaf mem vaddr isWrite isFetch satp privilege).map (entryOf vaddr)).toList ++ recent).take TLB_SIZE)
  rcases translate_memory ran with ⟨same, none⟩ | ⟨leaf, inserts, afterEq⟩
  · have uncached : cachedLeaf mem vaddr isWrite isFetch satp privilege = Option.none := by
      refine Option.eq_none_iff_forall_ne_some.mpr ?_
      intro leaf cached
      exact none leaf (cachedLeaf_iff.mp cached)
    have unchanged : recent.take TLB_SIZE = recent := List.take_of_length_le holds.capacity
    rw [uncached, same]
    exact unchanged.symm ▸ holds
  · have valid : (entryOf vaddr leaf).valid = true := rfl
    rw [cachedLeaf_iff.mpr inserts, afterEq]
    exact holds.insert valid

end Translate

/-- The table with its replacement index stands for the abstract TLB after an
operation if it did so before. -/
theorem perform_recent {mem after : MemorySystem} {operation : Operation} {recent : List TLBEntry}
    (holds : Recent TLBEntry.valid mem.tlb mem.tlbReplaceIdx recent) (ran : perform mem operation = .ok after) :
    Recent TLBEntry.valid after.tlb after.tlbReplaceIdx (remember mem operation recent) := by
  have same (unchanged : after.tlb = mem.tlb ∧ after.tlbReplaceIdx = mem.tlbReplaceIdx) :
      Recent TLBEntry.valid after.tlb after.tlbReplaceIdx recent := by
    rw [unchanged.1, unchanged.2]
    exact holds
  cases operation with
  | translate vaddr isWrite isFetch satp privilege =>
      rcases map_eq_ok.mp ran with ⟨⟨found, mem'⟩, translated, rfl⟩
      exact translate_recent holds translated
  | tlbFlush =>
      cases ran
      exact recent_nil (fun _ => rfl) (by decide)
  | read addr n => exact same (perform_tlb ran (by simp))
  | readDoubleInstr pc => exact same (perform_tlb ran (by simp))
  | write addr n data => exact same (perform_tlb ran (by simp))
  | incrementTimer => exact same (perform_tlb ran (by simp))

/-- In every reachable memory system the TLB holds the entries of the latest
eight insertions since the last flush, in their order, and a lookup finds an
entry exactly if one of these is for the page. -/
theorem tlb_keeps_latest {image : Addr -> Byte} {keyboard : HostKeyboard} {operations : List Operation}
    {last : MemorySystem} (run : runInputs perform (initial image keyboard) operations = .ok last) :
    Recent TLBEntry.valid last.tlb last.tlbReplaceIdx
        (record perform remember (initial image keyboard) [] operations) ∧
      forall vpn,
        ((last.tlbMatch vpn).isSome = true ↔
          Exists fun entry =>
            entry ∈ record perform remember (initial image keyboard) [] operations ∧ entry.vpn = vpn) ∧
        forall entry, last.tlbMatch vpn = some entry ->
          entry ∈ record perform remember (initial image keyboard) [] operations := by
  have start : Recent TLBEntry.valid (initial image keyboard).tlb (initial image keyboard).tlbReplaceIdx [] :=
    recent_nil (fun _ => rfl) (by decide)
  have holds := @runInputs_recorded _ _ _ _ perform remember
    (fun mem recent => Recent TLBEntry.valid mem.tlb mem.tlbReplaceIdx recent)
    (fun mem operation after recent before ran => perform_recent before ran) _ _ [] operations start run
  refine ⟨holds, ?_⟩
  intro vpn
  have listed : forall entry, last.tlbMatch vpn = some entry ->
      entry ∈ record perform remember (initial image keyboard) [] operations ∧ entry.vpn = vpn := by
    intro entry found
    rcases List.mem_map.mp (List.mem_of_find?_eq_some found) with ⟨i, _, rfl⟩
    have test := search_test found
    rw [Bool.and_eq_true, beq_iff_eq] at test
    exact ⟨holds.mem_of_inUse test.1, test.2⟩
  refine ⟨⟨?_, ?_⟩, fun entry found => (listed entry found).1⟩
  · intro found
    rcases Option.isSome_iff_exists.mp found with ⟨entry, found⟩
    exact ⟨entry, listed entry found⟩
  · rintro ⟨entry, member, page⟩
    rcases holds.inUse_of_mem member with ⟨i, here, valid⟩
    refine List.find?_isSome.mpr ⟨entry, ?_, ?_⟩
    · exact List.mem_map.mpr ⟨i, List.mem_finRange i, here⟩
    · rw [valid, page, beq_self_eq_true, Bool.and_self]

/-- A root table with one megapage, and loads from nine of its pages. -/
def ninePages : List Operation :=
  .write 0x1000 4 0xF ::
    (List.range 9).map (fun page => .translate (BitVec.ofNat 32 (page * 4096)) false false 0x80000001 PRV_S)

/-- The ninth page has replaced the first. -/
theorem tlb_keeps_latest_ninePages : Exists fun last =>
    runInputs perform (initial (fun _ => 0) {}) ninePages = .ok last ∧
      (last.tlbMatch 0).isSome = false ∧ (last.tlbMatch 8).isSome = true ∧
        ((last.tlbMatch 8).isSome = true ↔
          Exists fun entry =>
            entry ∈ record perform remember (initial (fun _ => 0) {}) [] ninePages ∧ entry.vpn = 8#32) := by
  have passed : passes (runInputs perform (initial (fun _ => 0) {}) ninePages) (fun mem =>
      !(mem.tlbMatch 0).isSome && (mem.tlbMatch 8).isSome) = true := by
    decide +kernel
  rcases exists_of_passes passed with ⟨last, run, test⟩
  rw [Bool.and_eq_true, Bool.not_eq_true'] at test
  exact ⟨last, run, test.1, test.2, ((tlb_keeps_latest run).2 8#32).1⟩

end Translation
end SimpleRV
