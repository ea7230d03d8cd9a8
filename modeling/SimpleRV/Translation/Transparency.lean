import SimpleRV.Translation.Coherence

namespace SimpleRV
namespace Translation

open MemorySystem Iteration

/-!
# When a cached translation equals the walk

The address of a hit is assembled from the low twelve bits of the virtual page
number, so it is right only for addresses whose offset happens to repeat them.
The permissions of a hit are those of the leaf without its U bit, so they are
right except for U-mode accesses to supervisor pages.
-/

/-- The bits that a hit takes from the page number are those the walk takes
from the address: the offset repeats `VA[23:12]` and, in a megapage, whose
offset reaches up to bit 21, `VA[21:12]` adds nothing to the PPN. -/
def OffsetSurvives (leaf : Leaf) (vaddr : Addr) : Prop :=
  vpnOf vaddr &&& 0xFFF#32 = vaddr &&& 0xFFF#32 ∧
    (leaf.mega = true -> (vaddr &&& 0x003FF000#32) &&& ~~~(leaf.pte.ppn <<< 12) = 0)

instance (leaf : Leaf) (vaddr : Addr) : Decidable (OffsetSurvives leaf vaddr) :=
  inferInstanceAs (Decidable (_ ∧ _))

theorem small_page_paddr_eq_iff (ppn vpn vaddr : Word) :
    ((ppn <<< 12) ||| (vpn &&& 0xFFF#32) = (ppn <<< 12) ||| (vaddr &&& 0xFFF#32)) ↔
      vpn &&& 0xFFF#32 = vaddr &&& 0xFFF#32 := by
  constructor
  · intro same
    have masked := congrArg (fun word => word &&& 0xFFF#32) same
    have low : forall word : Word,
        ((ppn <<< 12) ||| (word &&& 0xFFF#32)) &&& 0xFFF#32 = word &&& 0xFFF#32 := by
      intro word
      apply BitVec.eq_of_getLsbD_eq
      intro i below
      interval_cases i <;> simp
    simpa only [low] using masked
  · intro same
    rw [same]

theorem megapage_paddr_eq_iff (ppn vpn vaddr : Word) :
    ((ppn <<< 12) ||| (vpn &&& 0xFFF#32) = (ppn <<< 12) ||| (vaddr &&& 0x003FFFFF#32)) ↔
      vpn &&& 0xFFF#32 = vaddr &&& 0xFFF#32 ∧
        (vaddr &&& 0x003FF000#32) &&& ~~~(ppn <<< 12) = 0 := by
  have whole : (ppn <<< 12) ||| (vaddr &&& 0x003FFFFF#32) =
      (((ppn <<< 12) ||| ((vaddr &&& 0x003FF000#32) &&& ~~~(ppn <<< 12))) ||| (vaddr &&& 0xFFF#32)) := by
    apply BitVec.eq_of_getLsbD_eq
    intro i below
    interval_cases i <;> simp <;> grind
  constructor
  · intro same
    have high : (vaddr &&& 0x003FF000#32) &&& ~~~(ppn <<< 12) = 0 := by
      have masked := congrArg (fun word => (word &&& 0x003FF000#32) &&& ~~~(ppn <<< 12)) same
      apply BitVec.eq_of_getLsbD_eq
      intro i below
      have bit := congrArg (fun word => BitVec.getLsbD word i) masked
      interval_cases i <;> simp at bit ⊢ <;> grind
    rw [whole, high] at same
    simp only [BitVec.ofNat_eq_ofNat, BitVec.or_zero] at same
    exact ⟨(small_page_paddr_eq_iff ppn vpn vaddr).mp same, high⟩
  · rintro ⟨low, high⟩
    rw [whole, high, low]
    simp

/-- The address of a hit is the address of the walk exactly when the offset survives. -/
theorem hit_paddr_eq_iff (leaf : Leaf) (vaddr : Addr) :
    (leaf.pte.ppn <<< 12) ||| (vpnOf vaddr &&& 0xFFF#32) = leaf.paddr vaddr ↔
      OffsetSurvives leaf vaddr := by
  unfold Leaf.paddr Leaf.offsetMask OffsetSurvives
  cases leaf.mega with
  | false =>
      rw [if_neg Bool.false_ne_true, small_page_paddr_eq_iff]
      simp
  | true =>
      rw [if_pos rfl, megapage_paddr_eq_iff]
      simp

/-! ## Outcomes of a walk -/

theorem finishWalk_paddr {mem : MemorySystem} {result : TranslationResult} {pte : PTE}
    {vpn paddr : Word} {isWrite isFetch : Bool} {privilege : Byte}
    (succeeds : (mem.finishWalk result pte vpn paddr isWrite isFetch privilege).1.fault = false) :
    (mem.finishWalk result pte vpn paddr isWrite isFetch privilege).1.paddr = paddr := by
  unfold finishWalk at succeeds ⊢
  split at succeeds
  · cases succeeds
  · rename_i permitted
    rw [if_neg permitted]
    split at succeeds
    · cases succeeds
    · rename_i userAllowed
      rw [if_neg userAllowed]

/-- A walk that succeeds delivers the address of its leaf. -/
theorem walk_paddr {mem : MemorySystem} {result : TranslationResult} {vaddr : Addr}
    {isWrite isFetch : Bool} {satp : Word} {privilege : Byte} {out : TranslationResult × MemorySystem}
    (walked : mem.walk result vaddr isWrite isFetch satp privilege = .ok out)
    (succeeds : out.1.fault = false) :
    Exists fun leaf => walkLeaf mem.memory satp vaddr = .ok (some leaf) ∧ out.1.paddr = leaf.paddr vaddr := by
  rw [walk_eq] at walked
  rcases map_eq_ok.mp walked with ⟨found, leafFound, outEq⟩
  subst outEq
  cases found with
  | none => cases succeeds
  | some leaf => exact ⟨leaf, leafFound, finishWalk_paddr succeeds⟩

theorem not_served_of_tlbEmpty {mmu : Mmu} (empty : mmu.TlbEmpty) (vaddr : Addr)
    (isWrite isFetch : Bool) (privilege : Byte) :
    mmu.servedByTlb vaddr isWrite isFetch privilege = false := by
  unfold Mmu.servedByTlb tlbLookup
  rw [tlbMatch_of_tlbEmpty empty, Bool.and_false]

/-- With an empty TLB every translated call is a walk. -/
theorem uncached_walks {mmu : Mmu} {privilege : Byte} (on : mmu.translates privilege = true)
    (vaddr : Addr) (isWrite isFetch : Bool) :
    Exists fun result => mmu.uncached.translate vaddr isWrite isFetch privilege =
      mmu.uncached.memory.walk result vaddr isWrite isFetch mmu.satp privilege :=
  @translate_of_not_served mmu.uncached vaddr isWrite isFetch privilege on
    (not_served_of_tlbEmpty mmu.uncached_tlbEmpty vaddr isWrite isFetch privilege)

/-! ## Addresses -/

section Addresses

variable {start mmu : Mmu} {events : List MmuEvent}

/-- In every state of every run from an empty TLB, a call that succeeds both
with the TLB and without it delivers the same physical address if and only if
it is not served by the TLB, or its offset survives there. -/
theorem cached_paddr_eq_iff (empty : start.TlbEmpty)
    (run : runInputs Mmu.event start events = .ok mmu)
    (vaddr : Addr) (isWrite isFetch : Bool) (privilege : Byte)
    {cached uncached : TranslationResult × MemorySystem}
    (cachedCall : mmu.translate vaddr isWrite isFetch privilege = .ok cached)
    (uncachedCall : mmu.uncached.translate vaddr isWrite isFetch privilege = .ok uncached)
    (cachedSucceeds : cached.1.fault = false) (uncachedSucceeds : uncached.1.fault = false) :
    cached.1.paddr = uncached.1.paddr ↔
      (mmu.servedByTlb vaddr isWrite isFetch privilege = true ->
        forall leaf, walkLeaf mmu.memory.memory mmu.satp vaddr = .ok (some leaf) ->
          OffsetSurvives leaf vaddr) := by
  have coherent := run_coherent empty run
  cases on : mmu.translates privilege with
  | false =>
      rw [translate_bare on] at cachedCall
      have bareUncached : mmu.uncached.translates privilege = false := on
      rw [translate_bare bareUncached] at uncachedCall
      cases cachedCall
      cases uncachedCall
      have unserved : mmu.servedByTlb vaddr isWrite isFetch privilege = false := by
        rw [Mmu.servedByTlb, on, Bool.false_and]
      simp [unserved]
  | true =>
      rcases uncached_walks on vaddr isWrite isFetch with ⟨_, uncachedWalks⟩
      rw [uncachedWalks] at uncachedCall
      rcases walk_paddr uncachedCall uncachedSucceeds with ⟨leaf, leafFound, uncachedPaddr⟩
      have leafHere : walkLeaf mmu.memory.memory mmu.satp vaddr = .ok (some leaf) := leafFound
      cases hit : mmu.servedByTlb vaddr isWrite isFetch privilege with
      | false =>
          rcases translate_of_not_served on hit with ⟨_, cachedWalks⟩
          rw [cachedWalks] at cachedCall
          rcases walk_paddr cachedCall cachedSucceeds with ⟨other, otherFound, cachedPaddr⟩
          have same : other = leaf := by
            rw [leafHere] at otherFound
            cases otherFound
            rfl
          simp [cachedPaddr, uncachedPaddr, same]
      | true =>
          rcases translate_of_served coherent hit with ⟨_, other, otherFound, _, served⟩
          have same : other = leaf := by
            rw [leafHere] at otherFound
            cases otherFound
            rfl
          rw [served] at cachedCall
          cases cachedCall
          subst same
          rw [uncachedPaddr, hit_paddr_eq_iff, leafHere]
          simp

/-- One root table at page 1 whose first entry is a supervisor megapage at
physical address zero, readable, writable and executable. -/
def supervisorMegapage : Mmu where
  memory := { memory := LittleEndian.store (fun _ => 0) 0x1000#32 0x0000000F#32 4 }
  satp := 0x80000001#32

/-- The same machine after the walk for page 1 has been cached. -/
def cachedMegapage : Mmu :=
  { supervisorMegapage with memory := supervisorMegapage.memory.tlbInsert 1#32 0#32 7#8 }

theorem cachedMegapage_run :
    runInputs Mmu.event supervisorMegapage [.translate 0x1234#32 false false PRV_S] = .ok cachedMegapage := by
  rfl

theorem cached_paddr_eq_iff_megapage :
    ((0x1#32 = 0x1234#32) ↔
      (cachedMegapage.servedByTlb 0x1234#32 false false PRV_S = true ->
        forall leaf, walkLeaf cachedMegapage.memory.memory cachedMegapage.satp 0x1234#32 = .ok (some leaf) ->
          OffsetSurvives leaf 0x1234#32)) :=
  @cached_paddr_eq_iff supervisorMegapage cachedMegapage _ (fun _ => rfl) cachedMegapage_run
    0x1234#32 false false PRV_S ({ paddr := 0x1#32 }, cachedMegapage.memory)
    ({ paddr := 0x1234#32 }, cachedMegapage.uncached.memory.tlbInsert 1#32 0#32 7#8) rfl rfl rfl rfl

/-- The second access to page 1 is served by the TLB and lands at address 1,
where the walk lands at 0x1234. -/
theorem second_access_loses_its_offset :
    supervisorMegapage.TlbEmpty ∧
      runInputs Mmu.event supervisorMegapage [.translate 0x1234#32 false false PRV_S] = .ok cachedMegapage ∧
      Exists fun cached => Exists fun uncached =>
        cachedMegapage.translate 0x1234#32 false false PRV_S = .ok cached ∧
          cachedMegapage.uncached.translate 0x1234#32 false false PRV_S = .ok uncached ∧
          cached.1.fault = false ∧ uncached.1.fault = false ∧
          cached.1.paddr = 0x1#32 ∧ uncached.1.paddr = 0x1234#32 :=
  ⟨fun _ => rfl, cachedMegapage_run, ({ paddr := 0x1#32 }, cachedMegapage.memory),
    ({ paddr := 0x1234#32 }, cachedMegapage.uncached.memory.tlbInsert 1#32 0#32 7#8),
    rfl, rfl, rfl, rfl, rfl, rfl⟩

end Addresses

/-! ## Permissions -/

/-- What an access sees of a call: no fault, or a fault with its cause. -/
def faultOutcome (call : Except Crash (TranslationResult × MemorySystem)) : Except Crash (Option Word) :=
  call.map (fun out => if out.1.fault then some out.1.cause else none)

/-- A U-mode access to a page whose leaf has no U bit. -/
def UserOnSupervisorPage (mmu : Mmu) (vaddr : Addr) (privilege : Byte) : Prop :=
  privilege = PRV_U ∧
    Exists fun leaf => walkLeaf mmu.memory.memory mmu.satp vaddr = .ok (some leaf) ∧ leaf.pte.u = false

theorem faultOutcome_finishWalk (mem : MemorySystem) (result : TranslationResult) (pte : PTE)
    (vpn paddr : Word) (isWrite isFetch : Bool) (privilege : Byte) :
    faultOutcome (.ok (mem.finishWalk result pte vpn paddr isWrite isFetch privilege)) =
      .ok (if lacksPermission isWrite isFetch pte.r pte.w pte.x then
          some (permissionCause isWrite isFetch pte.w pte.x)
        else if privilege = PRV_U && !pte.u then some (pageFaultCause isWrite isFetch)
        else none) := by
  unfold finishWalk faultOutcome
  split
  · rfl
  · split <;> rfl

/-- The outcome of a walk is a function of the leaf alone. -/
theorem faultOutcome_walk (mem : MemorySystem) (result : TranslationResult) (vaddr : Addr)
    (isWrite isFetch : Bool) (satp : Word) (privilege : Byte) :
    faultOutcome (mem.walk result vaddr isWrite isFetch satp privilege) =
      (walkLeaf mem.memory satp vaddr).bind (fun found =>
        match found with
        | none => .ok (some (pageFaultCause isWrite isFetch))
        | some leaf => faultOutcome (.ok (mem.finishWalk {} leaf.pte 0 0 isWrite isFetch privilege))) := by
  rw [walk_eq]
  cases walkLeaf mem.memory satp vaddr with
  | error failure => rfl
  | ok found =>
      cases found with
      | none => rfl
      | some leaf =>
          change faultOutcome (.ok (mem.finishWalk _ _ _ _ _ _ _)) = faultOutcome _
          rw [faultOutcome_finishWalk, faultOutcome_finishWalk]

section Permissions

variable {start mmu : Mmu} {events : List MmuEvent}

/-- In every state of every run from an empty TLB, a call faults just as it
would without the TLB, with the same cause, if and only if it is not a U-mode
access to a supervisor page that the TLB serves. -/
theorem cached_fault_eq_iff (empty : start.TlbEmpty)
    (run : runInputs Mmu.event start events = .ok mmu)
    (vaddr : Addr) (isWrite isFetch : Bool) (privilege : Byte) :
    faultOutcome (mmu.translate vaddr isWrite isFetch privilege) =
        faultOutcome (mmu.uncached.translate vaddr isWrite isFetch privilege) ↔
      ¬ (mmu.servedByTlb vaddr isWrite isFetch privilege = true ∧
        UserOnSupervisorPage mmu vaddr privilege) := by
  have coherent := run_coherent empty run
  cases on : mmu.translates privilege with
  | false =>
      have bareUncached : mmu.uncached.translates privilege = false := on
      have unserved : mmu.servedByTlb vaddr isWrite isFetch privilege = false := by
        rw [Mmu.servedByTlb, on, Bool.false_and]
      rw [translate_bare on, translate_bare bareUncached, unserved]
      simp [faultOutcome, Except.map]
  | true =>
      rcases uncached_walks on vaddr isWrite isFetch with ⟨_, uncachedWalks⟩
      cases hit : mmu.servedByTlb vaddr isWrite isFetch privilege with
      | false =>
          rcases translate_of_not_served on hit with ⟨_, cachedWalks⟩
          rw [cachedWalks, uncachedWalks, faultOutcome_walk, faultOutcome_walk]
          simp only [faultOutcome_finishWalk, Mmu.uncached, tlbFlush]
          simp
      | true =>
          rcases translate_of_served coherent hit with ⟨_, leaf, leafFound, permitted, served⟩
          have leafUncached : walkLeaf mmu.uncached.memory.memory mmu.satp vaddr = .ok (some leaf) := leafFound
          have user : UserOnSupervisorPage mmu vaddr privilege ↔ privilege = PRV_U ∧ leaf.pte.u = false := by
            unfold UserOnSupervisorPage
            rw [leafFound]
            simp
          rw [served, uncachedWalks, faultOutcome_walk, leafUncached, user]
          change _ = faultOutcome _ ↔ _
          rw [faultOutcome_finishWalk, permitted]
          by_cases userMode : privilege = PRV_U <;> cases leaf.pte.u <;>
            simp [faultOutcome, Except.map, userMode]

theorem cached_fault_eq_iff_megapage :
    faultOutcome (cachedMegapage.translate 0x1234#32 false false PRV_U) =
        faultOutcome (cachedMegapage.uncached.translate 0x1234#32 false false PRV_U) ↔
      ¬ (cachedMegapage.servedByTlb 0x1234#32 false false PRV_U = true ∧
        UserOnSupervisorPage cachedMegapage 0x1234#32 PRV_U) :=
  @cached_fault_eq_iff supervisorMegapage cachedMegapage _ (fun _ => rfl) cachedMegapage_run
    0x1234#32 false false PRV_U

/-- After one S-mode load has cached the supervisor page, a U-mode load of it
succeeds; with an empty TLB it is a load page fault. -/
theorem user_reads_cached_supervisor_page :
    supervisorMegapage.TlbEmpty ∧
      runInputs Mmu.event supervisorMegapage [.translate 0x1234#32 false false PRV_S] = .ok cachedMegapage ∧
      faultOutcome (cachedMegapage.translate 0x1234#32 false false PRV_U) = .ok none ∧
      faultOutcome (cachedMegapage.uncached.translate 0x1234#32 false false PRV_U) =
        .ok (some MCAUSE_LOAD_PAGE_FAULT) :=
  ⟨fun _ => rfl, cachedMegapage_run, rfl, rfl⟩

end Permissions

end Translation
end SimpleRV
