import SimpleRV.Translation.PageWalk

namespace SimpleRV
namespace Translation

open MemorySystem Iteration

/-!
# Cached translations against the page walk

The TLB is filled by `translate` and emptied by `tlb_flush`.  The invariant is
that a valid entry carries the PPN and the R, W, X bits of the leaf that a walk
from `satp` reaches for its page.  It holds in every run in which page tables
and `satp` change together with a flush.

A hit differs from the walk in two places.  It assembles the physical address
from bits of the page number instead of the offset, and its flags have no U
bit.  The exact conditions under which neither shows are proved here.
-/

/-- Memory with its TLB, and the `satp` in force. -/
structure Mmu where
  memory : MemorySystem
  satp : Word

/-- What may happen to it: a translation, a flush, or new page tables and a
new `satp` directly followed by a flush. -/
inductive MmuEvent where
  | translate (vaddr : Addr) (isWrite isFetch : Bool) (privilege : Byte)
  | flush
  | remap (ram : Addr -> Byte) (satp : Word)

namespace Mmu

def translate (mmu : Mmu) (vaddr : Addr) (isWrite isFetch : Bool) (privilege : Byte) :
    Except Crash (TranslationResult × MemorySystem) :=
  mmu.memory.translate vaddr isWrite isFetch mmu.satp privilege

def event (mmu : Mmu) : MmuEvent -> Except Crash Mmu
  | .translate vaddr isWrite isFetch privilege =>
      (mmu.translate vaddr isWrite isFetch privilege).map (fun out => { mmu with memory := out.2 })
  | .flush => .ok { mmu with memory := mmu.memory.tlbFlush }
  | .remap ram satp => .ok ⟨{ mmu.memory with memory := ram }.tlbFlush, satp⟩

/-- No entry is valid. -/
def TlbEmpty (mmu : Mmu) : Prop := forall i, (mmu.memory.tlb i).valid = false

/-- The same machine with an empty TLB. -/
def uncached (mmu : Mmu) : Mmu := { mmu with memory := mmu.memory.tlbFlush }

theorem uncached_tlbEmpty (mmu : Mmu) : mmu.uncached.TlbEmpty := fun _ => rfl

/-- Is Sv32 translation on for this privilege? -/
def translates (mmu : Mmu) (privilege : Byte) : Bool :=
  privilege != PRV_M && (mmu.satp >>> 31) &&& 1#32 != 0

/-- Does a call end in the TLB, with no walk? -/
def servedByTlb (mmu : Mmu) (vaddr : Addr) (isWrite isFetch : Bool) (privilege : Byte) : Bool :=
  mmu.translates privilege && (mmu.memory.tlbLookup (vpnOf vaddr) {} isWrite isFetch).1

end Mmu

/-! ## What an entry stands for -/

/-- A valid entry agrees with the leaf of every address of its page. -/
def EntryCoherent (ram : Addr -> Byte) (satp : Word) (entry : TLBEntry) : Prop :=
  entry.valid = true -> forall vaddr, vpnOf vaddr = entry.vpn ->
    Exists fun leaf => walkLeaf ram satp vaddr = .ok (some leaf) ∧
      entry.ppn = leaf.pte.ppn ∧ entry.flags = leaf.pte.flags

def Coherent (mmu : Mmu) : Prop :=
  forall i, EntryCoherent mmu.memory.memory mmu.satp (mmu.memory.tlb i)

theorem coherent_of_tlbEmpty {mmu : Mmu} (empty : mmu.TlbEmpty) : Coherent mmu := by
  intro i valid
  rw [empty i] at valid
  cases valid

/-- The three permission bits are read back from the flags as they were stored. -/
theorem hasBit_flags (pte : PTE) :
    RegisterFile.hasBit (pte.flags.setWidth 32) 1 = pte.r ∧
      RegisterFile.hasBit (pte.flags.setWidth 32) 2 = pte.w ∧
      RegisterFile.hasBit (pte.flags.setWidth 32) 4 = pte.x := by
  unfold PTE.flags
  cases pte.r <;> cases pte.w <;> cases pte.x <;> decide

/-- A search of a coherent TLB returns the permissions and PPN of the leaf. -/
theorem Coherent.tlbMatch {mmu : Mmu} (coherent : Coherent mmu) {vaddr : Addr} {entry : TLBEntry}
    (found : mmu.memory.tlbMatch (vpnOf vaddr) = some entry) :
    Exists fun leaf => walkLeaf mmu.memory.memory mmu.satp vaddr = .ok (some leaf) ∧
      entry.ppn = leaf.pte.ppn ∧ entry.flags = leaf.pte.flags := by
  have passes := RoundRobin.search_test found
  have entryCoherent := RoundRobin.search_property coherent found
  simp only [Bool.and_eq_true, beq_iff_eq] at passes
  exact entryCoherent passes.1 vaddr passes.2.symm

theorem tlbMatch_of_tlbEmpty {mmu : Mmu} (empty : mmu.TlbEmpty) (vpn : Word) :
    mmu.memory.tlbMatch vpn = none := by
  apply RoundRobin.search_eq_none
  intro i
  rw [empty i, Bool.false_and]

/-! ## Translation case by case -/

/-- The result record `translate` starts from. -/
def identity (vaddr : Addr) : TranslationResult := { paddr := vaddr, fault := false }

theorem translate_bare {mmu : Mmu} {privilege : Byte} (bare : mmu.translates privilege = false)
    (vaddr : Addr) (isWrite isFetch : Bool) :
    mmu.translate vaddr isWrite isFetch privilege = .ok (identity vaddr, mmu.memory) := by
  unfold Mmu.translate MemorySystem.translate
  by_cases machine : privilege = PRV_M
  · simp only [if_pos machine]
    rfl
  · have mode : (mmu.satp >>> 31) &&& 1#32 = 0 := by
      simpa [Mmu.translates, machine] using bare
    simp only [if_neg machine, if_pos mode]
    rfl

theorem translate_translated {mmu : Mmu} {privilege : Byte} (on : mmu.translates privilege = true)
    (vaddr : Addr) (isWrite isFetch : Bool) :
    mmu.translate vaddr isWrite isFetch privilege =
      match mmu.memory.tlbLookup (vpnOf vaddr) (identity vaddr) isWrite isFetch with
      | (true, served) => .ok (served, mmu.memory)
      | (false, result) => mmu.memory.walk result vaddr isWrite isFetch mmu.satp privilege := by
  simp only [Mmu.translates, Bool.and_eq_true, bne_iff_ne, ne_eq] at on
  unfold Mmu.translate MemorySystem.translate
  simp only [if_neg on.1, if_neg on.2, vpnFull_eq]
  rfl

/-- A call that is not served by the TLB is a walk, whose outcome does not
depend on what a denied hit left in the result record. -/
theorem translate_of_not_served {mmu : Mmu} {vaddr : Addr} {isWrite isFetch : Bool} {privilege : Byte}
    (on : mmu.translates privilege = true)
    (miss : mmu.servedByTlb vaddr isWrite isFetch privilege = false) :
    Exists fun result => mmu.translate vaddr isWrite isFetch privilege =
      mmu.memory.walk result vaddr isWrite isFetch mmu.satp privilege := by
  rw [translate_translated on]
  simp only [Mmu.servedByTlb, on, Bool.true_and] at miss
  unfold tlbLookup at miss ⊢
  cases found : mmu.memory.tlbMatch (vpnOf vaddr) with
  | none => exact ⟨_, rfl⟩
  | some entry =>
      simp only [found] at miss ⊢
      split at miss
      · rename_i denied
        rw [if_pos denied]
        exact ⟨_, rfl⟩
      · cases miss

/-- A served call finds its leaf, whose permissions the access has. -/
theorem translate_of_served {mmu : Mmu} (coherent : Coherent mmu) {vaddr : Addr}
    {isWrite isFetch : Bool} {privilege : Byte}
    (hit : mmu.servedByTlb vaddr isWrite isFetch privilege = true) :
    mmu.translates privilege = true ∧
      Exists fun leaf => walkLeaf mmu.memory.memory mmu.satp vaddr = .ok (some leaf) ∧
        lacksPermission isWrite isFetch leaf.pte.r leaf.pte.w leaf.pte.x = false ∧
        mmu.translate vaddr isWrite isFetch privilege =
          .ok ({ paddr := (leaf.pte.ppn <<< 12) ||| (vpnOf vaddr &&& 0xFFF#32) }, mmu.memory) := by
  unfold Mmu.servedByTlb at hit
  rcases Bool.and_eq_true_iff.mp hit with ⟨on, served⟩
  refine ⟨on, ?_⟩
  rw [translate_translated on]
  unfold tlbLookup at served ⊢
  cases found : mmu.memory.tlbMatch (vpnOf vaddr) with
  | none => simp only [found, Bool.false_eq_true] at served
  | some entry =>
      rcases coherent.tlbMatch found with ⟨leaf, walked, samePpn, sameFlags⟩
      rcases hasBit_flags leaf.pte with ⟨readBit, writeBit, fetchBit⟩
      simp only [found, sameFlags, samePpn, readBit, writeBit, fetchBit] at served ⊢
      cases permitted : lacksPermission isWrite isFetch leaf.pte.r leaf.pte.w leaf.pte.x with
      | true => simp only [permitted, if_true, Bool.false_eq_true] at served
      | false => exact ⟨leaf, walked, permitted, by simp [identity]⟩

/-! ## The invariant along runs -/

theorem finishWalk_coherent {mmu : Mmu} (coherent : Coherent mmu) {vaddr : Addr} {leaf : Leaf}
    (walked : walkLeaf mmu.memory.memory mmu.satp vaddr = .ok (some leaf))
    (result : TranslationResult) (paddr : Word) (isWrite isFetch : Bool) (privilege : Byte) :
    Coherent ⟨(mmu.memory.finishWalk result leaf.pte (vpnOf vaddr) paddr isWrite isFetch privilege).2,
      mmu.satp⟩ := by
  unfold finishWalk
  by_cases denied : lacksPermission isWrite isFetch leaf.pte.r leaf.pte.w leaf.pte.x = true
  · rw [if_pos denied]
    exact coherent
  rw [if_neg denied]
  by_cases userDenied : (privilege = PRV_U && !leaf.pte.u) = true
  · rw [if_pos userDenied]
    exact coherent
  rw [if_neg userDenied]
  have inserted : EntryCoherent mmu.memory.memory mmu.satp ⟨vpnOf vaddr, leaf.pte.ppn, leaf.pte.flags, true⟩ := by
    intro _ other samePage
    exact ⟨leaf, (walkLeaf_congr samePage).trans walked, rfl, rfl⟩
  exact RoundRobin.forall_insert coherent inserted

theorem walk_coherent {mmu : Mmu} (coherent : Coherent mmu) {result : TranslationResult} {vaddr : Addr}
    {isWrite isFetch : Bool} {privilege : Byte} {out : TranslationResult × MemorySystem}
    (walked : mmu.memory.walk result vaddr isWrite isFetch mmu.satp privilege = .ok out) :
    Coherent ⟨out.2, mmu.satp⟩ := by
  rw [walk_eq] at walked
  rcases map_eq_ok.mp walked with ⟨found, leafFound, outEq⟩
  subst outEq
  cases found with
  | none => exact coherent
  | some leaf => exact finishWalk_coherent coherent leafFound _ _ _ _ _

/-- One translation keeps the invariant. -/
theorem translate_coherent {mmu : Mmu} (coherent : Coherent mmu) {vaddr : Addr} {isWrite isFetch : Bool}
    {privilege : Byte} {out : TranslationResult × MemorySystem}
    (done : mmu.translate vaddr isWrite isFetch privilege = .ok out) : Coherent ⟨out.2, mmu.satp⟩ := by
  cases on : mmu.translates privilege with
  | false =>
      rw [translate_bare on] at done
      cases done
      exact coherent
  | true =>
      cases hit : mmu.servedByTlb vaddr isWrite isFetch privilege with
      | true =>
          rcases translate_of_served coherent hit with ⟨_, leaf, _, _, served⟩
          rw [served] at done
          cases done
          exact coherent
      | false =>
          rcases translate_of_not_served on hit with ⟨result, walks⟩
          rw [walks] at done
          exact walk_coherent coherent done

/-- One event keeps the invariant. -/
theorem event_coherent (before : Mmu) (event : MmuEvent) (after : Mmu) (coherent : Coherent before)
    (happened : before.event event = .ok after) : Coherent after := by
  cases event with
  | translate vaddr isWrite isFetch privilege =>
      rcases map_eq_ok.mp happened with ⟨out, done, afterEq⟩
      subst afterEq
      exact translate_coherent coherent done
  | flush =>
      cases happened
      exact coherent_of_tlbEmpty (fun _ => rfl)
  | remap ram satp =>
      cases happened
      exact coherent_of_tlbEmpty (fun _ => rfl)

/-- Every state of every run from an empty TLB is coherent. -/
theorem run_coherent {start mmu : Mmu} {events : List MmuEvent} (empty : start.TlbEmpty)
    (run : runInputs Mmu.event start events = .ok mmu) : Coherent mmu :=
  runInputs_invariant event_coherent (coherent_of_tlbEmpty empty) run

end Translation
end SimpleRV
