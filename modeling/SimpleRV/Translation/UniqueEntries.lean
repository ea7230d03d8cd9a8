import SimpleRV.Memory.Operations
import SimpleRV.Translation.Coherence

namespace SimpleRV
namespace Translation

open MemorySystem Memory Pipeline Iteration RoundRobin

/-!
# Pages with two entries

`tlb_lookup` answers a denied hit and a miss alike, and `translate` walks the
page tables after both.  If they have changed and now grant the access, the
page gets a second entry.  That is the only way in which it can.
-/

/-- No two valid entries are for one page. -/
def NoDuplicates (mem : MemorySystem) : Prop :=
  UniqueKeys TLBEntry.valid TLBEntry.vpn mem.tlb

/-- The flags of the entry deny the access. -/
def denies (entry : TLBEntry) (isWrite isFetch : Bool) : Bool :=
  lacksPermission isWrite isFetch (RegisterFile.hasBit (entry.flags.setWidth 32) 1)
    (RegisterFile.hasBit (entry.flags.setWidth 32) 2) (RegisterFile.hasBit (entry.flags.setWidth 32) 4)

/-- The leaf permits the access. -/
def grants (leaf : Leaf) (isWrite isFetch : Bool) (privilege : Byte) : Bool :=
  !lacksPermission isWrite isFetch leaf.pte.r leaf.pte.w leaf.pte.x && !(privilege = PRV_U && !leaf.pte.u)

/-- A call that walks to a leaf which permits it. -/
structure Inserts (mem : MemorySystem) (vaddr : Addr) (isWrite isFetch : Bool) (satp : Word) (privilege : Byte)
    (leaf : Leaf) : Prop where
  translates : Mmu.translates ⟨mem, satp⟩ privilege = true
  notServed : forall entry, mem.tlbMatch (vpnOf vaddr) = some entry -> denies entry isWrite isFetch = true
  walked : walkLeaf mem.memory satp vaddr = .ok (some leaf)
  granted : grants leaf isWrite isFetch privilege = true

theorem finishWalk_memory (mem : MemorySystem) (result : TranslationResult) (leaf : Leaf) (vpn paddr : Word)
    (isWrite isFetch : Bool) (privilege : Byte) :
    (mem.finishWalk result leaf.pte vpn paddr isWrite isFetch privilege).2 =
      if grants leaf isWrite isFetch privilege then mem.tlbInsert vpn leaf.pte.ppn leaf.pte.flags else mem := by
  unfold finishWalk grants
  cases lacksPermission isWrite isFetch leaf.pte.r leaf.pte.w leaf.pte.x with
  | true => rfl
  | false =>
      cases (privilege = PRV_U && !leaf.pte.u : Bool) with
      | true => rfl
      | false => rfl

/-- A lookup is served by an entry that does not deny it, and by no other. -/
theorem tlbLookup_served {mem : MemorySystem} {vpn : Word} {result : TranslationResult} {isWrite isFetch : Bool} :
    (mem.tlbLookup vpn result isWrite isFetch).1 = true ↔
      Exists fun entry => mem.tlbMatch vpn = some entry ∧ denies entry isWrite isFetch = false := by
  unfold tlbLookup
  cases mem.tlbMatch vpn with
  | none => simp
  | some entry =>
      change (if denies entry isWrite isFetch then (false, _) else (true, _)).1 = true ↔ _
      cases denied : denies entry isWrite isFetch with
      | true => simp [denied]
      | false => simp [denied]

/-- What a translation does to the TLB. -/
theorem translate_memory {mem after : MemorySystem} {vaddr : Addr} {isWrite isFetch : Bool} {satp : Word}
    {privilege : Byte} {found : TranslationResult}
    (ran : mem.translate vaddr isWrite isFetch satp privilege = .ok (found, after)) :
    (after = mem ∧ forall leaf, ¬Inserts mem vaddr isWrite isFetch satp privilege leaf) ∨
      Exists fun leaf => Inserts mem vaddr isWrite isFetch satp privilege leaf ∧
        after = mem.tlbInsert (vpnOf vaddr) leaf.pte.ppn leaf.pte.flags := by
  let mmu : Mmu := ⟨mem, satp⟩
  cases on : mmu.translates privilege with
  | false =>
      have bare := translate_bare on vaddr isWrite isFetch
      cases bare.symm.trans ran
      exact .inl ⟨rfl, fun leaf inserts => Bool.false_ne_true (on.symm.trans inserts.translates)⟩
  | true =>
      have translated := translate_translated on vaddr isWrite isFetch
      change mmu.translate vaddr isWrite isFetch privilege = _ at ran
      rw [translated] at ran
      have served := @tlbLookup_served mmu.memory (vpnOf vaddr) (identity vaddr) isWrite isFetch
      generalize mmu.memory.tlbLookup (vpnOf vaddr) (identity vaddr) isWrite isFetch = lookup at ran served
      rcases lookup with ⟨_ | _, result⟩
      · have notServed : forall entry, mem.tlbMatch (vpnOf vaddr) = some entry -> denies entry isWrite isFetch = true := by
          intro entry found
          cases denied : denies entry isWrite isFetch with
          | true => rfl
          | false => exact absurd (served.mpr ⟨entry, found, denied⟩) Bool.false_ne_true
        simp only at ran
        rw [walk_eq] at ran
        rcases map_eq_ok.mp ran with ⟨walked, walkedEq, outEq⟩
        cases walked with
        | none =>
            cases outEq
            refine .inl ⟨rfl, fun leaf inserts => ?_⟩
            cases walkedEq.symm.trans inserts.walked
        | some leaf =>
            have afterEq := finishWalk_memory mem result leaf (vpnOf vaddr) (leaf.paddr vaddr) isWrite isFetch privilege
            rw [show (mem.finishWalk result leaf.pte (vpnOf vaddr) (leaf.paddr vaddr) isWrite isFetch privilege).2 =
              after from congrArg Prod.snd outEq] at afterEq
            cases granted : grants leaf isWrite isFetch privilege with
            | true =>
                rw [granted, if_pos rfl] at afterEq
                exact .inr ⟨leaf, ⟨on, notServed, walkedEq, granted⟩, afterEq⟩
            | false =>
                rw [granted, if_neg Bool.false_ne_true] at afterEq
                refine .inl ⟨afterEq, fun other inserts => ?_⟩
                cases walkedEq.symm.trans inserts.walked
                exact Bool.false_ne_true (granted.symm.trans inserts.granted)
      · cases ran
        rcases served.mp rfl with ⟨entry, found, permitted⟩
        refine .inl ⟨rfl, fun leaf inserts => ?_⟩
        exact Bool.false_ne_true (permitted.symm.trans (inserts.notServed entry found))

/-! ## One operation -/

/-- A translation that leaves its page with two entries: the one that denies
the access stays, because it is not the next to be replaced, and the page
tables grant it. -/
def Reinserts (mem : MemorySystem) : Operation -> Prop
  | .translate vaddr isWrite isFetch satp privilege =>
      Mmu.translates ⟨mem, satp⟩ privilege = true ∧
        Exists fun i => Exists fun leaf => (mem.tlb i).valid = true ∧ (mem.tlb i).vpn = vpnOf vaddr ∧
          i.val ≠ mem.tlbReplaceIdx ∧ denies (mem.tlb i) isWrite isFetch = true ∧
          walkLeaf mem.memory satp vaddr = .ok (some leaf) ∧ grants leaf isWrite isFetch privilege = true
  | _ => False

/-- What holds of the TLB in every run, and the property that may fail. -/
structure WellKept (mem : MemorySystem) : Prop where
  index : mem.tlbReplaceIdx < TLB_SIZE
  unique : NoDuplicates mem

theorem NoDuplicates.tlbMatch {mem : MemorySystem} (unique : NoDuplicates mem) {i : Fin TLB_SIZE}
    (valid : (mem.tlb i).valid = true) : mem.tlbMatch (mem.tlb i).vpn = some (mem.tlb i) :=
  search_of_uniqueKeys unique valid

/-- Operations other than translations and flushes leave the TLB alone. -/
theorem perform_tlb {mem after : MemorySystem} {operation : Operation} (ran : perform mem operation = .ok after)
    (other : operation ≠ .tlbFlush ∧
      forall vaddr isWrite isFetch satp privilege, operation ≠ .translate vaddr isWrite isFetch satp privilege) :
    after.tlb = mem.tlb ∧ after.tlbReplaceIdx = mem.tlbReplaceIdx := by
  cases operation with
  | read addr n =>
      rcases map_eq_ok.mp ran with ⟨⟨data, mem'⟩, readOk, rfl⟩
      change mem'.tlb = _ ∧ mem'.tlbReplaceIdx = _
      rw [read_keyboard readOk]
      exact ⟨rfl, rfl⟩
  | readDoubleInstr pc =>
      rcases map_eq_ok.mp ran with ⟨data, _, rfl⟩
      exact ⟨rfl, rfl⟩
  | write addr n data =>
      cases write_effect ran <;> exact ⟨rfl, rfl⟩
  | incrementTimer =>
      cases ran
      exact ⟨rfl, rfl⟩
  | translate vaddr isWrite isFetch satp privilege => exact absurd rfl (other.2 vaddr isWrite isFetch satp privilege)
  | tlbFlush => exact absurd rfl other.1

/-- What an entry inserted by a call must not meet: another one for its page. -/
theorem Inserts.reinserts_iff {mem : MemorySystem} (unique : NoDuplicates mem) {vaddr : Addr}
    {isWrite isFetch : Bool} {satp : Word} {privilege : Byte} {leaf : Leaf}
    (inserts : Inserts mem vaddr isWrite isFetch satp privilege leaf) :
    Reinserts mem (.translate vaddr isWrite isFetch satp privilege) ↔
      Exists fun i : Fin TLB_SIZE => i.val ≠ mem.tlbReplaceIdx ∧ (mem.tlb i).valid = true ∧
        (mem.tlb i).vpn = vpnOf vaddr := by
  constructor
  · rintro ⟨_, i, _, valid, page, other, _⟩
    exact ⟨i, other, valid, page⟩
  · rintro ⟨i, other, valid, page⟩
    have found := unique.tlbMatch valid
    rw [page] at found
    exact ⟨inserts.translates, i, leaf, valid, page, other, inserts.notServed (mem.tlb i) found, inserts.walked,
      inserts.granted⟩

/-- Without an insertion nothing is inserted twice. -/
theorem not_reinserts_of_not_inserts {mem : MemorySystem} (unique : NoDuplicates mem) {vaddr : Addr}
    {isWrite isFetch : Bool} {satp : Word} {privilege : Byte}
    (none : forall leaf, ¬Inserts mem vaddr isWrite isFetch satp privilege leaf) :
    ¬Reinserts mem (.translate vaddr isWrite isFetch satp privilege) := by
  rintro ⟨on, i, leaf, valid, page, _, denied, walked, granted⟩
  have found := unique.tlbMatch valid
  rw [page] at found
  refine none leaf ⟨on, fun entry other => ?_, walked, granted⟩
  cases found.symm.trans other
  exact denied

/-- A translation keeps the entries unique exactly when it does not reinsert. -/
theorem translate_wellKept_iff {mem after : MemorySystem} (kept : WellKept mem) {vaddr : Addr}
    {isWrite isFetch : Bool} {satp : Word} {privilege : Byte} {found : TranslationResult}
    (ran : mem.translate vaddr isWrite isFetch satp privilege = .ok (found, after)) :
    WellKept after ↔ ¬Reinserts mem (.translate vaddr isWrite isFetch satp privilege) := by
  rcases translate_memory ran with ⟨same, none⟩ | ⟨leaf, inserts, afterEq⟩
  · subst same
    exact ⟨fun _ => not_reinserts_of_not_inserts kept.unique none, fun _ => kept⟩
  · have index : after.tlbReplaceIdx < TLB_SIZE := by
      rw [afterEq]
      exact Nat.mod_lt _ (by decide)
    have unique : NoDuplicates after ↔ forall i : Fin TLB_SIZE, i.val ≠ mem.tlbReplaceIdx ->
        (mem.tlb i).valid = true -> (mem.tlb i).vpn ≠ vpnOf vaddr := by
      rw [afterEq]
      exact uniqueKeys_insert_iff kept.unique kept.index rfl
    rw [inserts.reinserts_iff kept.unique]
    constructor
    · rintro ⟨_, uniqueAfter⟩ ⟨i, other, valid, page⟩
      exact unique.mp uniqueAfter i other valid page
    · intro noOther
      refine ⟨index, unique.mpr ?_⟩
      intro i other valid page
      exact noOther ⟨i, other, valid, page⟩

/-- A step keeps the entries unique exactly when it does not reinsert. -/
theorem perform_wellKept_iff (mem : MemorySystem) (operation : Operation) (after : MemorySystem)
    (kept : WellKept mem) (ran : perform mem operation = .ok after) : WellKept after ↔ ¬Reinserts mem operation := by
  have same : after.tlb = mem.tlb ∧ after.tlbReplaceIdx = mem.tlbReplaceIdx -> WellKept after := by
    rintro ⟨table, index⟩
    refine ⟨index ▸ kept.index, ?_⟩
    unfold NoDuplicates
    rw [table]
    exact kept.unique
  cases operation with
  | translate vaddr isWrite isFetch satp privilege =>
      rcases map_eq_ok.mp ran with ⟨⟨found, mem'⟩, translated, rfl⟩
      exact translate_wellKept_iff kept translated
  | tlbFlush =>
      cases ran
      refine ⟨fun _ => id, fun _ => ⟨(by decide : 0 < TLB_SIZE), ?_⟩⟩
      intro i _ valid
      cases valid
  | read addr n => exact ⟨fun _ => id, fun _ => same (perform_tlb ran (by simp))⟩
  | readDoubleInstr pc => exact ⟨fun _ => id, fun _ => same (perform_tlb ran (by simp))⟩
  | write addr n data => exact ⟨fun _ => id, fun _ => same (perform_tlb ran (by simp))⟩
  | incrementTimer => exact ⟨fun _ => id, fun _ => same (perform_tlb ran (by simp))⟩

/-! ## Runs -/

/-- The memory system after `init`, with a program in RAM and a host that types. -/
def initial (image : Addr -> Byte) (keyboard : HostKeyboard) : MemorySystem := { memory := image, keyboard := keyboard }

theorem initial_wellKept (image : Addr -> Byte) (keyboard : HostKeyboard) : WellKept (initial image keyboard) := by
  refine ⟨(by decide : 0 < TLB_SIZE), ?_⟩
  intro i _ valid
  cases valid

/-- In a run of any length the replacement index stays in range and each page
has one entry, unless a step reinserts. -/
theorem unique_entries_iff {image : Addr -> Byte} {keyboard : HostKeyboard} {operations : List Operation}
    {last : MemorySystem} (run : runInputs perform (initial image keyboard) operations = .ok last) :
    (forall front back mem, operations = front ++ back ->
        runInputs perform (initial image keyboard) front = .ok mem -> mem.tlbReplaceIdx < TLB_SIZE ∧ NoDuplicates mem) ↔
      (forall front operation back mem, operations = front ++ operation :: back ->
        runInputs perform (initial image keyboard) front = .ok mem -> ¬Reinserts mem operation) := by
  rw [← runInputs_forall_iff perform_wellKept_iff (initial_wellKept image keyboard) run]
  constructor
  · intro holds front back mem split reached
    rcases holds front back mem split reached with ⟨index, unique⟩
    exact ⟨index, unique⟩
  · intro kept front back mem split reached
    exact ⟨(kept front back mem split reached).index, (kept front back mem split reached).unique⟩

/-- Nothing is inserted twice into an empty TLB. -/
theorem not_reinserts_of_tlbEmpty {mem : MemorySystem} (empty : forall i, (mem.tlb i).valid = false)
    (operation : Operation) : ¬Reinserts mem operation := by
  cases operation with
  | translate vaddr isWrite isFetch satp privilege =>
      rintro ⟨_, i, _, valid, _⟩
      exact Bool.false_ne_true ((empty i).symm.trans valid)
  | read addr n => exact id
  | readDoubleInstr pc => exact id
  | write addr n data => exact id
  | incrementTimer => exact id
  | tlbFlush => exact id

/-- A root table with one megapage, a load from it, and a flush. -/
def mapAndFlush : List Operation :=
  [.write 0x1000 4 0xF, .translate 0x1234 false false 0x80000001 PRV_S, .tlbFlush]

theorem unique_entries_iff_mapAndFlush : Exists fun last =>
    runInputs perform (initial (fun _ => 0) {}) mapAndFlush = .ok last ∧
      forall front back mem, mapAndFlush = front ++ back ->
        runInputs perform (initial (fun _ => 0) {}) front = .ok mem ->
          mem.tlbReplaceIdx < TLB_SIZE ∧ NoDuplicates mem := by
  have passed : passes (runInputs perform (initial (fun _ => 0) {}) mapAndFlush) (fun _ => true) = true := by
    decide +kernel
  rcases exists_of_passes passed with ⟨last, run, _⟩
  refine ⟨last, run, (unique_entries_iff run).mpr ?_⟩
  intro front operation back mem split reached
  rcases front with _ | ⟨first, _ | ⟨second, _ | ⟨third, front⟩⟩⟩
  · cases reached
    exact not_reinserts_of_tlbEmpty (fun _ => rfl) operation
  · cases split
    rcases bind_eq_ok.mp reached with ⟨written, wrote, done⟩
    cases done
    have empty := (perform_tlb wrote (by simp)).1
    exact not_reinserts_of_tlbEmpty (fun i => by rw [empty]; rfl) _
  · cases split
    exact id
  · exact absurd split (by simp [mapAndFlush])

/-- The page is made writable after a load from it and before a store to it,
with no flush between them. -/
def loadThenStore : List Operation :=
  [.write 0x1000 4 0x3, .translate 0x1234 false false 0x80000001 PRV_S, .write 0x1000 4 0x7,
    .translate 0x1234 true false 0x80000001 PRV_S]

theorem two_entries_for_one_page : Exists fun last =>
    runInputs perform (initial (fun _ => 0) {}) loadThenStore = .ok last ∧ ¬NoDuplicates last := by
  have passed : passes (runInputs perform (initial (fun _ => 0) {}) loadThenStore) (fun mem =>
      (mem.tlb 0).valid && (mem.tlb 1).valid && (mem.tlb 0).vpn == (mem.tlb 1).vpn) = true := by
    decide +kernel
  rcases exists_of_passes passed with ⟨last, run, test⟩
  simp only [Bool.and_eq_true, beq_iff_eq] at test
  refine ⟨last, run, fun unique => ?_⟩
  exact absurd (unique 0 1 test.1.1 test.1.2 test.2) (by decide)

end Translation
end SimpleRV
