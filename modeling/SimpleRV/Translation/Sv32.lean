import SimpleRV.Translation.PhysicalBounds
import SimpleRV.Translation.Transparency

namespace SimpleRV
namespace Translation

open MemorySystem Iteration

/-!
# The walk against Sv32

`sv32` is the translation that the architecture defines: addresses of entries
are natural numbers, as page numbers have 22 bits and addresses behind them 34,
and every encoding the architecture reserves ends in a fault.  The accessed and
dirty bits, SUM and MXR are left out, as in the source.  The walk of the core
computes on 32 bits and reads the R, W and X bits only.
-/

/-- The three kinds of access that the core passes to `translate`. -/
inductive AccessKind where
  | load
  | store
  | fetch
deriving DecidableEq, Repr

namespace AccessKind

def isWrite : AccessKind -> Bool
  | load => false
  | store => true
  | fetch => false

def isFetch : AccessKind -> Bool
  | load => false
  | store => false
  | fetch => true

/-- The fault of the kind. -/
def pageFault : AccessKind -> Word
  | load => MCAUSE_LOAD_PAGE_FAULT
  | store => MCAUSE_STORE_PAGE_FAULT
  | fetch => MCAUSE_INST_PAGE_FAULT

/-- The permission that the kind needs. -/
def allowed (pte : PTE) : AccessKind -> Bool
  | load => pte.r
  | store => pte.w
  | fetch => pte.x

end AccessKind

/-! ## The architecture -/

/-- An encoding that no valid entry has. -/
def reserved (pte : PTE) : Bool := pte.w && !pte.r

/-- The access has its permission, and in U mode the page is a user page. -/
def accepts (kind : AccessKind) (privilege : Byte) (pte : PTE) : Bool :=
  kind.allowed pte && (privilege != PRV_U || pte.u)

/-- The entry with the given index of the table in the given page. -/
def readEntry (ram : Addr -> Byte) (ppn index : Word) : Option PTE :=
  let place := ppn.toNat * 4096 + index.toNat * 4
  if place + 4 > MEMORY_SIZE.toNat then none
  else
    let pte := pteAt ram (BitVec.ofNat 32 place)
    if !pte.v || reserved pte then none else some pte

/-- The end of a translation at a leaf. -/
def deliver (kind : AccessKind) (privilege : Byte) (pte : PTE) (offset : Nat) : Option Addr :=
  let paddr := pte.ppn.toNat * 4096 + offset
  if accepts kind privilege pte && decide (paddr < 2 ^ 32) then some (BitVec.ofNat 32 paddr) else none

/-- What an entry of the root table leads to. -/
def belowRoot (ram : Addr -> Byte) (kind : AccessKind) (privilege : Byte) (vaddr : Addr) (pte1 : PTE) : Option Addr :=
  if isLeaf pte1 then
    if pte1.ppn.toNat % 1024 = 0 then deliver kind privilege pte1 (vaddr.toNat % 2 ^ 22) else none
  else
    (readEntry ram pte1.ppn (vpn0Of vaddr)).bind (fun pte0 =>
      if isLeaf pte0 then deliver kind privilege pte0 (vaddr.toNat % 2 ^ 12) else none)

/-- The physical address of a virtual one, or none if the access faults. -/
def sv32 (ram : Addr -> Byte) (satp : Word) (kind : AccessKind) (privilege : Byte) (vaddr : Addr) : Option Addr :=
  (readEntry ram (rootPpn satp) (vpn1Of vaddr)).bind (belowRoot ram kind privilege vaddr)

/-- A call of `translate` that ends as expected: at an address, or in a fault
with the cause of the access. -/
def Delivers (call : Except Crash (TranslationResult × MemorySystem)) (cause : Word) : Option Addr -> Prop
  | some paddr => Exists fun out => call = .ok out ∧ out.1.fault = false ∧ out.1.paddr = paddr
  | none => Exists fun out => call = .ok out ∧ out.1.fault = true ∧ out.1.cause = cause

/-- A page number whose addresses have 32 bits. -/
def Narrow (ppn : Word) : Prop := ppn.toNat < 2 ^ 20

instance (ppn : Word) : Decidable (Narrow ppn) := inferInstanceAs (Decidable (ppn.toNat < 2 ^ 20))

/-- The tables on the path of an address that the access gets through are what
the architecture asks for: page numbers that fit, no reserved encoding, an
aligned megapage. -/
def TablesSound (ram : Addr -> Byte) (satp : Word) (kind : AccessKind) (privilege : Byte) (vaddr : Addr) : Prop :=
  let pte1 := pteAt ram (pte1Addr satp vaddr)
  let pte0 := pteAt ram (pte0Addr pte1 vaddr)
  EntriesBelowTop ram satp vaddr ∧
    (¬pte1Addr satp vaddr + 4 > MEMORY_SIZE -> pte1.v = true ->
      if isLeaf pte1 then
        accepts kind privilege pte1 = true ->
          Narrow (rootPpn satp) ∧ reserved pte1 = false ∧ Narrow pte1.ppn ∧ pte1.ppn.toNat % 1024 = 0
      else
        ¬pte0Addr pte1 vaddr + 4 > MEMORY_SIZE -> pte0.v = true -> accepts kind privilege pte0 = true ->
          Narrow (rootPpn satp) ∧ pte1.w = false ∧ Narrow pte1.ppn ∧ reserved pte0 = false ∧ Narrow pte0.ppn)

/-! ## Entries -/

theorem index_toNat_lt (word : Word) : (word &&& 0x3FF#32).toNat < 1024 := by
  have bound := Nat.and_le_right (n := word.toNat) (m := (0x3FF#32).toNat)
  have value : (0x3FF#32).toNat = 1023 := rfl
  rw [BitVec.toNat_and]
  omega

theorem word_four : (4 : Word).toNat = 4 := rfl

theorem entryAddr_toNat (ppn index : Word) :
    (entryAddr ppn index).toNat = (ppn.toNat * 4096 + index.toNat * 4) % 2 ^ 32 := by
  rw [entryAddr, BitVec.toNat_add, BitVec.toNat_mul, word_four, BitVec.toNat_shiftLeft, Nat.shiftLeft_eq]
  omega

theorem readEntry_refused (ram : Addr -> Byte) {ppn index : Word} (small : index.toNat < 1024)
    (refused : entryAddr ppn index + 4 > MEMORY_SIZE) : readEntry ram ppn index = none := by
  rw [gt_iff_lt, BitVec.lt_def, memorySize_toNat, BitVec.toNat_add, word_four,
    entryAddr_toNat ppn index] at refused
  unfold readEntry
  rw [if_pos (by rw [memorySize_toNat]; omega)]

/-- Where the code reads an entry, the architecture reads the same one if its
table is in the lower 32 bits, and rejects more of its encodings. -/
theorem readEntry_checked (ram : Addr -> Byte) {ppn index : Word} {entry : Addr} (small : index.toNat < 1024)
    (entryEq : entry = entryAddr ppn index) (checked : ¬entry + 4 > MEMORY_SIZE) (ends : EndsBelowTop entry 4) :
    readEntry ram ppn index =
      if Narrow ppn ∧ (pteAt ram entry).v = true ∧ reserved (pteAt ram entry) = false then some (pteAt ram entry)
      else none := by
  have place := entryAddr_toNat ppn index
  rw [← entryEq] at place
  unfold readEntry
  by_cases narrow : Narrow ppn
  · have below : ppn.toNat < 2 ^ 20 := narrow
    rw [Nat.mod_eq_of_lt (by omega)] at place
    have same : BitVec.ofNat 32 (ppn.toNat * 4096 + index.toNat * 4) = entry := by
      rw [← place, BitVec.ofNat_toNat, BitVec.setWidth_eq]
    rw [gt_iff_lt, BitVec.lt_def, memorySize_toNat, BitVec.toNat_add, word_four] at checked
    unfold EndsBelowTop at ends
    rw [if_neg (by rw [memorySize_toNat]; omega)]
    simp only [same, narrow, true_and]
    cases (pteAt ram entry).v <;> cases reserved (pteAt ram entry) <;> simp
  · have above : ¬ppn.toNat < 2 ^ 20 := narrow
    rw [if_pos (by rw [memorySize_toNat]; omega), if_neg (fun sound => narrow sound.1)]

/-! ## Leaves -/

theorem lacksPermission_eq (kind : AccessKind) (pte : PTE) :
    lacksPermission kind.isWrite kind.isFetch pte.r pte.w pte.x = !kind.allowed pte := by
  cases kind with
  | load => exact Bool.false_or _
  | store => simp [lacksPermission, AccessKind.isWrite, AccessKind.isFetch, AccessKind.allowed]
  | fetch => simp [lacksPermission, AccessKind.isWrite, AccessKind.isFetch, AccessKind.allowed]

theorem permissionCause_eq {kind : AccessKind} {pte : PTE} (denied : kind.allowed pte = false) :
    permissionCause kind.isWrite kind.isFetch pte.w pte.x = kind.pageFault := by
  cases kind with
  | load => rfl
  | store =>
      rw [show pte.w = false from denied]
      rfl
  | fetch =>
      rw [show pte.x = false from denied]
      rfl

theorem pageFaultCause_eq (kind : AccessKind) : pageFaultCause kind.isWrite kind.isFetch = kind.pageFault := by
  cases kind <;> rfl

/-- The end of the walk for one of the three kinds of access. -/
theorem finishWalk_eq (mem : MemorySystem) (result : TranslationResult) (pte : PTE) (vpnFull paddr : Word)
    (kind : AccessKind) (privilege : Byte) :
    mem.finishWalk result pte vpnFull paddr kind.isWrite kind.isFetch privilege =
      if accepts kind privilege pte then
        ({ result with paddr := paddr, fault := false }, mem.tlbInsert vpnFull pte.ppn pte.flags)
      else ({ result with fault := true, cause := kind.pageFault }, mem) := by
  unfold finishWalk accepts
  rw [lacksPermission_eq, pageFaultCause_eq]
  cases allowed : kind.allowed pte with
  | false => simp [permissionCause_eq allowed]
  | true => by_cases user : privilege = PRV_U <;> cases pte.u <;> simp [user]

/-- A page number and the offset behind it, glued together. -/
theorem paddr_toNat {ppn offset : Word} {i : Nat} (narrow : Narrow ppn) (aligned : ppn.toNat * 4096 % 2 ^ i = 0)
    (small : offset.toNat < 2 ^ i) : ((ppn <<< 12) ||| offset).toNat = ppn.toNat * 4096 + offset.toNat := by
  have below : ppn.toNat < 2 ^ 20 := narrow
  have multiple : ppn.toNat * 4096 = (ppn.toNat * 4096 / 2 ^ i) <<< i := by
    rw [Nat.shiftLeft_eq, Nat.div_mul_cancel (Nat.dvd_of_mod_eq_zero aligned)]
  rw [BitVec.toNat_or, BitVec.toNat_shiftLeft, Nat.shiftLeft_eq, Nat.mod_eq_of_lt (by omega)]
  change ppn.toNat * 4096 ||| offset.toNat = _
  rw [multiple, Nat.shiftLeft_add_eq_or_of_lt small]

/-- Where the page number fits, the architecture delivers the address that the
code delivers. -/
theorem deliver_eq (kind : AccessKind) (privilege : Byte) {pte : PTE} {offset : Word} {i : Nat} (size : i <= 32)
    (aligned : pte.ppn.toNat * 4096 % 2 ^ i = 0) (small : offset.toNat < 2 ^ i) :
    deliver kind privilege pte offset.toNat =
      if accepts kind privilege pte = true ∧ Narrow pte.ppn then some ((pte.ppn <<< 12) ||| offset) else none := by
  have fits : pte.ppn.toNat * 4096 + offset.toNat < 2 ^ 32 ↔ Narrow pte.ppn := by
    have room : pte.ppn.toNat * 4096 < 2 ^ 32 -> pte.ppn.toNat * 4096 + 2 ^ i <= 2 ^ 32 := by
      rcases Nat.dvd_of_mod_eq_zero aligned with ⟨pages, multiple⟩
      rcases Nat.pow_dvd_pow 2 size with ⟨all, whole⟩
      rw [multiple, whole, ← Nat.mul_succ]
      intro below
      exact Nat.mul_le_mul_left _ (Nat.lt_of_mul_lt_mul_left below)
    change _ ↔ pte.ppn.toNat < 2 ^ 20
    constructor
    · intro below
      omega
    · intro below
      have end_ := room (by omega)
      omega
  unfold deliver
  cases accepts kind privilege pte with
  | false => simp
  | true =>
      by_cases narrow : Narrow pte.ppn
      · have value := paddr_toNat narrow aligned small
        have same : BitVec.ofNat 32 (pte.ppn.toNat * 4096 + offset.toNat) = (pte.ppn <<< 12) ||| offset := by
          rw [← value, BitVec.ofNat_toNat, BitVec.setWidth_eq]
        simp only [fits, narrow, same, Bool.true_and, decide_true, if_true, true_and]
      · simp only [fits, narrow, Bool.true_and, decide_false, Bool.false_eq_true, if_false, and_false]

/-! ## The two walks -/

/-- What the code makes of the leaf that it finds. -/
def leafEnd (kind : AccessKind) (privilege : Byte) (vaddr : Addr) (found : Option Leaf) : Option Addr :=
  found.bind (fun leaf => if accepts kind privilege leaf.pte then some (leaf.paddr vaddr) else none)

theorem delivers_ok_iff {out : TranslationResult × MemorySystem} {cause : Word}
    (named : out.1.fault = true -> out.1.cause = cause) (expected : Option Addr) :
    Delivers (.ok out) cause expected ↔ (if out.1.fault then none else some out.1.paddr) = expected := by
  cases expected with
  | none =>
      constructor
      · rintro ⟨same, sameOut, faults, _⟩
        cases sameOut
        rw [if_pos faults]
      · intro noAddress
        cases faults : out.1.fault with
        | true => exact ⟨out, rfl, faults, named faults⟩
        | false => simp [faults] at noAddress
  | some paddr =>
      constructor
      · rintro ⟨same, sameOut, succeeds, address⟩
        cases sameOut
        rw [if_neg (ne_true_of_eq_false succeeds), address]
      · intro address
        cases faults : out.1.fault with
        | true => simp [faults] at address
        | false =>
            rw [faults] at address
            exact ⟨out, rfl, faults, Option.some.inj address⟩

theorem not_delivers_error (failure : Crash) (cause : Word) (expected : Option Addr) :
    ¬Delivers (.error failure) cause expected := by
  intro delivers
  cases expected with
  | none =>
      rcases delivers with ⟨out, impossible, _⟩
      cases impossible
  | some paddr =>
      rcases delivers with ⟨out, impossible, _⟩
      cases impossible

/-- A walk ends as expected if its leaf does. -/
theorem delivers_walk_iff (mem : MemorySystem) (result : TranslationResult) (vaddr : Addr) (kind : AccessKind)
    (satp : Word) (privilege : Byte) (expected : Option Addr) :
    Delivers (mem.walk result vaddr kind.isWrite kind.isFetch satp privilege) kind.pageFault expected ↔
      Exists fun found => walkLeaf mem.memory satp vaddr = .ok found ∧
        leafEnd kind privilege vaddr found = expected := by
  rw [walk_eq, pageFaultCause_eq]
  cases walkLeaf mem.memory satp vaddr with
  | error failure =>
      constructor
      · intro delivers
        exact absurd delivers (not_delivers_error failure kind.pageFault expected)
      · rintro ⟨found, impossible, _⟩
        cases impossible
  | ok found =>
      have only : (Exists fun other : Option Leaf => (Except.ok found : Except Crash _) = .ok other ∧
          leafEnd kind privilege vaddr other = expected) ↔ leafEnd kind privilege vaddr found = expected := by
        simp
      rw [only]
      cases found with
      | none => exact delivers_ok_iff (fun _ => rfl) expected
      | some leaf =>
          change Delivers (.ok (mem.finishWalk _ _ _ _ _ _ _)) _ _ ↔
            (if accepts kind privilege leaf.pte then some (leaf.paddr vaddr) else none) = expected
          rw [finishWalk_eq]
          cases accepts kind privilege leaf.pte with
          | true => exact delivers_ok_iff (fun impossible => by cases impossible) expected
          | false => exact delivers_ok_iff (fun _ => rfl) expected

/-- Page numbers and offsets of an address. -/
theorem smallOffset_toNat (vaddr : Addr) : (vaddr &&& 0xFFF#32).toNat = vaddr.toNat % 2 ^ 12 := by
  rw [BitVec.toNat_and]
  exact Nat.and_two_pow_sub_one_eq_mod vaddr.toNat 12

theorem megaOffset_toNat (vaddr : Addr) : (vaddr &&& 0x003FFFFF#32).toNat = vaddr.toNat % 2 ^ 22 := by
  rw [BitVec.toNat_and]
  exact Nat.and_two_pow_sub_one_eq_mod vaddr.toNat 22

/-- A megapage. -/
theorem belowRoot_leaf (ram : Addr -> Byte) (kind : AccessKind) (privilege : Byte) (vaddr : Addr) {pte1 : PTE}
    (leaf : isLeaf pte1 = true) : belowRoot ram kind privilege vaddr pte1 =
      if pte1.ppn.toNat % 1024 = 0 ∧ Narrow pte1.ppn then leafEnd kind privilege vaddr (some ⟨pte1, true⟩)
      else none := by
  unfold belowRoot
  rw [if_pos leaf]
  by_cases aligned : pte1.ppn.toNat % 1024 = 0
  · have small : (vaddr &&& 0x003FFFFF#32).toNat < 2 ^ 22 := by
      rw [megaOffset_toNat]
      omega
    rw [if_pos aligned, ← megaOffset_toNat, deliver_eq kind privilege (by decide) (by omega) small]
    change _ = if _ then (if _ then some ((pte1.ppn <<< 12) ||| (vaddr &&& 0x003FFFFF#32)) else none) else _
    cases accepts kind privilege pte1 <;> simp [aligned]
  · rw [if_neg aligned, if_neg (fun sound => aligned sound.1)]

/-- A page of four kilobytes. -/
theorem deliver_small (kind : AccessKind) (privilege : Byte) (vaddr : Addr) (pte0 : PTE) :
    deliver kind privilege pte0 (vaddr.toNat % 2 ^ 12) =
      if Narrow pte0.ppn then leafEnd kind privilege vaddr (some ⟨pte0, false⟩) else none := by
  have small : (vaddr &&& 0xFFF#32).toNat < 2 ^ 12 := by
    rw [smallOffset_toNat]
    omega
  rw [← smallOffset_toNat, deliver_eq kind privilege (by decide) (by omega) small]
  change _ = if _ then (if _ then some ((pte0.ppn <<< 12) ||| (vaddr &&& 0xFFF#32)) else none) else _
  cases accepts kind privilege pte0 <;> simp

/-- An entry that gives a permission and is not reserved is a leaf. -/
theorem isLeaf_of_accepts {kind : AccessKind} {privilege : Byte} {pte : PTE}
    (accepted : accepts kind privilege pte = true) (encoded : reserved pte = false) : isLeaf pte = true := by
  have allowed := (Bool.and_eq_true_iff.mp accepted).1
  unfold reserved at encoded
  unfold isLeaf
  cases kind with
  | load =>
      rw [show pte.r = true from allowed]
      rfl
  | store =>
      rw [show pte.w = true from allowed, Bool.true_and, Bool.not_eq_false'] at encoded
      rw [encoded]
      rfl
  | fetch =>
      rw [show pte.x = true from allowed]
      exact Bool.or_true _

theorem some_eq_ite_iff {α : Type} {x : α} {condition : Prop} [Decidable condition] :
    some x = (if condition then some x else none) ↔ condition := by
  by_cases holds : condition
  · simp [holds]
  · simp [holds]

theorem ite_some_bind {α β : Type} {x : α} {condition : Prop} [Decidable condition] (f : α -> Option β) :
    (if condition then some x else none).bind f = if condition then f x else none := by
  by_cases holds : condition
  · rw [if_pos holds, if_pos holds, Option.bind_some]
  · rw [if_neg holds, if_neg holds]
    rfl

theorem exists_ok_iff {found : Option Leaf} {property : Option Leaf -> Prop} :
    (Exists fun other => (Except.ok found : Except Crash (Option Leaf)) = .ok other ∧ property other) ↔
      property found := by
  constructor
  · rintro ⟨other, same, holds⟩
    cases same
    exact holds
  · intro holds
    exact ⟨found, rfl, holds⟩

theorem not_exists_error {failure : Crash} {property : Option Leaf -> Prop} :
    ¬Exists fun other => (Except.error failure : Except Crash (Option Leaf)) = .ok other ∧ property other := by
  rintro ⟨other, impossible, _⟩
  cases impossible

/-- A pointer is reserved if its W bit is set. -/
theorem reserved_of_pointer {pte : PTE} (pointer : isLeaf pte = false) : reserved pte = pte.w := by
  have noRead : pte.r = false := (Bool.or_eq_false_iff.mp pointer).1
  unfold reserved
  rw [noRead]
  exact Bool.and_true _

theorem belowRoot_refused (ram : Addr -> Byte) (kind : AccessKind) (privilege : Byte) {vaddr : Addr} {pte1 : PTE}
    (pointer : isLeaf pte1 = false) (refused : pte0Addr pte1 vaddr + 4 > MEMORY_SIZE) :
    belowRoot ram kind privilege vaddr pte1 = none := by
  have small : (vpn0Of vaddr).toNat < 1024 := index_toNat_lt (vaddr >>> 12)
  unfold belowRoot
  rw [if_neg (ne_true_of_eq_false pointer), readEntry_refused ram small refused]
  rfl

/-- A page behind a pointer whose entry is read. -/
theorem belowRoot_pointer (ram : Addr -> Byte) (kind : AccessKind) (privilege : Byte) {vaddr : Addr} {pte1 pte0 : PTE}
    (pte0Eq : pteAt ram (pte0Addr pte1 vaddr) = pte0) (pointer : isLeaf pte1 = false)
    (checked : ¬pte0Addr pte1 vaddr + 4 > MEMORY_SIZE) (ends : EndsBelowTop (pte0Addr pte1 vaddr) 4) :
    belowRoot ram kind privilege vaddr pte1 =
      if (Narrow pte1.ppn ∧ pte0.v = true ∧ reserved pte0 = false) ∧ isLeaf pte0 = true ∧ Narrow pte0.ppn then
        leafEnd kind privilege vaddr (some ⟨pte0, false⟩)
      else none := by
  have small : (vpn0Of vaddr).toNat < 1024 := index_toNat_lt (vaddr >>> 12)
  unfold belowRoot
  rw [if_neg (ne_true_of_eq_false pointer),
    @readEntry_checked ram _ _ (pte0Addr pte1 vaddr) small rfl checked ends, pte0Eq]
  simp only [deliver_small]
  by_cases encoded : Narrow pte1.ppn ∧ pte0.v = true ∧ reserved pte0 = false
  · rw [if_pos encoded, Option.bind_some]
    cases isLeaf pte0 <;> simp [encoded]
  · rw [if_neg encoded, if_neg (fun all => encoded all.1)]
    rfl

/-- The second half of both walks, behind a pointer.  `sound` is what the
architecture asks of the pointer. -/
theorem walkSecond_iff (ram : Addr -> Byte) (kind : AccessKind) (privilege : Byte) (vaddr : Addr) {pte1 pte0 : PTE}
    (pte0Eq : pteAt ram (pte0Addr pte1 vaddr) = pte0) (pointer : isLeaf pte1 = false) (sound : Prop)
    [Decidable sound] :
    (Exists fun found => walkSecond ram (pte0Addr pte1 vaddr) = .ok found ∧
        leafEnd kind privilege vaddr found = if sound then belowRoot ram kind privilege vaddr pte1 else none) ↔
      EndsBelowTop (pte0Addr pte1 vaddr) 4 ∧
        (¬pte0Addr pte1 vaddr + 4 > MEMORY_SIZE -> pte0.v = true -> accepts kind privilege pte0 = true ->
          sound ∧ Narrow pte1.ppn ∧ reserved pte0 = false ∧ Narrow pte0.ppn) := by
  unfold walkSecond
  by_cases outside : pte0Addr pte1 vaddr + 4 > MEMORY_SIZE
  · rw [if_pos outside, exists_ok_iff, belowRoot_refused ram kind privilege pointer outside, ite_self]
    exact ⟨fun _ => ⟨endsBelowTop_of_refused (by decide) outside, fun inside => absurd outside inside⟩,
      fun _ => rfl⟩
  rw [if_neg outside]
  by_cases ends : EndsBelowTop (pte0Addr pte1 vaddr) 4
  · rw [if_pos ends, exists_ok_iff, belowRoot_pointer ram kind privilege pte0Eq pointer outside ends, pte0Eq]
    cases valid : pte0.v with
    | false => simp [leafEnd, ends]
    | true =>
        have leaf := @isLeaf_of_accepts kind privilege pte0
        cases accepted : accepts kind privilege pte0 with
        | false => simp [leafEnd, ends, accepted]
        | true =>
            have address : leafEnd kind privilege vaddr (some ⟨pte0, false⟩) =
                some ((⟨pte0, false⟩ : Leaf).paddr vaddr) := if_pos accepted
            rw [if_pos rfl, address, ← ite_and, some_eq_ite_iff]
            constructor
            · rintro ⟨holds, ⟨narrow1, _, encoded⟩, _, narrow0⟩
              exact ⟨ends, fun _ _ _ => ⟨holds, narrow1, encoded, narrow0⟩⟩
            · rintro ⟨_, all⟩
              rcases all outside rfl rfl with ⟨holds, narrow1, encoded, narrow0⟩
              exact ⟨holds, ⟨narrow1, rfl, encoded⟩, leaf accepted encoded, narrow0⟩
  · rw [if_neg ends]
    exact ⟨fun impossible => absurd impossible not_exists_error, fun both => absurd both.1 ends⟩

/-- Both walks agree on a table exactly if what the access gets through is
sound. -/
theorem walkLeaf_sv32_iff (ram : Addr -> Byte) (satp : Word) (kind : AccessKind) (privilege : Byte) (vaddr : Addr) :
    (Exists fun found => walkLeaf ram satp vaddr = .ok found ∧
        leafEnd kind privilege vaddr found = sv32 ram satp kind privilege vaddr) ↔
      TablesSound ram satp kind privilege vaddr := by
  have small : (vpn1Of vaddr).toNat < 1024 := index_toNat_lt (vaddr >>> 22)
  rw [walkLeaf_eq]
  unfold sv32 TablesSound EntriesBelowTop
  by_cases outside : pte1Addr satp vaddr + 4 > MEMORY_SIZE
  · rw [if_pos outside, exists_ok_iff, readEntry_refused ram small outside]
    exact ⟨fun _ => ⟨⟨endsBelowTop_of_refused (by decide) outside, fun inside => absurd outside inside⟩,
      fun inside => absurd outside inside⟩, fun _ => rfl⟩
  rw [if_neg outside]
  by_cases ends : EndsBelowTop (pte1Addr satp vaddr) 4
  · rw [if_pos ends, @readEntry_checked ram _ _ (pte1Addr satp vaddr) small rfl outside ends]
    dsimp only
    generalize pteAt ram (pte1Addr satp vaddr) = pte1
    cases valid : pte1.v with
    | false => simp [leafEnd, ends]
    | true =>
        cases leaf : isLeaf pte1 with
        | true =>
            rw [if_neg (by decide : ¬(!true) = true), if_pos rfl, exists_ok_iff, ite_some_bind,
              belowRoot_leaf ram kind privilege vaddr leaf, ← ite_and, if_pos rfl]
            cases accepted : accepts kind privilege pte1 with
            | false => simp [leafEnd, ends, accepted]
            | true =>
                have address : leafEnd kind privilege vaddr (some ⟨pte1, true⟩) =
                    some ((⟨pte1, true⟩ : Leaf).paddr vaddr) := if_pos accepted
                rw [address, some_eq_ite_iff]
                constructor
                · rintro ⟨⟨narrow, _, encoded⟩, aligned, narrow1⟩
                  exact ⟨⟨ends, fun _ _ pointer => absurd pointer.symm Bool.false_ne_true⟩,
                    fun _ _ _ => ⟨narrow, encoded, narrow1, aligned⟩⟩
                · rintro ⟨_, all⟩
                  rcases all outside rfl rfl with ⟨narrow, encoded, narrow1, aligned⟩
                  exact ⟨⟨narrow, rfl, encoded⟩, aligned, narrow1⟩
        | false =>
            rw [if_neg (by decide : ¬(!true) = true), if_neg Bool.false_ne_true, ite_some_bind,
              walkSecond_iff ram kind privilege vaddr rfl leaf, reserved_of_pointer leaf, if_neg Bool.false_ne_true]
            constructor
            · rintro ⟨ends0, all⟩
              refine ⟨⟨ends, fun _ _ _ => ends0⟩, fun _ _ inside valid0 accepted => ?_⟩
              rcases all inside valid0 accepted with ⟨⟨narrow, _, encoded⟩, rest⟩
              exact ⟨narrow, encoded, rest⟩
            · rintro ⟨⟨_, ends0⟩, all⟩
              refine ⟨ends0 outside rfl rfl, fun inside valid0 accepted => ?_⟩
              rcases all outside rfl inside valid0 accepted with ⟨narrow, encoded, rest⟩
              exact ⟨⟨narrow, rfl, encoded⟩, rest⟩
  · rw [if_neg ends]
    exact ⟨fun impossible => absurd impossible not_exists_error, fun both => absurd both.1.1 ends⟩

/-- With an empty TLB and translation on, the translation of an access is the
one that the architecture defines exactly if the tables are sound. -/
theorem translate_sv32_iff {mmu : Mmu} {privilege : Byte} (empty : mmu.TlbEmpty)
    (on : mmu.translates privilege = true) (kind : AccessKind) (vaddr : Addr) :
    Delivers (mmu.translate vaddr kind.isWrite kind.isFetch privilege) kind.pageFault
        (sv32 mmu.memory.memory mmu.satp kind privilege vaddr) ↔
      TablesSound mmu.memory.memory mmu.satp kind privilege vaddr := by
  have miss := not_served_of_tlbEmpty empty vaddr kind.isWrite kind.isFetch privilege
  rcases translate_of_not_served on miss with ⟨result, walks⟩
  rw [walks, delivers_walk_iff, walkLeaf_sv32_iff]

/-- One entry in the root table at 0x1000, for the first four megabytes. -/
def oneEntry (raw : Word) : Mmu :=
  { memory := { memory := CPUCore.ramImage [(0x1000#32, raw)] }, satp := 0x80000001#32 }

/-- A megapage at physical address zero. -/
theorem translate_sv32_iff_megapage :
    Delivers ((oneEntry 0xF#32).translate 0x1234#32 false false PRV_S) MCAUSE_LOAD_PAGE_FAULT (some 0x1234#32) := by
  have address : sv32 (oneEntry 0xF#32).memory.memory 0x80000001#32 .load PRV_S 0x1234#32 = some 0x1234#32 := by
    decide +kernel
  have follows := @translate_sv32_iff (oneEntry 0xF#32) PRV_S (fun _ => rfl) rfl .load 0x1234#32
  rw [show sv32 _ (oneEntry 0xF#32).satp _ _ _ = _ from address] at follows
  refine follows.mpr ⟨⟨by decide, fun _ _ pointer => ?_⟩, fun _ _ _ => ⟨by decide, ?_, ?_, ?_⟩⟩
  · exact absurd pointer (by decide +kernel)
  · decide +kernel
  · decide +kernel
  · decide +kernel

/-- A megapage at 2 ^ 32 is translated to low addresses. -/
theorem high_megapage_aliased :
    sv32 (oneEntry 0x4000000F#32).memory.memory 0x80000001#32 .load PRV_S 0x1234#32 = none ∧
      (Exists fun out => (oneEntry 0x4000000F#32).translate 0x1234#32 false false PRV_S = .ok out ∧
        out.1.fault = false ∧ out.1.paddr = 0x1234#32) ∧
      ¬Delivers ((oneEntry 0x4000000F#32).translate 0x1234#32 false false PRV_S) MCAUSE_LOAD_PAGE_FAULT
        (sv32 (oneEntry 0x4000000F#32).memory.memory 0x80000001#32 .load PRV_S 0x1234#32) := by
  have fault : sv32 (oneEntry 0x4000000F#32).memory.memory 0x80000001#32 .load PRV_S 0x1234#32 = none := by
    decide +kernel
  have passed : passes ((oneEntry 0x4000000F#32).translate 0x1234#32 false false PRV_S) (fun out =>
      !out.1.fault && decide (out.1.paddr = 0x1234#32)) = true := by
    decide +kernel
  rcases exists_of_passes passed with ⟨out, translated, test⟩
  simp only [Bool.and_eq_true, Bool.not_eq_true', decide_eq_true_eq] at test
  refine ⟨fault, ⟨out, translated, test⟩, ?_⟩
  rw [fault]
  rintro ⟨other, same, faults, _⟩
  rw [translated] at same
  cases same
  exact Bool.false_ne_true (test.1.symm.trans faults)

end Translation
end SimpleRV
