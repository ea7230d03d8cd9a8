import SimpleRV.Library.BitFields
import SimpleRV.Refinement.Effects
import SimpleRV.Translation.Sv32

namespace SimpleRV
namespace Refinement

open IssueUnit CPUCore Memory MemorySystem Pipeline Translation Iteration

/-!
# Fetch through the page tables

The bounds that `fetch` checks first are those of the virtual pc, and only a
page crossing of the physical address is handled by a single fetch.  With the
address that a walk delivers, the second word of a pair is the one behind the
translation of `pc + 4`.  With the address that a TLB entry delivers it is not,
as that address does not depend on the offset in the page.
-/

/-! ## The stream of instructions -/

/-- Fetching from an address is permitted and leads to this word of RAM. -/
def StreamWord (s : CPUCore) (vaddr : Addr) (word : Word) : Prop :=
  Exists fun found => Exists fun mem => s.translateFetch vaddr = .ok (found, mem) ∧ found.fault = false ∧
    found.paddr.toNat + 4 <= MEMORY_SIZE.toNat ∧ word = LittleEndian.load s.memory.memory found.paddr 4

/-- `t` is the core when fetch has delivered the next word or two. -/
structure DeliversStream (s t : CPUCore) : Prop where
  filled : t.ifId.slots.s0.valid = true
  first : StreamWord s s.pc t.ifId.slots.s0.instr
  second : t.ifId.slots.s1.valid = true -> StreamWord s (s.pc + 4) t.ifId.slots.s1.instr
  latched : t.ifId.pc = s.pc
  advanced : t.pc = s.pc + span t.ifId.slots

/-- IF/ID is empty and the pc is mapped to a word of RAM. -/
structure Fetchable (s : CPUCore) (found : TranslationResult) (mem : MemorySystem) : Prop where
  empty0 : s.ifId.slots.s0.valid = false
  empty1 : s.ifId.slots.s1.valid = false
  translated : s.translateFetch s.pc = .ok (found, mem)
  noFault : found.fault = false
  inRam : found.paddr.toNat + 4 <= MEMORY_SIZE.toNat
  noClint : inClint found.paddr = false

/-- The virtual pc passes one of the two bounds checks. -/
def PassesBounds (s : CPUCore) : Prop :=
  s.pc + 8 <= MEMORY_SIZE ∨ (s.pc + 4 <= MEMORY_SIZE ∧ s.running = true)

def mmuOf (s : CPUCore) : Mmu := ⟨s.memory, s.regFile.readCsr CSR_SATP⟩

/-- The translation of the pc comes from the TLB. -/
def FromTlb (s : CPUCore) : Prop := (mmuOf s).servedByTlb s.pc false true s.regFile.privilege = true

/-- What has to stand in RAM when two words are fetched from an address that
the TLB delivered: the same word twice, as the entry answers alike for both, or
from the last word of a page on, the first word of the next page. -/
structure PairRepeats (s : CPUCore) (found : TranslationResult) : Prop where
  samePage : vpnOf (s.pc + 4) = vpnOf s.pc ->
    LittleEndian.load s.memory.memory (found.paddr + 4) 4 =
      (LittleEndian.load s.memory.memory found.paddr 4 : Word)
  nextPage : vpnOf (s.pc + 4) ≠ vpnOf s.pc ->
    StreamWord s (s.pc + 4) (LittleEndian.load s.memory.memory (found.paddr + 4) 4)

/-! ## Addresses of one page -/

theorem crossesPage_false_iff (paddr : Addr) : crossesPage paddr = false ↔ paddr.toNat % 2 ^ 12 + 7 < 2 ^ 12 := by
  have bound := paddr.isLt
  unfold crossesPage
  rw [bne_eq_false_iff_eq, ← BitVec.toNat_inj, BitVec.toNat_ushiftRight, BitVec.toNat_ushiftRight, BitVec.toNat_add,
    Nat.shiftRight_eq_div_pow, Nat.shiftRight_eq_div_pow]
  change paddr.toNat / 2 ^ 12 = (paddr.toNat + 7) % 2 ^ 32 / 2 ^ 12 ↔ _
  omega

theorem vpnOf_add_four {vaddr : Addr} (noCarry : vaddr.toNat % 2 ^ 12 + 4 < 2 ^ 12) :
    vpnOf (vaddr + 4) = vpnOf vaddr := by
  apply BitVec.eq_of_getLsbD_eq
  intro i below
  have bits := @BitFields.getLsbD_add_low 32 12 vaddr 4 noCarry (by decide)
  rw [vpnOf, vpnOf, BitVec.getLsbD_ushiftRight, BitVec.getLsbD_ushiftRight, bits, if_neg (by omega)]

/-- A leaf leaves the offset in the page alone. -/
theorem paddr_getLsbD (leaf : Leaf) (vaddr : Addr) {i : Nat} (low : i < 12) :
    (leaf.paddr vaddr).getLsbD i = vaddr.getLsbD i := by
  have masked : leaf.offsetMask.getLsbD i = true := by
    unfold Leaf.offsetMask
    split
    · exact (@BitFields.getLsbD_ones 32 22 (by decide) i).trans (decide_eq_true (by omega))
    · exact (@BitFields.getLsbD_ones 32 12 (by decide) i).trans (decide_eq_true low)
  simp [Leaf.paddr, masked, low]

theorem paddr_offset (leaf : Leaf) (vaddr : Addr) : (leaf.paddr vaddr).toNat % 2 ^ 12 = vaddr.toNat % 2 ^ 12 := by
  apply Nat.eq_of_testBit_eq
  intro i
  rw [Nat.testBit_mod_two_pow, Nat.testBit_mod_two_pow]
  by_cases low : i < 12
  · have bit := paddr_getLsbD leaf vaddr low
    simp only [BitVec.getLsbD] at bit
    rw [bit]
  · simp [low]

theorem paddr_add_four (leaf : Leaf) {vaddr : Addr} (noCarry : vaddr.toNat % 2 ^ 12 + 4 < 2 ^ 12) :
    leaf.paddr (vaddr + 4) = leaf.paddr vaddr + 4 := by
  have offset := paddr_offset leaf vaddr
  have bits := @BitFields.getLsbD_add_low 32 12 vaddr 4 noCarry (by decide)
  have paddrBits := @BitFields.getLsbD_add_low 32 12 (leaf.paddr vaddr) 4 (offset ▸ noCarry) (by decide)
  apply BitVec.eq_of_getLsbD_eq
  intro i below
  rw [paddrBits]
  by_cases low : i < 12
  · rw [if_pos low, offset, paddr_getLsbD leaf (vaddr + 4) low, bits, if_pos low]
  · rw [if_neg low, Leaf.paddr, Leaf.paddr, BitVec.getLsbD_or, BitVec.getLsbD_or, BitVec.getLsbD_and,
      BitVec.getLsbD_and, bits, if_neg low]

/-! ## The second word -/

/-- Whether a walk faults at its leaf depends on the leaf and the privilege. -/
theorem finishWalk_fetch_fault (mem : MemorySystem) (result : TranslationResult) (pte : PTE) (vpn paddr : Word)
    (privilege : Byte) :
    (mem.finishWalk result pte vpn paddr false true privilege).1.fault = !accepts .fetch privilege pte := by
  have ends := finishWalk_eq mem result pte vpn paddr .fetch privilege
  rw [show mem.finishWalk result pte vpn paddr false true privilege = _ from ends]
  cases accepts .fetch privilege pte with
  | true => rfl
  | false => rfl

/-- Where neither the TLB nor a page end interferes, `pc + 4` is translated to
the next physical address. -/
theorem translateFetch_next {s : CPUCore} {found : TranslationResult} {mem : MemorySystem}
    (translated : s.translateFetch s.pc = .ok (found, mem)) (noFault : found.fault = false) (walked : ¬FromTlb s)
    (samePage : crossesPage found.paddr = false) :
    Exists fun next => Exists fun mem' => s.translateFetch (s.pc + 4) = .ok (next, mem') ∧ next.fault = false ∧
      next.paddr = found.paddr + 4 := by
  have room := (crossesPage_false_iff found.paddr).mp samePage
  cases on : (mmuOf s).translates s.regFile.privilege with
  | false =>
      have bare := translate_bare on
      cases (bare s.pc false true).symm.trans translated
      exact ⟨_, _, bare (s.pc + 4) false true, rfl, rfl⟩
  | true =>
      have notServed : (mmuOf s).servedByTlb s.pc false true s.regFile.privilege = false := Bool.eq_false_iff.mpr walked
      rcases translate_of_not_served on notServed with ⟨result, walks⟩
      have ends := walks.symm.trans translated
      rcases walk_paddr ends noFault with ⟨leaf, leafFound, paddr⟩
      rw [show found.paddr = leaf.paddr s.pc from paddr, paddr_offset] at room
      have noCarry : s.pc.toNat % 2 ^ 12 + 4 < 2 ^ 12 := Nat.lt_of_le_of_lt (Nat.add_le_add_left (by decide) _) room
      have page := vpnOf_add_four noCarry
      have notServedNext : (mmuOf s).servedByTlb (s.pc + 4) false true s.regFile.privilege = false := by
        unfold Mmu.servedByTlb at notServed ⊢
        rw [page]
        exact notServed
      rcases translate_of_not_served on notServedNext with ⟨result', walksNext⟩
      have leafNext : walkLeaf (mmuOf s).memory.memory (mmuOf s).satp (s.pc + 4) = .ok (some leaf) :=
        (walkLeaf_congr page).trans leafFound
      rw [walk_eq, leafFound] at ends
      rw [walk_eq, leafNext] at walksNext
      have permitted := finishWalk_fetch_fault s.memory result leaf.pte (vpnOf s.pc) (leaf.paddr s.pc)
        s.regFile.privilege
      rw [show (s.memory.finishWalk result leaf.pte _ _ false true _).1 = found from
        congrArg Prod.fst (Except.ok.inj ends), noFault] at permitted
      have succeeds := finishWalk_fetch_fault s.memory result' leaf.pte (vpnOf (s.pc + 4)) (leaf.paddr (s.pc + 4))
        s.regFile.privilege
      rw [← permitted] at succeeds
      refine ⟨_, _, walksNext, succeeds, ?_⟩
      exact (finishWalk_paddr succeeds).trans ((paddr_add_four leaf noCarry).trans (congrArg (· + 4) paddr.symm))

/-- A TLB entry answers for all of its page. -/
theorem translateFetch_fromTlb {s : CPUCore} {found : TranslationResult} {mem : MemorySystem}
    (translated : s.translateFetch s.pc = .ok (found, mem)) (fromTlb : FromTlb s) {vaddr : Addr}
    (samePage : vpnOf vaddr = vpnOf s.pc) : s.translateFetch vaddr = .ok (found, mem) := by
  rcases Bool.and_eq_true_iff.mp fromTlb with ⟨on, served⟩
  have here := (translate_translated on s.pc false true).symm.trans translated
  refine (translate_translated on vaddr false true).trans ?_
  rw [samePage]
  unfold tlbLookup at served here ⊢
  cases entryFound : (mmuOf s).memory.tlbMatch (vpnOf s.pc) with
  | none =>
      rw [entryFound] at served
      cases served
  | some entry =>
      simp only [entryFound] at served here ⊢
      split at served
      · cases served
      · rename_i permitted
        rw [if_neg permitted] at here ⊢
        exact here

/-! ## Fetch case by case -/

section Fetching

variable {s : CPUCore} {found : TranslationResult} {mem : MemorySystem}

theorem Fetchable.sameRam (fetchable : Fetchable s found mem) : mem.memory = s.memory.memory :=
  (translate_onlyTlb fetchable.translated).sameStorage.memory

/-- The memory after a single word has been read. -/
def polled (mem : MemorySystem) : MemorySystem := { mem with keyboard := mem.keyboard.checkHostKeyboard }

theorem Fetchable.read (fetchable : Fetchable s found mem) :
    mem.read found.paddr 4 = .ok (LittleEndian.load s.memory.memory found.paddr 4, polled mem) := by
  rw [← fetchable.sameRam]
  exact read_inRam (by decide) fetchable.inRam fetchable.noClint

theorem Fetchable.firstWord (fetchable : Fetchable s found mem) :
    StreamWord s s.pc (LittleEndian.load s.memory.memory found.paddr 4) :=
  ⟨found, mem, fetchable.translated, fetchable.noFault, fetchable.inRam, rfl⟩

/-- A core with one fetched word. -/
def withOne (s : CPUCore) (found : TranslationResult) (mem : MemorySystem) : CPUCore :=
  { s with memory := polled mem }.fillOne (LittleEndian.load s.memory.memory found.paddr 4)

/-- A core with two fetched words. -/
def withPair (s : CPUCore) (found : TranslationResult) (mem : MemorySystem) : CPUCore :=
  { s with
    memory := mem
    ifId := {
      slots := ⟨fillSlot s.ifId.slots.s0 (LittleEndian.load s.memory.memory found.paddr 4),
        fillSlot s.ifId.slots.s1 (LittleEndian.load s.memory.memory (found.paddr + 4) 4)⟩
      pc := s.pc }
    pc := s.pc + 8 }

theorem fetch_eq (fetchable : Fetchable s found mem) : s.fetch =
    .ok (if s.pc + 8 <= MEMORY_SIZE then if crossesPage found.paddr then withOne s found mem else withPair s found mem
      else if s.pc + 4 <= MEMORY_SIZE then if s.running then withOne s found mem else { s with memory := polled mem }
      else s) := by
  unfold fetch
  rw [if_neg (ne_true_of_eq_false fetchable.empty0), if_neg (ne_true_of_eq_false fetchable.empty1)]
  by_cases room : s.pc + 8 <= MEMORY_SIZE
  · rw [if_pos room, if_pos room]
    unfold fetchPair
    simp only [fetchable.translated, bind, Except.bind, fetchable.noFault, Bool.false_eq_true, if_false]
    cases crosses : crossesPage found.paddr with
    | true =>
        simp only [if_true, fetchable.read]
        rfl
    | false =>
        have offset := (crossesPage_false_iff found.paddr).mp crosses
        have inRam := fetchable.inRam
        have size : MEMORY_SIZE.toNat = 0x08000000 := rfl
        have whole : found.paddr.toNat + 8 <= MEMORY_SIZE.toNat := by omega
        have notPast := (inRam_notUart (by decide) whole).2.2
        have double := @readDoubleInstr_inRam mem found.paddr whole
        have fits : found.paddr + 8 <= MEMORY_SIZE := BitVec.not_lt.mp notPast
        rcases load_double s.memory.memory found.paddr with ⟨low, high⟩
        simp only [Bool.false_eq_true, if_false, if_pos fits, double, fetchable.sameRam, low, high]
        rfl
  · rw [if_neg room, if_neg room]
    by_cases single : s.pc + 4 <= MEMORY_SIZE
    · rw [if_pos single, if_pos single]
      unfold fetchSingle fetchInstr
      simp only [fetchable.translated, bind, Except.bind, fetchable.noFault, Bool.false_eq_true, if_false,
        fetchable.read, pure, Except.pure]
      cases running : s.running with
      | true =>
          rw [if_neg (by decide), if_pos rfl, withOne, running]
      | false =>
          rw [if_pos (by decide), if_neg Bool.false_ne_true]
    · rw [if_neg single, if_neg single]

theorem withOne_delivers (fetchable : Fetchable s found mem) : DeliversStream s (withOne s found mem) where
  filled := rfl
  first := fetchable.firstWord
  second := fun valid => absurd valid (ne_true_of_eq_false fetchable.empty1)
  latched := rfl
  advanced := by
    have one : span (withOne s found mem).ifId.slots = 4 := by
      change (4 : Addr) + (if s.ifId.slots.s1.valid then 4 else 0) = 4
      rw [fetchable.empty1]
      rfl
    rw [one]
    rfl

theorem withPair_delivers_iff (fetchable : Fetchable s found mem) (samePage : crossesPage found.paddr = false) :
    DeliversStream s (withPair s found mem) ↔ (FromTlb s -> PairRepeats s found) := by
  have second : DeliversStream s (withPair s found mem) ↔
      StreamWord s (s.pc + 4) (LittleEndian.load s.memory.memory (found.paddr + 4) 4) := by
    constructor
    · intro delivers
      exact delivers.second rfl
    · intro word
      exact ⟨rfl, fetchable.firstWord, fun _ => word, rfl, rfl⟩
  rw [second]
  constructor
  · rintro ⟨next, mem', translated, noFault, inRam, word⟩ fromTlb
    refine ⟨fun page => ?_, fun _ => ⟨next, mem', translated, noFault, inRam, word⟩⟩
    have same := translateFetch_fromTlb fetchable.translated fromTlb page
    cases same.symm.trans translated
    exact word
  · intro repeats
    by_cases fromTlb : FromTlb s
    · by_cases page : vpnOf (s.pc + 4) = vpnOf s.pc
      · have same := translateFetch_fromTlb fetchable.translated fromTlb page
        exact ⟨found, mem, same, fetchable.noFault, fetchable.inRam, (repeats fromTlb).samePage page⟩
      · exact (repeats fromTlb).nextPage page
    · rcases translateFetch_next fetchable.translated fetchable.noFault fromTlb samePage with
        ⟨next, mem', translated, noFault, paddr⟩
      have offset := (crossesPage_false_iff found.paddr).mp samePage
      have inRam := fetchable.inRam
      have size : MEMORY_SIZE.toNat = 0x08000000 := rfl
      have inRamNext : next.paddr.toNat + 4 <= MEMORY_SIZE.toNat := by
        rw [paddr, BitVec.toNat_add]
        change (found.paddr.toNat + 4) % 2 ^ 32 + 4 <= _
        omega
      exact ⟨next, mem', translated, noFault, inRamNext, by rw [paddr]⟩

/-- Fetch delivers the translated stream exactly if the virtual pc is not
beyond the bounds of RAM and a pair that the TLB located is one of those that
do not show it. -/
theorem virtual_fetch_iff (fetchable : Fetchable s found mem) :
    (Exists fun t => s.fetch = .ok t ∧ DeliversStream s t) ↔
      PassesBounds s ∧ (FromTlb s -> s.pc + 8 <= MEMORY_SIZE -> crossesPage found.paddr = false ->
        PairRepeats s found) := by
  rw [fetch_eq fetchable]
  have only : forall t : CPUCore, (Exists fun t' => (Except.ok t : Except Crash CPUCore) = .ok t' ∧
      DeliversStream s t') ↔ DeliversStream s t := by
    intro t
    constructor
    · rintro ⟨t', same, delivers⟩
      cases same
      exact delivers
    · intro delivers
      exact ⟨t, rfl, delivers⟩
  rw [only]
  have nothing : forall t : CPUCore, t.ifId = s.ifId -> ¬DeliversStream s t := by
    intro t same delivers
    have filled := delivers.filled
    rw [same] at filled
    exact ne_true_of_eq_false fetchable.empty0 filled
  by_cases room : s.pc + 8 <= MEMORY_SIZE
  · rw [if_pos room]
    cases crosses : crossesPage found.paddr with
    | true =>
        rw [if_pos rfl]
        exact ⟨fun _ => ⟨.inl room, fun _ _ single => absurd single (by decide)⟩, fun _ => withOne_delivers fetchable⟩
    | false =>
        rw [if_neg Bool.false_ne_true, withPair_delivers_iff fetchable crosses]
        exact ⟨fun repeats => ⟨.inl room, fun fromTlb _ _ => repeats fromTlb⟩,
          fun both fromTlb => both.2 fromTlb room rfl⟩
  · rw [if_neg room]
    by_cases single : s.pc + 4 <= MEMORY_SIZE
    · rw [if_pos single]
      by_cases running : s.running = true
      · rw [if_pos running]
        exact ⟨fun _ => ⟨.inr ⟨single, running⟩, fun _ pair => absurd pair room⟩, fun _ => withOne_delivers fetchable⟩
      · rw [if_neg running]
        constructor
        · intro delivers
          exact absurd delivers (nothing _ rfl)
        · rintro ⟨pair | last, _⟩
          · exact absurd pair room
          · exact absurd last.2 running
    · rw [if_neg single]
      constructor
      · intro delivers
        exact absurd delivers (nothing s rfl)
      · rintro ⟨pair | last, _⟩
        · exact absurd pair room
        · exact absurd last.1 single

end Fetching

/-! ## Two runs -/

/-- Machine code that sets `satp` to the root table at 0x1000, loads `mepc`
with the given LUI and returns to S mode, and an entry that maps four megabytes
to the beginning of RAM. -/
def enterAt (loadPc : Word) (entry : Addr) : List (Addr × Word) :=
  [(0x00, 0x800000B7#32), (0x04, 0x00108093#32), (0x08, 0x18009073#32), (0x0C, loadPc), (0x10, 0x34119073#32),
    (0x14, 0x00100113#32), (0x18, 0x00B11113#32), (0x1C, 0x30011073#32), (0x20, 0x30200073#32), (entry, 0x0000000F#32)]

/-- The state in whose next tick the MRET leads to the mapped page. -/
def atEntry (loadPc : Word) (entry : Addr) : Except Crash CPUCore :=
  iterate tick 9 (init .default128MB (ramImage (enterAt loadPc entry)) {})

theorem exists_of_atEntry {loadPc : Word} {entry : Addr} {test : CPUCore -> Bool}
    (passed : passes (atEntry loadPc entry) (fun s => passes s.atFetch (fun x =>
      !x.ifId.slots.s0.valid && !x.ifId.slots.s1.valid &&
        passes (x.translateFetch x.pc) (fun out => !out.1.fault && decide (out.1.paddr = 0)) && test x)) = true) :
    Exists fun s => Exists fun x => Exists fun found => Exists fun mem => Reachable s ∧ s.atFetch = .ok x ∧
      Fetchable x found mem ∧ test x = true := by
  rcases exists_of_passes passed with ⟨s, run, tests⟩
  rcases exists_of_passes tests with ⟨x, reached, tests⟩
  simp only [Bool.and_eq_true, Bool.not_eq_true'] at tests
  rcases tests with ⟨⟨⟨empty0, empty1⟩, translating⟩, test⟩
  rcases exists_of_passes translating with ⟨⟨found, mem⟩, translated, atZero⟩
  simp only [Bool.and_eq_true, Bool.not_eq_true', decide_eq_true_eq] at atZero
  have inRam : found.paddr.toNat + 4 <= MEMORY_SIZE.toNat := by
    rw [atZero.2]
    decide
  have noClint : inClint found.paddr = false := by
    rw [atZero.2]
    decide
  exact ⟨s, x, found, mem, ⟨_, _, _, 9, run⟩, reached, ⟨empty0, empty1, translated, atZero.1, inRam, noClint⟩, test⟩

/-- A page at 0x00400000. -/
theorem virtual_fetch_iff_low : Exists fun s => Exists fun x => Exists fun t => Reachable s ∧ s.atFetch = .ok x ∧
    x.pc = 0x00400000#32 ∧ x.fetch = .ok t ∧ DeliversStream x t := by
  have passed : passes (atEntry 0x004001B7#32 0x1004#32) (fun s => passes s.atFetch (fun x =>
      !x.ifId.slots.s0.valid && !x.ifId.slots.s1.valid &&
        passes (x.translateFetch x.pc) (fun out => !out.1.fault && decide (out.1.paddr = 0)) &&
        (decide (x.pc = 0x00400000#32) && !(mmuOf x).servedByTlb x.pc false true x.regFile.privilege))) = true := by
    decide +kernel
  rcases exists_of_atEntry passed with ⟨s, x, found, mem, reachable, reached, fetchable, test⟩
  simp only [Bool.and_eq_true, decide_eq_true_eq, Bool.not_eq_true'] at test
  have bounds : PassesBounds x := .inl (by rw [test.1]; decide)
  rcases (virtual_fetch_iff fetchable).mpr ⟨bounds, fun fromTlb => absurd fromTlb (ne_true_of_eq_false test.2)⟩ with
    ⟨t, fetched, delivers⟩
  exact ⟨s, x, t, reachable, reached, test.1, fetched, delivers⟩

/-- A page at 0x10000000, above the size of RAM: nothing is ever fetched. -/
theorem high_page_not_fetched : Exists fun s => Exists fun x => Exists fun found => Exists fun mem =>
    Reachable s ∧ s.atFetch = .ok x ∧ Fetchable x found mem ∧ x.pc = 0x10000000#32 ∧ x.fetch = .ok x ∧
      ¬Exists fun t => x.fetch = .ok t ∧ DeliversStream x t := by
  have passed : passes (atEntry 0x100001B7#32 0x1100#32) (fun s => passes s.atFetch (fun x =>
      !x.ifId.slots.s0.valid && !x.ifId.slots.s1.valid &&
        passes (x.translateFetch x.pc) (fun out => !out.1.fault && decide (out.1.paddr = 0)) &&
        decide (x.pc = 0x10000000#32))) = true := by
    decide +kernel
  rcases exists_of_atEntry passed with ⟨s, x, found, mem, reachable, reached, fetchable, test⟩
  have pc : x.pc = 0x10000000#32 := of_decide_eq_true test
  have nothing : x.fetch = .ok x := by
    rw [fetch_eq fetchable, pc]
    rfl
  refine ⟨s, x, found, mem, reachable, reached, fetchable, pc, nothing, ?_⟩
  rintro ⟨t, fetched, delivers⟩
  cases nothing.symm.trans fetched
  exact ne_true_of_eq_false fetchable.empty0 delivers.filled

end Refinement
end SimpleRV
