import SimpleRV.Pipeline.AccessAddress
import SimpleRV.Traps.InterruptedAccess
import SimpleRV.Translation.UniqueEntries

namespace SimpleRV
namespace Translation

open IssueUnit MemorySystem CPUCore Pipeline Memory Iteration

/-!
# SFENCE.VMA and the stores before it

The flush is made in EX and a store in MEM, so the store of the slot beside an
SFENCE comes a tick after the flush.  Two translations lie between them: the
fetch of the same tick, and that of the store itself.  Unless the store changes
the mapping of their pages, the TLB holds the tables as they are after all
older stores, until a younger store changes them.  A trap of that fetch even
takes the store out of EX/MEM.
-/

/-! ## Page tables that change -/

/-- A leaf of the page stays a leaf, with its PPN and permissions. -/
def KeepsLeaf (satp : Word) (before after : Addr -> Byte) (page : Word) : Prop :=
  forall vaddr leaf, vpnOf vaddr = page -> walkLeaf before satp vaddr = .ok (some leaf) ->
    Exists fun leaf' => walkLeaf after satp vaddr = .ok (some leaf') ∧ leaf'.pte.ppn = leaf.pte.ppn ∧
      leaf'.pte.flags = leaf.pte.flags

/-- No leaf changes.  New leaves may appear. -/
def TablesKept (satp : Word) (before after : Addr -> Byte) : Prop := forall page, KeepsLeaf satp before after page

/-- What a translation takes from a leaf. -/
def Leaf.mapping (leaf : Leaf) : Word × Byte × Bool × Bool := (leaf.pte.ppn, leaf.pte.flags, leaf.pte.u, leaf.mega)

/-- The page is mapped alike, or alike unmapped. -/
def SameMapping (satp : Word) (before after : Addr -> Byte) (page : Word) : Prop :=
  forall vaddr, vpnOf vaddr = page -> (walkLeaf after satp vaddr).map (Option.map Leaf.mapping) =
    (walkLeaf before satp vaddr).map (Option.map Leaf.mapping)

theorem SameMapping.refl (satp : Word) (ram : Addr -> Byte) (page : Word) : SameMapping satp ram ram page :=
  fun _ _ => rfl

theorem TablesKept.refl (satp : Word) (ram : Addr -> Byte) : TablesKept satp ram ram :=
  fun _ _ leaf _ walked => ⟨leaf, walked, rfl, rfl⟩

/-- An entry stays right as long as its leaf does. -/
theorem EntryCoherent.keep {satp : Word} {before after : Addr -> Byte} {entry : TLBEntry}
    (coherent : EntryCoherent before satp entry) (kept : KeepsLeaf satp before after entry.vpn) :
    EntryCoherent after satp entry := by
  intro valid vaddr here
  rcases coherent valid vaddr here with ⟨leaf, walked, ppn, flags⟩
  rcases kept vaddr leaf here walked with ⟨leaf', walkedAfter, samePpn, sameFlags⟩
  exact ⟨leaf', walkedAfter, ppn.trans samePpn.symm, flags.trans sameFlags.symm⟩

/-! ## What fills the TLB -/

/-- If the entry is valid, it is the translation of one of these pages by these
tables. -/
def CachedFrom (satp : Word) (ram : Addr -> Byte) (pages : Word -> Prop) (entry : TLBEntry) : Prop :=
  entry.valid = true -> pages entry.vpn ∧ EntryCoherent ram satp entry

/-- The TLB holds nothing else. -/
def TlbFrom (satp : Word) (ram : Addr -> Byte) (pages : Word -> Prop) (tlb : Fin TLB_SIZE -> TLBEntry) : Prop :=
  forall i, CachedFrom satp ram pages (tlb i)

theorem TlbFrom.coherent {satp : Word} {before after : Addr -> Byte} {pages : Word -> Prop}
    {tlb : Fin TLB_SIZE -> TLBEntry} (cached : TlbFrom satp before pages tlb)
    (kept : forall page, pages page -> KeepsLeaf satp before after page) (i : Fin TLB_SIZE) :
    EntryCoherent after satp (tlb i) := by
  intro valid
  rcases cached i valid with ⟨page, coherent⟩
  exact coherent.keep (kept _ page) valid

theorem TlbFrom.mono {satp : Word} {ram : Addr -> Byte} {pages wider : Word -> Prop} {tlb : Fin TLB_SIZE -> TLBEntry}
    (cached : TlbFrom satp ram pages tlb) (within : forall page, pages page -> wider page) :
    TlbFrom satp ram wider tlb := by
  intro i valid
  rcases cached i valid with ⟨page, coherent⟩
  exact ⟨within _ page, coherent⟩

section Access

variable {mem after : MemorySystem} {regFile : RegisterFile} {funct3 : BitVec 3} {addr : Addr}
  {pages : Word -> Prop}

end Access

/-! ## The memory stage -/

/-- The lane has an access to make. -/
def Accesses (exMem : ExMemBuffer) (lane : Fin 2) : Prop :=
  (exMem.slots.get lane).valid = true ∧ (exMem.memRead.get lane = true ∨ exMem.memWrite.get lane = true)

theorem idle_of_not_accesses {exMem : ExMemBuffer} {lane : Fin 2} (none : ¬Accesses exMem lane) :
    Idle exMem lane := by
  intro valid
  constructor
  · exact Bool.eq_false_iff.mpr (fun reads => none ⟨valid, .inl reads⟩)
  · exact Bool.eq_false_iff.mpr (fun writes => none ⟨valid, .inr writes⟩)

theorem laneOutcome_memory {s : CPUCore} {lane : Fin 2} {out : CPUCore × Bool}
    (outcome : LaneOutcome s lane out) (idle : Idle s.exMem lane) : out.1.memory = s.memory := by
  have access : (s.exMem.slots.get lane).valid = true ->
      laneAccess s lane = .ok (.done (s.exMem.slots.get lane).result, s.memory) := by
    intro valid
    rcases idle valid with ⟨notRead, notWrite⟩
    unfold laneAccess
    simp only [notRead, notWrite, Bool.false_eq_true, if_false]
  cases outcome with
  | empty invalid => rfl
  | finished value mem valid done =>
      cases (access valid).symm.trans done
      rfl
  | trapped cause mem valid trap => cases (access valid).symm.trans trap

/-- With no access in the lanes before this one, nothing is done before it. -/
theorem olderAccesses_memory {s older : CPUCore} {lane : Fin 2} (pair : EnginePair s.exMem)
    (done : olderAccesses s lane = .ok older) (none : lane = 1 -> ¬Accesses s.exMem 0) :
    older.memory = s.memory := by
  unfold olderAccesses at done
  split at done
  · rcases map_eq_ok.mp done with ⟨⟨mid, trapped⟩, first, midEq⟩
    subst midEq
    have outcome := @memoryAccessLane_outcome { s with memWb := {} } 0 _ pair.oneAccess first
    exact @laneOutcome_memory { s with memWb := {} } 0 _ outcome (idle_of_not_accesses (none ‹_›))
  · cases done
    rfl

/-! ## The other stages -/

/-- In the tick from `s` to `t`, which is at `x` behind the memory stage, this
lane executes an SFENCE. -/
structure FenceTick (s x t : CPUCore) (lane : Fin 2) : Prop where
  running : s.running = true
  executes : s.atExecute = .ok x
  valid : (x.idEx.slots.get lane).valid = true
  sfence : (decode (x.idEx.slots.get lane).instr).isSfence = true
  ends : s.tick = .ok t

/-- The core with the accesses before the SFENCE made: as they stand in EX/MEM
behind the execute stage, or as the next tick makes them.  The two differ when
the fetch in between traps, which empties EX/MEM, or when an interrupt comes. -/
inductive OlderStores (x t : CPUCore) (lane : Fin 2) (older : CPUCore) : Prop where
  | ordered (done : olderAccesses { x.execute with memory := t.memory } lane = .ok older)
  | made (done : olderAccesses t.atMemoryAccess lane = .ok older)

theorem KeepsLeaf.trans {satp : Word} {first second third : Addr -> Byte} {page : Word}
    (left : KeepsLeaf satp first second page) (right : KeepsLeaf satp second third page) :
    KeepsLeaf satp first third page := by
  intro vaddr leaf here walked
  rcases left vaddr leaf here walked with ⟨leaf', walked', ppn, flags⟩
  rcases right vaddr leaf' here walked' with ⟨leaf'', walked'', ppn', flags'⟩
  exact ⟨leaf'', walked'', ppn'.trans ppn, flags'.trans flags⟩

section Fence

variable {s x t older : CPUCore} {lane : Fin 2}

theorem FenceTick.fetches (fence : FenceTick s x t lane) : x.execute.decodeAndIssue.fetch = .ok t := by
  rw [← tick_of_atExecute fence.running fence.executes]
  exact fence.ends

/-- With no access in the slot before the SFENCE, nothing is stored before it. -/
theorem OlderStores.unchanged (stores : OlderStores x t lane older) (executed : EnginePair x.execute.exMem)
    (formed : WellFormed t) (later : forall other, Accesses t.exMem other -> Accesses x.execute.exMem other)
    (none : lane = 1 -> ¬Accesses x.execute.exMem 0) : older.memory.memory = t.memory.memory := by
  cases stores with
  | ordered done =>
      have same := @olderAccesses_memory { x.execute with memory := t.memory } older lane executed done none
      rw [same]
  | made done =>
      have latch := (atMemoryAccess_backEnd t).1
      have pair := (atMemoryAccess_wellFormed formed).executedPair.toEnginePair
      have same := olderAccesses_memory pair done (fun one accesses => none one (later 0 (latch ▸ accesses)))
      rw [same, atMemoryAccess_memory t]
      rfl

end Fence

/-! ## Two runs -/

/-- Machine code that sets `satp` to the root table at 0x1000, whose entry maps
four megabytes to themselves for all accesses, and returns to S mode at 0x8000
with the address of that entry and a read-only entry in registers. -/
def enterSupervisor (code : List (Addr × Word)) : List (Addr × Word) :=
  [(0x00, 0x800000B7#32), (0x04, 0x00108093#32), (0x08, 0x00000013#32), (0x0C, 0x00000013#32), (0x10, 0x18009073#32),
    (0x14, 0x000081B7#32), (0x18, 0x34119073#32), (0x1C, 0x00100113#32), (0x20, 0x00B11113#32), (0x24, 0x30011073#32),
    (0x28, 0x000012B7#32), (0x2C, 0x00B00313#32), (0x30, 0x30200073#32), (0x1000, 0x0000000F#32)] ++ code

end Translation
end SimpleRV
