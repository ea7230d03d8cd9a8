import SimpleRV.Refinement.SlotAddresses
import SimpleRV.Refinement.VirtualFetch
import SimpleRV.Translation.FenceOrder
import SimpleRV.Translation.PhysicalBounds
import SimpleRV.Translation.Transparency

namespace SimpleRV
namespace Translation

open IssueUnit CPUCore MemorySystem Pipeline Memory Iteration RoundRobin

/-!
# What translated code can write

Code below M mode accesses memory through the page tables and the TLB.  A set
of page frames that holds all targets of writable mappings, but none of the
tables, is closed: the writes stay inside it, so that the tables stay as they
are, and every entry that comes into the TLB leads into it again.

A hit takes the low bits of its address from the page number.  So the four
bytes from there on can reach into the frame behind, and the closed set has to
hold this one too.
-/

/-- The page frame of a physical address. -/
def frameOf (paddr : Addr) : Word := paddr >>> 12

/-- The physical address that a hit delivers. -/
def hitAddress (vpn ppn : Word) : Addr := (ppn <<< 12) ||| (vpn &&& 0xFFF#32)

/-- The `n` bytes from the address on lie in these frames. -/
def LiesInside (inside : Word -> Prop) (paddr : Addr) (n : Nat) : Prop :=
  forall k, k < n -> inside (frameOf (paddr + BitVec.ofNat 32 k))

/-- The bytes of an access that can lie in two frames: loads and stores are
aligned, fetches need not be. -/
def fetchSpan : AccessKind -> Nat
  | .fetch => 4
  | _ => 1

/-- Accesses of these kinds through the entry, if it lets any through, stay in
the frames. -/
def LeadsInside (inside : Word -> Prop) (kinds : AccessKind -> Prop) (entry : TLBEntry) : Prop :=
  entry.valid = true -> forall kind, kinds kind -> denies entry kind.isWrite kind.isFetch = false ->
    LiesInside inside (hitAddress entry.vpn entry.ppn) 4

/-- The frames are closed under the accesses of these kinds at this level. -/
structure Closed (inside : Word -> Prop) (kinds : AccessKind -> Prop) (satp : Word) (level : Byte)
    (mem : MemorySystem) : Prop where
  cached : forall i, LeadsInside inside kinds (mem.tlb i)
  mapped : forall vaddr leaf kind, kinds kind -> walkLeaf mem.memory satp vaddr = .ok (some leaf) ->
    grants leaf kind.isWrite kind.isFetch level = true ->
      LiesInside inside (leaf.paddr vaddr) (fetchSpan kind) ∧
        LiesInside inside (hitAddress (vpnOf vaddr) leaf.pte.ppn) 4

/-- The tables lie in these frames: walks depend on no other memory. -/
def TablesIn (frames : Word -> Prop) (satp : Word) (mem : MemorySystem) : Prop :=
  forall ram : Addr -> Byte, (forall addr, frames (frameOf addr) -> ram addr = mem.memory addr) ->
    forall vaddr, walkLeaf ram satp vaddr = walkLeaf mem.memory satp vaddr

/-- Outside of the frames memory and devices are as before. -/
structure Untouched (owned : Word -> Prop) (before after : MemorySystem) : Prop where
  ram : forall addr, ¬owned (frameOf addr) -> after.memory addr = before.memory addr
  timer : ¬owned (frameOf CLINT_MTIMECMP) -> after.mtimecmp = before.mtimecmp
  console : ¬owned (frameOf UART_TX_ADDR) -> after.uartOutput = before.uartOutput

section Memory

variable {owned inside : Word -> Prop} {kinds : AccessKind -> Prop} {satp : Word} {level : Byte}
  {before mid after : MemorySystem}

theorem SameStorage.untouched (same : SameStorage before after) : Untouched owned before after where
  ram _ _ := congrFun same.memory _
  timer _ := same.mtimecmp
  console _ := same.uartOutput

theorem Untouched.trans (first : Untouched owned before mid) (second : Untouched owned mid after) :
    Untouched owned before after where
  ram addr outside := (second.ram addr outside).trans (first.ram addr outside)
  timer outside := (second.timer outside).trans (first.timer outside)
  console outside := (second.console outside).trans (first.console outside)

/-- Where the walks stay as they are, the frames stay closed, if the TLB holds
what it held or less. -/
theorem Closed.keep (closed : Closed inside kinds satp level before)
    (walks : forall vaddr, walkLeaf after.memory satp vaddr = walkLeaf before.memory satp vaddr)
    (tlb : forall i, (after.tlb i).valid = true -> after.tlb i = before.tlb i) :
    Closed inside kinds satp level after where
  cached i valid := by
    have same := tlb i valid
    rw [same] at valid ⊢
    exact closed.cached i valid
  mapped vaddr leaf kind among walked := by
    rw [walks] at walked
    exact closed.mapped vaddr leaf kind among walked

theorem TablesIn.keep {frames : Word -> Prop} (tables : TablesIn frames satp before)
    (same : forall addr, frames (frameOf addr) -> after.memory addr = before.memory addr) :
    TablesIn frames satp after := by
  intro ram agrees vaddr
  have sameThere (addr : Addr) (here : frames (frameOf addr)) : ram addr = before.memory addr :=
    (agrees addr here).trans (same addr here)
  rw [tables ram sameThere, tables after.memory same]

/-! ## Translation -/

/-- Nothing has changed outside, and what was closed is still closed. -/
structure Contained (owned : Word -> Prop) (satp : Word) (level : Byte) (before after : MemorySystem) : Prop where
  untouched : Untouched owned before after
  closes : forall inside kinds, Closed inside kinds satp level before -> Closed inside kinds satp level after

theorem Contained.refl (mem : MemorySystem) : Contained owned satp level mem mem where
  untouched := SameStorage.untouched (.refl mem)
  closes _ _ closed := closed

theorem Contained.trans (first : Contained owned satp level before mid)
    (second : Contained owned satp level mid after) : Contained owned satp level before after where
  untouched := first.untouched.trans second.untouched
  closes inside kinds closed := second.closes inside kinds (first.closes inside kinds closed)

theorem SameStorage.contained (same : SameStorage before after)
    (tlb : forall i, (after.tlb i).valid = true -> after.tlb i = before.tlb i) :
    Contained owned satp level before after where
  untouched := SameStorage.untouched same
  closes _ _ closed := closed.keep (fun _ => by rw [same.memory]) tlb

end Memory

/-! ## A tick -/

section Tick

variable {owned : Word -> Prop} {s t : CPUCore}

end Tick

end Translation
end SimpleRV
