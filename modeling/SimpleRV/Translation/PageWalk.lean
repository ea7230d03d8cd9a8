import Mathlib.Tactic.IntervalCases
import SimpleRV.Library.Iteration
import SimpleRV.Machine.MemorySystem

namespace SimpleRV
namespace Translation

open MemorySystem

/-!
# The leaf behind an address

`translate` mixes three things: finding the leaf PTE of an address, checking
the access against it, and caching it.  Here the first is separated as a
function of RAM, `satp` and the virtual page number.  It says what a TLB entry
stands for, and it is the reference that cached translations are held against.
-/

/-- A leaf of the page table, and whether it maps four megabytes. -/
structure Leaf where
  pte : PTE
  mega : Bool

namespace Leaf

/-- The bits of the virtual address that are not translated. -/
def offsetMask (leaf : Leaf) : Word := if leaf.mega then 0x003FFFFF#32 else 0xFFF#32

/-- The physical address that the walk delivers. -/
def paddr (leaf : Leaf) (vaddr : Addr) : Addr :=
  (leaf.pte.ppn <<< 12) ||| (vaddr &&& leaf.offsetMask)

end Leaf

/-- The walk down to a leaf, with no check of the access.  `none` is a walk
that ends in a page fault of its own. -/
def walkLeaf (ram : Addr -> Byte) (satp : Word) (vaddr : Addr) : Except Crash (Option Leaf) := do
  let mem : MemorySystem := { memory := ram }
  let pte1Addr := ((satp &&& 0x003FFFFF#32) <<< 12) + ((vaddr >>> 22) &&& 0x3FF#32) * 4
  if pte1Addr + 4 > MEMORY_SIZE then return none
  let pte1 := PTE.mk (← mem.loadBytes pte1Addr 4)
  if !pte1.v then return none
  if pte1.r || pte1.x then return some ⟨pte1, true⟩
  let pte0Addr := (pte1.ppn <<< 12) + ((vaddr >>> 12) &&& 0x3FF#32) * 4
  if pte0Addr + 4 > MEMORY_SIZE then return none
  let pte0 := PTE.mk (← mem.loadBytes pte0Addr 4)
  if !pte0.v then return none
  return some ⟨pte0, false⟩

/-- The virtual page number, the tag of a TLB entry. -/
def vpnOf (vaddr : Addr) : Word := vaddr >>> 12

/-- The two index fields glued together are the page number. -/
theorem vpnFull_eq (vaddr : Addr) :
    (((vaddr >>> 22) &&& 0x3FF#32) <<< 10) ||| ((vaddr >>> 12) &&& 0x3FF#32) = vpnOf vaddr := by
  apply BitVec.eq_of_getLsbD_eq
  intro i below
  interval_cases i <;> simp [vpnOf]

/-- Addresses of one virtual page have one leaf. -/
theorem walkLeaf_congr {ram : Addr -> Byte} {satp : Word} {left right : Addr}
    (samePage : vpnOf left = vpnOf right) : walkLeaf ram satp left = walkLeaf ram satp right := by
  have upper : left >>> 22 = right >>> 22 := by
    have split : forall vaddr : Addr, vaddr >>> 22 = vpnOf vaddr >>> 10 :=
      fun vaddr => BitVec.shiftRight_add vaddr 12 10
    rw [split, split, samePage]
  have lower : left >>> 12 = right >>> 12 := samePage
  unfold walkLeaf
  rw [upper, lower]

/-- The walk of `translate` finds the leaf and then finishes there. -/
theorem walk_eq (mem : MemorySystem) (result : TranslationResult) (vaddr : Addr)
    (isWrite isFetch : Bool) (satp : Word) (privilege : Byte) :
    mem.walk result vaddr isWrite isFetch satp privilege =
      (walkLeaf mem.memory satp vaddr).map (fun found =>
        match found with
        | none => ({ result with fault := true, cause := pageFaultCause isWrite isFetch }, mem)
        | some leaf => mem.finishWalk result leaf.pte (vpnOf vaddr) (leaf.paddr vaddr) isWrite isFetch
            privilege) := by
  unfold walk walkLeaf
  simp only [vpnFull_eq]
  change _ = Except.map _ (if _ then _ else (mem.loadBytes _ 4 >>= _))
  by_cases outside1 : ((satp &&& 0x003FFFFF#32) <<< 12) + ((vaddr >>> 22) &&& 0x3FF#32) * 4 + 4 > MEMORY_SIZE
  · rw [if_pos outside1, if_pos outside1]
    rfl
  rw [if_neg outside1, if_neg outside1]
  cases mem.loadBytes (((satp &&& 0x003FFFFF#32) <<< 12) + ((vaddr >>> 22) &&& 0x3FF#32) * 4) 4 with
  | error failure => rfl
  | ok raw1 =>
      change (if _ then _ else if _ then _ else if _ then _ else (mem.loadBytes _ 4 >>= _)) =
        Except.map _ (if _ then _ else if _ then _ else if _ then _ else (mem.loadBytes _ 4 >>= _))
      by_cases invalid1 : (!(PTE.mk raw1).v) = true
      · rw [if_pos invalid1, if_pos invalid1]
        rfl
      rw [if_neg invalid1, if_neg invalid1]
      by_cases leaf1 : ((PTE.mk raw1).r || (PTE.mk raw1).x) = true
      · rw [if_pos leaf1, if_pos leaf1]
        rfl
      rw [if_neg leaf1, if_neg leaf1]
      by_cases outside0 : ((PTE.mk raw1).ppn <<< 12) + ((vaddr >>> 12) &&& 0x3FF#32) * 4 + 4 > MEMORY_SIZE
      · rw [if_pos outside0, if_pos outside0]
        rfl
      rw [if_neg outside0, if_neg outside0]
      cases mem.loadBytes (((PTE.mk raw1).ppn <<< 12) + ((vaddr >>> 12) &&& 0x3FF#32) * 4) 4 with
      | error failure => rfl
      | ok raw0 =>
          change (if _ then _ else _) = Except.map _ (if _ then _ else _)
          by_cases invalid0 : (!(PTE.mk raw0).v) = true
          · rw [if_pos invalid0, if_pos invalid0]
            rfl
          · rw [if_neg invalid0, if_neg invalid0]
            rfl

end Translation
end SimpleRV
