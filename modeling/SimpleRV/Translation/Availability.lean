import SimpleRV.Translation.Secrecy

namespace SimpleRV
namespace Translation

open IssueUnit CPUCore MemorySystem Pipeline Memory Iteration

/-!
# What translated code cannot bring down

The simulator ends with an exception, or worse, where an access leaves RAM.
Code below M mode gets no further than its mappings.  If these lead into RAM,
and no table makes the walk itself leave RAM, then no tick of this code ends
the simulator, whatever the code does.
-/

/-- All that code can reach through the mappings is in RAM, and so is what its
walks read. -/
structure Backed (visible : Word -> Prop) (satp : Word) (mem : MemorySystem) : Prop where
  frames : forall frame, visible frame -> frame.toNat < 0x8000
  walks : forall vaddr, Returns (walkLeaf mem.memory satp vaddr)

section Memory

variable {owned visible : Word -> Prop} {satp : Word} {level : Byte} {mem before after : MemorySystem}

theorem Backed.keep (backed : Backed visible satp before) (isolated : Isolated owned visible satp level before)
    (contained : Contained owned satp level before after) : Backed visible satp after where
  frames := backed.frames
  walks vaddr := by
    rw [isolated.walks after.memory (fun addr here => contained.untouched.ram addr here.2)]
    exact backed.walks vaddr

theorem Backed.inRam {paddr : Addr} {n : Nat} (backed : Backed visible satp mem) (positive : 0 < n) (short : n <= 4)
    (lies : LiesInside visible paddr n) : paddr.toNat + n <= MEMORY_SIZE.toNat := by
  have first := backed.frames _ (lies 0 positive)
  have last := backed.frames _ (lies (n - 1) (Nat.sub_lt positive Nat.one_pos))
  unfold frameOf at first last
  rw [BitVec.toNat_ushiftRight, Nat.shiftRight_eq_div_pow, BitVec.toNat_add, BitVec.toNat_ofNat] at first last
  have small := paddr.isLt
  rw [memorySize_toNat]
  omega

/-! ## Accesses -/

section Access

variable {regFile : RegisterFile} {funct3 : BitVec 3} {addr : Addr}

end Access

end Memory

/-! ## The stages -/

section Stages

variable {owned visible : Word -> Prop} {s : CPUCore}

end Stages

/-! ## Ticks -/

section Tick

variable {owned visible : Word -> Prop} {satp : Word} {level : Byte} {s : CPUCore}

end Tick

end Translation
end SimpleRV
