import SimpleRV.Translation.Confinement

namespace SimpleRV
namespace Translation

open IssueUnit CPUCore MemorySystem Pipeline Memory Iteration

/-!
# What translated code cannot see

The frames that the mappings of a level lead to, and those of the tables, are
all that code of this level depends on: with other contents of the rest of RAM
it computes the same, tick by tick.
-/

theorem TablesIn.mono {frames wider : Word -> Prop} {satp : Word} {mem : MemorySystem}
    (tables : TablesIn frames satp mem) (within : forall frame, frames frame -> wider frame) :
    TablesIn wider satp mem :=
  fun ram agrees => tables ram (fun addr here => agrees addr (within _ here))

/-- It writes to some of them only, and the tables are among the others. -/
structure Isolated (owned visible : Word -> Prop) (satp : Word) (level : Byte) (mem : MemorySystem) : Prop where
  writes : Closed owned (fun kind => kind = .store) satp level mem
  accesses : Closed visible (fun _ => True) satp level mem
  walks : TablesIn (fun frame => visible frame ∧ ¬owned frame) satp mem

section Isolated

variable {owned visible : Word -> Prop} {satp : Word} {level : Byte} {before after : MemorySystem}

theorem Isolated.keep (isolated : Isolated owned visible satp level before)
    (contained : Contained owned satp level before after) : Isolated owned visible satp level after where
  writes := contained.closes _ _ isolated.writes
  accesses := contained.closes _ _ isolated.accesses
  walks := isolated.walks.keep (fun addr here => contained.untouched.ram addr here.2)

end Isolated

section Mask

variable (visible : Word -> Prop) [DecidablePred visible] (hidden : Addr -> Byte)

/-- RAM with the contents of the hidden frames replaced. -/
def overlay (ram : Addr -> Byte) : Addr -> Byte :=
  fun addr => if visible (frameOf addr) then ram addr else hidden addr

/-- The memory system with such a RAM. -/
def mask (mem : MemorySystem) : MemorySystem := { mem with memory := overlay visible hidden mem.memory }

def maskCore (s : CPUCore) : CPUCore := { s with memory := mask visible hidden s.memory }

variable {visible hidden}

section Access

variable {mem : MemorySystem} {regFile : RegisterFile} {funct3 : BitVec 3} {addr : Addr}

end Access

/-! ## The memory stage -/

section Stage

variable {s : CPUCore}

variable (s)

variable {s}

end Stage

/-! ## A tick -/

section Tick

variable {owned : Word -> Prop} {satp : Word} {level : Byte} {s t e : CPUCore}

end Tick

end Mask

/-! ## Runs -/

/-- The second core differs from the first in hidden frames of RAM only. -/
structure Alike (visible : Word -> Prop) (s s' : CPUCore) : Prop where
  same : s' = { s with memory := { s.memory with memory := s'.memory.memory } }
  agree : forall addr, visible (frameOf addr) -> s'.memory.memory addr = s.memory.memory addr

theorem Alike.mask {visible : Word -> Prop} [DecidablePred visible] {s s' : CPUCore} (alike : Alike visible s s') :
    s' = maskCore visible s'.memory.memory s := by
  have ram : s'.memory.memory = overlay visible s'.memory.memory s.memory.memory := by
    funext addr
    unfold overlay
    by_cases here : visible (frameOf addr)
    · rw [if_pos here]
      exact alike.agree addr here
    · rw [if_neg here]
  refine alike.same.trans ?_
  unfold maskCore Translation.mask
  rw [← ram]

end Translation
end SimpleRV
