import SimpleRV.Library.Iteration
import SimpleRV.Machine.CPUCore
import SimpleRV.Translation.PageWalk

namespace SimpleRV
namespace Pipeline

open MemorySystem CPUCore Iteration

/-!
# What accesses leave unchanged

Translation changes the TLB, reading changes the keyboard, and an access that
traps has done neither a read nor a write.
-/

/-- Same RAM, timer registers and UART output. -/
structure SameStorage (before after : MemorySystem) : Prop where
  memory : after.memory = before.memory
  mtime : after.mtime = before.mtime
  mtimecmp : after.mtimecmp = before.mtimecmp
  uartOutput : after.uartOutput = before.uartOutput

theorem SameStorage.refl (mem : MemorySystem) : SameStorage mem mem := ⟨rfl, rfl, rfl, rfl⟩

theorem SameStorage.trans {first second third : MemorySystem} (left : SameStorage first second)
    (right : SameStorage second third) : SameStorage first third :=
  ⟨right.memory.trans left.memory, right.mtime.trans left.mtime, right.mtimecmp.trans left.mtimecmp,
    right.uartOutput.trans left.uartOutput⟩

/-- Two memory systems that differ in the TLB only. -/
def OnlyTlb (before after : MemorySystem) : Prop :=
  Exists fun tlb => Exists fun index => after = { before with tlb := tlb, tlbReplaceIdx := index }

theorem OnlyTlb.refl (mem : MemorySystem) : OnlyTlb mem mem := ⟨mem.tlb, mem.tlbReplaceIdx, rfl⟩

theorem finishWalk_onlyTlb (mem : MemorySystem) (result : TranslationResult) (pte : PTE)
    (vpnFull paddr : Word) (isWrite isFetch : Bool) (privilege : Byte) :
    OnlyTlb mem (mem.finishWalk result pte vpnFull paddr isWrite isFetch privilege).2 := by
  unfold finishWalk
  split
  · exact .refl mem
  · split
    · exact .refl mem
    · exact ⟨_, _, rfl⟩

/-- Translation fills the TLB and does nothing else to memory. -/
theorem translate_onlyTlb {mem mem' : MemorySystem} {vaddr : Addr} {isWrite isFetch : Bool} {satp : Word}
    {privilege : Byte} {found : TranslationResult}
    (ran : mem.translate vaddr isWrite isFetch satp privilege = .ok (found, mem')) : OnlyTlb mem mem' := by
  unfold MemorySystem.translate at ran
  simp only at ran
  split at ran
  · cases ran
    exact .refl mem
  · split at ran
    · cases ran
      exact .refl mem
    · split at ran
      · cases ran
        exact .refl mem
      · rw [Translation.walk_eq] at ran
        rcases map_eq_ok.mp ran with ⟨leaf, _, outEq⟩
        cases leaf with
        | none =>
            cases outEq
            exact .refl mem
        | some leaf =>
            have memEq : _ = mem' := congrArg Prod.snd outEq
            rw [← memEq]
            exact finishWalk_onlyTlb mem _ leaf.pte _ _ isWrite isFetch privilege

/-- In machine mode translation is the identity. -/
theorem translate_machine (mem : MemorySystem) (vaddr : Addr) (isWrite isFetch : Bool) (satp : Word) :
    mem.translate vaddr isWrite isFetch satp PRV_M = .ok ({ paddr := vaddr }, mem) := rfl

theorem OnlyTlb.sameStorage {before after : MemorySystem} (only : OnlyTlb before after) :
    SameStorage before after := by
  rcases only with ⟨tlb, index, afterEq⟩
  subst afterEq
  exact ⟨rfl, rfl, rfl, rfl⟩

/-- Reading polls the keyboard and may consume a character. -/
theorem read_keyboard {mem mem' : MemorySystem} {addr : Addr} {n : Nat} {data : Word}
    (ran : mem.read addr n = .ok (data, mem')) : mem' = { mem with keyboard := mem'.keyboard } := by
  unfold MemorySystem.read at ran
  simp only at ran
  split at ran
  · cases ran
    rfl
  · split at ran
    · cases ran
      rfl
    · split at ran
      · split at ran
        · cases ran
          rfl
        · cases ran
          rfl
      · split at ran
        · cases ran
        · rcases map_eq_ok.mp ran with ⟨loaded, _, outEq⟩
          cases outEq
          rfl

theorem read_sameStorage {mem mem' : MemorySystem} {addr : Addr} {n : Nat} {data : Word}
    (ran : mem.read addr n = .ok (data, mem')) : SameStorage mem mem' := by
  rw [read_keyboard ran]
  exact ⟨rfl, rfl, rfl, rfl⟩

/-! ## How loads and stores end -/

section Ends

variable {mem after : MemorySystem} {regFile : RegisterFile} {funct3 : BitVec 3} {addr : Addr}

/-- A load is misaligned, faults, or reads at its physical address. -/
inductive LoadEnd (mem : MemorySystem) (regFile : RegisterFile) (funct3 : BitVec 3) (addr : Addr) :
    Access Word × MemorySystem -> Prop where
  | misaligned : LoadEnd mem regFile funct3 addr (.trap MCAUSE_LOAD_MISALIGNED, mem)
  | faulted (found : TranslationResult) (between : MemorySystem)
      (translated : mem.translate addr false false (regFile.readCsr CSR_SATP) regFile.privilege = .ok (found, between))
      (faults : found.fault = true) : LoadEnd mem regFile funct3 addr (.trap found.cause, between)
  | loaded (found : TranslationResult) (between : MemorySystem) (raw : Word) (after : MemorySystem)
      (translated : mem.translate addr false false (regFile.readCsr CSR_SATP) regFile.privilege = .ok (found, between))
      (served : found.fault = false) (readOk : between.read found.paddr (loadWidth funct3) = .ok (raw, after)) :
      LoadEnd mem regFile funct3 addr (.done (extendLoad funct3 raw), after)

theorem loadAccess_end {out : Access Word × MemorySystem} (ran : loadAccess mem regFile funct3 addr = .ok out) :
    LoadEnd mem regFile funct3 addr out := by
  unfold loadAccess at ran
  simp only at ran
  split at ran
  · cases ran
    exact .misaligned
  · rcases bind_eq_ok.mp ran with ⟨⟨found, between⟩, translated, rest⟩
    simp only at rest
    split at rest
    · cases rest
      exact .faulted found between translated ‹_›
    · rename_i served
      rcases bind_eq_ok.mp rest with ⟨⟨raw, last⟩, readOk, done⟩
      cases done
      exact .loaded found between raw last translated (Bool.eq_false_iff.mpr served) readOk

/-- A store is misaligned, faults, or writes at its physical address. -/
inductive StoreEnd (mem : MemorySystem) (regFile : RegisterFile) (funct3 : BitVec 3) (addr : Addr) (data : Word) :
    Access Unit × MemorySystem -> Prop where
  | misaligned : StoreEnd mem regFile funct3 addr data (.trap MCAUSE_STORE_MISALIGNED, mem)
  | faulted (found : TranslationResult) (between : MemorySystem)
      (translated : mem.translate addr true false (regFile.readCsr CSR_SATP) regFile.privilege = .ok (found, between))
      (faults : found.fault = true) : StoreEnd mem regFile funct3 addr data (.trap found.cause, between)
  | stored (found : TranslationResult) (between after : MemorySystem)
      (translated : mem.translate addr true false (regFile.readCsr CSR_SATP) regFile.privilege = .ok (found, between))
      (served : found.fault = false) (written : between.write found.paddr (storeWidth funct3) data = .ok after) :
      StoreEnd mem regFile funct3 addr data (.done (), after)

theorem storeAccess_end {data : Word} {out : Access Unit × MemorySystem}
    (ran : storeAccess mem regFile funct3 addr data = .ok out) : StoreEnd mem regFile funct3 addr data out := by
  unfold storeAccess at ran
  simp only at ran
  split at ran
  · cases ran
    exact .misaligned
  · rcases bind_eq_ok.mp ran with ⟨⟨found, between⟩, translated, rest⟩
    simp only at rest
    split at rest
    · cases rest
      exact .faulted found between translated ‹_›
    · rename_i served
      rcases bind_eq_ok.mp rest with ⟨last, written, done⟩
      cases done
      exact .stored found between last translated (Bool.eq_false_iff.mpr served) written

theorem loadAccess_trap {cause : Word} (ran : loadAccess mem regFile funct3 addr = .ok (.trap cause, after)) :
    OnlyTlb mem after := by
  have ends := loadAccess_end ran
  cases ends with
  | misaligned => exact .refl mem
  | faulted found between translated faults => exact translate_onlyTlb translated

theorem storeAccess_trap {data cause : Word}
    (ran : storeAccess mem regFile funct3 addr data = .ok (.trap cause, after)) : OnlyTlb mem after := by
  have ends := storeAccess_end ran
  cases ends with
  | misaligned => exact .refl mem
  | faulted found between translated faults => exact translate_onlyTlb translated

theorem loadAccess_sameStorage {result : Access Word}
    (ran : loadAccess mem regFile funct3 addr = .ok (result, after)) : SameStorage mem after := by
  have ends := loadAccess_end ran
  cases ends with
  | misaligned => exact .refl mem
  | faulted found between translated faults => exact (translate_onlyTlb translated).sameStorage
  | loaded found between raw after translated served readOk =>
      exact (translate_onlyTlb translated).sameStorage.trans (read_sameStorage readOk)

end Ends

end Pipeline
end SimpleRV
