import SimpleRV.Pipeline.Decode
import SimpleRV.Pipeline.MemoryFrames

namespace SimpleRV
namespace Pipeline

open IssueUnit CPUCore Iteration

/-!
# Decode and fetch

The ways in which the two front-end stages can end.  Decode takes one or two
words out of IF/ID, or none; fetch fills IF/ID when its first slot is free.
-/

/-- Bytes of code in the valid slots of a latch. -/
def span (slots : Dual PipelineSlot) : Addr :=
  (if slots.s0.valid then 4 else 0) + (if slots.s1.valid then 4 else 0)

/-- The address of the next instruction that decode will see. -/
def frontPc (ifId : IfIdBuffer) (pc : Addr) : Addr := if ifId.slots.s0.valid then ifId.pc else pc

/-- The instructions in a pair of slots, with their addresses. -/
def entries (pc : Addr) (slots : Dual PipelineSlot) : List (Addr × Word) :=
  (if slots.s0.valid then [(pc, slots.s0.instr)] else []) ++
    (if slots.s1.valid then [(pc + 4, slots.s1.instr)] else [])

theorem entries_of_invalid {pc : Addr} {slots : Dual PipelineSlot} (invalid0 : slots.s0.valid = false)
    (invalid1 : slots.s1.valid = false) : entries pc slots = [] := by
  simp [entries, invalid0, invalid1]

theorem entries_ne_nil {pc : Addr} {slots : Dual PipelineSlot} {lane : Fin 2}
    (valid : (slots.get lane).valid = true) : entries pc slots ≠ [] := by
  cases lane using laneCases with
  | zero =>
      have valid0 : slots.s0.valid = true := valid
      simp [entries, valid0]
  | one =>
      have valid1 : slots.s1.valid = true := valid
      simp [entries, valid1]

/-- A latch that fills slot 0 first is empty when slot 0 is. -/
theorem invalid_of_ordered {slots : Dual PipelineSlot} (ordered : slots.s1.valid = true -> slots.s0.valid = true)
    (invalid0 : slots.s0.valid = false) : slots.s1.valid = false := by
  cases valid1 : slots.s1.valid with
  | false => rfl
  | true => exact absurd (invalid0.symm.trans (ordered valid1)) Bool.false_ne_true

/-! ## Decode and issue -/

/-- The ways in which `IssueUnit::decodeAndIssue` can end. -/
inductive Issue (ifId : IfIdBuffer) (idEx : IdExBuffer) : IfIdBuffer × IdExBuffer -> Prop where
  | idle (empty : ifId.slots.s0.valid = false) : Issue ifId idEx (ifId, idEx)
  | stalled (valid : ifId.slots.s0.valid = true) : Issue ifId idEx
      ({ ifId with slots := ⟨decodeInstruction ifId.slots.s0, decodeInstruction ifId.slots.s1⟩ },
        { idEx with
          slots := ⟨invalidate idEx.slots.s0, invalidate idEx.slots.s1⟩
          memRead := ⟨false, false⟩
          memWrite := ⟨false, false⟩ })
  | predicted (valid : ifId.slots.s0.valid = true)
      (taken : (decode ifId.slots.s0.instr).predictedTaken = true) (slot0 : PipelineSlot)
      (slot0Eq : slot0 = { decodeInstruction ifId.slots.s0 with
        jumpTarget := ifId.pc + (decode ifId.slots.s0.instr).imm }) : Issue ifId idEx
      ({ ifId with slots := ⟨invalidate slot0, invalidate (decodeInstruction ifId.slots.s1)⟩ },
        { slots := ⟨slot0, invalidate idEx.slots.s1⟩
          pc := ifId.pc
          memRead := ⟨false, false⟩
          memWrite := ⟨false, false⟩ })
  | pair (valid0 : ifId.slots.s0.valid = true) (valid1 : ifId.slots.s1.valid = true)
      (notTaken : (decode ifId.slots.s0.instr).predictedTaken = false)
      (together : canIssueTogether (decode ifId.slots.s0.instr) (decode ifId.slots.s1.instr) = true) :
      Issue ifId idEx
      ({ ifId with slots := ⟨invalidate (decodeInstruction ifId.slots.s0),
          invalidate (decodeInstruction ifId.slots.s1)⟩ },
        { slots := ⟨decodeInstruction ifId.slots.s0, decodeInstruction ifId.slots.s1⟩
          pc := ifId.pc
          memRead := ⟨isLoad (decode ifId.slots.s0.instr), isLoad (decode ifId.slots.s1.instr)⟩
          memWrite := ⟨isStore (decode ifId.slots.s0.instr), isStore (decode ifId.slots.s1.instr)⟩ })
  | single (valid : ifId.slots.s0.valid = true)
      (notTaken : (decode ifId.slots.s0.instr).predictedTaken = false) : Issue ifId idEx
      ({ slots := ⟨decodeInstruction ifId.slots.s1, invalidate (decodeInstruction ifId.slots.s1)⟩
         pc := ifId.pc + 4 },
        { slots := ⟨decodeInstruction ifId.slots.s0, invalidate idEx.slots.s1⟩
          pc := ifId.pc
          memRead := ⟨isLoad (decode ifId.slots.s0.instr), false⟩
          memWrite := ⟨isStore (decode ifId.slots.s0.instr), false⟩ })

theorem decodeAndIssue_issue (ifId : IfIdBuffer) (idEx : IdExBuffer) :
    Issue ifId idEx (IssueUnit.decodeAndIssue ifId idEx) := by
  unfold IssueUnit.decodeAndIssue
  cases valid0 : ifId.slots.s0.valid with
  | false => exact .idle valid0
  | true =>
      simp only [Bool.not_true, Bool.false_eq_true, if_false]
      split
      · exact .stalled valid0
      · split
        · rename_i taken
          exact .predicted valid0 (Bool.and_eq_true_iff.mp taken).2 _ rfl
        · rename_i notTaken
          have straight : (decode ifId.slots.s0.instr).predictedTaken = false := by
            cases taken : (decode ifId.slots.s0.instr).predictedTaken with
            | false => rfl
            | true =>
                have branch := (decode_exclusive ifId.slots.s0.instr).predicted taken
                exact absurd (Bool.and_eq_true_iff.mpr ⟨branch, taken⟩) notTaken
          split
          · rename_i both
            rcases Bool.and_eq_true_iff.mp both with ⟨valid1, together⟩
            exact .pair valid0 valid1 straight together
          · exact .single valid0 straight

theorem decodeAndIssue_of_empty {s : CPUCore} (empty : s.ifId.slots.s0.valid = false)
    (invalid : s.idEx.slots.s0.valid = false) : s.decodeAndIssue = s := by
  unfold CPUCore.decodeAndIssue IssueUnit.decodeAndIssue predictsTaken
  simp [empty, invalid]

/-! ## Fetch -/

/-- `fetch` looks up its pc and finds a fault. -/
structure FetchFaults (x : CPUCore) (found : TranslationResult) (mem : MemorySystem) : Prop where
  free : x.ifId.slots.s0.valid = false
  inMemory : x.pc + 8 <= MEMORY_SIZE ∨ x.pc + 4 <= MEMORY_SIZE
  translated : x.translateFetch x.pc = .ok (found, mem)
  faulted : found.fault = true

/-- The ways in which `fetch` can end.  The slots of IF/ID are both free or the
first is in use, so the compressing path is never taken. -/
inductive Fetch (s : CPUCore) : CPUCore -> Prop where
  | full (valid : s.ifId.slots.s0.valid = true) : Fetch s s
  | nothing (mem : MemorySystem) (empty : s.ifId.slots.s0.valid = false) (same : SameStorage s.memory mem) :
      Fetch s { s with memory := mem }
  | one (word : Word) (mem : MemorySystem) (empty : s.ifId.slots.s0.valid = false)
      (same : SameStorage s.memory mem) : Fetch s ({ s with memory := mem }.fillOne word)
  | pair (word0 word1 : Word) (mem : MemorySystem) (empty : s.ifId.slots.s0.valid = false)
      (same : SameStorage s.memory mem) : Fetch s
      { s with
        memory := mem
        ifId := { slots := ⟨fillSlot s.ifId.slots.s0 word0, fillSlot s.ifId.slots.s1 word1⟩, pc := s.pc }
        pc := s.pc + 8 }
  | fault (found : TranslationResult) (mem : MemorySystem) (faults : FetchFaults s found mem) :
      Fetch s ({ s with memory := mem }.handleTrap s.pc found.cause s.pc)
  | faultNearEnd (found : TranslationResult) (mem : MemorySystem) (faults : FetchFaults s found mem) :
      Fetch s (({ s with memory := mem }.handleTrap s.pc found.cause s.pc).fillOne 0)

theorem translateFetch_sameStorage {s : CPUCore} {vaddr : Addr} {found : TranslationResult} {mem : MemorySystem}
    (translated : s.translateFetch vaddr = .ok (found, mem)) : SameStorage s.memory mem :=
  (translate_onlyTlb translated).sameStorage

/-- `fetch` looks up its pc and may read at the address that it finds. -/
structure FetchPermitted (x : CPUCore) (found : TranslationResult) (mem : MemorySystem) : Prop where
  free : x.ifId.slots.s0.valid = false
  inMemory : x.pc + 8 <= MEMORY_SIZE ∨ x.pc + 4 <= MEMORY_SIZE
  translated : x.translateFetch x.pc = .ok (found, mem)
  permitted : found.fault = false

/-- In M mode fetch reads at its pc, and does not fault. -/
theorem FetchPermitted.machine {x : CPUCore} {found : TranslationResult} {mem : MemorySystem}
    (finds : FetchPermitted x found mem) (machine : x.regFile.privilege = PRV_M) :
    found.paddr = x.pc ∧ mem = x.memory := by
  have translated := finds.translated
  rw [translateFetch, machine, translate_machine] at translated
  cases translated
  exact ⟨rfl, rfl⟩

theorem FetchFaults.notMachine {x : CPUCore} {found : TranslationResult} {mem : MemorySystem}
    (faults : FetchFaults x found mem) : x.regFile.privilege ≠ PRV_M := by
  intro machine
  have translated := faults.translated
  rw [translateFetch, machine, translate_machine] at translated
  cases translated
  cases faults.faulted

/-- The ways in which `fetch` can end, with the look-ups and reads that it has
made. -/
inductive FetchEnd (s : CPUCore) : CPUCore -> Prop where
  | full (valid : s.ifId.slots.s0.valid = true) : FetchEnd s s
  | outside (empty : s.ifId.slots.s0.valid = false) : FetchEnd s s
  | beyond (found : TranslationResult) (mem : MemorySystem) (finds : FetchPermitted s found mem) :
      FetchEnd s { s with memory := mem }
  | stopped (found : TranslationResult) (mem after : MemorySystem) (word : Word) (finds : FetchPermitted s found mem)
      (reads : mem.read found.paddr 4 = .ok (word, after)) : FetchEnd s { s with memory := after }
  | one (found : TranslationResult) (mem after : MemorySystem) (word : Word) (finds : FetchPermitted s found mem)
      (reads : mem.read found.paddr 4 = .ok (word, after)) : FetchEnd s ({ s with memory := after }.fillOne word)
  | pair (found : TranslationResult) (mem : MemorySystem) (double : BitVec 64) (finds : FetchPermitted s found mem)
      (reads : mem.readDoubleInstr found.paddr = .ok double) : FetchEnd s
      { s with
        memory := mem
        ifId := {
          slots := ⟨fillSlot s.ifId.slots.s0 (double.setWidth 32),
            fillSlot s.ifId.slots.s1 ((double >>> 32).setWidth 32)⟩
          pc := s.pc }
        pc := s.pc + 8 }
  | fault (found : TranslationResult) (mem : MemorySystem) (faults : FetchFaults s found mem) :
      FetchEnd s ({ s with memory := mem }.handleTrap s.pc found.cause s.pc)
  | faultNearEnd (found : TranslationResult) (mem : MemorySystem) (faults : FetchFaults s found mem) :
      FetchEnd s (({ s with memory := mem }.handleTrap s.pc found.cause s.pc).fillOne 0)

theorem fetchPair_end {s t : CPUCore} (empty : s.ifId.slots.s0.valid = false)
    (room : s.pc + 8 <= MEMORY_SIZE) (ran : s.fetchPair = .ok t) : FetchEnd s t := by
  rcases bind_eq_ok.mp ran with ⟨⟨found, mem⟩, translated, rest⟩
  simp only at rest
  split at rest
  · cases rest
    exact .fault found mem ⟨empty, .inl room, translated, ‹_›⟩
  · rename_i permitted
    have finds : FetchPermitted s found mem := ⟨empty, .inl room, translated, Bool.eq_false_iff.mpr permitted⟩
    split at rest
    · rcases bind_eq_ok.mp rest with ⟨⟨word, after⟩, reads, done⟩
      cases done
      exact .one found mem after word finds reads
    · split at rest
      · rcases bind_eq_ok.mp rest with ⟨double, reads, done⟩
        cases done
        exact .pair found mem double finds reads
      · cases rest
        exact .beyond found mem finds

theorem fetchSingle_end {s t : CPUCore} (empty : s.ifId.slots.s0.valid = false)
    (room : s.pc + 4 <= MEMORY_SIZE) (ran : s.fetchSingle = .ok t) : FetchEnd s t := by
  rcases bind_eq_ok.mp ran with ⟨⟨word, mid⟩, fetched, rest⟩
  rcases bind_eq_ok.mp fetched with ⟨⟨found, mem⟩, translated, rest'⟩
  simp only at rest'
  split at rest'
  · cases rest'
    simp only at rest
    split at rest
    · cases rest
      exact .fault found mem ⟨empty, .inr room, translated, ‹_›⟩
    · cases rest
      exact .faultNearEnd found mem ⟨empty, .inr room, translated, ‹_›⟩
  · rename_i permitted
    have finds : FetchPermitted s found mem := ⟨empty, .inr room, translated, Bool.eq_false_iff.mpr permitted⟩
    rcases bind_eq_ok.mp rest' with ⟨⟨word', after⟩, reads, done⟩
    cases done
    simp only at rest
    split at rest
    · cases rest
      exact .stopped found mem after word' finds reads
    · cases rest
      exact .one found mem after word' finds reads

theorem fetch_end {s t : CPUCore} (ordered : s.ifId.slots.s1.valid = true -> s.ifId.slots.s0.valid = true)
    (ran : s.fetch = .ok t) : FetchEnd s t := by
  unfold fetch at ran
  split at ran
  · cases ran
    exact .full ‹_›
  · rename_i empty
    have empty0 : s.ifId.slots.s0.valid = false := by simpa using empty
    split at ran
    · exact absurd (ordered ‹_›) empty
    · split at ran
      · exact fetchPair_end empty0 ‹_› ran
      · split at ran
        · exact fetchSingle_end empty0 ‹_› ran
        · cases ran
          exact .outside empty0

theorem fetch_fetch {s t : CPUCore} (ordered : s.ifId.slots.s1.valid = true -> s.ifId.slots.s0.valid = true)
    (ran : s.fetch = .ok t) : Fetch s t := by
  have ending := fetch_end ordered ran
  cases ending with
  | full valid => exact .full valid
  | outside empty => exact .nothing s.memory empty (.refl s.memory)
  | beyond found mem finds => exact .nothing mem finds.free (translateFetch_sameStorage finds.translated)
  | stopped found mem after word finds reads =>
      exact .nothing after finds.free
        ((translateFetch_sameStorage finds.translated).trans (read_sameStorage reads))
  | one found mem after word finds reads =>
      exact .one word after finds.free
        ((translateFetch_sameStorage finds.translated).trans (read_sameStorage reads))
  | pair found mem double finds reads =>
      exact .pair _ _ mem finds.free (translateFetch_sameStorage finds.translated)
  | fault found mem faults => exact .fault found mem faults
  | faultNearEnd found mem faults => exact .faultNearEnd found mem faults

/-- Fetch reads RAM and fills the TLB. -/
theorem Fetch.sameStorage {s t : CPUCore} (fetched : Fetch s t) : SameStorage s.memory t.memory := by
  cases fetched with
  | full valid => exact .refl s.memory
  | nothing mem empty same => exact same
  | one word mem empty same => exact same
  | pair word0 word1 mem empty same => exact same
  | fault found mem faults => exact translateFetch_sameStorage faults.translated
  | faultNearEnd found mem faults => exact translateFetch_sameStorage faults.translated

end Pipeline
end SimpleRV
