import SimpleRV.Halting.CompleteRuns
import SimpleRV.Memory.Traffic
import SimpleRV.Translation.Coherence
import SimpleRV.Translation.PhysicalBounds

namespace SimpleRV
namespace Halting

open IssueUnit CPUCore MemorySystem Pipeline Refinement Memory Translation Iteration

/-!
# How `main` fails

A tick fails with a memory operation that it makes: with the walk for a load, a
store or a fetch, or with the access behind it.  The operation lies outside RAM
and is refused with a message, or its check has been passed by a sum that
wraps; then the access leaves the vector and the behaviour is undefined.
-/

/-- Why an operation fails. -/
inductive Fails (mem : MemorySystem) : Operation -> Crash -> Prop where
  | readOutside (addr : Addr) (n : Nat) (ram : readsDevice addr = false)
      (outside : addr + BitVec.ofNat 32 n > MEMORY_SIZE) :
      Fails mem (.read addr n) (.runtimeError "Memory read access out of bounds")
  | writeOutside (addr : Addr) (n : Nat) (data : Word) (ram : writesDevice addr = false)
      (outside : addr + BitVec.ofNat 32 n > MEMORY_SIZE) :
      Fails mem (.write addr n data) (.runtimeError "Memory write access out of bounds")
  | readWraps (addr : Addr) (n : Nat) (wraps : ¬EndsBelowTop addr n) : Fails mem (.read addr n) .outOfRange
  | writeWraps (addr : Addr) (n : Nat) (data : Word) (wraps : ¬EndsBelowTop addr n) :
      Fails mem (.write addr n data) .outOfRange
  | pairWraps (pc : Addr) (wraps : ¬EndsBelowTop pc 8) : Fails mem (.readDoubleInstr pc) .outOfRange
  | walkWraps (vaddr : Addr) (isWrite isFetch : Bool) (satp : Word) (privilege : Byte)
      (walks : Walks mem vaddr isWrite isFetch satp privilege) (wraps : ¬EntriesBelowTop mem.memory satp vaddr) :
      Fails mem (.translate vaddr isWrite isFetch satp privilege) .outOfRange

section Operations

variable {mem : MemorySystem} {crash : Crash}

/-! ## One operation -/

/-- An access to RAM behind its check fails by the check, or because the sum
that is checked has wrapped. -/
theorem checked_error_iff {α β : Type} {access : Except Crash α} {bytes : Except Crash β} {value : β} {f : β -> α}
    {message : String} {addr : Addr} {n : Nat} (nonempty : 0 < n) (small : n < 2 ^ 16)
    (bytesEq : bytes = if inRange addr n then .ok value else .error .outOfRange)
    (accessEq : access = if addr + BitVec.ofNat 32 n > MEMORY_SIZE then .error (.runtimeError message)
      else bytes.map f) :
    access = .error crash ↔ (addr + BitVec.ofNat 32 n > MEMORY_SIZE ∧ crash = .runtimeError message) ∨
      (¬EndsBelowTop addr n ∧ crash = .outOfRange) := by
  by_cases refused : addr + BitVec.ofNat 32 n > MEMORY_SIZE
  · have ends := endsBelowTop_of_refused small refused
    rw [if_pos refused] at accessEq
    rw [accessEq]
    simp [refused, ends, eq_comm]
  · have inside := inRange_iff_of_checked nonempty small refused
    rw [if_neg refused] at accessEq
    rw [accessEq, map_eq_error, bytesEq]
    by_cases ends : EndsBelowTop addr n
    · simp [inside.mpr ends, ends, refused]
    · have outside : inRange addr n = false := Bool.eq_false_iff.mpr (fun within => ends (inside.mp within))
      simp [outside, ends, refused, eq_comm]

theorem read_fails_iff {addr : Addr} {n : Nat} (width : IsWidth n) :
    mem.read addr n = .error crash ↔ Fails mem (.read addr n) crash := by
  have bounds := width.bounds
  cases device : readsDevice addr with
  | true =>
      rcases @read_device mem addr device n with ⟨out, ran⟩
      constructor
      · intro failed
        cases ran.symm.trans failed
      · intro fails
        cases fails with
        | readOutside _ _ ram outside => cases device.symm.trans ram
        | readWraps _ _ wraps => exact absurd (endsBelowTop_of_device width device) wraps
  | false =>
      rw [checked_error_iff bounds.1 (by omega) (rfl : mem.loadBytes addr n = _) (read_ram device n)]
      constructor
      · rintro (⟨outside, rfl⟩ | ⟨wraps, rfl⟩)
        · exact .readOutside addr n device outside
        · exact .readWraps addr n wraps
      · intro fails
        cases fails with
        | readOutside _ _ ram outside => exact .inl ⟨outside, rfl⟩
        | readWraps _ _ wraps => exact .inr ⟨wraps, rfl⟩

theorem write_fails_iff {addr : Addr} {n : Nat} {data : Word} (width : IsWidth n) :
    mem.write addr n data = .error crash ↔ Fails mem (.write addr n data) crash := by
  have bounds := width.bounds
  cases device : writesDevice addr with
  | true =>
      rcases @write_device mem addr device n data with ⟨out, ran⟩
      constructor
      · intro failed
        cases ran.symm.trans failed
      · intro fails
        cases fails with
        | writeOutside _ _ _ ram outside => cases device.symm.trans ram
        | writeWraps _ _ _ wraps => exact absurd (endsBelowTop_of_device width (writesDevice_readsDevice device)) wraps
  | false =>
      rw [checked_error_iff bounds.1 (by omega) (rfl : mem.storeBytes addr n data = _) (write_ram device n data)]
      constructor
      · rintro (⟨outside, rfl⟩ | ⟨wraps, rfl⟩)
        · exact .writeOutside addr n data device outside
        · exact .writeWraps addr n data wraps
      · intro fails
        cases fails with
        | writeOutside _ _ _ ram outside => exact .inl ⟨outside, rfl⟩
        | writeWraps _ _ _ wraps => exact .inr ⟨wraps, rfl⟩

/-- Fetch has made the same check before, so that only a sum that wraps can
fail. -/
theorem readDoubleInstr_fails_iff {pc : Addr} (checked : pc + 8 <= MEMORY_SIZE) :
    mem.readDoubleInstr pc = .error crash ↔ Fails mem (.readDoubleInstr pc) crash := by
  have same : (mem.loadBytes pc 8 : Except Crash (BitVec 64)).map id = mem.loadBytes pc 8 := by
    cases (mem.loadBytes pc 8 : Except Crash (BitVec 64)) <;> rfl
  have accessEq : mem.readDoubleInstr pc = if pc + BitVec.ofNat 32 8 > MEMORY_SIZE
      then .error (.runtimeError "Instruction fetch out of bounds") else (mem.loadBytes pc 8).map id := by
    rw [same]
    rfl
  rw [checked_error_iff (by decide) (by decide) (rfl : (mem.loadBytes pc 8 : Except Crash (BitVec 64)) = _) accessEq]
  constructor
  · rintro (⟨outside, _⟩ | ⟨wraps, rfl⟩)
    · exact absurd checked (BitVec.not_le.mpr outside)
    · exact .pairWraps pc wraps
  · intro fails
    cases fails with
    | pairWraps _ wraps => exact .inr ⟨wraps, rfl⟩

theorem walkLeaf_error {ram : Addr -> Byte} {satp : Word} {vaddr : Addr}
    (failed : walkLeaf ram satp vaddr = .error crash) : crash = .outOfRange := by
  rw [walkLeaf_eq] at failed
  unfold walkSecond at failed
  grind

section Translate

variable {vaddr : Addr} {isWrite isFetch : Bool} {satp : Word} {privilege : Byte}

theorem translate_error (failed : mem.translate vaddr isWrite isFetch satp privilege = .error crash) :
    crash = .outOfRange := by
  let mmu : Mmu := ⟨mem, satp⟩
  change mmu.translate vaddr isWrite isFetch privilege = _ at failed
  cases on : mmu.translates privilege with
  | false => cases (translate_bare on vaddr isWrite isFetch).symm.trans failed
  | true =>
      rw [translate_translated on] at failed
      generalize mmu.memory.tlbLookup (vpnOf vaddr) (identity vaddr) isWrite isFetch = lookup at failed
      rcases lookup with ⟨_ | _, result⟩
      · simp only at failed
        rw [walk_eq, map_eq_error] at failed
        exact walkLeaf_error failed
      · cases failed

theorem translate_fails_iff : mem.translate vaddr isWrite isFetch satp privilege = .error crash ↔
    Fails mem (.translate vaddr isWrite isFetch satp privilege) crash := by
  have inBounds := translateInBounds_iff mem vaddr isWrite isFetch satp privilege
  constructor
  · intro failed
    have outOfBounds : ¬TranslateInBounds mem vaddr isWrite isFetch satp privilege := by
      rintro ⟨out, ran⟩
      cases ran.symm.trans failed
    rw [inBounds, Classical.not_imp] at outOfBounds
    rw [translate_error failed]
    exact .walkWraps vaddr isWrite isFetch satp privilege outOfBounds.1 outOfBounds.2
  · intro fails
    cases fails with
    | walkWraps _ _ _ _ _ walks wraps =>
        cases ran : mem.translate vaddr isWrite isFetch satp privilege with
        | ok out => exact absurd (inBounds.mp ⟨out, ran⟩ walks) wraps
        | error crash => rw [translate_error ran]

end Translate

end Operations

/-! ## A translation and what follows it -/

/-- The walk for the address fails, or the operation at the address found. -/
inductive AccessFails (mem : MemorySystem) (regFile : RegisterFile) (vaddr : Addr) (isWrite isFetch : Bool)
    (access : Addr -> Option Operation) (crash : Crash) : Prop where
  | inWalk (fails : Fails mem (.translate vaddr isWrite isFetch regFile.satp regFile.privilege) crash)
  | behindWalk (found : TranslationResult) (between : MemorySystem) (operation : Operation)
      (translated : mem.translate vaddr isWrite isFetch regFile.satp regFile.privilege = .ok (found, between))
      (served : found.fault = false) (made : access found.paddr = some operation)
      (fails : Fails between operation crash)

theorem accessFails_iff {α : Type} {mem : MemorySystem} {regFile : RegisterFile} {vaddr : Addr}
    {isWrite isFetch : Bool} {access : Addr -> Option Operation} {crash : Crash}
    {rest : TranslationResult × MemorySystem -> Except Crash α}
    (faulted : forall found between, found.fault = true -> rest (found, between) ≠ .error crash)
    (served : forall found between, found.fault = false -> (rest (found, between) = .error crash ↔
      Exists fun operation => access found.paddr = some operation ∧ Fails between operation crash)) :
    (mem.translate vaddr isWrite isFetch regFile.satp regFile.privilege).bind rest = .error crash ↔
      AccessFails mem regFile vaddr isWrite isFetch access crash := by
  rw [bind_eq_error, translate_fails_iff]
  constructor
  · rintro (fails | ⟨⟨found, between⟩, translated, failed⟩)
    · exact .inWalk fails
    · cases fault : found.fault with
      | true => exact absurd failed (faulted found between fault)
      | false =>
          rcases (served found between fault).mp failed with ⟨operation, made, fails⟩
          exact .behindWalk found between operation translated fault made fails
  · intro accessFails
    cases accessFails with
    | inWalk fails => exact .inl fails
    | behindWalk found between operation translated fault made fails =>
        exact .inr ⟨(found, between), translated, (served found between fault).mpr ⟨operation, made, fails⟩⟩

section Access

variable {mem : MemorySystem} {regFile : RegisterFile} {funct3 : BitVec 3} {addr : Addr} {crash : Crash}

theorem loadAccess_fails_iff : loadAccess mem regFile funct3 addr = .error crash ↔
    misaligned addr (loadWidth funct3) = false ∧ AccessFails mem regFile addr false false
      (fun paddr => some (.read paddr (loadWidth funct3))) crash := by
  unfold loadAccess
  simp only
  cases unaligned : misaligned addr (loadWidth funct3) with
  | true => simp [pure, Except.pure]
  | false =>
      rw [if_neg Bool.false_ne_true]
      refine Iff.trans (accessFails_iff ?_ ?_) ⟨fun fails => ⟨rfl, fails⟩, And.right⟩
      · intro found between fault
        rw [if_pos fault]
        exact fun impossible => nomatch impossible
      · intro found between fault
        rw [if_neg (ne_true_of_eq_false fault)]
        change (between.read found.paddr (loadWidth funct3)).bind _ = _ ↔ _
        rw [bind_eq_error, read_fails_iff (loadWidth_isWidth funct3)]
        simp [pure, Except.pure]

theorem storeAccess_fails_iff {data : Word} : storeAccess mem regFile funct3 addr data = .error crash ↔
    misaligned addr (storeWidth funct3) = false ∧ AccessFails mem regFile addr true false
      (fun paddr => some (.write paddr (storeWidth funct3) data)) crash := by
  unfold storeAccess
  simp only
  cases unaligned : misaligned addr (storeWidth funct3) with
  | true => simp [pure, Except.pure]
  | false =>
      rw [if_neg Bool.false_ne_true]
      refine Iff.trans (accessFails_iff ?_ ?_) ⟨fun fails => ⟨rfl, fails⟩, And.right⟩
      · intro found between fault
        rw [if_pos fault]
        exact fun impossible => nomatch impossible
      · intro found between fault
        rw [if_neg (ne_true_of_eq_false fault)]
        change (between.write found.paddr (storeWidth funct3) data).bind _ = _ ↔ _
        rw [bind_eq_error, write_fails_iff (storeWidth_isWidth funct3)]
        simp [pure, Except.pure]

end Access

/-! ## The stages -/

section Stages

variable {s : CPUCore} {crash : Crash}

/-- The load or the store of a lane fails. -/
inductive LaneFails (mem : MemorySystem) (regFile : RegisterFile) (exMem : ExMemBuffer) (lane : Fin 2)
    (crash : Crash) : Prop where
  | load (reads : exMem.memRead.get lane = true)
      (aligned : misaligned (exMem.memAddr.get lane) (loadWidth (memFunct3 (exMem.slots.get lane).instr)) = false)
      (fails : AccessFails mem regFile (exMem.memAddr.get lane) false false
        (fun paddr => some (.read paddr (loadWidth (memFunct3 (exMem.slots.get lane).instr)))) crash)
  | store (writes : exMem.memWrite.get lane = true)
      (aligned : misaligned (exMem.memAddr.get lane) (storeWidth (memFunct3 (exMem.slots.get lane).instr)) = false)
      (fails : AccessFails mem regFile (exMem.memAddr.get lane) true false
        (fun paddr => some (.write paddr (storeWidth (memFunct3 (exMem.slots.get lane).instr))
          (exMem.memData.get lane))) crash)

theorem memoryAccessLane_fails_iff {lane : Fin 2} (one : OneAccess s.exMem) :
    s.memoryAccessLane lane = .error crash ↔
      (s.exMem.slots.get lane).valid = true ∧ LaneFails s.memory s.regFile s.exMem lane crash := by
  cases valid : (s.exMem.slots.get lane).valid with
  | false => simp [memoryAccessLane_invalid valid]
  | true =>
      rw [memoryAccessLane_eq valid (one lane valid), map_eq_error]
      unfold laneAccess
      simp only
      cases reads : s.exMem.memRead.get lane with
      | true =>
          have noWrite := one lane valid reads
          rw [if_pos rfl, loadAccess_fails_iff]
          constructor
          · rintro ⟨aligned, fails⟩
            exact ⟨trivial, .load reads aligned fails⟩
          · rintro ⟨_, fails⟩
            cases fails with
            | load _ aligned fails => exact ⟨aligned, fails⟩
            | store writes => exact absurd writes (ne_true_of_eq_false noWrite)
      | false =>
          rw [if_neg Bool.false_ne_true]
          cases writes : s.exMem.memWrite.get lane with
          | true =>
              rw [if_pos rfl, map_eq_error, storeAccess_fails_iff]
              constructor
              · rintro ⟨aligned, fails⟩
                exact ⟨trivial, .store writes aligned fails⟩
              · rintro ⟨_, fails⟩
                cases fails with
                | load impossible => exact absurd impossible (ne_true_of_eq_false reads)
                | store _ aligned fails => exact ⟨aligned, fails⟩
          | false =>
              rw [if_neg Bool.false_ne_true]
              constructor
              · intro impossible
                cases impossible
              · rintro ⟨_, fails⟩
                cases fails with
                | load impossible => exact absurd impossible (ne_true_of_eq_false reads)
                | store impossible => exact absurd impossible (ne_true_of_eq_false writes)

/-- A lane that makes no access fails in no case, and leaves the memory as it is. -/
theorem memoryAccessLane_noAccess {lane : Fin 2} (one : OneAccess s.exMem) (none : NoAccess s.exMem lane) :
    Exists fun memWb => s.memoryAccessLane lane = .ok ({ s with memWb := memWb }, false) := by
  cases valid : (s.exMem.slots.get lane).valid with
  | false => exact ⟨s.memWb, memoryAccessLane_invalid valid⟩
  | true =>
      rw [memoryAccessLane_eq valid (one lane valid)]
      unfold laneAccess
      simp only
      rw [(none valid).1, (none valid).2, if_neg Bool.false_ne_true, if_neg Bool.false_ne_true]
      exact ⟨_, rfl⟩

theorem LaneFails.access {mem : MemorySystem} {regFile : RegisterFile} {lane : Fin 2}
    (fails : LaneFails mem regFile s.exMem lane crash) (valid : (s.exMem.slots.get lane).valid = true) :
    ¬NoAccess s.exMem lane := by
  intro none
  cases fails with
  | load reads => exact absurd reads (ne_true_of_eq_false (none valid).1)
  | store writes => exact absurd writes (ne_true_of_eq_false (none valid).2)

/-- The memory stage fails with the access of one of its lanes, the only access
it makes. -/
theorem memoryAccess_fails_iff (one : OneAccess s.exMem) (pair : EnginePair s.exMem) :
    s.memoryAccess = .error crash ↔
      Exists fun lane => (s.exMem.slots.get lane).valid = true ∧ LaneFails s.memory s.regFile s.exMem lane crash := by
  let start : CPUCore := { s with memWb := {} }
  have first := @memoryAccessLane_fails_iff start crash 0 one
  have second (memWb : MemWbBuffer) := @memoryAccessLane_fails_iff { s with memWb := memWb } crash 1 one
  change (start.memoryAccessLane 0).bind _ = _ ↔ _
  constructor
  · intro failed
    rcases bind_eq_error.mp failed with failed | ⟨⟨mid, trapped⟩, ran, failed⟩
    · exact ⟨0, first.mp failed⟩
    · cases trapped with
      | true => cases failed
      | false =>
          rcases bind_eq_error.mp failed with failed | ⟨_, _, impossible⟩
          · have outcome := @memoryAccessLane_outcome start 0 _ one ran
            have sameExMem : mid.exMem = s.exMem := outcome.sameExMem
            have fails := (@memoryAccessLane_fails_iff mid crash 1 (sameExMem ▸ one)).mp failed
            have accesses := fails.2.access fails.1
            rw [sameExMem] at accesses
            rcases @memoryAccessLane_noAccess start 0 one ((noAccess_of_pair pair).resolve_right accesses) with
              ⟨memWb, silent⟩
            cases silent.symm.trans ran
            exact ⟨1, (second memWb).mp failed⟩
          · cases impossible
  · rintro ⟨lane, valid, fails⟩
    have accesses := fails.access valid
    cases lane using laneCases with
    | zero => exact bind_eq_error.mpr (.inl (first.mpr ⟨valid, fails⟩))
    | one =>
        rcases @memoryAccessLane_noAccess start 0 one ((noAccess_of_pair pair).resolve_right accesses) with
          ⟨memWb, silent⟩
        refine bind_eq_error.mpr (.inr ⟨_, silent, ?_⟩)
        exact bind_eq_error.mpr (.inl ((second memWb).mpr ⟨valid, fails⟩))

/-- What fetch reads at the physical address for its pc. -/
def fetchOperation (pc paddr : Addr) : Option Operation :=
  if pc + 8 <= MEMORY_SIZE then
    if crossesPage paddr then some (.read paddr 4)
    else if paddr + 8 <= MEMORY_SIZE then some (.readDoubleInstr paddr)
    else none
  else some (.read paddr 4)

/-- Fetch has room and fails. -/
structure FetchFails (s : CPUCore) (crash : Crash) : Prop where
  free : s.ifId.slots.s0.valid = false
  inMemory : s.pc + 8 <= MEMORY_SIZE ∨ s.pc + 4 <= MEMORY_SIZE
  fails : AccessFails s.memory s.regFile s.pc false true (fetchOperation s.pc) crash

theorem fetchPair_fails_iff (room : s.pc + 8 <= MEMORY_SIZE) : s.fetchPair = .error crash ↔
    AccessFails s.memory s.regFile s.pc false true (fetchOperation s.pc) crash := by
  refine accessFails_iff ?_ ?_
  · intro found between fault
    simp only
    rw [if_pos fault]
    exact fun impossible => nomatch impossible
  · intro found between fault
    unfold fetchOperation
    simp only
    rw [if_neg (ne_true_of_eq_false fault), if_pos room]
    by_cases crosses : crossesPage found.paddr = true
    · rw [if_pos crosses, if_pos crosses]
      change (between.read found.paddr 4).bind _ = _ ↔ _
      rw [bind_eq_error, read_fails_iff (.inr (.inr rfl))]
      simp [pure, Except.pure]
    · rw [if_neg crosses, if_neg crosses]
      by_cases inside : found.paddr + 8 <= MEMORY_SIZE
      · rw [if_pos inside, if_pos inside]
        change (between.readDoubleInstr found.paddr).bind _ = _ ↔ _
        rw [bind_eq_error, readDoubleInstr_fails_iff inside]
        simp [pure, Except.pure]
      · rw [if_neg inside, if_neg inside]
        simp [pure, Except.pure]

theorem fetchSingle_fails_iff (short : ¬s.pc + 8 <= MEMORY_SIZE) : s.fetchSingle = .error crash ↔
    AccessFails s.memory s.regFile s.pc false true (fetchOperation s.pc) crash := by
  have instr : s.fetchInstr s.pc = .error crash ↔
      AccessFails s.memory s.regFile s.pc false true (fetchOperation s.pc) crash := by
    refine accessFails_iff ?_ ?_
    · intro found between fault
      simp only
      rw [if_pos fault]
      exact fun impossible => nomatch impossible
    · intro found between fault
      unfold fetchOperation
      simp only
      rw [if_neg (ne_true_of_eq_false fault), if_neg short]
      change (between.read found.paddr 4).bind _ = _ ↔ _
      rw [bind_eq_error, read_fails_iff (.inr (.inr rfl))]
      simp [pure, Except.pure]
  rw [← instr]
  change (s.fetchInstr s.pc).bind _ = _ ↔ _
  rw [bind_eq_error]
  constructor
  · rintro (failed | ⟨⟨word, after⟩, _, impossible⟩)
    · exact failed
    · simp only at impossible
      split at impossible <;> cases impossible
  · exact .inl

theorem fetch_fails_iff (ordered : s.ifId.slots.s1.valid = true -> s.ifId.slots.s0.valid = true) :
    s.fetch = .error crash ↔ FetchFails s crash := by
  have facts (free : s.ifId.slots.s0.valid = false) (inMemory : s.pc + 8 <= MEMORY_SIZE ∨ s.pc + 4 <= MEMORY_SIZE) :
      AccessFails s.memory s.regFile s.pc false true (fetchOperation s.pc) crash ↔ FetchFails s crash :=
    ⟨fun fails => ⟨free, inMemory, fails⟩, FetchFails.fails⟩
  unfold fetch
  cases valid : s.ifId.slots.s0.valid with
  | true =>
      rw [if_pos rfl]
      constructor
      · intro impossible
        cases impossible
      · intro fails
        exact absurd valid (ne_true_of_eq_false fails.free)
  | false =>
      have empty : s.ifId.slots.s1.valid = false :=
        Bool.eq_false_iff.mpr (fun full => ne_true_of_eq_false valid (ordered full))
      rw [empty, if_neg Bool.false_ne_true, if_neg Bool.false_ne_true]
      by_cases room : s.pc + 8 <= MEMORY_SIZE
      · rw [if_pos room, fetchPair_fails_iff room]
        exact facts valid (.inl room)
      · rw [if_neg room]
        by_cases word : s.pc + 4 <= MEMORY_SIZE
        · rw [if_pos word, fetchSingle_fails_iff room]
          exact facts valid (.inr word)
        · rw [if_neg word]
          constructor
          · intro impossible
            cases impossible
          · intro fails
            exact absurd fails.inMemory (not_or.mpr ⟨room, word⟩)

/-! ## Ticks and runs -/

/-- The memory stage of the tick fails, or it comes to fetch and fails there. -/
inductive TickFails (s : CPUCore) (crash : Crash) : Prop where
  | access (lane : Fin 2) (valid : (s.atMemoryAccess.exMem.slots.get lane).valid = true)
      (fails : LaneFails s.atMemoryAccess.memory s.atMemoryAccess.regFile s.atMemoryAccess.exMem lane crash)
  | fetch (e : CPUCore) (reached : s.atFetch = .ok e) (fails : FetchFails e crash)

/-- A tick fails exactly if the core runs and one of the operations on memory
that the tick makes fails. -/
theorem tick_fails_iff (formed : WellFormed s) :
    s.tick = .error crash ↔ s.running = true ∧ TickFails s crash := by
  have before := (atMemoryAccess_wellFormed formed).executedPair
  have access := @memoryAccess_fails_iff s.atMemoryAccess crash before.oneAccess before.toEnginePair
  have atFetch_eq : s.atFetch = .error crash ↔ s.atMemoryAccess.memoryAccess = .error crash := by
    unfold atFetch atDecode atExecute
    rw [map_eq_error, map_eq_error, map_eq_error]
  unfold tick
  cases running : s.running with
  | false => simp
  | true =>
      rw [Bool.not_true, if_neg Bool.false_ne_true, bind_eq_error, atFetch_eq, access]
      constructor
      · rintro (⟨lane, valid, fails⟩ | ⟨e, reached, failed⟩)
        · exact ⟨rfl, .access lane valid fails⟩
        · have ordered := (atFetch_wellFormed formed reached).frontEnd.ordered
          exact ⟨rfl, .fetch e reached ((fetch_fails_iff ordered).mp failed)⟩
      · rintro ⟨_, tickFails⟩
        cases tickFails with
        | access lane valid fails => exact .inl ⟨lane, valid, fails⟩
        | fetch e reached fails =>
            have ordered := (atFetch_wellFormed formed reached).frontEnd.ordered
            exact .inr ⟨e, reached, (fetch_fails_iff ordered).mpr fails⟩

end Stages

theorem run_fails_iff {s : CPUCore} {crash : Crash} (formed : WellFormed s) (fuel : Nat) :
    s.run fuel = .error crash ↔ Exists fun k => Exists fun u =>
      k < fuel ∧ iterate tick k s = .ok u ∧ u.running = true ∧ TickFails u crash := by
  induction fuel generalizing s with
  | zero =>
      unfold CPUCore.run
      cases s.running <;> simp
  | succ fuel ih =>
      unfold CPUCore.run
      cases running : s.running with
      | false =>
          rw [Bool.not_false, if_pos rfl]
          constructor
          · intro impossible
            cases impossible
          · rintro ⟨k, u, _, reached, stillRunning, _⟩
            have started := running_before reached stillRunning (Nat.zero_le k) rfl
            exact absurd started (ne_true_of_eq_false running)
      | true =>
          rw [Bool.not_true, if_neg Bool.false_ne_true]
          simp only
          rw [bind_eq_error, tick_fails_iff formed]
          constructor
          · rintro (⟨_, fails⟩ | ⟨next, first, failed⟩)
            · exact ⟨0, s, Nat.succ_pos fuel, rfl, running, fails⟩
            · rcases (ih (tick_wellFormed s next formed first)).mp failed with ⟨k, u, within, reached, rest⟩
              refine ⟨k + 1, u, Nat.succ_lt_succ within, ?_, rest⟩
              rw [iterate_succ_head, first]
              exact reached
          · rintro ⟨k, u, within, reached, rest⟩
            cases k with
            | zero =>
                cases reached
                exact .inl rest
            | succ k =>
                rw [iterate_succ_head] at reached
                rcases bind_eq_ok.mp reached with ⟨next, first, later⟩
                refine .inr ⟨next, first, ?_⟩
                exact (ih (tick_wellFormed s next formed first)).mpr ⟨k, u, Nat.lt_of_succ_lt_succ within, later, rest⟩

theorem startCore_wellFormed (r : SeqState) : WellFormed (startCore r) :=
  (startCore_simulates (fun _ => r) 0).formed

/-- When `main` fails, and with what: it cannot open the file, or the core is
running and the next tick makes an operation on memory that fails.  In
particular its behaviour is undefined exactly if the address of such an
operation wraps. -/
theorem main_fails_iff (fuel : Nat) (command programPath : String) (options : List String)
    (files : String -> Option (List Byte)) (keyboard : HostKeyboard) (crash : Crash) :
    main fuel (command :: programPath :: options) files keyboard = some (.crashed crash) ↔
      (files programPath = none ∧ crash = .runtimeError "Failed to open program file") ∨
      Exists fun bytes => Exists fun k => Exists fun u => files programPath = some bytes ∧ k < fuel ∧
        iterate tick k (startCore (boot bytes keyboard)) = .ok u ∧ u.running = true ∧ TickFails u crash := by
  cases found : files programPath with
  | none =>
      have missing : main fuel (command :: programPath :: options) files keyboard =
          some (.crashed (.runtimeError "Failed to open program file")) := by
        unfold main
        simp only [found]
        rfl
      rw [missing]
      constructor
      · rintro ⟨⟩
        exact .inl ⟨rfl, rfl⟩
      · rintro (⟨_, rfl⟩ | ⟨_, _, _, impossible, _⟩)
        · rfl
        · cases impossible
  | some bytes =>
      have fails := @run_fails_iff _ crash (startCore_wellFormed (boot bytes keyboard)) fuel
      have same : main fuel (command :: programPath :: options) files keyboard = some (.crashed crash) ↔
          (startCore (boot bytes keyboard)).run fuel = .error crash := by
        unfold main
        simp only [found, initProgram_boot]
        rcases (startCore (boot bytes keyboard)).run fuel with other | _ | u <;> simp
      rw [same, fails]
      simp

end Halting
end SimpleRV
