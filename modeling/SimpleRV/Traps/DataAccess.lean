import SimpleRV.Pipeline.WellFormed

namespace SimpleRV
namespace Traps

open IssueUnit CPUCore Pipeline Iteration

/-!
# Loads and stores that trap

`memoryAccess` copies a slot to MEM/WB before it tries the access.  When the
access traps, `handleTrap` empties every latch but MEM/WB, so the copy stays
there, and write-back takes it for a completed instruction: the register of a
faulting load receives the address.  Nothing else is wrong with these traps.
-/

/-- The trap that the access of a lane takes in the tick from `s` to `u` is
precise.  `t` is the core after `memoryAccess`. -/
structure PreciseDataTrap (s : CPUCore) (lane : Fin 2) (t u : CPUCore) (older : CPUCore) : Prop where
  /-- The accesses of older instructions are done, in the order of the lanes. -/
  olderDone : olderAccesses s.atMemoryAccess lane = .ok older
  /-- What was in MEM/WB has been written, once. -/
  retired : s.atMemoryAccess.regFile.gpr = applyWrites s.atWriteBack.regFile.gpr (registerWrites s.memWb)
  /-- Neither RAM nor a device has been written since, to the end of the tick. -/
  storage : SameStorage older.memory u.memory
  /-- The registers differ from those before by the trap's own CSR writes. -/
  registers : Exists fun faultPc => Exists fun cause => Exists fun tval =>
    t.regFile = (s.atMemoryAccess.regFile.handleTrap faultPc cause tval).1
  /-- No younger instruction is left. -/
  frontEmpty : t.ifId = {} ∧ t.idEx = {}
  backEmpty : forall lane, (u.exMem.slots.get lane).valid = false ∧ (u.idEx.slots.get lane).valid = false
  /-- The writes of the next write-back are those of older instructions. -/
  writes : registerWrites u.memWb = registerWrites older.memWb

/-- The faulting access is a store, or a load to `x0`. -/
def WritesNothing (s : CPUCore) (lane : Fin 2) : Prop :=
  s.exMem.memRead.get lane = false ∨ (s.exMem.slots.get lane).rd = 0

/-! ## The rest of a tick behind an empty front end -/

/-- Fetch leaves an empty back end empty, and MEM/WB alone. -/
theorem fetch_backEmpty {s t : CPUCore} (fetched : Fetch s t)
    (empty : forall lane, (s.exMem.slots.get lane).valid = false ∧ (s.idEx.slots.get lane).valid = false) :
    (forall lane, (t.exMem.slots.get lane).valid = false ∧ (t.idEx.slots.get lane).valid = false) ∧
      t.memWb = s.memWb := by
  have killed : forall lane : Fin 2, ((⟨{}, {}⟩ : Dual PipelineSlot).get lane).valid = false := by decide
  cases fetched with
  | full valid => exact ⟨empty, rfl⟩
  | nothing mem noneValid same => exact ⟨empty, rfl⟩
  | one word mem noneValid same => exact ⟨empty, rfl⟩
  | pair word0 word1 mem noneValid same => exact ⟨empty, rfl⟩
  | fault found mem faults =>
      refine ⟨fun lane => ?_, rfl⟩
      cases lane using laneCases with
      | zero => exact ⟨rfl, rfl⟩
      | one => exact ⟨rfl, rfl⟩
  | faultNearEnd found mem faults =>
      refine ⟨fun lane => ?_, rfl⟩
      cases lane using laneCases with
      | zero => exact ⟨rfl, rfl⟩
      | one => exact ⟨rfl, rfl⟩

/-! ## The trapping lane -/

/-- A slot of EX/MEM whose access can trap writes a register exactly if it is
a load with a destination. -/
theorem slotWrites_eq_nil_iff {exMem : ExMemBuffer} (pair : EnginePair exMem) {lane : Fin 2}
    (valid : (exMem.slots.get lane).valid = true)
    (accesses : exMem.memRead.get lane = true ∨ exMem.memWrite.get lane = true) :
    slotWrites (exMem.slots.get lane) = [] ↔
      exMem.memRead.get lane = false ∨ (exMem.slots.get lane).rd = 0 := by
  rcases pair.controls lane valid with ⟨readEq, writeEq⟩
  have regWriteEq := (pair.ran lane valid).regWrite
  have memory : (decode (exMem.slots.get lane).instr).isMemory = true := by
    rcases accesses with reads | writes
    · exact (Bool.and_eq_true_iff.mp (readEq.symm.trans reads)).1
    · exact (Bool.and_eq_true_iff.mp (writeEq.symm.trans writes)).1
  have continues : isHalt (exMem.slots.get lane).instr = false := by
    cases halts : isHalt (exMem.slots.get lane).instr with
    | false => rfl
    | true => exact absurd ((decode_halt halts).1.symm.trans memory) (by decide)
  have loads : exMem.memRead.get lane = (exMem.slots.get lane).regWrite := by
    rw [readEq, regWriteEq, isLoad, memory, Bool.true_and]
  unfold slotWrites
  rw [loads]
  cases (exMem.slots.get lane).regWrite <;> simp [valid, continues]

/-! ## The whole tick -/

/-- The slot that a trap leaves behind writes nothing exactly if the writes
are those of the older lane. -/
theorem registerWrites_set_iff {memWb : MemWbBuffer} {lane : Fin 2} (fresh : memWb.slots.get lane = {})
    (alone : lane = 0 -> memWb = {}) (slot : PipelineSlot) :
    registerWrites ⟨memWb.slots.set lane slot⟩ = registerWrites memWb ↔ slotWrites slot = [] := by
  cases lane using laneCases with
  | zero =>
      rw [alone rfl]
      change slotWrites slot ++ [] = [] ↔ _
      rw [List.append_nil]
  | one =>
      have fresh1 : memWb.slots.s1 = {} := fresh
      change slotWrites memWb.slots.s0 ++ slotWrites slot = slotWrites memWb.slots.s0 ++ slotWrites memWb.slots.s1 ↔ _
      rw [fresh1, List.append_cancel_left_eq]
      rfl

/-- Behind the trap the tick empties EX/MEM, and keeps MEM/WB and the storage. -/
theorem tick_after_trap {s t u : CPUCore} {trapped : Option (Fin 2)} (running : s.running = true)
    (accessed : s.atMemoryAccess.memoryAccess = .ok (t, trapped)) (ticked : s.tick = .ok u)
    (noIfId : t.ifId = {}) (noIdEx : t.idEx = {}) :
    (forall lane, (u.exMem.slots.get lane).valid = false ∧ (u.idEx.slots.get lane).valid = false) ∧
      u.memWb = t.memWb ∧ SameStorage t.memory u.memory := by
  rw [tick_running running, accessed] at ticked
  have invalid : forall lane, (t.idEx.slots.get lane).valid = false := by
    rw [noIdEx]
    decide
  have executed := execute_of_invalid invalid
  have issued : t.execute.decodeAndIssue = t.execute := by
    rw [executed]
    apply decodeAndIssue_of_empty
    · rw [noIfId]
    · exact invalid 0
  change t.execute.decodeAndIssue.fetch = .ok u at ticked
  rw [issued, executed] at ticked
  have ordered : t.ifId.slots.s1.valid = true -> t.ifId.slots.s0.valid = true := by
    rw [noIfId]
    exact Bool.false_ne_true.elim
  have killed : forall lane : Fin 2, ((⟨{}, {}⟩ : Dual PipelineSlot).get lane).valid = false := by decide
  have fetched := fetch_fetch (s := { t with exMem := { pc := t.idEx.pc } }) ordered ticked
  rcases fetch_backEmpty fetched (fun lane => ⟨killed lane, invalid lane⟩) with ⟨backEmpty, sameMemWb⟩
  exact ⟨backEmpty, sameMemWb, fetched.sameStorage⟩

/-- In every reachable state whose memory stage traps, the trap is precise
exactly if the faulting instruction has no register to write. -/
theorem data_trap_precise_iff {s t u : CPUCore} {lane : Fin 2} (reachable : Reachable s)
    (running : s.running = true) (trapped : s.atMemoryAccess.memoryAccess = .ok (t, some lane))
    (ticked : s.tick = .ok u) :
    (Exists fun older => PreciseDataTrap s lane t u older) ↔ WritesNothing s lane := by
  have pair := (atMemoryAccess_wellFormed reachable.wellFormed).executedPair.toEnginePair
  have sameExMem := (atMemoryAccess_backEnd s).1
  rcases memoryAccess_trap pair.oneAccess trapped with
    ⟨older, olderDone, olderExMem, ⟨olderRegFile, _⟩, fresh, alone, outcome⟩
  rcases outcome.trap with ⟨valid, accesses, storage, registers, frontEmpty, memWbEq⟩
  rcases tick_after_trap running trapped ticked frontEmpty.1 frontEmpty.2 with
    ⟨backEmpty, sameMemWb, sameStorage⟩
  have writes : registerWrites u.memWb = registerWrites older.memWb ↔ WritesNothing s lane := by
    rw [sameMemWb, memWbEq, registerWrites_set_iff fresh alone, olderExMem, sameExMem]
    rw [olderExMem, sameExMem] at valid accesses
    exact slotWrites_eq_nil_iff (sameExMem ▸ pair) valid accesses
  constructor
  · rintro ⟨other, precise⟩
    have same : older = other := Except.ok.inj (olderDone.symm.trans precise.olderDone)
    subst same
    exact writes.mp precise.writes
  · intro nothing
    have retired : s.atMemoryAccess.regFile.gpr =
        applyWrites s.atWriteBack.regFile.gpr (registerWrites s.memWb) := by
      rw [atMemoryAccess, writeBack_regFile, (atWriteBack_backEnd s).2]
    exact ⟨older, olderDone, retired, storage.sameStorage.trans sameStorage, olderRegFile ▸ registers, frontEmpty,
      backEmpty, writes.mpr nothing⟩

/-! ## Two runs -/

/-- The state in which the memory stage meets a misaligned access that is the
first instruction of a program. -/
def atMisaligned (word : Word) : Except Crash CPUCore :=
  iterate tick 3 (init .default128MB (ramImage [(0, word)]) {})

/-- Does the memory stage of the next tick trap in lane 0, in a tick whose end
passes the test? -/
def trapsAndPasses (test : CPUCore -> Bool) (s : CPUCore) : Bool :=
  s.running && passes s.atMemoryAccess.memoryAccess (fun out => out.2 == some 0) && passes s.tick test

theorem exists_of_trapsAndPasses {word : Word} {test : CPUCore -> Bool}
    (passed : passes (atMisaligned word) (trapsAndPasses test) = true) :
    Exists fun s => Exists fun t => Exists fun u => Reachable s ∧ s.running = true ∧
      s.atMemoryAccess.memoryAccess = .ok (t, some 0) ∧ s.tick = .ok u ∧ atMisaligned word = .ok s ∧
        test u = true := by
  rcases exists_of_passes passed with ⟨s, run, tests⟩
  simp only [trapsAndPasses, Bool.and_eq_true] at tests
  rcases exists_of_passes tests.1.2 with ⟨⟨t, lane⟩, trapped, inLane0⟩
  rcases exists_of_passes tests.2 with ⟨u, ticked, passesTest⟩
  have lane0 : lane = some 0 := beq_iff_eq.mp inLane0
  rw [lane0] at trapped
  exact ⟨s, t, u, ⟨_, _, _, 3, run⟩, tests.1.1, trapped, ticked, run, passesTest⟩

/-- `sw x0, 1(x0)` traps precisely. -/
theorem data_trap_precise_iff_store : Exists fun s => Exists fun t => Exists fun u =>
    s.atMemoryAccess.memoryAccess = .ok (t, some 0) ∧ s.tick = .ok u ∧
      Exists fun older => PreciseDataTrap s 0 t u older := by
  have passed : passes (atMisaligned 0x000020A3#32) (trapsAndPasses (fun _ => true)) = true := by
    decide +kernel
  have store : passes (atMisaligned 0x000020A3#32) (fun s => !s.exMem.memRead.s0) = true := by
    decide +kernel
  rcases exists_of_trapsAndPasses passed with ⟨s, t, u, reachable, running, trapped, ticked, run, _⟩
  rw [run] at store
  refine ⟨s, t, u, trapped, ticked, ?_⟩
  exact (data_trap_precise_iff reachable running trapped ticked).mpr (.inl (by simpa [passes] using store))

/-- `lw x5, 1(x0)` traps, and its address is then written to `x5`. -/
theorem faulting_load_writes_register : Exists fun s => Exists fun t => Exists fun u => Reachable s ∧
    s.running = true ∧ s.atMemoryAccess.memoryAccess = .ok (t, some 0) ∧ s.tick = .ok u ∧
      (u.regFile.gpr 5 = 0 ∧ u.atMemoryAccess.regFile.gpr 5 = 1) ∧
        ¬Exists fun older => PreciseDataTrap s 0 t u older := by
  have passed : passes (atMisaligned 0x00102283#32) (trapsAndPasses (fun u =>
      decide (registerWrites u.memWb = [(5, 1)]) && decide (u.atMemoryAccess.regFile.gpr 5 = 1) &&
        decide (u.regFile.gpr 5 = 0))) = true := by
    decide +kernel
  rcases exists_of_trapsAndPasses passed with ⟨s, t, u, reachable, running, trapped, ticked, _, test⟩
  simp only [Bool.and_eq_true, decide_eq_true_eq] at test
  refine ⟨s, t, u, reachable, running, trapped, ticked, ⟨test.2, test.1.2⟩, ?_⟩
  rintro ⟨older, precise⟩
  have start : older = { s.atMemoryAccess with memWb := {} } := Except.ok.inj precise.olderDone.symm
  have writes := precise.writes
  rw [start, test.1.1] at writes
  cases writes

end Traps
end SimpleRV
