import SimpleRV.Pipeline.WellFormed

namespace SimpleRV
namespace Pipeline

open IssueUnit MemorySystem CPUCore Iteration

/-!
# An access is an address and what is done there

The memory stage with the translation taken out.  What a tick shows of the
stage depends on EX/MEM, on memory and devices without the TLB, and on the
physical address of the one access that a pair can contain.
-/

/-- Memory and devices, without the TLB. -/
def storage (mem : MemorySystem) : MemorySystem := { mem with tlb := fun _ => {}, tlbReplaceIdx := 0 }

theorem OnlyTlb.storage_eq {before after : MemorySystem} (only : OnlyTlb before after) :
    storage after = storage before := by
  rcases only with ⟨tlb, index, afterEq⟩
  rw [afterEq]
  rfl

theorem read_storage (mem : MemorySystem) (addr : Addr) (n : Nat) :
    (storage mem).read addr n = (mem.read addr n).map (fun out => (out.1, storage out.2)) := by
  unfold MemorySystem.read
  simp only
  by_cases clint : inClint addr = true
  · rw [if_pos clint, if_pos clint]
    rfl
  rw [if_neg clint, if_neg clint]
  by_cases status : addr = UART_LSR_ADDR
  · rw [if_pos status, if_pos status]
    rfl
  rw [if_neg status, if_neg status]
  by_cases receive : addr = UART_TX_ADDR
  · have sameKeyboard : (storage mem).keyboard = mem.keyboard := rfl
    rw [if_pos receive, if_pos receive, sameKeyboard]
    by_cases waiting : mem.keyboard.checkHostKeyboard.hasBufferedChar = true
    · rw [if_pos waiting, if_pos waiting]
      rfl
    · rw [if_neg waiting, if_neg waiting]
      rfl
  rw [if_neg receive, if_neg receive]
  by_cases outside : addr + BitVec.ofNat 32 n > MEMORY_SIZE
  · rw [if_pos outside, if_pos outside]
    rfl
  rw [if_neg outside, if_neg outside]
  unfold loadBytes
  split
  · rfl
  · rfl

theorem write_storage (mem : MemorySystem) (addr : Addr) (n : Nat) (data : Word) :
    (storage mem).write addr n data = (mem.write addr n data).map storage := by
  unfold MemorySystem.write storeBytes
  split
  · split
    · rfl
    · split
      · rfl
      · rfl
  · split
    · rfl
    · split
      · rfl
      · split
        · rfl
        · rfl

/-! ## The access of a lane -/

def accessWidth (exMem : ExMemBuffer) (lane : Fin 2) : Nat :=
  if exMem.memRead.get lane then loadWidth (memFunct3 (exMem.slots.get lane).instr)
  else storeWidth (memFunct3 (exMem.slots.get lane).instr)

/-- The physical address that the access of a lane has at a privilege, or the
trap that it takes: the alignment check, then the translation. -/
def accessAddress (s : CPUCore) (lane : Fin 2) (privilege : Byte) : Except Crash (Access Addr) :=
  let reads := s.exMem.memRead.get lane
  let addr := s.exMem.memAddr.get lane
  if misaligned addr (accessWidth s.exMem lane) then
    .ok (.trap (if reads then MCAUSE_LOAD_MISALIGNED else MCAUSE_STORE_MISALIGNED))
  else
    (s.memory.translate addr (!reads) false (s.regFile.readCsr CSR_SATP) privilege).map
      (fun out => if out.1.fault then .trap out.1.cause else .done out.1.paddr)

/-- What is left of the access once its address is known. -/
def perform (exMem : ExMemBuffer) (lane : Fin 2) (mem : MemorySystem) :
    Access Addr -> Except Crash (Access Word × MemorySystem)
  | .trap cause => .ok (.trap cause, mem)
  | .done paddr =>
      if exMem.memRead.get lane then
        (mem.read paddr (accessWidth exMem lane)).map
          (fun out => (.done (extendLoad (memFunct3 (exMem.slots.get lane).instr) out.1), out.2))
      else
        (mem.write paddr (accessWidth exMem lane) (exMem.memData.get lane)).map
          (fun mem => (.done (exMem.slots.get lane).result, mem))

/-- At a physical address nothing traps. -/
theorem perform_done {exMem : ExMemBuffer} {lane : Fin 2} {mem mem' : MemorySystem} {paddr : Addr}
    {result : Access Word} (ran : perform exMem lane mem (.done paddr) = .ok (result, mem')) :
    Exists fun value => result = .done value := by
  unfold perform at ran
  simp only at ran
  split at ran
  · rcases map_eq_ok.mp ran with ⟨out, _, outEq⟩
    exact ⟨_, (congrArg Prod.fst outEq).symm⟩
  · rcases map_eq_ok.mp ran with ⟨out, _, outEq⟩
    exact ⟨_, (congrArg Prod.fst outEq).symm⟩

theorem laneAccess_load {s : CPUCore} {lane : Fin 2} (reads : s.exMem.memRead.get lane = true) :
    (laneAccess s lane).map (fun out => (out.1, storage out.2)) =
      (accessAddress s lane s.regFile.privilege).bind (perform s.exMem lane (storage s.memory)) := by
  unfold laneAccess accessAddress
  simp only [accessWidth, reads, if_true, Bool.not_true, loadAccess]
  by_cases unaligned : misaligned (s.exMem.memAddr.get lane)
    (loadWidth (memFunct3 (s.exMem.slots.get lane).instr)) = true
  · rw [if_pos unaligned, if_pos unaligned]
    rfl
  rw [if_neg unaligned, if_neg unaligned]
  cases translated : s.memory.translate (s.exMem.memAddr.get lane) false false (s.regFile.readCsr CSR_SATP)
      s.regFile.privilege with
  | error failure => rfl
  | ok out =>
      rcases out with ⟨found, mem⟩
      have same := (translate_onlyTlb translated).storage_eq
      cases faults : found.fault with
      | true => simp [bind, Except.bind, pure, Except.pure, Except.map, faults, perform, same]
      | false =>
          have read := read_storage mem found.paddr (loadWidth (memFunct3 (s.exMem.slots.get lane).instr))
          rw [same] at read
          simp only [bind, Except.bind, Except.map, faults, Bool.false_eq_true, if_false, perform, reads, if_true,
            accessWidth, read]
          cases mem.read found.paddr (loadWidth (memFunct3 (s.exMem.slots.get lane).instr)) <;> rfl

theorem laneAccess_store {s : CPUCore} {lane : Fin 2} (notRead : s.exMem.memRead.get lane = false)
    (writes : s.exMem.memWrite.get lane = true) :
    (laneAccess s lane).map (fun out => (out.1, storage out.2)) =
      (accessAddress s lane s.regFile.privilege).bind (perform s.exMem lane (storage s.memory)) := by
  unfold laneAccess accessAddress
  simp only [accessWidth, notRead, writes, if_true, Bool.not_false, storeAccess, Bool.false_eq_true, if_false]
  by_cases unaligned : misaligned (s.exMem.memAddr.get lane)
    (storeWidth (memFunct3 (s.exMem.slots.get lane).instr)) = true
  · rw [if_pos unaligned, if_pos unaligned]
    rfl
  rw [if_neg unaligned, if_neg unaligned]
  cases translated : s.memory.translate (s.exMem.memAddr.get lane) true false (s.regFile.readCsr CSR_SATP)
      s.regFile.privilege with
  | error failure => rfl
  | ok out =>
      rcases out with ⟨found, mem⟩
      have same := (translate_onlyTlb translated).storage_eq
      cases faults : found.fault with
      | true => simp [bind, Except.bind, pure, Except.pure, Except.map, faults, perform, same]
      | false =>
          have written := write_storage mem found.paddr (storeWidth (memFunct3 (s.exMem.slots.get lane).instr))
            (s.exMem.memData.get lane)
          rw [same] at written
          simp only [bind, Except.bind, Except.map, faults, Bool.false_eq_true, if_false, perform, notRead,
            accessWidth, written]
          cases mem.write found.paddr (storeWidth (memFunct3 (s.exMem.slots.get lane).instr))
            (s.exMem.memData.get lane) <;> rfl

/-- Once the address is known, an access no longer depends on the TLB or on
the registers. -/
theorem laneAccess_eq {s : CPUCore} {lane : Fin 2}
    (accesses : s.exMem.memRead.get lane = true ∨ s.exMem.memWrite.get lane = true) :
    (laneAccess s lane).map (fun out => (out.1, storage out.2)) =
      (accessAddress s lane s.regFile.privilege).bind (perform s.exMem lane (storage s.memory)) := by
  cases reads : s.exMem.memRead.get lane with
  | true => exact laneAccess_load reads
  | false => exact laneAccess_store reads (accesses.resolve_left (ne_true_of_eq_false reads))

/-! ## The stage -/

/-- What a tick shows of its memory stage: MEM/WB, the lane that trapped, and
memory and devices. -/
def observed (out : CPUCore × Option (Fin 2)) : (MemWbBuffer × Option (Fin 2)) × MemorySystem :=
  ((out.1.memWb, out.2), storage out.1.memory)

/-- A slot that makes no access, behind the stage. -/
def latched (slot : PipelineSlot) : PipelineSlot := if slot.valid then slot else {}

/-- MEM/WB and the lane that trapped, when the one access of the pair, in this
lane, has ended. -/
def stageEnd (exMem : ExMemBuffer) (lane : Fin 2) : Access Word -> MemWbBuffer × Option (Fin 2)
  | .trap _ => (⟨(Dual.mk (latched exMem.slots.s0) {}).set lane (exMem.slots.get lane)⟩, some lane)
  | .done value =>
      (⟨(Dual.mk (latched exMem.slots.s0) (latched exMem.slots.s1)).set lane
        { exMem.slots.get lane with result := value }⟩, none)

/-- The lane makes no access. -/
def Idle (exMem : ExMemBuffer) (lane : Fin 2) : Prop :=
  (exMem.slots.get lane).valid = true -> exMem.memRead.get lane = false ∧ exMem.memWrite.get lane = false

theorem memoryAccessLane_idle {s : CPUCore} {lane : Fin 2} (idle : Idle s.exMem lane)
    (free : s.memWb.slots.get lane = {}) : s.memoryAccessLane lane =
      .ok ({ s with memWb := ⟨s.memWb.slots.set lane (latched (s.exMem.slots.get lane))⟩ }, false) := by
  unfold latched
  cases valid : (s.exMem.slots.get lane).valid with
  | false =>
      have same : s.memWb.slots.set lane {} = s.memWb.slots := by
        rw [← free]
        cases lane using laneCases with
        | zero => rfl
        | one => rfl
      rw [memoryAccessLane_invalid valid, if_neg Bool.false_ne_true, same]
  | true =>
      rcases idle valid with ⟨notRead, notWrite⟩
      rw [memoryAccessLane_eq valid (fun reads => absurd reads (ne_true_of_eq_false notRead)), if_pos rfl]
      simp only [laneAccess, notRead, notWrite, Bool.false_eq_true, if_false]
      rfl

/-- With no access in either lane the stage moves the slots on. -/
theorem memoryAccess_idle {s : CPUCore} (idle : forall lane, Idle s.exMem lane) : s.memoryAccess =
    .ok ({ s with memWb := ⟨⟨latched s.exMem.slots.s0, latched s.exMem.slots.s1⟩⟩ }, none) := by
  have first := @memoryAccessLane_idle { s with memWb := {} } 0 (idle 0) rfl
  have second := @memoryAccessLane_idle { s with memWb := ⟨⟨latched s.exMem.slots.s0, {}⟩⟩ } 1 (idle 1) rfl
  exact memoryAccess_of_lanes first second

/-- Of an issued pair one lane accesses memory. -/
theorem EnginePair.idle {exMem : ExMemBuffer} (pair : EnginePair exMem) {lane other : Fin 2}
    (valid : (exMem.slots.get lane).valid = true)
    (accesses : exMem.memRead.get lane = true ∨ exMem.memWrite.get lane = true) (different : other ≠ lane) :
    Idle exMem other := by
  have isMemory : forall lane, (exMem.slots.get lane).valid = true ->
      exMem.memRead.get lane = true ∨ exMem.memWrite.get lane = true ->
        (decode (exMem.slots.get lane).instr).isMemory = true := by
    intro lane valid accesses
    rcases pair.controls lane valid with ⟨readEq, writeEq⟩
    rcases accesses with reads | writes
    · exact (Bool.and_eq_true_iff.mp (readEq.symm.trans reads)).1
    · exact (Bool.and_eq_true_iff.mp (writeEq.symm.trans writes)).1
  have here := isMemory lane valid accesses
  intro otherValid
  have there : (decode (exMem.slots.get other).instr).isMemory = false := by
    cases lane using laneCases with
    | zero =>
        cases other using laneCases with
        | zero => exact absurd rfl different
        | one => exact (canIssueTogether_together (pair.paired otherValid)).oneMemory here
    | one =>
        cases other using laneCases with
        | zero =>
            cases memory0 : (decode exMem.slots.s0.instr).isMemory with
            | false => exact memory0
            | true =>
                have memory1 := (canIssueTogether_together (pair.paired valid)).oneMemory memory0
                exact absurd here (ne_true_of_eq_false memory1)
        | one => exact absurd rfl different
  rcases pair.controls other otherValid with ⟨readEq, writeEq⟩
  rw [readEq, writeEq, isLoad, isStore, there]
  exact ⟨rfl, rfl⟩

/-- The stage, by the access of the lane that makes one. -/
theorem memoryAccess_observed {s : CPUCore} {lane : Fin 2} (pair : EnginePair s.exMem)
    (valid : (s.exMem.slots.get lane).valid = true)
    (accesses : s.exMem.memRead.get lane = true ∨ s.exMem.memWrite.get lane = true) :
    s.memoryAccess.map observed =
      (laneAccess s lane).map (fun out => (stageEnd s.exMem lane out.1, storage out.2)) := by
  cases lane using laneCases with
  | zero =>
      have idle := @EnginePair.idle s.exMem pair 0 1 valid accesses (by decide)
      have first : CPUCore.memoryAccessLane { s with memWb := {} } 0 =
          (laneAccess s 0).map (afterAccess { s with memWb := {} } 0) :=
        memoryAccessLane_eq valid (pair.oneAccess 0 valid)
      cases access : laneAccess s 0 with
      | error failure =>
          rw [access] at first
          simp only [CPUCore.memoryAccess, bind, Except.bind, first, Except.map]
      | ok out =>
          rw [access] at first
          rcases out with ⟨cause | value, mem⟩
          · simp only [CPUCore.memoryAccess, bind, Except.bind, first, Except.map]
            rfl
          · have second :=
              @memoryAccessLane_idle (afterAccess { s with memWb := {} } 0 (.done value, mem)).1 1 idle rfl
            rw [memoryAccess_of_lanes first second]
            rfl
  | one =>
      have idle := @EnginePair.idle s.exMem pair 1 0 valid accesses (by decide)
      let mid : CPUCore := { s with memWb := ⟨⟨latched s.exMem.slots.s0, {}⟩⟩ }
      have first : CPUCore.memoryAccessLane { s with memWb := {} } 0 = .ok (mid, false) :=
        memoryAccessLane_idle idle rfl
      have second : mid.memoryAccessLane 1 = (laneAccess s 1).map (afterAccess mid 1) :=
        memoryAccessLane_eq valid (pair.oneAccess 1 valid)
      rw [memoryAccess_of_first first, second]
      cases laneAccess s 1 with
      | error failure => rfl
      | ok out => rcases out with ⟨cause | value, mem⟩ <;> rfl

/-- The stage, by the address of that access. -/
theorem memoryAccess_perform {s : CPUCore} {lane : Fin 2} (pair : EnginePair s.exMem)
    (valid : (s.exMem.slots.get lane).valid = true)
    (accesses : s.exMem.memRead.get lane = true ∨ s.exMem.memWrite.get lane = true) :
    s.memoryAccess.map observed =
      ((accessAddress s lane s.regFile.privilege).bind (perform s.exMem lane (storage s.memory))).map
        (fun out => (stageEnd s.exMem lane out.1, out.2)) := by
  rw [memoryAccess_observed pair valid accesses, ← laneAccess_eq accesses]
  cases laneAccess s lane <;> rfl

/-- The stage ends with a trap of the lane exactly if its address is one. -/
theorem memoryAccess_trap_iff {s : CPUCore} {lane : Fin 2} (pair : EnginePair s.exMem)
    (valid : (s.exMem.slots.get lane).valid = true)
    (accesses : s.exMem.memRead.get lane = true ∨ s.exMem.memWrite.get lane = true) :
    (Exists fun t => s.memoryAccess = .ok (t, some lane)) ↔
      Exists fun cause => accessAddress s lane s.regFile.privilege = .ok (.trap cause) := by
  have stage := memoryAccess_perform pair valid accesses
  constructor
  · rintro ⟨t, trapped⟩
    rw [trapped] at stage
    cases address : accessAddress s lane s.regFile.privilege with
    | error failure =>
        rw [address] at stage
        cases stage
    | ok result =>
        cases result with
        | trap cause => exact ⟨cause, rfl⟩
        | done paddr =>
            rw [address] at stage
            rcases map_eq_ok.mp stage.symm with ⟨⟨result, mem⟩, performed, outEq⟩
            rcases perform_done performed with ⟨value, resultEq⟩
            rw [resultEq] at outEq
            exact absurd (congrArg (fun out => out.1.2) outEq) (by simp [stageEnd, observed])
  · rintro ⟨cause, address⟩
    rw [address] at stage
    rcases map_eq_ok.mp stage with ⟨⟨t, trapped⟩, ran, outEq⟩
    have lanes : trapped = some lane := congrArg (fun out => out.1.2) outEq
    rw [lanes] at ran
    exact ⟨t, ran⟩

/-- Two cores whose accesses have one address show the same stage. -/
theorem memoryAccess_agree {s t : CPUCore} {lane : Fin 2} (pair : EnginePair s.exMem)
    (valid : (s.exMem.slots.get lane).valid = true)
    (accesses : s.exMem.memRead.get lane = true ∨ s.exMem.memWrite.get lane = true) (exMem : t.exMem = s.exMem)
    (memory : t.memory = s.memory)
    (address : accessAddress t lane t.regFile.privilege = accessAddress s lane s.regFile.privilege) :
    t.memoryAccess.map observed = s.memoryAccess.map observed := by
  rw [memoryAccess_perform pair valid accesses, ← address, ← exMem, ← memory]
  rw [← exMem] at pair valid accesses
  exact memoryAccess_perform pair valid accesses

/-! ## The privilege of an access -/

theorem accessAddress_congr {s t : CPUCore} (exMem : t.exMem = s.exMem) (memory : t.memory = s.memory)
    (satp : t.regFile.satp = s.regFile.satp) (lane : Fin 2) (privilege : Byte) :
    accessAddress t lane privilege = accessAddress s lane privilege := by
  have sameSatp : t.regFile.readCsr CSR_SATP = s.regFile.readCsr CSR_SATP := satp
  unfold accessAddress
  rw [exMem, memory, sameSatp]

/-- In machine mode only alignment matters. -/
theorem accessAddress_aligned {s : CPUCore} {lane : Fin 2}
    (aligned : misaligned (s.exMem.memAddr.get lane) (accessWidth s.exMem lane) = false) :
    accessAddress s lane PRV_M = .ok (.done (s.exMem.memAddr.get lane)) := by
  unfold accessAddress
  simp only [aligned, Bool.false_eq_true, if_false]
  rfl

theorem accessAddress_machine {s : CPUCore} {lane : Fin 2}
    (noTrap : forall cause, accessAddress s lane PRV_M ≠ .ok (.trap cause)) :
    accessAddress s lane PRV_M = .ok (.done (s.exMem.memAddr.get lane)) := by
  cases aligned : misaligned (s.exMem.memAddr.get lane) (accessWidth s.exMem lane) with
  | false => exact accessAddress_aligned aligned
  | true =>
      unfold accessAddress at noTrap
      simp only [aligned, if_true] at noTrap
      exact absurd rfl (noTrap _)

/-- Below machine mode the privilege decides the U check of a leaf only. -/
theorem finishWalk_privilege (mem : MemorySystem) (result : TranslationResult) (pte : PTE) (vpnFull paddr : Word)
    (isWrite isFetch : Bool) (privilege : Byte) :
    (mem.finishWalk result pte vpnFull paddr isWrite isFetch privilege).1.fault = true ∨
      mem.finishWalk result pte vpnFull paddr isWrite isFetch PRV_S =
        mem.finishWalk result pte vpnFull paddr isWrite isFetch privilege := by
  unfold finishWalk
  split
  · exact .inl rfl
  · split
    · exact .inl rfl
    · exact .inr rfl

/-- What a lower mode may access, supervisor mode accesses at the same address. -/
theorem translate_privilege (mem : MemorySystem) (vaddr : Addr) (isWrite isFetch : Bool) (satp : Word)
    {privilege : Byte} (lower : privilege ≠ PRV_M) :
    (Exists fun out => mem.translate vaddr isWrite isFetch satp privilege = .ok out ∧ out.1.fault = true) ∨
      mem.translate vaddr isWrite isFetch satp PRV_S = mem.translate vaddr isWrite isFetch satp privilege := by
  unfold MemorySystem.translate
  simp only [if_neg lower, show PRV_S ≠ PRV_M by decide, if_false]
  split
  · exact .inr rfl
  · split
    · exact .inr rfl
    · rw [Translation.walk_eq, Translation.walk_eq]
      cases Translation.walkLeaf mem.memory satp vaddr with
      | error failure => exact .inr rfl
      | ok found =>
          cases found with
          | none => exact .inr rfl
          | some leaf =>
              rcases finishWalk_privilege mem _ leaf.pte (Translation.vpnOf vaddr) (leaf.paddr vaddr) isWrite isFetch
                privilege with faults | same
              · exact .inl ⟨_, rfl, faults⟩
              · exact .inr (congrArg Except.ok same)

theorem accessAddress_privilege (s : CPUCore) (lane : Fin 2) {privilege : Byte} (lower : privilege ≠ PRV_M) :
    (Exists fun cause => accessAddress s lane privilege = .ok (.trap cause)) ∨
      accessAddress s lane PRV_S = accessAddress s lane privilege := by
  unfold accessAddress
  simp only
  split
  · exact .inr rfl
  · rcases translate_privilege s.memory (s.exMem.memAddr.get lane) (!s.exMem.memRead.get lane) false
      (s.regFile.readCsr CSR_SATP) lower with ⟨out, translated, faults⟩ | same
    · refine .inl ⟨out.1.cause, ?_⟩
      rw [translated]
      simp only [Except.map, faults, if_true]
    · exact .inr (by rw [same])

end Pipeline
end SimpleRV
