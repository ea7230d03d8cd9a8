import SimpleRV.Pipeline.AccessAddress
import SimpleRV.Privilege.TrapStack
import SimpleRV.Translation.Sv32
import SimpleRV.Traps.Encodings
import SimpleRV.Traps.ExecuteTraps
import SimpleRV.Traps.Interrupts

namespace SimpleRV
namespace Traps

open IssueUnit CPUCore RegisterFile Pipeline Privilege Translation Iteration

/-!
# The record of a trap

Two stages call `handleTrap`, for either lane.  A handler finds the address of
the instruction in xEPC and its kind in xCAUSE, and skips the instruction by
adding four.  `memoryAccess` and the illegal-instruction trap record the
address; the ECALL trap adds the four itself.
-/

/-- The synchronous exceptions of the memory and the execute stage. -/
inductive Exception where
  | ecall
  | illegal
  | misaligned (kind : AccessKind)
  | pageFault (kind : AccessKind)
deriving DecidableEq

/-- The code of an exception that is raised in a mode. -/
def Exception.code (mode : Byte) : Exception -> Word
  | ecall => 8#32 + mode.setWidth 32
  | illegal => MCAUSE_ILLEGAL
  | misaligned kind => if kind.isWrite then MCAUSE_STORE_MISALIGNED else MCAUSE_LOAD_MISALIGNED
  | pageFault kind => kind.pageFault

/-- The kind of access that the instruction of a lane makes. -/
def accessKind (s : CPUCore) (lane : Fin 2) : AccessKind :=
  if isLoad (decode (s.exMem.slots.get lane).instr) then .load else .store

/-- The exception of an access that traps. -/
def accessException (s : CPUCore) (lane : Fin 2) : Exception :=
  if CPUCore.misaligned (s.exMem.memAddr.get lane) (accessWidth s.exMem lane) then .misaligned (accessKind s lane)
  else .pageFault (accessKind s lane)

/-- A lane raises an exception in the tick that starts in `s`.  `before` and
`after` are the core around the call of `handleTrap`. -/
inductive Raises (s : CPUCore) (lane : Fin 2) : Exception -> CPUCore -> CPUCore -> Prop where
  | access {older t : CPUCore} (before : olderAccesses s.atMemoryAccess lane = .ok older)
      (ran : s.atMemoryAccess.memoryAccess = .ok (t, some lane)) : Raises s lane (accessException older lane) older t
  | ecall {x : CPUCore} (reached : s.atExecute = .ok x) (taken : trapLane x.executeResolved.exMem = some lane)
      (instr : (decode (x.executeResolved.exMem.slots.get lane).instr).isEcall = true) :
      Raises s lane .ecall x.executeResolved x.execute
  | illegal {x : CPUCore} (reached : s.atExecute = .ok x) (taken : trapLane x.executeResolved.exMem = some lane)
      (instr : (decode (x.executeResolved.exMem.slots.get lane).instr).isIllegal = true) :
      Raises s lane .illegal x.executeResolved x.execute

/-- The trap CSRs of S mode or of M mode. -/
def trapCsrs (regFile : RegisterFile) (mode : Byte) : Addr × Word × Word :=
  if mode = PRV_S then (regFile.sepc, regFile.scause, regFile.stval)
  else (regFile.mepc, regFile.mcause, regFile.mtval)

/-- A trap at an address is recorded for the mode that handles it. -/
structure RecordsTrap (before after : RegisterFile) (address : Addr) (code : Word) : Prop where
  target : after.privilege = if toSupervisor before code then PRV_S else PRV_M
  epc : (trapCsrs after after.privilege).1 = address
  cause : (trapCsrs after after.privilege).2.1 = code
  /-- The other mode's EPC, cause and value. -/
  other : forall mode, mode = PRV_S ∨ mode = PRV_M -> mode ≠ after.privilege ->
    trapCsrs after mode = trapCsrs before mode
  /-- A handler that adds four returns to the next instruction. -/
  resumes : forall handler : RegisterFile, handler.privilege = after.privilege ->
    Traps.epc handler = Traps.epc after + 4 -> (handlerReturn handler).2 = address + 4

theorem handleTrap_privilege (regFile : RegisterFile) (address code tval : Word) :
    (regFile.handleTrap address code tval).1.privilege = if toSupervisor regFile code then PRV_S else PRV_M := by
  unfold RegisterFile.handleTrap toSupervisor
  simp only
  split
  · rfl
  · rfl

theorem handleTrap_trapCsrs (regFile : RegisterFile) (address code tval : Word) (mode : Byte)
    (known : mode = PRV_S ∨ mode = PRV_M) :
    trapCsrs (regFile.handleTrap address code tval).1 mode =
      if mode = (regFile.handleTrap address code tval).1.privilege then (address, code, tval)
      else trapCsrs regFile mode := by
  rw [handleTrap_privilege]
  unfold RegisterFile.handleTrap
  cases target : toSupervisor regFile code with
  | true =>
      simp only [show (regFile.exceptionDelegated code && regFile.privilege != PRV_M) = true from target, if_true]
      rcases known with supervisor | machine
      · subst supervisor
        rfl
      · subst machine
        rfl
  | false =>
      simp only [show (regFile.exceptionDelegated code && regFile.privilege != PRV_M) = false from target,
        Bool.false_eq_true, if_false]
      rcases known with supervisor | machine
      · subst supervisor
        rfl
      · subst machine
        rfl

theorem handleTrap_recorded (regFile : RegisterFile) (address code tval : Word) :
    trapCsrs (regFile.handleTrap address code tval).1 (regFile.handleTrap address code tval).1.privilege =
      (address, code, tval) := by
  rw [handleTrap_trapCsrs, if_pos rfl]
  rw [handleTrap_privilege]
  cases toSupervisor regFile code with
  | true => exact .inl rfl
  | false => exact .inr rfl

/-- `epc` looks where the record is. -/
theorem epc_eq_trapCsrs (regFile : RegisterFile) : epc regFile = (trapCsrs regFile regFile.privilege).1 := by
  unfold epc trapCsrs
  split
  · rfl
  · rfl

/-- `handleTrap` records what it is called with. -/
theorem handleTrap_recordsTrap (regFile : RegisterFile) (address code tval : Word) :
    RecordsTrap regFile (regFile.handleTrap address code tval).1 address code where
  target := handleTrap_privilege regFile address code tval
  epc := congrArg Prod.fst (handleTrap_recorded regFile address code tval)
  cause := congrArg (fun csrs => csrs.2.1) (handleTrap_recorded regFile address code tval)
  other := by
    intro mode known different
    rw [handleTrap_trapCsrs regFile address code tval mode known, if_neg different]
  resumes := by
    intro handler _ advanced
    rw [handlerReturn_target, advanced, epc_eq_trapCsrs, handleTrap_recorded]

/-! ## Accesses -/

/-- What the TLB serves does not fault. -/
theorem tlbLookup_noFault {mem : MemorySystem} {vpn : Word} {result : TranslationResult} {isWrite isFetch : Bool}
    (served : (mem.tlbLookup vpn result isWrite isFetch).1 = true) :
    (mem.tlbLookup vpn result isWrite isFetch).2.fault = false := by
  unfold MemorySystem.tlbLookup at served ⊢
  cases found : mem.tlbMatch vpn with
  | none =>
      rw [found] at served
      cases served
  | some entry =>
      rw [found] at served
      simp only at served ⊢
      split at served
      · cases served
      · rename_i permitted
        rw [if_neg permitted]

/-- A translation that faults reports the kind of its access. -/
theorem translate_fault_cause {mem after : MemorySystem} {vaddr : Addr} {kind : AccessKind} {satp : Word}
    {privilege : Byte} {found : TranslationResult}
    (ran : mem.translate vaddr kind.isWrite kind.isFetch satp privilege = .ok (found, after))
    (faults : found.fault = true) : found.cause = kind.pageFault := by
  let mmu : Mmu := ⟨mem, satp⟩
  cases on : mmu.translates privilege with
  | false =>
      have bare := translate_bare on vaddr kind.isWrite kind.isFetch
      cases bare.symm.trans ran
      cases faults
  | true =>
      have translated := (translate_translated on vaddr kind.isWrite kind.isFetch).symm.trans ran
      have served := @tlbLookup_noFault mem (vpnOf vaddr) (identity vaddr) kind.isWrite kind.isFetch
      cases hit : mem.tlbLookup (vpnOf vaddr) (identity vaddr) kind.isWrite kind.isFetch with
      | mk inTlb result =>
          simp only [show mmu.memory = mem from rfl, hit] at translated served
          cases inTlb with
          | true =>
              cases translated
              exact absurd faults (ne_true_of_eq_false (served rfl))
          | false =>
              simp only [walk_eq] at translated
              rcases map_eq_ok.mp translated with ⟨leaf, _, outEq⟩
              cases leaf with
              | none =>
                  cases outEq
                  exact pageFaultCause_eq kind
              | some leaf =>
                  simp only [finishWalk_eq] at outEq
                  split at outEq
                  · cases outEq
                    cases faults
                  · cases outEq
                    rfl

theorem access_trap_code {s : CPUCore} (pair : EnginePair s.exMem) {lane : Fin 2} {cause : Word} {mem : MemorySystem}
    (valid : (s.exMem.slots.get lane).valid = true) (trap : laneAccess s lane = .ok (.trap cause, mem)) (mode : Byte) :
    cause = (accessException s lane).code mode := by
  have accesses := (laneAccess_trap trap).2
  have reads := (pair.controls lane valid).1
  have address := laneAccess_eq accesses
  rw [trap] at address
  rcases bind_eq_ok.mp address.symm with ⟨found, addressEq, performed⟩
  cases found with
  | done paddr =>
      rcases perform_done performed with ⟨value, impossible⟩
      cases impossible
  | trap other =>
      have same : other = cause := by
        cases congrArg (Except.map Prod.fst) performed
        rfl
      subst same
      unfold accessAddress at addressEq
      simp only at addressEq
      unfold accessException accessKind
      rw [← reads]
      split at addressEq
      · rename_i unaligned
        rw [if_pos unaligned]
        cases addressEq
        cases s.exMem.memRead.get lane with
        | true => rfl
        | false => rfl
      · rename_i aligned
        rw [if_neg aligned]
        rcases map_eq_ok.mp addressEq with ⟨⟨found, after⟩, translated, outEq⟩
        simp only at outEq
        split at outEq
        · rename_i faults
          cases outEq
          cases access : s.exMem.memRead.get lane with
          | true =>
              rw [access] at translated
              exact @translate_fault_cause _ _ _ .load _ _ _ translated faults
          | false =>
              rw [access] at translated
              exact @translate_fault_cause _ _ _ .store _ _ _ translated faults
        · cases outEq

/-! ## All exceptions -/

/-- What the execute stage calls `handleTrap` with. -/
theorem execute_trap_regFile {x : CPUCore} (pair : EnginePair x.executeResolved.exMem) {lane : Fin 2}
    (taken : trapLane x.executeResolved.exMem = some lane) :
    let d := decode (x.executeResolved.exMem.slots.get lane).instr
    (d.isEcall = true -> x.execute.regFile = (x.executeResolved.regFile.handleTrap
      (lanePc x.executeResolved lane + 4) x.executeResolved.regFile.ecallCause 0).1) ∧
    (d.isEcall = false -> d.isIllegal = true -> x.execute.regFile = (x.executeResolved.regFile.handleTrap
      (lanePc x.executeResolved lane) MCAUSE_ILLEGAL (x.executeResolved.exMem.slots.get lane).instr).1) := by
  rcases trapLane_some taken with ⟨_, valid, _⟩
  have decoded := (pair.ran lane valid).d
  rw [execute, handleSlotTraps_some taken]
  unfold trapTarget
  rw [decoded]
  constructor
  · intro ecall
    rw [if_pos ecall]
    rfl
  · intro notEcall illegal
    rw [if_neg (ne_true_of_eq_false notEcall), if_pos illegal]
    rfl

/-- An exception of any reachable state is recorded with the address of its
instruction unless it is an ECALL. -/
theorem trap_record_iff {s before after : CPUCore} {lane : Fin 2} {kind : Exception} (reachable : Reachable s)
    (raises : Raises s lane kind before after) :
    RecordsTrap before.regFile after.regFile (before.exMem.pc + BitVec.ofNat 32 (4 * lane.val))
        (kind.code before.regFile.privilege) ↔
      kind ≠ .ecall := by
  cases raises with
  | access done ran =>
      have pair := (atMemoryAccess_wellFormed reachable.wellFormed).executedPair.toEnginePair
      rcases memoryAccess_trap pair.oneAccess ran with ⟨other, otherDone, sameExMem, _, _, _, outcome⟩
      cases otherDone.symm.trans done
      rcases laneOutcome_trap_regFile outcome with ⟨cause, mem, valid, access, recorded⟩
      have code := access_trap_code (sameExMem ▸ pair) valid access before.regFile.privilege
      rw [recorded, code]
      constructor
      · intro _
        unfold accessException
        split
        · exact fun same => by cases same
        · exact fun same => by cases same
      · intro _
        exact handleTrap_recordsTrap before.regFile _ _ _
  | ecall reached taken ecall =>
      rename_i x
      have pair := (executeResolved_wellFormed (atExecute_wellFormed reachable.wellFormed reached)).2.1
      have recorded := (execute_trap_regFile pair taken).1 ecall
      constructor
      · intro records
        have address := records.epc
        rw [recorded, handleTrap_recorded] at address
        have self : lanePc x.executeResolved lane + 4 = lanePc x.executeResolved lane := address
        exact absurd self (by bv_omega)
      · exact fun different => absurd rfl different
  | illegal reached taken illegal =>
      rename_i x
      have pair := (executeResolved_wellFormed (atExecute_wellFormed reachable.wellFormed reached)).2.1
      have recorded := (execute_trap_regFile pair taken).2 (decode_isEcall illegal) illegal
      rw [recorded]
      constructor
      · exact fun _ same => by cases same
      · intro _
        exact handleTrap_recordsTrap x.executeResolved.regFile _ _ _

/-! ## Two runs -/

/-- An illegal word at address 0. -/
theorem trap_record_iff_illegal : Exists fun s => Exists fun x : CPUCore => Reachable s ∧
    Raises s 0 .illegal x.executeResolved x.execute ∧
      RecordsTrap x.executeResolved.regFile x.execute.regFile (x.executeResolved.exMem.pc + 0#32) MCAUSE_ILLEGAL := by
  have passed : passes (atPair 0xFFFFFFFF#32 0x00700293#32) (fun s =>
      passes s.atExecute (fun x => trapLane x.executeResolved.exMem == some 0 &&
        (decode x.executeResolved.exMem.slots.s0.instr).isIllegal)) = true := by
    decide +kernel
  rcases exists_of_atPair passed with ⟨s, x, reachable, reached, taken, illegal⟩
  have raises : Raises s 0 .illegal x.executeResolved x.execute := .illegal reached taken illegal
  exact ⟨s, x, reachable, raises, (trap_record_iff reachable raises).mpr (by decide)⟩

/-- An ECALL at address 0.  The handler that adds four returns to 8. -/
theorem ecall_records_next_address : Exists fun s => Exists fun x : CPUCore => Reachable s ∧
    Raises s 0 .ecall x.executeResolved x.execute ∧ x.executeResolved.exMem.pc = 0 ∧
      x.execute.regFile.mepc = 4 ∧
      (handlerReturn (x.execute.regFile.writeCsr CSR_MEPC (x.execute.regFile.readCsr CSR_MEPC + 4))).2 = 8 ∧
      ¬RecordsTrap x.executeResolved.regFile x.execute.regFile x.executeResolved.exMem.pc MCAUSE_ECALL_M := by
  have passed : passes (atPair 0x00000073#32 0x00700293#32) (fun s =>
      passes s.atExecute (fun x => trapLane x.executeResolved.exMem == some 0 &&
        ((decode x.executeResolved.exMem.slots.s0.instr).isEcall && decide (x.executeResolved.exMem.pc = 0) &&
          decide (x.execute.regFile.mepc = 4) && decide (x.execute.regFile.privilege = PRV_M)))) = true := by
    decide +kernel
  rcases exists_of_atPair passed with ⟨s, x, reachable, reached, taken, test⟩
  simp only [Bool.and_eq_true, decide_eq_true_eq] at test
  rcases test with ⟨⟨⟨ecall, pc⟩, mepc⟩, machine⟩
  have notSupervisor : x.execute.regFile.privilege ≠ PRV_S := by
    rw [machine]
    decide
  refine ⟨s, x, reachable, .ecall reached taken ecall, pc, mepc, ?_, fun records => ?_⟩
  · rw [handlerReturn_target]
    change (if x.execute.regFile.privilege = PRV_S then _ else x.execute.regFile.mepc + 4) = _
    rw [if_neg notSupervisor, mepc]
    rfl
  · have address := records.epc
    unfold trapCsrs at address
    rw [if_neg notSupervisor, pc] at address
    exact absurd (mepc.symm.trans address) (by decide)

end Traps
end SimpleRV
