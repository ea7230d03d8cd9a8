import SimpleRV.Reference.Sequential
import SimpleRV.Refinement.Effects

namespace SimpleRV
namespace Refinement

open RegisterFile IssueUnit CPUCore ExecutionEngine Pipeline InFlight

/-!
# One instruction of the sequential machine

The instructions that a sequential path may consist of, and what each of them
does: a completed instruction has the effect of its slot in flight, a system
instruction changes the CSRs as the core's own code does.
-/

end Refinement

namespace SeqState

open RegisterFile IssueUnit CPUCore ExecutionEngine Pipeline Refinement InFlight

def data (r : SeqState) : DataState := ⟨r.regFile.gpr, r.memory.memory⟩

/-- The instruction at the pc between its execution and its completion. -/
def inFlight (r : SeqState) : InFlight where
  slot := r.executed
  memRead := isLoad r.slot.d
  memWrite := isStore r.slot.d
  memAddr := r.executed.result
  memData := r.regFile.readRs1 r.slot.d.rs2

/-! ## The instructions of a path -/

/-- The opcodes of LUI, AUIPC, JAL, JALR, the branches, loads, stores, OP,
OP-IMM and FENCE. -/
def ordinaryOpcodes : List (BitVec 7) := [0x37, 0x17, 0x6F, 0x67, 0x63, 0x03, 0x23, 0x33, 0x13, 0x0F]

/-- An instruction of the base ISA outside the SYSTEM opcode. -/
def Ordinary (r : SeqState) : Prop := r.slot.d.op ∈ ordinaryOpcodes

/-- A Zicsr instruction on a CSR other than `mip` and `sip`, an ECALL, or an
MRET that stays in machine mode. -/
inductive SystemInstr (r : SeqState) : Prop where
  | csr (isCsr : r.slot.d.isCsr = true) (notMip : r.slot.d.csrAddr ≠ CSR_MIP) (notSip : r.slot.d.csrAddr ≠ CSR_SIP)
  | ecall (isEcall : r.slot.d.isEcall = true)
  | mret (isMret : r.slot.d.isMret = true) (mpp : r.regFile.mstatus &&& MSTATUS_MPP = MSTATUS_MPP)

/-- A word that halts the simulator in WB.  Everywhere else it is a no-op, and
so it is for the sequential machine. -/
def Halts (r : SeqState) : Prop := isHalt r.instr = true

/-- What a path that the pipeline can follow consists of. -/
def Allowed (r : SeqState) : Prop := r.Ordinary ∨ r.SystemInstr ∨ r.Halts

/-- Where an instruction may lie, where it may branch to and what it may access. -/
structure InBounds (r : SeqState) : Prop where
  room : r.pc.toNat + 8 <= MEMORY_SIZE.toNat
  noClint : MemorySystem.inClint r.pc = false
  branchTarget : r.slot.d.op = 0x63 -> r.pc + r.slot.d.imm < MEMORY_SIZE - 8
  access : CanAccess r.inFlight

end SeqState

namespace Refinement

open RegisterFile IssueUnit CPUCore ExecutionEngine Pipeline InFlight

/-! ## What the decoder says about them -/

/-- An ordinary opcode comes with no system flag, and is no halting word. -/
structure Plain (instr : Word) : Prop where
  quiet : trapsInEx (decode instr) = false
  noCsr : (decode instr).isCsr = false
  noSfence : (decode instr).isSfence = false
  noHalt : isHalt instr = false

theorem plain_of_ordinary {r : SeqState} (ordinary : r.Ordinary) : Plain r.instr := by
  have opcode : (decode r.instr).op ∈ SeqState.ordinaryOpcodes := ordinary
  have noHalt : isHalt r.instr = false := by
    cases halts : isHalt r.instr with
    | false => rfl
    | true =>
        rcases Bool.or_eq_true_iff.mp halts with ebreak | zero
        · rw [beq_iff_eq.mp ebreak] at opcode
          exact absurd opcode (by decide)
        · rw [beq_iff_eq.mp zero] at opcode
          exact absurd opcode (by decide)
  suffices flags : trapsInEx (decode r.instr) = false ∧ (decode r.instr).isCsr = false ∧
      (decode r.instr).isSfence = false from ⟨flags.1, flags.2.1, flags.2.2, noHalt⟩
  have same : (decode r.instr).op = (decodeFields r.instr).op := by
    simp only [decode, decodeOpcode]
    split <;> simp
  rw [same] at opcode
  simp only [SeqState.ordinaryOpcodes, List.mem_cons, List.not_mem_nil, or_false] at opcode
  unfold decode decodeOpcode trapsInEx
  rcases opcode with op | op | op | op | op | op | op | op | op | op <;> simp [op] <;> simp [decodeFields]

theorem executeSlotWith_valid (operand : RegNum -> Word) (slot : PipelineSlot) (regFile : RegisterFile)
    (pc : Addr) (slotId : Fin 2) : (executeSlotWith operand slot regFile pc slotId).valid = slot.valid := by
  unfold executeSlotWith executeCSR executeJump executeBranch
  simp only
  repeat' split
  all_goals rfl

/-! ## CSRs -/

/-- Two register files with the same privilege and the same CSRs other than `mip`. -/
def SameCsrs (left right : RegisterFile) : Prop :=
  Exists fun gpr => Exists fun mip => right = { left with gpr := gpr, mip := mip }

theorem SameCsrs.refl (regFile : RegisterFile) : SameCsrs regFile regFile := ⟨regFile.gpr, regFile.mip, rfl⟩

theorem SameCsrs.trans {first second third : RegisterFile} (left : SameCsrs first second)
    (right : SameCsrs second third) : SameCsrs first third := by
  rcases left with ⟨_, _, secondEq⟩
  rcases right with ⟨gpr, mip, thirdEq⟩
  exact ⟨gpr, mip, by rw [thirdEq, secondEq]⟩

theorem SameCsrs.symm {left right : RegisterFile} (same : SameCsrs left right) : SameCsrs right left := by
  rcases same with ⟨_, _, rightEq⟩
  exact ⟨left.gpr, left.mip, by rw [rightEq]⟩

theorem SameCsrs.privilege {left right : RegisterFile} (same : SameCsrs left right) :
    right.privilege = left.privilege := by
  rcases same with ⟨_, _, rightEq⟩
  rw [rightEq]

theorem SameCsrs.readCsr {left right : RegisterFile} (same : SameCsrs left right) {csr : CsrAddr}
    (notMip : csr ≠ CSR_MIP) (notSip : csr ≠ CSR_SIP) : right.readCsr csr = left.readCsr csr := by
  rcases same with ⟨gpr, mip, rightEq⟩
  rw [rightEq]
  unfold RegisterFile.readCsr
  split
  case h_15 => exact absurd rfl notMip
  case h_23 => exact absurd rfl notSip
  all_goals rfl

theorem SameCsrs.writeCsr {left right : RegisterFile} (same : SameCsrs left right) {csr : CsrAddr}
    (notMip : csr ≠ CSR_MIP) (notSip : csr ≠ CSR_SIP) (data : Word) :
    SameCsrs (left.writeCsr csr data) (right.writeCsr csr data) := by
  rcases same with ⟨gpr, mip, rightEq⟩
  refine ⟨gpr, mip, ?_⟩
  rw [rightEq]
  unfold RegisterFile.writeCsr
  split
  case h_11 => exact absurd rfl notMip
  case h_19 => exact absurd rfl notSip
  all_goals rfl

theorem writeCsr_gpr (regFile : RegisterFile) (csr : CsrAddr) (data : Word) :
    (regFile.writeCsr csr data).gpr = regFile.gpr := by
  unfold RegisterFile.writeCsr
  split <;> rfl

theorem writeCsr_privilege (regFile : RegisterFile) (csr : CsrAddr) (data : Word) :
    (regFile.writeCsr csr data).privilege = regFile.privilege := by
  unfold RegisterFile.writeCsr
  split <;> rfl

/-- Trap entry uses no general register and no pending bit. -/
theorem SameCsrs.handleTrap {left right : RegisterFile} (same : SameCsrs left right) (faultPc cause tval : Word) :
    SameCsrs (left.handleTrap faultPc cause tval).1 (right.handleTrap faultPc cause tval).1 ∧
      (right.handleTrap faultPc cause tval).2 = (left.handleTrap faultPc cause tval).2 := by
  rcases same with ⟨gpr, mip, rightEq⟩
  have sameChoice : right.exceptionDelegated cause = left.exceptionDelegated cause := by
    rw [rightEq]
    rfl
  have samePrivilege : right.privilege = left.privilege := by rw [rightEq]
  unfold RegisterFile.handleTrap
  simp only [sameChoice, samePrivilege]
  rw [rightEq]
  cases left.exceptionDelegated cause && left.privilege != PRV_M with
  | false => exact ⟨⟨gpr, mip, rfl⟩, rfl⟩
  | true => exact ⟨⟨gpr, mip, rfl⟩, rfl⟩

/-- So do the other trap returns and entries of EX. -/
theorem SameCsrs.trapTarget {left right : RegisterFile} (same : SameCsrs left right) (slot : PipelineSlot)
    (slotPc : Addr) : SameCsrs (trapTarget left slot slotPc).1 (trapTarget right slot slotPc).1 ∧
      (Pipeline.trapTarget right slot slotPc).2 = (Pipeline.trapTarget left slot slotPc).2 := by
  have sameCause : right.ecallCause = left.ecallCause := by rw [ecallCause, ecallCause, same.privilege]
  unfold Pipeline.trapTarget
  rw [sameCause]
  split
  · exact same.handleTrap _ _ _
  · split
    · exact same.handleTrap _ _ _
    · rcases same with ⟨gpr, mip, rightEq⟩
      rw [rightEq]
      split
      · exact ⟨⟨gpr, mip, rfl⟩, rfl⟩
      · exact ⟨⟨gpr, mip, rfl⟩, rfl⟩

theorem trapTarget_gpr (regFile : RegisterFile) (slot : PipelineSlot) (slotPc : Addr) :
    (trapTarget regFile slot slotPc).1.gpr = regFile.gpr := by
  unfold trapTarget RegisterFile.handleTrap
  simp only
  repeat' split
  all_goals rfl

theorem trapTarget_machine {regFile : RegisterFile} {slot : PipelineSlot} {slotPc : Addr}
    (machine : regFile.privilege = PRV_M)
    (stays : slot.d.isEcall = true ∨ slot.d.isMret = true ∧ regFile.mstatus &&& MSTATUS_MPP = MSTATUS_MPP) :
    (trapTarget regFile slot slotPc).1.privilege = PRV_M := by
  have handled : forall faultPc cause tval, (regFile.handleTrap faultPc cause tval).1.privilege = PRV_M := by
    intro faultPc cause tval
    simp [RegisterFile.handleTrap, machine]
  unfold trapTarget
  split
  · exact handled _ _ _
  · split
    · exact handled _ _ _
    · rcases stays with ecall | ⟨mret, mpp⟩
      · exact absurd ecall ‹_›
      · rw [if_pos mret]
        change ((regFile.mstatus &&& MSTATUS_MPP) >>> 11).setWidth 8 = PRV_M
        rw [mpp]
        rfl

/-! ## One step of the path -/

/-- What a step does that neither traps nor returns from a trap. -/
structure Completes (r next : SeqState) : Prop where
  data : next.data = r.inFlight.apply r.data
  uart : next.memory.uartOutput = r.memory.uartOutput
  pc : next.pc = r.nextPc
  csrs : SameCsrs (if r.slot.d.isCsr then r.regFile.writeCsr r.slot.d.csrAddr r.executed.csrWriteVal
    else r.regFile) next.regFile

theorem executed_frame (r : SeqState) : SlotFrame r.slot r.executed :=
  executeSlotWith_frame r.regFile.readRs1 r.slot r.regFile r.pc 0

theorem executed_valid (r : SeqState) : r.executed.valid = true :=
  executeSlotWith_valid r.regFile.readRs1 r.slot r.regFile r.pc 0

/-- Completing the instruction is the effect of its slot in flight. -/
theorem complete_data {r : SeqState} {memory : MemorySystem} {regFile : RegisterFile} {value : Word}
    (valueEq : r.inFlight.value r.memory.memory = value) (sameGpr : regFile.gpr = r.regFile.gpr)
    (stored : memory.memory = (r.inFlight.apply r.data).ram) :
    (r.complete memory regFile value).data = r.inFlight.apply r.data := by
  subst valueEq
  have frame := executed_frame r
  have moved : r.inFlight.moved r.memory.memory = { r.executed with result := r.inFlight.value r.memory.memory } :=
    if_pos (executed_valid r)
  have writes : slotWrites (r.inFlight.moved r.memory.memory) =
      if r.slot.regWrite && r.slot.rd != 0 then [(r.slot.rd, r.inFlight.value r.memory.memory)] else [] := by
    rw [slotWrites_decoded, moved]
    · simp only [executed_valid, frame.regWrite, frame.rd, Bool.true_and]
    · rw [moved]
      simp only [frame.regWrite, frame.instr]
      rfl
  apply DataState.ext
  · change (regFile.writeRd r.slot.rd (r.inFlight.value r.memory.memory) r.slot.regWrite).gpr =
      applyWrites r.regFile.gpr (slotWrites (r.inFlight.moved r.memory.memory))
    rw [writeRd_eq, writes, sameGpr]
  · exact stored

/-- Register writes leave the CSRs alone. -/
theorem sameCsrs_writeRd (regFile : RegisterFile) (rd : RegNum) (value : Word) (write : Bool) :
    SameCsrs regFile (regFile.writeRd rd value write) := by
  rw [writeRd_eq]
  exact ⟨_, regFile.mip, rfl⟩

/-- A load or a store completes. -/
theorem accessStep_completes {r next : SeqState} (machine : r.regFile.privilege = PRV_M)
    (can : CanAccess r.inFlight) (memory : r.slot.d.isMemory = true) (ran : r.accessStep = .ok next) :
    Completes r next := by
  have noCsr : r.slot.d.isCsr = false := ((decode_exclusive r.instr).memory memory).2.2.1
  have sameInstr : r.executed.instr = r.instr := (executed_frame r).instr
  unfold SeqState.accessStep at ran
  by_cases load : isLoad r.slot.d = true
  · have noStore := isLoad_isStore_exclusive r.slot.d load
    have access := loadAccess_machine r.memory machine (can.load load)
    have value : r.inFlight.value r.memory.memory = extendLoad (memFunct3 r.instr)
        (LittleEndian.load r.memory.memory r.executed.result (loadWidth (memFunct3 r.instr))) := by
      rw [← sameInstr]
      exact if_pos load
    simp only [SeqState.inFlight, sameInstr] at access
    simp only [load, if_true, access, bind, Except.bind, pure, Except.pure] at ran
    cases ran
    refine ⟨complete_data value rfl ?_, rfl, rfl, ?_⟩
    · simp only [SeqState.data, SeqState.inFlight, InFlight.apply, noStore, Bool.and_false,
        Bool.false_eq_true, if_false]
    · rw [if_neg (ne_true_of_eq_false noCsr)]
      exact sameCsrs_writeRd _ _ _ _
  · have store : isStore r.slot.d = true := by
      simp only [isLoad, isStore, memory, Bool.true_and] at load ⊢
      simp [load]
    have access := storeAccess_machine r.memory (r.regFile.readRs1 r.slot.d.rs2) machine
      (can.store store)
    have value : r.inFlight.value r.memory.memory = r.executed.result := if_neg load
    simp only [SeqState.inFlight, sameInstr] at access
    simp only [load, Bool.false_eq_true, if_false, access, bind, Except.bind, pure, Except.pure] at ran
    cases ran
    refine ⟨complete_data value rfl ?_, rfl, rfl, ?_⟩
    · simp only [SeqState.data, SeqState.inFlight, InFlight.apply, store, executed_valid, sameInstr,
        Bool.and_true, if_true]
    · rw [if_neg (ne_true_of_eq_false noCsr)]
      exact sameCsrs_writeRd _ _ _ _

/-- An instruction that is not a trap or a trap return completes. -/
theorem step_completes {r next : SeqState} (machine : r.regFile.privilege = PRV_M) (can : CanAccess r.inFlight)
    (quiet : trapsInEx r.slot.d = false) (ran : r.step = .ok next) : Completes r next := by
  simp only [trapsInEx, Bool.or_eq_false_iff] at quiet
  rcases quiet with ⟨⟨⟨noEcall, noIllegal⟩, noMret⟩, noSret⟩
  unfold SeqState.step at ran
  simp only [noEcall, noIllegal, noMret, noSret, Bool.false_eq_true, if_false] at ran
  cases memory : r.slot.d.isMemory with
  | true =>
      simp only [memory, if_true] at ran
      exact accessStep_completes machine can memory ran
  | false =>
      have noLoad : isLoad r.slot.d = false := by rw [isLoad, memory, Bool.false_and]
      have noStore : isStore r.slot.d = false := by rw [isStore, memory, Bool.false_and]
      have value : r.inFlight.value r.memory.memory = r.executed.result :=
        if_neg (by change ¬isLoad r.slot.d = true; rw [noLoad]; exact Bool.false_ne_true)
      have sameRam : (r.inFlight.apply r.data).ram = r.memory.memory := by
        simp only [SeqState.data, SeqState.inFlight, InFlight.apply, noStore, Bool.and_false, Bool.false_eq_true,
          if_false]
      simp only [memory, Bool.false_eq_true, if_false] at ran
      cases ran
      refine ⟨complete_data value ?_ ?_, ?_, rfl, sameCsrs_writeRd _ _ _ _⟩
      · cases r.slot.d.isCsr with
        | false => rfl
        | true => exact writeCsr_gpr _ _ _
      · rw [sameRam]
        cases r.slot.d.isSfence with
        | false => rfl
        | true => rfl
      · change (if r.slot.d.isSfence then r.memory.tlbFlush else r.memory).uartOutput = r.memory.uartOutput
        cases r.slot.d.isSfence with
        | false => rfl
        | true => rfl

/-- A trap or trap return is a jump with the CSR effects of the core. -/
theorem step_traps {r next : SeqState} (traps : trapsInEx r.slot.d = true) (ran : r.step = .ok next) :
    next = r.jumpTo (trapTarget r.regFile r.slot r.pc) := by
  unfold SeqState.step at ran
  unfold trapTarget
  simp only [trapsInEx, Bool.or_eq_true] at traps
  by_cases ecall : r.slot.d.isEcall = true
  · simp only [if_pos ecall] at ran ⊢
    cases ran
    rfl
  by_cases illegal : r.slot.d.isIllegal = true
  · simp only [if_neg ecall, if_pos illegal] at ran ⊢
    cases ran
    rfl
  by_cases mret : r.slot.d.isMret = true
  · simp only [if_neg ecall, if_neg illegal, if_pos mret] at ran ⊢
    cases ran
    rfl
  have sret : r.slot.d.isSret = true := by
    simpa [ecall, illegal, mret] using traps
  simp only [if_neg ecall, if_neg illegal, if_neg mret, if_pos sret] at ran ⊢
  cases ran
  rfl

end Refinement
end SimpleRV
