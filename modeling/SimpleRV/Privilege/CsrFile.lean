import SimpleRV.Library.BitFields
import SimpleRV.Library.Iteration
import SimpleRV.Machine.CPUCore

namespace SimpleRV
namespace Privilege

open RegisterFile BitFields IssueUnit ExecutionEngine CPUCore Iteration

/-!
# One CSR file

`read_csr` and `write_csr` are two switches over the same addresses.  Here they
are held against one table: every address is a constant or a view of one of
the stored words, with the bits that it shows and the bits that it lets
software write.  The three pairs `mstatus`/`sstatus`, `mie`/`sie` and
`mip`/`sip` are views of one word each.
-/

/-- The words that the class stores. -/
inductive CsrWord where
  | mstatus | medeleg | mideleg | mie | mtvec | mscratch | mepc | mcause | mtval | mip
  | stvec | sscratch | sepc | scause | stval | satp
deriving DecidableEq, Repr

def word (regFile : RegisterFile) : CsrWord -> Word
  | .mstatus => regFile.mstatus
  | .medeleg => regFile.medeleg
  | .mideleg => regFile.mideleg
  | .mie => regFile.mie
  | .mtvec => regFile.mtvec
  | .mscratch => regFile.mscratch
  | .mepc => regFile.mepc
  | .mcause => regFile.mcause
  | .mtval => regFile.mtval
  | .mip => regFile.mip
  | .stvec => regFile.stvec
  | .sscratch => regFile.sscratch
  | .sepc => regFile.sepc
  | .scause => regFile.scause
  | .stval => regFile.stval
  | .satp => regFile.satp

/-- A word that is shown and written as a whole. -/
def plain (cell : CsrWord) : Port CsrWord 32 := .view cell (BitVec.allOnes 32) (BitVec.allOnes 32)

/-- The reference file: what each address stands for. -/
def csrPort (csr : CsrAddr) : Port CsrWord 32 :=
  match csr with
  | CSR_MIMPID => .constant 1
  | CSR_MISA => .constant MISA_RV32I
  | CSR_MSTATUS => plain .mstatus
  | CSR_MEDELEG => .view .medeleg (BitVec.allOnes 32) MEDELEG_MASK
  | CSR_MIDELEG => .view .mideleg (BitVec.allOnes 32) MIDELEG_MASK
  | CSR_MIE => plain .mie
  | CSR_MTVEC => plain .mtvec
  | CSR_MSCRATCH => plain .mscratch
  | CSR_MEPC => plain .mepc
  | CSR_MCAUSE => plain .mcause
  | CSR_MTVAL => plain .mtval
  | CSR_MIP => .view .mip (BitVec.allOnes 32) MIP_MSIP
  | CSR_SSTATUS => .view .mstatus SSTATUS_MASK SSTATUS_MASK
  | CSR_SIE => .view .mie SIE_MASK SIE_MASK
  | CSR_STVEC => plain .stvec
  | CSR_SSCRATCH => plain .sscratch
  | CSR_SEPC => plain .sepc
  | CSR_SCAUSE => plain .scause
  | CSR_STVAL => plain .stval
  | CSR_SIP => .view .mip SIE_MASK MIP_SSIP
  | CSR_SATP => plain .satp
  -- read-only information registers, and addresses without a register
  | _ => .constant 0

/-- The delegation words hold supported bits only. -/
structure Delegable (regFile : RegisterFile) : Prop where
  exceptions : regFile.medeleg &&& ~~~MEDELEG_MASK = 0
  interrupts : regFile.mideleg &&& ~~~MIDELEG_MASK = 0

/-! ## The two switches follow the table -/

theorem readCsr_eq (regFile : RegisterFile) (csr : CsrAddr) :
    regFile.readCsr csr = (csrPort csr).read (word regFile) := by
  unfold readCsr
  split
  all_goals try rfl
  all_goals try exact BitVec.and_allOnes.symm
  unfold csrPort
  split
  all_goals first | rfl | contradiction

theorem plain_write (cells : CsrWord -> Word) (cell : CsrWord) (data : Word) :
    (plain cell).write cells data = Function.update cells cell data := by
  rw [plain, Port.write, merge_allOnes]

theorem writeCsr_word {regFile : RegisterFile} (delegable : Delegable regFile) (csr : CsrAddr) (data : Word) :
    word (regFile.writeCsr csr data) = (csrPort csr).write (word regFile) data := by
  unfold writeCsr
  split
  case h_3 =>
    change _ = Function.update (word regFile) .medeleg (merge regFile.medeleg data MEDELEG_MASK)
    rw [merge_of_within delegable.exceptions]
    funext cell
    cases cell <;> rfl
  case h_4 =>
    change _ = Function.update (word regFile) .mideleg (merge regFile.mideleg data MIDELEG_MASK)
    rw [merge_of_within delegable.interrupts]
    funext cell
    cases cell <;> rfl
  case h_21 =>
    unfold csrPort
    split
    all_goals first | rfl | contradiction
  all_goals
    first
    | rfl
    | refine Eq.trans ?_ (plain_write _ _ _).symm
      funext cell
      cases cell <;> rfl
    | funext cell
      cases cell <;> rfl

theorem writeCsr_frame (regFile : RegisterFile) (csr : CsrAddr) (data : Word) :
    (regFile.writeCsr csr data).gpr = regFile.gpr ∧ (regFile.writeCsr csr data).privilege = regFile.privilege := by
  unfold writeCsr
  split
  all_goals exact ⟨rfl, rfl⟩

theorem and_mask_within (data mask : Word) : data &&& mask &&& ~~~mask = 0 := by
  rw [BitVec.and_assoc, BitVec.and_not_self]
  exact BitVec.and_zero

/-- Every write keeps the delegation words within their masks. -/
theorem Delegable.writeCsr {regFile : RegisterFile} (delegable : Delegable regFile) (csr : CsrAddr) (data : Word) :
    Delegable (regFile.writeCsr csr data) := by
  unfold RegisterFile.writeCsr
  split
  case h_3 => exact ⟨and_mask_within data _, delegable.interrupts⟩
  case h_4 => exact ⟨delegable.exceptions, and_mask_within data _⟩
  all_goals exact ⟨delegable.exceptions, delegable.interrupts⟩

theorem csrPort_readable (csr : CsrAddr) : (csrPort csr).Readable := by
  unfold csrPort
  split
  all_goals first | exact trivial | rfl

/-- Every CSR reads as before, but for the bits that it shares with the one
that is written. -/
theorem readCsr_writeCsr {regFile : RegisterFile} (delegable : Delegable regFile) (csr other : CsrAddr)
    (data : Word) : (regFile.writeCsr csr data).readCsr other =
      merge (regFile.readCsr other) data ((csrPort csr).overlap (csrPort other)) := by
  rw [readCsr_eq, writeCsr_word delegable, Port.read_write, readCsr_eq]

/-- A register file is its words, its general registers and its privilege. -/
def ofWords (words : CsrWord -> Word) (gpr : RegNum -> Word) (privilege : Byte) : RegisterFile where
  gpr := gpr
  mstatus := words .mstatus
  medeleg := words .medeleg
  mideleg := words .mideleg
  mie := words .mie
  mtvec := words .mtvec
  mscratch := words .mscratch
  mepc := words .mepc
  mcause := words .mcause
  mtval := words .mtval
  mip := words .mip
  stvec := words .stvec
  sscratch := words .sscratch
  sepc := words .sepc
  scause := words .scause
  stval := words .stval
  satp := words .satp
  privilege := privilege

theorem ofWords_word (regFile : RegisterFile) : ofWords (word regFile) regFile.gpr regFile.privilege = regFile := rfl

/-- Writing back what was read changes nothing. -/
theorem writeCsr_readCsr {regFile : RegisterFile} (delegable : Delegable regFile) (csr : CsrAddr) :
    regFile.writeCsr csr (regFile.readCsr csr) = regFile := by
  have words : word (regFile.writeCsr csr (regFile.readCsr csr)) = word regFile := by
    rw [writeCsr_word delegable, readCsr_eq, Port.write_read (csrPort_readable csr)]
  rcases writeCsr_frame regFile csr (regFile.readCsr csr) with ⟨gprs, privileges⟩
  calc
    _ = ofWords (word (regFile.writeCsr csr (regFile.readCsr csr))) (regFile.writeCsr csr (regFile.readCsr csr)).gpr
        (regFile.writeCsr csr (regFile.readCsr csr)).privilege := (ofWords_word _).symm
    _ = ofWords (word regFile) regFile.gpr regFile.privilege := by rw [words, gprs, privileges]
    _ = regFile := ofWords_word regFile

/-! ## CSR instructions -/

/-- A Zicsr instruction, with the value of its source register. -/
structure CsrInstruction where
  instr : Word
  rs1Val : Word
  system : instr.setWidth 7 = 0x73#7
  form : (instr >>> 12).setWidth 3 ≠ 0#3 ∧ (instr >>> 12).setWidth 3 ≠ 4#3

namespace CsrInstruction

def funct3 (i : CsrInstruction) : BitVec 3 := (i.instr >>> 12).setWidth 3

/-- The field `rs1`, or the immediate in its place. -/
def rs1 (i : CsrInstruction) : RegNum := (i.instr >>> 15).setWidth 5

def csr (i : CsrInstruction) : CsrAddr := (i.instr >>> 20).setWidth 12

/-- Run the instruction through `executeCSR` and `write_csr`: the registers
after it, and the value it returns for `rd`. -/
def execute (regFile : RegisterFile) (i : CsrInstruction) : RegisterFile × Word :=
  let d := decode i.instr
  let slot := executeCSR d i.rs1Val {} regFile
  (regFile.writeCsr d.csrAddr slot.csrWriteVal, slot.result)

/-- The operand: the register value in forms 1 to 3, the immediate in forms
5 to 7. -/
def operand (i : CsrInstruction) : Word :=
  if i.funct3.toNat < 4 then i.rs1Val else i.rs1.setWidth 32

/-- The instruction on the reference file: read, then write, set or clear, and
no write at all when there are no bits to set or clear. -/
def reference (cells : CsrWord -> Word) (i : CsrInstruction) : (CsrWord -> Word) × Word :=
  let port := csrPort i.csr
  let old := port.read cells
  let next :=
    match i.funct3 with
    | 1#3 => port.write cells i.operand
    | 5#3 => port.write cells i.operand
    | 2#3 => if i.rs1 = 0 then cells else port.write cells (old ||| i.operand)
    | 6#3 => if i.rs1 = 0 then cells else port.write cells (old ||| i.operand)
    | _ => if i.rs1 = 0 then cells else port.write cells (old &&& ~~~i.operand)
  (next, old)

/-- CSRRS and CSRRC from `x0`, CSRRSI and CSRRCI with immediate zero. -/
def OnlyReads (i : CsrInstruction) : Prop := i.rs1 = 0 ∧ i.funct3 ≠ 1#3 ∧ i.funct3 ≠ 5#3

theorem decode_eq (i : CsrInstruction) : (decode i.instr).isCsr = true ∧ (decode i.instr).csrAddr = i.csr ∧
    (decode i.instr).funct3 = i.funct3 ∧ (decode i.instr).rs1 = i.rs1 := by
  have system : (decodeFields i.instr).op = 0x73#7 := i.system
  have form : (decodeFields i.instr).funct3 ≠ 0 := i.form.1
  have decoded : decodeOpcode i.instr (decodeFields i.instr) = decodeSystem i.instr (decodeFields i.instr) := by
    unfold decodeOpcode
    rw [system]
    rfl
  unfold decode
  rw [decoded, decodeSystem, if_neg form]
  exact ⟨rfl, rfl, rfl, rfl⟩

theorem forms : forall funct3 : BitVec 3, funct3 ≠ 0#3 -> funct3 ≠ 4#3 ->
    funct3 = 1#3 ∨ funct3 = 2#3 ∨ funct3 = 3#3 ∨ funct3 = 5#3 ∨ funct3 = 6#3 ∨ funct3 = 7#3 := by
  decide

/-- `executeCSR` computes what the reference writes. -/
theorem execute_eq {regFile : RegisterFile} (delegable : Delegable regFile) (i : CsrInstruction) :
    word (execute regFile i).1 = (reference (word regFile) i).1 ∧
      (execute regFile i).2 = (reference (word regFile) i).2 := by
  rcases i.decode_eq with ⟨_, csrAddr, funct3, rs1⟩
  have old := readCsr_eq regFile i.csr
  have unchanged : (csrPort i.csr).write (word regFile) ((csrPort i.csr).read (word regFile)) = word regFile :=
    Port.write_read (csrPort_readable i.csr) (word regFile)
  have zimm : ((i.rs1.setWidth 32 : Word) != 0) = (i.rs1 != 0) := by
    generalize i.rs1 = field
    revert field
    decide
  refine ⟨?_, by rw [execute]; simp only [executeCSR, csrAddr]; exact old⟩
  change word (regFile.writeCsr (decode i.instr).csrAddr
    (csrWriteVal (decode i.instr) i.rs1Val (regFile.readCsr (decode i.instr).csrAddr))) = _
  rw [csrAddr, writeCsr_word delegable, old]
  unfold csrWriteVal reference operand
  simp only [funct3, rs1, zimm]
  have form := i.form
  change i.funct3 ≠ 0#3 ∧ i.funct3 ≠ 4#3 at form
  -- the forms that may leave out the write, with and without a source
  by_cases zero : i.rs1 = 0#5
  · rcases forms i.funct3 form.1 form.2 with same | same | same | same | same | same <;>
      simp [same, zero, unchanged]
  · rcases forms i.funct3 form.1 form.2 with same | same | same | same | same | same <;>
      simp [same, zero]

theorem execute_delegable {regFile : RegisterFile} (delegable : Delegable regFile) (i : CsrInstruction) :
    Delegable (execute regFile i).1 :=
  delegable.writeCsr _ _

/-- Without bits to set or clear, an instruction writes back what it read. -/
theorem OnlyReads.execute_eq {i : CsrInstruction} (onlyReads : i.OnlyReads) {regFile : RegisterFile}
    (delegable : Delegable regFile) : (execute regFile i).1 = regFile := by
  rcases i.decode_eq with ⟨_, csrAddr, funct3, rs1⟩
  rcases onlyReads with ⟨zero, notWrite, notWriteImmediate⟩
  have old : csrWriteVal (decode i.instr) i.rs1Val (regFile.readCsr i.csr) = regFile.readCsr i.csr := by
    unfold csrWriteVal
    rw [funct3, rs1, zero]
    rcases forms i.funct3 i.form.1 i.form.2 with same | same | same | same | same | same
    · exact absurd same notWrite
    · rw [same]
      rfl
    · rw [same]
      rfl
    · exact absurd same notWriteImmediate
    · rw [same]
      rfl
    · rw [same]
      rfl
  change regFile.writeCsr (decode i.instr).csrAddr
    (csrWriteVal (decode i.instr) i.rs1Val (regFile.readCsr (decode i.instr).csrAddr)) = regFile
  rw [csrAddr, old, writeCsr_readCsr delegable]

end CsrInstruction

/-! ## Runs of CSR instructions -/

theorem Delegable.writeRd {regFile : RegisterFile} (delegable : Delegable regFile) (rd : RegNum) (data : Word)
    (regWrite : Bool) : Delegable (regFile.writeRd rd data regWrite) := by
  unfold RegisterFile.writeRd
  split
  · exact ⟨delegable.exceptions, delegable.interrupts⟩
  · exact delegable

theorem init_delegable (config : SystemConfig) (image : Addr -> Byte) (keyboard : HostKeyboard) :
    Delegable (init config image keyboard).regFile := by
  have fresh : Delegable {} := ⟨rfl, rfl⟩
  exact (fresh.writeRd 2 config.spInit true).writeCsr CSR_MTVEC config.mtvecInit

/-- CSR instructions on a register file that stores supported bits only keep
it in step with the reference file. -/
theorem csr_run {regFile : RegisterFile} (delegable : Delegable regFile) (instrs : List CsrInstruction) :
    (Delegable (transduce CsrInstruction.execute regFile instrs).1 ∧
      word (transduce CsrInstruction.execute regFile instrs).1 =
        (transduce CsrInstruction.reference (word regFile) instrs).1) ∧
      (transduce CsrInstruction.execute regFile instrs).2 =
        (transduce CsrInstruction.reference (word regFile) instrs).2 := by
  apply @transduce_simulation RegisterFile CsrInstruction _ _ _ _
    (fun regFile cells => Delegable regFile ∧ word regFile = cells)
  · rintro before cells i ⟨supported, same⟩
    subst same
    rcases CsrInstruction.execute_eq supported i with ⟨next, answer⟩
    exact ⟨⟨CsrInstruction.execute_delegable supported i, next⟩, answer⟩
  · exact ⟨delegable, rfl⟩

/-- From reset, every sequence of CSR instructions returns what the reference
file returns and leaves CSRs that read like it.  In every state reached, a
write is seen in the writable bits of the word it names and nowhere else, and
the forms that write nothing change nothing. -/
theorem csr_file_consistent (config : SystemConfig) (image : Addr -> Byte) (keyboard : HostKeyboard)
    (instrs : List CsrInstruction) :
    let start := (init config image keyboard).regFile
    let run := transduce CsrInstruction.execute start instrs
    let reference := transduce CsrInstruction.reference (word start) instrs
    run.2 = reference.2 ∧
      (forall csr, run.1.readCsr csr = (csrPort csr).read reference.1) ∧
      (forall csr data other, (run.1.writeCsr csr data).readCsr other =
        merge (run.1.readCsr other) data ((csrPort csr).overlap (csrPort other))) ∧
      (forall csr, run.1.writeCsr csr (run.1.readCsr csr) = run.1) ∧
      forall i : CsrInstruction, i.OnlyReads -> (i.execute run.1).1 = run.1 := by
  intro start run reference
  rcases csr_run (init_delegable config image keyboard) instrs with ⟨⟨delegable, words⟩, answers⟩
  refine ⟨answers, ?_, ?_, ?_, ?_⟩
  · intro csr
    rw [readCsr_eq, words]
  · intro csr data other
    exact readCsr_writeCsr delegable csr other data
  · exact writeCsr_readCsr delegable
  · intro i onlyReads
    exact onlyReads.execute_eq delegable

/-- `csrrsi x10, mstatus, 8`. -/
def enableInterrupts : CsrInstruction := ⟨0x30046573#32, 0, by decide, by decide⟩

/-- `csrrs x15, mstatus, x0`. -/
def readStatus : CsrInstruction := ⟨0x300027F3#32, 0, by decide, by decide⟩

theorem csr_file_consistent_at_status :
    let run := transduce CsrInstruction.execute (init .default128MB (fun _ => 0) {}).regFile [enableInterrupts]
    (readStatus.execute run.1).1 = run.1 :=
  (csr_file_consistent .default128MB (fun _ => 0) {} [enableInterrupts]).2.2.2.2 readStatus
    ⟨by decide, by decide, by decide⟩

end Privilege
end SimpleRV
