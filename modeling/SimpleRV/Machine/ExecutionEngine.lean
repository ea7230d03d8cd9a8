import SimpleRV.Machine.IssueUnit
import SimpleRV.Machine.RegisterFile

namespace SimpleRV

/-!
# Operands, ALU and branches

`ExecutionEngine.h`/`.cpp`.  The execution of a slot is written over an
operand function first, so that it can be run both with the forwarding network
and with operands read directly from the registers.
-/

namespace ExecutionEngine

/-- A lane whose value the forwarding network may take for `rs`. -/
def forwards (lane : PipelineSlot) (rs : RegNum) : Bool :=
  lane.valid && lane.d.regWrite && lane.d.rd == rs

/-- A lane of MEM/WB uses the copies of `rd` and `regWrite` in the slot. -/
def forwardsWb (lane : PipelineSlot) (rs : RegNum) : Bool :=
  lane.valid && lane.regWrite && lane.rd == rs

/-- Priorities 2 and 3: a result about to be written back, or the register. -/
def getWbOperand (rs : RegNum) (memWb : MemWbBuffer) (regFile : RegisterFile) : Word :=
  if forwardsWb memWb.slots.s1 rs then memWb.slots.s1.result
  else if forwardsWb memWb.slots.s0 rs then memWb.slots.s0.result
  else regFile.readRs1 rs

/-- `getOperand`.  In slot 1 the loop of priority 1 skips lane 1, in slot 0 it
skips lane 0; loads in EX/MEM have no data yet and are passed over. -/
def getOperand (rs : RegNum) (memWb : MemWbBuffer) (regFile : RegisterFile) (exMem : ExMemBuffer)
    (slotId : Fin 2) : Word :=
  if rs = 0 then 0
  else if slotId = 1 && forwards exMem.slots.s0 rs then exMem.slots.s0.result
  else if slotId != 1 && forwards exMem.slots.s1 rs && !exMem.slots.s1.d.isMemory then
    exMem.slots.s1.result
  else if slotId != 0 && forwards exMem.slots.s0 rs && !exMem.slots.s0.d.isMemory then
    exMem.slots.s0.result
  else getWbOperand rs memWb regFile

def executeRType (d : DecodedData) (op1 op2 : Word) : Word :=
  match d.funct3 with
  | 0x0#3 => if d.funct7 = 0x20 then op1 - op2 else op1 + op2
  | 0x1#3 => op1 <<< (op2 &&& 0x1F#32)
  | 0x2#3 => if op1.slt op2 then 1 else 0
  | 0x3#3 => if op1 < op2 then 1 else 0
  | 0x4#3 => op1 ^^^ op2
  | 0x5#3 =>
      if d.funct7 = 0x20 then op1.sshiftRight (op2 &&& 0x1F#32).toNat else op1 >>> (op2 &&& 0x1F#32)
  | 0x6#3 => op1 ||| op2
  | 0x7#3 => op1 &&& op2

/-- The result of `executeIType`, or the old one where the switch sets none. -/
def executeIType (d : DecodedData) (op1 : Word) (old : Word) (pc : Addr) : Word :=
  let imm := d.imm
  let shamt := imm &&& 0x1F#32
  match d.op with
  | 0x13#7 =>
      match d.funct3 with
      | 0x0#3 => op1 + imm
      | 0x1#3 => op1 <<< shamt
      | 0x2#3 => if op1.slt imm then 1 else 0
      | 0x3#3 => if op1 < imm then 1 else 0
      | 0x4#3 => op1 ^^^ imm
      | 0x5#3 => if d.funct7 = 0x20 then op1.sshiftRight shamt.toNat else op1 >>> shamt
      | 0x6#3 => op1 ||| imm
      | 0x7#3 => op1 &&& imm
  | 0x03#7 => op1 + imm
  | 0x23#7 => op1 + imm
  | 0x37#7 => imm
  | 0x17#7 => pc + imm
  | _ => old

def executeJump (d : DecodedData) (op1 : Word) (slot : PipelineSlot) (pc : Addr) : PipelineSlot :=
  { slot with
    d := { slot.d with isBranch := true }
    result := pc + 4
    jumpTarget :=
      if d.op = 0x6F then pc + d.imm
      else if d.op = 0x67 then (op1 + d.imm) &&& ~~~1#32
      else slot.jumpTarget }

/-- The condition of a conditional branch. -/
def branchTaken (d : DecodedData) (op1 op2 : Word) : Bool :=
  match d.funct3 with
  | 0x0#3 => op1 == op2
  | 0x1#3 => op1 != op2
  | 0x4#3 => op1.slt op2
  | 0x5#3 => op2.sle op1
  | 0x6#3 => decide (op1 < op2)
  | 0x7#3 => decide (op1 >= op2)
  | _ => false

def executeBranch (d : DecodedData) (op1 op2 : Word) (slot : PipelineSlot) (pc : Addr) : PipelineSlot :=
  if branchTaken d op1 op2 then
    { slot with d := { slot.d with isBranch := true }, jumpTarget := pc + d.imm }
  else { slot with d := { slot.d with isBranch := false }, jumpTarget := pc + 4 }

/-- The value a CSR instruction writes. -/
def csrWriteVal (d : DecodedData) (rs1Val oldCsr : Word) : Word :=
  let zimm : Word := d.rs1.setWidth 32
  match d.funct3 with
  | 1#3 => rs1Val
  | 2#3 => if d.rs1 != 0 then oldCsr ||| rs1Val else oldCsr
  | 3#3 => if d.rs1 != 0 then oldCsr &&& ~~~rs1Val else oldCsr
  | 5#3 => zimm
  | 6#3 => if zimm != 0 then oldCsr ||| zimm else oldCsr
  | 7#3 => if zimm != 0 then oldCsr &&& ~~~zimm else oldCsr
  | _ => oldCsr

def executeCSR (d : DecodedData) (rs1Val : Word) (slot : PipelineSlot) (regFile : RegisterFile) :
    PipelineSlot :=
  let oldCsr := regFile.readCsr d.csrAddr
  { slot with csrWriteVal := csrWriteVal d rs1Val oldCsr, result := oldCsr }

/-- `executeSlot` over an operand function; `pc` is the slot's own address. -/
def executeSlotWith (operand : RegNum -> Word) (slot : PipelineSlot) (regFile : RegisterFile) (pc : Addr)
    (slotId : Fin 2) : PipelineSlot :=
  let d := slot.d
  if d.isCsr then executeCSR d (if d.usesRs1 then operand d.rs1 else 0) slot regFile
  else
    let op1 := operand d.rs1
    let op2 := if d.op = 0x33 || d.isBranch then operand d.rs2 else d.imm
    if d.op = 0x6F || d.op = 0x67 then
      if slotId = 0 then executeJump d op1 slot pc else slot
    else if d.isBranch then
      if slotId = 0 then executeBranch d op1 op2 slot pc else slot
    else if d.op = 0x33 then { slot with result := executeRType d op1 op2 }
    else { slot with result := executeIType d op1 slot.result pc }

/-- `executeSlot`: the operands come from the forwarding network. -/
def executeSlot (slot : PipelineSlot) (idEx : IdExBuffer) (memWb : MemWbBuffer) (regFile : RegisterFile)
    (exMem : ExMemBuffer) (slotId : Fin 2) : PipelineSlot :=
  executeSlotWith (fun rs => getOperand rs memWb regFile exMem slotId) slot regFile
    (idEx.pc + BitVec.ofNat 32 (4 * slotId.val)) slotId

/-- The body of the loop in `execute`, on the latch under construction and the
old latch, whose lane 0 is overwritten for the benefit of lane 1. -/
def executeLane (idEx : IdExBuffer) (memWb : MemWbBuffer) (regFile : RegisterFile) (lane : Fin 2)
    (latches : ExMemBuffer × ExMemBuffer) : ExMemBuffer × ExMemBuffer :=
  let (next, exMem) := latches
  let slot := idEx.slots.get lane
  if !slot.valid then (next, exMem)
  else
    let out := { executeSlot slot idEx memWb regFile exMem lane with valid := true }
    let next := { next with
      slots := next.slots.set lane out
      memRead := next.memRead.set lane (idEx.memRead.get lane)
      memWrite := next.memWrite.set lane (idEx.memWrite.get lane) }
    let next :=
      if slot.d.isMemory then
        { next with
          memAddr := next.memAddr.set lane out.result
          memData := next.memData.set lane (getOperand slot.d.rs2 memWb regFile exMem lane) }
      else next
    (next, if lane = 0 then { exMem with slots := exMem.slots.set 0 out } else exMem)

/-- `ExecutionEngine::execute`: the new EX/MEM latch. -/
def execute (idEx : IdExBuffer) (exMem : ExMemBuffer) (memWb : MemWbBuffer) (regFile : RegisterFile) :
    ExMemBuffer :=
  let empty : ExMemBuffer := { pc := idEx.pc }
  (executeLane idEx memWb regFile 1 (executeLane idEx memWb regFile 0 (empty, exMem))).1

end ExecutionEngine

end SimpleRV
