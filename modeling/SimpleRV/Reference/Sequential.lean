import SimpleRV.Machine.CPUCore

namespace SimpleRV

/-!
# The unpipelined machine

One instruction at a time, with the decoder, the slot execution, the memory
accesses and the trap code of the core, but with no latch: operands are read
directly from the registers and every effect is complete before the next
instruction is looked at.  This is the meaning of a program that the pipeline
is compared with.
-/

structure SeqState where
  memory : MemorySystem
  regFile : RegisterFile
  pc : Addr

namespace SeqState

open RegisterFile IssueUnit CPUCore

/-- The instruction word at an address of RAM. -/
def wordAt (r : SeqState) (addr : Addr) : Word := LittleEndian.load r.memory.memory addr 4

def instr (r : SeqState) : Word := r.wordAt r.pc

/-- The decoded instruction at the pc, in a slot of its own. -/
def slot (r : SeqState) : PipelineSlot := decodeInstruction { instr := r.instr, valid := true }

/-- Slot 0 of the engine on operands read from the registers. -/
def executed (r : SeqState) : PipelineSlot :=
  ExecutionEngine.executeSlotWith r.regFile.readRs1 r.slot r.regFile r.pc 0

/-- The address after a completed instruction. -/
def nextPc (r : SeqState) : Addr :=
  if r.executed.d.isBranch then r.executed.jumpTarget else r.pc + 4

/-- Jump into a trap handler, or back out of one. -/
def jumpTo (r : SeqState) (target : RegisterFile × Addr) : SeqState :=
  { r with regFile := target.1, pc := target.2 }

/-- Write `rd` and go on to the next instruction. -/
def complete (r : SeqState) (memory : MemorySystem) (regFile : RegisterFile) (value : Word) : SeqState where
  memory := memory
  regFile := regFile.writeRd r.slot.rd value r.slot.regWrite
  pc := r.nextPc

/-- The load or store of the instruction at the pc, then its completion. -/
def accessStep (r : SeqState) : Except Crash SeqState := do
  let d := r.slot.d
  let addr := r.executed.result
  let funct3 := memFunct3 r.instr
  if isLoad d then
    match ← loadAccess r.memory r.regFile funct3 addr with
    | (.trap cause, mem) => return { r with memory := mem }.jumpTo (r.regFile.handleTrap r.pc cause addr)
    | (.done data, mem) => return r.complete mem r.regFile data
  else
    match ← storeAccess r.memory r.regFile funct3 addr (r.regFile.readRs1 d.rs2) with
    | (.trap cause, mem) => return { r with memory := mem }.jumpTo (r.regFile.handleTrap r.pc cause addr)
    | (.done (), mem) => return r.complete mem r.regFile addr

/-- One instruction of the unpipelined machine. -/
def step (r : SeqState) : Except Crash SeqState :=
  let d := r.slot.d
  if d.isEcall then .ok (r.jumpTo (r.regFile.handleTrap (r.pc + 4) r.regFile.ecallCause 0))
  else if d.isIllegal then .ok (r.jumpTo (r.regFile.handleTrap r.pc MCAUSE_ILLEGAL r.instr))
  else if d.isMret then .ok (r.jumpTo r.regFile.mret)
  else if d.isSret then .ok (r.jumpTo r.regFile.sret)
  else if d.isMemory then r.accessStep
  else
    let memory := if d.isSfence then r.memory.tlbFlush else r.memory
    let regFile :=
      if d.isCsr then r.regFile.writeCsr d.csrAddr r.executed.csrWriteVal else r.regFile
    .ok (r.complete memory regFile r.executed.result)

end SeqState

end SimpleRV
