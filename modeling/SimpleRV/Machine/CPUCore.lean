import SimpleRV.Machine.MemorySystem
import SimpleRV.Machine.ExecutionEngine

namespace SimpleRV

/-!
# The core: five stages, traps and interrupts

`CPUCore.h`/`.cpp`, `PipelineRegisters.h`/`.cpp` and `SystemConfig.h`.  The
four latches of `PipelineRegisters` are fields of the core.  Trace output,
`cycle_count` and the performance counters are left out: nothing reads them.
`instr_count`, which has 64 bits in the source, is a natural number.
A tick runs the stages in the order WB, MEM, EX, ID, IF.
-/

structure SystemConfig where
  pcInit : Addr
  spInit : Word
  mtvecInit : Word

def SystemConfig.default128MB : SystemConfig where
  pcInit := 0x00000000#32
  spInit := MEMORY_SIZE - 16
  mtvecInit := 0x00010000#32

structure CPUCore where
  memory : MemorySystem := {}
  regFile : RegisterFile := {}
  ifId : IfIdBuffer := {}
  idEx : IdExBuffer := {}
  exMem : ExMemBuffer := {}
  memWb : MemWbBuffer := {}
  pc : Addr := 0
  instrCount : Nat := 0
  running : Bool := true

namespace CPUCore

open RegisterFile IssueUnit

/-- RAM that holds the given words and is zero elsewhere. -/
def ramImage (words : List (Addr × Word)) (addr : Addr) : Byte :=
  match words.find? (fun entry => entry.1 == addr &&& ~~~3#32) with
  | some entry => (entry.2 >>> (8 * (addr &&& 3#32).toNat)).setWidth 8
  | none => 0

/-- `init` on a fresh core.  `image` is RAM after `load_program`. -/
def init (config : SystemConfig) (image : Addr -> Byte) (keyboard : HostKeyboard) : CPUCore where
  memory := { memory := image, keyboard := keyboard }
  regFile := (({} : RegisterFile).writeRd 2 config.spInit true).writeCsr CSR_MTVEC config.mtvecInit
  pc := config.pcInit

/-- `PipelineRegisters::flush`: the front-end latches only. -/
def flush (s : CPUCore) : CPUCore := { s with ifId := {}, idEx := {} }

/-- Mark both lanes of EX/MEM empty. -/
def killExMem (s : CPUCore) : CPUCore :=
  { s with exMem := { s.exMem with slots :=
      ⟨invalidate s.exMem.slots.s0, invalidate s.exMem.slots.s1⟩ } }

/-- `CPUCore::handleTrap`. -/
def handleTrap (s : CPUCore) (faultPc causeVal tvalVal : Word) : CPUCore :=
  let (regFile, vector) := s.regFile.handleTrap faultPc causeVal tvalVal
  { s with regFile := regFile, pc := vector }.flush.killExMem

@[simp] theorem handleTrap_running (s : CPUCore) (faultPc causeVal tvalVal : Word) :
    (s.handleTrap faultPc causeVal tvalVal).running = s.running := rfl

/-! ## Interrupts -/

/-- Cause and enable/pending bit of each interrupt, the highest priority first. -/
def intrs : List (Word × Word) :=
  [(MCAUSE_MEI_INT, MIP_MEIP), (MCAUSE_MSI_INT, MIP_MSIP), (MCAUSE_TIMER_INT, MIP_MTIP),
    (MCAUSE_SEI_INT, MIP_SEIP), (MCAUSE_SSI_INT, MIP_SSIP), (MCAUSE_STI_INT, MIP_STIP)]

/-- The cause of the interrupt that `checkAndHandleInterrupts` takes, if any. -/
def selectInterrupt (regFile : RegisterFile) : Option Word :=
  let prv := regFile.privilege
  let mstatusVal := regFile.readCsr CSR_MSTATUS
  let globalIe :=
    if prv = PRV_M then hasBit mstatusVal MSTATUS_MIE else hasBit mstatusVal MSTATUS_SIE
  if !globalIe then none
  else
    let ieVal := if prv = PRV_M then regFile.readCsr CSR_MIE else regFile.readCsr CSR_SIE
    let ipVal := if prv = PRV_M then regFile.readCsr CSR_MIP else regFile.readCsr CSR_SIP
    (intrs.find? (fun intr => hasBit ieVal intr.2 && hasBit ipVal intr.2)).map Prod.fst

def checkAndHandleInterrupts (s : CPUCore) : CPUCore :=
  match selectInterrupt s.regFile with
  | none => s
  | some cause =>
      let (regFile, vector) := s.regFile.enterInterrupt s.pc cause
      { s with regFile := regFile, pc := vector }.flush

/-- The part of a tick before write-back: timer, MTIP and interrupts. -/
def updateTimer (s : CPUCore) : CPUCore :=
  let memory := s.memory.incrementTimer
  { s with memory := memory, regFile := s.regFile.hwSetMtip memory.timerInterruptPending }

/-! ## Write-back -/

abbrev EBREAK : Word := 0x00100073#32

/-- The words that stop the simulator in WB. -/
def isHalt (instr : Word) : Bool := instr == EBREAK || instr == 0x00000000#32

def writeBackLane (s : CPUCore) (lane : Fin 2) : CPUCore :=
  let slot := s.memWb.slots.get lane
  if !slot.valid then s
  else if isHalt slot.instr then { s with running := false }
  else
    { s with
      regFile := s.regFile.writeRd slot.rd slot.result slot.regWrite
      instrCount := s.instrCount + 1 }

def writeBack (s : CPUCore) : CPUCore := (s.writeBackLane 0).writeBackLane 1

/-! ## Memory access -/

/-- How a load or a store ends. -/
inductive Access (α : Type) where
  | trap (cause : Word)
  | done (value : α)

def loadWidth (funct3 : BitVec 3) : Nat :=
  if funct3 = 0 || funct3 = 4 then 1 else if funct3 = 1 || funct3 = 5 then 2 else 4

def storeWidth (funct3 : BitVec 3) : Nat :=
  if funct3 = 0 then 1 else if funct3 = 1 then 2 else 4

def misaligned (addr : Addr) (n : Nat) : Bool :=
  (n == 4 && hasBit addr 0x3#32) || (n == 2 && hasBit addr 0x1#32)

/-- Sign extension of LB and LH. -/
def extendLoad (funct3 : BitVec 3) (raw : Word) : Word :=
  if funct3 = 0 then (raw.setWidth 8).signExtend 32
  else if funct3 = 1 then (raw.setWidth 16).signExtend 32
  else raw

/-- The load of `memoryAccess`. -/
def loadAccess (mem : MemorySystem) (regFile : RegisterFile) (funct3 : BitVec 3) (addr : Addr) :
    Except Crash (Access Word × MemorySystem) := do
  let n := loadWidth funct3
  if misaligned addr n then return (.trap MCAUSE_LOAD_MISALIGNED, mem)
  let (found, mem) ← mem.translate addr false false (regFile.readCsr CSR_SATP) regFile.privilege
  if found.fault then return (.trap found.cause, mem)
  let (rawData, mem) ← mem.read found.paddr n
  return (.done (extendLoad funct3 rawData), mem)

/-- The store of `memoryAccess`. -/
def storeAccess (mem : MemorySystem) (regFile : RegisterFile) (funct3 : BitVec 3) (addr : Addr)
    (data : Word) : Except Crash (Access Unit × MemorySystem) := do
  let n := storeWidth funct3
  if misaligned addr n then return (.trap MCAUSE_STORE_MISALIGNED, mem)
  let (found, mem) ← mem.translate addr true false (regFile.readCsr CSR_SATP) regFile.privilege
  if found.fault then return (.trap found.cause, mem)
  let mem ← mem.write found.paddr n data
  return (.done (), mem)

/-- The field `funct3` as `memoryAccess` cuts it out of the word. -/
def memFunct3 (instr : Word) : BitVec 3 := (instr >>> 12).setWidth 3

/-- The load half of the loop body; `true` when it ends the loop with a trap. -/
def loadLane (s : CPUCore) (lane : Fin 2) : Except Crash (CPUCore × Bool) := do
  let slot := s.exMem.slots.get lane
  let addr := s.exMem.memAddr.get lane
  if !s.exMem.memRead.get lane then return (s, false)
  match ← loadAccess s.memory s.regFile (memFunct3 slot.instr) addr with
  | (.trap cause, mem) =>
      let faultPc := s.exMem.pc + BitVec.ofNat 32 (4 * lane.val)
      return ({ s with memory := mem }.handleTrap faultPc cause addr, true)
  | (.done data, mem) =>
      let loaded := { s.memWb.slots.get lane with result := data }
      return ({ s with memory := mem, memWb := ⟨s.memWb.slots.set lane loaded⟩ }, false)

/-- The store half of the loop body. -/
def storeLane (s : CPUCore) (lane : Fin 2) : Except Crash (CPUCore × Bool) := do
  let slot := s.exMem.slots.get lane
  let addr := s.exMem.memAddr.get lane
  if !s.exMem.memWrite.get lane then return (s, false)
  match ← storeAccess s.memory s.regFile (memFunct3 slot.instr) addr (s.exMem.memData.get lane) with
  | (.trap cause, mem) =>
      let faultPc := s.exMem.pc + BitVec.ofNat 32 (4 * lane.val)
      return ({ s with memory := mem }.handleTrap faultPc cause addr, true)
  | (.done (), mem) => return ({ s with memory := mem }, false)

def memoryAccessLane (s : CPUCore) (lane : Fin 2) : Except Crash (CPUCore × Bool) := do
  let slot := s.exMem.slots.get lane
  if !slot.valid then return (s, false)
  let s := { s with memWb := ⟨s.memWb.slots.set lane slot⟩ }
  let (s, trapped) ← s.loadLane lane
  if trapped then return (s, true)
  s.storeLane lane

/-- `memoryAccess`, with the lane whose trap ended the loop. -/
def memoryAccess (s : CPUCore) : Except Crash (CPUCore × Option (Fin 2)) := do
  let s := { s with memWb := {} }
  let (s, trapped) ← s.memoryAccessLane 0
  if trapped then return (s, some 0)
  let (s, trapped) ← s.memoryAccessLane 1
  return (s, if trapped then some 1 else none)

/-! ## Execute -/

def commitCsrLane (s : CPUCore) (lane : Fin 2) : CPUCore :=
  let slot := s.exMem.slots.get lane
  if slot.valid && slot.d.isCsr then
    { s with regFile := s.regFile.writeCsr slot.d.csrAddr slot.csrWriteVal }
  else s

def commitSfenceLane (s : CPUCore) (lane : Fin 2) : CPUCore :=
  let slot := s.exMem.slots.get lane
  if slot.valid && slot.d.isSfence then { s with memory := s.memory.tlbFlush } else s

/-- Empty lane 1 of EX/MEM. -/
def squashSlot1 (s : CPUCore) : CPUCore :=
  { s with exMem := { s.exMem with
      slots := s.exMem.slots.set 1 {}
      memRead := s.exMem.memRead.set 1 false
      memWrite := s.exMem.memWrite.set 1 false } }

/-- The branch in slot 0 against its prediction. -/
def resolveBranch (s : CPUCore) : CPUCore :=
  let brSlot := s.exMem.slots.s0
  if brSlot.valid && brSlot.d.isBranch then
    let s := if !brSlot.d.predictedTaken then { s with pc := brSlot.jumpTarget }.flush else s
    s.squashSlot1
  else if brSlot.valid && brSlot.d.predictedTaken then
    { s with pc := s.exMem.pc + 4 }.flush.squashSlot1
  else s

/-- Instructions whose effect is a trap or a trap return in EX. -/
def trapsInEx (d : DecodedData) : Bool := d.isEcall || d.isIllegal || d.isMret || d.isSret

/-- Enter the register file and pc of a trap return. -/
def returnTo (s : CPUCore) (target : RegisterFile × Addr) : CPUCore :=
  { s with regFile := target.1, pc := target.2 }.flush.killExMem

def handleSlotTrap (s : CPUCore) (slot : PipelineSlot) (slotPc : Addr) : CPUCore :=
  let d := slot.d
  if d.isEcall then s.handleTrap (slotPc + 4) s.regFile.ecallCause 0
  else if d.isIllegal then s.handleTrap slotPc MCAUSE_ILLEGAL slot.instr
  else if d.isMret then s.returnTo s.regFile.mret
  else if d.isSret then s.returnTo s.regFile.sret
  else s

/-- The lane whose trap or return `execute` takes: slot 0 first. -/
def trapLane (exMem : ExMemBuffer) : Option (Fin 2) :=
  if !exMem.slots.s0.valid then none
  else if trapsInEx exMem.slots.s0.d then some 0
  else if exMem.slots.s1.valid && trapsInEx exMem.slots.s1.d then some 1
  else none

def handleSlotTraps (s : CPUCore) : CPUCore :=
  match trapLane s.exMem with
  | none => s
  | some lane =>
      s.handleSlotTrap (s.exMem.slots.get lane) (s.exMem.pc + BitVec.ofNat 32 (4 * lane.val))

/-- `ExecutionEngine::execute` on the latches of the core. -/
def runEngine (s : CPUCore) : CPUCore :=
  { s with exMem := ExecutionEngine.execute s.idEx s.exMem s.memWb s.regFile }

/-- `execute` up to the trap check. -/
def executeResolved (s : CPUCore) : CPUCore :=
  let s := s.runEngine
  let s := (s.commitCsrLane 0).commitCsrLane 1
  let s := (s.commitSfenceLane 0).commitSfenceLane 1
  s.resolveBranch

def execute (s : CPUCore) : CPUCore := s.executeResolved.handleSlotTraps

/-! ## Decode and issue -/

/-- A branch that was issued as predicted taken. -/
def predictsTaken (slot : PipelineSlot) : Bool :=
  slot.valid && slot.d.predictedTaken && slot.d.isBranch

def decodeAndIssue (s : CPUCore) : CPUCore :=
  let (ifId, idEx) := IssueUnit.decodeAndIssue s.ifId s.idEx
  { s with
    ifId := ifId
    idEx := idEx
    pc := if predictsTaken idEx.slots.s0 then idEx.slots.s0.jumpTarget else s.pc }

/-! ## Fetch -/

def translateFetch (s : CPUCore) (vaddr : Addr) : Except Crash (TranslationResult × MemorySystem) :=
  s.memory.translate vaddr false true (s.regFile.readCsr CSR_SATP) s.regFile.privilege

/-- The helper `fetch_instr`: after a fault it returns a zero word. -/
def fetchInstr (s : CPUCore) (vaddr : Addr) : Except Crash (Word × CPUCore) := do
  let (found, mem) ← s.translateFetch vaddr
  let s := { s with memory := mem }
  if found.fault then return (0, s.handleTrap vaddr found.cause vaddr)
  let (instr, mem) ← s.memory.read found.paddr 4
  return (instr, { s with memory := mem })

/-- Put a fetched word into a slot. -/
def fillSlot (slot : PipelineSlot) (instr : Word) : PipelineSlot :=
  { slot with instr := instr, valid := true }

/-- Case B, bubble compression: slot 1 moves down and one word is fetched. -/
def fetchCompress (s : CPUCore) : Except Crash CPUCore := do
  let s := { s with ifId := { s.ifId with slots := ⟨s.ifId.slots.s1, invalidate s.ifId.slots.s1⟩ } }
  if !(s.pc < MEMORY_SIZE) then return s
  let (instr, s) ← s.fetchInstr s.pc
  if !s.running then return s
  return { s with
    ifId := { s.ifId with slots := s.ifId.slots.set 1 (fillSlot s.ifId.slots.s1 instr) }
    pc := s.pc + 4 }

/-- Put one word, fetched from the current pc, into slot 0. -/
def fillOne (s : CPUCore) (instr : Word) : CPUCore :=
  { s with
    ifId := { slots := s.ifId.slots.set 0 (fillSlot s.ifId.slots.s0 instr), pc := s.pc }
    pc := s.pc + 4 }

/-- Does an eight-byte fetch at this physical address leave its page? -/
def crossesPage (physPc : Addr) : Bool := physPc >>> 12 != (physPc + 7) >>> 12

/-- Case C with eight bytes left before the end of memory. -/
def fetchPair (s : CPUCore) : Except Crash CPUCore := do
  let (found, mem) ← s.translateFetch s.pc
  let s := { s with memory := mem }
  if found.fault then return s.handleTrap s.pc found.cause s.pc
  let physPc := found.paddr
  if crossesPage physPc then
    let (instr0, mem) ← s.memory.read physPc 4
    return { s with memory := mem }.fillOne instr0
  if physPc + 8 <= MEMORY_SIZE then
    let dblInstr ← s.memory.readDoubleInstr physPc
    return { s with
      ifId := {
        slots := ⟨fillSlot s.ifId.slots.s0 (dblInstr.setWidth 32),
          fillSlot s.ifId.slots.s1 ((dblInstr >>> 32).setWidth 32)⟩
        pc := s.pc }
      pc := s.pc + 8 }
  return s

/-- Case C near the end of memory: a single word. -/
def fetchSingle (s : CPUCore) : Except Crash CPUCore := do
  let (instr, s) ← s.fetchInstr s.pc
  if !s.running then return s
  return s.fillOne instr

def fetch (s : CPUCore) : Except Crash CPUCore :=
  if s.ifId.slots.s0.valid then .ok s
  else if s.ifId.slots.s1.valid then s.fetchCompress
  else if s.pc + 8 <= MEMORY_SIZE then s.fetchPair
  else if s.pc + 4 <= MEMORY_SIZE then s.fetchSingle
  else .ok s

/-! ## One tick, and the points inside it -/

def atWriteBack (s : CPUCore) : CPUCore := s.updateTimer.checkAndHandleInterrupts

def atMemoryAccess (s : CPUCore) : CPUCore := s.atWriteBack.writeBack

def atExecute (s : CPUCore) : Except Crash CPUCore := s.atMemoryAccess.memoryAccess.map Prod.fst

def atDecode (s : CPUCore) : Except Crash CPUCore := s.atExecute.map execute

def atFetch (s : CPUCore) : Except Crash CPUCore := s.atDecode.map decodeAndIssue

def tick (s : CPUCore) : Except Crash CPUCore :=
  if !s.running then .ok s.atWriteBack else s.atFetch.bind fetch

end CPUCore

end SimpleRV
