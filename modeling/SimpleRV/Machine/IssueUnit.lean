import SimpleRV.Machine.Common

namespace SimpleRV

/-!
# Decoding and dual issue

`IssueUnit.h`/`.cpp`.  `decodeInstruction` overwrites every field of the
decoded data from the instruction word alone (its `slot_pc` argument is not
used), so it is a function `decode` of that word and its effect on a slot.
-/

namespace IssueUnit

/-- The fields cut out of the word before the opcode is looked at, with every
control signal reset. -/
def decodeFields (instr : Word) : DecodedData where
  op := instr.setWidth 7
  rd := (instr >>> 7).setWidth 5
  rs1 := (instr >>> 15).setWidth 5
  rs2 := (instr >>> 20).setWidth 5
  funct3 := (instr >>> 12).setWidth 3
  funct7 := (instr >>> 25).setWidth 7

/-- `((int32_t)instr) >> 20`, the sign-extended 12-bit immediate. -/
def immI (instr : Word) : Word := instr.sshiftRight 20

def immS (instr : Word) : Word :=
  ((instr.sshiftRight 25) <<< 5) ||| ((instr >>> 7) &&& 0x1F#32)

def immB (instr : Word) : Word :=
  ((instr.sshiftRight 31) <<< 12) ||| (((instr >>> 7) &&& 0x1#32) <<< 11) |||
    (((instr >>> 25) &&& 0x3F#32) <<< 5) ||| (((instr >>> 8) &&& 0xF#32) <<< 1)

def immJ (instr : Word) : Word :=
  ((instr.sshiftRight 31) <<< 20) ||| (((instr >>> 12) &&& 0xFF#32) <<< 12) |||
    (((instr >>> 20) &&& 0x1#32) <<< 11) ||| (((instr >>> 21) &&& 0x3FF#32) <<< 1)

/-- The system opcode 0x73. -/
def decodeSystem (instr : Word) (d : DecodedData) : DecodedData :=
  if d.funct3 = 0 then
    match (instr >>> 20).setWidth 12 with
    | 0x000#12 => { d with isEcall := true }
    | 0x302#12 => { d with isMret := true }
    | 0x102#12 => { d with isSret := true }
    | 0x104#12 => { d with isSfence := true }
    -- EBREAK goes down the pipeline and is handled in WB, WFI is a NOP
    | 0x001#12 => d
    | 0x105#12 => d
    | _ => { d with isIllegal := true }
  else
    { d with
      isCsr := true
      csrAddr := (instr >>> 20).setWidth 12
      regWrite := d.rd != 0
      usesRs1 := decide (d.funct3 <= 3) }

/-- The switch of `decodeInstruction` over the opcode. -/
def decodeOpcode (instr : Word) (d : DecodedData) : DecodedData :=
  match d.op with
  | 0x33#7 => { d with usesRs1 := true, usesRs2 := true, regWrite := true }
  | 0x13#7 => { d with usesRs1 := true, regWrite := true, imm := immI instr }
  | 0x03#7 => { d with usesRs1 := true, regWrite := true, isMemory := true, imm := immI instr }
  | 0x23#7 => { d with usesRs1 := true, usesRs2 := true, isMemory := true, imm := immS instr }
  | 0x63#7 => { d with usesRs1 := true, usesRs2 := true, isBranch := true, imm := immB instr }
  | 0x37#7 => { d with regWrite := true, imm := instr &&& 0xFFFFF000#32 }
  | 0x17#7 => { d with regWrite := true, imm := instr &&& 0xFFFFF000#32 }
  | 0x6F#7 => { d with regWrite := true, isBranch := true, imm := immJ instr }
  | 0x67#7 => { d with usesRs1 := true, regWrite := true, isBranch := true, imm := immI instr }
  | 0x73#7 => decodeSystem instr d
  | 0x0F#7 => d
  -- opcode zero is unprogrammed memory, left to the fatal check in WB
  | 0x00#7 => d
  | _ => { d with isIllegal := true }

/-- Backward taken, forward not taken; JAL always taken, JALR never. -/
def predict (d : DecodedData) : Bool :=
  d.isBranch && (d.op == 0x6F#7 || (d.op == 0x63#7 && d.imm.slt 0))

def decode (instr : Word) : DecodedData :=
  let d := decodeOpcode instr (decodeFields instr)
  { d with predictedTaken := predict d }

def decodeInstruction (slot : PipelineSlot) : PipelineSlot :=
  { slot with
    d := decode slot.instr
    rd := (decode slot.instr).rd
    regWrite := (decode slot.instr).regWrite }

/-- An instruction that must be issued alone. -/
def isSystem (d : DecodedData) : Bool :=
  d.isEcall || d.isMret || d.isSret || d.isCsr

/-- Does the instruction use register `rd` as a source? -/
def usesReg (d : DecodedData) (rd : RegNum) : Bool :=
  (d.usesRs1 && d.rs1 == rd) || (d.usesRs2 && d.rs2 == rd)

/-- `canIssueTogether`, without the statistics. -/
def canIssueTogether (i0 i1 : DecodedData) : Bool :=
  if i0.isMemory && i1.isMemory then false
  else if i1.isBranch then false
  else if i0.isBranch && i0.predictedTaken then false
  else if i0.isBranch && isSystem i1 then false
  else if i0.isMemory && i0.regWrite && i0.rd != 0 && usesReg i1 i0.rd then false
  else if isSystem i0 || isSystem i1 then false
  else true

/-- Does the latched lane hold a load whose result the pair in `if_id` needs? -/
def loadUse (lane : PipelineSlot) (slots : Dual PipelineSlot) : Bool :=
  lane.valid && lane.d.isMemory && lane.d.regWrite && lane.d.rd != 0 &&
    (usesReg slots.s0.d lane.d.rd || (slots.s1.valid && usesReg slots.s1.d lane.d.rd))

def crossCycleStall (idEx : IdExBuffer) (slots : Dual PipelineSlot) : Bool :=
  loadUse idEx.slots.s0 slots || loadUse idEx.slots.s1 slots

def isLoad (d : DecodedData) : Bool := d.isMemory && d.regWrite

def isStore (d : DecodedData) : Bool := d.isMemory && !d.regWrite

/-- Keep a latch entry but mark it empty. -/
def invalidate (slot : PipelineSlot) : PipelineSlot := { slot with valid := false }

/-- `IssueUnit::decodeAndIssue` on the two latches it changes. -/
def decodeAndIssue (ifId : IfIdBuffer) (idEx : IdExBuffer) : IfIdBuffer × IdExBuffer :=
  if !ifId.slots.s0.valid then (ifId, idEx)
  else
    let s0 := decodeInstruction ifId.slots.s0
    let s1 := decodeInstruction ifId.slots.s1
    if crossCycleStall idEx ⟨s0, s1⟩ then
      ({ ifId with slots := ⟨s0, s1⟩ },
        { idEx with
          slots := ⟨invalidate idEx.slots.s0, invalidate idEx.slots.s1⟩
          memRead := ⟨false, false⟩
          memWrite := ⟨false, false⟩ })
    else if s0.d.isBranch && s0.d.predictedTaken then
      let s0 := { s0 with jumpTarget := ifId.pc + s0.d.imm }
      ({ ifId with slots := ⟨invalidate s0, invalidate s1⟩ },
        { slots := ⟨s0, invalidate idEx.slots.s1⟩
          pc := ifId.pc
          memRead := ⟨false, false⟩
          memWrite := ⟨false, false⟩ })
    else if s1.valid && canIssueTogether s0.d s1.d then
      ({ ifId with slots := ⟨invalidate s0, invalidate s1⟩ },
        { slots := ⟨s0, s1⟩
          pc := ifId.pc
          memRead := ⟨isLoad s0.d, isLoad s1.d⟩
          memWrite := ⟨isStore s0.d, isStore s1.d⟩ })
    else
      -- single issue: the second word moves to slot 0
      ({ slots := ⟨s1, invalidate s1⟩, pc := ifId.pc + 4 },
        { slots := ⟨s0, invalidate idEx.slots.s1⟩
          pc := ifId.pc
          memRead := ⟨isLoad s0.d, false⟩
          memWrite := ⟨isStore s0.d, false⟩ })

end IssueUnit

end SimpleRV
