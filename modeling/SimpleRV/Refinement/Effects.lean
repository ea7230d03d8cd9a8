import SimpleRV.Memory.RamAccess
import SimpleRV.Pipeline.WellFormed

namespace SimpleRV
namespace Refinement

open IssueUnit CPUCore Memory Pipeline

/-!
# What an executed instruction still has to do

Between EX and WB an instruction makes its memory access and its register
write.  Both are effects on the registers and RAM alone, so the instructions in
EX/MEM stand for a function on these.  The memory stage performs the RAM half
of it and leaves the register half to write-back.
-/

/-- Registers and RAM. -/
@[ext]
structure DataState where
  gpr : RegNum -> Word
  ram : Addr -> Byte

/-- An executed instruction with its memory controls, address and store data. -/
structure InFlight where
  slot : PipelineSlot
  memRead : Bool
  memWrite : Bool
  memAddr : Addr
  memData : Word

namespace InFlight

/-- The value that goes into `rd`: the loaded data, or the result of the engine. -/
def value (op : InFlight) (ram : Addr -> Byte) : Word :=
  let funct3 := memFunct3 op.slot.instr
  if op.memRead then extendLoad funct3 (LittleEndian.load ram op.memAddr (loadWidth funct3)) else op.slot.result

/-- The slot as it stands in MEM/WB. -/
def moved (op : InFlight) (ram : Addr -> Byte) : PipelineSlot :=
  if op.slot.valid then { op.slot with result := op.value ram } else {}

/-- The access and the register write of the instruction. -/
def apply (op : InFlight) (data : DataState) : DataState where
  gpr := applyWrites data.gpr (slotWrites (op.moved data.ram))
  ram :=
    if op.slot.valid && op.memWrite then
      LittleEndian.store data.ram op.memAddr op.memData (storeWidth (memFunct3 op.slot.instr))
    else data.ram

theorem apply_invalid {op : InFlight} (invalid : op.slot.valid = false) (data : DataState) : op.apply data = data := by
  unfold apply moved
  rw [invalid]
  rfl

theorem value_of_noLoad {op : InFlight} (noLoad : op.memRead = false) (ram : Addr -> Byte) :
    op.value ram = op.slot.result := by
  unfold value
  rw [noLoad]
  rfl

/-- Without a load the slot moves on as it is. -/
theorem moved_of_noLoad {op : InFlight} (valid : op.slot.valid = true) (noLoad : op.memRead = false)
    (ram : Addr -> Byte) : op.moved ram = op.slot := by
  rw [moved, if_pos valid, value_of_noLoad noLoad]

/-- An access that is aligned and inside RAM, at an address that is not routed
to the CLINT. -/
structure Accessible (addr : Addr) (n : Nat) : Prop where
  aligned : misaligned addr n = false
  inRam : addr.toNat + n <= MEMORY_SIZE.toNat
  noClint : MemorySystem.inClint addr = false

/-- The instruction can make its access. -/
structure CanAccess (op : InFlight) : Prop where
  load : op.memRead = true -> Accessible op.memAddr (loadWidth (memFunct3 op.slot.instr))
  store : op.memWrite = true -> Accessible op.memAddr (storeWidth (memFunct3 op.slot.instr))

end InFlight

open InFlight

/-- A lane of EX/MEM. -/
def inFlight (exMem : ExMemBuffer) (lane : Fin 2) : InFlight where
  slot := exMem.slots.get lane
  memRead := exMem.memRead.get lane
  memWrite := exMem.memWrite.get lane
  memAddr := exMem.memAddr.get lane
  memData := exMem.memData.get lane

/-- What the instructions in EX/MEM still have to do, lane 0 first. -/
def pending (exMem : ExMemBuffer) (data : DataState) : DataState :=
  (inFlight exMem 1).apply ((inFlight exMem 0).apply data)

/-- MEM/WB after the memory stage, which starts with the given RAM. -/
def movedLatch (exMem : ExMemBuffer) (ram : Addr -> Byte) : MemWbBuffer where
  slots := ⟨(inFlight exMem 0).moved ram,
    (inFlight exMem 1).moved ((inFlight exMem 0).apply ⟨fun _ => 0, ram⟩).ram⟩

/-- The register half is what write-back does with the slots that have moved on. -/
theorem pending_gpr (exMem : ExMemBuffer) (data : DataState) :
    (pending exMem data).gpr = applyWrites data.gpr (registerWrites (movedLatch exMem data.ram)) := by
  rw [registerWrites, applyWrites_append]
  rfl

/-- A halting word writes no register anyway. -/
theorem slotWrites_decoded {slot : PipelineSlot} (regWrite : slot.regWrite = (decode slot.instr).regWrite) :
    slotWrites slot = if slot.valid && slot.regWrite && slot.rd != 0 then [(slot.rd, slot.result)] else [] := by
  unfold slotWrites
  cases halts : isHalt slot.instr with
  | false => simp
  | true => simp [regWrite, (decode_halt halts).2.2.2.1]

/-! ## Accesses in machine mode -/

theorem loadAccess_machine (mem : MemorySystem) {regFile : RegisterFile} {funct3 : BitVec 3} {addr : Addr}
    (machine : regFile.privilege = PRV_M) (accessible : Accessible addr (loadWidth funct3)) :
    loadAccess mem regFile funct3 addr =
      .ok (.done (extendLoad funct3 (LittleEndian.load mem.memory addr (loadWidth funct3))),
        { mem with keyboard := mem.keyboard.checkHostKeyboard }) := by
  have readOk := @read_inRam mem addr _ (loadWidth_pos funct3) accessible.inRam accessible.noClint
  unfold loadAccess
  simp only [accessible.aligned, machine, translate_machine, Bool.false_eq_true, if_false, bind, Except.bind,
    readOk, pure, Except.pure]

theorem storeAccess_machine (mem : MemorySystem) (data : Word) {regFile : RegisterFile} {funct3 : BitVec 3}
    {addr : Addr} (machine : regFile.privilege = PRV_M) (accessible : Accessible addr (storeWidth funct3)) :
    storeAccess mem regFile funct3 addr data =
      .ok (.done (), { mem with memory := LittleEndian.store mem.memory addr data (storeWidth funct3) }) := by
  have writeOk := @write_inRam mem addr _ data (storeWidth_pos funct3) accessible.inRam accessible.noClint
  unfold storeAccess
  simp only [accessible.aligned, machine, translate_machine, Bool.false_eq_true, if_false, bind, Except.bind,
    writeOk, pure, Except.pure]

/-! ## The memory stage -/

/-- A lane that can make its access makes it, and moves on. -/
theorem laneAccess_machine {s : CPUCore} {lane : Fin 2} (machine : s.regFile.privilege = PRV_M)
    (one : OneAccess s.exMem) (valid : (s.exMem.slots.get lane).valid = true)
    (can : CanAccess (inFlight s.exMem lane)) : Exists fun mem =>
      laneAccess s lane = .ok (.done ((inFlight s.exMem lane).value s.memory.memory), mem) ∧
        mem.memory = ((inFlight s.exMem lane).apply ⟨fun _ => 0, s.memory.memory⟩).ram ∧
        mem.uartOutput = s.memory.uartOutput := by
  unfold laneAccess value InFlight.apply
  simp only [inFlight, valid, Bool.true_and]
  by_cases reads : s.exMem.memRead.get lane = true
  · have noStore : s.exMem.memWrite.get lane = false := one lane valid reads
    have load := loadAccess_machine s.memory machine (can.load reads)
    simp only [inFlight] at load
    simp only [reads, noStore, load, if_true, Bool.false_eq_true, if_false]
    exact ⟨_, rfl, rfl, rfl⟩
  · by_cases writes : s.exMem.memWrite.get lane = true
    · have store := storeAccess_machine s.memory (s.exMem.memData.get lane) machine
        (can.store writes)
      simp only [inFlight] at store
      simp only [reads, writes, store, if_true, Bool.false_eq_true, if_false]
      exact ⟨_, rfl, rfl, rfl⟩
    · simp only [reads, writes, Bool.false_eq_true, if_false]
      exact ⟨s.memory, rfl, rfl, rfl⟩

theorem memoryAccessLane_machine {s : CPUCore} (lane : Fin 2) (machine : s.regFile.privilege = PRV_M)
    (one : OneAccess s.exMem) (free : s.memWb.slots.get lane = {})
    (can : (s.exMem.slots.get lane).valid = true -> CanAccess (inFlight s.exMem lane)) : Exists fun mem =>
      s.memoryAccessLane lane = .ok ({ s with
        memory := mem
        memWb := ⟨s.memWb.slots.set lane ((inFlight s.exMem lane).moved s.memory.memory)⟩ }, false) ∧
      mem.memory = ((inFlight s.exMem lane).apply ⟨fun _ => 0, s.memory.memory⟩).ram ∧
      mem.uartOutput = s.memory.uartOutput := by
  cases valid : (s.exMem.slots.get lane).valid with
  | false =>
      refine ⟨s.memory, ?_, ?_, rfl⟩
      · have same : s.memWb.slots.set lane {} = s.memWb.slots := by
          rw [← free]
          cases lane using laneCases with
          | zero => rfl
          | one => rfl
        rw [memoryAccessLane_invalid valid, moved, inFlight, if_neg (ne_true_of_eq_false valid), same]
      · rw [@apply_invalid (inFlight s.exMem lane) valid]
  | true =>
      rcases laneAccess_machine machine one valid (can valid) with ⟨mem, access, kept⟩
      refine ⟨mem, ?_, kept⟩
      rw [memoryAccessLane_eq valid (one lane valid), access, moved,
        if_pos (show (inFlight _ _).slot.valid = true from valid)]
      rfl

/-- In machine mode, when every lane can make its access, the stage makes the
accesses in program order and hands the slots on. -/
theorem memoryAccess_machine {s : CPUCore} (machine : s.regFile.privilege = PRV_M) (one : OneAccess s.exMem)
    (can : forall lane, (s.exMem.slots.get lane).valid = true -> CanAccess (inFlight s.exMem lane)) :
    Exists fun mem =>
      s.memoryAccess =
        .ok ({ s with memory := mem, memWb := movedLatch s.exMem s.memory.memory }, none) ∧
      (forall gpr, (pending s.exMem ⟨gpr, s.memory.memory⟩).ram = mem.memory) ∧
      mem.uartOutput = s.memory.uartOutput := by
  rcases memoryAccessLane_machine (s := { s with memWb := {} }) 0 machine one rfl (can 0) with
    ⟨mem0, first, ram0, uart0⟩
  rcases memoryAccessLane_machine
    (s := { s with memory := mem0, memWb := ⟨Dual.set ⟨{}, {}⟩ 0 ((inFlight s.exMem 0).moved s.memory.memory)⟩ })
    1 machine one rfl (can 1) with ⟨mem1, second, ram1, uart1⟩
  refine ⟨mem1, ?_, ?_, uart1.trans uart0⟩
  · rw [memoryAccess_of_lanes first second, ram0]
    rfl
  · intro gpr
    rw [ram1, ram0]
    rfl

end Refinement
end SimpleRV
