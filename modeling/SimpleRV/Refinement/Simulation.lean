import SimpleRV.Refinement.ExecuteInOrder
import SimpleRV.Refinement.MachineFetch
import SimpleRV.Refinement.Path

namespace SimpleRV
namespace Refinement

open RegisterFile IssueUnit CPUCore ExecutionEngine Pipeline InFlight Iteration

/-!
# The simulation

Three points of a sequential path describe a state of the pipeline between two
ticks: what has been written back, what has made its memory access, and what
has been executed.  MEM/WB lies between the first two and EX/MEM between the
last two.  The front end either holds the next instruction of the path, or will
fetch it, or is on a wrong path behind a branch in ID/EX.
-/

section Relation

variable (path : Nat -> SeqState) (length : Nat)

/-- The instructions in a pair of slots. -/
def occupied (slots : Dual PipelineSlot) : Nat :=
  (if slots.s0.valid then 1 else 0) + (if slots.s1.valid then 1 else 0)

/-- No instruction of the path traps or returns from a trap. -/
def NoTraps : Prop := forall i, i < length -> trapsInEx (path i).slot.d = false

/-- A latched word whose address lies on the path is the word of the path. -/
def WordsOfPath (pc : Addr) (slots : Dual PipelineSlot) : Prop :=
  forall lane : Fin 2, (slots.get lane).valid = true -> forall j, j < length ->
    (path j).pc = pc + BitVec.ofNat 32 (4 * lane.val) -> (slots.get lane).instr = (path j).instr

/-- No instruction of the latch halts the simulator. -/
def NoHalt (slots : Dual PipelineSlot) : Prop :=
  forall lane, (slots.get lane).valid = true -> isHalt (slots.get lane).instr = false

/-- A latch holds the instructions of the path from one point to another.  One
that has trapped has left it empty. -/
inductive Holds (slots : Dual PipelineSlot) (start : Nat) : Nat -> Prop where
  | nothing (invalid0 : slots.s0.valid = false) (invalid1 : slots.s1.valid = false) : Holds slots start start
  | one (valid0 : slots.s0.valid = true) (word0 : slots.s0.instr = (path start).instr)
      (invalid1 : slots.s1.valid = false) : Holds slots start (start + 1)
  | two (valid0 : slots.s0.valid = true) (word0 : slots.s0.instr = (path start).instr)
      (valid1 : slots.s1.valid = true) (word1 : slots.s1.instr = (path (start + 1)).instr) :
      Holds slots start (start + 2)
  | trapped (invalid0 : slots.s0.valid = false) (invalid1 : slots.s1.valid = false) (below : start < length)
      (traps : trapsInEx (path start).slot.d = true) : Holds slots start (start + 1)

/-- Registers, RAM and the two latches behind the engine. -/
structure BackEnd (regFile : RegisterFile) (ram : Addr -> Byte) (exMem : ExMemBuffer) (memWb : MemWbBuffer)
    (retired accessed executed : Nat) : Prop where
  csrs : SameCsrs (path executed).regFile regFile
  written : regFile.gpr = (path retired).regFile.gpr
  toWrite : (writtenBack regFile memWb).gpr = (path accessed).regFile.gpr
  stored : ram = (path accessed).memory.memory
  toAccess : pending exMem (path accessed).data = (path executed).data
  canAccess : forall lane, (exMem.slots.get lane).valid = true -> CanAccess (inFlight exMem lane)
  inWb : Holds path length memWb.slots retired accessed
  inMem : Holds path length exMem.slots accessed executed

/-- The fetch pc and the two latches in front of the engine. -/
structure FrontOnPath (pc : Addr) (ifId : IfIdBuffer) (idEx : IdExBuffer) (executed : Nat) : Prop where
  next : (if idEx.slots.s0.valid then idEx.pc else frontPc ifId pc) = (path executed).pc
  ifIdWords : WordsOfPath path length ifId.pc ifId.slots
  idExWords : WordsOfPath path length idEx.pc idEx.slots
  moving : idEx.slots.s0.valid = true -> ifId.slots.s0.valid = true ∨ forall j, j < length -> pc ≠ (path j).pc

/-- A state between two ticks. -/
structure Simulates (s : CPUCore) (retired accessed executed : Nat) : Prop where
  formed : WellFormed s
  running : s.running = true
  backEnd : BackEnd path length s.regFile s.memory.memory s.exMem s.memWb retired accessed executed
  front : FrontOnPath path length s.pc s.ifId s.idEx executed
  counted : NoTraps path length -> s.instrCount = retired

/-- A state between the memory and the execute stage: EX/MEM is still there
for the forwarding network, but its work is done. -/
structure AtExecute (s : CPUCore) (accessed executed : Nat) : Prop where
  formed : WellFormed s
  running : s.running = true
  csrs : SameCsrs (path executed).regFile s.regFile
  written : s.regFile.gpr = (path accessed).regFile.gpr
  toWrite : (writtenBack s.regFile s.memWb).gpr = (path executed).regFile.gpr
  stored : s.memory.memory = (path executed).memory.memory
  moved : Exists fun ram => s.memWb = movedLatch s.exMem ram
  inWb : Holds path length s.memWb.slots accessed executed
  front : FrontOnPath path length s.pc s.ifId s.idEx executed
  counted : NoTraps path length -> s.instrCount = accessed

end Relation

variable {path : Nat -> SeqState} {length : Nat}

/-! ## Instructions in a latch -/

section Holds

variable {slots : Dual PipelineSlot} {start stop : Nat}

theorem Holds.bounds (holds : Holds path length slots start stop) : start <= stop ∧ stop <= start + 2 := by
  cases holds <;> omega

/-- Without traps the latch has a slot for every instruction. -/
theorem Holds.counted (holds : Holds path length slots start stop) (noTraps : NoTraps path length) :
    stop = start + occupied slots := by
  cases holds with
  | nothing invalid0 invalid1 => simp [occupied, invalid0, invalid1]
  | one valid0 _ invalid1 => simp [occupied, valid0, invalid1]
  | two valid0 _ valid1 _ => simp [occupied, valid0, valid1]
  | trapped _ _ below traps => exact absurd ((noTraps _ below).symm.trans traps) Bool.false_ne_true

/-- A slot in use holds the instruction of the path at its place. -/
theorem Holds.word (holds : Holds path length slots start stop) {lane : Fin 2}
    (valid : (slots.get lane).valid = true) :
    start + lane.val < stop ∧ (slots.get lane).instr = (path (start + lane.val)).instr := by
  cases holds with
  | nothing invalid0 invalid1 => exact (@forall_lane_of_invalid _ (fun _ => False) invalid0 invalid1 lane valid).elim
  | one valid0 word0 invalid1 =>
      cases lane using laneCases with
      | zero => exact ⟨Nat.lt_succ_self _, word0⟩
      | one => exact absurd valid (ne_true_of_eq_false invalid1)
  | two valid0 word0 valid1 word1 =>
      cases lane using laneCases with
      | zero => exact ⟨Nat.lt_add_of_pos_right (by decide), word0⟩
      | one => exact ⟨Nat.lt_succ_self _, word1⟩
  | trapped invalid0 invalid1 _ _ => exact (@forall_lane_of_invalid _ (fun _ => False) invalid0 invalid1 lane valid).elim

/-- An instruction that does not trap has a slot. -/
theorem Holds.slot (holds : Holds path length slots start stop) {i : Nat} (from_start : start <= i)
    (below : i < stop) (quiet : trapsInEx (path i).slot.d = false) :
    Exists fun lane : Fin 2 => i = start + lane.val ∧ (slots.get lane).valid = true := by
  cases holds with
  | nothing _ _ => exact absurd below (Nat.not_lt_of_le from_start)
  | one valid0 _ _ => exact ⟨0, by simp only [Fin.val_zero]; omega, valid0⟩
  | two valid0 _ valid1 _ =>
      rcases Nat.eq_or_lt_of_le from_start with here | later
      · exact ⟨0, here.symm, valid0⟩
      · exact ⟨1, by simp only [Fin.val_one]; omega, valid1⟩
  | trapped _ _ _ traps =>
      have here : i = start := by omega
      exact absurd (quiet.symm.trans (here ▸ traps)) Bool.false_ne_true

/-- No slot halts if no instruction of the path does. -/
theorem Holds.noHalt (holds : Holds path length slots start stop)
    (continues : forall i, i < stop -> isHalt (path i).instr = false) : NoHalt slots := by
  intro lane valid
  rcases holds.word valid with ⟨below, word⟩
  rw [word]
  exact continues _ below

end Holds

/-! ## Write-back -/

/-- Without a halting word write-back writes and counts every slot. -/
theorem writeBackLane_noHalt {s : CPUCore} {lane : Fin 2}
    (noHalt : (s.memWb.slots.get lane).valid = true -> isHalt (s.memWb.slots.get lane).instr = false) :
    s.writeBackLane lane = { s with
      regFile := { s.regFile with gpr := applyWrites s.regFile.gpr (slotWrites (s.memWb.slots.get lane)) }
      instrCount := s.instrCount + if (s.memWb.slots.get lane).valid then 1 else 0 } := by
  have regFile := writeBackLane_regFile s lane
  rw [← regFile]
  unfold writeBackLane
  cases valid : (s.memWb.slots.get lane).valid with
  | false => simp [valid]
  | true => simp [valid, noHalt valid]

theorem writeBack_noHalt {s : CPUCore} (noHalt : NoHalt s.memWb.slots) : s.writeBack = { s with
    regFile := writtenBack s.regFile s.memWb
    instrCount := s.instrCount + occupied s.memWb.slots } := by
  have first := writeBackLane_noHalt (noHalt 0)
  have second := @writeBackLane_noHalt (s.writeBackLane 0) 1 (by rw [first]; exact noHalt 1)
  rw [writeBack, second, first, writtenBack, registerWrites, applyWrites_append, occupied, ← Nat.add_assoc]
  rfl

/-- With interrupts disabled the beginning of a tick changes the timer and `mip`. -/
theorem atWriteBack_machine {s : CPUCore} (none : NoInterrupts s.regFile) : Exists fun memory => Exists fun mip =>
    s.atWriteBack = { s with memory := memory, regFile := { s.regFile with mip := mip } } ∧
      memory.memory = s.memory.memory ∧ memory.uartOutput = s.memory.uartOutput := by
  rcases updateTimer_regFile s with ⟨mip, regFile⟩
  have same : SameCsrs s.regFile s.updateTimer.regFile := ⟨s.regFile.gpr, mip, regFile⟩
  refine ⟨s.memory.incrementTimer, mip, ?_, rfl, rfl⟩
  rw [atWriteBack_quiet (none.sameCsrs same).select, ← regFile]
  rfl

/-- The tick up to write-back retires what is in MEM/WB. -/
theorem Simulates.atMemoryAccess {s : CPUCore} {retired accessed executed : Nat}
    (sim : Simulates path length s retired accessed executed) (good : Followable path length)
    (within : executed <= length) (noHalt : NoHalt s.memWb.slots) :
    Exists fun memory => Exists fun regFile => Exists fun count =>
      s.atMemoryAccess = { s with memory := memory, regFile := regFile, instrCount := count } ∧
      (memory.memory = s.memory.memory ∧ memory.uartOutput = s.memory.uartOutput) ∧
      SameCsrs (path executed).regFile regFile ∧ regFile.gpr = (path accessed).regFile.gpr ∧
      (NoTraps path length -> count = accessed) := by
  have none := (good.noInterrupts executed within).sameCsrs sim.backEnd.csrs
  rcases atWriteBack_machine none with ⟨memory, mip, atWb, sameRam⟩
  have continues : NoHalt s.atWriteBack.memWb.slots := by
    rw [atWb]
    exact noHalt
  have wrote := writeBack_noHalt continues
  refine ⟨memory, writtenBack { s.regFile with mip := mip } s.memWb, s.instrCount + occupied s.memWb.slots, ?_,
    sameRam, ?_, sim.backEnd.toWrite, ?_⟩
  · rw [CPUCore.atMemoryAccess, wrote, atWb]
  · exact sim.backEnd.csrs.trans ⟨_, mip, rfl⟩
  · intro noTraps
    rw [sim.counted noTraps, ← sim.backEnd.inWb.counted noTraps]

/-! ## Memory access -/

theorem moved_valid (op : InFlight) (ram : Addr -> Byte) : (op.moved ram).valid = op.slot.valid := by
  unfold InFlight.moved
  cases valid : op.slot.valid with
  | true => simp [valid]
  | false => rfl

theorem moved_instr {op : InFlight} (valid : op.slot.valid = true) (ram : Addr -> Byte) :
    (op.moved ram).instr = op.slot.instr := by
  rw [InFlight.moved, if_pos valid]

/-- The instructions of EX/MEM move on. -/
theorem Holds.moved {exMem : ExMemBuffer} {start stop : Nat} (holds : Holds path length exMem.slots start stop)
    (ram : Addr -> Byte) : Holds path length (movedLatch exMem ram).slots start stop := by
  have valid : forall lane ram, ((inFlight exMem lane).moved ram).valid = (exMem.slots.get lane).valid :=
    fun lane ram => moved_valid (inFlight exMem lane) ram
  have instr : forall lane ram, (exMem.slots.get lane).valid = true ->
      ((inFlight exMem lane).moved ram).instr = (exMem.slots.get lane).instr :=
    fun lane ram inUse => @moved_instr (inFlight exMem lane) inUse ram
  cases holds with
  | nothing invalid0 invalid1 =>
      exact .nothing ((valid 0 _).trans invalid0) ((valid 1 _).trans invalid1)
  | one valid0 word0 invalid1 =>
      exact .one ((valid 0 _).trans valid0) ((instr 0 _ valid0).trans word0) ((valid 1 _).trans invalid1)
  | two valid0 word0 valid1 word1 =>
      exact .two ((valid 0 _).trans valid0) ((instr 0 _ valid0).trans word0) ((valid 1 _).trans valid1)
        ((instr 1 _ valid1).trans word1)
  | trapped invalid0 invalid1 below traps =>
      exact .trapped ((valid 0 _).trans invalid0) ((valid 1 _).trans invalid1) below traps

/-- The tick up to the memory stage makes the accesses of EX/MEM. -/
theorem Simulates.atExecute {s : CPUCore} {retired accessed executed : Nat}
    (sim : Simulates path length s retired accessed executed) (good : Followable path length)
    (within : executed <= length) (noHalt : NoHalt s.memWb.slots) :
    Exists fun e => s.atExecute = .ok e ∧ AtExecute path length e accessed executed ∧
      e.memory.uartOutput = s.memory.uartOutput := by
  rcases sim.atMemoryAccess good within noHalt with
    ⟨memory, regFile, count, atMem, ⟨sameRam, sameUart⟩, csrs, written, counted⟩
  have back := sim.backEnd
  have machine : regFile.privilege = PRV_M :=
    csrs.privilege.trans (good.noInterrupts executed within).machine
  rcases @memoryAccess_machine s.atMemoryAccess (by rw [atMem]; exact machine)
      (by rw [atMem]; exact sim.formed.executedPair.oneAccess) (by rw [atMem]; exact back.canAccess) with
    ⟨mem, accessOk, storedRam, uart⟩
  have ran : s.atExecute = .ok { s.atMemoryAccess with
      memory := mem
      memWb := movedLatch s.atMemoryAccess.exMem s.atMemoryAccess.memory.memory } := by
    rw [CPUCore.atExecute, accessOk]
    rfl
  have formed := atExecute_wellFormed sim.formed ran
  have dataEq : (⟨regFile.gpr, memory.memory⟩ : DataState) = (path accessed).data := by
    rw [written, sameRam, back.stored]
    rfl
  have performed : pending s.exMem ⟨regFile.gpr, memory.memory⟩ = (path executed).data := by
    rw [dataEq, back.toAccess]
  rw [atMem] at ran storedRam formed uart
  refine ⟨_, ran, ⟨formed, sim.running, csrs, written, ?_, ?_, ⟨memory.memory, rfl⟩, back.inMem.moved _, sim.front,
    counted⟩, uart.trans sameUart⟩
  · exact (pending_gpr s.exMem ⟨regFile.gpr, memory.memory⟩).symm.trans (congrArg DataState.gpr performed)
  · exact (storedRam regFile.gpr).symm.trans (congrArg DataState.ram performed)

end Refinement
end SimpleRV
