import SimpleRV.Isa.Execution
import SimpleRV.Library.Rv32iMachine
import SimpleRV.Memory.LoadValues
import SimpleRV.Refinement.OrdinaryPrograms

namespace SimpleRV
namespace Refinement

open RegisterFile IssueUnit CPUCore ExecutionEngine Memory Pipeline InFlight Isa Rv32i Iteration

/-!
# From the instruction set to the pipeline

The sequential machine runs RV32I programs as the instruction-set manual says,
so the pipeline that refines it does as well.  The middle level uses the
decoder and the engine of the core; the upper one knows only the encodings and
the meaning of the instructions.
-/

/-- The sequential machine holds a state of the program. -/
structure Implements (program : Program) (r : SeqState) (s : State) : Prop where
  pc : r.pc = s.pc
  regs : r.regFile.readRs1 = s.regs.read
  memory : r.memory.memory = s.memory
  loaded : program.LoadedIn s.memory
  machine : r.regFile.privilege = PRV_M

/-- What the core asks of a program beyond the instruction set.  The fetch of a
pair and the fetch behind a branch stay in RAM, accesses are aligned and stay in
RAM, neither is routed to the CLINT, and no instruction is overwritten. -/
structure Supports (program : Program) (s : State) (i : Instr) : Prop where
  here : program.code s.pc = some i
  room : s.pc.toNat + 8 <= MEMORY_SIZE.toNat
  noClint : MemorySystem.inClint s.pc = false
  branchTarget : forall condition rs1 rs2 offset, i = .branch condition rs1 rs2 offset ->
    s.pc + offset.val.signExtend 32 < MEMORY_SIZE - 8
  access : forall addr, i.address s.regs.read = some addr -> Accessible addr i.width
  spares : program.Spares s i

/-! ## Instructions of a program -/

theorem encode_ordinary (i : Instr) : (decode i.encode).op ∈ SeqState.ordinaryOpcodes := by
  rw [(decode_fields i.encode).1, encode_opcode]
  cases i <;> simp [SeqState.ordinaryOpcodes]

theorem memFunct3_eq (word : Word) : memFunct3 word = funct3Field word :=
  BitFields.setWidth_shiftRight word 12 3

/-- The widths that the memory stage finds in a word. -/
theorem loadWidth_encode {i : Instr} (loads : i.loads = true) : loadWidth (memFunct3 i.encode) = i.width := by
  cases i with
  | load kind rd rs1 imm =>
      rw [memFunct3_eq, Instr.encode, (iType_fields rs1 kind.funct3 rd 0x03#7 imm).2.2.1]
      exact loadWidth_kind kind
  | _ => cases loads

theorem storeWidth_encode {i : Instr} (stores : i.stores = true) : storeWidth (memFunct3 i.encode) = i.width := by
  cases i with
  | store kind rs1 rs2 imm =>
      rw [memFunct3_eq, Instr.encode, (sType_fields rs2 rs1 kind.funct3 0x23#7 imm).2.1]
      cases kind <;> rfl
  | _ => cases stores

/-- Loads from RAM come out extended as the manual says. -/
theorem extendLoad_load (kind : LoadKind) (ram : Addr -> Byte) (addr : Addr) :
    extendLoad kind.funct3 (LittleEndian.load ram addr (loadWidth kind.funct3)) =
      kind.extend (LittleEndian.load ram addr kind.bytes) := by
  rw [loadWidth_kind, extendLoad_kind]
  have narrow := @setWidth_of_narrow kind.bytes _ (narrow_load ram addr kind.bytes)
  cases kind with
  | lbu => exact narrow.symm
  | lhu => exact narrow.symm
  | _ => rfl

section Implements

variable {program : Program} {r : SeqState} {s : State} {i : Instr}

theorem Implements.instr (holds : Implements program r s) (here : program.code s.pc = some i) : r.instr = i.encode := by
  unfold SeqState.instr SeqState.wordAt
  rw [holds.memory, holds.pc]
  exact holds.loaded s.pc i here

/-- The slot at the pc decodes to the instruction. -/
theorem Implements.decoded (holds : Implements program r s) (here : program.code s.pc = some i) :
    r.slot.d = decode i.encode := by
  rw [← holds.instr here]
  rfl

theorem Implements.executes (holds : Implements program r s) (here : program.code s.pc = some i) :
    ExecutesAs i s.pc s.regs.read r.executed := by
  have executed := executeSlotWith_encoded i r.pc r.regFile.readRs1 r.regFile (holds.decoded here)
  rw [holds.pc, holds.regs] at executed
  unfold SeqState.executed
  rw [holds.pc, holds.regs]
  exact executed

theorem Implements.ordinary (holds : Implements program r s) (here : program.code s.pc = some i) : r.Ordinary := by
  unfold SeqState.Ordinary
  rw [holds.decoded here]
  exact encode_ordinary i

theorem Implements.nextPc (holds : Implements program r s) (here : program.code s.pc = some i) :
    r.nextPc = (s.next i).pc := by
  have executes := holds.executes here
  change r.nextPc = (i.target s.pc s.regs.read).getD (s.pc + 4)
  unfold SeqState.nextPc
  rw [executes.decision, holds.pc]
  cases target : i.target s.pc s.regs.read with
  | none => rfl
  | some addr => exact executes.target addr target

/-- The instruction in flight accesses what the manual says. -/
theorem Implements.inFlight (holds : Implements program r s) (here : program.code s.pc = some i) :
    r.inFlight.memRead = i.loads ∧ r.inFlight.memWrite = i.stores ∧ r.inFlight.slot.instr = i.encode ∧
      (forall addr, i.address s.regs.read = some addr -> r.inFlight.memAddr = addr) ∧
      (forall data, i.stored s.regs.read = some data -> r.inFlight.memData = data) := by
  have decoded : DecodesTo i r.slot.d := holds.decoded here ▸ decode_encode i
  refine ⟨decoded.isLoad, decoded.isStore, (executed_frame r).instr.trans (holds.instr here),
    (holds.executes here).address, ?_⟩
  intro data stored
  rcases Option.map_eq_some_iff.mp (store_of_stored stored).2 with ⟨reg, source, value⟩
  change r.regFile.readRs1 r.slot.d.rs2 = data
  rw [decoded.rs2 source, holds.regs, value]

theorem address_of_access {regs : Reg -> BitVec 32} (accesses : i.loads = true ∨ i.stores = true) :
    Exists fun addr => i.address regs = some addr := by
  cases i with
  | load kind rd rs1 imm => exact ⟨_, rfl⟩
  | store kind rs1 rs2 imm => exact ⟨_, rfl⟩
  | _ => rcases accesses with impossible | impossible <;> cases impossible

theorem stored_of_stores {regs : Reg -> BitVec 32} (stores : i.stores = true) :
    Exists fun data => i.stored regs = some data := by
  cases i with
  | store kind rs1 rs2 imm => exact ⟨_, rfl⟩
  | _ => cases stores

theorem Implements.inBounds (holds : Implements program r s) (supports : Supports program s i) : r.InBounds := by
  rcases holds.inFlight supports.here with ⟨reads, writes, word, address, _⟩
  refine ⟨holds.pc ▸ supports.room, holds.pc ▸ supports.noClint, ?_, ?_, ?_⟩
  · intro branch
    have decoded := holds.decoded supports.here
    rw [decoded, (decode_fields i.encode).1, encode_opcode] at branch
    cases i with
    | branch condition rs1 rs2 offset =>
        rw [decoded, (decode_encode _).immediate _ rfl, holds.pc]
        exact supports.branchTarget condition rs1 rs2 offset rfl
    | _ => cases branch
  · intro load
    rcases @address_of_access i s.regs.read (.inl (reads.symm.trans load)) with ⟨addr, there⟩
    rw [address addr there, word, loadWidth_encode (reads.symm.trans load)]
    exact supports.access addr there
  · intro store
    rcases @address_of_access i s.regs.read (.inr (writes.symm.trans store)) with ⟨addr, there⟩
    rw [address addr there, word, storeWidth_encode (writes.symm.trans store)]
    exact supports.access addr there

/-! ## One instruction -/

theorem value_of_dest {rd : Reg} (dest : i.dest = some rd) : Exists fun value => i.value s = some value := by
  cases i <;> first | exact ⟨_, rfl⟩ | cases dest

theorem Implements.value (holds : Implements program r s) (here : program.code s.pc = some i) {value : Word}
    (writes : i.value s = some value) : r.inFlight.value r.memory.memory = value := by
  rcases holds.inFlight here with ⟨reads, _, word, address, _⟩
  unfold InFlight.value
  rw [reads, word]
  cases i with
  | load kind rd rs1 imm =>
      rw [if_pos (show (Instr.load kind rd rs1 imm).loads = true from rfl), address _ rfl, memFunct3_eq, Instr.encode,
        (iType_fields rs1 kind.funct3 rd 0x03#7 imm).2.2.1, extendLoad_load, holds.memory]
      exact Option.some.inj writes
  | _ => exact (holds.executes here).result value writes

/-- The register write of the instruction. -/
theorem Implements.readRs1 (holds : Implements program r s) (here : program.code s.pc = some i) {regFile : RegisterFile}
    (written : regFile.gpr = (r.inFlight.apply r.data).gpr) : regFile.readRs1 = (s.next i).regs.read := by
  have frame := executed_frame r
  have decoded : DecodesTo i r.slot.d := holds.decoded here ▸ decode_encode i
  have moved : r.inFlight.moved r.memory.memory = { r.executed with result := r.inFlight.value r.memory.memory } :=
    if_pos (executed_valid r)
  have gpr : regFile.gpr = applyWrites r.regFile.gpr (slotWrites (r.inFlight.moved r.memory.memory)) := written
  change regFile.readRs1 = (s.writeBack i).read
  funext rs
  by_cases zero : rs = 0
  · rw [zero, (s.writeBack i).read_zero]
    exact if_pos rfl
  · have old : r.regFile.gpr rs = s.regs.read rs := by rw [← holds.regs, readRs1_of_ne zero]
    rw [readRs1_of_ne zero, gpr, applyWrites_slot zero, moved]
    · simp only [forwardsWb, executed_valid, frame.regWrite, frame.rd, Bool.true_and, old]
      have dest := decoded.dest
      change (if (r.slot.d.regWrite && r.slot.d.rd == rs) = true then _ else _) = _
      unfold State.writeBack
      cases writes : r.slot.d.regWrite with
      | false =>
          rw [writes, if_neg Bool.false_ne_true] at dest
          rw [← dest]
          exact if_neg Bool.false_ne_true
      | true =>
          rw [writes, if_pos rfl] at dest
          rcases value_of_dest dest.symm with ⟨value, computes⟩
          rw [← dest, computes, holds.value here computes]
          by_cases same : r.slot.d.rd = rs
          · rw [same, Registers.read_write_self s.regs zero value, if_pos (by simp)]
          · rw [Registers.read_write_other s.regs (fun equal => same equal.symm) value, if_neg (by simp [same])]
    · intro _
      rw [moved]
      simp only [frame.regWrite, frame.instr]
      rfl

/-- The store of the instruction. -/
theorem Implements.stored (holds : Implements program r s) (here : program.code s.pc = some i) :
    (r.inFlight.apply r.data).ram = (s.next i).memory := by
  rcases holds.inFlight here with ⟨_, writes, word, address, data⟩
  have valid : r.inFlight.slot.valid = true := executed_valid r
  change (if (r.inFlight.slot.valid && r.inFlight.memWrite) = true then _ else r.memory.memory) = s.storeTo i
  rw [valid, Bool.true_and, writes, holds.memory]
  cases i with
  | store kind rs1 rs2 imm =>
      rw [if_pos (show (Instr.store kind rs1 rs2 imm).stores = true from rfl), address _ rfl, data _ rfl, word,
        storeWidth_encode rfl]
      exact congrArg (fun ram => LittleEndian.store ram _ _ _) holds.memory
  | _ => exact if_neg Bool.false_ne_true

/-- The store does not touch the program. -/
theorem Implements.spares (holds : Implements program r s) (supports : Supports program s i)
    (store : isStore r.slot.d = true) {a : Nat} (below : a < storeWidth (memFunct3 r.instr)) :
    ¬program.text (r.executed.result + BitVec.ofNat 32 a) := by
  rcases holds.inFlight supports.here with ⟨_, writes, _, _, _⟩
  have stores : i.stores = true := writes.symm.trans store
  rcases @address_of_access i s.regs.read (.inr stores) with ⟨addr, there⟩
  rcases @stored_of_stores i s.regs.read stores with ⟨data, stored⟩
  rw [holds.instr supports.here, storeWidth_encode stores] at below
  rw [(holds.executes supports.here).address addr there]
  exact supports.spares addr data there stored a below

/-- A load or a store that can make its access makes it. -/
theorem accessStep_succeeds {r : SeqState} (machine : r.regFile.privilege = PRV_M) (can : CanAccess r.inFlight)
    (memory : r.slot.d.isMemory = true) : Exists fun next => r.accessStep = .ok next := by
  have sameInstr : r.inFlight.slot.instr = r.instr := (executed_frame r).instr
  unfold SeqState.accessStep
  by_cases load : isLoad r.slot.d = true
  · have access := loadAccess_machine r.memory machine (sameInstr ▸ can.load load)
    simp only [SeqState.inFlight] at access
    simp only [load, if_true, access, bind, Except.bind]
    exact ⟨_, rfl⟩
  · have store : isStore r.slot.d = true := by
      simp only [isLoad, isStore, memory, Bool.true_and] at load ⊢
      simp [load]
    have access := storeAccess_machine r.memory (r.regFile.readRs1 r.slot.d.rs2) machine (sameInstr ▸ can.store store)
    simp only [SeqState.inFlight] at access
    simp only [load, Bool.false_eq_true, if_false, access, bind, Except.bind]
    exact ⟨_, rfl⟩

/-- An instruction that the core supports takes the sequential machine to the
next state of the program. -/
theorem Implements.step (holds : Implements program r s) (supports : Supports program s i) : Exists fun next =>
    r.step = .ok next ∧ Implements program next (s.next i) ∧ SameCsrs r.regFile next.regFile := by
  have here := supports.here
  have decoded : DecodesTo i r.slot.d := holds.decoded here ▸ decode_encode i
  have plain := plain_of_ordinary (holds.ordinary here)
  have access := (holds.inBounds supports).access
  have ran : Exists fun next => r.step = .ok next := by
    have quiet : trapsInEx r.slot.d = false := plain.quiet
    simp only [trapsInEx, Bool.or_eq_false_iff] at quiet
    unfold SeqState.step
    simp only [quiet.1.1.1, quiet.1.1.2, quiet.1.2, quiet.2, Bool.false_eq_true, if_false]
    by_cases memory : r.slot.d.isMemory = true
    · rw [if_pos memory]
      exact accessStep_succeeds holds.machine access memory
    · rw [if_neg memory]
      exact ⟨_, rfl⟩
  rcases ran with ⟨next, ran⟩
  have completes := step_completes holds.machine access plain.quiet ran
  have csrs := completes.csrs
  rw [if_neg (show ¬r.slot.d.isCsr = true from plain.noCsr ▸ Bool.false_ne_true)] at csrs
  refine ⟨next, ran, ⟨?_, ?_, ?_, ?_, ?_⟩, csrs⟩
  · rw [completes.pc]
    exact holds.nextPc here
  · exact holds.readRs1 here (congrArg DataState.gpr completes.data)
  · exact (congrArg DataState.ram completes.data).trans (holds.stored here)
  · exact holds.loaded.next supports.spares
  · exact csrs.privilege.trans holds.machine

end Implements

/-! ## Whole runs -/

/-- The program runs for `length` instructions, and the core supports them. -/
def Runs (program : Program) (start : State) (length : Nat) : Prop :=
  forall k, k < length -> Exists fun s => Exists fun i => iterate program.step k start = .ok s ∧ Supports program s i

section Runs

variable {program : Program} {r : SeqState} {start : State} {length : Nat}

/-- The sequential machine runs the program. -/
theorem implements_run (initial : Implements program r start) (runs : Runs program start length) {k : Nat} {s : State}
    (within : k <= length) (run : iterate program.step k start = .ok s) :
    iterate SeqState.step k r = .ok (pathFrom r k) ∧ Implements program (pathFrom r k) s := by
  have matched : forall r s t, Implements program r s -> (Exists fun i => Supports program s i) -> program.step s = .ok t ->
      Exists fun next => r.step = .ok next ∧ Implements program next t := by
    rintro r s t holds ⟨i, supports⟩ stepped
    rcases holds.step supports with ⟨next, ran, after, _⟩
    cases (Program.step_some supports.here).symm.trans stepped
    exact ⟨next, ran, after⟩
  have supported : forall j s, j < k -> iterate program.step j start = .ok s -> Exists fun i => Supports program s i := by
    intro j s below reached
    rcases runs j (Nat.lt_of_lt_of_le below within) with ⟨_, i, there, supports⟩
    cases reached.symm.trans there
    exact ⟨i, supports⟩
  rcases iterate_simulation matched initial run supported with ⟨last, reached, holds⟩
  have same : pathFrom r k = last := by
    unfold pathFrom
    rw [reached]
  exact ⟨same ▸ reached, same ▸ holds⟩

/-- Its run is a path that the pipeline can follow. -/
theorem ordinaryPath_of_runs (initial : Implements program r start) (runs : Runs program start length) :
    OrdinaryPath (pathFrom r) length := by
  have located : forall k, k < length -> Exists fun s => Exists fun i => Supports program s i ∧
      iterate SeqState.step k r = .ok (pathFrom r k) ∧ Implements program (pathFrom r k) s := by
    intro k below
    rcases runs k below with ⟨s, i, reached, supports⟩
    exact ⟨s, i, supports, implements_run initial runs (Nat.le_of_lt below) reached⟩
  refine ⟨?_, ?_, ?_, ?_⟩
  · intro k below
    rcases located k below with ⟨s, i, supports, reached, holds⟩
    rcases holds.step supports with ⟨next, ran, _⟩
    have following : iterate SeqState.step (k + 1) r = .ok next := iterate_succ.mpr ⟨_, reached, ran⟩
    rw [ran, pathFrom, following]
  · intro k below
    rcases located k below with ⟨s, i, supports, _, holds⟩
    exact holds.ordinary supports.here
  · intro k below
    rcases located k below with ⟨s, i, supports, _, holds⟩
    exact holds.inBounds supports
  · intro k j belowK belowJ store a b belowStore belowWord same
    rcases located k belowK with ⟨s, i, supports, _, holds⟩
    rcases located j belowJ with ⟨t, other, elsewhere, _, there⟩
    apply holds.spares supports store belowStore
    rw [← same, there.pc]
    exact program.within t.pc other elsewhere.here b belowWord

/-- The pipeline follows the program, and its next tick does not fail. -/
theorem simulates_of_runs {N : Nat} (initial : Implements program r start)
    (disabled : hasBit r.regFile.mstatus MSTATUS_MIE = false) (runs : Runs program start (N + 8)) {n : Nat} {c : CPUCore}
    (run : iterate tick n (startCore r) = .ok c) (within : c.instrCount <= N) : Exists fun executed =>
      Simulates (pathFrom r) (N + 8) c c.instrCount (c.instrCount + occupied c.memWb.slots) executed ∧
        Exists fun next => c.tick = .ok next := by
  have ordinary := ordinaryPath_of_runs initial runs
  have good := ordinary.followable initial.machine disabled
  have noTraps : NoTraps (pathFrom r) (N + 8) := fun i below => (plain_of_ordinary (ordinary.ordinary i below)).quiet
  have continues := fun i below => (plain_of_ordinary (ordinary.ordinary i below)).noHalt
  rcases run_simulates good noTraps continues run within with ⟨accessed, executed, sim, accessedEq, bound⟩
  rcases sim.tick good (by omega) (sim.noHalt continues (by omega)) with ⟨_, next, _, _, ticked, _, _, _⟩
  exact ⟨executed, accessedEq ▸ sim, next, ticked⟩

end Runs

/-- The pipeline runs RV32I programs.  After every tick that has retired at most
`N` instructions the registers are those of the program after exactly that many
instructions, RAM is that of the program after the instructions in MEM/WB too,
and the simulator goes on. -/
theorem pipeline_implements_rv32i {program : Program} {r : SeqState} {start : State} {N : Nat}
    (initial : Implements program r start) (disabled : hasBit r.regFile.mstatus MSTATUS_MIE = false)
    (runs : Runs program start (N + 8)) {n : Nat} {c : CPUCore} (run : iterate tick n (startCore r) = .ok c)
    (within : c.instrCount <= N) : Exists fun s => Exists fun t =>
      iterate program.step c.instrCount start = .ok s ∧
      iterate program.step (c.instrCount + occupied c.memWb.slots) start = .ok t ∧
      c.regFile.readRs1 = s.regs.read ∧ c.memory.memory = t.memory ∧ c.running = true ∧
      Exists fun next => c.tick = .ok next := by
  rcases simulates_of_runs initial disabled runs run within with ⟨executed, sim, ticks⟩
  have few := occupied_le c.memWb.slots
  rcases runs c.instrCount (by omega) with ⟨s, _, retired, _⟩
  rcases runs (c.instrCount + occupied c.memWb.slots) (by omega) with ⟨t, _, stored, _⟩
  refine ⟨s, t, retired, stored, ?_, ?_, sim.running, ticks⟩
  · rw [← (implements_run initial runs (by omega) retired).2.regs]
    funext rs
    exact congrArg (fun gpr => if rs = 0 then 0 else gpr rs) sim.backEnd.written
  · rw [← (implements_run initial runs (by omega) stored).2.memory]
    exact sim.backEnd.stored

/-- `addi x1, x1, 1`, twelve times, in a RAM that holds nothing else. -/
def increments : Program := .listing (List.replicate 12 (.opImm .addi 1 1 1)) 0

def incrementsStart : SeqState where
  memory := { memory := fun addr => LittleEndian.byte 0x00108093#32 (addr.toNat % 4) }
  regFile := {}
  pc := 0

def incrementsState : State := ⟨0, ⟨fun _ => 0, rfl⟩, incrementsStart.memory.memory⟩

theorem increments_code {pc : Addr} {k : Nat} (here : pc.toNat = 4 * k) (below : k < 12) :
    increments.code pc = some (.opImm .addi 1 1 1) := by
  rw [increments, Program.listing_code here]
  exact List.getElem?_replicate_of_lt below

theorem increments_implemented : Implements increments incrementsStart incrementsState where
  pc := rfl
  regs := by
    funext rs
    exact ite_self _
  memory := rfl
  loaded := by
    intro pc i there
    change (if pc.toNat % 4 = 0 then _ else none) = some i at there
    split at there
    case isFalse => cases there
    case isTrue aligned =>
      rw [List.eq_of_mem_replicate (List.mem_of_getElem? there)]
      apply LittleEndian.load_of_byte rfl
      intro b small
      have index : (pc + BitVec.ofNat 32 b).toNat % 4 = b := by
        rw [BitVec.toNat_add, BitVec.toNat_ofNat]
        omega
      exact congrArg (LittleEndian.byte 0x00108093#32) index
  machine := rfl

theorem increments_reach {k : Nat} (within : k <= 12) : Exists fun s =>
    iterate increments.step k incrementsState = .ok s ∧ s.pc.toNat = 4 * k := by
  induction k with
  | zero => exact ⟨incrementsState, rfl, rfl⟩
  | succ k ih =>
      rcases ih (Nat.le_of_succ_le within) with ⟨s, reached, here⟩
      have stepped := Program.step_some (increments_code here within)
      refine ⟨s.next _, iterate_succ.mpr ⟨s, reached, stepped⟩, ?_⟩
      change (s.pc + 4#32).toNat = 4 * (k + 1)
      rw [BitVec.toNat_add, here]
      change (4 * k + 4) % 2 ^ 32 = _
      omega

theorem increments_runs : Runs increments incrementsState (4 + 8) := by
  have size : MEMORY_SIZE.toNat = 0x08000000 := rfl
  have base : CLINT_BASE.toNat = 0x02000000 := rfl
  intro k below
  rcases increments_reach (Nat.le_of_lt below) with ⟨s, reached, here⟩
  have outside : ¬CLINT_BASE <= s.pc := by
    rw [BitVec.le_def]
    omega
  refine ⟨s, _, reached, increments_code here below, by omega, ?_, ?_, ?_, ?_⟩
  · simp [MemorySystem.inClint, outside]
  · rintro condition rs1 rs2 offset ⟨⟩
  · rintro addr ⟨⟩
  · rintro addr data ⟨⟩

/-- After six ticks four increments are retired and two are in MEM/WB. -/
theorem pipeline_implements_rv32i_increments : Exists fun c => iterate tick 6 (startCore incrementsStart) = .ok c ∧
    Exists fun s => Exists fun t => iterate increments.step 4 incrementsState = .ok s ∧
      iterate increments.step 6 incrementsState = .ok t ∧ c.regFile.readRs1 = s.regs.read ∧
      c.memory.memory = t.memory ∧ c.running = true := by
  have runs : passes (iterate CPUCore.tick 6 (startCore incrementsStart)) (fun c => c.instrCount == 4 &&
      occupied c.memWb.slots == 2) = true := by
    decide +kernel
  rcases exists_of_passes runs with ⟨c, run, tests⟩
  simp only [Bool.and_eq_true, beq_iff_eq] at tests
  rcases @pipeline_implements_rv32i _ _ _ 4 increments_implemented rfl increments_runs 6 c run (by omega) with
    ⟨s, t, retired, stored, regs, memory, running, _⟩
  rw [tests.1] at retired
  rw [tests.1, tests.2] at stored
  exact ⟨c, run, s, t, retired, stored, regs, memory, running⟩

end Refinement
end SimpleRV
