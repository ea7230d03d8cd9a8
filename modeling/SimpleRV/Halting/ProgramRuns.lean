import SimpleRV.Halting.CompleteRuns
import SimpleRV.Library.StepLogic
import SimpleRV.Refinement.InstructionSet

namespace SimpleRV
namespace Halting

open RegisterFile IssueUnit CPUCore Pipeline Refinement InFlight Rv32i Iteration StepLogic

/-!
# RV32I programs from the program file to the halt

A program that reaches an EBREAK or a word of empty memory, with nothing but
words without effect behind it, takes `main` through `init`, the loop and the
halt to the state that the instruction-set manual gives.
-/

/-- A word that has no effect and does not leave the straight line. -/
structure Idle (instr : Word) : Prop where
  allowed : isHalt instr = true ∨ (decode instr).op ∈ SeqState.ordinaryOpcodes
  silent : Silent (decode instr)
  straight : (decode instr).isBranch = false
  noMemory : (decode instr).isMemory = false

/-- The address of a word of straight-line code. -/
def wordAddr (pc : Addr) (k : Nat) : Addr := pc + BitVec.ofNat 32 (4 * k)

/-- The program has come to a halting word.  The words behind it, as far as the
pipeline looks ahead, are idle, and the program has kept them. -/
structure Ends (program : Program) (s : State) : Prop where
  room : s.pc.toNat + 36 <= MEMORY_SIZE.toNat
  noClint : forall k, k < 8 -> MemorySystem.inClint (wordAddr s.pc k) = false
  halts : isHalt (LittleEndian.load s.memory s.pc 4) = true
  idle : forall k, k < 8 -> Idle (LittleEndian.load s.memory (wordAddr s.pc k) 4)
  text : forall k, k < 8 -> forall b, b < 4 -> program.text (wordAddr s.pc k + BitVec.ofNat 32 b)

/-! ## Idle words -/

/-- An idle word is passed by. -/
theorem idle_step {r : SeqState} (idle : Idle r.instr) : Exists fun next => r.step = .ok next ∧
    next.pc = r.pc + 4 ∧ next.memory.memory = r.memory.memory ∧ next.regFile.gpr = r.regFile.gpr ∧
    SameCsrs r.regFile next.regFile := by
  have quiet : trapsInEx r.slot.d = false := idle.silent.quiet
  have noCsr : r.slot.d.isCsr = false := idle.silent.noCsr
  have noMemory : r.slot.d.isMemory = false := idle.noMemory
  have straight : r.slot.d.isBranch = false := idle.straight
  simp only [trapsInEx, Bool.or_eq_false_iff] at quiet
  have noWrite : forall value, r.regFile.writeRd r.slot.rd value r.slot.regWrite = r.regFile := by
    intro value
    unfold RegisterFile.writeRd
    rcases idle.silent.noWrite with off | toZero
    · exact if_neg (by rw [show r.slot.regWrite = false from off]; exact Bool.false_ne_true)
    · exact if_neg (by rw [show r.slot.rd = 0 from toZero]; simp)
  unfold SeqState.step
  simp only [quiet.1.1.1, quiet.1.1.2, quiet.1.2, quiet.2, noCsr, noMemory, Bool.false_eq_true, if_false]
  refine ⟨_, rfl, ?_, ?_, ?_, ?_⟩
  · exact nextPc_straight (executed_straight straight)
  · change (if r.slot.d.isSfence then r.memory.tlbFlush else r.memory).memory = r.memory.memory
    split <;> rfl
  · exact congrArg RegisterFile.gpr (noWrite _)
  · change SameCsrs r.regFile (r.regFile.writeRd _ _ _)
    rw [noWrite]
    exact .refl _

section Program

variable {program : Program} {r : SeqState} {start s : State} {n : Nat}

/-- The sequential machine `k` words behind the halting one. -/
structure Parked (r : SeqState) (s : State) (n k : Nat) : Prop where
  reached : iterate SeqState.step (n + k) r = .ok (pathFrom r (n + k))
  pc : (pathFrom r (n + k)).pc = wordAddr s.pc k
  memory : (pathFrom r (n + k)).memory.memory = s.memory
  csrs : SameCsrs (pathFrom r n).regFile (pathFrom r (n + k)).regFile

theorem Parked.instr {k : Nat} (parked : Parked r s n k) :
    (pathFrom r (n + k)).instr = LittleEndian.load s.memory (wordAddr s.pc k) 4 := by
  unfold SeqState.instr SeqState.wordAt
  rw [parked.memory, parked.pc]

theorem Parked.idle {k : Nat} (parked : Parked r s n k) (ends : Ends program s) (below : k < 8) :
    Idle (pathFrom r (n + k)).instr := by
  rw [parked.instr]
  exact ends.idle k below

/-- A program that comes to its end after `n` instructions. -/
structure Finishes (program : Program) (r : SeqState) (start s : State) (n : Nat) : Prop where
  initial : Implements program r start
  runs : Runs program start n
  ended : iterate program.step n start = .ok s
  ends : Ends program s

/-- Behind its end the sequential machine goes on from word to word. -/
theorem Finishes.parked (finishes : Finishes program r start s n) {k : Nat} (within : k <= 8) : Parked r s n k := by
  induction k with
  | zero =>
      rcases implements_run finishes.initial finishes.runs (Nat.le_refl n) finishes.ended with ⟨reached, holds⟩
      exact ⟨reached, holds.pc.trans (BitVec.add_zero s.pc).symm, holds.memory, .refl _⟩
  | succ k ih =>
      have parked := ih (Nat.le_of_succ_le within)
      rcases idle_step (parked.idle finishes.ends within) with ⟨next, ran, pc, memory, _, csrs⟩
      have reached : iterate SeqState.step (n + (k + 1)) r = .ok next := iterate_succ.mpr ⟨_, parked.reached, ran⟩
      have same : pathFrom r (n + (k + 1)) = next := by
        unfold pathFrom
        rw [reached]
      refine ⟨same ▸ reached, ?_, ?_, ?_⟩
      · rw [same, pc, parked.pc]
        unfold wordAddr
        rw [BitVec.add_assoc, Nat.mul_succ, BitVec.ofNat_add]
        rfl
      · rw [same, memory, parked.memory]
      · rw [same]
        exact parked.csrs.trans csrs

/-- Parked on an idle word, the sequential machine stays in bounds. -/
theorem Parked.inBounds {k : Nat} (parked : Parked r s n k) (ends : Ends program s) (below : k < 8) :
    (pathFrom r (n + k)).InBounds := by
  have size : MEMORY_SIZE.toNat = 0x08000000 := rfl
  have idle := parked.idle ends below
  have noMemory : (pathFrom r (n + k)).slot.d.isMemory = false := idle.noMemory
  refine ⟨?_, ?_, ?_, ?_, ?_⟩
  · have room := ends.room
    rw [parked.pc, wordAddr, BitVec.toNat_add, BitVec.toNat_ofNat]
    omega
  · rw [parked.pc]
    exact ends.noClint k below
  · intro branch
    have opcode : Rv32i.opcodeField (pathFrom r (n + k)).instr = 0x63#7 := (Isa.decode_fields _).1.symm.trans branch
    have taken := idle.straight
    rw [Isa.decode_branch opcode] at taken
    cases taken
  · intro load
    change isLoad (pathFrom r (n + k)).slot.d = true at load
    rw [isLoad, noMemory] at load
    cases load
  · intro store
    change isStore (pathFrom r (n + k)).slot.d = true at store
    rw [isStore, noMemory] at store
    cases store

/-- An instruction of its path is one of the program, or one of the idle words. -/
theorem Finishes.place (finishes : Finishes program r start s n) {i : Nat} (below : i < n + 8) :
    i < n ∨ Exists fun k => i = n + k ∧ k < 8 ∧ Parked r s n k := by
  rcases Nat.lt_or_ge i n with before | from_end
  · exact .inl before
  · have short : i - n < 8 := by omega
    exact .inr ⟨i - n, (Nat.add_sub_of_le from_end).symm, short, finishes.parked (Nat.le_of_lt short)⟩

theorem Finishes.ordinary (finishes : Finishes program r start s n) : OrdinaryPath (pathFrom r) n :=
  ordinaryPath_of_runs finishes.initial finishes.runs

theorem Finishes.step (finishes : Finishes program r start s n) {i : Nat} (below : i < n + 8) :
    (pathFrom r i).step = .ok (pathFrom r (i + 1)) := by
  rcases finishes.place below with before | ⟨k, rfl, short, parked⟩
  · exact finishes.ordinary.steps i before
  · have next : Parked r s n (k + 1) := finishes.parked short
    rcases iterate_succ.mp next.reached with ⟨before, earlier, last⟩
    cases parked.reached.symm.trans earlier
    exact last

theorem Finishes.allowed (finishes : Finishes program r start s n) {i : Nat} (below : i < n + 8) :
    (pathFrom r i).Allowed := by
  rcases finishes.place below with before | ⟨k, rfl, short, parked⟩
  · exact .inl (finishes.ordinary.ordinary i before)
  · exact (parked.idle finishes.ends short).allowed.elim (fun halts => .inr (.inr halts)) .inl

theorem Finishes.inBounds (finishes : Finishes program r start s n) {i : Nat} (below : i < n + 8) :
    (pathFrom r i).InBounds := by
  rcases finishes.place below with before | ⟨k, rfl, short, parked⟩
  · exact finishes.ordinary.inBounds i before
  · exact parked.inBounds finishes.ends short

/-- Behind the end everything is silent. -/
theorem Finishes.silent (finishes : Finishes program r start s n) {i : Nat} (behind : n <= i) (below : i < n + 8) :
    Silent (pathFrom r i).slot.d := by
  rcases finishes.place below with before | ⟨k, rfl, short, parked⟩
  · exact absurd before (Nat.not_lt_of_le behind)
  · exact (parked.idle finishes.ends short).silent

/-- What is executed is text of the program. -/
theorem Finishes.text (finishes : Finishes program r start s n) {i b : Nat} (below : i < n + 8) (inWord : b < 4) :
    program.text ((pathFrom r i).pc + BitVec.ofNat 32 b) := by
  rcases finishes.place below with before | ⟨k, rfl, short, parked⟩
  · rcases finishes.runs i before with ⟨t, instr, there, supports⟩
    rw [(implements_run finishes.initial finishes.runs (Nat.le_of_lt before) there).2.pc]
    exact program.within t.pc instr supports.here b inWord
  · rw [parked.pc]
    exact finishes.ends.text k short b inWord

/-- The program spares its text, and behind it nothing is stored. -/
theorem Finishes.codeKept (finishes : Finishes program r start s n) : CodeKept (pathFrom r) (n + 8) := by
  intro i j belowI belowJ store a b belowStore belowWord same
  rcases Nat.lt_or_ge i n with before | behind
  · rcases finishes.runs i before with ⟨t, instr, there, supports⟩
    have holds := (implements_run finishes.initial finishes.runs (Nat.le_of_lt before) there).2
    apply holds.spares supports store belowStore
    rw [← same]
    exact finishes.text belowJ belowWord
  · exact absurd store (ne_true_of_eq_false (finishes.silent behind belowI).noStore)

theorem Finishes.noInterrupts (finishes : Finishes program r start s n)
    (disabled : hasBit r.regFile.mstatus MSTATUS_MIE = false) {i : Nat} (within : i <= n + 8) :
    NoInterrupts (pathFrom r i).regFile := by
  have disabledAtStart : NoInterrupts r.regFile := ⟨finishes.initial.machine, .inl disabled⟩
  rcases Nat.lt_or_ge n i with past | before
  · have index : i = n + (i - n) := by omega
    have parked : Parked r s n (i - n) := finishes.parked (by omega)
    have csrs := parked.csrs
    rw [← index] at csrs
    exact (disabledAtStart.sameCsrs (finishes.ordinary.csrs finishes.initial.machine (Nat.le_refl n))).sameCsrs csrs
  · exact disabledAtStart.sameCsrs (finishes.ordinary.csrs finishes.initial.machine before)

theorem Finishes.halts (finishes : Finishes program r start s n) : (pathFrom r n).Halts := by
  have parked : Parked r s n 0 := finishes.parked (by decide)
  have word := parked.instr
  rw [show wordAddr s.pc 0 = s.pc from BitVec.add_zero s.pc] at word
  change isHalt (pathFrom r n).instr = true
  rw [show (pathFrom r n).instr = _ from word]
  exact finishes.ends.halts

/-- The path of such a program ends. -/
theorem Finishes.endingPath (finishes : Finishes program r start s n)
    (disabled : hasBit r.regFile.mstatus MSTATUS_MIE = false) : EndingPath (pathFrom r) n where
  halting :=
    { followable :=
        { steps := fun _ below => finishes.step below
          allowed := fun _ below => finishes.allowed below
          inBounds := fun _ below => finishes.inBounds below
          codeKept := finishes.codeKept
          noInterrupts := fun _ within => finishes.noInterrupts disabled within }
      halts := finishes.halts
      first := fun i before => (plain_of_ordinary (finishes.ordinary.ordinary i before)).noHalt }
  tail := fun _ behind below => finishes.silent behind below

/-- The run keeps the bytes of the program. -/
theorem runs_text (runs : Runs program start n) {k : Nat} (within : k <= n) (run : iterate program.step k start = .ok s)
    {addr : Addr} (text : program.text addr) : s.memory addr = start.memory addr := by
  induction k generalizing s with
  | zero =>
      cases run
      rfl
  | succ k ih =>
      rcases iterate_succ.mp run with ⟨before, earlier, last⟩
      rcases runs k within with ⟨_, i, there, supports⟩
      cases earlier.symm.trans there
      cases (Program.step_some supports.here).symm.trans last
      rw [supports.spares.memory text]
      exact ih (Nat.le_of_succ_le within) earlier

end Program

/-! ## Program files -/

/-- The words of a program file: the instructions, and an EBREAK behind them. -/
def programWords (instrs : List Instr) : List Word := instrs.map Instr.encode ++ [EBREAK]

def programFile (instrs : List Instr) : List Byte := LittleEndian.bytes 4 (programWords instrs)

/-- A program file, as the program that must not overwrite itself or what the
pipeline fetches behind its EBREAK. -/
def fileProgram (instrs : List Instr) : Program := .listing instrs 32

/-- The state in which such a file is started. -/
def bootState (instrs : List Instr) : State where
  pc := 0
  regs := ⟨fun rs => if rs = 2 then MEMORY_SIZE - 16 else 0, rfl⟩
  memory := (boot (programFile instrs) {}).memory.memory

/-- What the core asks of an instruction of a program file: branches point into
RAM, and accesses are aligned, in RAM, outside the CLINT and behind the program. -/
structure Permits (instrs : List Instr) (s : State) (i : Instr) : Prop where
  here : (fileProgram instrs).code s.pc = some i
  branchTarget : forall condition rs1 rs2 offset, i = .branch condition rs1 rs2 offset ->
    s.pc + offset.val.signExtend 32 < MEMORY_SIZE - 8
  access : forall addr, i.address s.regs.read = some addr -> Accessible addr i.width
  spares : (fileProgram instrs).Spares s i

section File

variable {instrs : List Instr}

theorem length_programWords (instrs : List Instr) : (programWords instrs).length = instrs.length + 1 := by
  simp [programWords]

/-- A word of RAM after the file has been loaded. -/
theorem boot_word (short : 4 * instrs.length + 36 <= CLINT_BASE.toNat) {k : Nat} {pc : Addr}
    (here : pc.toNat = 4 * k) (below : k < instrs.length + 8) :
    LittleEndian.load (bootState instrs).memory pc 4 = (programWords instrs).getD k 0 := by
  have base : CLINT_BASE.toNat = 0x02000000 := rfl
  have size : MEMORY_SIZE.toNat = 0x08000000 := rfl
  have length : (programFile instrs).length = 4 * (instrs.length + 1) := by
    rw [programFile, LittleEndian.length_bytes, length_programWords]
  apply LittleEndian.load_of_byte rfl
  intro b small
  have index : (pc + BitVec.ofNat 32 b).toNat = 4 * k + b := by
    rw [BitVec.toNat_add, BitVec.toNat_ofNat, here]
    omega
  have limit : min (programFile instrs).length MEMORY_SIZE.toNat = (programFile instrs).length := by omega
  change (if (pc + BitVec.ofNat 32 b).toNat < min (programFile instrs).length MEMORY_SIZE.toNat then
    (programFile instrs).getD (pc + BitVec.ofNat 32 b).toNat 0 else 0) = _
  rw [index, limit, List.getD_eq_getElem?_getD, List.getD_eq_getElem?_getD, programFile,
    LittleEndian.getElem?_bytes 4 _ k small, LittleEndian.length_bytes, length_programWords]
  cases at_k : (programWords instrs)[k]? with
  | none =>
      have past := List.getElem?_eq_none_iff.mp at_k
      rw [length_programWords] at past
      rw [if_neg (by omega)]
      simp [LittleEndian.byte]
  | some word =>
      have inside := (List.getElem?_eq_some_iff.mp at_k).1
      rw [length_programWords] at inside
      rw [if_pos (by omega)]
      rfl

theorem fileProgram_code {pc : Addr} {i : Instr} (there : (fileProgram instrs).code pc = some i) :
    Exists fun k => pc.toNat = 4 * k ∧ k < instrs.length ∧ instrs[k]? = some i := by
  change (if pc.toNat % 4 = 0 then instrs[pc.toNat / 4]? else none) = some i at there
  split at there
  · exact ⟨pc.toNat / 4, by omega, (List.getElem?_eq_some_iff.mp there).1, there⟩
  · cases there

theorem file_loaded (short : 4 * instrs.length + 36 <= CLINT_BASE.toNat) :
    (fileProgram instrs).LoadedIn (bootState instrs).memory := by
  intro pc i there
  rcases fileProgram_code there with ⟨k, here, below, found⟩
  rw [boot_word short here (by omega), List.getD_eq_getElem?_getD, programWords,
    List.getElem?_append_left (by simpa using below), List.getElem?_map, found]
  rfl

theorem inClint_of_lt {addr : Addr} (below : addr.toNat < CLINT_BASE.toNat) : MemorySystem.inClint addr = false := by
  have outside : ¬CLINT_BASE <= addr := by
    rw [BitVec.le_def]
    omega
  simp [MemorySystem.inClint, outside]

theorem Permits.supports {s : State} {i : Instr} (permits : Permits instrs s i)
    (short : 4 * instrs.length + 36 <= CLINT_BASE.toNat) : Supports (fileProgram instrs) s i := by
  have base : CLINT_BASE.toNat = 0x02000000 := rfl
  have size : MEMORY_SIZE.toNat = 0x08000000 := rfl
  rcases fileProgram_code permits.here with ⟨k, here, below, _⟩
  exact ⟨permits.here, by omega, inClint_of_lt (by omega), permits.branchTarget, permits.access, permits.spares⟩

theorem idle_of_halt {instr : Word} (halts : isHalt instr = true) : Idle instr where
  allowed := .inl halts
  silent := silent_of_halt halts
  straight := (decode_halt halts).2.1
  noMemory := (decode_halt halts).1

/-- Behind the last instruction there is the EBREAK, and behind that there are
words of empty memory. -/
theorem ends_of_file (short : 4 * instrs.length + 36 <= CLINT_BASE.toNat) {n : Nat} {s : State}
    (runs : Runs (fileProgram instrs) (bootState instrs) n)
    (run : iterate (fileProgram instrs).step n (bootState instrs) = .ok s) (behind : s.pc.toNat = 4 * instrs.length) :
    Ends (fileProgram instrs) s := by
  have base : CLINT_BASE.toNat = 0x02000000 := rfl
  have size : MEMORY_SIZE.toNat = 0x08000000 := rfl
  have addresses : forall k, k < 8 -> (wordAddr s.pc k).toNat = 4 * (instrs.length + k) := by
    intro k below
    rw [wordAddr, BitVec.toNat_add, BitVec.toNat_ofNat]
    omega
  have text : forall k, k < 8 -> forall b, b < 4 -> (fileProgram instrs).text (wordAddr s.pc k + BitVec.ofNat 32 b) := by
    intro k below b small
    have here := addresses k below
    change (wordAddr s.pc k + BitVec.ofNat 32 b).toNat < 4 * instrs.length + 32
    rw [BitVec.toNat_add, BitVec.toNat_ofNat]
    omega
  have words : forall k, k < 8 -> LittleEndian.load s.memory (wordAddr s.pc k) 4 =
      (programWords instrs).getD (instrs.length + k) 0 := by
    intro k below
    rw [← boot_word short (addresses k below) (by omega)]
    exact LittleEndian.load_congr (fun b small => runs_text runs (Nat.le_refl n) run (text k below b small))
  have halting : forall k, k < 8 -> isHalt (LittleEndian.load s.memory (wordAddr s.pc k) 4) = true := by
    intro k below
    rw [words k below, programWords, List.getD_eq_getElem?_getD, List.getElem?_append_right (by simp)]
    cases k with
    | zero => simp [isHalt]
    | succ k => simp [isHalt]
  refine ⟨by omega, fun k below => inClint_of_lt (by rw [addresses k below]; omega), ?_,
    fun k below => idle_of_halt (halting k below), text⟩
  have first := halting 0 (by decide)
  rwa [show wordAddr s.pc 0 = s.pc from BitVec.add_zero s.pc] at first

/-- Interrupts are off when the simulator starts. -/
theorem boot_disabled (bytes : List Byte) (keyboard : HostKeyboard) :
    hasBit (boot bytes keyboard).regFile.mstatus MSTATUS_MIE = false := by
  change hasBit ((({} : RegisterFile).writeRd 2 (MEMORY_SIZE - 16) true).writeCsr CSR_MTVEC 0x00010000#32).mstatus
    MSTATUS_MIE = false
  decide

/-- The core is booted into the state in which the instruction set starts. -/
theorem boot_implements (short : 4 * instrs.length + 36 <= CLINT_BASE.toNat) (keyboard : HostKeyboard) :
    Implements (fileProgram instrs) (boot (programFile instrs) keyboard) (bootState instrs) where
  pc := rfl
  regs := by
    funext rs
    change ((({} : RegisterFile).writeRd 2 (MEMORY_SIZE - 16) true).writeCsr CSR_MTVEC 0x00010000#32).readRs1 rs =
      if rs = 2 then MEMORY_SIZE - 16 else 0
    revert rs
    decide
  memory := rfl
  loaded := file_loaded short
  machine := rfl

/-- The state is one of the program, and the core permits its instruction. -/
def Permitted (instrs : List Instr) (s : State) : Prop := Exists fun i => Permits instrs s i

/-- An access in RAM, outside the CLINT and behind the program. -/
def DataAccess (instrs : List Instr) (addr : Addr) (width : Nat) : Prop :=
  Accessible addr width ∧ 4 * instrs.length + 32 <= addr.toNat

/-- A block of straight-line code is executed if its accesses are permitted. -/
theorem block_permitted {front block back : List Instr} (split : instrs = front ++ block ++ back)
    (short : 4 * instrs.length + 36 <= CLINT_BASE.toNat) {s : State} (here : s.pc.toNat = 4 * front.length)
    (straight : block.all (fun i => !i.transfers) = true) (accesses : s.Accesses (DataAccess instrs) block) :
    Leads (fileProgram instrs).step (Permitted instrs) s block.length (block.foldl State.next s) ∧
      (block.foldl State.next s).pc.toNat = 4 * (front.length + block.length) := by
  have base : CLINT_BASE.toNat = 0x02000000 := rfl
  have size : MEMORY_SIZE.toNat = 0x08000000 := rfl
  have stays : forall i, i ∈ block -> i.transfers = false := by
    intro i member
    simpa using List.all_eq_true.mp straight i member
  have fits : front.length + block.length <= instrs.length := by
    rw [split]
    simp
  have addresses : forall k, k <= block.length -> (s.pc + BitVec.ofNat 32 (4 * k)).toNat = 4 * (front.length + k) := by
    intro k within
    rw [BitVec.toNat_add, BitVec.toNat_ofNat, here]
    omega
  have placed : forall k i, block[k]? = some i ->
      (fileProgram instrs).code (s.pc + BitVec.ofNat 32 (4 * k)) = some i := by
    intro k i there
    have below := (List.getElem?_eq_some_iff.mp there).1
    rw [fileProgram, Program.listing_code (addresses k (Nat.le_of_lt below)), split, List.append_assoc,
      List.getElem?_append_right (Nat.le_add_right _ _), Nat.add_sub_cancel_left, List.getElem?_append_left below]
    exact there
  have safely : forall k, k < block.length -> Permitted instrs ((block.take k).foldl State.next s) := by
    intro k below
    have there : block[k]? = some block[k] := List.getElem?_eq_getElem below
    have pc := Program.block_pc (block.take k) s (fun i member => stays i (List.mem_of_mem_take member))
    rw [List.length_take, Nat.min_eq_left (Nat.le_of_lt below)] at pc
    refine ⟨block[k], ?_, ?_, fun addr has => (accesses.at there has).1, ?_⟩
    · rw [pc]
      exact placed k _ there
    · intro condition rs1 rs2 offset branch
      have stay := stays block[k] (List.getElem_mem below)
      rw [branch] at stay
      cases stay
    · intro addr data has _ b short text
      rcases accesses.at there has with ⟨accessible, behind⟩
      have inRam := accessible.inRam
      have inside : (addr + BitVec.ofNat 32 b).toNat < 4 * instrs.length + 32 := text
      rw [BitVec.toNat_add, BitVec.toNat_ofNat] at inside
      omega
  refine ⟨Program.block_leads block stays placed safely, ?_⟩
  rw [Program.block_pc block s stays]
  exact addresses block.length (Nat.le_refl _)

/-- What the core permits it supports. -/
theorem runs_of_leads (short : 4 * instrs.length + 36 <= CLINT_BASE.toNat) {n : Nat} {s : State}
    (leads : Leads (fileProgram instrs).step (Permitted instrs) (bootState instrs) n s) :
    Runs (fileProgram instrs) (bootState instrs) n := by
  intro k below
  rcases iterate_prefix leads.run (Nat.le_of_lt below) with ⟨t, reached⟩
  rcases leads.safely k t below reached with ⟨i, permits⟩
  exact ⟨t, i, reached, permits.supports short⟩

/-- The core runs the file to the end of its program. -/
theorem file_runs (short : 4 * instrs.length + 36 <= CLINT_BASE.toNat) {n : Nat} {s : State}
    (leads : Leads (fileProgram instrs).step (Permitted instrs) (bootState instrs) n s)
    (behind : s.pc.toNat = 4 * instrs.length) {fuel : Nat} (enough : 2 * n + 5 <= fuel) (keyboard : HostKeyboard) :
    Exists fun u => (startCore (boot (programFile instrs) keyboard)).run fuel = .ok (some u) ∧
      u.regFile.readRs1 = s.regs.read ∧ u.memory.memory = s.memory ∧ u.memory.uartOutput = [] := by
  have runs := runs_of_leads short leads
  have initial := boot_implements short keyboard
  have finishes : Finishes (fileProgram instrs) (boot (programFile instrs) keyboard) (bootState instrs) s n :=
    ⟨initial, runs, leads.run, ends_of_file short runs leads.run behind⟩
  have ending := finishes.endingPath (boot_disabled _ keyboard)
  rcases run_halts ending enough with ⟨u, halted, shows⟩
  have final := (implements_run initial runs (Nat.le_refl n) leads.run).2
  refine ⟨u, halted, ?_, shows.memory.trans final.memory, ?_⟩
  · rw [← final.regs]
    funext rs
    exact congrArg (fun gpr => if rs = 0 then 0 else gpr rs) shows.gpr
  · rw [shows.uartOutput, path_uartOutput ending.halting.followable (Nat.le_add_right n 8)]
    rfl

/-- `main` runs RV32I programs.  For every list of instructions, the simulator
started on the file of their encodings returns zero if the instruction-set manual
takes the program from the boot state to its end, in `n` instructions that the
core permits.  It needs at most `2 * n + 5` ticks, and its registers and RAM are
those that the manual gives. -/
theorem main_runs_program (short : 4 * instrs.length + 36 <= CLINT_BASE.toNat) {n : Nat} {s : State}
    (leads : Leads (fileProgram instrs).step (Permitted instrs) (bootState instrs) n s)
    (behind : s.pc.toNat = 4 * instrs.length) {fuel : Nat} (enough : 2 * n + 5 <= fuel)
    (command programPath : String) (options : List String) {files : String -> Option (List Byte)}
    (found : files programPath = some (programFile instrs)) (keyboard : HostKeyboard) : Exists fun u =>
      main fuel (command :: programPath :: options) files keyboard = some (.halted u) ∧
        Ended.exitCode (.halted u) = some 0 ∧ u.regFile.readRs1 = s.regs.read ∧ u.memory.memory = s.memory ∧
        u.memory.uartOutput = [] := by
  rcases file_runs short leads behind enough keyboard with ⟨u, halted, final⟩
  exact ⟨u, main_of_run command options found halted, rfl, final⟩

end File

/-- `addi x5, x0, 7; sw x5, 256(x0)`. -/
def storeSeven : List Instr := [.opImm .addi 5 0 7, .store .sw 0 5 256]

theorem main_runs_program_storeSeven : Exists fun u =>
    main 9 ["sim-rv", "store.bin"] (fun _ => some (programFile storeSeven)) {} = some (.halted u) ∧
      Ended.exitCode (.halted u) = some 0 ∧
      u.regFile.readRs1 = (storeSeven.foldl State.next (bootState storeSeven)).regs.read ∧
      u.memory.memory = (storeSeven.foldl State.next (bootState storeSeven)).memory ∧ u.memory.uartOutput = [] := by
  have accesses : (bootState storeSeven).Accesses (DataAccess storeSeven) storeSeven := by
    have access : DataAccess storeSeven 256 4 := ⟨⟨by decide, by decide, by decide⟩, by decide⟩
    simpa [storeSeven, State.Accesses, State.next, State.writeBack, Instr.value, Instr.result, Instr.address, Instr.width,
      StoreKind.bytes] using access
  have block := @block_permitted storeSeven [] storeSeven [] rfl (by decide) _ rfl rfl accesses
  exact @main_runs_program _ (by decide) _ _ block.1 block.2 9 (by decide) "sim-rv" "store.bin" [] _ rfl {}

end Halting
end SimpleRV
