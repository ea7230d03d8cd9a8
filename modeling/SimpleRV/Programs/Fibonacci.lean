import SimpleRV.Halting.ProgramRuns
import Mathlib.Data.Nat.Fib.Basic

namespace SimpleRV
namespace Programs

open CPUCore Refinement InFlight Rv32i StepLogic Halting

/-!
# The Fibonacci program

`Resource/fib_test.s` writes the first Fibonacci numbers to a table in RAM.
The program is verified with the rules of `StepLogic`, for any length and any
place of the table, and the result is carried down to `main`.
-/

/-- What comes before the loop. -/
def fibSetup (count : BitVec 12) (page : BitVec 20) : List Instr :=
  [.opImm .addi 1 0 count, .lui 2 page, .opImm .addi 3 0 0, .opImm .addi 4 0 1, .store .sw 2 3 0, .store .sw 2 4 4,
    .opImm .addi 5 0 2, .opImm .addi 2 2 8]

/-- One round of the loop, up to its branch. -/
def fibRound : List Instr :=
  [.op .add 6 3 4, .store .sw 2 6 0, .opImm .addi 3 4 0, .opImm .addi 4 6 0, .opImm .addi 2 2 4, .opImm .addi 5 5 1]

/-- The branch back to the beginning of the round, six instructions before. -/
def fibBranch : Instr := .branch .lt 5 1 ⟨-24, by decide⟩

/-- `fib_test.s` for `count` numbers, which it writes from `page` on. -/
def fibTest (count : BitVec 12) (page : BitVec 20) : List Instr := fibSetup count page ++ fibRound ++ [fibBranch]

/-- `Resource/fib_test.bin`: twenty numbers at 0x2000. -/
example : programWords (fibTest 20 2) =
    [0x01400093, 0x00002137, 0x00000193, 0x00100213, 0x00312023, 0x00412223, 0x00200293, 0x00810113, 0x00418333,
      0x00612023, 0x00020193, 0x00030213, 0x00410113, 0x00128293, 0xFE12C4E3, 0x00100073] := by
  decide

/-- Where the table begins, and where its entries are. -/
def table (page : BitVec 20) (j : Nat) : Addr := (page ++ 0#12) + BitVec.ofNat 32 (4 * j)

/-- A Fibonacci number in a register. -/
def fibWord (j : Nat) : Word := BitVec.ofNat 32 (Nat.fib j)

/-- `k` numbers are in the table. -/
structure Filled (count : BitVec 12) (page : BitVec 20) (k : Nat) (s : State) : Prop where
  limit : s.regs.read 1#5 = count.signExtend 32
  pointer : s.regs.read 2#5 = table page k
  older : s.regs.read 3#5 = fibWord (k - 2)
  newer : s.regs.read 4#5 = fibWord (k - 1)
  counter : s.regs.read 5#5 = BitVec.ofNat 32 k
  entries : forall j, j < k -> LittleEndian.load s.memory (table page j) 4 = fibWord j

/-- The place of the table, which the program is verified for. -/
structure Placed (count : BitVec 12) (page : BitVec 20) : Prop where
  long : 2 < count.toNat
  positive : count.toNat < 2 ^ 11
  behind : 0 < page.toNat
  accessible : forall j, j < count.toNat -> Accessible (table page j) 4

section Fibonacci

variable {count : BitVec 12} {page : BitVec 20}

/-! ## The table -/

theorem table_toNat (placed : Placed count page) {j : Nat} (within : j <= count.toNat) :
    (table page j).toNat = 4096 * page.toNat + 4 * j := by
  have size : MEMORY_SIZE.toNat = 0x08000000 := rfl
  have positive := placed.positive
  have base : (page ++ 0#12).toNat = 4096 * page.toNat := by
    rw [BitVec.toNat_append]
    simp [Nat.shiftLeft_eq, Nat.mul_comm]
  have first := (placed.accessible 0 (by have := placed.long; omega)).inRam
  have start : table page 0 = page ++ 0#12 := BitVec.add_zero _
  rw [start, base] at first
  rw [table, BitVec.toNat_add, BitVec.toNat_ofNat, base]
  omega

/-- One more entry. -/
theorem entries_store (placed : Placed count page) {memory : Addr -> Byte} {k : Nat} (below : k < count.toNat)
    (entries : forall j, j < k -> LittleEndian.load memory (table page j) 4 = fibWord j) :
    forall j, j < k + 1 ->
      LittleEndian.load (LittleEndian.store memory (table page k) (fibWord k) 4) (table page j) 4 = fibWord j := by
  have size : MEMORY_SIZE.toNat = 0x08000000 := rfl
  intro j within
  rcases Nat.lt_or_eq_of_le (Nat.le_of_lt_succ within) with earlier | here
  · rw [LittleEndian.load_store_of_disjoint, entries j earlier]
    intro a shortA b shortB same
    have inRam := (placed.accessible k below).inRam
    have addresses := congrArg BitVec.toNat same
    have left := @table_toNat _ _ placed j (by omega)
    have right := @table_toNat _ _ placed k (Nat.le_of_lt below)
    rw [BitVec.toNat_add, BitVec.toNat_add, BitVec.toNat_ofNat, BitVec.toNat_ofNat, left, right] at addresses
    rw [right] at inRam
    omega
  · rw [here]
    exact LittleEndian.load_store memory (table page k) (fibWord k) (by decide) rfl

/-! ## The blocks -/

/-- What the instructions before the loop compute. -/
theorem fibSetup_effect (count : BitVec 12) (page : BitVec 20) (s : State) :
    let t := (fibSetup count page).foldl State.next s
    t.regs.read 1#5 = count.signExtend 32 ∧ t.regs.read 2#5 = page ++ 0#12 + 8#32 ∧ t.regs.read 3#5 = 0#32 ∧
      t.regs.read 4#5 = 1#32 ∧ t.regs.read 5#5 = 2#32 ∧
      t.memory = LittleEndian.store (LittleEndian.store s.memory (page ++ 0#12) 0#32 4) (page ++ 0#12 + 4#32) 1#32 4 := by
  simp [fibSetup, State.next, State.writeBack, Instr.value, Instr.result, ImmOp.eval, State.storeTo, Instr.address,
    Instr.stored, Instr.width, StoreKind.bytes]

/-- What a round computes. -/
theorem fibRound_effect (s : State) : let t := fibRound.foldl State.next s
    t.regs.read 1#5 = s.regs.read 1#5 ∧ t.regs.read 2#5 = s.regs.read 2#5 + 4#32 ∧
      t.regs.read 3#5 = s.regs.read 4#5 ∧ t.regs.read 4#5 = s.regs.read 3#5 + s.regs.read 4#5 ∧
      t.regs.read 5#5 = s.regs.read 5#5 + 1#32 ∧
      t.memory = LittleEndian.store s.memory (s.regs.read 2#5) (s.regs.read 3#5 + s.regs.read 4#5) 4 := by
  simp [fibRound, State.next, State.writeBack, Instr.value, Instr.result, ImmOp.eval, RegOp.eval, State.storeTo,
    Instr.address, Instr.stored, Instr.width, StoreKind.bytes]

theorem setup_filled (placed : Placed count page) (s : State) :
    Filled count page 2 ((fibSetup count page).foldl State.next s) := by
  rcases fibSetup_effect count page s with ⟨limit, pointer, older, newer, counter, memory⟩
  have long := placed.long
  have base : table page 0 = page ++ 0#12 := BitVec.add_zero _
  refine ⟨limit, pointer, older, newer, counter, ?_⟩
  have none : forall j, j < 0 -> LittleEndian.load s.memory (table page j) 4 = fibWord j :=
    fun j impossible => absurd impossible (Nat.not_lt_zero j)
  have both := entries_store placed (by omega) (entries_store placed (by omega) none)
  rw [base] at both
  rw [memory]
  exact both

theorem round_filled (placed : Placed count page) {s : State} {k : Nat} (two : 2 <= k) (below : k < count.toNat)
    (filled : Filled count page k s) : Filled count page (k + 1) (fibRound.foldl State.next s) := by
  rcases fibRound_effect s with ⟨limit, pointer, older, newer, counter, memory⟩
  have sum : fibWord (k - 2) + fibWord (k - 1) = fibWord k := by
    unfold fibWord
    rw [← BitVec.ofNat_add, show k = k - 2 + 2 by omega, Nat.fib_add_two]
    rfl
  rw [filled.pointer] at pointer
  rw [filled.older, filled.newer, sum] at newer memory
  rw [filled.pointer] at memory
  rw [filled.counter] at counter
  refine ⟨limit.trans filled.limit, ?_, older.trans filled.newer, newer, ?_, ?_⟩
  · rw [pointer, table, table, BitVec.add_assoc, Nat.mul_succ, BitVec.ofNat_add]
  · rw [counter, BitVec.ofNat_add]
  · rw [memory]
    exact entries_store placed below filled.entries

/-! ## The triples -/

/-- The index of the first instruction of a round. -/
def loopStart : Nat := 8

theorem fibTest_length (count : BitVec 12) (page : BitVec 20) : (fibTest count page).length = 15 := rfl

theorem fibTest_short (count : BitVec 12) (page : BitVec 20) :
    4 * (fibTest count page).length + 36 <= CLINT_BASE.toNat := by
  rw [fibTest_length]
  decide

/-- The entries of the table may be written. -/
theorem table_access (placed : Placed count page) {j : Nat} (below : j < count.toNat) :
    DataAccess (fibTest count page) (table page j) 4 := by
  have behind := placed.behind
  refine ⟨placed.accessible j below, ?_⟩
  rw [fibTest_length, table_toNat placed (Nat.le_of_lt below)]
  omega

theorem setup_triple (placed : Placed count page) :
    Establishes (fileProgram (fibTest count page)).step (Permitted (fibTest count page))
      (fun s => s.pc.toNat = 0) 8 (fun s => Filled count page 2 s ∧ s.pc.toNat = 4 * loopStart) := by
  apply Establishes.run
  intro s here
  have long := placed.long
  have accesses : s.Accesses (DataAccess (fibTest count page)) (fibSetup count page) := by
    have first := @table_access _ _ placed 0 (by omega)
    have second := @table_access _ _ placed 1 (by omega)
    rw [show table page 0 = page ++ 0#12 from BitVec.add_zero _] at first
    simpa [fibSetup, State.Accesses, State.next, State.writeBack, Instr.value, Instr.result, ImmOp.eval, Instr.address,
      Instr.width, StoreKind.bytes] using ⟨first, second⟩
  have block := @block_permitted _ [] _ _ (List.append_assoc (fibSetup count page) fibRound [fibBranch])
    (fibTest_short count page) s here rfl accesses
  exact ⟨_, block.1, setup_filled placed s, block.2⟩

/-- Beginning of the loop while there are entries to come, end of the program
when there are not. -/
def continues (rounds : Nat) : Nat := if rounds = 0 then 15 else loopStart

theorem limit_ofNat (placed : Placed count page) : count.signExtend 32 = BitVec.ofNat 32 count.toNat := by
  have positive := placed.positive
  have sign : count.msb = false := by
    rw [BitVec.msb_eq_false_iff_two_mul_lt]
    omega
  rw [BitVec.signExtend_eq_setWidth_of_msb_false sign]
  apply BitVec.eq_of_toNat_eq
  rw [BitVec.toNat_setWidth, BitVec.toNat_ofNat]

/-- The signed comparison of the branch is one of numbers. -/
theorem slt_ofNat {k n : Nat} (left : k < 2 ^ 11) (right : n < 2 ^ 11) :
    (BitVec.ofNat 32 k).slt (BitVec.ofNat 32 n) = decide (k < n) := by
  have small : forall {m : Nat}, m < 2 ^ 11 -> (BitVec.ofNat 32 m).toInt = m := by
    intro m below
    rw [BitVec.toInt_ofNat', Int.bmod_eq_of_le (by omega) (by omega)]
  rw [BitVec.slt_eq_decide, small left, small right]
  exact decide_eq_decide.mpr Int.ofNat_lt

/-- The branch goes back as long as the table is not complete. -/
theorem branch_taken (placed : Placed count page) {s : State} {k rounds : Nat} (left : k + rounds = count.toNat)
    (here : s.pc.toNat = 4 * 14) (filled : Filled count page k s) :
    (s.next fibBranch).pc.toNat = 4 * continues rounds := by
  have positive := placed.positive
  have pc : s.pc = 56#32 := BitVec.eq_of_toNat_eq here
  have compare : (s.regs.read 5#5).slt (s.regs.read 1#5) = decide (k < count.toNat) := by
    rw [filled.counter, filled.limit, limit_ofNat placed, slt_ofNat (by omega) positive]
  change (((if (s.regs.read 5#5).slt (s.regs.read 1#5) then some (s.pc + (-24 : BitVec 13).signExtend 32) else none).getD
    (s.pc + 4)).toNat) = _
  rw [compare, pc]
  cases rounds with
  | zero =>
      rw [decide_eq_false (by omega)]
      rfl
  | succ rounds =>
      rw [decide_eq_true (by omega), continues, if_neg (Nat.succ_ne_zero rounds)]
      decide

theorem round_triple (placed : Placed count page) {k rounds : Nat} (two : 2 <= k)
    (left : k + (rounds + 1) = count.toNat) :
    Establishes (fileProgram (fibTest count page)).step (Permitted (fibTest count page))
      (fun s => Filled count page k s ∧ s.pc.toNat = 4 * loopStart) 7
      (fun s => Filled count page (k + 1) s ∧ s.pc.toNat = 4 * continues rounds) := by
  have body : Establishes (fileProgram (fibTest count page)).step (Permitted (fibTest count page))
      (fun s => Filled count page k s ∧ s.pc.toNat = 4 * loopStart) 6
      (fun s => Filled count page (k + 1) s ∧ s.pc.toNat = 4 * 14) := by
    apply Establishes.run
    rintro s ⟨filled, here⟩
    have accesses : s.Accesses (DataAccess (fibTest count page)) fibRound := by
      have entry := @table_access _ _ placed k (by omega)
      rw [← filled.pointer] at entry
      simpa [fibRound, State.Accesses, State.next, State.writeBack, Instr.value, Instr.result, RegOp.eval,
        Instr.address, Instr.width, StoreKind.bytes] using entry
    have block := @block_permitted _ (fibSetup count page) fibRound [fibBranch] rfl (fibTest_short count page) s here rfl
      accesses
    exact ⟨_, block.1, round_filled placed two (by omega) filled, block.2⟩
  have branch : Establishes (fileProgram (fibTest count page)).step (Permitted (fibTest count page))
      (fun s => Filled count page (k + 1) s ∧ s.pc.toNat = 4 * 14) 1
      (fun s => Filled count page (k + 1) s ∧ s.pc.toNat = 4 * continues rounds) := by
    apply Establishes.one
    rintro s ⟨filled, here⟩
    have code : (fileProgram (fibTest count page)).code s.pc = some fibBranch := by
      rw [fileProgram, Program.listing_code here]
      rfl
    refine ⟨⟨fibBranch, code, ?_, ?_, ?_⟩, s.next fibBranch, Program.step_some code, ?_,
      branch_taken placed (by omega) here filled⟩
    · rintro condition rs1 rs2 offset ⟨⟩
      rw [show s.pc = 56#32 from BitVec.eq_of_toNat_eq here]
      decide
    · rintro addr ⟨⟩
    · rintro addr data ⟨⟩
    · exact ⟨filled.limit, filled.pointer, filled.older, filled.newer, filled.counter, filled.entries⟩
  exact body.sequence branch

/-- The numbers to come are the rounds left. -/
def Invariant (count : BitVec 12) (page : BitVec 20) (rounds : Nat) (s : State) : Prop :=
  Exists fun k => 2 <= k ∧ k + rounds = count.toNat ∧ Filled count page k s ∧ s.pc.toNat = 4 * continues rounds

theorem fibTest_triple (placed : Placed count page) :
    Establishes (fileProgram (fibTest count page)).step (Permitted (fibTest count page))
      (fun s => s.pc.toNat = 0) (8 + (count.toNat - 2) * 7)
      (fun s => Filled count page count.toNat s ∧ s.pc.toNat = 4 * 15) := by
  have long := placed.long
  have round : forall rounds, Establishes (fileProgram (fibTest count page)).step (Permitted (fibTest count page))
      (Invariant count page (rounds + 1)) 7 (Invariant count page rounds) := by
    rintro rounds start ⟨k, two, left, filled, here⟩
    rcases round_triple placed two left start ⟨filled, here⟩ with ⟨n, s, time, leads, more, there⟩
    exact ⟨n, s, time, leads, k + 1, by omega, by omega, more, there⟩
  have loop := Establishes.loop round (count.toNat - 2)
  have setup := setup_triple placed
  refine (setup.sequence (loop.consequence ?_ ?_ (Nat.le_refl _)))
  · rintro s ⟨filled, here⟩
    refine ⟨2, Nat.le_refl 2, by omega, filled, ?_⟩
    rw [here, continues, if_neg (by omega)]
  · rintro s ⟨k, _, all, filled, here⟩
    cases (show k = count.toNat from all)
    exact ⟨filled, here⟩

/-- `main` on `fib_test`.  For every length of the table and every place for it,
the simulator returns zero, in a number of ticks that is linear in the length,
and leaves the Fibonacci numbers in the table. -/
theorem main_fibonacci (placed : Placed count page) {fuel : Nat} (enough : 14 * count.toNat <= fuel + 7)
    (command programPath : String) (options : List String) {files : String -> Option (List Byte)}
    (found : files programPath = some (programFile (fibTest count page))) (keyboard : HostKeyboard) :
    Exists fun u => main fuel (command :: programPath :: options) files keyboard = some (.halted u) ∧
      Ended.exitCode (.halted u) = some 0 ∧ u.memory.uartOutput = [] ∧
      forall j, j < count.toNat -> LittleEndian.load u.memory.memory (table page j) 4 = fibWord j := by
  have long := placed.long
  rcases fibTest_triple placed (bootState (fibTest count page)) rfl with ⟨n, s, time, leads, filled, behind⟩
  rcases @file_runs _ (fibTest_short count page) n s leads behind fuel (by omega) keyboard with
    ⟨u, halted, _, memory, output⟩
  refine ⟨u, main_of_run command options found halted, rfl, output, ?_⟩
  rw [memory]
  exact filled.entries

end Fibonacci

/-- The place that `fib_test.s` gives the table. -/
theorem fib_test_placed : Placed 20 2 where
  long := by decide
  positive := by decide
  behind := by decide
  accessible := by
    intro j below
    have tested : forall j, j < 20 -> misaligned (table 2 j) 4 = false ∧ (table 2 j).toNat + 4 <= MEMORY_SIZE.toNat ∧
        MemorySystem.inClint (table 2 j) = false := by
      decide
    exact ⟨(tested j below).1, (tested j below).2.1, (tested j below).2.2⟩

theorem main_fibonacci_fib_test : Exists fun u =>
    main 273 ["sim-rv", "fib_test.bin"] (fun _ => some (programFile (fibTest 20 2))) {} = some (.halted u) ∧
      Ended.exitCode (.halted u) = some 0 ∧ u.memory.uartOutput = [] ∧
      forall j, j < 20 -> LittleEndian.load u.memory.memory (table 2 j) 4 = fibWord j :=
  @main_fibonacci _ _ fib_test_placed 273 (by decide) "sim-rv" "fib_test.bin" [] _ rfl {}

end Programs
end SimpleRV
