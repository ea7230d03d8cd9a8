import SimpleRV.Library.Rv32i
import SimpleRV.Pipeline.WellFormed

namespace SimpleRV
namespace Memory

open MemorySystem CPUCore IssueUnit Pipeline Iteration Rv32i

/-!
# The values of loads

`memoryAccess` extends LB and LH and passes LBU and LHU on as `read` delivers
them, which relies on `read` to deliver no more than was asked for.  RAM, the
CLINT and the line status do; a received character is extended with its sign.
-/

/-! ## What a read delivers -/

/-- The word has nothing above its low `n` bytes. -/
def Narrow (n : Nat) (word : Word) : Prop := forall i, 8 * n <= i -> word.getLsbD i = false

theorem setWidth_of_narrow {n : Nat} {word : Word} (narrow : Narrow n word) :
    (word.setWidth (8 * n)).setWidth 32 = word := by
  apply BitVec.eq_of_getLsbD_eq
  intro i below
  rw [BitVec.getLsbD_setWidth, BitVec.getLsbD_setWidth]
  by_cases inside : i < 8 * n
  · simp [below, inside]
  · simp [inside, narrow i (by omega)]

theorem narrow_load (ram : Addr -> Byte) (addr : Addr) (n : Nat) : Narrow n (LittleEndian.load ram addr n) := by
  intro i above
  rw [LittleEndian.getLsbD_load]
  simp [show ¬i < 8 * n by omega]

/-- A character with its high bit set is waiting, or arrives when polled for. -/
def highCharacter (keyboard : HostKeyboard) : Bool :=
  keyboard.checkHostKeyboard.hasBufferedChar && keyboard.checkHostKeyboard.bufferedChar.msb

/-- A byte extended with its sign and with zeros are the same below 0x80 only. -/
theorem signExtend_narrow {n : Nat} (part : n = 1 ∨ n = 2) (char : Byte) :
    ((char.signExtend 32).setWidth (8 * n)).setWidth 32 = char.signExtend 32 ↔ char.msb = false := by
  constructor
  · intro same
    have top := congrArg (fun word => word.getLsbD 31) same
    rw [BitVec.getLsbD_setWidth, BitVec.getLsbD_setWidth, BitVec.getLsbD_signExtend] at top
    rcases part with rfl | rfl
    · simpa using top.symm
    · simpa using top.symm
  · intro small
    rw [BitVec.signExtend_eq_setWidth_of_msb_false small]
    apply setWidth_of_narrow
    intro i above
    rw [BitVec.getLsbD_setWidth, BitVec.getLsbD_of_ge char i (by omega), Bool.and_false]

theorem readClint_part (mem : MemorySystem) (addr : Addr) {n : Nat} (part : n = 1 ∨ n = 2) :
    mem.readClint addr n = 0 := by
  rcases part with rfl | rfl <;> simp [readClint]

/-- The status register of the UART, the CLINT and RAM deliver no more bytes
than they are asked for. -/
theorem read_other_narrow {mem after : MemorySystem} {addr : Addr} {n : Nat} {raw : Word} (part : n = 1 ∨ n = 2)
    (notUart : addr ≠ UART_TX_ADDR) (ran : mem.read addr n = .ok (raw, after)) : Narrow n raw := by
  unfold MemorySystem.read at ran
  simp only at ran
  by_cases clint : inClint addr = true
  · rw [if_pos clint] at ran
    cases ran
    intro i _
    rw [readClint_part _ addr part]
    exact BitVec.getLsbD_zero
  · rw [if_neg clint] at ran
    by_cases status : addr = UART_LSR_ADDR
    · rw [if_pos status] at ran
      cases ran
      intro i above
      have bits : forall word : Word, word.toNat < 2 ^ 8 -> word.getLsbD i = false := by
        intro word small
        rw [BitVec.getLsbD, Nat.testBit_lt_two_pow]
        exact Nat.lt_of_lt_of_le small (Nat.pow_le_pow_right (by decide) (by omega))
      split
      · exact bits 0x21#32 (by decide)
      · exact bits 0x20#32 (by decide)
    · rw [if_neg status, if_neg notUart] at ran
      split at ran
      · cases ran
      · rcases map_eq_ok.mp ran with ⟨data, loaded, same⟩
        cases same
        unfold loadBytes at loaded
        split at loaded
        · cases loaded
          exact narrow_load mem.memory addr n
        · cases loaded

/-- Only a character of the UART is delivered wider than it was asked for. -/
theorem read_narrow {mem after : MemorySystem} {addr : Addr} {n : Nat} {raw : Word} (part : n = 1 ∨ n = 2)
    (ran : mem.read addr n = .ok (raw, after)) :
    (raw.setWidth (8 * n)).setWidth 32 = raw ↔ ¬(addr = UART_TX_ADDR ∧ highCharacter mem.keyboard = true) := by
  by_cases uart : addr = UART_TX_ADDR
  · subst uart
    unfold MemorySystem.read at ran
    simp only at ran
    rw [if_neg (show ¬inClint UART_TX_ADDR = true by decide), if_neg (show ¬UART_TX_ADDR = UART_LSR_ADDR by decide),
      if_pos trivial] at ran
    unfold highCharacter
    cases buffered : mem.keyboard.checkHostKeyboard.hasBufferedChar with
    | true =>
        rw [buffered, if_pos rfl] at ran
        cases ran
        rw [signExtend_narrow part]
        simp
    | false =>
        rw [buffered, if_neg Bool.false_ne_true] at ran
        cases ran
        simp
  · rw [setWidth_of_narrow (read_other_narrow part uart ran)]
    simp [uart]

/-! ## The load of the memory stage -/

theorem loadWidth_kind (kind : LoadKind) : loadWidth kind.funct3 = kind.bytes := by
  cases kind <;> rfl

/-- The stage extends the signed loads, and leaves the others as they were read. -/
theorem extendLoad_kind (kind : LoadKind) (raw : Word) :
    extendLoad kind.funct3 raw = if kind.unsigned then raw else kind.extend raw := by
  cases kind <;> rfl

/-- A load that is done has translated its address and read there. -/
theorem loadAccess_done {mem after : MemorySystem} {regFile : RegisterFile} {funct3 : BitVec 3} {addr : Addr}
    {value : Word} (access : loadAccess mem regFile funct3 addr = .ok (.done value, after)) :
    Exists fun found => Exists fun between => Exists fun raw =>
      mem.translate addr false false (regFile.readCsr CSR_SATP) regFile.privilege = .ok (found, between) ∧
        found.fault = false ∧ between.read found.paddr (loadWidth funct3) = .ok (raw, after) ∧
        value = extendLoad funct3 raw := by
  have ends := loadAccess_end access
  cases ends with
  | loaded found between raw after translated served readOk =>
      exact ⟨found, between, raw, translated, served, readOk, rfl⟩

/-- When the extension of a load is right. -/
theorem extendLoad_iff {mem after : MemorySystem} {addr : Addr} {raw : Word} (kind : LoadKind)
    (ran : mem.read addr kind.bytes = .ok (raw, after)) :
    extendLoad kind.funct3 raw = kind.extend raw ↔
      ¬(kind.unsigned = true ∧ addr = UART_TX_ADDR ∧ highCharacter mem.keyboard = true) := by
  rw [extendLoad_kind]
  cases kind with
  | lb => simp [LoadKind.unsigned]
  | lh => simp [LoadKind.unsigned]
  | lw => simp [LoadKind.unsigned]
  | lbu =>
      have narrow := read_narrow (.inl rfl) ran
      rw [if_pos (show LoadKind.lbu.unsigned = true from rfl), eq_comm]
      refine Iff.trans narrow ?_
      simp [LoadKind.unsigned]
  | lhu =>
      have narrow := read_narrow (.inr rfl) ran
      rw [if_pos (show LoadKind.lhu.unsigned = true from rfl), eq_comm]
      refine Iff.trans narrow ?_
      simp [LoadKind.unsigned]

/-! ## From the memory stage to write-back -/

/-- A lane behind the lane of a finished access does not touch it. -/
theorem laneOutcome_slot0 {x : CPUCore} {out : CPUCore × Bool} (outcome : LaneOutcome x 1 out) :
    out.1.memWb.slots.s0 = x.memWb.slots.s0 := by
  cases outcome <;> rfl

/-- The slot of an access that is done stands in MEM/WB with its value, whatever
happens to the other lane. -/
theorem memoryAccess_done {s older after : CPUCore} {lane : Fin 2} {value : Word} {mem : MemorySystem}
    {trapped : Option (Fin 2)} (one : OneAccess s.exMem) (before : olderAccesses s lane = .ok older)
    (valid : (older.exMem.slots.get lane).valid = true) (access : laneAccess older lane = .ok (.done value, mem))
    (ran : s.memoryAccess = .ok (after, trapped)) :
    older.exMem = s.exMem ∧
      after.memWb.slots.get lane = { older.exMem.slots.get lane with result := value } := by
  cases lane using laneCases with
  | zero =>
      cases before
      have first := @memoryAccessLane_eq { s with memWb := {} } 0 valid (one 0 valid)
      rw [access] at first
      rw [memoryAccess_of_first first] at ran
      rcases map_eq_ok.mp ran with ⟨out, second, same⟩
      let mid := (afterAccess { s with memWb := {} } 0 (.done value, mem)).1
      have outcome := memoryAccessLane_outcome (s := mid) one second
      cases same
      exact ⟨rfl, laneOutcome_slot0 outcome⟩
  | one =>
      rw [olderAccesses, if_pos rfl] at before
      rcases map_eq_ok.mp before with ⟨⟨mid, stopped⟩, first, sameMid⟩
      cases sameMid
      have outcome := memoryAccessLane_outcome (s := { s with memWb := {} }) one first
      cases stopped with
      | true =>
          cases outcome with
          | trapped cause mem valid0 access0 => cases valid
      | false =>
          have sameExMem : mid.exMem = s.exMem := by
            rcases outcome.frame with ⟨mem, memWb, midEq⟩
            rw [midEq]
          have oneMid : OneAccess mid.exMem := sameExMem ▸ one
          have second := memoryAccessLane_eq valid (oneMid 1 valid)
          rw [access] at second
          rw [memoryAccess_of_first first, second] at ran
          cases ran
          exact ⟨sameExMem, rfl⟩

/-- A load that is done, in either lane of any reachable state: what write-back
puts into `rd` is the extension of what `read` returned, unless it is LBU or LHU
on the UART with a character from 0x80 on. -/
theorem load_value_iff {s older t : CPUCore} {lane : Fin 2} {value : Word} {after : MemorySystem} (kind : LoadKind)
    (reachable : Reachable s) (running : s.running = true) (ran : s.tick = .ok t)
    (before : olderAccesses s.atMemoryAccess lane = .ok older)
    (valid : (older.exMem.slots.get lane).valid = true) (loads : older.exMem.memRead.get lane = true)
    (funct3 : memFunct3 (older.exMem.slots.get lane).instr = kind.funct3)
    (access : laneAccess older lane = .ok (.done value, after)) :
    let rd := (decode (older.exMem.slots.get lane).instr).rd
    slotWrites (t.memWb.slots.get lane) = (if rd ≠ 0 then [(rd, value)] else []) ∧
      Exists fun found => Exists fun between => Exists fun raw =>
        older.memory.translate (older.exMem.memAddr.get lane) false false (older.regFile.readCsr CSR_SATP)
          older.regFile.privilege = .ok (found, between) ∧
        between.read found.paddr kind.bytes = .ok (raw, after) ∧
        (value = kind.extend raw ↔ ¬(kind.unsigned = true ∧ found.paddr = UART_TX_ADDR ∧
          highCharacter older.memory.keyboard = true)) := by
  have wellFormed := atMemoryAccess_wellFormed reachable.wellFormed
  rcases tick_memWb reachable.wellFormed running ran with ⟨⟨e, trapped⟩, accessed, kept⟩
  rcases memoryAccess_done wellFormed.executedPair.oneAccess before valid access accessed with ⟨sameExMem, moved⟩
  have slot : t.memWb.slots.get lane = { older.exMem.slots.get lane with result := value } := by
    rw [kept, moved]
  have pair : EnginePair older.exMem := sameExMem ▸ wellFormed.executedPair.toEnginePair
  have ranSlot := pair.ran lane valid
  have isLoad : isLoad (decode (older.exMem.slots.get lane).instr) = true := by
    rw [← (pair.controls lane valid).1]
    exact loads
  refine ⟨?_, ?_⟩
  · rcases Bool.and_eq_true_iff.mp isLoad with ⟨memory, writes⟩
    have noHalt : isHalt (older.exMem.slots.get lane).instr = false := by
      cases halts : isHalt (older.exMem.slots.get lane).instr with
      | false => rfl
      | true => exact absurd ((decode_halt halts).1.symm.trans memory) Bool.false_ne_true
    rw [slot]
    unfold slotWrites
    simp only [valid, noHalt, ranSlot.regWrite, ranSlot.rd, writes, Bool.not_false, Bool.and_true, Bool.true_and,
      bne_iff_ne]
  · unfold laneAccess at access
    simp only [loads, if_true] at access
    rcases loadAccess_done access with ⟨found, between, raw, translated, _, readOk, valueEq⟩
    rw [funct3, loadWidth_kind] at readOk
    have sameKeyboard : between.keyboard = older.memory.keyboard := by
      rcases translate_onlyTlb translated with ⟨tlb, index, betweenEq⟩
      rw [betweenEq]
    refine ⟨found, between, raw, translated, readOk, ?_⟩
    rw [valueEq, funct3, ← sameKeyboard]
    exact extendLoad_iff kind readOk

/-! ## Two loads -/

/-- The test that a lane finishes a load of the given kind with a value. -/
def finishesLoad (lane : Fin 2) (kind : LoadKind) (value : Word) (older : CPUCore) : Bool :=
  (older.exMem.slots.get lane).valid && older.exMem.memRead.get lane &&
    decide (memFunct3 (older.exMem.slots.get lane).instr = kind.funct3) &&
    passes (laneAccess older lane) (fun out =>
      match out.1 with
      | .done found => decide (found = value)
      | .trap _ => false)

theorem finishesLoad_sound {lane : Fin 2} {kind : LoadKind} {value : Word} {older : CPUCore}
    (finishes : finishesLoad lane kind value older = true) :
    (older.exMem.slots.get lane).valid = true ∧ older.exMem.memRead.get lane = true ∧
      memFunct3 (older.exMem.slots.get lane).instr = kind.funct3 ∧
      Exists fun after => laneAccess older lane = .ok (.done value, after) := by
  simp only [finishesLoad, Bool.and_eq_true, decide_eq_true_eq] at finishes
  rcases finishes with ⟨⟨⟨valid, loads⟩, funct3⟩, done⟩
  rcases exists_of_passes done with ⟨⟨result, after⟩, access, test⟩
  cases result with
  | trap cause => cases test
  | done found =>
      rw [← decide_eq_true_eq.mp test]
      exact ⟨valid, loads, funct3, after, access⟩

/-- `lbu x6, 0(x0)` reads the low byte of its own word. -/
theorem load_value_iff_ram : Exists fun s => Exists fun older => Exists fun t => Exists fun after =>
    Reachable s ∧ s.tick = .ok t ∧ olderAccesses s.atMemoryAccess 0 = .ok older ∧ laneAccess older 0 = .ok (.done 3, after) ∧
      slotWrites t.memWb.slots.s0 = [(6, 3)] ∧
      Exists fun found => Exists fun between => Exists fun raw =>
        older.memory.translate (older.exMem.memAddr.get 0) false false (older.regFile.readCsr CSR_SATP)
          older.regFile.privilege = .ok (found, between) ∧
        between.read found.paddr LoadKind.lbu.bytes = .ok (raw, after) ∧
        (3 = LoadKind.lbu.extend raw ↔ ¬(LoadKind.lbu.unsigned = true ∧ found.paddr = UART_TX_ADDR ∧
          highCharacter older.memory.keyboard = true)) := by
  have passed : passes (iterate tick 3 (init .default128MB (ramImage [(0, 0x00004303#32)]) {})) (fun s =>
      s.running && passes s.tick (fun t => decide (slotWrites t.memWb.slots.s0 = [(6, 3)])) &&
        passes (olderAccesses s.atMemoryAccess 0) (finishesLoad 0 .lbu 3)) = true := by
    decide +kernel
  rcases exists_of_passes passed with ⟨s, run, tests⟩
  simp only [Bool.and_eq_true] at tests
  rcases tests with ⟨⟨running, ticks⟩, finishes⟩
  rcases exists_of_passes ticks with ⟨t, ran, writes⟩
  rcases exists_of_passes finishes with ⟨older, before, test⟩
  rcases finishesLoad_sound test with ⟨valid, loads, funct3, after, access⟩
  have reachable : Reachable s := ⟨_, _, _, 3, run⟩
  have result := load_value_iff .lbu reachable running ran before valid loads funct3 access
  exact ⟨s, older, t, after, reachable, ran, before, access, decide_eq_true_eq.mp writes, result.2⟩

/-- `lbu` on the UART with the character 0x80 puts a negative number into `x6`. -/
theorem lbu_of_high_character : Exists fun s => Exists fun older => Exists fun t => Exists fun after =>
    Reachable s ∧ s.running = true ∧ s.tick = .ok t ∧ olderAccesses s.atMemoryAccess 1 = .ok older ∧
      (older.exMem.slots.s1.valid = true ∧ older.exMem.memRead.s1 = true ∧
        memFunct3 older.exMem.slots.s1.instr = LoadKind.lbu.funct3) ∧
      laneAccess older 1 = .ok (.done 0xFFFFFF80#32, after) ∧
      slotWrites t.memWb.slots.s1 = [(6, 0xFFFFFF80#32)] ∧
      forall raw, (0xFFFFFF80#32 : Word) ≠ LoadKind.lbu.extend raw := by
  have passed : passes (iterate tick 3 (init .default128MB (ramImage [(0, 0x100002B7#32), (4, 0x0002C303#32)])
      { answers := fun _ => some 0x80#8 })) (fun s =>
      s.running && passes s.tick (fun t => decide (slotWrites t.memWb.slots.s1 = [(6, 0xFFFFFF80#32)])) &&
        passes (olderAccesses s.atMemoryAccess 1) (finishesLoad 1 .lbu 0xFFFFFF80#32)) = true := by
    decide +kernel
  rcases exists_of_passes passed with ⟨s, run, tests⟩
  simp only [Bool.and_eq_true] at tests
  rcases tests with ⟨⟨running, ticks⟩, finishes⟩
  rcases exists_of_passes ticks with ⟨t, ran, writes⟩
  rcases exists_of_passes finishes with ⟨older, before, test⟩
  rcases finishesLoad_sound test with ⟨valid, loads, funct3, after, access⟩
  refine ⟨s, older, t, after, ⟨_, _, _, 3, run⟩, running, ran, before, ⟨valid, loads, funct3⟩, access,
    decide_eq_true_eq.mp writes, ?_⟩
  intro raw same
  have top := congrArg (fun word : Word => word.getLsbD 31) same
  change true = ((raw.setWidth 8).setWidth 32).getLsbD 31 at top
  rw [BitVec.getLsbD_setWidth, BitVec.getLsbD_of_ge (raw.setWidth 8) 31 (by decide), Bool.and_false] at top
  cases top

end Memory
end SimpleRV
