import SimpleRV.Refinement.Effects

namespace SimpleRV
namespace Refinement

open IssueUnit CPUCore Memory Pipeline InFlight

/-!
# Fetch in machine mode

From a pc that has not run past the end of RAM, fetch in machine mode neither
traps nor ends the simulator, even on a path that the program never takes.  It
delivers the words of RAM, except that a single word of the CLINT window comes
from the CLINT.
-/

/-- The ways in which fetch can end in machine mode. -/
inductive MachineFetch (s : CPUCore) : CPUCore -> Prop where
  | full (valid : s.ifId.slots.s0.valid = true) : MachineFetch s s
  | pastEnd (empty : s.ifId.slots.s0.valid = false) (noRoom : MEMORY_SIZE.toNat < s.pc.toNat + 4) : MachineFetch s s
  | one (word : Word) (mem : MemorySystem) (empty : s.ifId.slots.s0.valid = false)
      (sameRam : mem.memory = s.memory.memory)
      (fetched : MemorySystem.inClint s.pc = false -> word = LittleEndian.load s.memory.memory s.pc 4) :
      MachineFetch s ({ s with memory := mem }.fillOne word)
  | pair (word0 word1 : Word) (empty : s.ifId.slots.s0.valid = false)
      (fetched0 : word0 = LittleEndian.load s.memory.memory s.pc 4)
      (fetched1 : word1 = LittleEndian.load s.memory.memory (s.pc + 4) 4) : MachineFetch s
      { s with
        ifId := { slots := ⟨fillSlot s.ifId.slots.s0 word0, fillSlot s.ifId.slots.s1 word1⟩, pc := s.pc }
        pc := s.pc + 8 }

/-- A pc that has not run past the end of RAM does not wrap around. -/
theorem add_le_memorySize {pc : Addr} (within : pc.toNat <= MEMORY_SIZE.toNat) {n : Nat} (small : n <= 8) :
    pc + BitVec.ofNat 32 n <= MEMORY_SIZE ↔ pc.toNat + n <= MEMORY_SIZE.toNat := by
  have size : MEMORY_SIZE.toNat = 0x08000000 := rfl
  rw [BitVec.le_def, BitVec.toNat_add, BitVec.toNat_ofNat]
  omega

/-- Reading a word of RAM always succeeds, inside the CLINT window as well. -/
theorem read_word (mem : MemorySystem) {pc : Addr} (room : pc.toNat + 4 <= MEMORY_SIZE.toNat) :
    Exists fun word => Exists fun after => mem.read pc 4 = .ok (word, after) ∧ after.memory = mem.memory ∧
      (MemorySystem.inClint pc = false -> word = LittleEndian.load mem.memory pc 4) := by
  cases clint : MemorySystem.inClint pc with
  | false => exact ⟨_, _, read_inRam (by decide) room clint, rfl, fun _ => rfl⟩
  | true =>
      refine ⟨mem.readClint pc 4, { mem with keyboard := mem.keyboard.checkHostKeyboard }, ?_, rfl,
        fun outside => absurd outside (by decide)⟩
      unfold MemorySystem.read
      simp only [clint, if_true]
      rfl

theorem fetchPair_machine {s : CPUCore} (machine : s.regFile.privilege = PRV_M)
    (empty : s.ifId.slots.s0.valid = false) (room : s.pc.toNat + 8 <= MEMORY_SIZE.toNat) :
    Exists fun t => s.fetchPair = .ok t ∧ MachineFetch s t := by
  have within : s.pc + 8 <= MEMORY_SIZE :=
    (add_le_memorySize (Nat.le_trans (Nat.le_add_right _ _) room) (Nat.le_refl 8)).mpr room
  unfold fetchPair translateFetch
  simp only [machine, translate_machine, bind, Except.bind, Bool.false_eq_true, if_false]
  by_cases crosses : crossesPage s.pc = true
  · rcases read_word s.memory (Nat.le_trans (Nat.add_le_add_left (by decide) _) room) with
      ⟨word, mem, readOk, sameRam, fetched⟩
    simp only [crosses, if_true, readOk]
    exact ⟨_, rfl, .one word mem empty sameRam fetched⟩
  · have double := @readDoubleInstr_inRam s.memory s.pc room
    rcases load_double s.memory.memory s.pc with ⟨low, high⟩
    simp only [crosses, Bool.false_eq_true, if_false, within, if_true, double]
    exact ⟨_, rfl, .pair _ _ empty low high⟩

theorem fetchSingle_machine {s : CPUCore} (machine : s.regFile.privilege = PRV_M) (running : s.running = true)
    (empty : s.ifId.slots.s0.valid = false) (room : s.pc.toNat + 4 <= MEMORY_SIZE.toNat) :
    Exists fun t => s.fetchSingle = .ok t ∧ MachineFetch s t := by
  rcases read_word s.memory room with ⟨word, mem, readOk, sameRam, fetched⟩
  unfold fetchSingle fetchInstr translateFetch
  simp only [machine, translate_machine, bind, Except.bind, Bool.false_eq_true, if_false, readOk, pure, Except.pure]
  rw [if_neg (by rw [running]; exact Bool.false_ne_true)]
  exact ⟨_, rfl, .one word mem empty sameRam fetched⟩

/-- Fetch in machine mode always succeeds, wherever speculation has led. -/
theorem fetch_machine {s : CPUCore} (machine : s.regFile.privilege = PRV_M) (running : s.running = true)
    (ordered : s.ifId.slots.s1.valid = true -> s.ifId.slots.s0.valid = true)
    (within : s.ifId.slots.s0.valid = false -> s.pc.toNat <= MEMORY_SIZE.toNat) :
    Exists fun t => s.fetch = .ok t ∧ MachineFetch s t := by
  unfold fetch
  cases valid : s.ifId.slots.s0.valid with
  | true => exact ⟨s, rfl, .full valid⟩
  | false =>
      have empty1 := invalid_of_ordered ordered valid
      have pair := add_le_memorySize (within valid) (Nat.le_refl 8)
      have single := @add_le_memorySize s.pc (within valid) 4 (by decide)
      simp only [empty1, Bool.false_eq_true, if_false]
      by_cases room : s.pc + 8 <= MEMORY_SIZE
      · rw [if_pos room]
        exact fetchPair_machine machine valid (pair.mp room)
      · rw [if_neg room]
        by_cases oneWord : s.pc + 4 <= MEMORY_SIZE
        · rw [if_pos oneWord]
          exact fetchSingle_machine machine running valid (single.mp oneWord)
        · rw [if_neg oneWord]
          exact ⟨s, rfl, .pastEnd valid (Nat.lt_of_not_le (fun here => oneWord (single.mpr here)))⟩

end Refinement
end SimpleRV
