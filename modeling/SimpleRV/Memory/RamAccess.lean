import SimpleRV.Library.Iteration
import SimpleRV.Machine.CPUCore

namespace SimpleRV
namespace Memory

open MemorySystem CPUCore Iteration

/-!
# Accesses to RAM

An access that ends inside RAM succeeds and goes to the bytes of the vector.
-/

theorem inRange_of_inRam {addr : Addr} {n : Nat} (inRam : addr.toNat + n <= MEMORY_SIZE.toNat) :
    inRange addr n = true := by
  unfold inRange
  rw [decide_eq_true_iff]
  intro i below
  have size : MEMORY_SIZE.toNat = 0x08000000 := rfl
  rw [BitVec.lt_def, BitVec.toNat_add, BitVec.toNat_ofNat]
  omega

theorem inRam_of_inRange {addr : Addr} {n : Nat} (positive : 0 < n) (short : n <= 4)
    (within : inRange addr n = true) : addr.toNat + n <= MEMORY_SIZE.toNat := by
  unfold inRange at within
  rw [decide_eq_true_iff] at within
  have size : MEMORY_SIZE.toNat = 0x08000000 := rfl
  have first := within 0 positive
  have last := within (n - 1) (Nat.sub_lt positive Nat.one_pos)
  rw [BitVec.lt_def, BitVec.toNat_add, BitVec.toNat_ofNat] at first last
  omega

/-- An address in RAM is none of the UART's, and the access does not pass the end of RAM. -/
theorem inRam_notUart {addr : Addr} {n : Nat} (positive : 0 < n) (inRam : addr.toNat + n <= MEMORY_SIZE.toNat) :
    addr ≠ UART_LSR_ADDR ∧ addr ≠ UART_TX_ADDR ∧ ¬addr + BitVec.ofNat 32 n > MEMORY_SIZE := by
  have size : MEMORY_SIZE.toNat = 0x08000000 := rfl
  refine ⟨?_, ?_, ?_⟩
  · intro here
    have : addr.toNat = 0x10000005 := by rw [here]; rfl
    omega
  · intro here
    have : addr.toNat = 0x10000000 := by rw [here]; rfl
    omega
  · rw [gt_iff_lt, BitVec.lt_def, BitVec.toNat_add, BitVec.toNat_ofNat]
    omega

/-- A read from RAM delivers the bytes and polls the keyboard. -/
theorem read_inRam {mem : MemorySystem} {addr : Addr} {n : Nat} (positive : 0 < n)
    (inRam : addr.toNat + n <= MEMORY_SIZE.toNat) (noClint : inClint addr = false) :
    mem.read addr n = .ok (LittleEndian.load mem.memory addr n,
      { mem with keyboard := mem.keyboard.checkHostKeyboard }) := by
  rcases inRam_notUart positive inRam with ⟨notLsr, notTx, within⟩
  unfold MemorySystem.read loadBytes
  simp only [noClint, Bool.false_eq_true, if_false, if_neg notLsr, if_neg notTx, if_neg within,
    inRange_of_inRam inRam, if_true, Except.map]

theorem readDoubleInstr_inRam {mem : MemorySystem} {addr : Addr} (inRam : addr.toNat + 8 <= MEMORY_SIZE.toNat) :
    mem.readDoubleInstr addr = .ok (LittleEndian.load mem.memory addr 8) := by
  have within : ¬addr + 8 > MEMORY_SIZE := (inRam_notUart (by decide) inRam).2.2
  unfold readDoubleInstr loadBytes
  rw [if_neg within, if_pos (inRange_of_inRam inRam)]

/-- A double word is two words. -/
theorem load_double (ram : Addr -> Byte) (addr : Addr) :
    (LittleEndian.load ram addr 8 : BitVec 64).setWidth 32 = LittleEndian.load ram addr 4 ∧
      ((LittleEndian.load ram addr 8 : BitVec 64) >>> 32).setWidth 32 = LittleEndian.load ram (addr + 4) 4 :=
  ⟨LittleEndian.setWidth_load ram addr (by decide) (by decide) (by decide),
    LittleEndian.setWidth_shiftRight_load ram addr (by decide) (by decide) (by decide)⟩

theorem write_inRam {mem : MemorySystem} {addr : Addr} {n : Nat} {data : Word} (positive : 0 < n)
    (inRam : addr.toNat + n <= MEMORY_SIZE.toNat) (noClint : inClint addr = false) :
    mem.write addr n data = .ok { mem with memory := LittleEndian.store mem.memory addr data n } := by
  rcases inRam_notUart positive inRam with ⟨_, notTx, within⟩
  unfold MemorySystem.write storeBytes
  simp only [noClint, Bool.false_eq_true, if_false, if_neg notTx, if_neg within, inRange_of_inRam inRam, if_true]

theorem read_ok_load {mem after : MemorySystem} {addr : Addr} {n : Nat} {data : Word}
    (noClint : inClint addr = false) (noUart : addr ≠ UART_LSR_ADDR ∧ addr ≠ UART_TX_ADDR)
    (ran : mem.read addr n = .ok (data, after)) : data = LittleEndian.load mem.memory addr n := by
  unfold MemorySystem.read loadBytes at ran
  simp only [noClint, Bool.false_eq_true, if_false, if_neg noUart.1, if_neg noUart.2] at ran
  split at ran
  · cases ran
  · rcases map_eq_ok.mp ran with ⟨loaded, found, outEq⟩
    split at found
    · cases found
      cases outEq
      rfl
    · cases found

theorem readDoubleInstr_ok_load {mem : MemorySystem} {addr : Addr} {double : BitVec 64}
    (ran : mem.readDoubleInstr addr = .ok double) : double = LittleEndian.load mem.memory addr 8 := by
  unfold readDoubleInstr loadBytes at ran
  split at ran
  · cases ran
  · split at ran
    · exact (Except.ok.inj ran).symm
    · cases ran

/-- An address that passes a bounds check of fetch is not one of the UART. -/
theorem noUart_of_bounds {pc : Addr} (bounds : pc + 8 <= MEMORY_SIZE ∨ pc + 4 <= MEMORY_SIZE) :
    pc ≠ UART_LSR_ADDR ∧ pc ≠ UART_TX_ADDR := by
  constructor
  · rintro rfl
    exact absurd bounds (by decide)
  · rintro rfl
    exact absurd bounds (by decide)

/-! ## The widths of loads and stores -/

theorem loadWidth_pos (funct3 : BitVec 3) : 0 < loadWidth funct3 := by
  unfold loadWidth
  split
  · exact Nat.one_pos
  · split <;> decide

theorem storeWidth_pos (funct3 : BitVec 3) : 0 < storeWidth funct3 := by
  unfold storeWidth
  split
  · exact Nat.one_pos
  · split <;> decide

theorem storeWidth_le (funct3 : BitVec 3) : storeWidth funct3 <= 4 := by
  unfold storeWidth
  split
  · decide
  · split <;> decide

end Memory
end SimpleRV
