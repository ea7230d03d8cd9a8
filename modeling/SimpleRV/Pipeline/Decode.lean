import SimpleRV.Machine.CPUCore

namespace SimpleRV
namespace Pipeline

open IssueUnit CPUCore

/-!
# What the decoder guarantees

The flags of a decoded word exclude each other, and only memory instructions
have an effect that depends on both `isMemory` and `regWrite`.  Later modules
use these facts and never unfold the decoder's switch.
-/

/-- The kinds of instruction that `execute` treats specially exclude each
other, and only branches are predicted. -/
structure Exclusive (d : DecodedData) : Prop where
  memory : d.isMemory = true -> d.isBranch = false ∧ trapsInEx d = false ∧ d.isCsr = false ∧ d.isSfence = false
  branch : d.isBranch = true -> trapsInEx d = false ∧ d.isCsr = false ∧ d.isSfence = false
  csr : d.isCsr = true -> trapsInEx d = false ∧ d.isSfence = false
  sfence : d.isSfence = true -> trapsInEx d = false
  predicted : d.predictedTaken = true -> d.isBranch = true

theorem decodeSystem_exclusive (instr : Word) (d : DecodedData)
    (plain : d.isMemory = false ∧ d.isBranch = false ∧ trapsInEx d = false ∧ d.isCsr = false ∧
      d.isSfence = false) :
    (decodeSystem instr d).isMemory = false ∧ (decodeSystem instr d).isBranch = false ∧
      ((decodeSystem instr d).isCsr = true -> trapsInEx (decodeSystem instr d) = false ∧
        (decodeSystem instr d).isSfence = false) ∧
      ((decodeSystem instr d).isSfence = true -> trapsInEx (decodeSystem instr d) = false) := by
  rcases plain with ⟨notMemory, notBranch, notTrap, notCsr, notSfence⟩
  unfold trapsInEx at notTrap ⊢
  simp only [Bool.or_eq_false_iff] at notTrap
  unfold decodeSystem
  split
  · split <;> simp [notMemory, notBranch, notTrap, notCsr, notSfence]
  · simp [notMemory, notBranch, notTrap, notSfence]

@[simp] theorem decodeSystem_op (instr : Word) (d : DecodedData) : (decodeSystem instr d).op = d.op := by
  unfold decodeSystem
  split
  · split <;> rfl
  · rfl

theorem decode_exclusive (instr : Word) : Exclusive (decode instr) := by
  have system := decodeSystem_exclusive instr (decodeFields instr) ⟨rfl, rfl, rfl, rfl, rfl⟩
  have kinds : ((decode instr).isMemory = true -> (decode instr).isBranch = false ∧
        trapsInEx (decode instr) = false ∧ (decode instr).isCsr = false ∧ (decode instr).isSfence = false) ∧
      ((decode instr).isBranch = true -> trapsInEx (decode instr) = false ∧ (decode instr).isCsr = false ∧
        (decode instr).isSfence = false) ∧
      ((decode instr).isCsr = true -> trapsInEx (decode instr) = false ∧ (decode instr).isSfence = false) ∧
      ((decode instr).isSfence = true -> trapsInEx (decode instr) = false) := by
    simp only [decode, decodeOpcode, trapsInEx] at system ⊢
    split
    case h_10 =>
      refine ⟨?_, ?_, system.2.2.1, system.2.2.2⟩
      · intro memory
        exact absurd memory (system.1 ▸ Bool.false_ne_true)
      · intro branch
        exact absurd branch (system.2.1 ▸ Bool.false_ne_true)
    all_goals simp [decodeFields]
  exact ⟨kinds.1, kinds.2.1, kinds.2.2.1, kinds.2.2.2, fun taken => (Bool.and_eq_true_iff.mp taken).1⟩

/-- What traps in EX does not branch, and is not a CSR instruction. -/
theorem Exclusive.trapping {d : DecodedData} (exclusive : Exclusive d) (traps : trapsInEx d = true) :
    d.isBranch = false ∧ d.isCsr = false ∧ d.predictedTaken = false := by
  have noBranch : d.isBranch = false := by
    cases branch : d.isBranch with
    | false => rfl
    | true => exact absurd ((exclusive.branch branch).1.symm.trans traps) Bool.false_ne_true
  have noCsr : d.isCsr = false := by
    cases csr : d.isCsr with
    | false => rfl
    | true => exact absurd ((exclusive.csr csr).1.symm.trans traps) Bool.false_ne_true
  refine ⟨noBranch, noCsr, ?_⟩
  cases predicted : d.predictedTaken with
  | false => rfl
  | true => exact absurd (noBranch.symm.trans (exclusive.predicted predicted)) Bool.false_ne_true

/-- A word that halts the simulator has no effect on the way to WB. -/
theorem decode_halt {instr : Word} (halts : isHalt instr = true) :
    (decode instr).isMemory = false ∧ (decode instr).isBranch = false ∧ (decode instr).isCsr = false ∧
      (decode instr).regWrite = false ∧ trapsInEx (decode instr) = false ∧
      (decode instr).isSfence = false := by
  unfold isHalt at halts
  rcases Bool.or_eq_true_iff.mp halts with ebreak | zero
  · rw [beq_iff_eq.mp ebreak]
    decide
  · rw [beq_iff_eq.mp zero]
    decide

/-- Which opcodes read which sources, and which opcodes branch. -/
theorem decode_sources (instr : Word) : let d := decode instr
    (d.op = 0x33 -> d.usesRs1 = true ∧ d.usesRs2 = true) ∧
      (d.op = 0x13 ∨ d.op = 0x03 ∨ d.op = 0x23 ∨ d.op = 0x67 -> d.usesRs1 = true) ∧
      (d.op = 0x6F ∨ d.op = 0x67 -> d.isBranch = true) ∧
      (d.isBranch = true -> d.op = 0x6F ∨ d.op = 0x67 ∨ (d.usesRs1 = true ∧ d.usesRs2 = true)) := by
  have system := decodeSystem_exclusive instr (decodeFields instr) ⟨rfl, rfl, rfl, rfl, rfl⟩
  simp only [decode, decodeOpcode] at system ⊢
  split <;> simp_all [decodeFields]

/-- Loads and stores are told by their opcodes. -/
theorem decode_memory (instr : Word) : let d := decode instr
    (isLoad d = true ↔ d.op = 0x03) ∧ (isStore d = true ↔ d.op = 0x23) := by
  have system := decodeSystem_exclusive instr (decodeFields instr) ⟨rfl, rfl, rfl, rfl, rfl⟩
  simp only [decode, decodeOpcode, isLoad, isStore] at system ⊢
  split <;> simp_all [decodeFields]

/-- Which opcodes have a result that is used: conditional branches have none. -/
theorem decode_results (instr : Word) : let d := decode instr
    (d.isCsr = false -> d.isBranch = false -> d.regWrite = true ∨ d.isMemory = true ->
      d.op = 0x33 ∨ d.op = 0x13 ∨ d.op = 0x03 ∨ d.op = 0x23 ∨ d.op = 0x37 ∨ d.op = 0x17) ∧
      (d.isBranch = true -> ¬(d.op = 0x6F ∨ d.op = 0x67) -> d.regWrite = false ∧ d.op = 0x63) ∧
      (isStore d = true -> d.usesRs2 = true) := by
  have system := decodeSystem_exclusive instr (decodeFields instr) ⟨rfl, rfl, rfl, rfl, rfl⟩
  have plain : (decodeSystem instr (decodeFields instr)).isCsr = false ->
      (decodeSystem instr (decodeFields instr)).regWrite = false := by
    unfold decodeSystem
    split
    · split <;> exact fun _ => rfl
    · intro impossible
      cases impossible
  simp only [decode, decodeOpcode, isStore] at system plain ⊢
  split <;> simp_all [decodeFields]

/-- What the issue rules exclude of a pair. -/
structure Together (i0 i1 : DecodedData) : Prop where
  oneMemory : i0.isMemory = true -> i1.isMemory = false
  noBranch : i1.isBranch = false
  notPredicted : i0.isBranch = true -> i0.predictedTaken = false
  noLoadUse : isLoad i0 = true -> i0.rd ≠ 0 -> usesReg i1 i0.rd = false
  noSystem0 : isSystem i0 = false
  noSystem1 : isSystem i1 = false

theorem canIssueTogether_together {i0 i1 : DecodedData} (together : canIssueTogether i0 i1 = true) :
    Together i0 i1 := by
  unfold canIssueTogether at together
  split at together
  · cases together
  split at together
  · cases together
  split at together
  · cases together
  split at together
  · cases together
  split at together
  · cases together
  split at together
  · cases together
  rename_i notBoth noBranch notPredicted _ noLoadUse noSystem
  simp only [Bool.and_eq_true, Bool.or_eq_true, not_and, Bool.not_eq_true, not_or] at *
  refine ⟨notBoth, noBranch, notPredicted, fun loads nonzero => ?_, noSystem.1, noSystem.2⟩
  rcases Bool.and_eq_true_iff.mp loads with ⟨memory, write⟩
  exact noLoadUse ⟨⟨memory, write⟩, bne_iff_ne.mpr nonzero⟩

/-- Loads and stores are told apart by `regWrite`. -/
theorem isLoad_isStore_exclusive (d : DecodedData) : isLoad d = true -> isStore d = false := by
  unfold isLoad isStore
  cases d.isMemory <;> cases d.regWrite <;> simp

end Pipeline
end SimpleRV
