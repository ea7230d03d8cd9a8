import SimpleRV.Refinement.SequentialStep

namespace SimpleRV
namespace Refinement

open RegisterFile IssueUnit CPUCore ExecutionEngine Memory Pipeline InFlight

/-!
# Sequential paths

The runs of the sequential machine that the pipeline is compared with: every
instruction is in bounds, none of the code that is executed is overwritten,
and no interrupt is enabled in machine mode.
-/

/-- No store of the first `length` instructions overwrites a byte of an
instruction among them. -/
def CodeKept (path : Nat -> SeqState) (length : Nat) : Prop :=
  forall i j, i < length -> j < length -> isStore (path i).slot.d = true ->
    forall a b, a < storeWidth (memFunct3 (path i).instr) -> b < 4 ->
      (path j).pc + BitVec.ofNat 32 b ≠ (path i).executed.result + BitVec.ofNat 32 a

/-- Machine mode with interrupts disabled, globally or one by one. -/
structure NoInterrupts (regFile : RegisterFile) : Prop where
  machine : regFile.privilege = PRV_M
  disabled : hasBit regFile.mstatus MSTATUS_MIE = false ∨ regFile.mie = 0

/-- The first `length` instructions of a path that the pipeline can follow. -/
structure Followable (path : Nat -> SeqState) (length : Nat) : Prop where
  steps : forall i, i < length -> (path i).step = .ok (path (i + 1))
  allowed : forall i, i < length -> (path i).Allowed
  inBounds : forall i, i < length -> (path i).InBounds
  codeKept : CodeKept path length
  noInterrupts : forall i, i <= length -> NoInterrupts (path i).regFile

theorem NoInterrupts.sameCsrs {left right : RegisterFile} (none : NoInterrupts left) (same : SameCsrs left right) :
    NoInterrupts right := by
  rcases same with ⟨_, _, rightEq⟩
  rw [rightEq]
  exact ⟨none.machine, none.disabled⟩

/-- Then no interrupt is taken, whatever is pending. -/
theorem NoInterrupts.select {regFile : RegisterFile} (none : NoInterrupts regFile) :
    selectInterrupt regFile = Option.none := by
  unfold selectInterrupt
  simp only [none.machine, if_true]
  rcases none.disabled with mieClear | mieZero
  · have clear : hasBit (regFile.readCsr CSR_MSTATUS) MSTATUS_MIE = false := mieClear
    simp [clear]
  · have zero : regFile.readCsr CSR_MIE = 0 := mieZero
    have never : forall bit, hasBit 0 bit = false := by
      intro bit
      simp [hasBit]
    split
    · rfl
    · simp only [zero, never, Bool.false_and]
      rfl

section Followable

variable {path : Nat -> SeqState} {length : Nat}

theorem allowed_cases {r : SeqState} (allowed : r.Allowed) :
    trapsInEx r.slot.d = false ∨ trapsInEx r.slot.d = true ∧
      (r.slot.d.isEcall = true ∨ r.slot.d.isMret = true ∧ r.regFile.mstatus &&& MSTATUS_MPP = MSTATUS_MPP) := by
  rcases allowed with ordinary | system | halts
  · exact .inl (plain_of_ordinary ordinary).quiet
  · cases system with
    | csr isCsr notMip notSip => exact .inl ((decode_exclusive r.instr).csr isCsr).1
    | ecall isEcall => exact .inr ⟨by simp [trapsInEx, isEcall], .inl isEcall⟩
    | mret isMret mpp => exact .inr ⟨by simp [trapsInEx, isMret], .inr ⟨isMret, mpp⟩⟩
  · exact .inl (decode_halt halts).2.2.2.2.1

/-- Every step completes or traps. -/
theorem Followable.step (good : Followable path length) {i : Nat} (below : i < length) :
    (trapsInEx (path i).slot.d = false ∧ Completes (path i) (path (i + 1))) ∨
      (trapsInEx (path i).slot.d = true ∧
        path (i + 1) = (path i).jumpTo (trapTarget (path i).regFile (path i).slot (path i).pc)) := by
  have machine := (good.noInterrupts i (Nat.le_of_lt below)).machine
  rcases allowed_cases (good.allowed i below) with quiet | ⟨traps, _⟩
  · exact .inl ⟨quiet, step_completes machine (good.inBounds i below).access quiet (good.steps i below)⟩
  · exact .inr ⟨traps, step_traps traps (good.steps i below)⟩

/-- A step leaves the code in place. -/
theorem Followable.step_wordAt (good : Followable path length) {i j : Nat} (below : i < length) (code : j < length) :
    (path (i + 1)).wordAt (path j).pc = (path i).wordAt (path j).pc := by
  rcases good.step below with ⟨_, completes⟩ | ⟨_, traps⟩
  · have ram : (path (i + 1)).memory.memory = ((path i).inFlight.apply (path i).data).ram :=
      congrArg DataState.ram completes.data
    unfold SeqState.wordAt
    rw [ram]
    unfold InFlight.apply
    by_cases store : isStore (path i).slot.d = true
    · have sameInstr : (path i).executed.instr = (path i).instr := (executed_frame (path i)).instr
      simp only [SeqState.inFlight, executed_valid, store, Bool.and_true, if_true, sameInstr]
      apply LittleEndian.load_store_of_disjoint
      intro b belowWord a belowStore
      exact good.codeKept i j below code store a b belowStore belowWord
    · simp only [SeqState.inFlight, store, Bool.and_false, Bool.false_eq_true, if_false]
      rfl
  · rw [traps]
    rfl

/-- The words of the path are the same in every state of it. -/
theorem Followable.wordAt (good : Followable path length) {i j : Nat} (within : i <= length) (code : j < length) :
    (path i).wordAt (path j).pc = (path j).instr := by
  have fromStart : forall i, i <= length -> (path i).wordAt (path j).pc = (path 0).wordAt (path j).pc := by
    intro i within
    induction i with
    | zero => rfl
    | succ i ih => rw [good.step_wordAt within code, ih (Nat.le_of_succ_le within)]
  rw [fromStart i within, ← fromStart j (Nat.le_of_lt code)]
  rfl

end Followable

/-! ## Computed paths -/

instance (addr : Addr) (n : Nat) : Decidable (Accessible addr n) :=
  decidable_of_iff (misaligned addr n = false ∧ addr.toNat + n <= MEMORY_SIZE.toNat ∧
    MemorySystem.inClint addr = false)
    ⟨fun fields => ⟨fields.1, fields.2.1, fields.2.2⟩,
      fun access => ⟨access.aligned, access.inRam, access.noClint⟩⟩

instance (op : InFlight) : Decidable (CanAccess op) :=
  decidable_of_iff ((op.memRead = true -> Accessible op.memAddr (loadWidth (memFunct3 op.slot.instr))) ∧
    (op.memWrite = true -> Accessible op.memAddr (storeWidth (memFunct3 op.slot.instr))))
    ⟨fun fields => ⟨fields.1, fields.2⟩, fun can => ⟨can.load, can.store⟩⟩

instance (r : SeqState) : Decidable r.Ordinary := inferInstanceAs (Decidable (_ ∈ _))

instance (r : SeqState) : Decidable r.Halts := inferInstanceAs (Decidable (_ = true))

instance (r : SeqState) : Decidable r.SystemInstr :=
  decidable_of_iff ((r.slot.d.isCsr = true ∧ r.slot.d.csrAddr ≠ CSR_MIP ∧ r.slot.d.csrAddr ≠ CSR_SIP) ∨
    r.slot.d.isEcall = true ∨ r.slot.d.isMret = true ∧ r.regFile.mstatus &&& MSTATUS_MPP = MSTATUS_MPP)
    ⟨fun cases => cases.elim (fun csr => .csr csr.1 csr.2.1 csr.2.2)
        (fun rest => rest.elim .ecall (fun mret => .mret mret.1 mret.2)),
      fun system => by
        cases system with
        | csr isCsr notMip notSip => exact .inl ⟨isCsr, notMip, notSip⟩
        | ecall isEcall => exact .inr (.inl isEcall)
        | mret isMret mpp => exact .inr (.inr ⟨isMret, mpp⟩)⟩

instance (r : SeqState) : Decidable r.InBounds :=
  decidable_of_iff (r.pc.toNat + 8 <= MEMORY_SIZE.toNat ∧ MemorySystem.inClint r.pc = false ∧
    (r.slot.d.op = 0x63 -> r.pc + r.slot.d.imm < MEMORY_SIZE - 8) ∧ CanAccess r.inFlight)
    ⟨fun fields => ⟨fields.1, fields.2.1, fields.2.2.1, fields.2.2.2⟩,
      fun bounds => ⟨bounds.room, bounds.noClint, bounds.branchTarget, bounds.access⟩⟩

/-- The states of the sequential machine from `start`, as long as it runs. -/
def pathFrom (start : SeqState) (i : Nat) : SeqState :=
  match Iteration.iterate SeqState.step i start with
  | .ok r => r
  | .error _ => start

/-- The instruction lies below `top`, and what it stores lies above. -/
def Separate (top : Nat) (r : SeqState) : Prop :=
  r.pc.toNat + 4 <= top ∧ (isStore r.slot.d = true ->
    top <= r.executed.result.toNat ∧ r.executed.result.toNat + 4 <= 2 ^ 32)

instance (top : Nat) (r : SeqState) : Decidable (Separate top r) := inferInstanceAs (Decidable (_ ∧ _))

/-- Code below, data above. -/
theorem codeKept_of_separate {path : Nat -> SeqState} {length top : Nat}
    (separate : forall i, i < length -> Separate top (path i)) : CodeKept path length := by
  intro i j belowI belowJ store a b belowStore belowWord same
  have data := (separate i belowI).2 store
  have code := (separate j belowJ).1
  have width := storeWidth_le (memFunct3 (path i).instr)
  have sameNat := congrArg BitVec.toNat same
  rw [BitVec.toNat_add, BitVec.toNat_add, BitVec.toNat_ofNat, BitVec.toNat_ofNat] at sameNat
  omega

/-- What a test says about every state of a computed path. -/
theorem pathFrom_tested {start : SeqState} {test : SeqState -> Bool} {length : Nat}
    (passed : Iteration.everyState SeqState.step test length start = true) {i : Nat} (below : i < length) :
    test (pathFrom start i) = true ∧ (pathFrom start i).step = .ok (pathFrom start (i + 1)) := by
  rcases Iteration.everyState_sound passed below with ⟨state, next, reached, tested, stepped⟩
  have following : Iteration.iterate SeqState.step (i + 1) start = .ok next :=
    Iteration.iterate_succ.mpr ⟨state, reached, stepped⟩
  unfold pathFrom
  rw [reached, following]
  exact ⟨tested, stepped⟩

end Refinement
end SimpleRV
