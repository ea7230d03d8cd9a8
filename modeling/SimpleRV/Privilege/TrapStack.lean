import SimpleRV.Pipeline.ExecuteStage
import SimpleRV.Privilege.CsrFile

namespace SimpleRV
namespace Privilege

open RegisterFile BitFields IssueUnit CPUCore Pipeline

/-!
# The privilege stack

A trap pushes the privilege and the interrupt enable of its target mode into
`mstatus`, and the return of that mode pops them.  Each of the four fragments
of code is first written as an update of single bits; that they undo each
other, and that the two modes do not meet, is then a matter of bit numbers.
-/

/-- The levels that the privilege encoding has. -/
def Legal (prv : Byte) : Prop := prv = PRV_U ∨ prv = PRV_S ∨ prv = PRV_M

/-- A legal level has two bits. -/
theorem Legal.high {prv : Byte} (legal : Legal prv) {i : Nat} (high : 2 <= i) : prv.getLsbD i = false := by
  apply Nat.testBit_lt_two_pow
  have small : prv.toNat < 2 ^ 2 := by
    rcases legal with same | same | same <;> rw [same] <;> decide
  exact Nat.lt_of_lt_of_le small (Nat.pow_le_pow_right (by decide) high)

/-- The field MPP, as MRET takes it out of `mstatus`. -/
def mppOf (mstatus : Word) : Byte := ((mstatus &&& MSTATUS_MPP) >>> 11).setWidth 8

/-! ## The four updates of `mstatus` -/

/-- The test of a flag of a word. -/
theorem hasBit_flag {mask : Word} (index : Nat) (flag : mask = BitVec.twoPow 32 index) (below : index < 32)
    (value : Word) : hasBit value mask = value.getLsbD index := by
  subst flag
  exact and_twoPow_bne_zero value index below

theorem MSTATUS_SIE_eq : MSTATUS_SIE = BitVec.twoPow 32 1 := rfl
theorem MSTATUS_MIE_eq : MSTATUS_MIE = BitVec.twoPow 32 3 := rfl
theorem MSTATUS_SPIE_eq : MSTATUS_SPIE = BitVec.twoPow 32 5 := rfl
theorem MSTATUS_MPIE_eq : MSTATUS_MPIE = BitVec.twoPow 32 7 := rfl
theorem MSTATUS_SPP_eq : MSTATUS_SPP = BitVec.twoPow 32 8 := rfl
theorem MSTATUS_MPP_eq : MSTATUS_MPP = BitVec.twoPow 32 11 ||| BitVec.twoPow 32 12 := rfl

theorem SSTATUS_MASK_eq :
    SSTATUS_MASK = BitVec.twoPow 32 1 ||| BitVec.twoPow 32 5 ||| BitVec.twoPow 32 8 := rfl

/-- A flag that `sstatus` shows is tested in `mstatus`. -/
theorem hasBit_sstatus {mask : Word} (index : Nat) (flag : mask = BitVec.twoPow 32 index) (below : index < 32)
    (shown : SSTATUS_MASK.getLsbD index = true) (mstatus : Word) :
    hasBit (mstatus &&& SSTATUS_MASK) mask = mstatus.getLsbD index := by
  rw [hasBit_flag index flag below, BitVec.getLsbD_and, shown, Bool.and_true]

/-- A trap to S mode: SPIE takes SIE, SIE is cleared, SPP takes the privilege. -/
def pushedS (mstatus : Word) (prv : Byte) : Word :=
  setTo (setTo (setTo mstatus 1 false) 5 (mstatus.getLsbD 1)) 8 (prv.getLsbD 0)

/-- A trap to M mode: MPIE takes MIE, MIE is cleared, MPP takes the privilege. -/
def pushedM (mstatus : Word) (prv : Byte) : Word :=
  setTo (setTo (setTo (setTo mstatus 3 false) 7 (mstatus.getLsbD 3)) 11 (prv.getLsbD 0)) 12 (prv.getLsbD 1)

/-- SRET: SIE takes SPIE, SPIE is set, SPP becomes U. -/
def poppedS (mstatus : Word) : Word :=
  setTo (setTo (setTo mstatus 1 (mstatus.getLsbD 5)) 5 true) 8 false

/-- MRET: MIE takes MPIE, MPIE is set, MPP becomes U. -/
def poppedM (mstatus : Word) : Word :=
  setTo (setTo (setTo (setTo mstatus 3 (mstatus.getLsbD 7)) 7 true) 11 false) 12 false

theorem getLsbD_pushedS (mstatus : Word) (prv : Byte) (i : Nat) : (pushedS mstatus prv).getLsbD i =
    if i = 8 then prv.getLsbD 0 else if i = 5 then mstatus.getLsbD 1 else if i = 1 then false
    else mstatus.getLsbD i := by
  simp only [pushedS, getLsbD_setTo, Nat.reduceLT]

theorem getLsbD_pushedM (mstatus : Word) (prv : Byte) (i : Nat) : (pushedM mstatus prv).getLsbD i =
    if i = 12 then prv.getLsbD 1 else if i = 11 then prv.getLsbD 0 else if i = 7 then mstatus.getLsbD 3
    else if i = 3 then false else mstatus.getLsbD i := by
  simp only [pushedM, getLsbD_setTo, Nat.reduceLT]

theorem getLsbD_poppedS (mstatus : Word) (i : Nat) : (poppedS mstatus).getLsbD i =
    if i = 8 then false else if i = 5 then true else if i = 1 then mstatus.getLsbD 5 else mstatus.getLsbD i := by
  simp only [poppedS, getLsbD_setTo, Nat.reduceLT]

theorem getLsbD_poppedM (mstatus : Word) (i : Nat) : (poppedM mstatus).getLsbD i =
    if i = 12 then false else if i = 11 then false else if i = 7 then true
    else if i = 3 then mstatus.getLsbD 7 else mstatus.getLsbD i := by
  simp only [poppedM, getLsbD_setTo, Nat.reduceLT]

theorem pushSstatus_eq (regFile : RegisterFile) (prv : Byte) :
    regFile.pushSstatus prv = { regFile with mstatus := pushedS regFile.mstatus prv } := by
  have sie := @hasBit_sstatus MSTATUS_SIE 1 rfl (by decide) (by decide) regFile.mstatus
  unfold pushSstatus
  change { regFile with mstatus := merge regFile.mstatus (((if hasBit (regFile.mstatus &&& SSTATUS_MASK) MSTATUS_SIE
    then (regFile.mstatus &&& SSTATUS_MASK) &&& ~~~MSTATUS_SIE ||| MSTATUS_SPIE
    else (regFile.mstatus &&& SSTATUS_MASK) &&& ~~~MSTATUS_SIE &&& ~~~MSTATUS_SPIE) &&& ~~~MSTATUS_SPP) |||
      (prv.setWidth 32 <<< 8)) SSTATUS_MASK } = _
  congr 1
  rw [sie]
  apply BitVec.eq_of_getLsbD_eq
  intro i below
  rw [getLsbD_pushedS, getLsbD_merge, SSTATUS_MASK_eq, MSTATUS_SIE_eq, MSTATUS_SPIE_eq, MSTATUS_SPP_eq]
  by_cases is1 : i = 1
  · subst is1
    cases regFile.mstatus.getLsbD 1 <;> simp
  by_cases is5 : i = 5
  · subst is5
    cases regFile.mstatus.getLsbD 1 <;> simp
  by_cases is8 : i = 8
  · subst is8
    cases regFile.mstatus.getLsbD 1 <;> simp
  simp [BitVec.getLsbD_twoPow, Ne.symm is1, Ne.symm is5, Ne.symm is8, is1, is5, is8]

theorem pushMstatus_eq (regFile : RegisterFile) {prv : Byte} (legal : Legal prv) :
    regFile.pushMstatus prv = { regFile with mstatus := pushedM regFile.mstatus prv } := by
  have mie := @hasBit_flag MSTATUS_MIE 3 rfl (by decide) regFile.mstatus
  unfold pushMstatus
  change { regFile with mstatus := ((regFile.mstatus &&& ~~~MSTATUS_MIE) &&& ~~~MSTATUS_MPIE |||
    (if hasBit regFile.mstatus MSTATUS_MIE then MSTATUS_MPIE else 0)) &&& ~~~MSTATUS_MPP |||
      (prv.setWidth 32 <<< 11) } = _
  congr 1
  rw [mie]
  apply BitVec.eq_of_getLsbD_eq
  intro i below
  rw [getLsbD_pushedM, MSTATUS_MIE_eq, MSTATUS_MPIE_eq, MSTATUS_MPP_eq]
  -- a legal level has two bits, so nothing is shifted past bit 12
  have short : i ≠ 11 -> i ≠ 12 -> (prv.setWidth 32 <<< 11).getLsbD i = false := by
    intro not11 not12
    rw [BitVec.getLsbD_shiftLeft, BitVec.getLsbD_setWidth]
    by_cases low : i < 11
    · simp [low]
    · rw [legal.high (by omega)]
      simp
  by_cases is3 : i = 3
  · subst is3
    cases regFile.mstatus.getLsbD 3 <;> simp
  by_cases is7 : i = 7
  · subst is7
    cases regFile.mstatus.getLsbD 3 <;> simp
  by_cases is11 : i = 11
  · subst is11
    cases regFile.mstatus.getLsbD 3 <;> simp
  by_cases is12 : i = 12
  · subst is12
    cases regFile.mstatus.getLsbD 3 <;> simp
  rw [BitVec.getLsbD_or, short is11 is12]
  cases regFile.mstatus.getLsbD 3 <;>
    simp [below, is3, is7, is11, is12]

/-- A trap to M mode leaves the privilege in MPP. -/
theorem mppOf_pushedM (mstatus : Word) {prv : Byte} (legal : Legal prv) : mppOf (pushedM mstatus prv) = prv := by
  apply BitVec.eq_of_getLsbD_eq
  intro i below
  rw [mppOf, MSTATUS_MPP_eq, BitVec.getLsbD_setWidth, BitVec.getLsbD_ushiftRight, BitVec.getLsbD_and,
    getLsbD_pushedM]
  by_cases is0 : i = 0
  · subst is0
    simp
  by_cases is1 : i = 1
  · subst is1
    simp
  have high : prv.getLsbD i = false := legal.high (by omega)
  have not12 : ¬12 = 11 + i := by omega
  rw [high]
  simp [BitVec.getLsbD_twoPow, not12, is0]

theorem mret_eq (regFile : RegisterFile) : regFile.mret =
    ({ regFile with mstatus := poppedM regFile.mstatus, privilege := mppOf regFile.mstatus }, regFile.mepc) := by
  have mpie := @hasBit_flag MSTATUS_MPIE 7 rfl (by decide) regFile.mstatus
  unfold mret
  change ({ regFile with
    mstatus := ((if hasBit regFile.mstatus MSTATUS_MPIE then regFile.mstatus &&& ~~~MSTATUS_MIE ||| MSTATUS_MIE
      else regFile.mstatus &&& ~~~MSTATUS_MIE) ||| MSTATUS_MPIE) &&& ~~~MSTATUS_MPP
    privilege := mppOf regFile.mstatus }, regFile.mepc) = _
  congr 2
  rw [mpie]
  apply BitVec.eq_of_getLsbD_eq
  intro i below
  rw [getLsbD_poppedM, MSTATUS_MIE_eq, MSTATUS_MPIE_eq, MSTATUS_MPP_eq]
  by_cases is3 : i = 3
  · subst is3
    cases regFile.mstatus.getLsbD 7 <;> simp
  by_cases is7 : i = 7
  · subst is7
    cases regFile.mstatus.getLsbD 7 <;> simp
  by_cases is11 : i = 11
  · subst is11
    simp
  by_cases is12 : i = 12
  · subst is12
    simp
  cases regFile.mstatus.getLsbD 7 <;>
    simp [below, is3, is7, is11, is12]

theorem sret_eq (regFile : RegisterFile) : regFile.sret =
    ({ regFile with
        mstatus := poppedS regFile.mstatus
        privilege := if regFile.mstatus.getLsbD 8 then PRV_S else PRV_U }, regFile.sepc) := by
  have spie := @hasBit_sstatus MSTATUS_SPIE 5 rfl (by decide) (by decide) regFile.mstatus
  have spp := @hasBit_sstatus MSTATUS_SPP 8 rfl (by decide) (by decide) regFile.mstatus
  unfold sret
  change ({ regFile with
    mstatus := merge regFile.mstatus (((if hasBit (regFile.mstatus &&& SSTATUS_MASK) MSTATUS_SPIE
      then (regFile.mstatus &&& SSTATUS_MASK) &&& ~~~MSTATUS_SIE ||| MSTATUS_SIE
      else (regFile.mstatus &&& SSTATUS_MASK) &&& ~~~MSTATUS_SIE) ||| MSTATUS_SPIE) &&& ~~~MSTATUS_SPP) SSTATUS_MASK
    privilege := if hasBit (regFile.mstatus &&& SSTATUS_MASK) MSTATUS_SPP then PRV_S else PRV_U },
      regFile.sepc) = _
  rw [spp]
  congr 2
  rw [spie]
  apply BitVec.eq_of_getLsbD_eq
  intro i below
  rw [getLsbD_poppedS, getLsbD_merge, SSTATUS_MASK_eq, MSTATUS_SIE_eq, MSTATUS_SPIE_eq, MSTATUS_SPP_eq]
  by_cases is1 : i = 1
  · subst is1
    cases regFile.mstatus.getLsbD 5 <;> simp
  by_cases is5 : i = 5
  · subst is5
    simp
  by_cases is8 : i = 8
  · subst is8
    simp
  simp [BitVec.getLsbD_twoPow, Ne.symm is1, Ne.symm is5, Ne.symm is8, is1, is5, is8]

/-! ## Traps -/

/-- Is a trap of this cause taken in S mode? -/
def toSupervisor (regFile : RegisterFile) (cause : Word) : Bool :=
  regFile.exceptionDelegated cause && regFile.privilege != PRV_M

theorem handleTrap_supervisor {regFile : RegisterFile} {cause : Word} (delegated : toSupervisor regFile cause = true)
    (epc tval : Word) : regFile.handleTrap epc cause tval =
      ({ regFile with
          mstatus := pushedS regFile.mstatus regFile.privilege
          sepc := epc
          scause := cause
          stval := tval
          privilege := PRV_S }, regFile.stvec) := by
  unfold toSupervisor at delegated
  unfold RegisterFile.handleTrap
  simp only [delegated, if_true, pushSstatus_eq]
  rfl

theorem handleTrap_machine {regFile : RegisterFile} {cause : Word} (kept : toSupervisor regFile cause = false)
    (legal : Legal regFile.privilege) (epc tval : Word) : regFile.handleTrap epc cause tval =
      ({ regFile with
          mstatus := pushedM regFile.mstatus regFile.privilege
          mepc := epc
          mcause := cause
          mtval := tval
          privilege := PRV_M }, regFile.mtvec) := by
  unfold toSupervisor at kept
  unfold RegisterFile.handleTrap
  simp only [kept, Bool.false_eq_true, if_false, pushMstatus_eq regFile legal]
  rfl

/-! ## A trap and its return -/

abbrev MRET : Word := 0x30200073#32
abbrev SRET : Word := 0x10200073#32

/-- The return that matches a trap of this cause. -/
def matchingReturn (regFile : RegisterFile) (cause : Word) : Word :=
  if toSupervisor regFile cause then SRET else MRET

/-- The same CSRs and the same privilege; the general registers may differ. -/
def SameControl (left right : RegisterFile) : Prop := right = { left with gpr := right.gpr }

/-- What is left of a trap behind its return: the trap CSRs of the target mode,
xPIE = 1 and xPP = U. -/
def traceOfTrap (regFile : RegisterFile) (epc cause tval : Word) : RegisterFile :=
  if toSupervisor regFile cause then
    { regFile with
      mstatus := (regFile.mstatus ||| MSTATUS_SPIE) &&& ~~~MSTATUS_SPP
      sepc := epc
      scause := cause
      stval := tval }
  else
    { regFile with
      mstatus := (regFile.mstatus ||| MSTATUS_MPIE) &&& ~~~MSTATUS_MPP
      mepc := epc
      mcause := cause
      mtval := tval }

/-- A delegated trap comes from a mode that SPP can hold. -/
theorem spp_of_supervisor {regFile : RegisterFile} {cause : Word} (delegated : toSupervisor regFile cause = true)
    (legal : Legal regFile.privilege) :
    (if regFile.privilege.getLsbD 0 then PRV_S else PRV_U) = regFile.privilege := by
  rcases legal with same | same | same
  · rw [same]
    rfl
  · rw [same]
    rfl
  · rw [toSupervisor, same] at delegated
    simp at delegated

theorem poppedS_pushedS (mstatus : Word) (prv : Byte) :
    poppedS (pushedS mstatus prv) = (mstatus ||| MSTATUS_SPIE) &&& ~~~MSTATUS_SPP := by
  change _ = setTo (setTo mstatus 5 true) 8 false
  apply BitVec.eq_of_getLsbD_eq
  intro i _
  simp only [getLsbD_poppedS, getLsbD_pushedS, getLsbD_setTo, Nat.reduceLT]
  by_cases is1 : i = 1
  · subst is1
    simp
  · simp [is1]
    grind

theorem poppedM_pushedM (mstatus : Word) (prv : Byte) :
    poppedM (pushedM mstatus prv) = (mstatus ||| MSTATUS_MPIE) &&& ~~~MSTATUS_MPP := by
  rw [MSTATUS_MPP_eq, MSTATUS_MPIE_eq]
  apply BitVec.eq_of_getLsbD_eq
  intro i below
  simp only [getLsbD_poppedM, getLsbD_pushedM]
  by_cases is3 : i = 3
  · subst is3
    simp
  by_cases is7 : i = 7
  · subst is7
    simp
  by_cases is11 : i = 11
  · subst is11
    simp
  by_cases is12 : i = 12
  · subst is12
    simp
  simp [below, is3, is7, is11, is12]

/-- Registers and pc after a trap and its return, with nothing in between. -/
theorem trap_then_return {regFile : RegisterFile} (legal : Legal regFile.privilege) (epc cause tval : Word) :
    (if toSupervisor regFile cause then (regFile.handleTrap epc cause tval).1.sret
      else (regFile.handleTrap epc cause tval).1.mret) = (traceOfTrap regFile epc cause tval, epc) := by
  unfold traceOfTrap
  cases delegated : toSupervisor regFile cause with
  | true =>
      simp only [if_true]
      rw [handleTrap_supervisor delegated, sret_eq]
      simp only [poppedS_pushedS, getLsbD_pushedS, if_true, spp_of_supervisor delegated legal]
  | false =>
      simp only [Bool.false_eq_true, if_false]
      rw [handleTrap_machine delegated legal, mret_eq]
      simp only [poppedM_pushedM, mppOf_pushedM _ legal]

/-! ## Traps nested in a handler -/

/-- Two register files that differ in the trap CSRs of M mode, MPIE and MPP. -/
structure SameSupervisor (left right : RegisterFile) : Prop where
  words : Exists fun mstatus => Exists fun mepc => Exists fun mcause => Exists fun mtval =>
    right = { left with mstatus := mstatus, mepc := mepc, mcause := mcause, mtval := mtval }
  bits : forall i, i ≠ 7 -> i ≠ 11 -> i ≠ 12 -> right.mstatus.getLsbD i = left.mstatus.getLsbD i

theorem SameSupervisor.refl (regFile : RegisterFile) : SameSupervisor regFile regFile :=
  ⟨⟨_, _, _, _, rfl⟩, fun _ _ _ _ => rfl⟩

theorem SameSupervisor.trans {first second third : RegisterFile} (left : SameSupervisor first second)
    (right : SameSupervisor second third) : SameSupervisor first third := by
  rcases left with ⟨⟨mstatus, mepc, mcause, mtval, secondEq⟩, leftBits⟩
  rcases right with ⟨⟨mstatus', mepc', mcause', mtval', thirdEq⟩, rightBits⟩
  subst secondEq
  refine ⟨⟨mstatus', mepc', mcause', mtval', thirdEq⟩, ?_⟩
  intro i not7 not11 not12
  exact (rightBits i not7 not11 not12).trans (leftBits i not7 not11 not12)

/-- A write of the same value keeps two such register files together. -/
theorem SameSupervisor.writeCsr {left right : RegisterFile} (same : SameSupervisor left right) (csr : CsrAddr)
    (data : Word) : SameSupervisor (left.writeCsr csr data) (right.writeCsr csr data) := by
  rcases same with ⟨⟨mstatus, mepc, mcause, mtval, rightEq⟩, bits⟩
  subst rightEq
  unfold RegisterFile.writeCsr
  split
  case h_1 => exact ⟨⟨_, _, _, _, rfl⟩, fun _ _ _ _ => rfl⟩
  case h_12 =>
    refine ⟨⟨_, _, _, _, rfl⟩, ?_⟩
    intro i not7 not11 not12
    change (merge _ data _).getLsbD i = (merge _ data _).getLsbD i
    rw [getLsbD_merge, getLsbD_merge, bits i not7 not11 not12]
  all_goals exact ⟨⟨_, _, _, _, rfl⟩, bits⟩

/-- A trap to M mode and its MRET leave the supervisor's state alone. -/
theorem machineTrap_sameSupervisor {regFile : RegisterFile} {cause : Word} (kept : toSupervisor regFile cause = false)
    (legal : Legal regFile.privilege) (epc tval : Word) :
    SameSupervisor regFile (regFile.handleTrap epc cause tval).1.mret.1 := by
  have returned := trap_then_return legal epc cause tval
  simp only [kept, Bool.false_eq_true, if_false] at returned
  rw [returned, traceOfTrap, kept, if_neg Bool.false_ne_true]
  refine ⟨⟨_, _, _, _, rfl⟩, ?_⟩
  intro i not7 not11 not12
  rw [MSTATUS_MPP_eq, MSTATUS_MPIE_eq]
  by_cases below : i < 32
  · simp [below, not7, not11, not12]
  · rw [BitVec.getLsbD_of_ge _ _ (Nat.le_of_not_lt below), BitVec.getLsbD_of_ge _ _ (Nat.le_of_not_lt below)]

/-- A handler run twice: without the traps to M mode that are nested in it,
and with each of them taken and returned from. -/
inductive Nested : RegisterFile -> RegisterFile -> Prop
  | enter (regFile : RegisterFile) : Nested regFile regFile
  | write {without handler : RegisterFile} (before : Nested without handler) (csr : CsrAddr) (data : Word) :
      Nested (without.writeCsr csr data) (handler.writeCsr csr data)
  | machineTrap {without handler : RegisterFile} (before : Nested without handler) (epc cause tval : Word)
      (kept : toSupervisor handler cause = false) : Nested without (handler.handleTrap epc cause tval).1.mret.1

theorem SameSupervisor.privilege {left right : RegisterFile} (same : SameSupervisor left right) :
    right.privilege = left.privilege := by
  rcases same.words with ⟨mstatus, mepc, mcause, mtval, rightEq⟩
  rw [rightEq]

theorem Nested.sameSupervisor {without handler : RegisterFile} (nested : Nested without handler)
    (legal : Legal without.privilege) : SameSupervisor without handler := by
  induction nested with
  | enter regFile => exact .refl regFile
  | write before csr data ih =>
      rw [(writeCsr_frame _ csr data).2] at legal
      exact (ih legal).writeCsr csr data
  | machineTrap before epc cause tval kept ih =>
      have same := ih legal
      exact same.trans (machineTrap_sameSupervisor kept (same.privilege ▸ legal) epc tval)

/-- SRET goes to the same place, in the same mode, with the same enable. -/
theorem SameSupervisor.sret {left right : RegisterFile} (same : SameSupervisor left right) :
    right.sret.2 = left.sret.2 ∧ SameSupervisor left.sret.1 right.sret.1 := by
  rcases same with ⟨⟨mstatus, mepc, mcause, mtval, rightEq⟩, bits⟩
  subst rightEq
  have spp := bits 8 (by decide) (by decide) (by decide)
  have spie := bits 5 (by decide) (by decide) (by decide)
  rw [sret_eq, sret_eq, spp]
  refine ⟨rfl, ⟨poppedS mstatus, mepc, mcause, mtval, rfl⟩, ?_⟩
  intro i not7 not11 not12
  change (poppedS mstatus).getLsbD i = (poppedS left.mstatus).getLsbD i
  rw [getLsbD_poppedS, getLsbD_poppedS, spie, bits i not7 not11 not12]

/-! ## The privilege stack -/

/-- The core after a trap and the matching return, against the core before. -/
structure UndoesTrap (before : CPUCore) (epc cause tval : Word) (after : CPUCore) : Prop where
  privilege : after.regFile.privilege = before.regFile.privilege
  enable : if toSupervisor before.regFile cause
    then hasBit after.regFile.mstatus MSTATUS_SIE = hasBit before.regFile.mstatus MSTATUS_SIE
    else hasBit after.regFile.mstatus MSTATUS_MIE = hasBit before.regFile.mstatus MSTATUS_MIE
  pc : after.pc = epc
  /-- Every CSR, the other mode's half of `mstatus` included. -/
  control : SameControl (traceOfTrap before.regFile epc cause tval) after.regFile

theorem traceOfTrap_privilege (regFile : RegisterFile) (epc cause tval : Word) :
    (traceOfTrap regFile epc cause tval).privilege = regFile.privilege := by
  unfold traceOfTrap
  split
  · rfl
  · rfl

theorem traceOfTrap_enable (regFile : RegisterFile) (epc cause tval : Word) :
    if toSupervisor regFile cause
    then hasBit (traceOfTrap regFile epc cause tval).mstatus MSTATUS_SIE = hasBit regFile.mstatus MSTATUS_SIE
    else hasBit (traceOfTrap regFile epc cause tval).mstatus MSTATUS_MIE = hasBit regFile.mstatus MSTATUS_MIE := by
  unfold traceOfTrap
  split
  · rw [hasBit_flag 1 MSTATUS_SIE_eq (by decide), hasBit_flag 1 MSTATUS_SIE_eq (by decide), MSTATUS_SPIE_eq,
      MSTATUS_SPP_eq]
    simp
  · rw [hasBit_flag 3 MSTATUS_MIE_eq (by decide), hasBit_flag 3 MSTATUS_MIE_eq (by decide), MSTATUS_MPIE_eq,
      MSTATUS_MPP_eq]
    simp

/-- The two returns look at the CSRs only. -/
theorem returns_sameControl {left right : RegisterFile} (same : SameControl left right) :
    (SameControl left.mret.1 right.mret.1 ∧ right.mret.2 = left.mret.2) ∧
      (SameControl left.sret.1 right.sret.1 ∧ right.sret.2 = left.sret.2) := by
  unfold SameControl at same
  rw [same, mret_eq, mret_eq, sret_eq, sret_eq]
  exact ⟨⟨rfl, rfl⟩, rfl, rfl⟩

/-- The registers and the pc behind the matching return. -/
theorem matchingReturn_eq {s later : CPUCore} {epc cause tval : Word} {slot : PipelineSlot} (slotPc : Addr)
    (legal : Legal s.regFile.privilege) (kept : SameControl (s.handleTrap epc cause tval).regFile later.regFile)
    (return_ : slot.d = decode (matchingReturn s.regFile cause)) :
    SameControl (traceOfTrap s.regFile epc cause tval) (later.handleSlotTrap slot slotPc).regFile ∧
      (later.handleSlotTrap slot slotPc).pc = epc := by
  have undone := trap_then_return legal epc cause tval
  rcases returns_sameControl kept with ⟨⟨mretFile, mretPc⟩, sretFile, sretPc⟩
  change SameControl (s.regFile.handleTrap epc cause tval).1.mret.1 _ at mretFile
  change _ = (s.regFile.handleTrap epc cause tval).1.mret.2 at mretPc
  change SameControl (s.regFile.handleTrap epc cause tval).1.sret.1 _ at sretFile
  change _ = (s.regFile.handleTrap epc cause tval).1.sret.2 at sretPc
  unfold matchingReturn at return_
  cases delegated : toSupervisor s.regFile cause with
  | true =>
      simp only [delegated, if_true] at undone return_
      rw [undone] at sretFile sretPc
      have returned : later.handleSlotTrap slot slotPc = later.returnTo later.regFile.sret := by
        unfold handleSlotTrap
        rw [return_]
        rfl
      rw [returned]
      exact ⟨sretFile, sretPc⟩
  | false =>
      simp only [delegated, Bool.false_eq_true, if_false] at undone return_
      rw [undone] at mretFile mretPc
      have returned : later.handleSlotTrap slot slotPc = later.returnTo later.regFile.mret := by
        unfold handleSlotTrap
        rw [return_]
        rfl
      rw [returned]
      exact ⟨mretFile, mretPc⟩

/-- A trap and the return that matches it are inverse on the privilege stack,
in every CSR state, and traps to M mode that are nested in a handler are not
seen by its SRET. -/
theorem trap_return_inverse :
    (forall (s later : CPUCore) (epc cause tval : Word) (slot : PipelineSlot) (slotPc : Addr),
      Legal s.regFile.privilege -> SameControl (s.handleTrap epc cause tval).regFile later.regFile ->
      slot.d = decode (matchingReturn s.regFile cause) ->
      UndoesTrap s epc cause tval (later.handleSlotTrap slot slotPc)) ∧
    (forall without handler : RegisterFile, Legal without.privilege -> Nested without handler ->
      handler.sret.2 = without.sret.2 ∧ SameSupervisor without.sret.1 handler.sret.1) := by
  constructor
  · intro s later epc cause tval slot slotPc legal kept return_
    rcases matchingReturn_eq slotPc legal kept return_ with ⟨control, pc⟩
    have enable := traceOfTrap_enable s.regFile epc cause tval
    have privilege := traceOfTrap_privilege s.regFile epc cause tval
    unfold SameControl at control
    refine ⟨?_, ?_, pc, control⟩
    · rw [control]
      exact privilege
    · rw [control]
      exact enable
  · intro without handler legal nested
    exact (nested.sameSupervisor legal).sret

/-- S mode with interrupts on, and its own ECALLs delegated to it. -/
def inSupervisor : CPUCore := { regFile := { privilege := PRV_S, medeleg := 0x200#32, mstatus := MSTATUS_SIE } }

/-- An ECALL from S mode to S mode and its SRET, and a handler whose illegal
instruction goes to M mode. -/
theorem trap_return_inverse_ecall :
    UndoesTrap inSupervisor 0x104#32 MCAUSE_ECALL_S 0
      ((inSupervisor.handleTrap 0x104#32 MCAUSE_ECALL_S 0).handleSlotTrap { d := decode SRET } 0x200#32) ∧
      (inSupervisor.regFile.handleTrap 0x300#32 MCAUSE_ILLEGAL 0).1.mret.1.sret.2 = inSupervisor.regFile.sret.2 :=
  ⟨trap_return_inverse.1 inSupervisor _ 0x104#32 MCAUSE_ECALL_S 0 { d := decode SRET } 0x200#32 (.inr (.inl rfl)) rfl
      rfl,
    (trap_return_inverse.2 inSupervisor.regFile _ (.inr (.inl rfl))
      (.machineTrap (.enter inSupervisor.regFile) 0x300#32 MCAUSE_ILLEGAL 0 rfl)).1⟩

end Privilege
end SimpleRV
