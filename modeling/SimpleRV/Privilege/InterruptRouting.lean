import SimpleRV.Privilege.TrapStack

namespace SimpleRV
namespace Privilege

open RegisterFile BitFields CPUCore

/-!
# Where an interrupt is taken

The delegation rules choose a target mode first and then the highest interrupt
of that mode.  `checkAndHandleInterrupts` looks at one enable bit and one pair
of masks, picks the highest interrupt that they show, and decides about the
target afterwards.  The two agree when no interrupt of the other kind is there
to be masked, misrouted or passed over.
-/

/-! ## The rule -/

/-- Bit numbers of the machine-level interrupts, the highest priority first. -/
def machineLevel : List Nat := [11, 3, 7]

/-- Bit numbers of the supervisor-level interrupts. -/
def supervisorLevel : List Nat := [9, 1, 5]

def priorities : List Nat := machineLevel ++ supervisorLevel

/-- The interrupt of highest priority among the bits of a word. -/
def highest (bits : Word) : Option Nat := priorities.find? (fun index => bits.getLsbD index)

def causeOf (index : Nat) : Word := 0x80000000#32 ||| BitVec.ofNat 32 index

/-- Interrupts that are both enabled and pending. -/
def enabledPending (regFile : RegisterFile) : Word := regFile.mip &&& regFile.mie

/-- The target mode and the cause of the interrupt that the delegation rules
take, if they take one. -/
def delegationRule (regFile : RegisterFile) : Option (Byte × Word) :=
  let pending := enabledPending regFile
  let prv := regFile.privilege
  let machine :=
    if prv < PRV_M || hasBit regFile.mstatus MSTATUS_MIE then highest (pending &&& ~~~regFile.mideleg) else none
  let supervisor :=
    if prv = PRV_U || (prv = PRV_S && hasBit regFile.mstatus MSTATUS_SIE) then highest (pending &&& regFile.mideleg)
    else none
  match machine with
  | some index => some (PRV_M, causeOf index)
  | none => supervisor.map (fun index => (PRV_S, causeOf index))

/-- Enter the handler of the target mode. -/
def interruptTo (s : CPUCore) (target : Byte) (cause : Word) : CPUCore :=
  let prv := s.regFile.privilege
  if target = PRV_M then
    { s with
      regFile := { s.regFile.pushMstatus prv with mepc := s.pc, mcause := cause, privilege := PRV_M }
      pc := s.regFile.mtvec }.flush
  else
    { s with
      regFile := { s.regFile.pushSstatus prv with sepc := s.pc, scause := cause, privilege := PRV_S }
      pc := s.regFile.stvec }.flush

/-- The core after a decision about its interrupts. -/
def decided (s : CPUCore) : Option (Byte × Word) -> CPUCore
  | none => s
  | some (target, cause) => interruptTo s target cause

/-- The core does with its interrupts what the rule says. -/
def FollowsRule (s : CPUCore) : Prop :=
  s.checkAndHandleInterrupts = decided s (delegationRule s.regFile)

/-- When it does.  In M mode: the highest interrupt is not a delegated one.  In
S and U mode: no interrupt is destined for M mode, and with SIE set no delegated
interrupt is a machine-level one, without it (in U mode) there is none at all. -/
def RoutedAlike (regFile : RegisterFile) : Prop :=
  let pending := enabledPending regFile
  if regFile.privilege = PRV_M then
    hasBit regFile.mstatus MSTATUS_MIE = true ->
      forall index, highest pending = some index -> regFile.mideleg.getLsbD index = false
  else
    highest (pending &&& ~~~regFile.mideleg) = none ∧
      if hasBit regFile.mstatus MSTATUS_SIE then machineLevel.find? (fun index => pending.getLsbD index) = none
      else regFile.privilege = PRV_U -> highest pending = none

/-! ## The highest interrupt -/

/-- The first element that passes a test passes it for a stricter test too, if
it passes that. -/
theorem find?_of_imp {α : Type} {loose strict : α -> Bool} (stricter : forall x, strict x = true -> loose x = true)
    {xs : List α} {x : α} (found : xs.find? loose = some x) (passes : strict x = true) :
    xs.find? strict = some x := by
  induction xs with
  | nil => cases found
  | cons head rest ih =>
      cases first : loose head with
      | true =>
          rw [List.find?_cons, first] at found
          cases found
          rw [List.find?_cons, passes]
      | false =>
          rw [List.find?_cons, first] at found
          have notStrict : strict head = false := by
            cases strictHead : strict head with
            | false => rfl
            | true => exact absurd (first.symm.trans (stricter head strictHead)) Bool.false_ne_true
          rw [List.find?_cons, notStrict]
          exact ih found

theorem highest_mem {bits : Word} {index : Nat} (found : highest bits = some index) : index ∈ priorities :=
  List.mem_of_find?_eq_some found

theorem highest_set {bits : Word} {index : Nat} (found : highest bits = some index) : bits.getLsbD index = true :=
  List.find?_some (p := fun index => bits.getLsbD index) found

/-- Which bits of the view `sie` and `sip` show. -/
theorem supervisorView {index : Nat} (member : index ∈ priorities) :
    SIE_MASK.getLsbD index = decide (index ∈ supervisorLevel) := by
  revert index
  decide

theorem priorities_below : forall index, index ∈ priorities -> index < 32 := by
  decide

theorem find?_ext {α : Type} {left right : α -> Bool} {xs : List α} (same : forall x, x ∈ xs -> left x = right x) :
    xs.find? left = xs.find? right := by
  induction xs with
  | nil => rfl
  | cons head rest ih =>
      have later := ih (fun x member => same x (List.mem_cons_of_mem head member))
      rw [List.find?_cons, List.find?_cons, same head List.mem_cons_self, later]

/-- Through the view the machine-level interrupts are not seen. -/
theorem highest_view (bits : Word) :
    highest (bits &&& SIE_MASK) = supervisorLevel.find? (fun index => bits.getLsbD index) := by
  have hidden : machineLevel.find? (fun index => (bits &&& SIE_MASK).getLsbD index) = none := by
    rw [List.find?_eq_none]
    intro index member
    have shown := supervisorView (List.mem_append_left supervisorLevel member)
    have away : index ∉ supervisorLevel := by
      revert index
      decide
    rw [BitVec.getLsbD_and, shown, decide_eq_false away, Bool.and_false]
    exact Bool.false_ne_true
  unfold highest priorities
  rw [List.find?_append, hidden, Option.none_or]
  apply find?_ext
  intro index member
  rw [BitVec.getLsbD_and, supervisorView (List.mem_append_right machineLevel member), decide_eq_true member,
    Bool.and_true]

/-- The highest interrupt is the highest of the machine level, if there is one. -/
theorem highest_eq (bits : Word) : highest bits =
    (machineLevel.find? (fun index => bits.getLsbD index)).or (highest (bits &&& SIE_MASK)) := by
  rw [highest_view]
  exact List.find?_append

/-- With no interrupt for M mode left, the highest one is the highest delegated. -/
theorem highest_delegated {pending mideleg : Word} (none_ : highest (pending &&& ~~~mideleg) = none) :
    highest (pending &&& mideleg) = highest pending := by
  apply find?_ext
  intro index member
  have kept := List.find?_eq_none.mp none_ index member
  have below := priorities_below index member
  simp only [BitVec.getLsbD_and, BitVec.getLsbD_not, below, decide_true, Bool.true_and] at kept ⊢
  cases delegated : mideleg.getLsbD index with
  | true => exact Bool.and_true _
  | false =>
      rw [delegated, Bool.not_false, Bool.and_true, Bool.not_eq_true] at kept
      rw [kept, Bool.false_and]

/-- An interrupt that is the highest of all and not delegated is the highest of
those for M mode. -/
theorem highest_kept {pending mideleg : Word} {index : Nat} (found : highest pending = some index)
    (kept : mideleg.getLsbD index = false) : highest (pending &&& ~~~mideleg) = some index := by
  apply @find?_of_imp _ (fun index => pending.getLsbD index)
  · intro index both
    rw [BitVec.getLsbD_and] at both
    exact (Bool.and_eq_true_iff.mp both).1
  · exact found
  · have set := highest_set found
    rw [BitVec.getLsbD_and, BitVec.getLsbD_not, set, kept]
    simp [BitVec.lt_of_getLsbD set]

theorem highest_none_and {bits : Word} (none_ : highest bits = none) (mask : Word) :
    highest (bits &&& mask) = none := by
  apply List.find?_eq_none.mpr
  intro index member
  have unset := List.find?_eq_none.mp none_ index member
  rw [Bool.not_eq_true] at unset
  rw [BitVec.getLsbD_and, unset, Bool.false_and]
  exact Bool.false_ne_true

/-! ## What the code selects -/

theorem intrs_eq : intrs = priorities.map (fun index => (causeOf index, BitVec.twoPow 32 index)) := rfl

/-- The loop over the table. -/
theorem find_intrs (ieVal ipVal : Word) :
    (intrs.find? (fun intr => hasBit ieVal intr.2 && hasBit ipVal intr.2)).map Prod.fst =
      (highest (ipVal &&& ieVal)).map causeOf := by
  rw [intrs_eq, List.find?_map, Option.map_map]
  congr 1
  apply find?_ext
  intro index member
  have below := priorities_below index member
  change (hasBit ieVal (BitVec.twoPow 32 index) && hasBit ipVal (BitVec.twoPow 32 index)) = _
  rw [hasBit_flag index rfl below, hasBit_flag index rfl below, BitVec.getLsbD_and, Bool.and_comm]

theorem selectInterrupt_machine {regFile : RegisterFile} (machine : regFile.privilege = PRV_M) :
    selectInterrupt regFile = if hasBit regFile.mstatus MSTATUS_MIE
      then (highest (enabledPending regFile)).map causeOf else none := by
  unfold selectInterrupt
  simp only [machine, if_true, find_intrs]
  change (if (!hasBit regFile.mstatus MSTATUS_MIE) = true then none
    else (highest (enabledPending regFile)).map causeOf) = _
  cases hasBit regFile.mstatus MSTATUS_MIE <;> rfl

theorem selectInterrupt_lower {regFile : RegisterFile} (lower : regFile.privilege ≠ PRV_M) :
    selectInterrupt regFile = if hasBit regFile.mstatus MSTATUS_SIE
      then (highest (enabledPending regFile &&& SIE_MASK)).map causeOf else none := by
  have shown : (regFile.mip &&& SIE_MASK) &&& (regFile.mie &&& SIE_MASK) = enabledPending regFile &&& SIE_MASK := by
    rw [enabledPending]
    grind
  unfold selectInterrupt
  simp only [if_neg lower, find_intrs]
  change (if (!hasBit regFile.mstatus MSTATUS_SIE) = true then none
    else (highest ((regFile.mip &&& SIE_MASK) &&& (regFile.mie &&& SIE_MASK))).map causeOf) = _
  rw [shown]
  cases hasBit regFile.mstatus MSTATUS_SIE <;> rfl

theorem interruptDelegated_eq (regFile : RegisterFile) {index : Nat} (member : index ∈ priorities) :
    regFile.interruptDelegated (causeOf index) = regFile.mideleg.getLsbD index := by
  have cases_ : index = 11 ∨ index = 3 ∨ index = 7 ∨ index = 9 ∨ index = 1 ∨ index = 5 := by
    simpa [priorities, machineLevel, supervisorLevel] using member
  rcases cases_ with same | same | same | same | same | same <;> subst same
  · exact hasBit_flag 11 rfl (by decide) _
  · exact hasBit_flag 3 rfl (by decide) _
  · exact hasBit_flag 7 rfl (by decide) _
  · exact hasBit_flag 9 rfl (by decide) _
  · exact hasBit_flag 1 rfl (by decide) _
  · exact hasBit_flag 5 rfl (by decide) _

/-- The target mode and the cause that the code arrives at. -/
def codeRule (regFile : RegisterFile) : Option (Byte × Word) :=
  let pending := enabledPending regFile
  if regFile.privilege = PRV_M then
    (if hasBit regFile.mstatus MSTATUS_MIE then highest pending else none).map
      (fun index => (if regFile.mideleg.getLsbD index then PRV_S else PRV_M, causeOf index))
  else
    (if hasBit regFile.mstatus MSTATUS_SIE then highest (pending &&& SIE_MASK) else none).map
      (fun index => (PRV_S, causeOf index))

/-- Entering a handler: M mode for an interrupt that is not delegated and comes
from M mode, S mode otherwise. -/
theorem checkAndHandleInterrupts_some {s : CPUCore} {index : Nat} (member : index ∈ priorities)
    (selected : selectInterrupt s.regFile = some (causeOf index)) : s.checkAndHandleInterrupts =
      interruptTo s (if s.regFile.mideleg.getLsbD index || s.regFile.privilege != PRV_M then PRV_S else PRV_M)
        (causeOf index) := by
  unfold checkAndHandleInterrupts
  rw [selected]
  change { s with
    regFile := (s.regFile.enterInterrupt s.pc (causeOf index)).1
    pc := (s.regFile.enterInterrupt s.pc (causeOf index)).2 }.flush = _
  unfold enterInterrupt
  simp only [interruptDelegated_eq s.regFile member]
  cases s.regFile.mideleg.getLsbD index || s.regFile.privilege != PRV_M with
  | true => rfl
  | false => rfl

theorem checkAndHandleInterrupts_none {s : CPUCore} (selected : selectInterrupt s.regFile = none) :
    s.checkAndHandleInterrupts = s := by
  unfold checkAndHandleInterrupts
  rw [selected]

theorem checkAndHandleInterrupts_eq (s : CPUCore) : s.checkAndHandleInterrupts = decided s (codeRule s.regFile) := by
  unfold codeRule
  by_cases machine : s.regFile.privilege = PRV_M
  · have selected := selectInterrupt_machine machine
    simp only [if_pos machine]
    cases enabled : hasBit s.regFile.mstatus MSTATUS_MIE with
    | false =>
        rw [enabled] at selected
        exact checkAndHandleInterrupts_none selected
    | true =>
        rw [enabled, if_pos rfl] at selected
        simp only [if_true]
        cases found : highest (enabledPending s.regFile) with
        | none =>
            rw [found] at selected
            exact checkAndHandleInterrupts_none selected
        | some index =>
            rw [found] at selected
            rw [checkAndHandleInterrupts_some (highest_mem found) selected, machine, bne_self_eq_false, Bool.or_false]
            rfl
  · have selected := selectInterrupt_lower machine
    have lower : (s.regFile.privilege != PRV_M) = true := bne_iff_ne.mpr machine
    simp only [if_neg machine]
    cases enabled : hasBit s.regFile.mstatus MSTATUS_SIE with
    | false =>
        rw [enabled] at selected
        exact checkAndHandleInterrupts_none selected
    | true =>
        rw [enabled, if_pos rfl] at selected
        simp only [if_true]
        cases found : highest (enabledPending s.regFile &&& SIE_MASK) with
        | none =>
            rw [found] at selected
            exact checkAndHandleInterrupts_none selected
        | some index =>
            rw [found] at selected
            rw [checkAndHandleInterrupts_some (highest_mem found) selected, lower, Bool.or_true]
            rfl

/-! ## Decisions that differ can be told apart -/

/-- A decision to enter S or M mode, the enable bit of that mode being set when
the core is in it already. -/
def Effective (regFile : RegisterFile) (decision : Option (Byte × Word)) : Prop :=
  forall target cause, decision = some (target, cause) ->
    target = PRV_M ∧ (regFile.privilege = PRV_M -> hasBit regFile.mstatus MSTATUS_MIE = true) ∨
      target = PRV_S ∧ (regFile.privilege = PRV_S -> hasBit regFile.mstatus MSTATUS_SIE = true)

theorem interruptTo_machine {s : CPUCore} (legal : Legal s.regFile.privilege) (cause : Word) :
    (interruptTo s PRV_M cause).regFile.privilege = PRV_M ∧ (interruptTo s PRV_M cause).regFile.mcause = cause ∧
      hasBit (interruptTo s PRV_M cause).regFile.mstatus MSTATUS_MIE = false := by
  refine ⟨rfl, rfl, ?_⟩
  rw [hasBit_flag 3 MSTATUS_MIE_eq (by decide)]
  change (s.regFile.pushMstatus s.regFile.privilege).mstatus.getLsbD 3 = false
  rw [pushMstatus_eq s.regFile legal]
  exact getLsbD_pushedM _ _ 3

theorem interruptTo_supervisor (s : CPUCore) (cause : Word) :
    (interruptTo s PRV_S cause).regFile.privilege = PRV_S ∧ (interruptTo s PRV_S cause).regFile.scause = cause ∧
      hasBit (interruptTo s PRV_S cause).regFile.mstatus MSTATUS_SIE = false := by
  refine ⟨rfl, rfl, ?_⟩
  rw [hasBit_flag 1 MSTATUS_SIE_eq (by decide)]
  change (s.regFile.pushSstatus s.regFile.privilege).mstatus.getLsbD 1 = false
  rw [pushSstatus_eq]
  exact getLsbD_pushedS _ _ 1

/-- Taking an interrupt changes the core. -/
theorem decided_ne {s : CPUCore} (legal : Legal s.regFile.privilege) {target : Byte} {cause : Word}
    (effective : Effective s.regFile (some (target, cause))) : interruptTo s target cause ≠ s := by
  intro same
  rcases effective target cause rfl with ⟨machine, enabled⟩ | ⟨supervisor, enabled⟩
  · subst machine
    rcases interruptTo_machine legal cause with ⟨privilege, _, cleared⟩
    rw [same] at privilege cleared
    exact absurd (cleared.symm.trans (enabled privilege)) Bool.false_ne_true
  · subst supervisor
    rcases interruptTo_supervisor s cause with ⟨privilege, _, cleared⟩
    rw [same] at privilege cleared
    exact absurd (cleared.symm.trans (enabled privilege)) Bool.false_ne_true

theorem decided_injective {s : CPUCore} (legal : Legal s.regFile.privilege) {left right : Option (Byte × Word)}
    (leftEffective : Effective s.regFile left) (rightEffective : Effective s.regFile right)
    (same : decided s left = decided s right) : left = right := by
  rcases left with _ | ⟨target, cause⟩
  · rcases right with _ | ⟨target', cause'⟩
    · rfl
    · exact absurd same.symm (decided_ne legal rightEffective)
  · rcases right with _ | ⟨target', cause'⟩
    · exact absurd same (decided_ne legal leftEffective)
    · change interruptTo s target cause = interruptTo s target' cause' at same
      rcases leftEffective target cause rfl with ⟨atM, _⟩ | ⟨atS, _⟩
      · subst atM
        rcases interruptTo_machine legal cause with ⟨privilege, mcause, _⟩
        rcases rightEffective target' cause' rfl with ⟨atM, _⟩ | ⟨atS, _⟩
        · subst atM
          rw [same] at mcause
          rw [← mcause]
          rfl
        · subst atS
          rw [same] at privilege
          exact absurd ((interruptTo_supervisor s cause').1.symm.trans privilege) (by decide)
      · subst atS
        rcases interruptTo_supervisor s cause with ⟨privilege, scause, _⟩
        rcases rightEffective target' cause' rfl with ⟨atM, _⟩ | ⟨atS, _⟩
        · subst atM
          rw [same] at privilege
          exact absurd ((interruptTo_machine legal cause').1.symm.trans privilege) (by decide)
        · subst atS
          rw [same] at scause
          rw [← scause]
          rfl

theorem codeRule_effective (regFile : RegisterFile) : Effective regFile (codeRule regFile) := by
  intro target cause taken
  unfold codeRule at taken
  by_cases machine : regFile.privilege = PRV_M
  · simp only [if_pos machine, Option.map_eq_some_iff, Prod.mk.injEq] at taken
    rcases taken with ⟨index, found, targetEq, _⟩
    cases enabled : hasBit regFile.mstatus MSTATUS_MIE with
    | false =>
        rw [enabled] at found
        cases found
    | true =>
        rw [← targetEq]
        split
        · exact .inr ⟨rfl, fun supervisor => absurd (machine.symm.trans supervisor) (by decide)⟩
        · exact .inl ⟨rfl, fun _ => rfl⟩
  · simp only [if_neg machine, Option.map_eq_some_iff, Prod.mk.injEq] at taken
    rcases taken with ⟨index, found, targetEq, _⟩
    cases enabled : hasBit regFile.mstatus MSTATUS_SIE with
    | false =>
        rw [enabled] at found
        cases found
    | true => exact .inr ⟨targetEq.symm, fun _ => rfl⟩

/-- What the rule promises: an interrupt to M mode is not delegated, one to S
mode is and does not come from M mode, and the enable bit of the mode is set
when the core is in it. -/
theorem delegationRule_some {regFile : RegisterFile} {target : Byte} {cause : Word}
    (taken : delegationRule regFile = some (target, cause)) : Exists fun index => cause = causeOf index ∧
      (target = PRV_M ∧ highest (enabledPending regFile &&& ~~~regFile.mideleg) = some index ∧
          (regFile.privilege = PRV_M -> hasBit regFile.mstatus MSTATUS_MIE = true) ∨
        target = PRV_S ∧ highest (enabledPending regFile &&& regFile.mideleg) = some index ∧
          regFile.privilege ≠ PRV_M ∧ (regFile.privilege = PRV_S -> hasBit regFile.mstatus MSTATUS_SIE = true)) := by
  unfold delegationRule at taken
  simp only at taken
  split at taken
  · rename_i index found
    cases taken
    split at found
    · rename_i open_
      refine ⟨index, rfl, .inl ⟨rfl, found, ?_⟩⟩
      intro machine
      simpa [machine] using open_
    · cases found
  · rcases Option.map_eq_some_iff.mp taken with ⟨index, found, outEq⟩
    cases outEq
    split at found
    · rename_i open_
      refine ⟨index, rfl, .inr ⟨rfl, found, ?_, ?_⟩⟩
      · intro machine
        rw [machine] at open_
        exact absurd (show false = true from open_) Bool.false_ne_true
      · intro supervisor
        simpa [supervisor] using open_
    · cases found

theorem delegationRule_effective (regFile : RegisterFile) : Effective regFile (delegationRule regFile) := by
  intro target cause taken
  rcases delegationRule_some taken with ⟨index, _, ⟨machine, _, enabled⟩ | ⟨supervisor, _, _, enabled⟩⟩
  · exact .inl ⟨machine, enabled⟩
  · exact .inr ⟨supervisor, enabled⟩

theorem followsRule_iff_eq {s : CPUCore} (legal : Legal s.regFile.privilege) :
    FollowsRule s ↔ codeRule s.regFile = delegationRule s.regFile := by
  unfold FollowsRule
  rw [checkAndHandleInterrupts_eq]
  constructor
  · exact decided_injective legal (codeRule_effective s.regFile) (delegationRule_effective s.regFile)
  · intro same
    rw [same]

/-! ## When the two decisions are the same -/

theorem supervisor_ne_machine : PRV_S ≠ PRV_M := by
  decide

theorem levels_disjoint : forall index, index ∈ machineLevel -> index ∉ supervisorLevel := by
  decide

theorem causeOf_injective : forall left, left ∈ priorities -> forall right, right ∈ priorities ->
    causeOf left = causeOf right -> left = right := by
  decide

theorem same_iff_machine {regFile : RegisterFile} (machine : regFile.privilege = PRV_M) :
    codeRule regFile = delegationRule regFile ↔ RoutedAlike regFile := by
  have rule : delegationRule regFile = (if hasBit regFile.mstatus MSTATUS_MIE
      then highest (enabledPending regFile &&& ~~~regFile.mideleg) else none).map
        (fun index => (PRV_M, causeOf index)) := by
    unfold delegationRule
    simp only [machine]
    cases hasBit regFile.mstatus MSTATUS_MIE with
    | false => rfl
    | true => cases highest (enabledPending regFile &&& ~~~regFile.mideleg) <;> rfl
  unfold codeRule RoutedAlike
  rw [rule]
  simp only [if_pos machine]
  cases hasBit regFile.mstatus MSTATUS_MIE with
  | false => simp
  | true =>
      simp only [if_true, true_implies]
      cases found : highest (enabledPending regFile) with
      | none => simp [highest_none_and found]
      | some index =>
          cases delegated : regFile.mideleg.getLsbD index with
          | false =>
              rw [highest_kept found delegated]
              simp [delegated]
          | true =>
              constructor
              · intro same
                simp only [delegated, Option.map_some, if_true] at same
                cases other : highest (enabledPending regFile &&& ~~~regFile.mideleg) with
                | none =>
                    rw [other] at same
                    cases same
                | some index' =>
                    rw [other] at same
                    exact absurd (congrArg Prod.fst (Option.some.inj same)) supervisor_ne_machine
              · intro kept
                exact absurd (delegated.symm.trans (kept index rfl)) (by decide)

theorem same_iff_lower {regFile : RegisterFile} (lower : regFile.privilege = PRV_U ∨ regFile.privilege = PRV_S) :
    codeRule regFile = delegationRule regFile ↔ RoutedAlike regFile := by
  have notMachine : regFile.privilege ≠ PRV_M := by
    rcases lower with same | same <;> rw [same] <;> decide
  have below : regFile.privilege < PRV_M := by
    rcases lower with same | same <;> rw [same] <;> decide
  unfold codeRule RoutedAlike delegationRule
  simp only [if_neg notMachine, below, decide_true, Bool.true_or, if_true]
  cases toMachine : highest (enabledPending regFile &&& ~~~regFile.mideleg) with
  | some index =>
      simp only [reduceCtorEq, false_and, iff_false]
      intro same
      rcases Option.map_eq_some_iff.mp same with ⟨_, _, pairEq⟩
      exact absurd (congrArg Prod.fst pairEq) supervisor_ne_machine
  | none =>
      rw [highest_delegated toMachine]
      simp only [true_and]
      cases enabled : hasBit regFile.mstatus MSTATUS_SIE with
      | false =>
          simp only [Bool.false_eq_true, if_false, Option.map_none, Bool.and_false, Bool.or_false]
          rcases lower with user | supervisor
          · rw [user]
            cases highest (enabledPending regFile) <;> simp
          · rw [supervisor]
            simp
      | true =>
          have open_ : (decide (regFile.privilege = PRV_U) || (decide (regFile.privilege = PRV_S) && true)) = true := by
            rcases lower with same | same <;> rw [same] <;> decide
          simp only [if_true, open_]
          rw [highest_eq (enabledPending regFile)]
          cases machineFirst : machineLevel.find? (fun index => (enabledPending regFile).getLsbD index) with
          | none => simp
          | some index =>
              simp only [Option.some_or, Option.map_some, reduceCtorEq, iff_false]
              intro same
              rcases Option.map_eq_some_iff.mp same with ⟨seen, found, pairEq⟩
              have seenMember := highest_mem found
              have member := List.mem_of_find?_eq_some machineFirst
              have sameIndex := causeOf_injective seen seenMember index (List.mem_append_left supervisorLevel member)
                (congrArg Prod.snd pairEq)
              rw [highest_view] at found
              exact levels_disjoint index member (sameIndex ▸ List.mem_of_find?_eq_some found)

/-- In every state of legal privilege, the code takes the interrupt that the
delegation rules take, exactly if none is masked, misrouted or passed over. -/
theorem interrupt_routing_iff (s : CPUCore) (legal : Legal s.regFile.privilege) :
    FollowsRule s ↔ RoutedAlike s.regFile := by
  rw [followsRule_iff_eq legal]
  rcases legal with user | supervisor | machine
  · exact same_iff_lower (.inl user)
  · exact same_iff_lower (.inr supervisor)
  · exact same_iff_machine machine

/-- A machine timer interrupt that is not delegated, taken in M mode. -/
theorem interrupt_routing_iff_timer :
    FollowsRule { regFile := { mstatus := MSTATUS_MIE, mie := MIP_MTIP, mip := MIP_MTIP } } := by
  refine (interrupt_routing_iff _ (.inr (.inr rfl))).mpr ?_
  intro _ index found
  cases found
  rfl

/-- The same interrupt delegated: M mode goes to the S-mode handler for it,
which lowers the privilege. -/
theorem delegated_interrupt_leaves_machine :
    ({ regFile := { mstatus := MSTATUS_MIE, mie := MIP_MTIP, mip := MIP_MTIP, mideleg := MIP_MTIP } } :
      CPUCore).checkAndHandleInterrupts.regFile.privilege = PRV_S ∧
      delegationRule { mstatus := MSTATUS_MIE, mie := MIP_MTIP, mip := MIP_MTIP, mideleg := MIP_MTIP } = none ∧
      ¬FollowsRule { regFile := { mstatus := MSTATUS_MIE, mie := MIP_MTIP, mip := MIP_MTIP, mideleg := MIP_MTIP } } := by
  refine ⟨rfl, rfl, ?_⟩
  intro same
  exact absurd (congrArg (fun t : CPUCore => t.regFile.privilege) same) supervisor_ne_machine

end Privilege
end SimpleRV
