import SimpleRV.Library.BitFields
import SimpleRV.Pipeline.WellFormed
import SimpleRV.Privilege.ControlEvents

namespace SimpleRV
namespace Traps

open IssueUnit CPUCore Pipeline Iteration

/-!
# Which words are instructions

The encodings of RV32I, FENCE.I, Zicsr and the privileged instructions, written
down from their formats, against the words that the decoder lets through.  The
decoder looks at the opcode and, for SYSTEM words, at `funct3 = 0` and
`funct12`; everything else that makes an encoding reserved it passes over.
-/

/-! ## Formats -/

def opcodeOf (instr : Word) : BitVec 7 := instr.extractLsb' 0 7
def rdOf (instr : Word) : BitVec 5 := instr.extractLsb' 7 5
def funct3Of (instr : Word) : BitVec 3 := instr.extractLsb' 12 3
def rs1Of (instr : Word) : BitVec 5 := instr.extractLsb' 15 5
def funct7Of (instr : Word) : BitVec 7 := instr.extractLsb' 25 7
def funct12Of (instr : Word) : BitVec 12 := instr.extractLsb' 20 12

/-- The values of `funct12` of ECALL, EBREAK, SRET, WFI and MRET. -/
def privileged : List (BitVec 12) := [0x000, 0x001, 0x102, 0x105, 0x302]

/-- SFENCE.VMA, with any `rs1` and `rs2`. -/
def isSfenceVma (instr : Word) : Bool :=
  opcodeOf instr == 0x73 && funct3Of instr == 0 && funct7Of instr == 0x09 && rdOf instr == 0

/-- The word encodes an instruction. -/
def validEncoding (instr : Word) : Bool :=
  match opcodeOf instr with
  -- LUI, AUIPC, JAL
  | 0x37#7 => true
  | 0x17#7 => true
  | 0x6F#7 => true
  -- JALR, conditional branches, loads, stores
  | 0x67#7 => funct3Of instr == 0
  | 0x63#7 => funct3Of instr != 2 && funct3Of instr != 3
  | 0x03#7 => funct3Of instr != 3 && funct3Of instr != 6 && funct3Of instr != 7
  | 0x23#7 => funct3Of instr == 0 || funct3Of instr == 1 || funct3Of instr == 2
  -- register-immediate operations: the shifts have a `funct7`
  | 0x13#7 =>
      if funct3Of instr = 1 then funct7Of instr == 0
      else if funct3Of instr = 5 then funct7Of instr == 0 || funct7Of instr == 0x20
      else true
  | 0x33#7 => funct7Of instr == 0 || (funct7Of instr == 0x20 && (funct3Of instr == 0 || funct3Of instr == 5))
  -- FENCE and FENCE.I, whose other fields are ignored
  | 0x0F#7 => funct3Of instr == 0 || funct3Of instr == 1
  | 0x73#7 =>
      if funct3Of instr = 0 then
        rdOf instr == 0 && (funct7Of instr == 0x09 || (rs1Of instr == 0 && privileged.contains (funct12Of instr)))
      else funct3Of instr != 4
  | _ => false

/-- The words that the decoder gets wrong, by opcode. -/
def misdecoded (instr : Word) : Bool :=
  match opcodeOf instr with
  -- passed for the sake of unprogrammed memory
  | 0x00#7 => true
  | 0x67#7 => funct3Of instr != 0
  | 0x63#7 => funct3Of instr == 2 || funct3Of instr == 3
  | 0x03#7 => funct3Of instr == 3 || funct3Of instr == 6 || funct3Of instr == 7
  | 0x23#7 => funct3Of instr != 0 && funct3Of instr != 1 && funct3Of instr != 2
  | 0x13#7 => (funct3Of instr == 1 && funct7Of instr != 0) ||
      (funct3Of instr == 5 && funct7Of instr != 0 && funct7Of instr != 0x20)
  | 0x33#7 => funct7Of instr != 0 && !(funct7Of instr == 0x20 && (funct3Of instr == 0 || funct3Of instr == 5))
  | 0x0F#7 => funct3Of instr != 0 && funct3Of instr != 1
  | 0x73#7 =>
      if funct3Of instr = 0 then
        -- the value taken for SFENCE.VMA, stray register fields, and the real SFENCE.VMA
        if funct12Of instr = 0x104 then true
        else if privileged.contains (funct12Of instr) then !(rdOf instr == 0 && rs1Of instr == 0)
        else rdOf instr == 0 && funct7Of instr == 0x09
      else funct3Of instr == 4
  | _ => false

/-! ## The decoder -/

/-- The words that the decoder lets through. -/
def switchAccepts (instr : Word) : Bool :=
  match opcodeOf instr with
  | 0x73#7 => funct3Of instr != 0 || funct12Of instr == 0x104 || privileged.contains (funct12Of instr)
  | 0x00#7 => true
  | 0x0F#7 => true
  | 0x33#7 => true
  | 0x13#7 => true
  | 0x03#7 => true
  | 0x23#7 => true
  | 0x63#7 => true
  | 0x37#7 => true
  | 0x17#7 => true
  | 0x6F#7 => true
  | 0x67#7 => true
  | _ => false

theorem decodeFields_eq (instr : Word) : (decodeFields instr).op = opcodeOf instr ∧
    (decodeFields instr).funct3 = funct3Of instr := by
  refine ⟨?_, BitFields.setWidth_shiftRight instr 12 3⟩
  have whole := BitFields.setWidth_shiftRight instr 0 7
  rw [BitVec.ushiftRight_zero] at whole
  exact whole

theorem decodeSystem_isIllegal (instr : Word) {d : DecodedData} (plain : d.isIllegal = false) :
    (decodeSystem instr d).isIllegal =
      !(d.funct3 != 0 || funct12Of instr == 0x104 || privileged.contains (funct12Of instr)) := by
  have funct12 : (instr >>> 20).setWidth 12 = funct12Of instr := BitFields.setWidth_shiftRight instr 20 12
  unfold decodeSystem
  rw [funct12]
  by_cases zero : d.funct3 = 0
  · rw [if_pos zero, zero]
    split
    case h_7 => simp_all [privileged]
    all_goals
      rename_i here
      rw [here]
      first | rfl | exact plain
  · rw [if_neg zero, bne_iff_ne.mpr zero]
    exact plain

/-- The decoder flags the words that its switch does not name. -/
theorem decode_isIllegal (instr : Word) : (decode instr).isIllegal = !switchAccepts instr := by
  rcases decodeFields_eq instr with ⟨op, funct3⟩
  change (decodeOpcode instr (decodeFields instr)).isIllegal = _
  unfold decodeOpcode switchAccepts
  rw [op]
  split
  case h_10 here =>
    rw [here, decodeSystem_isIllegal instr rfl, funct3]
    rfl
  case h_13 =>
    split
    case h_13 => rfl
    all_goals contradiction
  all_goals
    rename_i here
    rw [here]
    rfl

theorem funct7Of_eq (instr : Word) : funct7Of instr = (funct12Of instr).extractLsb' 5 7 := by
  apply BitVec.eq_of_getLsbD_eq
  intro i below
  have inside : 5 + i < 12 := by omega
  simp only [funct7Of, funct12Of, BitVec.getLsbD_extractLsb', inside, decide_true, Bool.true_and, ← Nat.add_assoc]

/-- None of the values that the decoder knows, SFENCE.VMA's own included, has
the `funct7` of SFENCE.VMA. -/
theorem known_funct7 (funct12 : BitVec 12) (known : funct12 = 0x104 ∨ privileged.contains funct12 = true) :
    (funct12.extractLsb' 5 7 == 0x09) = false := by
  rcases known with same | known
  · rw [same]
    rfl
  · simp only [privileged, List.contains_eq_mem, List.mem_cons, List.not_mem_nil, or_false,
      decide_eq_true_eq] at known
    rcases known with same | same | same | same | same
    all_goals
      rw [same]
      rfl

/-- The decoder and the manuals agree on all other words. -/
theorem misdecoded_iff (instr : Word) : misdecoded instr = false ↔ switchAccepts instr = validEncoding instr := by
  have known := known_funct7 (funct12Of instr)
  rw [← funct7Of_eq] at known
  unfold misdecoded switchAccepts validEncoding
  generalize opcodeOf instr = op
  split
  case h_9 =>
    simp only
    by_cases zero : funct3Of instr = 0
    · rw [if_pos zero, if_pos zero, zero]
      by_cases old : funct12Of instr = 0x104
      · rw [if_pos old, known (.inl old), old]
        simp [privileged]
      · rw [if_neg old, beq_false_of_ne old]
        cases listed : privileged.contains (funct12Of instr) with
        | true =>
            rw [known (.inr listed)]
            grind
        | false => grind
    · rw [if_neg zero, if_neg zero]
      grind
  case h_10 =>
    split
    case h_13 =>
      split
      case h_12 => exact iff_of_true rfl rfl
      all_goals contradiction
    all_goals first | contradiction | exact iff_of_true rfl rfl
  all_goals
    simp only
    grind

/-- The real SFENCE.VMA is among the words that the decoder gets wrong. -/
theorem isSfenceVma_misdecoded {instr : Word} (fence : isSfenceVma instr = true) : misdecoded instr = true := by
  have known := known_funct7 (funct12Of instr)
  rw [← funct7Of_eq] at known
  simp only [isSfenceVma, Bool.and_eq_true, beq_iff_eq] at fence
  rcases fence with ⟨⟨⟨opcode, zero⟩, funct7⟩, rd⟩
  rw [funct7] at known
  have old : funct12Of instr ≠ 0x104 := fun same => absurd (known (.inl same)) (by decide)
  have unlisted : privileged.contains (funct12Of instr) = false := by
    cases listed : privileged.contains (funct12Of instr) with
    | true => exact absurd (known (.inr listed)) (by decide)
    | false => rfl
  simp only [misdecoded, opcode, if_pos zero, if_neg old, unlisted, rd, funct7]
  rfl

/-- No word is flagged and taken for an ECALL. -/
theorem decode_isEcall {instr : Word} (illegal : (decode instr).isIllegal = true) :
    (decode instr).isEcall = false := by
  change (decodeOpcode instr (decodeFields instr)).isIllegal = true at illegal
  change (decodeOpcode instr (decodeFields instr)).isEcall = false
  unfold decodeOpcode at illegal ⊢
  split
  case h_10 =>
    unfold decodeSystem
    split
    · split
      case h_1 =>
        simp_all only [decodeSystem]
        exact absurd illegal Bool.false_ne_true
      all_goals rfl
    · rfl
  all_goals rfl

/-! ## Executing an illegal word -/

theorem handleTrap_gpr (regFile : RegisterFile) (epc cause tval : Word) :
    (regFile.handleTrap epc cause tval).1.gpr = regFile.gpr := by
  unfold RegisterFile.handleTrap
  simp only
  split
  · rfl
  · rfl

theorem commitCsrLane_gpr (s : CPUCore) (lane : Fin 2) : (s.commitCsrLane lane).regFile.gpr = s.regFile.gpr := by
  unfold commitCsrLane
  simp only
  split
  · exact (Privilege.writeCsr_frame _ _ _).1
  · rfl

/-- Up to the trap check the stage writes no general register. -/
theorem executeResolved_gpr (x : CPUCore) : x.executeResolved.regFile.gpr = x.regFile.gpr := by
  have resolved : x.executeResolved.regFile = (committed x).regFile := by
    have resolution := executeResolved_resolution x
    generalize x.executeResolved = y at resolution
    cases resolution <;> rfl
  have sfence : forall (y : CPUCore) lane, (y.commitSfenceLane lane).regFile = y.regFile :=
    fun y lane => congrArg Prod.fst (Privilege.commitSfenceLane_control y lane)
  rw [resolved, committed, sfence, sfence, commitCsrLane_gpr, commitCsrLane_gpr]
  rfl

/-- The illegal-instruction trap that a lane takes in EX.  `x` is the core when
`execute` is called. -/
structure TakesIllegalTrap (x : CPUCore) (lane : Fin 2) (instr : Word) : Prop where
  entered : x.execute = x.executeResolved.handleTrap
    (x.executeResolved.exMem.pc + BitVec.ofNat 32 (4 * lane.val)) MCAUSE_ILLEGAL instr
  /-- Neither now nor behind the memory stage. -/
  registers : x.execute.regFile.gpr = x.regFile.gpr
  removed : (x.execute.exMem.slots.get lane).valid = false
  storage : SameStorage x.memory x.execute.memory

/-- The word is executed in this lane: no older branch or trap takes it away. -/
structure Executed (x : CPUCore) (lane : Fin 2) (instr : Word) : Prop where
  valid : (x.executeResolved.exMem.slots.get lane).valid = true
  word : (x.executeResolved.exMem.slots.get lane).instr = instr
  olderPasses : lane = 1 -> trapsInEx x.executeResolved.exMem.slots.s0.d = false

/-- The first lane that traps is found. -/
theorem trapLane_of_first {exMem : ExMemBuffer} {lane : Fin 2} (valid0 : exMem.slots.s0.valid = true)
    (valid : (exMem.slots.get lane).valid = true) (traps : trapsInEx (exMem.slots.get lane).d = true)
    (first : lane = 1 -> trapsInEx exMem.slots.s0.d = false) : trapLane exMem = some lane := by
  cases lane using laneCases with
  | zero =>
      rw [Dual.get_zero] at traps
      simp [trapLane, valid0, traps]
  | one =>
      rw [Dual.get_one] at valid traps
      simp [trapLane, valid0, valid, traps, first rfl]

/-- Executing a word that the decoder flags takes the illegal-instruction trap. -/
theorem takesIllegalTrap {s x : CPUCore} {lane : Fin 2} {instr : Word} (reachable : Reachable s)
    (reached : s.atExecute = .ok x) (executed : Executed x lane instr)
    (illegal : (decode instr).isIllegal = true) : TakesIllegalTrap x lane instr := by
  have pair := (executeResolved_wellFormed (atExecute_wellFormed reachable.wellFormed reached)).2.1
  have ran := pair.ran lane executed.valid
  rw [← executed.word] at illegal ⊢
  have notEcall : (x.executeResolved.exMem.slots.get lane).d.isEcall = false := by
    rw [ran.d]
    exact decode_isEcall illegal
  have flagged : (x.executeResolved.exMem.slots.get lane).d.isIllegal = true := by
    rw [ran.d]
    exact illegal
  have valid0 : x.executeResolved.exMem.slots.s0.valid = true := by
    cases lane using laneCases with
    | zero => exact executed.valid
    | one => exact pair.ordered executed.valid
  have taken := trapLane_of_first valid0 executed.valid (by simp [trapsInEx, flagged]) executed.olderPasses
  have entered : x.execute = x.executeResolved.handleTrap
      (x.executeResolved.exMem.pc + BitVec.ofNat 32 (4 * lane.val)) MCAUSE_ILLEGAL
      (x.executeResolved.exMem.slots.get lane).instr := by
    rw [execute, handleSlotTraps_some taken, handleTrap_eq, trapTarget,
      if_neg (ne_true_of_eq_false notEcall), if_pos flagged]
  refine ⟨entered, ?_, ?_, execute_sameStorage x⟩
  · rw [entered, handleTrap_eq]
    exact (handleTrap_gpr _ _ _ _).trans (executeResolved_gpr x)
  · rw [entered]
    cases lane using laneCases with
    | zero => rfl
    | one => rfl

/-! ## The words that the decoder gets right -/

/-- The decoder treats the word as the manuals ask. -/
structure FollowsManual (instr : Word) : Prop where
  illegal : (decode instr).isIllegal = true ↔ validEncoding instr = false
  traps : (decode instr).isIllegal = true -> forall s x lane, Reachable s -> s.atExecute = .ok x ->
    Executed x lane instr -> TakesIllegalTrap x lane instr
  fence : isSfenceVma instr = true -> (decode instr).isSfence = true

theorem follows_manual_iff (instr : Word) : FollowsManual instr ↔ misdecoded instr = false := by
  have flag : ((decode instr).isIllegal = true ↔ validEncoding instr = false) ↔
      switchAccepts instr = validEncoding instr := by
    rw [decode_isIllegal, Bool.not_eq_true', Bool.eq_false_iff, Bool.eq_false_iff, not_iff_not]
    exact Bool.eq_iff_iff.symm
  constructor
  · intro follows
    exact (misdecoded_iff instr).mpr (flag.mp follows.illegal)
  · intro decoded
    refine ⟨flag.mpr ((misdecoded_iff instr).mp decoded), ?_, ?_⟩
    · intro illegal s x lane reachable reached executed
      exact takesIllegalTrap reachable reached executed illegal
    · intro fence
      exact absurd (decoded.symm.trans (isSfenceVma_misdecoded fence)) Bool.false_ne_true

/-- `mul x0, x0, x0` and a SYSTEM word with `funct3 = 4` pass for instructions,
and `sfence.vma x0, x0` does not. -/
theorem reserved_words_accepted :
    (validEncoding 0x02000033#32 = false ∧ (decode 0x02000033#32).isIllegal = false) ∧
      (validEncoding 0x00004073#32 = false ∧ (decode 0x00004073#32).isIllegal = false) ∧
      (isSfenceVma 0x12000073#32 = true ∧ (decode 0x12000073#32).isIllegal = true) ∧
      ¬forall instr, instr ≠ 0 -> instr ≠ 0x00100073#32 -> FollowsManual instr := by
  have mul : validEncoding 0x02000033#32 = false ∧ (decode 0x02000033#32).isIllegal = false := by
    decide
  refine ⟨mul, by decide, by decide, ?_⟩
  intro follows
  have illegal := (follows 0x02000033#32 (by decide) (by decide)).illegal.mpr mul.1
  exact absurd illegal (ne_true_of_eq_false mul.2)

end Traps
end SimpleRV
