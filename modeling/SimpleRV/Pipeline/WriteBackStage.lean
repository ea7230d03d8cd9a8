import SimpleRV.Pipeline.Decode

namespace SimpleRV
namespace Pipeline

open IssueUnit CPUCore

/-!
# The write-back stage

Write-back as a list of register writes, and the instructions it counts.
-/

/-- Write-back changes registers, the count of instructions and `running`. -/
theorem writeBackLane_frame (s : CPUCore) (lane : Fin 2) :
    Exists fun regFile => Exists fun count => Exists fun running =>
      s.writeBackLane lane = { s with regFile := regFile, instrCount := count, running := running } := by
  unfold writeBackLane
  simp only
  split
  · exact ⟨s.regFile, s.instrCount, s.running, rfl⟩
  · split
    · exact ⟨s.regFile, s.instrCount, false, rfl⟩
    · exact ⟨_, _, s.running, rfl⟩

theorem writeBack_frame (s : CPUCore) : Exists fun regFile => Exists fun count => Exists fun running =>
    s.writeBack = { s with regFile := regFile, instrCount := count, running := running } := by
  rcases writeBackLane_frame s 0 with ⟨regFile0, count0, running0, eq0⟩
  rcases writeBackLane_frame (s.writeBackLane 0) 1 with ⟨regFile1, count1, running1, eq1⟩
  exact ⟨regFile1, count1, running1, by rw [writeBack, eq1, eq0]⟩

/-- The register write of a slot in MEM/WB, if it performs one. -/
def slotWrites (slot : PipelineSlot) : List (RegNum × Word) :=
  if slot.valid && !isHalt slot.instr && slot.regWrite && slot.rd != 0 then [(slot.rd, slot.result)] else []

/-- The register writes of `writeBack`, in the order in which it makes them. -/
def registerWrites (memWb : MemWbBuffer) : List (RegNum × Word) :=
  slotWrites memWb.slots.s0 ++ slotWrites memWb.slots.s1

def applyWrites (gpr : RegNum -> Word) (writes : List (RegNum × Word)) : RegNum -> Word :=
  writes.foldl (fun gpr write => Function.update gpr write.1 write.2) gpr

theorem applyWrites_append (gpr : RegNum -> Word) (first second : List (RegNum × Word)) :
    applyWrites gpr (first ++ second) = applyWrites (applyWrites gpr first) second :=
  List.foldl_append

/-- A register write is an update of the array, unless it is to `x0`. -/
theorem writeRd_eq (regFile : RegisterFile) (rd : RegNum) (data : Word) (regWrite : Bool) :
    regFile.writeRd rd data regWrite =
      { regFile with gpr := applyWrites regFile.gpr (if regWrite && rd != 0 then [(rd, data)] else []) } := by
  unfold RegisterFile.writeRd
  split
  · congr 1
    funext index
    simp only [applyWrites, List.foldl_cons, List.foldl_nil, Function.update_apply]
  · rfl

theorem writeBackLane_regFile (s : CPUCore) (lane : Fin 2) : (s.writeBackLane lane).regFile =
    { s.regFile with gpr := applyWrites s.regFile.gpr (slotWrites (s.memWb.slots.get lane)) } := by
  unfold writeBackLane slotWrites
  cases valid : (s.memWb.slots.get lane).valid with
  | false => simp [valid, applyWrites]
  | true =>
      cases halts : isHalt (s.memWb.slots.get lane).instr with
      | true => simp [valid, halts, applyWrites]
      | false => simp [valid, halts, writeRd_eq]

/-- The registers after write-back. -/
theorem writeBack_regFile (s : CPUCore) : s.writeBack.regFile =
    { s.regFile with gpr := applyWrites s.regFile.gpr (registerWrites s.memWb) } := by
  rcases writeBackLane_frame s 0 with ⟨regFile, count, running, frame⟩
  have first := writeBackLane_regFile s 0
  have second := writeBackLane_regFile (s.writeBackLane 0) 1
  rw [first] at second
  rw [writeBack, second, registerWrites, applyWrites_append, frame]
  rfl

end Pipeline
end SimpleRV
