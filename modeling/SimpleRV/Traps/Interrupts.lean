import SimpleRV.Pipeline.WellFormed

namespace SimpleRV
namespace Traps

open CPUCore RegisterFile Pipeline Iteration

/-!
# The address that an interrupt saves

`checkAndHandleInterrupts` runs first in a tick.  It flushes IF/ID and ID/EX,
neither of which has been executed, and saves the fetch pc.  The oldest of the
discarded instructions is in ID/EX if that latch is in use.  The fetch pc is
its address in two situations only: nothing was discarded, or a branch was
predicted taken to a place from which fetch has just come back to the branch.
-/

/-- The EPC of the mode that a handler runs in. -/
def epc (regFile : RegisterFile) : Addr :=
  if regFile.privilege = PRV_S then regFile.sepc else regFile.mepc

/-- The return instruction of that mode, SRET or MRET. -/
def handlerReturn (regFile : RegisterFile) : RegisterFile × Addr :=
  if regFile.privilege = PRV_S then regFile.sret else regFile.mret

theorem handlerReturn_target (regFile : RegisterFile) : (handlerReturn regFile).2 = epc regFile := by
  unfold handlerReturn epc
  split
  · rfl
  · rfl

end Traps
end SimpleRV
