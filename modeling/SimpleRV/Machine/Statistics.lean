import SimpleRV.Machine.CPUCore

namespace SimpleRV

/-!
# Performance counters

`PipelineStats`, `cycle_count` and the places where the stages count.  No stage
reads a counter, so the counters stand beside the core: a tick of the profiled
core is a tick of the core that also counts.  They are natural numbers here,
where the source has 64 bits for each: the report of the source is this one in
every run that is too short to wrap them.
-/

structure PipelineStats where
  dualIssues : Nat := 0
  singleIssues : Nat := 0
  stallCycles : Nat := 0
  branchesPredicted : Nat := 0
  branchesMispredicted : Nat := 0
  branchFlushes : Nat := 0
  loadUseStalls : Nat := 0
  interruptFlushes : Nat := 0
  memoryPortConflicts : Nat := 0
deriving DecidableEq, Repr

namespace PipelineStats

open IssueUnit CPUCore

/-- `checkAndHandleInterrupts` counts the interrupt that it takes. -/
def countInterrupt (stats : PipelineStats) (regFile : RegisterFile) : PipelineStats :=
  if (selectInterrupt regFile).isSome then { stats with interruptFlushes := stats.interruptFlushes + 1 } else stats

/-- What `execute` counts at the branch in slot 0 of EX/MEM: every branch that
is taken, and every wrong prediction. -/
def countBranch (stats : PipelineStats) (brSlot : PipelineSlot) : PipelineStats :=
  if brSlot.valid && brSlot.d.isBranch then
    let stats := { stats with branchFlushes := stats.branchFlushes + 1 }
    if !brSlot.d.predictedTaken then { stats with branchesMispredicted := stats.branchesMispredicted + 1 }
    else stats
  else if brSlot.valid && brSlot.d.predictedTaken then
    { stats with branchesMispredicted := stats.branchesMispredicted + 1 }
  else stats

/-- `canIssueTogether` counts the pairs that both access memory. -/
def countConflict (stats : PipelineStats) (i0 i1 : DecodedData) : PipelineStats :=
  if i0.isMemory && i1.isMemory then { stats with memoryPortConflicts := stats.memoryPortConflicts + 1 } else stats

/-- What `IssueUnit::decodeAndIssue` counts, branch by branch. -/
def countIssue (stats : PipelineStats) (ifId : IfIdBuffer) (idEx : IdExBuffer) : PipelineStats :=
  if !ifId.slots.s0.valid then stats
  else
    let s0 := decodeInstruction ifId.slots.s0
    let s1 := decodeInstruction ifId.slots.s1
    if crossCycleStall idEx ⟨s0, s1⟩ then { stats with loadUseStalls := stats.loadUseStalls + 1 }
    else if s0.d.isBranch && s0.d.predictedTaken then
      { stats with branchesPredicted := stats.branchesPredicted + 1 }
    else if s1.valid then stats.countConflict s0.d s1.d
    else stats

/-- What `CPUCore::decodeAndIssue` counts, from the slots of the new ID/EX. -/
def countSlots (stats : PipelineStats) (slots : Dual PipelineSlot) : PipelineStats :=
  if slots.s0.valid && slots.s1.valid then { stats with dualIssues := stats.dualIssues + 1 }
  else if slots.s0.valid then { stats with singleIssues := stats.singleIssues + 1 }
  else { stats with stallCycles := stats.stallCycles + 1 }

end PipelineStats

/-- The core with the counters that `dumpState` prints. -/
structure ProfiledCore where
  core : CPUCore
  cycleCount : Nat := 0
  stats : PipelineStats := {}

namespace ProfiledCore

open CPUCore

/-- `tick`, with its counters.  The branch in slot 0 is counted as the engine
has left it. -/
def tick (p : ProfiledCore) : Except Crash ProfiledCore :=
  let timed := p.core.updateTimer
  let stats := p.stats.countInterrupt timed.regFile
  if !p.core.running then .ok { p with core := timed.checkAndHandleInterrupts, stats := stats }
  else do
    let (e, _) ← timed.checkAndHandleInterrupts.writeBack.memoryAccess
    let stats := stats.countBranch e.runEngine.exMem.slots.s0
    let x := e.execute
    let y := x.decodeAndIssue
    let stats := (stats.countIssue x.ifId x.idEx).countSlots y.idEx.slots
    let t ← y.fetch
    return { core := t, cycleCount := p.cycleCount + 1, stats := stats }

/-- The body of the loop `while (running) tick()`: nothing once it has ended. -/
def loop (p : ProfiledCore) : Except Crash ProfiledCore :=
  if p.core.running then p.tick else .ok p

end ProfiledCore

end SimpleRV
