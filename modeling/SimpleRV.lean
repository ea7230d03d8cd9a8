import SimpleRV.Reference.Sequential
import SimpleRV.Isa.Execution
import SimpleRV.Memory.StoreLoad
import SimpleRV.Memory.LoadValues
import SimpleRV.Translation.Sv32
import SimpleRV.Translation.UniqueEntries
import SimpleRV.Translation.FenceOrder
import SimpleRV.Pipeline.IssueOnce
import SimpleRV.Pipeline.LatchRules
import SimpleRV.Traps.Interrupts
import SimpleRV.Traps.DataAccess
import SimpleRV.Traps.ExecuteTraps
import SimpleRV.Traps.InstructionFetch
import SimpleRV.Traps.Encodings
import SimpleRV.Traps.InterruptedAccess
import SimpleRV.Traps.TrapRecord
import SimpleRV.Privilege.InterruptRouting
import SimpleRV.Privilege.LegalLevels
import SimpleRV.Privilege.Escalation
import SimpleRV.Privilege.PcAlignment
import SimpleRV.Privilege.TimerLine
import SimpleRV.Refinement.SequentialOperands
import SimpleRV.Refinement.OrdinaryPrograms
import SimpleRV.Refinement.SystemPrograms
import SimpleRV.Refinement.VirtualFetch
import SimpleRV.Refinement.StoredCode
import SimpleRV.Refinement.SlotAddresses
import SimpleRV.Halting.PreciseHalt
import SimpleRV.Performance.PathCounters
import SimpleRV.Programs.Fibonacci
import SimpleRV.Halting.EndlessRuns
import SimpleRV.Halting.AbnormalEnds
import SimpleRV.Memory.Traffic
import SimpleRV.Memory.Console
import SimpleRV.Translation.Replacement
import SimpleRV.Translation.Secrecy
import SimpleRV.Translation.Availability
import SimpleRV.Privilege.Preemption
