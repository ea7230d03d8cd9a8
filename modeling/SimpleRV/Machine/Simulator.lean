import SimpleRV.Machine.CPUCore

namespace SimpleRV

/-!
# The simulator around the core

`load_program`, `init` on any core, the loop of `run`, and `main`.  A file is
its bytes, or nothing if it cannot be opened.  The loop takes fuel, and `none`
stands for a run that is still going on.  What is printed is left out.
-/

/-- `MemorySystem::load_program`: as much of the file as there is memory. -/
def MemorySystem.loadProgram (mem : MemorySystem) (file : Option (List Byte)) : Except Crash MemorySystem :=
  match file with
  | none => .error (.runtimeError "Failed to open program file")
  | some bytes =>
      let fileSize := if bytes.length > MEMORY_SIZE.toNat then MEMORY_SIZE.toNat else bytes.length
      .ok { mem with memory := fun addr =>
        if addr.toNat < fileSize then bytes.getD addr.toNat 0 else mem.memory addr }

namespace CPUCore

/-- `CPUCore::init` on any core.  The CLINT, the TLB and the rest of RAM are
left as they were. -/
def initProgram (s : CPUCore) (config : SystemConfig) (file : Option (List Byte)) : Except Crash CPUCore := do
  let memory ← s.memory.loadProgram file
  return {
    memory := memory
    regFile := (({} : RegisterFile).writeRd 2 config.spInit true).writeCsr CSR_MTVEC config.mtvecInit
    pc := config.pcInit }

/-- The loop of `CPUCore::run`. -/
def run : Nat -> CPUCore -> Except Crash (Option CPUCore)
  | fuel, s =>
      if !s.running then .ok (some s)
      else
        match fuel with
        | 0 => .ok none
        | fuel + 1 => s.tick.bind (run fuel)

end CPUCore

/-- How `main` ends. -/
inductive Ended where
  | usage
  | crashed (crash : Crash)
  | halted (core : CPUCore)

/-- What `main` returns.  An access outside the memory vector is not caught:
there the behaviour is undefined. -/
def Ended.exitCode : Ended -> Option Nat
  | usage => some 1
  | crashed (.runtimeError _) => some 1
  | crashed .outOfRange => none
  | halted _ => some 0

/-- `main`, with the files and the keyboard of its host. -/
def main (fuel : Nat) (argv : List String) (files : String -> Option (List Byte)) (keyboard : HostKeyboard) :
    Option Ended :=
  match argv with
  | _ :: programPath :: _ =>
      let cpu : CPUCore := { memory := { keyboard := keyboard } }
      match cpu.initProgram .default128MB (files programPath) with
      | .error crash => some (.crashed crash)
      | .ok cpu =>
          match cpu.run fuel with
          | .error crash => some (.crashed crash)
          | .ok none => none
          | .ok (some halted) => some (.halted halted)
  | _ => some .usage

end SimpleRV
