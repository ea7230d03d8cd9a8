import SimpleRV.Memory.Operations
import SimpleRV.Pipeline.LatchRules

namespace SimpleRV
namespace Memory

open IssueUnit CPUCore MemorySystem Pipeline Iteration

/-!
# What a tick asks of the memory system

The core changes its memory system through the member functions only.  A tick
advances the timer, makes at most one translated access, flushes the TLB for the
SFENCE instructions in EX, and fetches at most once.  So what holds of every
sequence of operations holds of every run of the core.
-/

/-- The access of a load or a store. -/
inductive AccessTraffic : List Operation -> Prop where
  | nothing : AccessTraffic []
  | faulted (vaddr : Addr) (isWrite : Bool) (satp : Word) (privilege : Byte) :
      AccessTraffic [.translate vaddr isWrite false satp privilege]
  | loaded (vaddr : Addr) (satp : Word) (privilege : Byte) (paddr : Addr) (n : Nat) :
      AccessTraffic [.translate vaddr false false satp privilege, .read paddr n]
  | stored (vaddr : Addr) (satp : Word) (privilege : Byte) (paddr : Addr) (n : Nat) (data : Word) :
      AccessTraffic [.translate vaddr true false satp privilege, .write paddr n data]

/-- A fetch of a pair or of a single word. -/
inductive FetchTraffic : List Operation -> Prop where
  | nothing : FetchTraffic []
  | lookedUp (vaddr : Addr) (satp : Word) (privilege : Byte) :
      FetchTraffic [.translate vaddr false true satp privilege]
  | single (vaddr : Addr) (satp : Word) (privilege : Byte) (paddr : Addr) :
      FetchTraffic [.translate vaddr false true satp privilege, .read paddr 4]
  | pair (vaddr : Addr) (satp : Word) (privilege : Byte) (paddr : Addr) :
      FetchTraffic [.translate vaddr false true satp privilege, .readDoubleInstr paddr]

inductive TickTraffic : List Operation -> Prop where
  | halted : TickTraffic [.incrementTimer]
  | ran (access fetch : List Operation) (flushes : Nat) (data : AccessTraffic access) (front : FetchTraffic fetch)
      (few : flushes <= 2) :
      TickTraffic (.incrementTimer :: (access ++ (List.replicate flushes .tlbFlush ++ fetch)))

theorem perform_single {mem after : MemorySystem} {operation : Operation} (ran : perform mem operation = .ok after) :
    runInputs perform mem [operation] = .ok after := by
  rw [runInputs, ran]
  rfl

/-! ## The memory stage -/

theorem perform_translate {mem after : MemorySystem} {vaddr : Addr} {isWrite isFetch : Bool} {satp : Word}
    {privilege : Byte} {found : TranslationResult}
    (ran : mem.translate vaddr isWrite isFetch satp privilege = .ok (found, after)) :
    runInputs perform mem [.translate vaddr isWrite isFetch satp privilege] = .ok after :=
  perform_single (map_eq_ok.mpr ⟨_, ran, rfl⟩)

theorem perform_read {mem after : MemorySystem} {addr : Addr} {n : Nat} {data : Word}
    (ran : mem.read addr n = .ok (data, after)) : runInputs perform mem [.read addr n] = .ok after :=
  perform_single (map_eq_ok.mpr ⟨_, ran, rfl⟩)

theorem loadAccess_traffic {mem after : MemorySystem} {regFile : RegisterFile} {funct3 : BitVec 3} {addr : Addr}
    {out : Access Word} (ran : loadAccess mem regFile funct3 addr = .ok (out, after)) : Exists fun operations =>
      AccessTraffic operations ∧ runInputs perform mem operations = .ok after := by
  have ends := loadAccess_end ran
  cases ends with
  | misaligned => exact ⟨[], .nothing, rfl⟩
  | faulted found between translated faults => exact ⟨_, .faulted addr false _ _, perform_translate translated⟩
  | loaded found between raw after translated served readOk =>
      exact ⟨_, .loaded addr _ _ found.paddr _, runInputs_trans (perform_translate translated) (perform_read readOk)⟩

theorem storeAccess_traffic {mem after : MemorySystem} {regFile : RegisterFile} {funct3 : BitVec 3} {addr : Addr}
    {data : Word} {out : Access Unit} (ran : storeAccess mem regFile funct3 addr data = .ok (out, after)) :
    Exists fun operations => AccessTraffic operations ∧ runInputs perform mem operations = .ok after := by
  have ends := storeAccess_end ran
  cases ends with
  | misaligned => exact ⟨[], .nothing, rfl⟩
  | faulted found between translated faults => exact ⟨_, .faulted addr true _ _, perform_translate translated⟩
  | stored found between after translated served written =>
      exact ⟨_, .stored addr _ _ found.paddr _ data,
        runInputs_trans (perform_translate translated) (perform_single written)⟩

/-- The lane makes no access. -/
def NoAccess (exMem : ExMemBuffer) (lane : Fin 2) : Prop :=
  (exMem.slots.get lane).valid = true -> exMem.memRead.get lane = false ∧ exMem.memWrite.get lane = false

theorem laneAccess_traffic {s : CPUCore} {lane : Fin 2} {result : Access Word} {mem : MemorySystem}
    (access : laneAccess s lane = .ok (result, mem)) : Exists fun operations =>
      AccessTraffic operations ∧ runInputs perform s.memory operations = .ok mem ∧
        (s.exMem.memRead.get lane = false -> s.exMem.memWrite.get lane = false -> operations = []) := by
  have ends := laneAccess_end access
  cases ends with
  | load reads accessed =>
      rcases loadAccess_traffic accessed with ⟨operations, traffic, ran⟩
      exact ⟨operations, traffic, ran, fun notRead => absurd reads (ne_true_of_eq_false notRead)⟩
  | storeTrap notRead writes accessed =>
      rcases storeAccess_traffic accessed with ⟨operations, traffic, ran⟩
      exact ⟨operations, traffic, ran, fun _ notWrite => absurd writes (ne_true_of_eq_false notWrite)⟩
  | store notRead writes accessed =>
      rcases storeAccess_traffic accessed with ⟨operations, traffic, ran⟩
      exact ⟨operations, traffic, ran, fun _ notWrite => absurd writes (ne_true_of_eq_false notWrite)⟩
  | none notRead notWrite => exact ⟨[], .nothing, rfl, fun _ _ => rfl⟩

theorem LaneOutcome.traffic {s : CPUCore} {lane : Fin 2} {out : CPUCore × Bool} (outcome : LaneOutcome s lane out) :
    Exists fun operations => AccessTraffic operations ∧ runInputs perform s.memory operations = .ok out.1.memory ∧
      (NoAccess s.exMem lane -> operations = []) := by
  cases outcome with
  | empty invalid => exact ⟨[], .nothing, rfl, fun _ => rfl⟩
  | finished value mem valid access =>
      rcases laneAccess_traffic access with ⟨operations, traffic, ran, idle⟩
      exact ⟨operations, traffic, ran, fun none => idle (none valid).1 (none valid).2⟩
  | trapped cause mem valid access =>
      rcases laneAccess_traffic access with ⟨operations, traffic, ran, idle⟩
      exact ⟨operations, traffic, ran, fun none => idle (none valid).1 (none valid).2⟩

/-- One of the lanes makes no access. -/
theorem noAccess_of_pair {exMem : ExMemBuffer} (pair : EnginePair exMem) : NoAccess exMem 0 ∨ NoAccess exMem 1 := by
  have rules := pair.rules
  have noMemory : forall lane, (decode (exMem.slots.get lane).instr).isMemory = false -> NoAccess exMem lane := by
    intro lane plain valid
    rcases pair.controls lane valid with ⟨readEq, writeEq⟩
    rw [readEq, writeEq, isLoad, isStore, plain]
    exact ⟨rfl, rfl⟩
  cases memory0 : (decode (exMem.slots.get 0).instr).isMemory with
  | false => exact .inl (noMemory 0 memory0)
  | true =>
      cases memory1 : (decode (exMem.slots.get 1).instr).isMemory with
      | false => exact .inr (noMemory 1 memory1)
      | true =>
          refine .inr (fun valid1 => ?_)
          have valid0 : (exMem.slots.get 0).valid = true := pair.ordered valid1
          exact absurd (rules.oneMemory 0 1 valid0 valid1 memory0 memory1) (by decide)

theorem StageOutcome.traffic {s : CPUCore} {out : CPUCore × Option (Fin 2)} (outcome : StageOutcome s out)
    (pair : EnginePair s.exMem) : Exists fun operations =>
      AccessTraffic operations ∧ runInputs perform s.memory operations = .ok out.1.memory := by
  have both : forall {mid : CPUCore} {last : CPUCore × Bool}, LaneOutcome { s with memWb := {} } 0 (mid, false) ->
      LaneOutcome mid 1 last -> Exists fun operations =>
        AccessTraffic operations ∧ runInputs perform s.memory operations = .ok last.1.memory := by
    intro mid last first second
    rcases LaneOutcome.traffic first with ⟨front, traffic0, ran0, idle0⟩
    rcases LaneOutcome.traffic second with ⟨back, traffic1, ran1, idle1⟩
    have whole := runInputs_trans ran0 ran1
    rw [first.sameExMem] at idle1
    rcases noAccess_of_pair pair with none | none
    · rw [idle0 none, List.nil_append] at whole
      exact ⟨back, traffic1, whole⟩
    · rw [idle1 none, List.append_nil] at whole
      exact ⟨front, traffic0, whole⟩
  cases outcome with
  | finished mid t first second => exact both first second
  | trapped0 t first =>
      rcases LaneOutcome.traffic first with ⟨operations, traffic, ran, _⟩
      exact ⟨operations, traffic, ran⟩
  | trapped1 mid t first second => exact both first second

/-! ## The other stages -/

theorem commitSfenceLane_traffic (s : CPUCore) (lane : Fin 2) : Exists fun flushes => flushes <= 1 ∧
    runInputs perform s.memory (List.replicate flushes .tlbFlush) = .ok (s.commitSfenceLane lane).memory := by
  unfold commitSfenceLane
  simp only
  split
  · exact ⟨1, Nat.le_refl 1, rfl⟩
  · exact ⟨0, Nat.zero_le 1, rfl⟩

theorem execute_traffic (s : CPUCore) : Exists fun flushes => flushes <= 2 ∧
    runInputs perform s.memory (List.replicate flushes .tlbFlush) = .ok s.execute.memory := by
  have csrs : ((s.runEngine.commitCsrLane 0).commitCsrLane 1).memory = s.memory :=
    (commitCsrLane_memory _ 1).trans (commitCsrLane_memory _ 0)
  rcases commitSfenceLane_traffic ((s.runEngine.commitCsrLane 0).commitCsrLane 1) 0 with ⟨flushes0, few0, ran0⟩
  rcases commitSfenceLane_traffic (((s.runEngine.commitCsrLane 0).commitCsrLane 1).commitSfenceLane 0) 1 with
    ⟨flushes1, few1, ran1⟩
  have whole := runInputs_trans ran0 ran1
  rw [csrs, List.replicate_append_replicate] at whole
  rw [execute_memory]
  exact ⟨flushes0 + flushes1, by omega, whole⟩

theorem fetch_traffic {s t : CPUCore} (ending : FetchEnd s t) : Exists fun operations =>
    FetchTraffic operations ∧ runInputs perform s.memory operations = .ok t.memory := by
  cases ending with
  | full valid => exact ⟨[], .nothing, rfl⟩
  | outside empty => exact ⟨[], .nothing, rfl⟩
  | beyond found mem finds => exact ⟨_, .lookedUp s.pc _ _, perform_translate finds.translated⟩
  | stopped found mem after word finds reads =>
      exact ⟨_, .single s.pc _ _ found.paddr, runInputs_trans (perform_translate finds.translated) (perform_read reads)⟩
  | one found mem after word finds reads =>
      exact ⟨_, .single s.pc _ _ found.paddr, runInputs_trans (perform_translate finds.translated) (perform_read reads)⟩
  | pair found mem double finds reads =>
      exact ⟨_, .pair s.pc _ _ found.paddr, runInputs_trans (perform_translate finds.translated)
        (perform_single (map_eq_ok.mpr ⟨double, reads, rfl⟩))⟩
  | fault found mem faults => exact ⟨_, .lookedUp s.pc _ _, perform_translate faults.translated⟩
  | faultNearEnd found mem faults => exact ⟨_, .lookedUp s.pc _ _, perform_translate faults.translated⟩

/-! ## Ticks and runs -/

theorem tick_traffic {s t : CPUCore} (formed : WellFormed s) (ticked : s.tick = .ok t) : Exists fun operations =>
    TickTraffic operations ∧ runInputs perform s.memory operations = .ok t.memory := by
  cases running : s.running with
  | false =>
      unfold tick at ticked
      rw [if_pos (by rw [running]; rfl)] at ticked
      cases ticked
      rw [atWriteBack_memory]
      exact ⟨_, .halted, rfl⟩
  | true =>
      rw [tick_running running] at ticked
      rcases bind_eq_ok.mp ticked with ⟨out, accessed, fetched⟩
      have before := atMemoryAccess_wellFormed formed
      have after := memoryAccess_wellFormed before accessed
      have issued := decodeAndIssue_wellFormed (execute_wellFormed after)
      rcases StageOutcome.traffic (memoryAccess_outcome before.executedPair.oneAccess accessed)
        before.executedPair.toEnginePair with ⟨access, data, ran⟩
      rcases execute_traffic out.1 with ⟨flushes, few, flushed⟩
      rcases fetch_traffic (fetch_end issued.frontEnd.ordered fetched) with ⟨front, traffic, fetchRan⟩
      refine ⟨_, .ran access front flushes data traffic few, ?_⟩
      rw [runInputs_cons (show perform s.memory .incrementTimer = .ok s.memory.incrementTimer from rfl),
        ← atMemoryAccess_memory]
      exact runInputs_trans ran (runInputs_trans flushed fetchRan)

/-- The core reaches its memory only through the operations of `MemorySystem`,
with the traffic of one tick after that of another.  So what holds of all
sequences of operations holds of all runs of the core. -/
theorem memory_traffic (config : SystemConfig) (image : Addr -> Byte) (keyboard : HostKeyboard) {n : Nat} {s : CPUCore}
    (run : iterate tick n (init config image keyboard) = .ok s) : Exists fun traffic : List (List Operation) =>
      traffic.length = n ∧ (forall operations, operations ∈ traffic -> TickTraffic operations) ∧
        runInputs perform (init config image keyboard).memory traffic.flatten = .ok s.memory := by
  induction n generalizing s with
  | zero =>
      cases run
      exact ⟨[], rfl, fun _ impossible => absurd impossible List.not_mem_nil, rfl⟩
  | succ n ih =>
      rcases iterate_succ.mp run with ⟨before, earlier, last⟩
      rcases ih earlier with ⟨traffic, length, all, ran⟩
      have formed : WellFormed before := Reachable.wellFormed ⟨config, image, keyboard, n, earlier⟩
      rcases tick_traffic formed last with ⟨operations, here, ticked⟩
      refine ⟨traffic ++ [operations], ?_, ?_, ?_⟩
      · rw [List.length_append, length]
        rfl
      · intro other member
        rcases List.mem_append.mp member with older | newest
        · exact all other older
        · rw [List.mem_singleton.mp newest]
          exact here
      · rw [List.flatten_append, List.flatten_singleton]
        exact runInputs_trans ran ticked

/-- `addi x5, x0, 7; sw x5, 256(x0)`. -/
def storeStart : CPUCore := init .default128MB (ramImage [(0, 0x00700293#32), (4, 0x10502023#32)]) {}

theorem memory_traffic_store : Exists fun s => Exists fun traffic : List (List Operation) =>
    iterate tick 5 storeStart = .ok s ∧ traffic.length = 5 ∧
      (forall operations, operations ∈ traffic -> TickTraffic operations) ∧
        runInputs perform storeStart.memory traffic.flatten = .ok s.memory := by
  have finished : passes (iterate tick 5 storeStart) (fun _ => true) = true := by decide +kernel
  rcases exists_of_passes finished with ⟨s, run, _⟩
  rcases memory_traffic _ _ _ run with ⟨traffic, rest⟩
  exact ⟨s, traffic, run, rest⟩

end Memory
end SimpleRV
