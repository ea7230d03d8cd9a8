import SimpleRV.Memory.Operations
import SimpleRV.Privilege.Escalation

namespace SimpleRV
namespace Privilege

open CPUCore RegisterFile BitFields Pipeline Iteration

/-!
# The timer and the pending bits

`mip` is driven by the timer at the start of a tick, and written by two
differently masked CSRs in the middle of it.  Every point of every tick is gone
through: the timer counts ticks, MTIP is what the comparison at the start of
the tick made it, and the software bits belong to one CSR address each.
-/

/-! ## Events -/

/-- An event other than the timer leaves `mip` alone or is a write to one of
its two addresses. -/
theorem apply_mip {event : ControlEvent} (other : event.isTimer = false) (state : Control) :
    (event.apply state).1.mip = state.1.mip ∨
      (Exists fun data => event = .csr CSR_MIP data ∧ (event.apply state).1.mip = merge state.1.mip data MIP_MSIP) ∨
      (Exists fun data => event = .csr CSR_SIP data ∧ (event.apply state).1.mip = merge state.1.mip data MIP_SSIP) := by
  cases event with
  | timer pending => cases other
  | interrupt cause =>
      left
      change (state.1.enterInterrupt state.2 cause).1.mip = _
      unfold enterInterrupt
      simp only
      split
      · rfl
      · rfl
  | retire gpr => exact .inl rfl
  | trap epc cause tval =>
      left
      change (state.1.handleTrap epc cause tval).1.mip = _
      unfold RegisterFile.handleTrap
      simp only
      split
      · rfl
      · rfl
  | csr number data =>
      by_cases machine : number = CSR_MIP
      · subst machine
        exact .inr (.inl ⟨data, rfl, rfl⟩)
      · by_cases supervisor : number = CSR_SIP
        · subst supervisor
          exact .inr (.inr ⟨data, rfl, rfl⟩)
        · left
          change (state.1.writeCsr number data).mip = _
          unfold writeCsr
          split
          all_goals first | rfl | exact absurd rfl machine | exact absurd rfl supervisor
  | mret => exact .inl (@mret_other .mip (by decide) state.1)
  | sret => exact .inl (@sret_other .mip (by decide) state.1)
  | redirect target => exact .inl rfl

/-- The next tick executes a CSR instruction on this address. -/
def ExecutesCsrAt (s : CPUCore) (number : CsrAddr) : Prop :=
  Exists fun slot => Executes s slot ∧ slot.d.isCsr = true ∧ slot.d.csrAddr = number

/-- A bit of `mip` that a point of the tick finds changed behind the timer was
writable through an address that a CSR instruction of this tick names. -/
theorem apply_mip_bit {s : CPUCore} {event : ControlEvent} (justified : Justified s event)
    (other : event.isTimer = false) (state : Control) (i : Nat) :
    (event.apply state).1.mip.getLsbD i = state.1.mip.getLsbD i ∨
      (MIP_MSIP.getLsbD i = true ∧ ExecutesCsrAt s CSR_MIP) ∨
      (MIP_SSIP.getLsbD i = true ∧ ExecutesCsrAt s CSR_SIP) := by
  rcases apply_mip other state with same | ⟨data, rfl, merged⟩ | ⟨data, rfl, merged⟩
  · exact .inl (by rw [same])
  · rcases justified with ⟨slot, executes, isCsr, number, _⟩
    rw [merged, getLsbD_merge]
    cases masked : MIP_MSIP.getLsbD i with
    | true => exact .inr (.inl ⟨rfl, slot, executes, isCsr, number⟩)
    | false => exact .inl rfl
  · rcases justified with ⟨slot, executes, isCsr, number, _⟩
    rw [merged, getLsbD_merge]
    cases masked : MIP_SSIP.getLsbD i with
    | true => exact .inr (.inr ⟨rfl, slot, executes, isCsr, number⟩)
    | false => exact .inl rfl

theorem Point.mip_bit {s x : CPUCore} (wellFormed : WellFormed s) (point : Point s x) (i : Nat) :
    x.regFile.mip.getLsbD i = s.updateTimer.regFile.mip.getLsbD i ∨
      (MIP_MSIP.getLsbD i = true ∧ ExecutesCsrAt s CSR_MIP) ∨
      (MIP_SSIP.getLsbD i = true ∧ ExecutesCsrAt s CSR_SIP) := by
  apply @Steps.invariant s _ _ (fun state => state.1.mip.getLsbD i = s.updateTimer.regFile.mip.getLsbD i ∨ _)
    (point.steps wellFormed) (.inl rfl)
  intro before after holds moves
  rcases moves.justified with ⟨event, justified, other, applied⟩
  rw [applied]
  rcases holds with same | named
  · rcases apply_mip_bit justified other before i with kept | named
    · exact .inl (kept.trans same)
    · exact .inr named
  · exact .inr named

/-! ## The timer line -/

theorem msip_bit (i : Nat) : MIP_MSIP.getLsbD i = decide (i = 3) := by
  rw [show MIP_MSIP = BitVec.twoPow 32 3 from rfl, BitVec.getLsbD_twoPow]
  by_cases here : i = 3
  · simp [here]
  · simp [here, Ne.symm here]

theorem ssip_bit (i : Nat) : MIP_SSIP.getLsbD i = decide (i = 1) := by
  rw [show MIP_SSIP = BitVec.twoPow 32 1 from rfl, BitVec.getLsbD_twoPow]
  by_cases here : i = 1
  · simp [here]
  · simp [here, Ne.symm here]

/-- The line is up exactly when the comparator has been set and reached. -/
theorem updateTimer_mtip (s : CPUCore) : s.updateTimer.regFile.mip.getLsbD 7 =
    (decide (s.updateTimer.memory.mtimecmp <= s.updateTimer.memory.mtime) &&
      s.updateTimer.memory.mtimecmp != 0) := by
  have line : MIP_MTIP = BitVec.twoPow 32 7 := rfl
  have pending : s.updateTimer.memory.timerInterruptPending =
      (decide (s.updateTimer.memory.mtimecmp <= s.updateTimer.memory.mtime) &&
        s.updateTimer.memory.mtimecmp != 0) := rfl
  rw [← pending]
  change (s.regFile.hwSetMtip s.updateTimer.memory.timerInterruptPending).mip.getLsbD 7 = _
  unfold hwSetMtip
  cases s.updateTimer.memory.timerInterruptPending with
  | true => simp [line]
  | false => simp [line]

/-- The timer leaves the software bits alone. -/
theorem updateTimer_mip_other (s : CPUCore) {i : Nat} (other : i ≠ 7) :
    s.updateTimer.regFile.mip.getLsbD i = s.regFile.mip.getLsbD i :=
  @hwSetMtip_other .mip i (fun both => other both.2) s.regFile _

/-- Only software bits and the timer line are ever pending. -/
def OnlyKnownPending (mip : Word) : Prop := forall i, mip.getLsbD i = true -> i = 1 ∨ i = 3 ∨ i = 7

theorem Point.onlyKnownPending {s x : CPUCore} (wellFormed : WellFormed s) (point : Point s x)
    (known : OnlyKnownPending s.regFile.mip) : OnlyKnownPending x.regFile.mip := by
  intro i pending
  by_cases line : i = 7
  · exact .inr (.inr line)
  · rcases point.mip_bit wellFormed i with same | ⟨writable, _⟩ | ⟨writable, _⟩
    · apply known i
      rw [← updateTimer_mip_other s line, ← same]
      exact pending
    · rw [msip_bit, decide_eq_true_eq] at writable
      exact .inr (.inl writable)
    · rw [ssip_bit, decide_eq_true_eq] at writable
      exact .inl writable

theorem mask_of_onlyKnownPending {mip : Word} (known : OnlyKnownPending mip) :
    mip &&& ~~~(MIP_SSIP ||| MIP_MSIP ||| MIP_MTIP) = 0 := by
  have line : forall i, MIP_MTIP.getLsbD i = decide (i = 7) := by
    intro i
    rw [show MIP_MTIP = BitVec.twoPow 32 7 from rfl, BitVec.getLsbD_twoPow]
    by_cases here : i = 7
    · simp [here]
    · simp [here, Ne.symm here]
  apply BitVec.eq_of_getLsbD_eq
  intro i below
  simp only [BitVec.getLsbD_and, BitVec.getLsbD_not, BitVec.getLsbD_or, msip_bit, ssip_bit, line]
  cases pending : mip.getLsbD i with
  | false => simp
  | true => rcases known i pending with here | here | here <;> simp [here]

/-! ## The counter -/

theorem storeAccess_mtime {mem after : MemorySystem} {regFile : RegisterFile} {funct3 : BitVec 3} {addr : Addr}
    {data : Word} {result : Access Unit} (ran : storeAccess mem regFile funct3 addr data = .ok (result, after)) :
    after.mtime = mem.mtime := by
  have ends := storeAccess_end ran
  cases ends with
  | misaligned => rfl
  | faulted found between translated faults => exact (translate_onlyTlb translated).sameStorage.mtime
  | stored found between after translated served written =>
      exact (Memory.write_effect written).mtime.trans (translate_onlyTlb translated).sameStorage.mtime

theorem laneAccess_mtime {s : CPUCore} {lane : Fin 2} {result : Access Word} {mem : MemorySystem}
    (access : laneAccess s lane = .ok (result, mem)) : mem.mtime = s.memory.mtime := by
  have ends := laneAccess_end access
  cases ends with
  | load reads loaded => exact (loadAccess_sameStorage loaded).mtime
  | storeTrap notRead writes stored => exact storeAccess_mtime stored
  | store notRead writes stored => exact storeAccess_mtime stored
  | none notRead notWrite => rfl

theorem laneOutcome_mtime {s : CPUCore} {lane : Fin 2} {out : CPUCore × Bool} (outcome : LaneOutcome s lane out) :
    out.1.memory.mtime = s.memory.mtime := by
  cases outcome with
  | empty invalid => rfl
  | finished value mem valid access => exact laneAccess_mtime access
  | trapped cause mem valid access => exact laneAccess_mtime access

/-- In front of the memory stage no stage has touched memory but the timer. -/
theorem atMemoryAccess_mtime (s : CPUCore) : s.atMemoryAccess.memory.mtime = s.memory.mtime + 1 := by
  rw [atMemoryAccess_memory]
  rfl

theorem atExecute_mtime {s x : CPUCore} (wellFormed : WellFormed s) (ran : s.atExecute = .ok x) :
    x.memory.mtime = s.memory.mtime + 1 := by
  rcases atExecute_outcome wellFormed ran with ⟨trapped, outcome⟩
  have before := atMemoryAccess_mtime s
  exact @StageOutcome.preserves (fun x => x.memory.mtime = s.memory.mtime + 1) _ _ outcome before
    (fun _ _ _ _ same lane => (laneOutcome_mtime lane).trans same)

theorem atFetch_mtime {s x : CPUCore} (wellFormed : WellFormed s) (ran : s.atFetch = .ok x) :
    x.memory.mtime = s.memory.mtime + 1 := by
  rcases map_eq_ok.mp ran with ⟨decoded, earlier, issued⟩
  rcases map_eq_ok.mp earlier with ⟨before, earliest, executed⟩
  subst issued executed
  exact (execute_sameStorage before).mtime.trans (atExecute_mtime wellFormed earliest)

/-- Every point of a tick has the same time. -/
theorem Point.mtime {s x : CPUCore} (wellFormed : WellFormed s) (point : Point s x) :
    x.memory.mtime = s.memory.mtime + 1 := by
  have afterInterrupts : s.atWriteBack.memory.mtime = s.memory.mtime + 1 := by
    rw [atWriteBack_memory]
    rfl
  cases point with
  | interrupts => rfl
  | writeBack => exact afterInterrupts
  | memoryAccess => exact atMemoryAccess_mtime s
  | execute x ran => exact atExecute_mtime wellFormed ran
  | decode x ran =>
      rcases map_eq_ok.mp ran with ⟨before, earlier, executed⟩
      subst executed
      exact (execute_sameStorage before).mtime.trans (atExecute_mtime wellFormed earlier)
  | fetch x ran => exact atFetch_mtime wellFormed ran
  | finish x ran =>
      unfold tick at ran
      split at ran
      · cases ran
        exact afterInterrupts
      · rcases bind_eq_ok.mp ran with ⟨before, earlier, fetched⟩
        have formed := atFetch_wellFormed wellFormed earlier
        exact (fetch_fetch formed.frontEnd.ordered fetched).sameStorage.mtime.trans (atFetch_mtime wellFormed earlier)

/-! ## Runs -/

/-- The step from one tick boundary to the next, by induction over the run. -/
theorem counted {config : SystemConfig} {image : Addr -> Byte} {keyboard : HostKeyboard} {n : Nat} {s : CPUCore}
    (run : iterate tick n (init config image keyboard) = .ok s) :
    s.memory.mtime = BitVec.ofNat 64 n ∧ OnlyKnownPending s.regFile.mip := by
  induction n generalizing s with
  | zero =>
      cases run
      refine ⟨rfl, ?_⟩
      intro i pending
      change (0#32).getLsbD i = true at pending
      rw [BitVec.getLsbD_zero] at pending
      cases pending
  | succ n ih =>
      rcases iterate_succ.mp run with ⟨before, earlier, last⟩
      rcases ih earlier with ⟨time, known⟩
      have wellFormed : WellFormed before := Reachable.wellFormed ⟨config, image, keyboard, n, earlier⟩
      have finish : Point before s := .finish s last
      refine ⟨?_, finish.onlyKnownPending wellFormed known⟩
      rw [finish.mtime wellFormed, time, BitVec.ofNat_add]
      rfl

/-- After `n` ticks: the time is `n`, nothing but the known bits is pending,
and the bit that the interrupt check of the next tick sees is the comparison of
the 64-bit values of that tick.  At every later point of that tick the time and
the line are the same, and a software bit differs only if the tick executes a
CSR instruction on its own address. -/
theorem timer_integrity {config : SystemConfig} {image : Addr -> Byte} {keyboard : HostKeyboard} {n : Nat}
    {s : CPUCore} (run : iterate tick n (init config image keyboard) = .ok s) :
    s.memory.mtime = BitVec.ofNat 64 n ∧
      s.regFile.mip &&& ~~~(MIP_SSIP ||| MIP_MSIP ||| MIP_MTIP) = 0 ∧
      (hasBit s.updateTimer.regFile.mip MIP_MTIP = true ↔
        s.updateTimer.memory.mtimecmp <= s.updateTimer.memory.mtime ∧ s.updateTimer.memory.mtimecmp ≠ 0) ∧
      forall x, Point s x ->
        x.memory.mtime = BitVec.ofNat 64 (n + 1) ∧
        x.regFile.mip &&& ~~~(MIP_SSIP ||| MIP_MSIP ||| MIP_MTIP) = 0 ∧
        hasBit x.regFile.mip MIP_MTIP = hasBit s.updateTimer.regFile.mip MIP_MTIP ∧
        (hasBit x.regFile.mip MIP_MSIP ≠ hasBit s.regFile.mip MIP_MSIP -> ExecutesCsrAt s CSR_MIP) ∧
        (hasBit x.regFile.mip MIP_SSIP ≠ hasBit s.regFile.mip MIP_SSIP -> ExecutesCsrAt s CSR_SIP) := by
  have reachable : Reachable s := ⟨config, image, keyboard, n, run⟩
  have wellFormed := reachable.wellFormed
  rcases counted run with ⟨time, known⟩
  have line : forall word : Word, hasBit word MIP_MTIP = word.getLsbD 7 :=
    fun word => and_twoPow_bne_zero word 7 (by decide)
  have machine : forall word : Word, hasBit word MIP_MSIP = word.getLsbD 3 :=
    fun word => and_twoPow_bne_zero word 3 (by decide)
  have supervisor : forall word : Word, hasBit word MIP_SSIP = word.getLsbD 1 :=
    fun word => and_twoPow_bne_zero word 1 (by decide)
  refine ⟨time, mask_of_onlyKnownPending known, ?_, ?_⟩
  · rw [line, updateTimer_mtip]
    simp
  · intro x point
    refine ⟨?_, mask_of_onlyKnownPending (point.onlyKnownPending wellFormed known), ?_, ?_, ?_⟩
    · rw [point.mtime wellFormed, time, BitVec.ofNat_add]
      rfl
    · rw [line, line]
      rcases point.mip_bit wellFormed 7 with same | ⟨writable, _⟩ | ⟨writable, _⟩
      · exact same
      · exact absurd writable (by decide)
      · exact absurd writable (by decide)
    · rw [machine, machine]
      intro changed
      rcases point.mip_bit wellFormed 3 with same | ⟨_, executes⟩ | ⟨writable, _⟩
      · exact absurd (same.trans (updateTimer_mip_other s (by decide))) changed
      · exact executes
      · exact absurd writable (by decide)
    · rw [supervisor, supervisor]
      intro changed
      rcases point.mip_bit wellFormed 1 with same | ⟨writable, _⟩ | ⟨_, executes⟩
      · exact absurd (same.trans (updateTimer_mip_other s (by decide))) changed
      · exact absurd writable (by decide)
      · exact executes

/-- A program that sets the comparator to 6: the line goes up with the sixth
tick, and not before. -/
theorem timer_integrity_of_store : Exists fun s => Exists fun t =>
    iterate tick 4 (init .default128MB (ramImage [(0, 0x020042B7#32), (4, 0x00600313#32), (8, 0x0062A023#32)]) {}) =
      .ok s ∧ s.tick = .ok t ∧ t.memory.mtimecmp = 6 ∧
      hasBit s.updateTimer.regFile.mip MIP_MTIP = false ∧ hasBit t.updateTimer.regFile.mip MIP_MTIP = true ∧
      (t.memory.mtime = 5 ∧ hasBit t.regFile.mip MIP_MTIP = hasBit s.updateTimer.regFile.mip MIP_MTIP) := by
  have passed : passes (iterate tick 4
      (init .default128MB (ramImage [(0, 0x020042B7#32), (4, 0x00600313#32), (8, 0x0062A023#32)]) {}))
      (fun s => passes s.tick (fun t => decide (t.memory.mtimecmp = 6 ∧
        hasBit s.updateTimer.regFile.mip MIP_MTIP = false ∧ hasBit t.updateTimer.regFile.mip MIP_MTIP = true))) = true := by
    decide +kernel
  rcases exists_of_passes passed with ⟨s, run, tests⟩
  rcases exists_of_passes tests with ⟨t, ran, facts⟩
  rcases decide_eq_true_eq.mp facts with ⟨compare, before, after⟩
  have point := (timer_integrity run).2.2.2 t (.finish t ran)
  exact ⟨s, t, run, ran, compare, before, after, point.1, point.2.2.1⟩

end Privilege
end SimpleRV
