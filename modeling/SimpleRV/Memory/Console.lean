import SimpleRV.Memory.Operations

namespace SimpleRV
namespace Memory

open MemorySystem Pipeline Iteration

/-!
# The console

The keyboard buffer holds at most one character, and every read of the memory
system, whatever its address, polls the host if the buffer is empty.  Between
the host and the program nothing is lost, repeated or reordered: what the
program has received and what waits in the buffer are the characters that the
host has given.
-/

/-- The characters among the first `polls` answers of the host. -/
def typed (answers : Nat -> Option Byte) (polls : Nat) : List Byte :=
  (List.range polls).filterMap answers

theorem typed_succ (answers : Nat -> Option Byte) (polls : Nat) :
    typed answers (polls + 1) = typed answers polls ++ (answers polls).toList := by
  unfold typed
  rw [List.range_succ, List.filterMap_append, List.filterMap_cons, List.filterMap_nil]
  cases answers polls <;> rfl

/-- The character in the buffer. -/
def waiting (keyboard : HostKeyboard) : List Byte :=
  if keyboard.hasBufferedChar then [keyboard.bufferedChar] else []

/-- What has gone through the UART in each direction, in its order. -/
structure Exchange where
  received : List Byte := []
  sent : List Byte := []

/-- The character that a read of the data register delivers. -/
def delivered (mem : MemorySystem) (addr : Addr) (n : Nat) : List Byte :=
  if addr = UART_TX_ADDR && mem.keyboard.checkHostKeyboard.hasBufferedChar then
    ((mem.read addr n).map (fun out => out.1.setWidth 8)).toOption.toList
  else []

/-- The program's side of an operation. -/
def exchange (mem : MemorySystem) (operation : Operation) (log : Exchange) : Exchange :=
  match operation with
  | .read addr n => { log with received := log.received ++ delivered mem addr n }
  | .write addr _ data => if addr = UART_TX_ADDR then { log with sent := log.sent ++ [data.setWidth 8] } else log
  | _ => log

/-- Both sides agree on what has gone between them. -/
structure Agreed (answers : Nat -> Option Byte) (mem : MemorySystem) (log : Exchange) : Prop where
  host : mem.keyboard.answers = answers
  input : log.received ++ waiting mem.keyboard = typed answers mem.keyboard.polled
  output : log.sent = mem.uartOutput.reverse

/-! ## Polling -/

@[simp]
theorem checkHostKeyboard_answers (keyboard : HostKeyboard) :
    keyboard.checkHostKeyboard.answers = keyboard.answers := by
  unfold HostKeyboard.checkHostKeyboard
  cases keyboard.hasBufferedChar with
  | true => rfl
  | false => cases keyboard.answers keyboard.polled <;> rfl

/-- A poll moves a character of the host into the buffer. -/
theorem checkHostKeyboard_waiting {keyboard : HostKeyboard} {received : List Byte}
    (input : received ++ waiting keyboard = typed keyboard.answers keyboard.polled) :
    received ++ waiting keyboard.checkHostKeyboard = typed keyboard.answers keyboard.checkHostKeyboard.polled := by
  unfold HostKeyboard.checkHostKeyboard
  cases buffered : keyboard.hasBufferedChar with
  | true => exact input
  | false =>
      have empty : waiting keyboard = [] := by
        unfold waiting
        rw [buffered]
        rfl
      rw [empty, List.append_nil] at input
      cases answer : keyboard.answers keyboard.polled with
      | none =>
          change received ++ [] = typed keyboard.answers (keyboard.polled + 1)
          rw [typed_succ, answer, input]
          rfl
      | some char =>
          change received ++ [char] = typed keyboard.answers (keyboard.polled + 1)
          rw [typed_succ, answer, input]
          rfl

/-! ## One operation -/

/-- The data register. -/
theorem read_uart (mem : MemorySystem) (n : Nat) : mem.read UART_TX_ADDR n = .ok
    (if mem.keyboard.checkHostKeyboard.hasBufferedChar then
      (mem.keyboard.checkHostKeyboard.bufferedChar.signExtend 32,
        { mem with keyboard := { mem.keyboard.checkHostKeyboard with hasBufferedChar := false } })
    else (0, { mem with keyboard := mem.keyboard.checkHostKeyboard })) := by
  have noClint : inClint UART_TX_ADDR = false := by decide
  have noStatus : UART_TX_ADDR ≠ UART_LSR_ADDR := by decide
  unfold MemorySystem.read
  simp only [noClint, noStatus, Bool.false_eq_true, if_false, if_true]
  cases mem.keyboard.checkHostKeyboard.hasBufferedChar <;> rfl

/-- The program gets the character back from the word that it loads. -/
theorem setWidth_signExtend (char : Byte) : (char.signExtend 32).setWidth 8 = char := by
  apply BitVec.eq_of_getLsbD_eq
  intro i below
  rw [BitVec.getLsbD_setWidth, BitVec.getLsbD_signExtend]
  simp [below, show i < 32 by omega]

theorem delivered_nothing {mem : MemorySystem} {addr : Addr} {n : Nat}
    (empty : addr = UART_TX_ADDR -> mem.keyboard.checkHostKeyboard.hasBufferedChar = false) :
    delivered mem addr n = [] := by
  refine if_neg ?_
  rw [Bool.and_eq_true, decide_eq_true_eq]
  rintro ⟨here, buffered⟩
  exact Bool.false_ne_true ((empty here).symm.trans buffered)

/-- What a read does to the keyboard buffer: it takes the character out, or
leaves the buffer as the poll has left it. -/
theorem read_polls {mem after : MemorySystem} {addr : Addr} {n : Nat} {data : Word}
    (ran : mem.read addr n = .ok (data, after)) :
    (delivered mem addr n = [] ∧ after.keyboard = mem.keyboard.checkHostKeyboard) ∨
      (delivered mem addr n = waiting mem.keyboard.checkHostKeyboard ∧
        after.keyboard = { mem.keyboard.checkHostKeyboard with hasBufferedChar := false }) := by
  by_cases uart : addr = UART_TX_ADDR
  · subst uart
    rw [read_uart] at ran
    cases buffered : mem.keyboard.checkHostKeyboard.hasBufferedChar with
    | false =>
        rw [buffered] at ran
        cases ran
        exact .inl ⟨delivered_nothing (fun _ => buffered), rfl⟩
    | true =>
        refine .inr ⟨?_, ?_⟩
        · unfold delivered waiting
          rw [read_uart, buffered]
          change [(mem.keyboard.checkHostKeyboard.bufferedChar.signExtend 32).setWidth 8] = _
          rw [setWidth_signExtend]
          rfl
        · rw [buffered] at ran
          cases ran
          rfl
  · refine .inl ⟨delivered_nothing (fun here => absurd here uart), ?_⟩
    unfold MemorySystem.read at ran
    simp only [uart] at ran
    split at ran
    · cases ran
      rfl
    · split at ran
      · cases ran
        rfl
      · split at ran
        · contradiction
        · split at ran
          · cases ran
          · rcases map_eq_ok.mp ran with ⟨loaded, _, outEq⟩
            cases outEq
            rfl

theorem read_agreed {answers : Nat -> Option Byte} {mem after : MemorySystem} {log : Exchange} {addr : Addr} {n : Nat}
    {data : Word} (before : Agreed answers mem log) (ran : mem.read addr n = .ok (data, after)) :
    Agreed answers after { log with received := log.received ++ delivered mem addr n } := by
  have polled := checkHostKeyboard_waiting (before.host.symm ▸ before.input)
  rw [before.host] at polled
  have output : log.sent = after.uartOutput.reverse := by
    rw [read_keyboard ran]
    exact before.output
  rcases read_polls ran with ⟨nothing, keyboard⟩ | ⟨taken, keyboard⟩
  · refine ⟨?_, ?_, output⟩
    · rw [keyboard, checkHostKeyboard_answers, before.host]
    · rw [keyboard, nothing, List.append_nil]
      exact polled
  · refine ⟨?_, ?_, output⟩
    · rw [keyboard]
      exact (checkHostKeyboard_answers _).trans before.host
    · rw [keyboard, taken]
      change (log.received ++ waiting mem.keyboard.checkHostKeyboard) ++ [] = _
      rw [List.append_nil]
      exact polled

theorem perform_agreed {answers : Nat -> Option Byte} {mem after : MemorySystem} {operation : Operation}
    {log : Exchange} (before : Agreed answers mem log) (ran : perform mem operation = .ok after) :
    Agreed answers after (exchange mem operation log) := by
  have silent (same : after.keyboard = mem.keyboard ∧ after.uartOutput = mem.uartOutput) : Agreed answers after log := by
    rcases same with ⟨keyboard, output⟩
    exact ⟨keyboard ▸ before.host, keyboard ▸ before.input, output ▸ before.output⟩
  cases operation with
  | read addr n =>
      rcases map_eq_ok.mp ran with ⟨⟨data, mem'⟩, readOk, rfl⟩
      exact read_agreed before readOk
  | readDoubleInstr pc =>
      rcases map_eq_ok.mp ran with ⟨data, _, rfl⟩
      exact before
  | write addr n data =>
      simp only [exchange]
      cases write_effect ran with
      | uart here =>
          rw [if_pos here]
          exact ⟨before.host, before.input, by rw [before.output, List.reverse_cons]⟩
      | compareLow here whole =>
          rw [if_neg (by rw [here]; decide)]
          exact silent ⟨rfl, rfl⟩
      | compareHigh here whole =>
          rw [if_neg (by rw [here]; decide)]
          exact silent ⟨rfl, rfl⟩
      | ignored clint elsewhere =>
          rw [if_neg (fun here => absurd clint (by rw [here]; decide))]
          exact silent ⟨rfl, rfl⟩
      | ram noClint noUart within =>
          rw [if_neg noUart]
          exact silent ⟨rfl, rfl⟩
  | incrementTimer =>
      cases ran
      exact silent ⟨rfl, rfl⟩
  | translate vaddr isWrite isFetch satp privilege =>
      rcases map_eq_ok.mp ran with ⟨⟨found, mem'⟩, translated, rfl⟩
      rcases translate_onlyTlb translated with ⟨tlb, index, same⟩
      cases same
      exact silent ⟨rfl, rfl⟩
  | tlbFlush =>
      cases ran
      exact silent ⟨rfl, rfl⟩

/-! ## Runs -/

/-- The status register tells whether a character waits. -/
theorem read_status {mem after : MemorySystem} {n : Nat} {status : Word}
    (ran : mem.read UART_LSR_ADDR n = .ok (status, after)) :
    (status &&& 1#32 ≠ 0 ↔ waiting after.keyboard ≠ []) ∧ delivered mem UART_LSR_ADDR n = [] := by
  have noClint : inClint UART_LSR_ADDR = false := by decide
  refine ⟨?_, delivered_nothing (fun here => absurd here (by decide))⟩
  unfold MemorySystem.read at ran
  simp only [noClint, Bool.false_eq_true, if_false, if_true] at ran
  cases ran
  unfold waiting
  cases mem.keyboard.checkHostKeyboard.hasBufferedChar with
  | true => simp
  | false => simp

/-- The memory system after `init`, with a program in RAM and a host that
answers the polls. -/
def attended (image : Addr -> Byte) (answers : Nat -> Option Byte) : MemorySystem :=
  { memory := image, keyboard := { answers := answers } }

/-- Over every sequence of operations the program receives the characters of the
host in their order, all but the one that may wait in the buffer; the host
receives those of the program; and the status register announces a character
exactly when the program has not yet received all that the host has given. -/
theorem console_conserves {image : Addr -> Byte} {answers : Nat -> Option Byte} {operations : List Operation}
    {last : MemorySystem} (run : runInputs perform (attended image answers) operations = .ok last) :
    (record perform exchange (attended image answers) {} operations).received ++ waiting last.keyboard =
        typed answers last.keyboard.polled ∧
      (record perform exchange (attended image answers) {} operations).sent = last.uartOutput.reverse ∧
        forall n status after, last.read UART_LSR_ADDR n = .ok (status, after) ->
          (status &&& 1#32 ≠ 0 ↔
            (record perform exchange (attended image answers) {} operations).received.length <
              (typed answers after.keyboard.polled).length) := by
  have start : Agreed answers (attended image answers) {} := ⟨rfl, rfl, rfl⟩
  have agreed := @runInputs_recorded _ _ _ _ perform exchange (fun mem log => Agreed answers mem log)
    (fun mem operation after log before ran => perform_agreed before ran) _ _ {} operations start run
  refine ⟨agreed.input, agreed.output, ?_⟩
  intro n status after ran
  rcases read_status ran with ⟨announced, nothing⟩
  have polled := (read_agreed agreed ran).input
  rw [nothing, List.append_nil] at polled
  rw [announced, ← polled, List.length_append, ← List.length_pos_iff]
  exact (Nat.lt_add_right_iff_pos).symm

/-- The host types `hi`, with a pause; the program asks for the status until it
is told of a character, and sends it back. -/
def echoing : List Operation :=
  [.read UART_LSR_ADDR 1, .read UART_TX_ADDR 1, .write UART_TX_ADDR 1 0x68, .read UART_LSR_ADDR 1,
    .read UART_LSR_ADDR 1]

def hi (poll : Nat) : Option Byte :=
  if poll = 0 then some 0x68 else if poll = 2 then some 0x69 else none

theorem console_conserves_echoing : Exists fun last =>
    runInputs perform (attended (fun _ => 0) hi) echoing = .ok last ∧
      (record perform exchange (attended (fun _ => 0) hi) {} echoing).received ++ waiting last.keyboard =
        typed hi last.keyboard.polled ∧
        typed hi last.keyboard.polled = [0x68#8, 0x69#8] ∧
          (record perform exchange (attended (fun _ => 0) hi) {} echoing).sent = last.uartOutput.reverse := by
  have passed : passes (runInputs perform (attended (fun _ => 0) hi) echoing) (fun mem =>
      typed hi mem.keyboard.polled == [0x68#8, 0x69#8]) = true := by
    decide +kernel
  rcases exists_of_passes passed with ⟨last, run, test⟩
  have conserved := console_conserves run
  exact ⟨last, run, conserved.1, eq_of_beq test, conserved.2.1⟩

end Memory
end SimpleRV
