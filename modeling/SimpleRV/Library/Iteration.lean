import Mathlib.Logic.Function.Basic

/-!
# Runs of a fallible machine

A machine is a step function that may fail.  This module has the runs of a
given length, the runs over a list of inputs, and the induction rules that
turn what one step preserves into what a whole run preserves.
-/

namespace Iteration

variable {σ : Type u} {ε : Type v} {ι : Type w}

/-- The state after `n` steps, if none of them fails. -/
def iterate (step : σ -> Except ε σ) : Nat -> σ -> Except ε σ
  | 0, start => .ok start
  | n + 1, start => (iterate step n start).bind step

/-- Some number of successful steps leads from `start` to `state`. -/
def Reaches (step : σ -> Except ε σ) (start state : σ) : Prop :=
  Exists fun n => iterate step n start = .ok state

theorem bind_eq_ok {α : Type u} {β : Type w} {first : Except ε α} {next : α -> Except ε β} {result : β} :
    first.bind next = .ok result ↔ Exists fun value => first = .ok value ∧ next value = .ok result := by
  cases first with
  | error failure =>
      constructor
      · intro impossible
        cases impossible
      · rintro ⟨value, impossible, _⟩
        cases impossible
  | ok value =>
      constructor
      · intro done
        exact ⟨value, rfl, done⟩
      · rintro ⟨other, same, done⟩
        cases same
        exact done

theorem map_eq_ok {α : Type u} {β : Type w} {first : Except ε α} {f : α -> β} {result : β} :
    first.map f = .ok result ↔ Exists fun value => first = .ok value ∧ f value = result := by
  cases first with
  | error failure =>
      constructor
      · intro impossible
        cases impossible
      · rintro ⟨value, impossible, _⟩
        cases impossible
  | ok value => simp [Except.map]

theorem bind_eq_error {α : Type u} {β : Type w} {first : Except ε α} {next : α -> Except ε β} {failure : ε} :
    first.bind next = .error failure ↔
      first = .error failure ∨ Exists fun value => first = .ok value ∧ next value = .error failure := by
  cases first with
  | error other => simp [Except.bind]
  | ok value => simp [Except.bind]

theorem map_eq_error {α : Type u} {β : Type w} {first : Except ε α} {f : α -> β} {failure : ε} :
    first.map f = .error failure ↔ first = .error failure := by
  cases first with
  | error other => simp [Except.map]
  | ok value => simp [Except.map]

/-- The computation does not fail. -/
def Returns {α : Type u} (run : Except ε α) : Prop := Exists fun value => run = .ok value

theorem Returns.bind {α : Type u} {β : Type w} {first : Except ε α} {next : α -> Except ε β}
    (returns : Returns first) (later : forall value, first = .ok value -> Returns (next value)) :
    Returns (first.bind next) := by
  rcases returns with ⟨value, done⟩
  rw [done]
  exact later value done

theorem Returns.map {α : Type u} {β : Type w} {first : Except ε α} (returns : Returns first) (f : α -> β) :
    Returns (first.map f) := by
  rcases returns with ⟨value, done⟩
  rw [done]
  exact ⟨f value, rfl⟩

/-- The step rule: a step that succeeds was taken from a state of the run. -/
theorem iterate_succ {step : σ -> Except ε σ} {n : Nat} {start state : σ} :
    iterate step (n + 1) start = .ok state ↔
      Exists fun before => iterate step n start = .ok before ∧ step before = .ok state :=
  bind_eq_ok

/-- The first step taken out in front. -/
theorem iterate_succ_head (step : σ -> Except ε σ) (n : Nat) (start : σ) :
    iterate step (n + 1) start = (step start).bind (iterate step n) := by
  induction n with
  | zero =>
      change step start = (step start).bind (iterate step 0)
      cases step start <;> rfl
  | succ n ih =>
      rw [iterate, ih]
      cases step start <;> rfl

/-- A run goes on from where another has ended. -/
theorem iterate_add (step : σ -> Except ε σ) (n k : Nat) (start : σ) :
    iterate step (n + k) start = (iterate step n start).bind (iterate step k) := by
  induction k with
  | zero =>
      change iterate step n start = _
      cases iterate step n start <;> rfl
  | succ k ih =>
      change (iterate step (n + k) start).bind step = _
      rw [ih]
      cases iterate step n start <;> rfl

/-- Do the first `n` states of the run all pass the test and step on? -/
def everyState (step : σ -> Except ε σ) (test : σ -> Bool) : Nat -> σ -> Bool
  | 0, _ => true
  | n + 1, state =>
      test state && match step state with
        | .ok next => everyState step test n next
        | .error _ => false

theorem everyState_sound {step : σ -> Except ε σ} {test : σ -> Bool} {n : Nat} {start : σ}
    (passed : everyState step test n start = true) {i : Nat} (below : i < n) :
    Exists fun state => Exists fun next =>
      iterate step i start = .ok state ∧ test state = true ∧ step state = .ok next := by
  induction n generalizing start i with
  | zero => exact absurd below (Nat.not_lt_zero i)
  | succ n ih =>
      rcases Bool.and_eq_true_iff.mp passed with ⟨here, later⟩
      cases first : step start with
      | error failure =>
          rw [first] at later
          cases later
      | ok next =>
          rw [first] at later
          cases i with
          | zero => exact ⟨start, next, rfl, here, first⟩
          | succ i =>
              rcases ih later (Nat.lt_of_succ_lt_succ below) with ⟨state, after, reached, tested, stepped⟩
              refine ⟨state, after, ?_, tested, stepped⟩
              rw [iterate_succ_head, first]
              exact reached

/-- Does the run succeed in a state that passes the test? -/
def passes (run : Except ε σ) (test : σ -> Bool) : Bool :=
  match run with
  | .ok state => test state
  | .error _ => false

theorem exists_of_passes {run : Except ε σ} {test : σ -> Bool} (passed : passes run test = true) :
    Exists fun state => run = .ok state ∧ test state = true := by
  cases run with
  | error failure => cases passed
  | ok state => exact ⟨state, rfl, passed⟩

/-- Does the run fail, and in a way that passes the test? -/
def fails (run : Except ε σ) (test : ε -> Bool) : Bool :=
  match run with
  | .ok _ => false
  | .error failure => test failure

theorem exists_of_fails {run : Except ε σ} {test : ε -> Bool} (failed : fails run test = true) :
    Exists fun failure => run = .error failure ∧ test failure = true := by
  cases run with
  | ok state => cases failed
  | error failure => exact ⟨failure, rfl, failed⟩

/-- A counted invariant holds along every run. -/
theorem iterate_invariant {step : σ -> Except ε σ} {invariant : Nat -> σ -> Prop} {start : σ}
    (initial : invariant 0 start)
    (preserved : forall n before after, invariant n before -> step before = .ok after ->
      invariant (n + 1) after)
    {n : Nat} {state : σ} (run : iterate step n start = .ok state) : invariant n state := by
  induction n generalizing state with
  | zero =>
      cases run
      exact initial
  | succ n ih =>
      rcases iterate_succ.mp run with ⟨before, earlier, last⟩
      exact preserved n before state (ih earlier) last

/-- An inductive invariant holds in every reachable state. -/
theorem Reaches.invariant {step : σ -> Except ε σ} {invariant : σ -> Prop} {start state : σ}
    (reached : Reaches step start state) (initial : invariant start)
    (preserved : forall before after, invariant before -> step before = .ok after -> invariant after) :
    invariant state := by
  rcases reached with ⟨n, run⟩
  exact @iterate_invariant _ _ step (fun _ => invariant) start initial
    (fun _ before after => preserved before after) n state run

/-- A property that every step keeps under a condition holds at the end of a
run whose steps all meet the condition. -/
theorem iterate_conditional {step : σ -> Except ε σ} {invariant condition : σ -> Prop} {start : σ}
    (initial : invariant start)
    (preserved : forall before after, invariant before -> condition before -> step before = .ok after ->
      invariant after)
    {n : Nat} {state : σ} (run : iterate step n start = .ok state)
    (met : forall k before, k < n -> iterate step k start = .ok before -> condition before) : invariant state := by
  induction n generalizing state with
  | zero =>
      cases run
      exact initial
  | succ n ih =>
      rcases iterate_succ.mp run with ⟨before, earlier, last⟩
      have holds := ih earlier (fun k state below => met k state (Nat.lt_succ_of_lt below))
      exact preserved before state holds (met n before (Nat.lt_succ_self n) earlier) last

/-- Where every step that meets the condition is matched by a step of another
machine, so is every run whose steps all meet it. -/
theorem iterate_simulation {τ : Type y} {δ : Type z} {step : σ -> Except ε σ} {other : τ -> Except δ τ}
    {related : τ -> σ -> Prop} {condition : σ -> Prop}
    (matched : forall first before after, related first before -> condition before -> step before = .ok after ->
      Exists fun next => other first = .ok next ∧ related next after)
    {start : σ} {first : τ} (initial : related first start) {n : Nat} {state : σ}
    (run : iterate step n start = .ok state)
    (met : forall k before, k < n -> iterate step k start = .ok before -> condition before) :
    Exists fun last => iterate other n first = .ok last ∧ related last state := by
  induction n generalizing state with
  | zero =>
      cases run
      exact ⟨first, rfl, initial⟩
  | succ n ih =>
      rcases iterate_succ.mp run with ⟨before, earlier, last⟩
      rcases ih earlier (fun k state below => met k state (Nat.lt_succ_of_lt below)) with ⟨middle, reached, holds⟩
      rcases matched middle before state holds (met n before (Nat.lt_succ_self n) earlier) last
        with ⟨next, stepped, after⟩
      exact ⟨next, iterate_succ.mpr ⟨middle, reached, stepped⟩, after⟩

/-- A run of a given length passes through a state after fewer steps. -/
theorem iterate_prefix {step : σ -> Except ε σ} {n k : Nat} {start state : σ} (run : iterate step n start = .ok state)
    (earlier : k <= n) : Exists fun before => iterate step k start = .ok before := by
  induction n generalizing state with
  | zero =>
      rw [Nat.le_zero.mp earlier]
      exact ⟨start, rfl⟩
  | succ n ih =>
      rcases iterate_succ.mp run with ⟨before, front, _⟩
      rcases Nat.lt_or_eq_of_le earlier with below | same
      · exact ih front (Nat.le_of_lt_succ below)
      · rw [same]
        exact ⟨state, run⟩

/-- A run over a list of inputs, the first input first. -/
def runInputs (step : σ -> ι -> Except ε σ) : σ -> List ι -> Except ε σ
  | start, [] => .ok start
  | start, input :: rest => (step start input).bind (fun next => runInputs step next rest)

theorem runInputs_invariant {step : σ -> ι -> Except ε σ} {invariant : σ -> Prop}
    (preserved : forall before input after, invariant before -> step before input = .ok after ->
      invariant after)
    {start state : σ} {inputs : List ι} (initial : invariant start)
    (run : runInputs step start inputs = .ok state) : invariant state := by
  induction inputs generalizing start with
  | nil =>
      cases run
      exact initial
  | cons input rest ih =>
      rcases bind_eq_ok.mp run with ⟨next, first, later⟩
      exact ih (preserved start input next initial first) later

theorem runInputs_cons {step : σ -> ι -> Except ε σ} {start next : σ} {input : ι} (first : step start input = .ok next)
    (rest : List ι) : runInputs step start (input :: rest) = runInputs step next rest := by
  rw [runInputs, first]
  rfl

theorem runInputs_append (step : σ -> ι -> Except ε σ) (start : σ) (front back : List ι) :
    runInputs step start (front ++ back) = (runInputs step start front).bind (fun mid => runInputs step mid back) := by
  induction front generalizing start with
  | nil => rfl
  | cons input rest ih =>
      change (step start input).bind _ = ((step start input).bind _).bind _
      cases step start input with
      | error failure => rfl
      | ok next => exact ih next

theorem runInputs_trans {step : σ -> ι -> Except ε σ} {start mid last : σ} {front back : List ι}
    (first : runInputs step start front = .ok mid) (second : runInputs step mid back = .ok last) :
    runInputs step start (front ++ back) = .ok last := by
  rw [runInputs_append, first]
  exact second

/-- A record that is kept along a run, from what each step was taken in and
which input it took. -/
def record {γ : Type x} (step : σ -> ι -> Except ε σ) (note : σ -> ι -> γ -> γ) : σ -> γ -> List ι -> γ
  | _, entries, [] => entries
  | state, entries, input :: rest =>
      match step state input with
      | .ok next => record step note next (note state input entries) rest
      | .error _ => entries

/-- What each step keeps of a state and its record, a run keeps. -/
theorem runInputs_recorded {γ : Type x} {step : σ -> ι -> Except ε σ} {note : σ -> ι -> γ -> γ}
    {invariant : σ -> γ -> Prop}
    (preserved : forall before input after entries, invariant before entries -> step before input = .ok after ->
      invariant after (note before input entries))
    {start state : σ} {entries : γ} {inputs : List ι} (initial : invariant start entries)
    (run : runInputs step start inputs = .ok state) : invariant state (record step note start entries inputs) := by
  induction inputs generalizing start entries with
  | nil =>
      cases run
      exact initial
  | cons input rest ih =>
      rcases bind_eq_ok.mp run with ⟨next, first, later⟩
      rw [record, first]
      exact ih (preserved start input next entries initial first) later

/-- Where a condition on a step is exactly what it needs to keep a property,
the property holds in all states of a run exactly when its steps all meet the
condition. -/
theorem runInputs_forall_iff {step : σ -> ι -> Except ε σ} {property : σ -> Prop} {condition : σ -> ι -> Prop}
    (decided : forall before input after, property before -> step before input = .ok after ->
      (property after ↔ condition before input))
    {start state : σ} {inputs : List ι} (initial : property start)
    (run : runInputs step start inputs = .ok state) :
    (forall front back mid, inputs = front ++ back -> runInputs step start front = .ok mid -> property mid) ↔
      (forall front input back mid, inputs = front ++ input :: back -> runInputs step start front = .ok mid ->
        condition mid input) := by
  induction inputs generalizing start with
  | nil =>
      constructor
      · intro _ front input back mid split
        exact absurd split (by simp)
      · intro _ front back mid split reached
        rw [(List.append_eq_nil_iff.mp split.symm).1] at reached
        cases reached
        exact initial
  | cons head rest ih =>
      rcases bind_eq_ok.mp run with ⟨next, first, later⟩
      constructor
      · intro holds
        have here : property next := by
          apply holds [head] rest next rfl
          rw [runInputs_cons first]
          rfl
        have onwards := (ih here later).mp (fun front back mid split reached =>
          holds (head :: front) back mid (by rw [split]; rfl) ((runInputs_cons first front).trans reached))
        intro front input back mid split reached
        cases front with
        | nil =>
            cases reached
            cases split
            exact (decided start head next initial first).mp here
        | cons other front =>
            have same : head = other := (List.cons.inj split).1
            subst same
            rw [runInputs_cons first] at reached
            exact onwards front input back mid (List.cons.inj split).2 reached
      · intro meets
        have here : property next := (decided start head next initial first).mpr (meets [] head rest start rfl rfl)
        have onwards := (ih here later).mpr (fun front input back mid split reached =>
          meets (head :: front) input back mid (by rw [split]; rfl) ((runInputs_cons first front).trans reached))
        intro front back mid split reached
        cases front with
        | nil =>
            cases reached
            exact initial
        | cons other front =>
            have same : head = other := (List.cons.inj split).1
            subst same
            rw [runInputs_cons first] at reached
            exact onwards front back mid (List.cons.inj split).2 reached

/-! ## Sequences of events -/

/-- Allowed inputs, each applied to the state that the one before it has left,
lead from one state to another. -/
def Applies (apply : σ -> ι -> σ) (allowed : ι -> Prop) (before after : σ) : Prop :=
  Exists fun inputs : List ι => (forall input, input ∈ inputs -> allowed input) ∧ inputs.foldl apply before = after

section Applies

variable {apply : σ -> ι -> σ} {allowed weaker : ι -> Prop} {first second third : σ}

theorem Applies.refl (state : σ) : Applies apply allowed state state := by
  refine ⟨[], ?_, rfl⟩
  intro input impossible
  cases impossible

theorem Applies.single {input : ι} (here : allowed input) (state : σ) :
    Applies apply allowed state (apply state input) := by
  refine ⟨[input], ?_, rfl⟩
  intro other member
  rw [List.mem_singleton.mp member]
  exact here

theorem Applies.trans (left : Applies apply allowed first second) (right : Applies apply allowed second third) :
    Applies apply allowed first third := by
  rcases left with ⟨inputs, allAllowed, run⟩
  rcases right with ⟨later, laterAllowed, laterRun⟩
  refine ⟨inputs ++ later, ?_, ?_⟩
  · intro input member
    rcases List.mem_append.mp member with here | there
    · exact allAllowed input here
    · exact laterAllowed input there
  · rw [List.foldl_append, run, laterRun]

/-- What every allowed input keeps, the whole sequence keeps. -/
theorem Applies.invariant {property : σ -> Prop} (applies : Applies apply allowed first second)
    (initial : property first) (preserved : forall state input, property state -> allowed input ->
      property (apply state input)) : property second := by
  rcases applies with ⟨inputs, allAllowed, run⟩
  rw [← run]
  exact List.foldlRecOn inputs apply initial
    (fun state holds input member => preserved state input holds (allAllowed input member))

end Applies

/-! ## Machines that answer -/

/-- A run over a list of inputs that collects the answer to each. -/
def transduce {ρ : Type x} (step : σ -> ι -> σ × ρ) : σ -> List ι -> σ × List ρ
  | start, [] => (start, [])
  | start, input :: rest =>
      let run := transduce step (step start input).1 rest
      (run.1, (step start input).2 :: run.2)

/-- Machines whose steps keep a relation and give the same answers answer the
same over whole runs. -/
theorem transduce_simulation {τ : Type y} {ρ : Type x} {left : σ -> ι -> σ × ρ} {right : τ -> ι -> τ × ρ}
    {related : σ -> τ -> Prop}
    (simulates : forall first second input, related first second ->
      related (left first input).1 (right second input).1 ∧ (left first input).2 = (right second input).2)
    {first : σ} {second : τ} (initial : related first second) (inputs : List ι) :
    related (transduce left first inputs).1 (transduce right second inputs).1 ∧
      (transduce left first inputs).2 = (transduce right second inputs).2 := by
  induction inputs generalizing first second with
  | nil => exact ⟨initial, rfl⟩
  | cons input rest ih =>
      rcases simulates first second input initial with ⟨next, answer⟩
      rcases ih next with ⟨last, answers⟩
      refine ⟨last, ?_⟩
      change (left first input).2 :: _ = (right second input).2 :: _
      rw [answer, answers]

end Iteration
