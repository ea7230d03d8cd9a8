import SimpleRV.Library.Iteration

/-!
# Total correctness with time

Triples for the programs of a fallible machine.  From every state of the
precondition some number of steps, of which no more than the bound are needed,
leads to a state of the postcondition; none of them fails, and each is taken
from a state that is safe, whatever that may mean for the machine.
-/

namespace StepLogic

open Iteration

variable {σ : Type u} {ε : Type v}

/-- A run of `n` steps, each from a safe state. -/
structure Leads (step : σ -> Except ε σ) (safe : σ -> Prop) (start : σ) (n : Nat) (state : σ) : Prop where
  run : iterate step n start = .ok state
  safely : forall k before, k < n -> iterate step k start = .ok before -> safe before

def Establishes (step : σ -> Except ε σ) (safe pre : σ -> Prop) (bound : Nat) (post : σ -> Prop) : Prop :=
  forall start, pre start -> Exists fun n => Exists fun state =>
    n <= bound ∧ Leads step safe start n state ∧ post state

section Rules

variable {step : σ -> Except ε σ} {safe pre mid post : σ -> Prop} {bound more : Nat}

theorem Leads.refl (start : σ) : Leads step safe start 0 start := by
  refine ⟨rfl, ?_⟩
  intro k before impossible
  exact absurd impossible (Nat.not_lt_zero k)

theorem Leads.trans {start middle state : σ} {n k : Nat} (first : Leads step safe start n middle)
    (second : Leads step safe middle k state) : Leads step safe start (n + k) state := by
  constructor
  · rw [iterate_add, first.run]
    exact second.run
  · intro j before below reached
    rcases Nat.lt_or_ge j n with early | late
    · exact first.safely j before early reached
    · rw [← Nat.add_sub_of_le late, iterate_add, first.run] at reached
      exact second.safely (j - n) before (by omega) reached

theorem Leads.single {start state : σ} (here : safe start) (stepped : step start = .ok state) :
    Leads step safe start 1 state := by
  constructor
  · change (Except.ok start).bind step = .ok state
    exact stepped
  · intro k before below reached
    rw [Nat.lt_one_iff.mp below] at reached
    cases reached
    exact here

theorem Leads.shorten {start state : σ} {n k : Nat} (leads : Leads step safe start n state) (earlier : k <= n) :
    Exists fun before => Leads step safe start k before := by
  rcases iterate_prefix leads.run earlier with ⟨before, reached⟩
  exact ⟨before, reached, fun j state below => leads.safely j state (Nat.lt_of_lt_of_le below earlier)⟩

/-- The rule for no step. -/
theorem Establishes.skip (implies : forall state, pre state -> post state) : Establishes step safe pre 0 post := by
  intro start holds
  exact ⟨0, start, Nat.le_refl 0, .refl start, implies start holds⟩

/-- The rule for a run whose length is known. -/
theorem Establishes.run (leads : forall start, pre start -> Exists fun state =>
    Leads step safe start bound state ∧ post state) : Establishes step safe pre bound post := by
  intro start holds
  rcases leads start holds with ⟨state, run, after⟩
  exact ⟨bound, state, Nat.le_refl bound, run, after⟩

/-- The rule for a single step. -/
theorem Establishes.one (steps : forall start, pre start -> safe start ∧ Exists fun state =>
    step start = .ok state ∧ post state) : Establishes step safe pre 1 post := by
  apply Establishes.run
  intro start holds
  rcases steps start holds with ⟨here, state, stepped, after⟩
  exact ⟨state, .single here stepped, after⟩

theorem Establishes.sequence (first : Establishes step safe pre bound mid)
    (second : Establishes step safe mid more post) : Establishes step safe pre (bound + more) post := by
  intro start holds
  rcases first start holds with ⟨n, middle, early, run, between⟩
  rcases second middle between with ⟨k, state, late, rest, after⟩
  exact ⟨n + k, state, Nat.add_le_add early late, run.trans rest, after⟩

theorem Establishes.consequence {stronger weaker : σ -> Prop} {longer : Nat}
    (triple : Establishes step safe pre bound post) (before : forall state, stronger state -> pre state)
    (after : forall state, post state -> weaker state) (time : bound <= longer) :
    Establishes step safe stronger longer weaker := by
  intro start holds
  rcases triple start (before start holds) with ⟨n, state, within, run, done⟩
  exact ⟨n, state, Nat.le_trans within time, run, after state done⟩

/-- The rule for the cases of a precondition. -/
theorem Establishes.cases (condition : σ -> Prop)
    (true_case : Establishes step safe (fun state => pre state ∧ condition state) bound post)
    (false_case : Establishes step safe (fun state => pre state ∧ ¬condition state) bound post) :
    Establishes step safe pre bound post := by
  intro start holds
  by_cases decided : condition start
  · exact true_case start ⟨holds, decided⟩
  · exact false_case start ⟨holds, decided⟩

/-- The rule for a loop.  The invariant says how many rounds are left, and a
round leaves one less. -/
theorem Establishes.loop {invariant : Nat -> σ -> Prop} {cost : Nat}
    (round : forall rounds, Establishes step safe (invariant (rounds + 1)) cost (invariant rounds)) (rounds : Nat) :
    Establishes step safe (invariant rounds) (rounds * cost) (invariant 0) := by
  induction rounds with
  | zero =>
      rw [Nat.zero_mul]
      exact .skip (fun _ holds => holds)
  | succ rounds ih =>
      rw [Nat.succ_mul, Nat.add_comm (rounds * cost)]
      exact (round rounds).sequence ih

/-- The rule for what never ends: a run that comes back to the invariant again
and again is as long as you like. -/
theorem Leads.forever {invariant : σ -> Prop} (round : forall start, invariant start -> Exists fun n => Exists fun state =>
    0 < n ∧ Leads step safe start n state ∧ invariant state) {start : σ} (holds : invariant start) (n : Nat) :
    Exists fun state => Leads step safe start n state := by
  induction n using Nat.strongRecOn generalizing start with
  | ind n ih =>
      rcases round start holds with ⟨k, middle, positive, leads, again⟩
      rcases Nat.lt_or_ge n k with short | long
      · exact leads.shorten (Nat.le_of_lt short)
      · rcases ih (n - k) (by omega) again with ⟨state, rest⟩
        have whole := leads.trans rest
        rw [Nat.add_sub_of_le long] at whole
        exact ⟨state, whole⟩

end Rules

end StepLogic
