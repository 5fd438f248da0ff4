import FlopCensus.Log
import Mathlib.Tactic.Common

set_option autoImplicit false
set_option relaxedAutoImplicit false

/-!
# Computations that may fail

Two steps of a computation that may fail, with records told on the way and without.

## Main results

* `FlopCensus.bind_eq_ok` — two steps have a value if both have one.
* `FlopCensus.Attempt.outcome_bind` — what two steps tell and yield.
-/

namespace FlopCensus

variable {ε α β : Type}

/-- Two steps have a value if both have one. -/
lemma bind_eq_ok {x : Except ε α} {f : α → Except ε β} {b : β} :
    (x >>= f) = .ok b ↔ ∃ a, x = .ok a ∧ f a = .ok b := by
  cases x with
  | error e => simp [bind, Except.bind]
  | ok a => simp [bind, Except.bind]

namespace Attempt

variable {log : List Log.Record} {m : Attempt ε α} {f : α → Attempt ε β}

/-- **What two steps tell and yield**: a failure of the first one is that of both. -/
lemma outcome_bind (m : Attempt ε α) (f : α → Attempt ε β) :
    (m >>= f).outcome =
      match m.outcome.value with
      | .ok a => ⟨m.outcome.log ++ (f a).outcome.log, (f a).outcome.value⟩
      | .error e => ⟨m.outcome.log, .error e⟩ := by
  change (m.outcome >>= ExceptT.bindCont f) = _
  obtain ⟨log, r⟩ := m.outcome
  cases r with
  | ok a => rfl
  | error e =>
    change (⟨log ++ [], .error e⟩ : Logged (Except ε β)) = _
    rw [List.append_nil]

/-- What is told and yielded once the first step has not failed. -/
lemma outcome_bind_of_ok {a : α} (h : m.outcome = ⟨log, .ok a⟩) (f : α → Attempt ε β) :
    (m >>= f).outcome = ⟨log ++ (f a).outcome.log, (f a).outcome.value⟩ := by
  rw [outcome_bind, h]

/-- A first step that tells nothing and does not fail can be left out. -/
lemma outcome_bind_of_silent {a : α} (h : m.outcome = ⟨[], .ok a⟩) (f : α → Attempt ε β) :
    (m >>= f).outcome = (f a).outcome := by
  rw [outcome_bind_of_ok h, List.nil_append]

/-- An attempt fails with its first step. -/
lemma outcome_bind_of_error {e : ε} (h : m.outcome = ⟨log, .error e⟩) (f : α → Attempt ε β) :
    (m >>= f).outcome = ⟨log, .error e⟩ := by
  rw [outcome_bind, h]

/-- The value of two steps. -/
lemma value_bind (m : Attempt ε α) (f : α → Attempt ε β) :
    (m >>= f).outcome.value =
      match m.outcome.value with
      | .ok a => (f a).outcome.value
      | .error e => .error e := by
  rw [outcome_bind]
  cases m.outcome.value <;> rfl

/-- Two steps of an attempt have a value if both have one. -/
lemma value_bind_eq_ok {b : β} :
    (m >>= f).outcome.value = .ok b ↔
      ∃ a, m.outcome.value = .ok a ∧ (f a).outcome.value = .ok b := by
  rw [value_bind]
  cases m.outcome.value with
  | error e => simp
  | ok a => simp

end Attempt

end FlopCensus
