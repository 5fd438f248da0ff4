import FlopCensus.Session
import Mathlib.Tactic.Common

set_option autoImplicit false
set_option relaxedAutoImplicit false

/-!
# What sessions yield

A session tells records on its way. Without them it is a function from a scene to a value and the
scene that is left; this function is computed along the steps of the session.

## Main definitions

* `FlopCensus.Session.outcome` — the value and the scene that a session leaves.
* `FlopCensus.Trial.outcome` — the same for a session that may fail.

## Main results

* `FlopCensus.Session.outcome_bind`, `FlopCensus.Trial.outcome_bind` — the outcome of two steps.
-/

namespace FlopCensus

variable {σ τ α β ε : Type}

namespace Session

/-- The value of a session and the scene that it leaves. -/
def outcome (act : Session σ α) (s : Scene σ) : α × Scene σ :=
  (act.run s).value

@[simp] lemma outcome_pure (a : α) (s : Scene σ) : (pure a : Session σ α).outcome s = (a, s) := rfl

@[simp] lemma outcome_bind (act : Session σ α) (f : α → Session σ β) (s : Scene σ) :
    (act >>= f).outcome s = (f (act.outcome s).1).outcome (act.outcome s).2 := rfl

@[simp] lemma outcome_tell (level : Log.Level) (origin : Log.Origin) (message : String)
    (s : Scene σ) : (tell level origin message).outcome s = ((), s) := rfl

@[simp] lemma outcome_files (s : Scene σ) : (files : Session σ _).outcome s = (s.host.files, s) :=
  rfl

@[simp] lemma outcome_host (s : Scene σ) : (host : Session σ _).outcome s = (s.host, s) := rfl

@[simp] lemma outcome_lift (m : Logged α) (s : Scene σ) : (lift m).outcome s = (m.value, s) := rfl

/-- A session of some of those who take part leaves the state of the others as it is. -/
@[simp] lemma outcome_inner (act : Session σ α) (s : Scene (τ × σ)) :
    (inner act).outcome s =
      ((act.outcome ⟨s.host, s.own.2⟩).1, ⟨(act.outcome ⟨s.host, s.own.2⟩).2.host,
        (s.own.1, (act.outcome ⟨s.host, s.own.2⟩).2.own)⟩) := rfl

end Session

namespace Trial

/-- What a trial yields, be it a failure or a value, and the scene that it leaves. -/
def outcome (act : Trial σ ε α) (s : Scene σ) : Except ε α × Scene σ :=
  Session.outcome act.run s

@[simp] lemma outcome_pure (a : α) (s : Scene σ) :
    (pure a : Trial σ ε α).outcome s = (.ok a, s) := rfl

@[simp] lemma outcome_throw (e : ε) (s : Scene σ) :
    (throw e : Trial σ ε α).outcome s = (.error e, s) := rfl

/-- **The outcome of two steps**: a failure of the first one is that of both. -/
@[simp] lemma outcome_bind (act : Trial σ ε α) (f : α → Trial σ ε β) (s : Scene σ) :
    (act >>= f).outcome s =
      match act.outcome s with
      | (.ok a, t) => (f a).outcome t
      | (.error e, t) => (.error e, t) := by
  change Session.outcome (act.run >>= ExceptT.bindCont f) s = _
  rw [Session.outcome_bind]
  change (ExceptT.bindCont f (act.outcome s).1).outcome (act.outcome s).2 = _
  obtain ⟨r, t⟩ := act.outcome s
  cases r <;> rfl

@[simp] lemma outcome_sure (act : Session σ α) (s : Scene σ) :
    (sure act : Trial σ ε α).outcome s = (.ok (act.outcome s).1, (act.outcome s).2) := rfl

@[simp] lemma outcome_get (s : Scene σ) : (get : Trial σ ε (Scene σ)).outcome s = (.ok s, s) := rfl

/-- A trial of some of those who take part leaves the state of the others as it is. -/
@[simp] lemma outcome_inner (act : Trial σ ε α) (s : Scene (τ × σ)) :
    (inner act).outcome s =
      ((act.outcome ⟨s.host, s.own.2⟩).1, ⟨(act.outcome ⟨s.host, s.own.2⟩).2.host,
        (s.own.1, (act.outcome ⟨s.host, s.own.2⟩).2.own)⟩) := rfl

@[simp] lemma outcome_mapError {δ : Type} (f : ε → δ) (act : Trial σ ε α) (s : Scene σ) :
    (mapError f act).outcome s = ((act.outcome s).1.mapError f, (act.outcome s).2) := rfl

/-- The outcome of a trial, as one of the session in which it is made. -/
lemma outcome_run (act : Trial σ ε α) (s : Scene σ) :
    Session.outcome act.run s = act.outcome s := rfl

end Trial

end FlopCensus
