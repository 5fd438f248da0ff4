import FlopCensus.Host
import FlopCensus.Log

set_option autoImplicit false
set_option relaxedAutoImplicit false

/-!
# Sessions

What happens in a session depends on the host and may change it; those who take part in it can have
a state of their own.

## Main definitions

* `FlopCensus.Scene`: the host with the state of those who take part.
* `FlopCensus.Session`: a computation that tells records and acts on a scene.
* `FlopCensus.Session.inner`: a session of only some of those who take part.
-/

namespace FlopCensus

/-- The host with the state of those who take part. -/
structure Scene (σ : Type) where
  /-- The host. -/
  host : Host
  /-- The state of those who take part. -/
  own : σ

/-- A computation that tells records and acts on a scene. -/
abbrev Session (σ : Type) := StateT (Scene σ) Logged

/-- A session that may fail. What happened before the failure stays. -/
abbrev Trial (σ ε : Type) := ExceptT ε (Session σ)

namespace Session

variable {σ τ α ε : Type}

/-- Tells one record. -/
def tell (level : Log.Level) (origin : Log.Origin) (message : String) : Session σ Unit :=
  StateT.lift (Logged.tell level origin message)

/-- The host. -/
def host : Session σ Host :=
  return (← get).host

/-- The files of the host. -/
def files : Session σ FileSystem :=
  return (← host).files

/-- Does what needs no scene. -/
def lift (m : Logged α) : Session σ α :=
  StateT.lift m

/-- A session of those whose state is the second part. -/
def inner (act : Session σ α) : Session (τ × σ) α := do
  let s ← get
  let (a, t) ← lift (act.run ⟨s.host, s.own.2⟩)
  set (⟨t.host, (s.own.1, t.own)⟩ : Scene (τ × σ))
  return a

end Session

namespace Trial

variable {σ τ α ε : Type}

/-- Does what cannot fail. -/
def sure (act : Session σ α) : Trial σ ε α :=
  ExceptT.lift act

/-- A trial of those whose state is the second part. -/
def inner (act : Trial σ ε α) : Trial (τ × σ) ε α :=
  ExceptT.mk (Session.inner act.run)

/-- A trial with its failures put in other words. -/
def mapError {δ : Type} (f : ε → δ) (act : Trial σ ε α) : Trial σ δ α :=
  ExceptT.mk do return (← act.run).mapError f

end Trial

end FlopCensus
