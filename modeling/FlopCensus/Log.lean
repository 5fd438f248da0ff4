set_option autoImplicit false
set_option relaxedAutoImplicit false

/-!
# Log records

What happens on the way to a result is told in log records. A computation that may tell something
is a value of `Logged`, so the records are data and come in the order in which they were told; one
that may also fail keeps the records told before the failure.

## Main definitions

* `FlopCensus.Log.Record`: a message with its level and the part of the program that tells it.
* `FlopCensus.Logged`: a value with the records told on the way to it.
* `FlopCensus.Attempt`: a computation that tells records and may fail.
-/

namespace FlopCensus

namespace Log

/-- The weight of a record. -/
inductive Level where
  | debug
  | info
  | warning
  | error
deriving Repr, DecidableEq

/-- The level as a number, greater numbers being graver. -/
def Level.number : Level → Nat
  | .debug => 10
  | .info => 20
  | .warning => 30
  | .error => 40

/-- The name of a level. -/
def Level.name : Level → String
  | .debug => "DEBUG"
  | .info => "INFO"
  | .warning => "WARNING"
  | .error => "ERROR"

/-- The part of the program that tells a record. -/
inductive Origin where
  /-- Finding modules and declarations. -/
  | extraction
  /-- Deciding what a declared element is. -/
  | classification
  /-- Analysing files. -/
  | analysis
  /-- Keeping results. -/
  | store
  /-- Reading the settings. -/
  | settings
  /-- Running commands. -/
  | command
  /-- The syntax tool. -/
  | tool
  /-- The slang front end. -/
  | slang
deriving Repr, DecidableEq

/-- A log record. -/
structure Record where
  /-- The weight of the record. -/
  level : Level
  /-- Who tells it. -/
  origin : Origin
  /-- What is told. -/
  message : String
deriving Repr, DecidableEq

end Log

/-- A value with the records told on the way to it. -/
structure Logged (α : Type) where
  /-- The records in the order in which they were told. -/
  log : List Log.Record
  /-- The value. -/
  value : α

namespace Logged

instance : Monad Logged where
  pure a := ⟨[], a⟩
  bind m f :=
    let next := f m.value
    ⟨m.log ++ next.log, next.value⟩

/-- Tells one record. -/
def tell (level : Log.Level) (origin : Log.Origin) (message : String) : Logged Unit :=
  ⟨[⟨level, origin, message⟩], ()⟩

@[simp] theorem value_pure {α : Type} (a : α) : (pure a : Logged α).value = a := rfl

@[simp] theorem log_pure {α : Type} (a : α) : (pure a : Logged α).log = [] := rfl

@[simp] theorem value_bind {α β : Type} (m : Logged α) (f : α → Logged β) :
    (m >>= f).value = (f m.value).value := rfl

@[simp] theorem log_bind {α β : Type} (m : Logged α) (f : α → Logged β) :
    (m >>= f).log = m.log ++ (f m.value).log := rfl

end Logged

/-- A computation that tells records and may fail. -/
abbrev Attempt (ε α : Type) := ExceptT ε Logged α

/-- Tells one record. -/
def Attempt.tell {ε : Type} (level : Log.Level) (origin : Log.Origin) (message : String) :
    Attempt ε Unit :=
  ExceptT.lift (Logged.tell level origin message)

/-- The records and the outcome of an attempt. -/
def Attempt.outcome {ε α : Type} (m : Attempt ε α) : Logged (Except ε α) :=
  m.run

end FlopCensus
