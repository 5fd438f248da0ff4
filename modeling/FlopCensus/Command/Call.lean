import FlopCensus.Files.Basic
import FlopCensus.Numeral.Number

set_option autoImplicit false
set_option relaxedAutoImplicit false

/-!
# Calls of commands

## Main definitions

* `FlopCensus.Command.Call`: a command with its arguments, its directory and a limit of time.
* `FlopCensus.Command.Error`: why there is no output, and the wording.
* `FlopCensus.Command.deadline`: a limit as a count of microseconds.
-/

namespace FlopCensus.Command

/-- The limit of a call that sets none, in seconds. -/
def usualLimit : Numeral.Number := .real 30.0

/-- A command that is to be run. -/
structure Call where
  /-- The name or the path of the command. -/
  command : String
  /-- The arguments. -/
  arguments : List String := []
  /-- The directory in which it is run, if not the present one. -/
  directory : Option String := none
  /-- The greatest number of seconds it may take. -/
  limit : Option Numeral.Number := none

/-- Why a limit cannot be kept. -/
inductive LimitError where
  /-- No real number is as large. -/
  | beyondReals
  /-- It is infinite when counted in milliseconds. -/
  | infinite
  /-- It is no number. -/
  | notNumber
  /-- No clock counts as far. -/
  | beyondClock
  /-- No wait takes as long. -/
  | beyondWait
deriving Repr, DecidableEq

/-- The wording of an error. -/
def LimitError.message : LimitError → String
  | .beyondReals => "int too large to convert to float"
  | .infinite => "cannot convert float infinity to integer"
  | .notNumber => "cannot convert float NaN to integer"
  | .beyondClock => "timestamp too large to convert to C _PyTime_t"
  | .beyondWait => "timeout is too large"

/-- Why a call has no output. -/
inductive Error where
  /-- The command, its interpreter or its directory is not there. -/
  | notFound (command : String)
  /-- The command must not be run. -/
  | denied (command : String)
  /-- The command took too long. -/
  | timedOut (limit : String) (command : String)
  /-- The command or its directory cannot be reached for another reason. -/
  | file (e : Files.Error)
  /-- The limit cannot be kept. -/
  | limit (e : LimitError)
deriving Repr, DecidableEq

/-- The wording of an error. -/
def Error.message : Error → String
  | .notFound command => "Command not found: " ++ command
  | .denied command => "Permission denied running " ++ command
  | .timedOut seconds command => "Command timed out after " ++ seconds ++ "s: " ++ command
  | .file e => e.message
  | .limit e => e.message

/-- A limit as a count of microseconds. Waits are counted in milliseconds of 32 bits, the clock in
nanoseconds of 64. A limit that is not positive is no wait at all. -/
def deadline (limit : Numeral.Number) : Except LimitError Nat :=
  match limit.toReal? with
  | none => .error .beyondReals
  | some x =>
    if x.isNaN then .error .notNumber
    else if x ≤ 0 then .ok 0
    else
      let milliseconds := x * 1000
      if milliseconds.isInf then .error .infinite
      else if milliseconds.ceil > 9223372036854.0 then .error .beyondClock
      else if milliseconds.ceil > 2147483647.0 then .error .beyondWait
      else .ok (x * 1000000).toUInt64.toNat

end FlopCensus.Command
