import FlopCensus.CommandLine.Options
import FlopCensus.Log
import FlopCensus.Text.Case

set_option autoImplicit false
set_option relaxedAutoImplicit false

/-!
# The level of the log

Records below the level in force are not shown.

## Main definitions

* `FlopCensus.CommandLine.level`: the level that options and settings ask for.
* `FlopCensus.CommandLine.shown`: the records that a level shows.
-/

namespace FlopCensus.CommandLine

/-- The level in force until options and settings are known. -/
def firstLevel : Nat := 30

/-- The levels by name. -/
def levels : List (String × Nat) :=
  [("CRITICAL", 50), ("FATAL", 50), ("ERROR", 40), ("WARNING", 30), ("WARN", 30), ("INFO", 20),
    ("DEBUG", 10), ("NOTSET", 0)]

/-- Why a name stands for no level. -/
inductive LevelError where
  /-- It stands for the layout of a record. -/
  | layout
  /-- It stands for the table of layouts. -/
  | layouts
deriving Repr, DecidableEq

/-- The wording of an error. -/
def LevelError.message : LevelError → String
  | .layout => "Unknown level: '%(levelname)s:%(name)s:%(message)s'"
  | .layouts => "Level not an integer or a valid string"

/-- The level of a name; a name that stands for nothing counts as a warning. -/
def levelOf (name : String) : Except LevelError Nat :=
  match Text.upper name with
  | "BASIC_FORMAT" => .error .layout
  | "_STYLES" => .error .layouts
  | upper => .ok ((levels.lookup upper).getD 30)

/-- The level that options and settings ask for, in that order. -/
def level (c : Common) (configured : Option String) : Except LevelError Nat :=
  if c.verbose then .ok 10
  else if c.quiet then .ok 40
  else levelOf ((configured.filter (· != "")).getD "WARNING")

/-- A computation of whose records only those are kept that a level shows. -/
def shown {α : Type} (level : Nat) (m : Logged α) : Logged α :=
  ⟨m.log.filter fun r => level ≤ r.level.number, m.value⟩

end FlopCensus.CommandLine
