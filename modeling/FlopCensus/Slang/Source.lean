import FlopCensus.Log
import FlopCensus.Slang.Printer
import FlopCensus.Tool.Output

set_option autoImplicit false
set_option relaxedAutoImplicit false

/-!
# The slang front end as a source of dumps

The front end is a library that may not be there. Given one, a file is parsed and its tree dumped as
if a tool had been run; the errors that the parser reports make up the error stream.

## Main definitions

* `FlopCensus.Slang.Frontend`: a front end.
* `FlopCensus.Slang.Failure`: why there is no dump.
* `FlopCensus.Slang.printTree`: the dump of a file.
-/

namespace FlopCensus.Slang

/-- A message of the parser. -/
structure Complaint where
  /-- The message. -/
  text : String
  /-- It tells of an error. -/
  isError : Bool
deriving Repr, DecidableEq

/-- What the parser makes of a file. -/
structure Parsed where
  /-- The tree. -/
  root : Tree
  /-- The messages. -/
  complaints : List Complaint

/-- A failure inside the front end. -/
inductive Fault where
  /-- The front end refuses to read or to walk the file. -/
  | refused (text : String)
  /-- Anything else goes through to the caller, with its kind. -/
  | foreign (kind text : String)
deriving Repr, DecidableEq

/-- A front end. -/
structure Frontend where
  /-- Its parser; a front end may come without one. -/
  parse : Option (String → Except Fault Parsed)
  /-- Its version, if it tells one. -/
  version : Option String

/-- Why there is no dump. -/
inductive Failure where
  /-- There is no front end. -/
  | notInstalled
  /-- The front end has no parser. -/
  | noParser
  /-- The front end refuses the file. -/
  | refused (path text : String)
  /-- A failure of another kind. -/
  | foreign (kind text : String)
deriving Repr, DecidableEq

/-- The wording of a failure. -/
def Failure.message : Failure → String
  | .notInstalled =>
    "pyslang is required for the slang tree source but is not installed. " ++
      "Install it via `pip install pyslang`."
  | .noParser => "No module named 'pyslang'"
  | .refused path text => "pyslang failed on " ++ path ++ ": " ++ text
  | .foreign _ text => text

/-- The name under which the source is known. -/
def sourceName : String := "pyslang"

/-- The width of a level in the dumps of this source. -/
def dumpWidth : Int := 2

/-- The dump of a parsed file. -/
def dump (path : String) (p : Parsed) : Attempt Failure ToolOutput :=
  match render dumpWidth p.root with
  | .error e => throw (.refused path e.message)
  | .ok text => do
    let errors := (p.complaints.filter (·.isError)).map (·.text)
    Attempt.tell .debug .slang
      ("pyslang parsed " ++ path ++ " with " ++ Numeral.natText errors.length ++ " error(s)")
    return {
      exitCode := if errors.isEmpty then 0 else 1
      stdout := text
      stderr := "\n".intercalate errors }

/-- The dump of a file. -/
def printTree (frontend : Option Frontend) (path : String) : Attempt Failure ToolOutput :=
  match frontend with
  | none => throw .notInstalled
  | some f =>
    match f.parse with
    | none => throw .noParser
    | some parse =>
      match parse path with
      | .error (.refused text) => throw (.refused path text)
      | .error (.foreign kind text) => throw (.foreign kind text)
      | .ok parsed => dump path parsed

/-- The version of the front end. -/
def version (frontend : Option Frontend) : String :=
  ((frontend.bind (·.version)).getD "unknown")

end FlopCensus.Slang
