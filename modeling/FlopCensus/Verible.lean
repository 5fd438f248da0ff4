import FlopCensus.Command.Executor
import FlopCensus.Settings
import FlopCensus.Text.Blank
import FlopCensus.Text.Digit
import FlopCensus.Text.Lines

set_option autoImplicit false
set_option relaxedAutoImplicit false

/-!
# The Verible syntax tool

The tool prints the syntax tree of a file. It is located when it is first needed: a configured path
is taken as it is, and a name is looked up. Where it was found is remembered.

## Main definitions

* `FlopCensus.Verible.Error`: why the tool has no answer, and the wording.
* `FlopCensus.Verible.locate`: the path of the tool.
* `FlopCensus.Verible.printTree`: the dump of a file.
* `FlopCensus.Verible.version`: the version of the tool.
-/

namespace FlopCensus.Verible

/-- Why the tool has no answer; `ε` is the type of an executor's failures. -/
inductive Error (ε : Type) where
  /-- The configured path is not a file that can be run. -/
  | notExecutable (path : String)
  /-- There is no command of the name. -/
  | notInstalled (command : String)
  /-- The tool cannot be run. -/
  | command (e : ε)
deriving Repr, DecidableEq

/-- The wording of an error, `wording` being that of an executor's failure. -/
def Error.message {ε : Type} (wording : ε → String) : Error ε → String
  | .notExecutable path => "Configured syntax tool is not executable: " ++ path
  | .notInstalled name =>
    name ++ " not found on PATH or in search paths. " ++
      "Install Verible or set SVREG_VERIBLE_PATH."
  | .command e => wording e

/-- The state of the tool: where it was found. -/
abbrev Located := Option String

variable {σ ε : Type}

/-- Remembers where the tool is. -/
def remember (path : String) : Session (Located × σ) Unit :=
  modify fun s => { s with own := (some path, s.own.2) }

/-- The path of the tool when nothing is remembered. -/
def search (e : Executor σ ε) (settings : Settings) : Trial (Located × σ) (Error ε) String := do
  let host ← Trial.sure Session.host
  let configured := host.expandHome settings.syntaxTool
  if Files.hasDirectory configured then
    if host.files.isExecutable configured then return configured
    else throw (.notExecutable configured)
  else
    match ← Trial.sure (Session.inner (e.find configured settings.searchPaths)) with
    | none => throw (.notInstalled configured)
    | some found =>
      Trial.sure (Session.tell .info .tool ("Using " ++ found))
      return found

/-- The path of the tool. -/
def locate (e : Executor σ ε) (settings : Settings) : Trial (Located × σ) (Error ε) String := do
  match (← get).own.1 with
  | some path => return path
  | none =>
    let path ← search e settings
    Trial.sure (remember path)
    return path

/-- Runs the tool. -/
def run (e : Executor σ ε) (settings : Settings) (arguments : List String)
    (limit : Option Numeral.Number) : Trial (Located × σ) (Error ε) ToolOutput := do
  let command ← locate e settings
  Trial.mapError .command (Trial.inner (e.run { command, arguments, limit }))

/-- The dump of a file. -/
def printTree (e : Executor σ ε) (settings : Settings) (path : String) :
    Trial (Located × σ) (Error ε) ToolOutput :=
  run e settings ["--printtree", path] (some settings.timeout)

/-! ### The version -/

/-- What follows a character at the front of a text. -/
def behindChar? (c : Char) : List Char → Option (List Char)
  | d :: rest => if d == c then some rest else none
  | [] => none

/-- A longest run of at least one character at the front of a text, and what follows it. -/
def behindRun? (p : Char → Bool) (s : List Char) : Option (List Char) :=
  match s.span p with
  | ([], _) => none
  | (_, rest) => some rest

/-- A digit of the number of a commit. -/
def isHexDigit (c : Char) : Bool :=
  ('a' ≤ c && c ≤ 'f') || ('0' ≤ c && c ≤ '9')

/-- What follows a version at the front of a text: `v`, digits and points, a count, and the number
of a commit behind `g`. -/
def behindVersion? (s : List Char) : Option (List Char) := do
  let s ← behindChar? 'v' s
  let s ← behindRun? (fun c => Text.isDigit c || c == '.') s
  let s ← behindChar? '-' s
  let s ← behindRun? Text.isDigit s
  let s ← behindChar? '-' s
  let s ← behindChar? 'g' s
  behindRun? isHexDigit s

/-- The first version in a text. -/
def firstVersion? : List Char → Option (List Char)
  | [] => none
  | c :: s =>
    match behindVersion? (c :: s) with
    | some rest => some ((c :: s).take ((c :: s).length - rest.length))
    | none => firstVersion? s

/-- The version that an output tells: the first one in it, or else its first line. -/
def versionIn (stdout : String) : String :=
  match firstVersion? stdout.toList with
  | some v => String.ofList v
  | none => ((Text.lines (Text.strip stdout)).head?).getD "unknown"

/-- The version of the tool. -/
def version (e : Executor σ ε) (settings : Settings) : Trial (Located × σ) (Error ε) String := do
  let output ← run e settings ["--version"] none
  return versionIn output.stdout

end FlopCensus.Verible
