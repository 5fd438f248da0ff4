import FlopCensus.Diagnostic
import FlopCensus.Store.Cache
import FlopCensus.Store.Key
import FlopCensus.Survey.Source

set_option autoImplicit false
set_option relaxedAutoImplicit false

/-!
# The survey of one file

A file is looked up in the store, or else its dump is asked of a source and analysed. A file that
cannot be analysed becomes a failure in the result; only the store can keep a survey from ending.

Here a survey happens at one point in time, `now`: the program reads the clock when it looks a
result up and again when it stores one, and no time is taken to pass between the two. With a clock
that goes on while a file is analysed, the same steps are taken one by one in
`FlopCensus.Survey.advance`.

## Main definitions

* `FlopCensus.Survey.Store`: the store of results, if there is one.
* `FlopCensus.Survey.examine`: the analysis of a file, without the store.
* `FlopCensus.Survey.lookUp`, `FlopCensus.Survey.keep`: the store before and after an analysis.
* `FlopCensus.Survey.plain`, `FlopCensus.Survey.stored`: the result without a store and with one.
* `FlopCensus.Survey.file`: the result for a file.
-/

namespace FlopCensus.Survey

/-- The store of results, if there is one. -/
abbrev Store (τ : Type) := Option (Cache τ Inventory)

/-- Why a file has no result. -/
inductive Problem where
  /-- The file cannot be read. -/
  | file (e : Files.Error)
  /-- The source has no dump. -/
  | source (e : SourceFailure)
  /-- The tool ended with a status other than zero. -/
  | exited (tool : String) (code : Int) (reason : String)
  /-- The error stream of the tool holds a number that is too long. -/
  | complaint (e : Numeral.Error)
  /-- The dump cannot be analysed. -/
  | dump (e : Dump.Error)
deriving Repr, DecidableEq

/-- What is written for a problem that is not foreseen. -/
def Problem.unforeseen? : Problem → Option String
  | .file e => if e.cause == .nullByte then some ("ValueError: " ++ e.message) else none
  | .source e => e.unforeseen?
  | .exited .. => none
  | .complaint e => some ("ValueError: " ++ e.message)
  | .dump e =>
    match e with
    | .noNodes => none
    | .offset _ => some ("ValueError: " ++ e.message)
    | .zeroIndentWidth => some ("ZeroDivisionError: " ++ e.message)

/-- The wording of a problem. -/
def Problem.message (p : Problem) : String :=
  match p.unforeseen? with
  | some text => text
  | none =>
    match p with
    | .file e => e.message
    | .source e => e.message
    | .exited tool code reason =>
      tool ++ " exited with " ++ Numeral.intText code ++ ": " ++ reason
    | .complaint e => e.message
    | .dump e => e.message

variable {σ τ : Type}

/-- The reason for which a tool ended with a status other than zero. -/
def reason (stderr tool : String) : Except Numeral.Error String := do
  match ← Diagnostic.ofStderr stderr tool with
  | some d => return d.message
  | none => return Text.strip stderr

/-- The inventory for the output of a tool. -/
def ofOutput (tool : String) (o : ToolOutput) (content : List UInt8) (path : String) :
    Trial σ Problem Inventory := do
  -- warnings are told of whatever the status is
  for warning in warningLines o.stderr do
    Trial.sure (Session.tell .warning .analysis (path ++ ": " ++ warning))
  if o.ok then
    match ← Trial.sure (Session.lift (Design.analyzeDump o.stdout content path)) with
    | .ok inv => return inv
    | .error e => throw (.dump e)
  else
    match reason o.stderr tool with
    | .ok text => throw (.exited tool o.exitCode text)
    | .error e => throw (.complaint e)

/-- The analysis of a file, without the store. -/
def examine (source : TreeSource σ) (path : String) : Trial σ Problem Inventory := do
  match (← Trial.sure Session.files).read path with
  | .error e => throw (.file e)
  | .ok content =>
    let o ← Trial.mapError .source (source.printTree path)
    ofOutput source.name o content path

/-- An inventory with nothing but a failure. -/
def failed (path : String) (p : Problem) : Inventory where
  failures := [⟨path, p.message⟩]

/-- Tells of a problem. -/
def report (path : String) (p : Problem) : Session σ Unit :=
  match p.unforeseen? with
  | some _ => Session.tell .error .analysis ("Unexpected error while analysing " ++ path)
  | none => Session.tell .warning .analysis ("Failed to analyse " ++ path ++ ": " ++ p.message)

/-- The key of a file: its absolute path and the source. -/
def keyOf (digest : List UInt8 → String) (fs : FileSystem) (tool path : String) :
    Except Numeral.Error String :=
  Store.keyWith digest "analyze"
    (.object [("file", .text (Files.absolute fs.workingPath path)), ("source", .text tool)])

variable [Add τ] [LT τ] [DecidableLT τ]

/-- The result that the store has under a key for a file. -/
def lookUp (now : τ) (key path : String) (c : Cache τ Inventory) :
    Session σ (Except Cache.Error (Option Inventory) × Cache τ Inventory) := do
  Session.lift (c.get now (← Session.files) key (some path))

/-- The store with the result for a file under a key. -/
def keep (now : τ) (key path : String) (inv : Inventory) (c : Cache τ Inventory) :
    Session σ (Except Cache.Error Unit × Cache τ Inventory) := do
  Session.lift (c.set now (← Session.files) key inv (some path))

/-- The result for a file without a store. A problem is told of and becomes a failure. -/
def plain (source : TreeSource σ) (path : String) : Session σ Inventory := do
  match ← (examine source path).run with
  | .error p =>
    report path p
    return failed path p
  | .ok inv => return inv

/-- The result for a file that the store does not have under a key. Only an analysis without a
problem is stored. -/
def fresh (source : TreeSource σ) (now : τ) (key path : String) (c : Cache τ Inventory) :
    Session σ (Except Cache.Error Inventory × Cache τ Inventory) := do
  match ← (examine source path).run with
  | .error p =>
    report path p
    return (.ok (failed path p), c)
  | .ok inv =>
    let (kept, c) ← keep now key path inv c
    return (kept.map fun _ => inv, c)

/-- The result for a file, by way of a store. -/
def stored (source : TreeSource σ) (now : τ) (key path : String) (c : Cache τ Inventory) :
    Session σ (Except Cache.Error Inventory × Cache τ Inventory) := do
  match ← lookUp now key path c with
  | (.error e, c) => return (.error e, c)
  | (.ok (some inv), c) => return (.ok inv, c)
  | (.ok none, c) => fresh source now key path c

/-- The result for a file, all at the time `now`. -/
def file (source : TreeSource σ) (now : τ) (path : String) (store : Store τ) :
    Session σ (Except Cache.Error Inventory × Store τ) := do
  match store with
  | none => return (.ok (← plain source path), none)
  | some c =>
    match keyOf c.digest (← Session.files) source.name path with
    | .error _ => return (.ok (← plain source path), some c)
    | .ok key =>
      let (result, c) ← stored source now key path c
      return (result, some c)

end FlopCensus.Survey
