import FlopCensus.Files.Discovery
import FlopCensus.Survey.File

set_option autoImplicit false
set_option relaxedAutoImplicit false

/-!
# The survey of many files

Files are surveyed one after the other, and their results are merged in order. With several workers
a file is surveyed also if one before it made the store fail; without, the survey ends there.

A batch happens at one point in time as a whole, `now`, although the program reads the clock at each
look-up and each storing: no result expires here while the batch is going on. In
`FlopCensus.Survey.run` the clock goes on between any two steps of the surveys.

## Main definitions

* `FlopCensus.Survey.files`: the merged result for some files.
* `FlopCensus.Survey.Target`: what is to be surveyed.
* `FlopCensus.Survey.path`: the result for a file or for the files below a directory.
-/

namespace FlopCensus.Survey

variable {σ τ : Type} [Add τ] [LT τ] [DecidableLT τ]

/-- The results for some files, up to the first one for which the store fails. -/
def each (source : TreeSource σ) (now : τ) :
    List String → Store τ → Session σ (Except Cache.Error (List Inventory) × Store τ)
  | [], store => return (.ok [], store)
  | path :: rest, store => do
    match ← file source now path store with
    | (.error e, store) => return (.error e, store)
    | (.ok inv, store) =>
      let (more, store) ← each source now rest store
      return (more.map (inv :: ·), store)

/-- The results for some files, all of which are surveyed. -/
def all (source : TreeSource σ) (now : τ) :
    List String → Store τ → Session σ (List (Except Cache.Error Inventory) × Store τ)
  | [], store => return ([], store)
  | path :: rest, store => do
    let (r, store) ← file source now path store
    let (more, store) ← all source now rest store
    return (r :: more, store)

/-- The number of workers that is asked for, or else the configured one. -/
def workers (settings : Settings) (jobs : Option Int) : Int :=
  max 1 (jobs.getD settings.jobs)

/-- The merged result for some files, all at the time `now`. -/
def files (source : TreeSource σ) (settings : Settings) (now : τ) (jobs : Option Int)
    (paths : List String) (store : Store τ) :
    Session σ (Except Cache.Error Inventory × Store τ) := do
  -- one worker stops where the store fails; several finish all files first
  if workers settings jobs == 1 || paths.length < 2 then
    let (results, store) ← each source now paths store
    return (results.map Inventory.merge, store)
  else
    let (results, store) ← all source now paths store
    return ((results.mapM id).map Inventory.merge, store)

/-- What is to be surveyed. -/
structure Target where
  /-- The path of a file or a directory. -/
  path : String
  /-- A directory is surveyed with everything below it. -/
  recursive : Bool := false
  /-- A pattern for the names of the files. -/
  pattern : Option String := none
  /-- The module to which the result is confined. -/
  module : Option String := none
  /-- The number of workers. -/
  jobs : Option Int := none

/-- Why a survey has no result. -/
inductive Error where
  /-- The files cannot be listed. -/
  | files (e : Files.Error)
  /-- The store fails. -/
  | store (e : Cache.Error)
deriving Repr, DecidableEq

/-- The wording of an error. -/
def Error.message : Error → String
  | .files e => e.message
  | .store e => e.message

/-- The files of a target. -/
def pathsOf (settings : Settings) (t : Target) : Session σ (Except Files.Error (List String)) := do
  let fs ← Session.files
  if t.recursive && fs.isDirectory t.path then
    let selection : Files.Selection := { extensions := settings.extensions, pattern := t.pattern }
    match ← Session.lift (Files.discover fs selection t.path).run with
    | .error e => return .error e
    | .ok paths =>
      Session.tell .info .analysis
        ("Analysing " ++ Numeral.natText paths.length ++ " file(s) under " ++ t.path)
      return .ok paths
  else return .ok [t.path]

/-- An inventory confined to a module, if one is given. -/
def confine (module : Option String) (inv : Inventory) : Inventory :=
  match module with
  | some name => inv.ofModule name
  | none => inv

/-- The result for a file or for the files below a directory. -/
def path (source : TreeSource σ) (settings : Settings) (now : τ) (t : Target) (store : Store τ) :
    Session σ (Except Error Inventory × Store τ) := do
  match ← pathsOf settings t with
  | .error e => return (.error (.files e), store)
  | .ok paths =>
    let (result, store) ← files source settings now t.jobs paths store
    return ((result.map (confine t.module)).mapError .store, store)

/-- The store that the settings ask for. -/
def storeFor (settings : Settings) : Except Cache.Error (Store Numeral.Number) :=
  if settings.cacheEnabled then
    -- without a lifetime results stay as long as there is room
    let lifetime : Numeral.Number := .real settings.cacheLifetime
    (Cache.new settings.cacheSize (if lifetime.isZero then none else some lifetime)).map some
  else .ok none

end FlopCensus.Survey
