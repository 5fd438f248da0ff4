import FlopCensus.CommandLine.Level
import FlopCensus.Survey.Batch

set_option autoImplicit false
set_option relaxedAutoImplicit false

/-!
# Running the program

## Main definitions

* `FlopCensus.CommandLine.Ending`: what a run writes and how it ends.
* `FlopCensus.CommandLine.Crash`: a failure that is not foreseen.
* `FlopCensus.CommandLine.run`: the program on its arguments.
-/

namespace FlopCensus.CommandLine

/-- How a run ends. -/
inductive Exit where
  /-- With a status. -/
  | status (n : Nat)
  /-- With a message, which means that it failed. -/
  | message (text : String)
deriving Repr, DecidableEq

/-- What a run writes and how it ends. -/
structure Ending where
  exit : Exit
  stdout : String := ""
  stderr : String := ""
  /-- The level of the log at the end. -/
  level : Nat := firstLevel
deriving Repr, DecidableEq

/-- A failure that is not foreseen. -/
inductive Crash where
  /-- The value of an option is missing. -/
  | blank (name : String)
  | settings (e : Settings.Error)
  | level (e : LevelError)
  | survey (e : Survey.Error)
  | report (e : Numeral.Error)
  | source (e : SourceFailure)

/-- The wording of a crash. -/
def Crash.message : Crash → String
  | .blank name => "no value for " ++ name
  | .settings e => e.message
  | .level e => e.message
  | .survey e => e.message
  | .report e => e.message
  | .source e => e.message

/-- A run: it tells records, and may crash. -/
abbrev Course := Attempt Crash

/-- The state of the sources. -/
abbrev SourceState := Verible.Located × Unit

/-- The value of an option that has one or may be left out. -/
def given? {β : Type} (name : String) : Given β → Course (Option β)
  | .absent => return none
  | .blank => throw (.blank name)
  | .value b => return some b

/-- The source of a name. There is no slang front end. -/
def sourceOf (name : String) (settings : Settings) : TreeSource SourceState :=
  if name == "slang" then .slang none
  else .verible (.ofHost Unit settings.timeout) settings

/-- The end of a run that fails with a message. -/
def failed (level : Nat) (text : String) : Ending where
  exit := .message ("Error: " ++ text)
  level

/-- Goes on with the settings, unless they are wrong. -/
def withSettings (h : Host) (c : Common) (f : Settings → Nat → Course Ending) : Course Ending := do
  let config ← given? "--config" c.config
  ExceptT.mk do
    match ← shown firstLevel (Settings.load h config).run with
    | .error e =>
      return if e.isForeseen then .ok (failed firstLevel e.message) else .error (.settings e)
    | .ok settings =>
      match level c settings.logLevel with
      | .error e => return .error (.level e)
      | .ok n => shown n (f settings n).run

/-- The outcome of a session of the sources. -/
def inSession {α : Type} (h : Host) (act : Session SourceState α) : Course α :=
  ExceptT.lift do return (← act.run ⟨h, (none, ())⟩).1

/-- The sections that are asked for; there are none if only the place of their name is kept. -/
def sectionsOf (a : Analysis) : Report.Sections where
  registers := [.value "registers", .value "all"].contains a.sections
  modules := [.value "modules", .value "all"].contains a.sections

/-- The format of a name. -/
def formatOf (name : String) : Report.Format :=
  ((Report.formats.find? name).map (·.item)).getD .markdown

/-- A warning for each failure. -/
def warnings (inv : Inventory) : String :=
  String.join (inv.failures.map fun f => "Warning: " ++ f.file ++ ": " ++ f.reason ++ "\n")

/-- The status for an inventory: a run that has nothing to report because of failures fails. -/
def statusFor (inv : Inventory) : Nat :=
  if !inv.failures.isEmpty && inv.modules.isEmpty then 1 else 0

/-- Reports an inventory. -/
def report (c : Common) (a : Analysis) (level : Nat) (inv : Inventory) : Course Ending := do
  let format ← given? "--format" c.format
  match (formatOf (format.getD "")).report inv (sectionsOf a) with
  | .error e => throw (.report e)
  | .ok text => return {
      exit := .status (statusFor inv)
      stdout := text ++ "\n"
      stderr := warnings inv
      level }

/-- What is surveyed for an analysis. -/
def targetOf (a : Analysis) : Survey.Target where
  path := a.path
  recursive := a.recursive
  pattern := match a.pattern with
    | .value p => some p
    | _ => none
  module := match a.module with
    | .value name => some name
    | _ => none
  jobs := match a.jobs with
    | .value n => some n
    | _ => none

/-- The survey for an analysis. The files are listed before the number of workers is looked at, and
a module whose name is missing has no part in the result. -/
def survey (h : Host) (a : Analysis) (settings : Settings) (source : TreeSource SourceState)
    (store : Survey.Store Numeral.Number) : Course Inventory := do
  let target := targetOf a
  if a.jobs == .blank then
    match ← inSession h (Survey.pathsOf settings target) with
    | .error e => throw (.survey (.files e))
    | .ok _ => throw (.blank "--jobs")
  match ← inSession h (Survey.path source settings (.int 0) target store) with
  | (.error e, _) => throw (.survey e)
  | (.ok inv, _) => return if a.module == .blank then { inv with registers := [], modules := [] } else inv

/-- Analyses files. -/
def analyze (h : Host) (c : Common) (a : Analysis) : Course Ending :=
  if !h.files.holds a.path then return failed firstLevel ("Path not found: " ++ a.path)
  else if h.files.isDirectory a.path && !a.recursive then
    return failed firstLevel (a.path ++ " is a directory. Use --recursive to analyse it.")
  else
    withSettings h c fun settings level => do
      let settings := if a.noCache then { settings with cacheEnabled := false } else settings
      let name ← given? "--source" a.source
      match Survey.storeFor settings with
      | .error e => throw (.survey (.store e))
      | .ok store =>
        let inv ← survey h a settings (sourceOf (name.getD "") settings) store
        report c a level inv

/-- Tells the version of a source. -/
def version (h : Host) (c : Common) (name : Given String) : Course Ending :=
  withSettings h c fun settings level => do
    let source := sourceOf ((← given? "--source" name).getD "") settings
    match ← inSession h source.version.run with
    | .ok text => return { exit := .status 0, stdout := source.name ++ " " ++ text ++ "\n", level }
    | .error e =>
      if e.isOwn then return failed level e.message else throw (.source e)

/-- The program on its arguments. -/
def run (h : Host) (arguments : List String) : Course Ending :=
  match request arguments with
  | .error ⟨page, .help⟩ => return { exit := .status 0, stdout := page.help }
  | .error r => return { exit := .status 2, stderr := r.message }
  | .ok { common, action } =>
    match action with
    | none => return { exit := .status 1, stdout := Page.program.help }
    | some (.analyze a) => analyze h common a
    | some (.version name) => version h common name

end FlopCensus.CommandLine
