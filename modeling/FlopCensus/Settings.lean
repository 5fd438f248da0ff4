import FlopCensus.Files.Basic
import FlopCensus.Host
import FlopCensus.Log
import FlopCensus.Yaml.Document

set_option autoImplicit false
set_option relaxedAutoImplicit false

/-!
# Settings

Settings come from a YAML document, which is a mapping, and from two variables of the environment,
which win over the document. A known key must have a value of its type; a key that is not known
only causes a warning.

## Main definitions

* `FlopCensus.Settings`: the settings.
* `FlopCensus.Settings.Error`: why settings cannot be had.
* `FlopCensus.Settings.ofDocument`: the settings in a document.
* `FlopCensus.Settings.load`: the settings of a host.
-/

namespace FlopCensus

open Numeral (Number)
open Yaml (Document Item Scalar)

/-- The settings of an analysis. -/
structure Settings where
  /-- The name or path of the syntax tool. -/
  syntaxTool : String := "verible-verilog-syntax"
  /-- Further directories in which the tool is looked for. -/
  searchPaths : List String := ["~/.local/bin", "/usr/local/bin", "/opt/homebrew/bin", "/usr/bin"]
  /-- The number of seconds that a run of the tool may take. -/
  timeout : Number := .real 30
  /-- The endings of the names of source files. -/
  extensions : List String := [".v", ".sv"]
  /-- The number of files that are parsed at a time. -/
  jobs : Int := 1
  /-- Results are kept. -/
  cacheEnabled : Bool := true
  /-- The greatest number of results that are kept. -/
  cacheSize : Int := 500
  /-- The number of seconds that a result is kept, zero being no limit. -/
  cacheLifetime : Float := 3600
  /-- The level of the log. -/
  logLevel : Option String := none
  /-- The document that the settings come from. -/
  sourceFile : Option String := none

namespace Settings

/-- Why settings cannot be had. -/
inductive Error where
  /-- There is no such document. -/
  | notFound (path : String)
  /-- The file cannot be read. -/
  | unreadable (path : String)
  /-- The file holds no text. -/
  | undecodable
  /-- The text is no YAML. -/
  | malformed (path : String)
  /-- A scalar in the document is no value of its type. -/
  | value (e : Yaml.Error)
  /-- The document is no mapping. -/
  | notMapping (path : String)
  /-- A value has the wrong type; it is given as shown. -/
  | invalid (key shown : String)
  /-- A value is no list of texts. -/
  | notTexts (key : String)
  /-- A section is no mapping. -/
  | sectionNotMapping (key : String)
  /-- Fewer than one result is to be kept. -/
  | cacheSize
  /-- Results are to be kept for a negative time. -/
  | cacheLifetime
  /-- The keys that are not known cannot be put in order. -/
  | unorderedKeys
  /-- A number is too large for a real. -/
  | tooLarge
  /-- A number is too long to be shown. -/
  | numeral (e : Numeral.Error)
deriving Repr, DecidableEq

/-- The wording of an error. -/
def Error.message : Error → String
  | .notFound path => "Configuration file not found: " ++ path
  | .unreadable path | .malformed path => "Failed to load YAML config '" ++ path ++ "'"
  | .undecodable => "the file is not UTF-8"
  | .value e => e.message
  | .notMapping path => path ++ ": top level must be a mapping"
  | .invalid key shown => "'" ++ key ++ "' has invalid value " ++ shown
  | .notTexts key => "'" ++ key ++ "' must be a list of strings"
  | .sectionNotMapping key => "'" ++ key ++ "' must be a mapping"
  | .cacheSize => "'cache.size' must be at least 1"
  | .cacheLifetime => "'cache.ttl' must not be negative"
  | .unorderedKeys => "the unknown keys cannot be compared"
  | .tooLarge => "int too large to convert to float"
  | .numeral e => e.message

/-- The error tells what is wrong with the settings, and does not come from reading them. -/
def Error.isForeseen : Error → Bool
  | .undecodable | .value _ | .unorderedKeys | .tooLarge | .numeral _ => false
  | _ => true

/-- The keys of a document that are known. -/
def knownKeys : List String :=
  ["syntax_binary", "search_paths", "timeout", "extensions", "jobs", "cache", "logging"]

/-- The name of the file that holds settings. -/
def fileName : String := ".svreg.yaml"

/-- The variable that names the syntax tool. -/
def toolVariable : String := "SVREG_VERIBLE_PATH"

/-- The variable that names the level of the log. -/
def levelVariable : String := "SVREG_LOG_LEVEL"

/-- A section of a document: a mapping in it. -/
structure Part where
  /-- The document. -/
  document : Document
  /-- The entries of the section. -/
  entries : List (Scalar × Item)

namespace Part

/-- The value of a key, if the section has the key. -/
def value? (s : Part) (key : String) : Option Item :=
  (s.entries.find? fun (k, _) => k.same (.text key)).map (·.2)

/-- A value has the wrong type. -/
def invalid {α : Type} (s : Part) (key : String) (v : Item) : Except Error α := do
  throw (.invalid key (← (s.document.quote v).mapError .numeral))

/-- The value of a key, which must be of a type. Without the key there is none. -/
def expect {α : Type} (s : Part) (key : String) (type : Scalar → Option α) :
    Except Error (Option α) := do
  match s.value? key with
  | none => return none
  | some v =>
    match (Document.scalar? v).bind type with
    | some a => return some a
    | none => s.invalid key v

/-- A list of texts; a list of no pairs is a list without texts. -/
def texts? (s : Part) (v : Item) : Option (List String) :=
  match s.document.collection? v with
  | some (.list items) => items.mapM fun
    | .scalar (.text t) => some t
    | _ => none
  | some (.pairs []) => some []
  | _ => none

/-- The value of a key, which must be a list of texts. -/
def expectTexts (s : Part) (key : String) : Except Error (Option (List String)) := do
  match s.value? key with
  | none => return none
  | some v =>
    match s.texts? v with
    | some ts => return some ts
    | none => throw (.notTexts key)

/-- The section below a key. Without the key, and with a value that counts as nothing, it is
empty. -/
def below (s : Part) (key : String) : Except Error Part := do
  match s.value? key with
  | none => return { s with entries := [] }
  | some v =>
    if s.document.isVoid v then return { s with entries := [] }
    else
      match s.document.mapping? v with
      | some es => return { s with entries := es }
      | none => throw (.sectionNotMapping key)

end Part

/-- A text. -/
def text? : Scalar → Option String
  | .text s => some s
  | _ => none

/-- A truth value. -/
def truth? : Scalar → Option Bool
  | .bool b => some b
  | _ => none

/-- A number. -/
def number? : Scalar → Option Number
  | .number n => some n
  | _ => none

/-- An integer. -/
def integer? : Scalar → Option Int
  | .number (.int i) => some i
  | _ => none

/-- A number of seconds. -/
def seconds (n : Number) : Except Error Float :=
  match n.toReal? with
  | some x => return x
  | none => throw .tooLarge

/-- The keys in order, if they can be put in order. -/
def inOrder (keys : List Scalar) : Option (List Scalar) :=
  let comparable := keys.tail.all fun k => keys.all fun l => (k.less? l).isSome
  if comparable then some (keys.mergeSort fun a b => (b.less? a) != some true) else none

/-- Warns of the keys that are not known. A key that is a number too long to be written out is
ignored as well, but the record of it is lost: who shows records drops those that have no text. -/
def warn (s : Part) : Attempt Error Unit := do
  let isKnown := fun (k : Scalar) => knownKeys.any fun n => k.same (.text n)
  match inOrder ((s.entries.map (·.1)).filter fun k => !isKnown k) with
  | none => throw .unorderedKeys
  | some keys => keys.forM fun k =>
    match k.words with
    | .ok name =>
      Attempt.tell .warning .settings ("Ignoring unknown configuration key: " ++ name)
    | .error _ => pure ()

/-- The ending of a name, with a point in front. -/
def withPoint (ending : String) : String :=
  if Text.opensWith ending "." then ending else "." ++ ending

/-- The settings with those of the `cache` section. -/
def withCache (settings : Settings) (s : Part) : Except Error Settings := do
  let enabled ← s.expect "enabled" truth?
  let size ← s.expect "size" integer?
  if size.any (· < 1) then throw .cacheSize
  let lifetime ← (← s.expect "ttl" number?).mapM seconds
  if lifetime.any (· < 0) then throw .cacheLifetime
  return { settings with
    cacheEnabled := enabled.getD settings.cacheEnabled
    cacheSize := size.getD settings.cacheSize
    cacheLifetime := lifetime.getD settings.cacheLifetime }

/-- The settings of a document that is a mapping. -/
def ofPart (s : Part) : Except Error Settings := do
  let usual : Settings := {}
  let tool ← s.expect "syntax_binary" text?
  let paths ← s.expectTexts "search_paths"
  let timeout ← (← s.expect "timeout" number?).mapM seconds
  let extensions ← s.expectTexts "extensions"
  let jobs ← s.expect "jobs" integer?
  let settings : Settings := {
    syntaxTool := tool.getD usual.syntaxTool
    searchPaths := paths.getD [] ++ usual.searchPaths
    timeout := (timeout.map .real).getD usual.timeout
    extensions := (extensions.map (·.map withPoint)).getD usual.extensions
    jobs := (jobs.map (max 1)).getD usual.jobs }
  let settings ← settings.withCache (← s.below "cache")
  let level ← (← s.below "logging").expect "level" text?
  return { settings with logLevel := level.map Text.upper }

/-- The settings of a document, with warnings about the keys that are not known. -/
def ofDocument (path : String) (d : Document) : Attempt Error Settings := do
  match d.root, d.mapping? d.root with
  | .scalar .null, _ => return {}
  | _, none => throw (.notMapping path)
  | _, some entries =>
    let s : Part := ⟨d, entries⟩
    warn s
    (ofPart s : Except Error Settings)

/-- The document in a file. -/
def readDocument (fs : FileSystem) (path : String) : Except Error Document := do
  let bytes ← (fs.read path).mapError fun _ => .unreadable path
  (Yaml.read (.ofBytes bytes)).mapError fun
    | .syntaxError .malformed | .value .malformed => .malformed path
    | .syntaxError .undecodable => .undecodable
    | e => .value e

/-- The first place of the usual ones that holds a document. -/
def usualFile? (h : Host) : Option String :=
  [h.files.workingPath, h.expandHome "~"].map (Files.join · fileName) |>.find? h.files.isFile

/-- The settings with what the environment says. -/
def withVariables (settings : Settings) (h : Host) : Settings :=
  { settings with
    syntaxTool := (h.filled? toolVariable).getD settings.syntaxTool
    logLevel := ((h.filled? levelVariable).map Text.upper).or settings.logLevel }

/-- The settings of a host, from the document at a path or else from the usual places. -/
def load (h : Host) (path : Option String) : Attempt Error Settings := do
  if let some p := path then
    if !h.files.isFile p then throw (.notFound p)
  match (path.filter (· != "")).or (usualFile? h) with
  | none => return ({} : Settings).withVariables h
  | some file =>
    let d ← (readDocument h.files file : Except Error Document)
    let settings ← ofDocument file d
    Attempt.tell .info .settings ("Loaded configuration from " ++ file)
    return { settings with sourceFile := some file }.withVariables h

end Settings

end FlopCensus
