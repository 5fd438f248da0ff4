import FlopCensus.CommandLine.Grammar
import FlopCensus.Numeral.Integer
import FlopCensus.Report.Format

set_option autoImplicit false
set_option relaxedAutoImplicit false

/-!
# The options of the program

## Main definitions

* `FlopCensus.CommandLine.Given`: the value that an option is given.
* `FlopCensus.CommandLine.Common`, `FlopCensus.CommandLine.Analysis`: what can be asked for.
* `FlopCensus.CommandLine.Request`: what is asked for.
* `FlopCensus.CommandLine.request`: what arguments ask for.
* `FlopCensus.CommandLine.Page.usage`, `FlopCensus.CommandLine.Page.help`: the texts for users.
-/

namespace FlopCensus.CommandLine

/-- The value that an option is given. -/
inductive Given (β : Type) where
  /-- The option is not written. -/
  | absent
  /-- Only the place of the value is kept. -/
  | blank
  /-- A value. -/
  | value (b : β)
deriving Repr, DecidableEq

/-- What can be asked of every command. -/
structure Common where
  format : Given String := .value "markdown"
  config : Given String := .absent
  verbose : Bool := false
  quiet : Bool := false
deriving Repr, DecidableEq

/-- What can be asked of an analysis. -/
structure Analysis where
  path : String := ""
  recursive : Bool := false
  pattern : Given String := .absent
  module : Given String := .absent
  sections : Given String := .value "all"
  source : Given String := .value "verible"
  jobs : Given Int := .absent
  noCache : Bool := false
deriving Repr, DecidableEq

/-- A command. -/
inductive Action where
  /-- The registers of files are reported. -/
  | analyze (a : Analysis)
  /-- The version of a source is told. -/
  | version (source : Given String)
deriving Repr, DecidableEq

/-- What is asked for. -/
structure Request where
  common : Common
  /-- The command; there may be none. -/
  action : Option Action
deriving Repr, DecidableEq

/-- The names of the sources. -/
def sourceNames : List String := ["verible", "slang"]

/-- The commands. -/
def commandNames : List String := ["analyze", "version"]

/-- The sections of a report that can be chosen. -/
def sectionNames : List String := ["registers", "modules", "all"]

/-- The option that asks for help. -/
def helpOption {α : Type} : Opt α :=
  { names := ["-h", "--help"], effect := .help }

/-- The effect of an option whose argument is read as a value. -/
def Effect.ofValue {α β : Type} (read : String → Except String β) (set : Given β → α → α) :
    Effect α :=
  .value (fun s => (read s).map (set ∘ .value)) (set .blank)

/-- The grammar in front of the command. -/
def commonGrammar : Grammar Common where
  options := [
    helpOption,
    { names := ["--format"]
      effect := .ofValue (chooseFrom Report.formats.keys) fun g c => { c with format := g } },
    { names := ["--config"], effect := .ofValue pure fun g c => { c with config := g } },
    { names := ["-v", "--verbose"]
      effect := .toggle ({ · with verbose := true })
      excludes := [["-q", "--quiet"]] },
    { names := ["-q", "--quiet"]
      effect := .toggle ({ · with quiet := true })
      excludes := [["-v", "--verbose"]] }]
  operand := .command "command"

/-- A whole number as a value. -/
def wholeNumber (s : String) : Except String Int :=
  match Numeral.read s with
  | .ok n => .ok n
  | .error _ => .error ("invalid int value: " ++ Text.quote s)

/-- The grammar behind `analyze`. -/
def analysisGrammar : Grammar Analysis where
  options := [
    helpOption,
    { names := ["-r", "--recursive"], effect := .toggle ({ · with recursive := true }) },
    { names := ["--pattern"], effect := .ofValue pure fun g a => { a with pattern := g } },
    { names := ["--module"], effect := .ofValue pure fun g a => { a with module := g } },
    { names := ["--type"]
      effect := .ofValue (chooseFrom sectionNames) fun g a => { a with sections := g } },
    { names := ["--source"]
      effect := .ofValue (chooseFrom sourceNames) fun g a => { a with source := g } },
    { names := ["-j", "--jobs"], effect := .ofValue wholeNumber fun g a => { a with jobs := g } },
    { names := ["--no-cache"], effect := .toggle ({ · with noCache := true }) }]
  operand := .one "PATH"

/-- The grammar behind `version`. -/
def versionGrammar : Grammar (Given String) where
  options := [
    helpOption,
    { names := ["--source"], effect := .ofValue (chooseFrom sourceNames) fun g _ => g }]
  operand := .none

/-- The part of the program whose texts are shown. -/
inductive Page where
  | program
  | analyze
  | version
deriving Repr, DecidableEq

/-- The name of the program, with the command. -/
def Page.name : Page → String
  | .program => "regscan.py"
  | .analyze => "regscan.py analyze"
  | .version => "regscan.py version"

/-- How the program is called. -/
def Page.usage : Page → String
  | .program =>
    "usage: regscan.py [-h] [--format \x7bmarkdown,csv,json,html\x7d] [--config FILE]\n" ++
    "                  [-v | -q]\n" ++
    "                  \x7banalyze,version\x7d ...\n"
  | .analyze =>
    "usage: regscan.py analyze [-h] [-r] [--pattern PATTERN] [--module MODULE]\n" ++
    "                          [--type \x7bregisters,modules,all\x7d]\n" ++
    "                          [--source \x7bverible,slang\x7d] [-j JOBS] [--no-cache]\n" ++
    "                          PATH\n"
  | .version => "usage: regscan.py version [-h] [--source \x7bverible,slang\x7d]\n"

/-- What the options mean. -/
def Page.meanings : Page → String
  | .program =>
    "Register inventory for Verilog/SystemVerilog designs.\n\n" ++
    "positional arguments:\n" ++
    "  \x7banalyze,version\x7d\n" ++
    "    analyze             Find flip-flops and latches and count their bits.\n" ++
    "    version             Show the version of the tree source.\n\n" ++
    "options:\n" ++
    "  -h, --help            show this help message and exit\n" ++
    "  --format \x7bmarkdown,csv,json,html\x7d\n" ++
    "                        Output format (default: markdown).\n" ++
    "  --config FILE         YAML configuration file (default: ./.svreg.yaml or\n" ++
    "                        ~/.svreg.yaml).\n" ++
    "  -v, --verbose         Enable debug logging.\n" ++
    "  -q, --quiet           Only log errors.\n"
  | .analyze =>
    "positional arguments:\n" ++
    "  PATH                  Verilog/SystemVerilog file, or directory with\n" ++
    "                        --recursive.\n\n" ++
    "options:\n" ++
    "  -h, --help            show this help message and exit\n" ++
    "  -r, --recursive       Analyse every source file below PATH.\n" ++
    "  --pattern PATTERN     Glob restricting which file names are analysed (e.g.\n" ++
    "                        '*_reg.sv').\n" ++
    "  --module MODULE       Only report this module.\n" ++
    "  --type \x7bregisters,modules,all\x7d\n" ++
    "                        Sections to report (default: all).\n" ++
    "  --source \x7bverible,slang\x7d\n" ++
    "                        Tree source (default: verible).\n" ++
    "  -j JOBS, --jobs JOBS  Number of files parsed concurrently (default: from\n" ++
    "                        config, 1).\n" ++
    "  --no-cache            Do not reuse results of unchanged files.\n"
  | .version =>
    "options:\n" ++
    "  -h, --help            show this help message and exit\n" ++
    "  --source \x7bverible,slang\x7d\n" ++
    "                        Tree source (default: verible).\n"

/-- The text for users who ask for help. -/
def Page.help (p : Page) : String :=
  p.usage ++ "\n" ++ p.meanings

/-- A fault with the part of the program that finds it. -/
structure Refusal where
  page : Page
  fault : Fault
deriving Repr, DecidableEq

/-- The text for users whose arguments are wrong. -/
def Refusal.message (r : Refusal) : String :=
  r.page.usage ++ r.page.name ++ ": error: " ++ r.fault.message ++ "\n"

/-- The command that arguments ask for, with those that fit nowhere. -/
def action (name : String) (arguments : List String) : Except Refusal (Action × List String) :=
  if name == "analyze" then
    match analysisGrammar.read {} arguments with
    | .error fault => .error ⟨.analyze, fault⟩
    | .ok p =>
      let path := (p.operand.bind (·.head?)).getD ""
      .ok (.analyze { p.values with path }, p.extras)
  else
    match versionGrammar.read (.value "verible") arguments with
    | .error fault => .error ⟨.version, fault⟩
    | .ok p => .ok (.version p.values, p.extras)

/-- What arguments ask for. -/
def request (arguments : List String) : Except Refusal Request := do
  let refuse := fun {α : Type} (fault : Fault) => (throw ⟨.program, fault⟩ : Except Refusal α)
  match commonGrammar.read {} arguments with
  | .error fault => refuse fault
  | .ok p =>
    let (found, extras) ← match p.operand with
      | none | some [] => pure (none, [])
      | some (name :: rest) =>
        match chooseFrom commandNames name with
        | .error text => refuse (.argument "command" text)
        | .ok _ => do
          let (a, extras) ← action name rest
          pure (some a, extras)
    match p.extras ++ extras with
    | [] => return { common := p.values, action := found }
    | texts => refuse (.unrecognized texts)

end FlopCensus.CommandLine
