import FlopCensus.Design.Analysis
import FlopCensus.Slang.Source
import FlopCensus.Verible

set_option autoImplicit false
set_option relaxedAutoImplicit false

/-!
# Sources of dumps

A source prints the syntax tree of a file. Two kinds are known: the Verible tool and the slang front
end.

A source may fail in a way that is foreseen, or in any other way; both end only the analysis of the
one file.

## Main definitions

* `FlopCensus.SourceFailure`: a failure of a source.
* `FlopCensus.TreeSource`: a source.
* `FlopCensus.TreeSource.verible`, `FlopCensus.TreeSource.slang`: the known ones.
-/

namespace FlopCensus

/-- A failure of a source. -/
inductive SourceFailure where
  /-- A failure of the Verible tool. -/
  | verible (e : Verible.Error Command.Error)
  /-- A failure of the slang front end. -/
  | slang (e : Slang.Failure)
  /-- A failure that is foreseen. -/
  | foreseen (message : String)
  /-- A failure of another kind. -/
  | other (kind text : String)
deriving Repr, DecidableEq

namespace SourceFailure

/-- What is written for an error in the path of a command or a limit that cannot be kept; nothing is
for a foreseen failure. -/
def ofCommand? (e : Command.Error) : Option String :=
  match e with
  | .file ⟨.nullByte, _⟩ => some ("ValueError: " ++ e.message)
  | .limit .notNumber => some ("ValueError: " ++ e.message)
  | .limit _ => some ("OverflowError: " ++ e.message)
  | _ => none

/-- What is written for a failure that is not foreseen. -/
def unforeseen? (f : SourceFailure) : Option String :=
  match f with
  | .verible (.command e) => ofCommand? e
  | .verible _ => none
  | .slang .notInstalled => some ("ImportError: " ++ Slang.Failure.message .notInstalled)
  | .slang .noParser => some ("ModuleNotFoundError: " ++ Slang.Failure.message .noParser)
  | .slang (.refused ..) => none
  | .slang (.foreign kind text) => some (kind ++ ": " ++ text)
  | .foreseen _ => none
  | .other kind text => some (kind ++ ": " ++ text)

/-- The failure is the source's own and not one of the system. -/
def isOwn : SourceFailure → Bool
  | .verible (.command (.file _)) | .verible (.command (.limit _)) => false
  | .verible _ => true
  | .slang (.refused ..) => true
  | .slang _ => false
  | .foreseen _ => true
  | .other .. => false

/-- The wording of a failure. -/
def message : SourceFailure → String
  | .verible e => e.message Command.Error.message
  | .slang e => e.message
  | .foreseen text => text
  | .other _ text => text

end SourceFailure

/-- What prints syntax trees. -/
structure TreeSource (σ : Type) where
  /-- The name of the tool behind the source. -/
  name : String
  /-- The dump of a file. -/
  printTree : (path : String) → Trial σ SourceFailure ToolOutput
  /-- The version of the tool. -/
  version : Trial σ SourceFailure String := return "unknown"

namespace TreeSource

variable {σ : Type}

/-- The Verible tool as a source. -/
def verible (e : Executor σ Command.Error) (settings : Settings) :
    TreeSource (Verible.Located × σ) where
  name := "verible-verilog-syntax"
  printTree path := Trial.mapError .verible (Verible.printTree e settings path)
  version := Trial.mapError .verible (Verible.version e settings)

/-- The slang front end as a source. -/
def slang (frontend : Option Slang.Frontend) : TreeSource σ where
  name := Slang.sourceName
  printTree path := ExceptT.mk do
    return (← Session.lift (Slang.printTree frontend path).run).mapError .slang
  version := return Slang.version frontend

end TreeSource

end FlopCensus
