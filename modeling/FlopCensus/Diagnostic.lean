import FlopCensus.Numeral.Integer
import FlopCensus.Text.Lines
import FlopCensus.Text.Search

set_option autoImplicit false
set_option relaxedAutoImplicit false

/-!
# What a syntax tool complains about

The messages that a syntax tool writes to its error stream are recognised by fixed phrases. A
syntax error names its place as `Error: message at file:line:column` on one line; the last ` at `
that leaves a place behind it separates message and place, and the last pair of numbers in the
place gives line and column.

## Main definitions

* `FlopCensus.Diagnostic`: the complaints that are told apart.
* `FlopCensus.Diagnostic.ofStderr`: the complaint in an error stream.
* `FlopCensus.warningLines`: the lines that carry a warning.
-/

namespace FlopCensus

open Text

/-- A complaint of a syntax tool. -/
inductive Diagnostic where
  /-- The source is refused at a place. -/
  | syntaxError (text file : String) (line column : Nat)
  /-- The tool does not know a flag. -/
  | unknownFlag (flag tool : String)
  /-- The tool does not find its input. -/
  | fileNotFound (path : String)
  /-- The tool refuses an argument. -/
  | invalidArgument (argument : String)
  /-- The source is refused in other words. -/
  | refused (stderr : String)
deriving Repr, DecidableEq

namespace Diagnostic

/-- The name of the kind of complaint. -/
def code : Diagnostic → String
  | .syntaxError .. => "SYNTAX_ERROR"
  | .unknownFlag .. => "INVALID_FLAG"
  | .fileNotFound _ => "FILE_NOT_FOUND"
  | .invalidArgument _ => "INVALID_ARGUMENT"
  | .refused _ => "PARSE_ERROR"

/-- The complaint in words. -/
def message : Diagnostic → String
  | .syntaxError text _ _ _ => text
  | .unknownFlag flag _ => "Unknown flag: " ++ flag
  | .fileNotFound path => "File not found: " ++ path
  | .invalidArgument argument => "Invalid argument: " ++ argument
  | .refused _ => "Failed to parse input file"

/-- What to do about it, where there is a proposal. -/
def suggestion : Diagnostic → Option String
  | .unknownFlag _ tool => some ("Check available flags with '" ++ tool ++ " --help'")
  | _ => none

/-- A nonempty numeral at the front. -/
def numeral? (s : List Char) : Option (List Char × List Char) :=
  match s.takeWhile isDigit with
  | [] => none
  | digits => some (digits, s.dropWhile isDigit)

/-- The parts of a line `text at file:line:column`. -/
structure Place where
  /-- What stands in front of the place. -/
  text : List Char
  /-- The path. -/
  file : List Char
  /-- The numeral of the line. -/
  line : List Char
  /-- The numeral of the column. -/
  column : List Char
deriving Repr, DecidableEq

/-- The numerals of a line and a column at the front, parted by a colon. -/
def numerals? (s : List Char) : Option (List Char × List Char) := do
  let (line, s) ← numeral? s
  let s ← [':'].isPrefixOf? s
  let (column, _) ← numeral? s
  return (line, column)

/-- The file, line and column of a place: the last cut at a colon that leaves two numerals. -/
def file? (s : List Char) : Option (List Char × List Char × List Char) :=
  (splitsAt [':'] s).reverse.findSome? fun (file, rest) => do
    if file.isEmpty then none
    let (line, column) ← numerals? rest
    return (file, line, column)

/-- The parts of a line behind the word that opens it: the last cut that leaves a place. -/
def place? (s : List Char) : Option Place :=
  (splitsAt " at ".toList s).reverse.findSome? fun (text, rest) => do
    if text.isEmpty then none
    let (file, line, column) ← file? rest
    return { text, file, line, column }

/-- The rest of the line, the line ending at a line feed alone. -/
def restOfLine (s : List Char) : List Char :=
  s.takeWhile (· != '\n')

/-- The rest of the line behind the first occurrence of a phrase that does not end its line. -/
def afterPhrase? (phrase : String) (s : List Char) : Option String :=
  (behind phrase.toList s).findSome? fun rest =>
    let rest := restOfLine rest
    if rest.isEmpty then none else some (String.ofList rest)

/-- The complaint at a place, its numerals being read. -/
def atPlace (p : Place) : Except Numeral.Error Diagnostic := do
  let line ← Numeral.read (String.ofList p.line)
  let column ← Numeral.read (String.ofList p.column)
  return .syntaxError (String.ofList p.text) (String.ofList p.file) line.toNat column.toNat

/-- The phrases of a refusal without a place. -/
def refusals : List String := ["Parse error", "Syntax error", "syntax error"]

/-- The complaint in an error stream, of which the tool is known by name. -/
def ofStderr (stderr tool : String) : Except Numeral.Error (Option Diagnostic) :=
  let s := stderr.toList
  match (behind "Error: ".toList s).findSome? fun rest => place? (restOfLine rest) with
  | some p => (atPlace p).map some
  | none =>
    -- the phrases count in this order, wherever they stand
    match afterPhrase? "Unknown flag: " s with
    | some flag => .ok (some (.unknownFlag flag tool))
    | none =>
      match afterPhrase? "File not found: " s with
      | some path => .ok (some (.fileNotFound path))
      | none =>
        match afterPhrase? "Invalid argument: " s with
        | some argument => .ok (some (.invalidArgument argument))
        | none =>
          if refusals.any fun phrase => occurs phrase.toList s then .ok (some (.refused stderr))
          else .ok none

end Diagnostic

/-- The lines of an error stream that carry a warning, without the blanks around them. -/
def warningLines (stderr : String) : List String :=
  ((splitLines stderr.toList).filter fun line =>
    occurs "Warning:".toList line || occurs "warning:".toList line).map fun line =>
      String.ofList (stripChars line)

end FlopCensus
