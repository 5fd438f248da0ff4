import FlopCensus.Numeral.Integer
import FlopCensus.Text.Word
import FlopCensus.Tree.Basic

set_option autoImplicit false
set_option relaxedAutoImplicit false

/-!
# Lines of a tree dump

A syntax tool prints a tree with one element per line, nesting being shown by indentation:

    Node @0 (tag: kModuleHeader) …
      Leaf @0 (#"module" @0-6: "module")

A node line may go on after the tag in any way. A leaf line ends with the text of the token, which
is not escaped; it reaches to the last `")` of the line. All other lines say nothing about the tree.

## Main definitions

* `FlopCensus.Dump.LeafLine`: the parts of a leaf line.
* `FlopCensus.Dump.nodeLine?`, `FlopCensus.Dump.leafLine?`: recognition of either kind of line.
* `FlopCensus.Dump.Entry`: an element with its indentation.
* `FlopCensus.Dump.readLine`: the entry of a line, if it holds one.
-/

namespace FlopCensus.Dump

open Text

/-- An element of a tree with the width of its indentation. -/
structure Entry where
  /-- The number of blanks in front. -/
  indent : Nat
  /-- The element. -/
  element : Element
deriving Repr, DecidableEq

/-- The parts of a leaf line, offsets being numerals of any length. -/
structure LeafLine where
  /-- The number of blanks in front. -/
  indent : Nat
  /-- The tag with its quotes, if it has any. -/
  tag : List Char
  /-- The numeral of the first byte. -/
  start : List Char
  /-- The numeral behind the last byte. -/
  stop : List Char
  /-- The text of the token. -/
  text : List Char
deriving Repr, DecidableEq

/-- Why a dump holds no tree. -/
inductive Error where
  /-- No line is a node. -/
  | noNodes
  /-- An offset could not be read. -/
  | offset (cause : Numeral.Error)
  /-- Levels of no width cannot be counted. -/
  | zeroIndentWidth
deriving Repr, DecidableEq

/-- The wording of an error. -/
def Error.message : Error → String
  | .noNodes => "tree dump contains no nodes"
  | .offset cause => cause.message
  | .zeroIndentWidth => "integer division or modulo by zero"

/-- The rest of a line behind a fixed text. -/
def after? (text : String) (s : List Char) : Option (List Char) :=
  text.toList.isPrefixOf? s

/-- The longest run of a class at the front, which must not be empty, and the rest. -/
def run? (p : Char → Bool) (s : List Char) : Option (List Char × List Char) :=
  match s.takeWhile p with
  | [] => none
  | c :: run => some (c :: run, s.dropWhile p)

/-- The indentation of a line and the rest. -/
def splitIndent (s : List Char) : Nat × List Char :=
  ((s.takeWhile isBlank).length, s.dropWhile isBlank)

/-- The indentation and tag of a node line. -/
def nodeLine? (s : List Char) : Option (Nat × List Char) := do
  let (indent, s) := splitIndent s
  let s ← after? "Node @" s
  let (_, s) ← run? isDigit s
  let s ← after? " (tag: " s
  let (tag, s) ← run? isWordChar s
  -- what follows the tag does not matter
  let _ ← after? ")" s
  return (indent, tag)

/-- A text up to the next quote, both quotes included, and the rest. -/
def quoted? (q : Char) (s : List Char) : Option (List Char × List Char) :=
  match s.dropWhile (· != q) with
  | _ :: rest => some (q :: s.takeWhile (· != q) ++ [q], rest)
  | [] => none

/-- The tag of a leaf: a quoted text or a word. -/
def leafTag? (s : List Char) : Option (List Char × List Char) :=
  match s with
  | '"' :: rest => quoted? '"' rest
  | '\'' :: rest => quoted? '\'' rest
  | _ => run? isWordChar s

/-- The text of a token from the rest of its line, which closes with `")` and blanks. -/
def leafText? (s : List Char) : Option (List Char) :=
  match (dropEndBy isBlank s).reverse with
  | ')' :: '"' :: text => some text.reverse
  | _ => none

/-- The parts of a leaf line. -/
def leafLine? (s : List Char) : Option LeafLine := do
  let (indent, s) := splitIndent s
  let s ← after? "Leaf @" s
  let (_, s) ← run? isDigit s
  let s ← after? " (#" s
  let (tag, s) ← leafTag? s
  let s ← after? " @" s
  let (start, s) ← run? isDigit s
  let s ← after? "-" s
  let (stop, s) ← run? isDigit s
  let s ← after? ": \"" s
  let text ← leafText? s
  return { indent, tag, start, stop, text }

/-- A quote of either kind, which is no part of a tag at its ends. -/
def isQuote (c : Char) : Bool :=
  c == '"' || c == '\''

/-- An offset from its numeral. -/
def offset (digits : List Char) : Except Error Nat :=
  match Numeral.read (String.ofList digits) with
  | .ok n => .ok n.toNat
  | .error e => .error (.offset e)

/-- The token of a leaf line. -/
def LeafLine.token (l : LeafLine) : Except Error Leaf := do
  let start ← offset l.start
  let stop ← offset l.stop
  return {
    tag := String.ofList (stripBy isQuote l.tag)
    text := String.ofList l.text
    start, stop }

/-- The entry of a line, or nothing if the line says nothing about the tree. -/
def readLine (s : List Char) : Except Error (Option Entry) :=
  match nodeLine? s with
  | some (indent, tag) => .ok (some ⟨indent, .node (String.ofList tag)⟩)
  | none =>
    match leafLine? s with
    | some l => l.token.map fun token => some ⟨l.indent, .leaf token⟩
    | none => .ok none

end FlopCensus.Dump
