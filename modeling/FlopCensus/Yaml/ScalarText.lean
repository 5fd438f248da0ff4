import FlopCensus.Json.Reader
import FlopCensus.Numeral.Integer
import FlopCensus.Text.Surrogate
import FlopCensus.Yaml.Property

set_option autoImplicit false
set_option relaxedAutoImplicit false

/-!
# Scalars of YAML

A scalar is a text in one of five styles: plain, in single or double quotes, or as an indented block
whose lines are kept or folded. In all but the kept block a single line end is folded to a blank,
and line ends after it are kept.

## Main definitions

* `FlopCensus.Yaml.readQuoted`: a scalar in quotes.
* `FlopCensus.Yaml.readPlain`: a plain scalar.
* `FlopCensus.Yaml.readBlock`: a scalar as a block.
-/

namespace FlopCensus.Yaml

/-! ### Line ends inside scalars -/

/-- Line ends with the blanks of a class between them. -/
def breaksWith (blank : Char → Bool) : Nat → Cursor → List Char × Cursor
  | 0, c => ([], c)
  | n + 1, c =>
    let c := c.skipWhile blank
    match c.lineBreak? with
    | none => ([], c)
    | some (ch, c) =>
      let (more, c) := breaksWith blank n c
      (ch :: more, c)

/-- What a line end and the line ends after it stand for. -/
def fold (first : Char) (more : List Char) : List Char :=
  (if first != '\n' then [first] else if more.isEmpty then [' '] else []) ++ more

/-! ### Quotes -/

/-- The characters that a letter behind a backslash stands for. -/
def letterEscape? : Char → Option Char
  | '0' => some '\x00'
  | 'a' => some '\x07'
  | 'b' => some '\x08'
  | 't' | '\t' => some '\t'
  | 'n' => some '\n'
  | 'v' => some '\x0b'
  | 'f' => some '\x0c'
  | 'r' => some '\r'
  | 'e' => some '\x1b'
  | ' ' => some ' '
  | '"' => some '"'
  | '\\' => some '\\'
  | '/' => some '/'
  | 'N' => some '\u0085'
  | '_' => some '\u00a0'
  | 'L' => some '\u2028'
  | 'P' => some '\u2029'
  | _ => none

/-- The number of digits that follow a letter behind a backslash. -/
def escapeWidth? : Char → Option Nat
  | 'x' => some 2
  | 'u' => some 4
  | 'U' => some 8
  | _ => none

/-- The number written by some hexadecimal digits. -/
def hexNumber? (digits : List Char) : Option Nat :=
  (digits.mapM Json.hexValue?).map (Numeral.valueOf 16)

/-- The greatest number of a character. -/
def lastCode : Nat := 0x10ffff

/-- Line ends inside quotes, where no mark of a document may stand at the start of a line. -/
def quotedBreaks : Nat → Cursor → Scan (List Char × Cursor)
  | 0, c => return ([], c)
  | n + 1, c => do
    c.require (!c.seesDocumentMark)
    let c := c.skipWhile isIndentChar
    match c.lineBreak? with
    | none => return ([], c)
    | some (ch, c) =>
      let (more, c) ← quotedBreaks n c
      return (ch :: more, c)

/-- What a backslash introduces, from behind it on. -/
def readEscape (c : Cursor) : Scan (List Char × Cursor) := do
  match c.next with
  | none => c.refuse
  | some ch =>
    match letterEscape? ch, escapeWidth? ch with
    | some value, _ => return ([value], c.advance)
    | none, some width =>
      let digits := c.advance.rest.take width
      match hexNumber? digits with
      | none => throw .malformed
      | some code =>
        if digits.length < width then throw .cutOff
        else if code > lastCode then throw (.noCharacter code)
        else return ([Text.ofCode code], c.advance.skip width)
    | none, none =>
      c.require (isBreak ch)
      quotedBreaks c.bound c.advance

/-- A run of blanks inside quotes, with the line ends behind it. -/
def readQuotedBlanks (c : Cursor) : Scan (List Char × Cursor) := do
  let (blanks, c) := c.span isIndentChar
  match c.next, c.lineBreak? with
  | none, _ => c.refuse
  | _, some (first, c) =>
    let (more, c) ← quotedBreaks c.bound c
    return (fold first more, c)
  | _, none => return (blanks, c)

/-- The text up to the closing quote, which is `"` or `'`. -/
def quotedText (double : Bool) : Nat → Cursor → Scan (List Char × Cursor)
  | 0, c => c.refuse
  | n + 1, c => do
    let quote := if double then '"' else '\''
    let (piece, c) ←
      match c.next with
      | none => c.refuse
      | some ch =>
        if ch == quote then
          if !double && c.second == some quote then pure (['\''], c.skip 2)
          else return ([], c.advance)
        else if double && ch == '\\' then readEscape c.advance
        else if isIndentChar ch || isBreak ch then readQuotedBlanks c
        else pure ([ch], c.advance)
    let (rest, c) ← quotedText double n c
    return (piece ++ rest, c)

/-- A scalar in quotes, from the opening one on. -/
def readQuoted (double : Bool) (c : Cursor) : Scan (String × Cursor) := do
  let (text, c) ← quotedText double c.bound c.advance
  return (String.ofList text, c)

/-! ### Plain scalars -/

/-- A character that has a meaning of its own between brackets. -/
def isFlowMark (c : Char) : Bool :=
  c == ',' || c == '[' || c == ']' || c == '\x7b' || c == '\x7d'

/-- The characters of a plain scalar up to a blank or another end. -/
def plainRun (inFlow : Bool) : List Char → List Char
  | [] => []
  | ch :: rest =>
    let next := rest.head?
    let ends := isGap (some ch) ||
      (ch == ':' && (isGap next || (inFlow && next.any isFlowMark))) ||
      (inFlow && (ch == '?' || isFlowMark ch))
    if ends then [] else ch :: plainRun inFlow rest

/-- Line ends behind a plain scalar with the blanks between them, up to a mark of a document. -/
def plainBreaks : Nat → Cursor → Option (List Char) × Cursor
  | 0, c => (some [], c)
  | n + 1, c =>
    if c.seesDocumentMark then (none, c)
    else
      let c := c.skipBlanks
      match c.lineBreak? with
      | none => (some [], c)
      | some (ch, c) =>
        let (more, c) := plainBreaks n c
        (more.map (ch :: ·), c)

/-- What follows a run of a plain scalar. -/
structure PlainGap where
  /-- The blanks or folded line ends, if the scalar may go on behind them. -/
  text : List Char
  /-- A line end was passed. -/
  crossed : Bool

/-- The blanks and line ends behind a run of a plain scalar. -/
def readPlainGap (c : Cursor) : PlainGap × Cursor :=
  let (blanks, c) := c.span (· == ' ')
  match c.lineBreak? with
  | none => (⟨blanks, false⟩, c)
  | some (first, c) =>
    match plainBreaks c.bound c with
    | (none, c) => (⟨[], true⟩, c)
    | (some more, c) => (⟨fold first more, true⟩, c)

/-- A plain scalar as it was read. -/
structure Plain where
  /-- The text. -/
  text : List Char
  /-- A line end was passed after its last run. -/
  crossed : Bool

/-- Runs of a plain scalar whose lines are indented by `indent` at least; `before` stands between
the run before and the next. -/
def plainText (inFlow : Bool) (indent : Nat) (before : PlainGap) : Nat → Cursor → Plain × Cursor
  | 0, c => (⟨[], before.crossed⟩, c)
  | n + 1, c =>
    let run := if c.sees '#' then [] else plainRun inFlow c.rest
    if run.isEmpty then (⟨[], before.crossed⟩, c)
    else
      let (gap, c) := readPlainGap (c.skip run.length)
      if gap.text.isEmpty || c.sees '#' || (!inFlow && c.column < indent) then
        (⟨before.text ++ run, gap.crossed⟩, c)
      else
        let (rest, c) := plainText inFlow indent gap n c
        (⟨before.text ++ run ++ rest.text, rest.crossed⟩, c)

/-- A plain scalar. -/
def readPlain (inFlow : Bool) (indent : Nat) (c : Cursor) : Plain × Cursor :=
  plainText inFlow indent ⟨[], false⟩ (c.bound + 1) c

/-! ### Blocks -/

/-- What becomes of the line ends at the end of a block. -/
inductive Chomping where
  /-- One line end stays. -/
  | clip
  /-- None stays. -/
  | strip
  /-- All stay. -/
  | keep
deriving Repr, DecidableEq

/-- The marks behind the mark of a block. -/
structure BlockHeader where
  /-- What becomes of the line ends at the end. -/
  chomping : Chomping
  /-- The number of columns that the block is indented by. -/
  increment : Option Nat

/-- The mark of a chomping. -/
def chomping? : Char → Option Chomping
  | '+' => some .keep
  | '-' => some .strip
  | _ => none

/-- A mark, and the place behind it. -/
def mark? {α : Type} (f : Char → Option α) (c : Cursor) : Option α × Cursor :=
  match c.next.bind f with
  | some a => (some a, c.advance)
  | none => (none, c)

/-- The marks of a block, in either order. -/
def readBlockHeader (c : Cursor) : Scan (BlockHeader × Cursor) := do
  let digit? := Numeral.digitIn 10
  let (chomping, c) := mark? chomping? c
  let (increment, c) := mark? digit? c
  let (late, c) := if chomping.isSome then (none, c) else
    if increment.isSome then mark? chomping? c else (none, c)
  c.require (increment != some 0 && isBlankOrEnd c.next)
  return (⟨(chomping.or late).getD .clip, increment⟩, c)

/-- The blanks of a line up to a column. -/
def skipTo (column : Nat) : Nat → Cursor → Cursor
  | 0, c => c
  | n + 1, c => if c.column < column && c.sees ' ' then skipTo column n c.advance else c

/-- Empty lines of a block, up to the given column of the next line. -/
def blockBreaks (indent : Nat) : Nat → Cursor → List Char × Cursor
  | 0, c => ([], c)
  | n + 1, c =>
    let c := skipTo indent indent c
    match c.lineBreak? with
    | none => ([], c)
    | some (ch, c) =>
      let (more, c) := blockBreaks indent n c
      (ch :: more, c)

/-- Empty lines at the start of a block, and the greatest column that their blanks and those of the
line behind them reach. -/
def leadingBreaks (deepest : Nat) : Nat → Cursor → List Char × Nat × Cursor
  | 0, c => ([], deepest, c)
  | n + 1, c =>
    let c := c.skipBlanks
    let deepest := max deepest c.column
    match c.lineBreak? with
    | none => ([], deepest, c)
    | some (ch, c) =>
      let (more, deepest, c) := leadingBreaks deepest n c
      (ch :: more, deepest, c)

/-- The lines of a block, with the empty lines before each. -/
structure BlockLines where
  /-- The text up to the last line. -/
  text : List Char
  /-- The line end behind it. -/
  last : List Char
  /-- The empty lines at the end. -/
  breaks : List Char

/-- The lines of a block that stand at a column, `breaks` being the line ends before the first. -/
def blockLines (folded : Bool) (indent : Nat) (breaks : List Char) :
    Nat → Cursor → BlockLines × Cursor
  | 0, c => (⟨[], [], breaks⟩, c)
  | n + 1, c =>
    if c.column != indent || c.next.isNone then (⟨[], [], breaks⟩, c)
    else
      let wordFirst := !c.next.any isIndentChar
      let (line, c) := c.span fun ch => !isBreak ch
      let (last, c) := match c.lineBreak? with
        | some (ch, c) => ([ch], c)
        | none => ([], c)
      let (more, c) := blockBreaks indent c.bound c
      let front := breaks ++ line
      if c.column == indent && c.next.isSome then
        let joint :=
          if folded && last == ['\n'] && wordFirst && !c.next.any isIndentChar then
            if more.isEmpty then [' '] else []
          else last
        let (rest, c) := blockLines folded indent more n c
        (⟨front ++ joint ++ rest.text, rest.last, rest.breaks⟩, c)
      else (⟨front, last, more⟩, c)

/-- A scalar as a block below a node that is indented by `indent` columns less one. -/
def readBlock (folded : Bool) (indent : Nat) (c : Cursor) : Scan (String × Cursor) := do
  let (header, c) ← readBlockHeader c.advance
  let c ← endLine c
  let least := max indent 1
  let (breaks, column, c) :=
    match header.increment with
    | some n =>
      let column := least + n - 1
      let (breaks, c) := blockBreaks column c.bound c
      (breaks, column, c)
    | none =>
      let (breaks, deepest, c) := leadingBreaks 0 c.bound c
      (breaks, max least deepest, c)
  let (lines, c) := blockLines folded column breaks (c.bound + 1) c
  let tail := match header.chomping with
    | .strip => []
    | .clip => lines.last
    | .keep => lines.last ++ lines.breaks
  return (String.ofList (lines.text ++ tail), c)

end FlopCensus.Yaml
