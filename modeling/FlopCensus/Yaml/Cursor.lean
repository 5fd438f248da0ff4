import FlopCensus.Numeral.Integer

set_option autoImplicit false
set_option relaxedAutoImplicit false

/-!
# Places in a YAML text

A cursor holds the rest of a text together with the place where the rest starts. The line and the
column decide the structure of the text, so every step keeps them up to date. Line ends are single
characters; a text file is read that way.

## Main definitions

* `FlopCensus.Yaml.SyntaxError`: why a text is no YAML.
* `FlopCensus.Yaml.isPrintable`, `FlopCensus.Yaml.isBreak`: classes of characters.
* `FlopCensus.Yaml.isGap`, `FlopCensus.Yaml.isLineEnd`: what may follow.
* `FlopCensus.Yaml.Cursor`: a place with the rest of the text.
-/

namespace FlopCensus.Yaml

/-- Why a text is no YAML. -/
inductive SyntaxError where
  /-- The text breaks a rule of the format. -/
  | malformed
  /-- The text breaks a rule only by ending where it does. -/
  | cutOff
  /-- An escape stands for a number that is no character. -/
  | noCharacter (code : Nat)
  /-- A number in a directive is too long. -/
  | number (e : Numeral.Error)
  /-- The bytes behind the text are none. -/
  | undecodable
  /-- Too many nodes lie inside each other. -/
  | tooDeep
deriving Repr, DecidableEq

/-- The wording of an error. -/
def SyntaxError.message : SyntaxError → String
  | .malformed | .cutOff => "malformed YAML"
  | .noCharacter code =>
    if code < 0x80000000 then "chr() arg not in range(0x110000)"
    else "Python int too large to convert to C int"
  | .number e => e.message
  | .undecodable => "the file is not UTF-8"
  | .tooDeep => "maximum recursion depth exceeded"

/-- A step of reading, which may find that the text is no YAML. -/
abbrev Scan := Except SyntaxError

/-- The characters that a text may consist of. -/
def isPrintable (c : Char) : Bool :=
  let n := c.toNat
  n == 0x9 || n == 0xa || n == 0xd || (0x20 ≤ n && n ≤ 0x7e) || n == 0x85 ||
    (0xa0 ≤ n && n ≤ 0xfffd) || 0x10000 ≤ n

/-- A character that ends a line. -/
def isBreak (c : Char) : Bool :=
  c == '\n' || c == '\u0085' || c == '\u2028' || c == '\u2029'

/-- What a line end stands for in a text value: the two separators of Unicode for themselves, the
others for a line feed. -/
def breakText (c : Char) : Char :=
  if c == '\u2028' || c == '\u2029' then c else '\n'

/-- A blank, a tabulator, a line end or the end of the text. -/
def isGap (next : Option Char) : Bool :=
  next.all fun c => c == ' ' || c == '\t' || isBreak c

/-- A line end or the end of the text. -/
def isLineEnd (next : Option Char) : Bool :=
  next.all isBreak

/-- A blank, a line end or the end of the text. -/
def isBlankOrEnd (next : Option Char) : Bool :=
  next.all fun c => c == ' ' || isBreak c

/-- A character of names. -/
def isNameChar (c : Char) : Bool :=
  c.isAlphanum || c == '-' || c == '_'

/-- A blank or a tabulator. -/
def isIndentChar (c : Char) : Bool :=
  c == ' ' || c == '\t'

/-- A place in a text with the rest of the text. -/
structure Cursor where
  /-- The text that follows. -/
  rest : List Char
  /-- The number of characters before the place. -/
  index : Nat := 0
  /-- The number of line ends before the place. -/
  line : Nat := 0
  /-- The number of characters before the place in its line; byte order marks do not count. -/
  column : Nat := 0
  /-- No more characters follow than this. -/
  bound : Nat
deriving Repr

namespace Cursor

/-- The place at the start of a text. -/
def start (text : List Char) : Cursor :=
  { rest := text, bound := text.length }

/-- The text breaks a rule at this place. -/
def refuse {α : Type} (c : Cursor) : Scan α :=
  throw (if c.rest.isEmpty then .cutOff else .malformed)

/-- Goes on only if a condition holds at this place. -/
def require (c : Cursor) (condition : Bool) : Scan Unit :=
  if condition then return () else c.refuse

/-- The next character. -/
def next (c : Cursor) : Option Char :=
  c.rest.head?

/-- The next character but one. -/
def second (c : Cursor) : Option Char :=
  (c.rest.drop 1).head?

/-- The next character is the given one. -/
def sees (c : Cursor) (mark : Char) : Bool :=
  c.next == some mark

/-- The place behind the next character. -/
def advance (c : Cursor) : Cursor :=
  match c.rest with
  | [] => c
  | ch :: rest =>
    if isBreak ch then { c with rest, index := c.index + 1, line := c.line + 1, column := 0 }
    else
      let column := if ch == '\ufeff' then c.column else c.column + 1
      { c with rest, index := c.index + 1, column }

/-- The place a number of characters further. -/
def skip (c : Cursor) : Nat → Cursor
  | 0 => c
  | n + 1 => c.advance.skip n

/-- The longest run of characters of a class, and the place behind it. -/
def span (c : Cursor) (p : Char → Bool) : List Char × Cursor :=
  let run := c.rest.takeWhile p
  (run, c.skip run.length)

/-- The place behind the longest run of characters of a class. -/
def skipWhile (c : Cursor) (p : Char → Bool) : Cursor :=
  (c.span p).2

/-- The place behind the blanks that follow. -/
def skipBlanks (c : Cursor) : Cursor :=
  c.skipWhile (· == ' ')

/-- The place behind a comment, should one follow. -/
def skipComment (c : Cursor) : Cursor :=
  if c.sees '#' then c.skipWhile fun ch => !isBreak ch else c

/-- The line end that follows, and the place behind it. -/
def lineBreak? (c : Cursor) : Option (Char × Cursor) :=
  (c.next.filter isBreak).map fun ch => (breakText ch, c.advance)

/-- A mark of three characters that stands for itself. -/
def seesMark (c : Cursor) (mark : String) : Bool :=
  c.rest.take 3 == mark.toList && isGap (c.rest.drop 3).head?

/-- The start or the end of a document. -/
def seesDocumentMark (c : Cursor) : Bool :=
  c.seesMark "---" || c.seesMark "..."

end Cursor

end FlopCensus.Yaml
