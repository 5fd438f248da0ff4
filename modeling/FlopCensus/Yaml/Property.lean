import FlopCensus.Json.Reader
import FlopCensus.Numeral.Integer
import FlopCensus.Text.Utf8
import FlopCensus.Yaml.Cursor

set_option autoImplicit false
set_option relaxedAutoImplicit false

/-!
# Names, tags and directives of YAML

A node may carry an anchor, by which other places refer to it, and a tag, which names its type. A
tag is written in full or with a handle, whose meaning a directive at the start of the document can
set.

## Main definitions

* `FlopCensus.Yaml.TagText`: a tag as it is written.
* `FlopCensus.Yaml.Directive`: a directive.
* `FlopCensus.Yaml.readName`, `FlopCensus.Yaml.readTag`, `FlopCensus.Yaml.readDirective`: reading
  the three.
-/

namespace FlopCensus.Yaml

/-- A tag as it is written. -/
structure TagText where
  /-- The handle in front, if the tag is not written in full. -/
  handle : Option String
  /-- The rest. -/
  suffix : String
deriving Repr, DecidableEq

/-- A directive. -/
inductive Directive where
  /-- The version of the format. -/
  | version (major minor : Nat)
  /-- The meaning of a handle. -/
  | tag (handle meaning : String)
  /-- Any other directive goes without effect. -/
  | other
deriving Repr, DecidableEq

/-- The name of an anchor, behind its mark. -/
def readName (c : Cursor) : Scan (String × Cursor) := do
  let (name, c) := c.advance.span isNameChar
  c.require (!name.isEmpty)
  c.require (isGap c.next || c.next.any ("?:,]\x7d%@`".toList.contains ·))
  return (String.ofList name, c)

/-- A handle: `!`, or a name between two of them. -/
def readHandle (c : Cursor) : Scan (String × Cursor) := do
  c.require (c.sees '!')
  let inner := c.advance
  if inner.sees ' ' then return ("!", inner)
  let (name, c) := inner.span isNameChar
  c.require (c.sees '!')
  return ("!" ++ String.ofList name ++ "!", c.advance)

/-- A character of a tag. -/
def isTagChar (c : Char) : Bool :=
  c.isAlphanum || "-;/?:@&=+$,_.!~*'()[]".toList.contains c

/-- A byte written as `%` and two digits. -/
def escapedByte? (c : Cursor) : Option UInt8 :=
  match c.rest with
  | '%' :: a :: b :: _ => do return UInt8.ofNat ((← Json.hexValue? a) * 16 + (← Json.hexValue? b))
  | _ => none

/-- A run of escaped bytes. -/
def escapedBytes : Nat → Cursor → List UInt8 × Cursor
  | 0, c => ([], c)
  | n + 1, c =>
    match escapedByte? c with
    | some b =>
      let (bytes, c) := escapedBytes n (c.skip 3)
      (b :: bytes, c)
    | none => ([], c)

/-- The characters of a tag. -/
def tagChars : Nat → Cursor → Scan (List Char × Cursor)
  | 0, c => return ([], c)
  | n + 1, c =>
    if c.sees '%' then do
      let (bytes, c) := escapedBytes c.bound c
      c.require (!c.sees '%' && !bytes.isEmpty)
      match Text.decodeStrict bytes with
      | none => c.refuse
      | some text =>
        let (rest, c) ← tagChars n c
        return (text ++ rest, c)
    else
      let (run, c) := c.span isTagChar
      if run.isEmpty then return ([], c)
      else do
        let (rest, c) ← tagChars n c
        return (run ++ rest, c)

/-- The characters of a tag, of which there must be some. -/
def readTagChars (c : Cursor) : Scan (String × Cursor) := do
  c.require (c.next.any fun ch => ch == '%' || isTagChar ch)
  let (text, c) ← tagChars c.bound c
  return (String.ofList text, c)

/-- A tag, from its mark on. -/
def tagText (c : Cursor) : Scan (TagText × Cursor) := do
  let inner := c.advance
  if inner.sees '<' then
    let (suffix, c) ← readTagChars inner.advance
    c.require (c.sees '>')
    return (⟨none, suffix⟩, c.advance)
  else if isGap inner.next then return (⟨none, "!"⟩, inner)
  else
    let word := inner.rest.takeWhile fun ch => ch != ' ' && !isBreak ch
    let (handle, c) ← if word.contains '!' then readHandle c else pure ("!", inner)
    let (suffix, c) ← readTagChars c
    return (⟨some handle, suffix⟩, c)

/-- A tag, which must end with a blank or the line. -/
def readTag (c : Cursor) : Scan (TagText × Cursor) := do
  let (tag, c) ← tagText c
  c.require (isBlankOrEnd c.next)
  return (tag, c)

/-- A number in a directive. -/
def readNumber (c : Cursor) : Scan (Nat × Cursor) := do
  let (digits, behind) := c.span fun ch => ch.isDigit
  c.require (!digits.isEmpty)
  let n ← (Numeral.read (String.ofList digits)).mapError .number
  return (n.toNat, behind)

/-- The rest of a line that holds nothing but a comment. -/
def endLine (c : Cursor) : Scan Cursor := do
  let c := c.skipBlanks.skipComment
  c.require (isLineEnd c.next)
  return c.advance

/-- The arguments of a directive. -/
def directiveOf (name : String) (c : Cursor) : Scan (Directive × Cursor) := do
  match name with
  | "YAML" =>
    let (major, c) ← readNumber c.skipBlanks
    c.require (c.sees '.')
    let (minor, c) ← readNumber c.advance
    c.require (isBlankOrEnd c.next)
    return (.version major minor, c)
  | "TAG" =>
    let (handle, c) ← readHandle c.skipBlanks
    c.require (c.sees ' ')
    let (meaning, c) ← readTagChars c.skipBlanks
    c.require (isBlankOrEnd c.next)
    return (.tag handle meaning, c)
  | _ => return (.other, c.skipWhile fun ch => !isBreak ch)

/-- A directive, from its mark on. -/
def readDirective (c : Cursor) : Scan (Directive × Cursor) := do
  let (name, c) := c.advance.span isNameChar
  c.require (!name.isEmpty && isBlankOrEnd c.next)
  let (directive, c) ← directiveOf (String.ofList name) c
  return (directive, ← endLine c)

end FlopCensus.Yaml
