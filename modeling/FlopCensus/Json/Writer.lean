import FlopCensus.Json.Value
import FlopCensus.Numeral.Real

set_option autoImplicit false
set_option relaxedAutoImplicit false

/-!
# Writing JSON

A value is written on one line, with a blank behind each comma and colon, or with every item on a
line of its own, indented by a number of blanks per level. Only ASCII is written: other characters
are escaped by the four hexadecimal digits of their UTF-16 units.

## Main definitions

* `FlopCensus.Json.escapeText`: a text with its quotes.
* `FlopCensus.Json.Layout`: the two ways of breaking lines.
* `FlopCensus.Json.write`: the text of a value.
-/

namespace FlopCensus.Json

open Numeral (realText)

/-- A code unit by its four hexadecimal digits. -/
def escapeUnit (n : Nat) : List Char :=
  '\\' :: 'u' :: Text.hexDigits 4 n

/-- One character inside a written text. -/
def escapeChar (c : Char) : List Char :=
  if c == '"' then ['\\', '"']
  else if c == '\\' then ['\\', '\\']
  else if c == '\n' then ['\\', 'n']
  else if c == '\r' then ['\\', 'r']
  else if c == '\t' then ['\\', 't']
  else if c == '\x0c' then ['\\', 'f']
  else if c == '\x08' then ['\\', 'b']
  else if ' ' ≤ c && c ≤ '~' then [c]
  else if c.toNat < 0x10000 then escapeUnit c.toNat
  -- a character behind the first plane takes two units
  else
    let n := c.toNat - 0x10000
    escapeUnit (0xd800 + n / 0x400) ++ escapeUnit (0xdc00 + n % 0x400)

/-- A text with its quotes. -/
def escapeText (s : String) : List Char :=
  '"' :: s.toList.flatMap escapeChar ++ ['"']

/-- How items are set apart. -/
inductive Layout where
  /-- All on one line. -/
  | line
  /-- Every item on its own line, with so many blanks per level. -/
  | indented (width : Nat)
deriving Repr, DecidableEq

/-- The layout for a width, where no width asks for one line and a negative one for no blanks. -/
def Layout.ofIndent : Option Int → Layout
  | none => .line
  | some width => .indented width.toNat

/-- What stands in front of an item on the given level. -/
def Layout.lead (layout : Layout) (level : Nat) : List Char :=
  match layout with
  | .line => []
  | .indented width => '\n' :: List.replicate (width * level) ' '

/-- What stands between two items on the given level. -/
def Layout.separator (layout : Layout) (level : Nat) : List Char :=
  match layout with
  | .line => [',', ' ']
  | .indented _ => ',' :: layout.lead level

/-- The text of a real. -/
def writeReal (x : Float) : String :=
  if x.isNaN then "NaN"
  else if x.isInf then (if x < 0 then "-Infinity" else "Infinity")
  else realText x

/-- Items between brackets on the given level. -/
def enclose (layout : Layout) (level : Nat) (opening closing : Char) (items : List (List Char)) :
    List Char :=
  match items with
  | [] => [opening, closing]
  | items =>
    opening :: layout.lead (level + 1) ++ (layout.separator (level + 1)).intercalate items ++
      layout.lead level ++ [closing]

mutual

/-- The text of a value on the given level. -/
def writeAt (layout : Layout) (level : Nat) : Value → Except Numeral.Error (List Char)
  | .null => return "null".toList
  | .bool b => return (if b then "true" else "false").toList
  | .int i => return (← Numeral.write i).toList
  | .real x => return (writeReal x).toList
  | .text s => return escapeText s
  | .array items => return enclose layout level '[' ']' (← writeItems layout (level + 1) items)
  | .object members =>
    return enclose layout level '\x7b' '\x7d' (← writeMembers layout (level + 1) members)

/-- The texts of the items of an array. -/
def writeItems (layout : Layout) (level : Nat) :
    List Value → Except Numeral.Error (List (List Char))
  | [] => return []
  | v :: rest => return (← writeAt layout level v) :: (← writeItems layout level rest)

/-- The texts of the members of an object. -/
def writeMembers (layout : Layout) (level : Nat) :
    List (String × Value) → Except Numeral.Error (List (List Char))
  | [] => return []
  | (name, v) :: rest =>
    return (escapeText name ++ ':' :: ' ' :: (← writeAt layout level v)) ::
      (← writeMembers layout level rest)

end

/-- The text of a value. -/
def write (layout : Layout) (v : Value) : Except Numeral.Error String :=
  return String.ofList (← writeAt layout 0 v)

end FlopCensus.Json
