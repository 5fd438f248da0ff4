import FlopCensus.Numeral.Number
import FlopCensus.Text.Base64
import FlopCensus.Text.Case
import FlopCensus.Text.Quoted
import FlopCensus.Text.Search
import FlopCensus.Yaml.Tag

set_option autoImplicit false
set_option relaxedAutoImplicit false

/-!
# Scalar values of YAML

## Main definitions

* `FlopCensus.Yaml.Scalar`: a scalar value.
* `FlopCensus.Yaml.ValueError`: why a text is no value of its type.
* `FlopCensus.Yaml.Scalar.read`: the value of a text.
* `FlopCensus.Yaml.Scalar.same`, `FlopCensus.Yaml.Scalar.less?`: comparison.
* `FlopCensus.Yaml.Scalar.words`, `FlopCensus.Yaml.Scalar.quote`: the text of a value.
-/

namespace FlopCensus.Yaml

open Numeral (Number)

/-- A scalar value. -/
inductive Scalar where
  | null
  | bool (b : Bool)
  | number (n : Number)
  | text (s : String)
  | bytes (b : List UInt8)
  | date (d : Date)
  | moment (m : Moment)
deriving Repr, Inhabited

/-- Why a text is no value of its type. -/
inductive ValueError where
  /-- A node has no value, or one that its place does not allow. -/
  | malformed
  /-- The text is no integer. -/
  | integer (e : Numeral.Error)
  /-- The text is no real. -/
  | real (text : String)
  /-- The number is too large for a real. -/
  | tooLarge
  /-- There is nothing behind the sign of a number. -/
  | noDigits
  /-- The text is no word for a truth value. -/
  | truth (word : String)
  /-- The text is no timestamp. -/
  | timestamp
  /-- A collection stands where the text of a timestamp is wanted. -/
  | timestampText
  /-- The text of a node is looked for in the node itself. -/
  | endless
  /-- A timestamp is none of the calendar. -/
  | calendar (e : CalendarError)
deriving Repr, DecidableEq

/-- The wording of an error. -/
def ValueError.message : ValueError → String
  | .malformed => "malformed YAML"
  | .integer e => e.message
  | .real text => "could not convert string to float: " ++ Text.quote text
  | .tooLarge => "int too large to convert to float"
  | .noDigits => "string index out of range"
  | .truth word => word
  | .timestamp | .timestampText => "not a timestamp"
  | .calendar e => e.message
  | .endless => "maximum recursion depth exceeded"

namespace Scalar

/-- The sign in front of a number, and the rest. -/
def splitSign (s : List Char) : Bool × List Char :=
  match s with
  | '-' :: rest => (true, rest)
  | '+' :: rest => (false, rest)
  | rest => (false, rest)

/-- The parts between colons. -/
def groups (s : List Char) : List String :=
  (Text.splitOnChar ':' s).map String.ofList

/-- The integer that a text is, without its sign: binary, octal, hexadecimal, in base sixty or
decimal. -/
def magnitude (s : List Char) : Except Numeral.Error Int :=
  match s with
  | '0' :: 'b' :: rest => Numeral.readIn 2 (String.ofList rest)
  | '0' :: 'x' :: rest => Numeral.readIn 16 (String.ofList rest)
  | ['0'] => return 0
  | '0' :: _ => Numeral.readIn 8 (String.ofList s)
  | _ =>
    if s.contains ':' then do
      let parts ← (groups s).mapM Numeral.read
      return parts.foldl (fun value part => value * 60 + part) 0
    else Numeral.read (String.ofList s)

/-- The integer that a text is. -/
def readInteger (text : String) : Except ValueError Int := do
  let (negative, s) := splitSign (text.toList.filter (· != '_'))
  if s.isEmpty then throw .noDigits
  let size ← (magnitude s).mapError .integer
  return if negative then -size else size

/-- The real that a text is, unless it is none. -/
def realOf (text : String) : Except ValueError Float :=
  match Numeral.readReal text with
  | some x => return x
  | none => throw (.real text)

/-- The sum of parts in base sixty, the last part first. -/
def sumSixtieths (base : Int) (sum : Float) : List Float → Except ValueError Float
  | [] => return sum
  | part :: parts =>
    match Numeral.ofInt? base with
    | none => throw .tooLarge
    | some unit => sumSixtieths (base * 60) (sum + part * unit) parts

/-- The sign of the text of a real, and the rest in lower case and without underscores. -/
def unsignedReal (text : String) : Bool × List Char :=
  splitSign (Text.lower (String.ofList (text.toList.filter (· != '_')))).toList

/-- The word for what is no number. -/
def wordForNaN : String := ".nan"

/-- The text is the word that stands for one and the same value wherever it is written. -/
def isSharedNaN (text : String) : Bool :=
  String.ofList (unsignedReal text).2 == wordForNaN

/-- The real that a text is. -/
def readReal (text : String) : Except ValueError Float := do
  let (negative, s) := unsignedReal text
  if s.isEmpty then throw .noDigits
  let word := String.ofList s
  let size ←
    if word == ".inf" then pure (1 / 0)
    else if word == wordForNaN then return (0 / 0 : Float)
    else if s.contains ':' then do
      let parts ← (groups s).mapM realOf
      sumSixtieths 1 0 parts.reverse
    else realOf word
  return if negative then -size else size

/-- The truth value that a text is. -/
def readTruth (text : String) : Except ValueError Bool :=
  let word := Text.lower text
  match Tag.truthWords.lookup word with
  | some b => return b
  | none => throw (.truth word)

/-- The bytes that a text stands for. -/
def readBytes (text : String) : Except ValueError (List UInt8) :=
  if text.toList.any fun c => c.toNat > 127 then throw .malformed
  else
    match Text.decodeBase64 text.toList with
    | some b => return b
    | none => throw .malformed

/-- The day or moment that a text is. -/
def readTimestamp (text : String) : Except ValueError Scalar := do
  match Timestamp.read? text.toList with
  | none => throw .timestamp
  | some ⟨day, _, none⟩ => return date (← day.check.mapError .calendar)
  | some ⟨day, _, some time⟩ => return moment (← (time.on day).mapError .calendar)

/-- The value of a text, given its type. -/
def read (tag : Tag) (s : String) : Except ValueError Scalar := do
  match tag with
  | .null => return null
  | .bool => return bool (← readTruth s)
  | .int => return number (.int (← readInteger s))
  | .float => return number (.real (← readReal s))
  | .binary => return bytes (← readBytes s)
  | .timestamp => readTimestamp s
  | .str => return text s
  | _ => throw .malformed

/-- The number that a value counts as; truth values count as zero and one. -/
def number? : Scalar → Option Number
  | bool b => some (.int (if b then 1 else 0))
  | number n => some n
  | _ => none

/-- The value is no number although its type is one of numbers. -/
def isNaN : Scalar → Bool
  | number (.real x) => x.isNaN
  | _ => false

/-- The values are the same as keys. -/
def same (a b : Scalar) : Bool :=
  match a.number?, b.number? with
  | some m, some n => m.same n
  | none, none =>
    match a, b with
    | null, null => true
    | text s, text t => s == t
    | bytes s, bytes t => s == t
    | date d, date e => d == e
    | moment m, moment n => m.ahead.isSome == n.ahead.isSome && m.number == n.number
    | _, _ => false
  | _, _ => false

/-- The first value is less, if the two can be compared. -/
def less? (a b : Scalar) : Option Bool :=
  match a.number?, b.number? with
  | some m, some n => some (m.less n)
  | none, none =>
    match a, b with
    | text s, text t => some (s < t)
    | bytes s, bytes t => some (s.map (·.toNat) < t.map (·.toNat))
    | date d, date e => some (d.number < e.number)
    | moment m, moment n =>
      if m.ahead.isSome == n.ahead.isSome then some (m.number < n.number) else none
    | _, _ => none
  | _, _ => none

/-- The value counts as nothing. -/
def isVoid : Scalar → Bool
  | null => true
  | bool b => !b
  | number n => n.isZero
  | text s => s == ""
  | bytes b => b.isEmpty
  | _ => false

/-- A value as a message shows it. -/
def quote : Scalar → Except Numeral.Error String
  | null => return "None"
  | bool b => return if b then "True" else "False"
  | number n => n.write
  | text s => return Text.quote s
  | bytes b => return Text.quoteBytes b
  | date d => return d.quote
  | moment m => return m.quote

/-- A value in words. -/
def words : Scalar → Except Numeral.Error String
  | text s => return s
  | date d => return d.text
  | moment m => return m.text
  | v => v.quote

end Scalar

end FlopCensus.Yaml
