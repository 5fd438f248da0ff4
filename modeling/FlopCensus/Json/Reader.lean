import FlopCensus.Json.Value
import FlopCensus.Numeral.Real
import FlopCensus.Text.Surrogate

set_option autoImplicit false
set_option relaxedAutoImplicit false

/-!
# Reading JSON

A recursive descent over the characters of a text. Every step that calls the reader again has
consumed at least one character, so a text of `n` characters is read with a depth of at most `n`.

## Main definitions

* `FlopCensus.Json.readText`: a text behind its opening quote.
* `FlopCensus.Json.readValue`: one value at the front of the characters, and the rest.
* `FlopCensus.Json.read`: the value of a whole text.
-/

namespace FlopCensus.Json

/-- The blanks of JSON. -/
def isSpace (c : Char) : Bool :=
  c == ' ' || c == '\n' || c == '\r' || c == '\t'

/-- The characters without the blanks in front. -/
def skipSpace (s : List Char) : List Char :=
  s.dropWhile isSpace

/-- The value of a hexadecimal digit. -/
def hexValue? (c : Char) : Option Nat :=
  Numeral.digitIn 16 c

/-- The code unit of four hexadecimal digits. -/
def unit? (a b c d : Char) : Option Nat := do
  return (((← hexValue? a) * 16 + (← hexValue? b)) * 16 + (← hexValue? c)) * 16 + (← hexValue? d)

/-- The character of a single-letter escape. -/
def escaped? : Char → Option Char
  | '"' => some '"'
  | '\\' => some '\\'
  | '/' => some '/'
  | 'b' => some '\x08'
  | 'f' => some '\x0c'
  | 'n' => some '\n'
  | 'r' => some '\r'
  | 't' => some '\t'
  | _ => none

/-- A unit that opens a pair. -/
def isHighUnit (n : Nat) : Bool :=
  0xd800 ≤ n && n < 0xdc00

/-- A unit that closes a pair. -/
def isLowUnit (n : Nat) : Bool :=
  0xdc00 ≤ n && n < 0xe000

/-- The characters of a sequence of code points, in which a high unit directly before a low one
stands for one character and any other unit for its stand-in. -/
def joinPairs : List Nat → List Char
  | [] => []
  | [n] => [Text.ofCode n]
  | high :: low :: rest =>
    if isHighUnit high && isLowUnit low then
      Char.ofNat (0x10000 + (high - 0xd800) * 0x400 + (low - 0xdc00)) :: joinPairs rest
    else Text.ofCode high :: joinPairs (low :: rest)

/-- The code points of a text behind its opening quote, and the rest behind the closing one. The
code points read so far are given last first. -/
def readString : List Nat → List Char → Option (List Nat × List Char)
  | _, [] => none
  | done, '"' :: rest => some (done.reverse, rest)
  | done, '\\' :: 'u' :: a :: b :: c :: d :: rest =>
    match unit? a b c d with
    | none => none
    | some n => readString (n :: done) rest
  | done, '\\' :: c :: rest =>
    match escaped? c with
    | none => none
    | some c => readString (c.toNat :: done) rest
  | done, c :: rest => readString (c.toNat :: done) rest

/-- A text behind its opening quote, and the rest behind the closing one. -/
def readText (s : List Char) : Option (String × List Char) :=
  (readString [] s).map fun (points, rest) => (String.ofList (joinPairs points), rest)

/-- The characters a number is made of. -/
def isNumberChar (c : Char) : Bool :=
  c.isDigit || c == '-' || c == '+' || c == '.' || c == 'e' || c == 'E'

/-- The number of a run of such characters. -/
def number? (s : List Char) : Option Value :=
  if s.any fun c => c == '.' || c == 'e' || c == 'E' then
    (Numeral.readReal (String.ofList s)).map .real
  else
    let (negative, digits) := match s with
      | '-' :: digits => (true, digits)
      | digits => (false, digits)
    if digits.isEmpty then none
    else
      let n : Int := Numeral.valueOf 10 (digits.filterMap (Numeral.digitIn 10))
      some (.int (if negative then -n else n))

mutual

/-- One value at the front of the characters, and the rest, with at most `fuel` nested calls. -/
def readValue (fuel : Nat) (s : List Char) : Option (Value × List Char) :=
  match fuel with
  | 0 => none
  | fuel + 1 =>
    match skipSpace s with
    | '"' :: rest => (readText rest).map fun (t, rest) => (.text t, rest)
    | '[' :: rest =>
      match skipSpace rest with
      | ']' :: rest => some (.array [], rest)
      | rest => (readItems fuel [] rest).map fun (items, rest) => (.array items, rest)
    | '\x7b' :: rest =>
      match skipSpace rest with
      | '\x7d' :: rest => some (.object [], rest)
      | rest => (readMembers fuel [] rest).map fun (members, rest) => (.object members, rest)
    | 't' :: 'r' :: 'u' :: 'e' :: rest => some (.bool true, rest)
    | 'f' :: 'a' :: 'l' :: 's' :: 'e' :: rest => some (.bool false, rest)
    | 'n' :: 'u' :: 'l' :: 'l' :: rest => some (.null, rest)
    | 'N' :: 'a' :: 'N' :: rest => some (.real (0 / 0), rest)
    | 'I' :: 'n' :: 'f' :: 'i' :: 'n' :: 'i' :: 't' :: 'y' :: rest => some (.real (1 / 0), rest)
    | '-' :: 'I' :: 'n' :: 'f' :: 'i' :: 'n' :: 'i' :: 't' :: 'y' :: rest =>
      some (.real (-1 / 0), rest)
    | s =>
      (number? (s.takeWhile isNumberChar)).map fun v => (v, s.dropWhile isNumberChar)

/-- The items of an array behind its opening bracket. -/
def readItems (fuel : Nat) (done : List Value) (s : List Char) : Option (List Value × List Char) :=
  match fuel with
  | 0 => none
  | fuel + 1 =>
    match readValue fuel s with
    | none => none
    | some (v, rest) =>
      match skipSpace rest with
      | ',' :: rest => readItems fuel (v :: done) rest
      | ']' :: rest => some ((v :: done).reverse, rest)
      | _ => none

/-- The members of an object behind its opening brace. -/
def readMembers (fuel : Nat) (done : List (String × Value)) (s : List Char) :
    Option (List (String × Value) × List Char) :=
  match fuel with
  | 0 => none
  | fuel + 1 =>
    match skipSpace s with
    | '"' :: rest =>
      match readText rest with
      | none => none
      | some (name, rest) =>
        match skipSpace rest with
        | ':' :: rest =>
          match readValue fuel rest with
          | none => none
          | some (v, rest) =>
            match skipSpace rest with
            | ',' :: rest => readMembers fuel ((name, v) :: done) rest
            | '\x7d' :: rest => some (((name, v) :: done).reverse, rest)
            | _ => none
        | _ => none
    | _ => none

end

/-- The value of a whole text. -/
def read (text : String) : Option Value :=
  match readValue (text.length + 1) text.toList with
  | some (v, rest) => if (skipSpace rest).isEmpty then some v else none
  | none => none

end FlopCensus.Json
