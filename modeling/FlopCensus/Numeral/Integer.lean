import FlopCensus.Text.Blank
import FlopCensus.Text.Digit
import FlopCensus.Text.Quoted

set_option autoImplicit false
set_option relaxedAutoImplicit false

/-!
# Written integers

Integers are of any size, but a numeral in base ten has at most `digitLimit` digits: reading a
longer one and writing a larger number are errors, so that neither costs quadratic time. A numeral
may stand between blanks and carry a sign, its digits may come from any script, and a single
underscore may stand between two digits.

## Main definitions

* `FlopCensus.Numeral.Error`: why an integer could not be read or written.
* `FlopCensus.Numeral.readIn`: the integer a text denotes in a base.
* `FlopCensus.Numeral.decimal`: the digits of a natural number.
* `FlopCensus.Numeral.write`: the text of an integer.
-/

namespace FlopCensus.Numeral

open Text

/-- The greatest number of digits of a numeral in base ten. -/
def digitLimit : Nat := 4300

/-- Why an integer could not be read or written. -/
inductive Error where
  /-- The text is no numeral in the base. -/
  | invalid (base : Nat) (text : String)
  /-- The numeral has more digits than the limit allows. -/
  | tooManyDigits (count : Nat)
  /-- The number has more digits than the limit allows. -/
  | tooLarge
deriving Repr, DecidableEq

/-- The digits of a natural number in base ten. -/
def decimal (n : Nat) : List Char :=
  if n < 10 then [digitChar n] else decimal (n / 10) ++ [digitChar (n % 10)]
termination_by n
decreasing_by omega

/-- A natural number in base ten. -/
def natText (n : Nat) : String :=
  String.ofList (decimal n)

/-- An integer in base ten, however long. -/
def intText (i : Int) : String :=
  if i < 0 then "-" ++ natText i.natAbs else natText i.natAbs

/-- The wording of an error. A refused text is shown quoted, cut to two hundred characters. -/
def Error.message : Error → String
  | .invalid base text =>
    "invalid literal for int() with base " ++ natText base ++ ": " ++
      String.ofList ((quote text).toList.take 200)
  | .tooManyDigits count =>
    "Exceeds the limit (" ++ natText digitLimit ++
      " digits) for integer string conversion: value has " ++ natText count ++
      " digits; use sys.set_int_max_str_digits() to increase the limit"
  | .tooLarge =>
    "Exceeds the limit (" ++ natText digitLimit ++
      " digits) for integer string conversion; " ++
      "use sys.set_int_max_str_digits() to increase the limit"

/-- The ASCII blanks, which alone may stand around a numeral besides the blanks outside ASCII. -/
def isAsciiBlank (c : Char) : Bool :=
  c == ' ' || (9 ≤ c.toNat && c.toNat ≤ 13)

/-- One character of a numeral in ASCII: digits and blanks of all scripts are brought to one form,
and any other character outside ASCII to one that no numeral holds. -/
def asciiForm (c : Char) : Char :=
  if c.toNat < 127 then c
  else if isBlank c then ' '
  else match digitValue? c with
    | some d => digitChar d
    | none => '?'

/-- The value of an ASCII digit or letter as a digit of the base. -/
def digitIn (base : Nat) (c : Char) : Option Nat :=
  let value :=
    if '0' ≤ c && c ≤ '9' then some (c.toNat - 48)
    else if 'a' ≤ c && c ≤ 'z' then some (c.toNat - 87)
    else if 'A' ≤ c && c ≤ 'Z' then some (c.toNat - 55)
    else none
  value.filter (· < base)

/-- Underscores stand one at a time and between digits. -/
def underscoresFit : List Char → Bool
  | [] => true
  | ['_'] => false
  | '_' :: '_' :: _ => false
  | _ :: rest => underscoresFit rest

/-- The value of a sequence of digits. -/
def valueOf (base : Nat) (digits : List Nat) : Nat :=
  digits.foldl (fun value d => value * base + d) 0

/-- A numeral without its sign and blanks in front. -/
def magnitude (base : Nat) (text : String) (s : List Char) : Except Error Nat := do
  let inRun := fun c => c == '_' || (digitIn base c).isSome
  let run := s.takeWhile inRun
  let digits := run.filterMap (digitIn base)
  if run.head? == some '_' || !underscoresFit run then throw (.invalid base text)
  if base == 10 && digits.length > digitLimit then throw (.tooManyDigits digits.length)
  if digits.isEmpty || !(s.dropWhile inRun).all isAsciiBlank then throw (.invalid base text)
  return valueOf base digits

/-- The mark of a base may stand in front of its digits, then also followed by an underscore. -/
def dropMark (base : Nat) : List Char → List Char
  | '0' :: mark :: rest =>
    if (base == 2 && (mark == 'b' || mark == 'B')) || (base == 8 && (mark == 'o' || mark == 'O')) ||
        (base == 16 && (mark == 'x' || mark == 'X')) then
      match rest with
      | '_' :: digits => digits
      | digits => digits
    else '0' :: mark :: rest
  | s => s

/-- The integer that a text denotes in the base. -/
def readIn (base : Nat) (text : String) : Except Error Int := do
  let s := (text.toList.map asciiForm).dropWhile isAsciiBlank
  match s with
  | '-' :: rest => return -((← magnitude base text (dropMark base rest)) : Int)
  | '+' :: rest => return ((← magnitude base text (dropMark base rest)) : Int)
  | rest => return ((← magnitude base text (dropMark base rest)) : Int)

/-- The integer that a text denotes in base ten. -/
def read (text : String) : Except Error Int :=
  readIn 10 text

/-- The text of an integer, unless it has too many digits. -/
def write (i : Int) : Except Error String :=
  if (decimal i.natAbs).length > digitLimit then throw .tooLarge else return intText i

end FlopCensus.Numeral
