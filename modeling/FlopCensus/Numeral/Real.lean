import FlopCensus.Numeral.Integer

set_option autoImplicit false
set_option relaxedAutoImplicit false

/-!
# Written reals

Double-precision numbers as text. A number is written with the fewest digits that read back as the
same number, and of several such the nearest; it is written positionally from `1e-4` up to below
`1e16`, and with an exponent of two digits or more otherwise. A numeral is read to the nearest
double.

## Main definitions

* `FlopCensus.Numeral.Decoded`: a positive finite double as an exact binary fraction.
* `FlopCensus.Numeral.shortest`: its fewest digits and the place of the point.
* `FlopCensus.Numeral.realText`: the text of a double.
* `FlopCensus.Numeral.readReal`: the double that a text denotes.
-/

namespace FlopCensus.Numeral

open Text

/-- The positive number `mantissa * 2 ^ exponent`. -/
structure Decoded where
  /-- The significant bits. -/
  mantissa : Nat
  /-- The power of two. -/
  exponent : Int
  /-- Below this number the spacing of the doubles is half as wide as above it. -/
  atBoundary : Bool
deriving Repr, DecidableEq

/-- The bit that holds the sign of a double. -/
def signBit : Nat := 0x8000000000000000

/-- The lowest bit of the exponent of a double. -/
def exponentBit : Nat := 0x10000000000000

/-- The exact value of a double from its bits, the sign aside. -/
def decode (bits : Nat) : Decoded :=
  let fraction : Nat := bits % exponentBit
  let power : Nat := bits / exponentBit % 0x800
  if power == 0 then ⟨fraction, -1074, false⟩
  else ⟨fraction + exponentBit, (power : Int) - 1075, fraction == 0 && power > 1⟩

/-- A power as the two sides of a fraction. -/
def powerFraction (base : Nat) (exponent : Int) : Nat × Nat :=
  if exponent < 0 then (1, base.pow exponent.natAbs) else (base.pow exponent.natAbs, 1)

/-- The place of the first digit of the positive fraction `num / den`: `10 ^ place` is at most the
fraction, and ten times that is more. -/
def leadingPlace (num den : Nat) : Int :=
  if den ≤ num then ((decimal (num / den)).length : Int) - 1
  else
    let width := (decimal (den / num)).length
    if num * Nat.pow 10 (width - 1) < den then -(width : Int) else 1 - (width : Int)

/-- Some digits whose last one stands at `place`. -/
structure Digits where
  /-- The digits as a number. -/
  value : Nat
  /-- The power of ten of the last digit. -/
  place : Int
deriving Repr, DecidableEq

/-- The decimals with `count` digits that lie nearest to `d` on either side are tested against the
interval of the reals that are rounded to `d`. -/
def shortestWith (d : Decoded) (count : Nat) : Option Digits :=
  let (up, down) := powerFraction 2 (d.exponent - 2)
  let num := 4 * d.mantissa * up
  let low := (4 * d.mantissa - (if d.atBoundary then 1 else 2)) * up
  let high := (4 * d.mantissa + 2) * up
  let place := leadingPlace num down - ((count : Int) - 1)
  let (step, parts) := powerFraction 10 place
  let inside := fun (k : Nat) =>
    let x := k * step * down
    if d.mantissa % 2 == 0 then low * parts ≤ x && x ≤ high * parts
    else low * parts < x && x < high * parts
  let k := num * parts / (step * down)
  let distance := fun (k : Nat) => ((k * step * down : Int) - num * parts).natAbs
  match inside k, inside (k + 1) with
  | true, true =>
    if distance (k + 1) < distance k || (distance (k + 1) == distance k && k % 2 == 1) then
      some ⟨k + 1, place⟩
    else some ⟨k, place⟩
  | true, false => some ⟨k, place⟩
  | false, true => some ⟨k + 1, place⟩
  | false, false => none

/-- The fewest digits that read back as the number; seventeen always do. -/
def shortest (d : Decoded) : Digits :=
  ((List.range 17).findSome? fun i => shortestWith d (i + 1)).getD ⟨0, 0⟩

/-- Digits without the zeros at the end, which move the place of the last digit. -/
def dropZeros : List Char → Int → List Char × Int
  | digits, place =>
    let kept := dropEndBy (· == '0') digits
    (kept, place + ((digits.length - kept.length : Nat) : Int))

/-- An exponent with its sign and at least two digits. -/
def exponentText (e : Int) : List Char :=
  let digits := decimal e.natAbs
  (if e < 0 then '-' else '+') :: (if digits.length < 2 then '0' :: digits else digits)

/-- The text of some digits, positional or with an exponent. -/
def layOut (d : Digits) : List Char :=
  let (digits, place) := dropZeros (decimal d.value) d.place
  let point := place + (digits.length : Int)
  if -4 < point && point ≤ 16 then
    if point ≤ 0 then '0' :: '.' :: List.replicate point.natAbs '0' ++ digits
    else if digits.length ≤ point.toNat then
      digits ++ List.replicate (point.toNat - digits.length) '0' ++ ['.', '0']
    else digits.take point.toNat ++ '.' :: digits.drop point.toNat
  else
    let fraction := match digits.drop 1 with
      | [] => []
      | rest => '.' :: rest
    digits.take 1 ++ fraction ++ 'e' :: exponentText (point - 1)

/-- The text of a double. -/
def realText (x : Float) : String :=
  let bits := x.toBits.toNat
  let sign := if bits / signBit == 1 then "-" else ""
  let size := bits % signBit
  if size > 0x7ff0000000000000 then "nan"
  else if size == 0x7ff0000000000000 then sign ++ "inf"
  else if size == 0 then sign ++ "0.0"
  else sign ++ String.ofList (layOut (shortest (decode size)))

/-- The double nearest to `m * 10 ^ e`. Exponents beyond the range of doubles are not computed. -/
def nearest (m : Nat) (e : Int) : Float :=
  let point := ((decimal m).length : Int) + e
  if m == 0 || point < -400 then 0
  else if point > 400 then Float.ofScientific 1 false 400
  else Float.ofScientific m (e < 0) e.natAbs

/-- The double nearest to an integer, unless it lies beyond the range of doubles. -/
def ofInt? (i : Int) : Option Float :=
  let x := nearest i.natAbs 0
  if x.isInf then none else some (if i < 0 then -x else x)

/-- Digits with single underscores between them. -/
def spacedDigits? (run : List Char) : Option (List Nat) :=
  if run.head? == some '_' || !underscoresFit run then none
  else some (run.filterMap (digitIn 10))

/-- A run of digits and underscores at the front, and the rest. -/
def splitDigits (s : List Char) : List Char × List Char :=
  let inRun := fun c => c == '_' || (digitIn 10 c).isSome
  (s.takeWhile inRun, s.dropWhile inRun)

/-- An exponent behind its letter; without a letter it is zero. -/
def exponent? : List Char → Option Int
  | [] => some 0
  | letter :: rest => do
    if letter != 'e' && letter != 'E' then none
    let (negative, rest) := match rest with
      | '-' :: rest => (true, rest)
      | '+' :: rest => (false, rest)
      | rest => (false, rest)
    let (run, rest) := splitDigits rest
    let digits ← spacedDigits? run
    if digits.isEmpty || !rest.isEmpty then none
    let e : Int := valueOf 10 digits
    return if negative then -e else e

/-- A decimal without sign and blanks. -/
def unsigned? (s : List Char) : Option Float := do
  let (whole, s) := splitDigits s
  let (fraction, s) := match s with
    | '.' :: rest => splitDigits rest
    | rest => ([], rest)
  let whole ← spacedDigits? whole
  let fraction ← spacedDigits? fraction
  if whole.isEmpty && fraction.isEmpty then none
  let e ← exponent? s
  return nearest (valueOf 10 (whole ++ fraction)) (e - fraction.length)

/-- The double that a text denotes, with the words for the values that have no digits. -/
def readReal (text : String) : Option Float :=
  let s := stripBy isAsciiBlank (text.toList.map asciiForm)
  let (negative, s) := match s with
    | '-' :: rest => (true, rest)
    | '+' :: rest => (false, rest)
    | rest => (false, rest)
  let magnitude :=
    match String.ofList (s.map Char.toLower) with
    | "inf" | "infinity" => some (1 / 0)
    | "nan" => some (0 / 0)
    | _ => unsigned? s
  magnitude.map fun x => if negative then -x else x

end FlopCensus.Numeral
