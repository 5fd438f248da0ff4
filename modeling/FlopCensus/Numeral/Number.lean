import FlopCensus.Numeral.Real

set_option autoImplicit false
set_option relaxedAutoImplicit false

/-!
# Numbers of either kind

A number is an integer of any size or a real. The two kinds are compared by their exact values.

## Main definitions

* `FlopCensus.Numeral.Number`: a number.
* `FlopCensus.Numeral.Number.less`, `FlopCensus.Numeral.Number.same`: comparison.
* `FlopCensus.Numeral.Number.add`: the sum, which is exact for integers.
* `FlopCensus.Numeral.Number.write`, `FlopCensus.Numeral.Number.toReal?`: text and conversion.
-/

namespace FlopCensus.Numeral

/-- An integer or a real. -/
inductive Number where
  | int (i : Int)
  | real (x : Float)
deriving Repr, Inhabited

/-- A finite real as an exact fraction. -/
def realFraction (x : Float) : Int × Nat :=
  let bits := x.toBits.toNat
  let d := decode (bits % signBit)
  let (up, down) := powerFraction 2 d.exponent
  let size : Int := (d.mantissa * up : Nat)
  (if bits / signBit == 1 then -size else size, down)

namespace Number

/-- The exact value of a number, if it is finite. -/
def fraction? : Number → Option (Int × Nat)
  | int i => some (i, 1)
  | real x => if x.isFinite then some (realFraction x) else none

/-- A real that compares with infinite ones as the number does. -/
def sample : Number → Float
  | int _ => 0
  | real x => x

/-- The first number is less. -/
def less (a b : Number) : Bool :=
  match a.fraction?, b.fraction? with
  | some (m, p), some (n, q) => m * q < n * p
  | _, _ => a.sample < b.sample

/-- The numbers are equal; what is no number at all equals itself. -/
def same (a b : Number) : Bool :=
  match a.fraction?, b.fraction? with
  | some (m, p), some (n, q) => m * q == n * p
  | none, none => a.sample == b.sample || (a.sample.isNaN && b.sample.isNaN)
  | _, _ => false

/-- The number is zero. -/
def isZero (a : Number) : Bool :=
  a.same (int 0)

/-- A real in place of a number; integers that are too large become infinite. -/
def nearest : Number → Float
  | int i => (ofInt? i).getD (if i < 0 then -1 / 0 else 1 / 0)
  | real x => x

/-- The sum of two numbers: exact for integers, and otherwise a real. -/
def add : Number → Number → Number
  | int i, int j => int (i + j)
  | a, b => real (a.nearest + b.nearest)

instance : Add Number := ⟨add⟩

instance : LT Number := ⟨fun a b => a.less b = true⟩

instance : DecidableLT Number := fun a b => inferInstanceAs (Decidable (a.less b = true))

/-- The text of a number. -/
def write : Number → Except Error String
  | int i => Numeral.write i
  | real x => return realText x

/-- The number as a real, unless it is too large. -/
def toReal? : Number → Option Float
  | int i => ofInt? i
  | real x => some x

end Number

end FlopCensus.Numeral
