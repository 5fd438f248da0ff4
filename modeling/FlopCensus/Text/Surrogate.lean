set_option autoImplicit false
set_option relaxedAutoImplicit false

/-!
# Halves of surrogate pairs

An escape can name one of the two units that only as a pair stand for a character. A half by itself
is no character, so another one stands in for it, from a plane to which no characters are assigned.

## Main definitions

* `FlopCensus.Text.isSurrogate`: the numbers of halves.
* `FlopCensus.Text.ofCode`: the character of a number, with stand-ins for halves.
* `FlopCensus.Text.surrogate?`: the half that a character stands in for.
-/

namespace FlopCensus.Text

/-- The number is that of a half. -/
def isSurrogate (n : Nat) : Bool :=
  0xd800 ≤ n && n < 0xe000

/-- The distance from the number of a half to that of its stand-in. -/
def surrogateShift : Nat := 0xb0000

/-- The character of a number; a half has its stand-in. -/
def ofCode (n : Nat) : Char :=
  Char.ofNat (if isSurrogate n then n + surrogateShift else n)

/-- The half that a character stands in for. -/
def surrogate? (c : Char) : Option Nat :=
  let n := c.toNat - surrogateShift
  if isSurrogate n then some n else none

end FlopCensus.Text
