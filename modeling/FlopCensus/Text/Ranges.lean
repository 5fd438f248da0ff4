set_option autoImplicit false
set_option relaxedAutoImplicit false

/-!
# Character classes as ranges of code points

A character class of Unicode is a table of ranges in increasing order. Membership looks at the
ranges in turn and stops at the first that starts behind the character.

## Main definitions

* `FlopCensus.Text.Ranges`: a class given by its ranges.
* `FlopCensus.Text.Ranges.covers`: membership.
-/

namespace FlopCensus.Text

/-- Ranges of code points, both ends included, in increasing order. -/
abbrev Ranges := List (Nat × Nat)

/-- The character lies in one of the ranges. -/
def Ranges.covers : Ranges → Char → Bool
  | [], _ => false
  | (first, last) :: rest, c =>
    if c.toNat < first then false else c.toNat ≤ last || Ranges.covers rest c

end FlopCensus.Text
