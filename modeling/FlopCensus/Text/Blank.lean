import FlopCensus.Text.Ranges

set_option autoImplicit false
set_option relaxedAutoImplicit false

/-!
# Blank characters

White space of Unicode in the wide sense: next to the characters with the property `White_Space`
the four information separators U+001C to U+001F count as blank.

## Main definitions

* `FlopCensus.Text.isBlank`: membership in the class.
* `FlopCensus.Text.stripChars`, `FlopCensus.Text.strip`: a text without the blanks at its ends.
* `FlopCensus.Text.stripBy`: the same for any class.
-/

namespace FlopCensus.Text

/-- Ranges of the blank characters, in increasing order. -/
def blankRanges : Ranges := [
  (0x9, 0xd), (0x1c, 0x20), (0x85, 0x85), (0xa0, 0xa0), (0x1680, 0x1680), (0x2000, 0x200a),
  (0x2028, 0x2029), (0x202f, 0x202f), (0x205f, 0x205f), (0x3000, 0x3000)]

/-- White space of any kind. -/
def isBlank (c : Char) : Bool :=
  blankRanges.covers c

/-- The characters without those of a class at the end. -/
def dropEndBy (p : Char → Bool) (s : List Char) : List Char :=
  (s.reverse.dropWhile p).reverse

/-- The characters without those of a class at either end. -/
def stripBy (p : Char → Bool) (s : List Char) : List Char :=
  dropEndBy p (s.dropWhile p)

/-- The characters without the blanks at either end. -/
def stripChars (s : List Char) : List Char :=
  stripBy isBlank s

/-- A text without the blanks at either end. -/
def strip (s : String) : String :=
  String.ofList (stripChars s.toList)

end FlopCensus.Text
