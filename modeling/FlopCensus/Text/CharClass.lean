import FlopCensus.Text.Case
import FlopCensus.Text.Printable
import FlopCensus.Text.Word

set_option autoImplicit false
set_option relaxedAutoImplicit false

/-!
# Named classes of characters

The classes that patterns name, as in `[[:digit:]]`. Digits and white space are those of ASCII;
letters are those of all scripts.

## Main definitions

* `FlopCensus.Text.CharClass`: the classes.
* `FlopCensus.Text.CharClass.ofName?`: a class by its name.
* `FlopCensus.Text.CharClass.holds`: membership.
-/

namespace FlopCensus.Text

/-- A class of characters with a name. -/
inductive CharClass where
  | alpha
  | digit
  | alnum
  | upper
  | lower
  | space
  | blank
  | punct
  | print
  | graph
  | cntrl
  | xdigit
deriving Repr, DecidableEq

namespace CharClass

/-- The class with a name. -/
def ofName? (name : String) : Option CharClass :=
  match name with
  | "alpha" => some .alpha
  | "digit" => some .digit
  | "alnum" => some .alnum
  | "upper" => some .upper
  | "lower" => some .lower
  | "space" => some .space
  | "blank" => some .blank
  | "punct" => some .punct
  | "print" => some .print
  | "graph" => some .graph
  | "cntrl" => some .cntrl
  | "xdigit" => some .xdigit
  | _ => none

/-- A character beyond ASCII. -/
def isWide (c : Char) : Bool :=
  '\x7f' < c

/-- A letter or a digit. -/
def isAlnum (c : Char) : Bool :=
  c.isAlphanum || (isWide c && isWordChar c)

/-- A character that leaves a mark on paper. -/
def isGraphic (c : Char) : Bool :=
  c != ' ' && isPrintable c

/-- The character belongs to the class. -/
def holds (k : CharClass) (c : Char) : Bool :=
  match k with
  | .alpha => c.isAlpha || (isWide c && isWordChar c)
  | .digit => c.isDigit
  | .alnum => isAlnum c
  | .upper => c.isUpper || (isWide c && Text.lower c.toString != c.toString)
  | .lower => c.isLower || (isWide c && Text.upper c.toString != c.toString)
  | .space => c == ' ' || ('\t' ≤ c && c ≤ '\r')
  | .blank => c == ' ' || c == '\t'
  | .punct => isGraphic c && !isAlnum c
  | .print => c == ' ' || isGraphic c
  | .graph => isGraphic c
  | .cntrl => c < ' ' || ('\x7f' ≤ c && c < '\u00a0')
  | .xdigit => c.isDigit || ('a' ≤ c && c ≤ 'f') || ('A' ≤ c && c ≤ 'F')

end CharClass

end FlopCensus.Text
