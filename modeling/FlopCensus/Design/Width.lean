import FlopCensus.Log
import FlopCensus.Numeral.Integer
import FlopCensus.Text.Search
import FlopCensus.Tree.Basic

set_option autoImplicit false
set_option relaxedAutoImplicit false

/-!
# Bit widths and line numbers

The width of a declaration is read from its packed dimension, whose first two numeric literals are
the two ends of the range. A declaration without a readable range is one bit wide.

## Main definitions

* `FlopCensus.Design.WidthError`: why a range could not be read.
* `FlopCensus.Design.resolveWidth`: the width of a packed dimension.
* `FlopCensus.Design.declaredWidth`: the width of a declaration.
* `FlopCensus.Design.lineAt`: the line of a byte of the source.
-/

namespace FlopCensus.Design

/-- The tag of the packed dimensions of a declaration. -/
def packedDimensions : String := "kPackedDimensions"

/-- The front part of the tags of numeric literals. -/
def numericMark : String := "TK_"

/-- Why a packed dimension has no width. -/
inductive WidthError where
  /-- There are fewer than two numeric literals. -/
  | tooFew (found : Nat)
  /-- One of the two literals is no plain integer. -/
  | literal (cause : Numeral.Error)
deriving Repr, DecidableEq

/-- The wording of an error. -/
def WidthError.message : WidthError → String
  | .tooFew found => "expected two numeric literals, found " ++ Numeral.natText found
  | .literal cause => cause.message

/-- The token is a numeric literal. -/
def isNumeric (l : Leaf) : Bool :=
  Text.opensWith l.tag numericMark

/-- The number that a literal denotes. -/
def literal (l : Leaf) : Except WidthError Int :=
  match Numeral.read l.text with
  | .ok i => .ok i
  | .error e => .error (.literal e)

/-- The width of the range between the first two numeric literals of a packed dimension. -/
def resolveWidth (dimensions : Node) : Except WidthError Nat :=
  match dimensions.leaves.filter isNumeric with
  | first :: second :: _ => do
    let msb ← literal first
    let lsb ← literal second
    return (msb - lsb).natAbs + 1
  | few => throw (.tooFew few.length)

/-- The width of a declaration: that of its first packed dimension, and one bit when there is none
or it has no width. -/
def declaredWidth (declaration : Node) : Logged Nat :=
  match declaration.firstTagged? packedDimensions with
  | none => return 1
  | some dimensions =>
    match resolveWidth dimensions with
    | .ok width => return width
    | .error e => do
      Logged.tell .debug .extraction ("Defaulting width to 1: " ++ e.message)
      return 1

/-- The line, counted from one, that holds the byte at an offset; before the first byte it is the
first line, and behind the last byte the last. -/
def lineAt (source : List UInt8) (offset : Int) : Nat :=
  (source.take offset.toNat).count 10 + 1

end FlopCensus.Design
