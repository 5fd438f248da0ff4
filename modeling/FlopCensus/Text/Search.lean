set_option autoImplicit false
set_option relaxedAutoImplicit false

/-!
# Searching in texts

## Main definitions

* `FlopCensus.Text.splitsAt`: the ways to cut a text at an occurrence of another.
* `FlopCensus.Text.behind`: what follows each occurrence.
* `FlopCensus.Text.occurs`: whether a text occurs in another.
* `FlopCensus.Text.opensWith`, `FlopCensus.Text.endsWith`: what a text begins and ends with.
* `FlopCensus.Text.splitOnChar`: the pieces between the occurrences of a character.
-/

namespace FlopCensus.Text

/-- The ways to cut `s` into what stands before and behind an occurrence of `mark`, from left to
right. Occurrences may overlap. -/
def splitsAt (mark : List Char) : List Char → List (List Char × List Char)
  | [] => if mark.isEmpty then [([], [])] else []
  | c :: s =>
    let later := (splitsAt mark s).map fun (before, behind) => (c :: before, behind)
    match mark.isPrefixOf? (c :: s) with
    | some behind => ([], behind) :: later
    | none => later

/-- What follows each occurrence of `mark` in `s`, from left to right. -/
def behind (mark : List Char) : List Char → List (List Char)
  | [] => (mark.isPrefixOf? []).toList
  | c :: s => (mark.isPrefixOf? (c :: s)).toList ++ behind mark s

/-- The text occurs in another. -/
def occurs (mark : List Char) : List Char → Bool
  | [] => mark.isEmpty
  | c :: s => mark.isPrefixOf (c :: s) || occurs mark s

/-- The text opens with another. -/
def opensWith (s mark : String) : Bool :=
  mark.toList.isPrefixOf s.toList

/-- The text ends with another. -/
def endsWith (s mark : String) : Bool :=
  mark.toList.isSuffixOf s.toList

/-- The text occurs in another. -/
def contains (s mark : String) : Bool :=
  occurs mark.toList s.toList

/-- The pieces of a text between the occurrences of a character. -/
def splitOnChar (c : Char) (s : List Char) : List (List Char) :=
  s.foldr (fun d pieces =>
    if d == c then [] :: pieces
    else
      match pieces with
      | [] => [[d]]
      | piece :: pieces => (d :: piece) :: pieces) [[]]

end FlopCensus.Text
