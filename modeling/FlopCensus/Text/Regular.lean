import FlopCensus.Text.CharClass
import FlopCensus.Text.Octets

set_option autoImplicit false
set_option relaxedAutoImplicit false

/-!
# Regular expressions

An expression is matched by finding all places up to which it can stand for a text, and what its
groups stand for on the way there. Of the parts of an expression an earlier one takes as much as it
can.

## Main definitions

* `FlopCensus.Text.Regular`: expressions.
* `FlopCensus.Text.Regular.ends`: the places up to which an expression can stand.
* `FlopCensus.Text.Regular.find?`: the first of the longest parts of a text for which it stands.
-/

namespace FlopCensus.Text

/-- A set of characters. -/
structure CharSet where
  /-- The members are those that are not listed. -/
  negated : Bool := false
  ranges : List (Char × Char) := []
  classes : List CharClass := []
deriving Repr, DecidableEq

/-- The character is listed. -/
def CharSet.lists (s : CharSet) (c : Char) : Bool :=
  s.ranges.any (fun (first, last) => first ≤ c && c ≤ last) || s.classes.any (·.holds c)

/-- The set of one character. -/
def CharSet.one (c : Char) : CharSet :=
  { ranges := [(c, c)] }

/-- The characters of words. -/
def CharSet.word : CharSet :=
  { ranges := [('_', '_')], classes := [.alnum] }

/-- A place between two characters. -/
inductive Edge where
  | lineStart
  | lineEnd
  | textStart
  | textEnd
  | wordStart
  | wordEnd
  /-- The start or the end of a word. -/
  | wordEdge
  /-- Neither the start nor the end of a word. -/
  | noWordEdge
deriving Repr, DecidableEq

/-- A regular expression. -/
inductive Regular where
  | empty
  | char (s : CharSet)
  | edge (e : Edge)
  | seq (a b : Regular)
  | alt (a b : Regular)
  /-- An expression several times in sequence. -/
  | times (least : Nat) (most : Option Nat) (a : Regular)
  | group (n : Nat) (a : Regular)
  /-- What a group stands for, once more. -/
  | again (n : Nat)
deriving Repr, DecidableEq

/-- How a text is compared. -/
structure Manner where
  /-- Upper and lower case are one. -/
  foldCase : Bool := false
  /-- The text is made of lines. -/
  byLine : Bool := false
deriving Repr, DecidableEq

/-- A place in a text. -/
structure Spot where
  /-- The character in front of the place. -/
  before : Option Char
  rest : List Char
  /-- The number of characters that have been passed. -/
  passed : Nat := 0
  /-- What groups stand for. -/
  groups : List (Nat × List Char) := []
deriving Repr, DecidableEq

/-- The other characters that are the same but for their case. -/
def otherCase (c : Char) : List Char :=
  if c.isLower then [c.toUpper]
  else if c.isUpper then [c.toLower]
  else if CharClass.isWide c then (upper c.toString).toList ++ (lower c.toString).toList
  else []

namespace Regular

/-- The character belongs to the set. A stray byte belongs to none. -/
def admits (m : Manner) (s : CharSet) (c : Char) : Bool :=
  !isStray c && (s.lists c || (m.foldCase && (otherCase c).any s.lists)) != s.negated

/-- The characters are the same. -/
def alike (m : Manner) (c d : Char) : Bool :=
  c == d || (m.foldCase && (otherCase c).contains d)

/-- The place is an edge. -/
def isAt (m : Manner) (e : Edge) (s : Spot) : Bool :=
  let inWord := fun (c : Option Char) => c.any CharSet.word.lists
  let next := s.rest.head?
  let starts := !inWord s.before && inWord next
  let ends := inWord s.before && !inWord next
  match e with
  | .lineStart => s.before.isNone || (m.byLine && s.before == some '\n')
  | .lineEnd => next.isNone || (m.byLine && next == some '\n')
  | .textStart => s.before.isNone
  | .textEnd => next.isNone
  | .wordStart => starts
  | .wordEnd => ends
  | .wordEdge => starts || ends
  | .noWordEdge => !(starts || ends)

/-- The place behind some characters. -/
def pass (m : Manner) (cs : List Char) (s : Spot) : Option Spot :=
  match cs, s.rest with
  | [], _ => some s
  | c :: cs, d :: rest =>
    if alike m c d then pass m cs { s with before := some d, rest, passed := s.passed + 1 }
    else none
  | _ :: _, [] => none

/-- The expression asks for a group once more. -/
def refersBack : Regular → Bool
  | .again _ => true
  | .seq a b | .alt a b => a.refersBack || b.refersBack
  | .times _ _ a | .group _ a => a.refersBack
  | _ => false

/-- The places from the last one to the first, and only the first way to each unless all are to be
kept. -/
def tidy (keep : Bool) (spots : List Spot) : List Spot :=
  match spots with
  | [] => []
  | [s] => [s]
  | _ =>
    let sorted := spots.mergeSort fun a b => b.passed ≤ a.passed
    if keep then sorted.eraseDups
    else
      sorted.foldr (fun s kept =>
        match kept with
        | t :: more => if s.passed == t.passed then s :: more else s :: kept
        | [] => [s]) []

/-- The places that are reached by rounds of one expression. Once the least number of rounds has
been made, a round has to lead on. -/
def rounds (keep : Bool) (step : Spot → List Spot) :
    Nat → Nat → Option Nat → List Spot → List Spot → List Spot
  | 0, _, _, _, found => found
  | n + 1, least, most, front, found =>
    let found := if least == 0 then found ++ front else found
    if front.isEmpty || most == some 0 then found
    else
      let next := front.flatMap fun s => (step s).filter fun t => least > 0 || s.passed < t.passed
      let next := tidy keep next
      let isNew := fun (t : Spot) => keep || !found.any fun s => s.passed == t.passed
      let next := if least ≤ 1 then next.filter isNew else next
      rounds keep step n (least - 1) (most.map (· - 1)) next found

/-- The places up to which the expression can stand for a text from a place on, the last one
first. -/
def ends (m : Manner) (keep : Bool) : Regular → Spot → List Spot
  | .empty, s => [s]
  | .char set, s =>
    match s.rest with
    | c :: rest =>
      if admits m set c then [{ s with before := some c, rest, passed := s.passed + 1 }] else []
    | [] => []
  | .edge e, s => if isAt m e s then [s] else []
  | .seq a b, s => tidy keep ((a.ends m keep s).flatMap fun t => b.ends m keep t)
  | .alt a b, s => tidy keep (a.ends m keep s ++ b.ends m keep s)
  | .times least most a, s =>
    tidy keep
      (rounds keep (fun t => a.ends m keep t) (least + s.rest.length + 2) least most [s] [])
  | .group n a, s =>
    (a.ends m keep s).map fun t =>
      let own := s.rest.take (t.passed - s.passed)
      { t with groups := (n, own) :: t.groups.filter (·.1 != n) }
  | .again n, s =>
    match s.groups.lookup n with
    | some own => (pass m own s).toList
    | none => []

/-- A part of a text for which an expression stands. -/
structure Found where
  /-- What stands in front of the part. -/
  skipped : List Char
  text : List Char
  /-- What groups stand for. -/
  groups : List (Nat × List Char)
  rest : List Char
deriving Repr, DecidableEq

/-- The first of the longest parts of a text for which the expression stands, the characters that
were passed being given with the last one first. -/
def findFrom (m : Manner) (keep : Bool) (r : Regular) (before : Option Char)
    (skipped : List Char) : List Char → Option Found
  | [] => attempt []
  | c :: rest =>
    match attempt (c :: rest) with
    | some f => some f
    | none => findFrom m keep r (some c) (c :: skipped) rest
where
  /-- The longest part from here on. -/
  attempt (s : List Char) : Option Found :=
    (ends m keep r { before, rest := s }).head?.map fun t =>
      { skipped := skipped.reverse, text := s.take t.passed, groups := t.groups, rest := t.rest }

/-- The first of the longest parts of a text for which the expression stands. -/
def find? (m : Manner) (r : Regular) (before : Option Char) (s : List Char) : Option Found :=
  findFrom m r.refersBack r before [] s

/-- The expression stands for a part of the text. -/
def occursIn (m : Manner) (r : Regular) (s : List Char) : Bool :=
  (r.find? m none s).isSome

/-- A text as an expression. -/
def literal (s : List Char) : Regular :=
  s.foldr (fun c r => .seq (.char (.one c)) r) .empty

end Regular

end FlopCensus.Text
