set_option autoImplicit false
set_option relaxedAutoImplicit false

/-!
# File name patterns

In a pattern `*` stands for any characters, `?` for one, `[…]` for one of a class and `[!…]` for one
outside it. A class holds single characters and ranges `a-z`; `]` in first place is a member, a
bracket that is not closed stands for itself, and there is no escape.

A hyphen makes a range when a character stands on either side of it that is not already the end of
a range. A range whose ends are in the wrong order is taken out, and only then the first character
decides whether the class is negated: `[b-a!c]` is `[!c]`.

## Main definitions

* `FlopCensus.Text.Glob.Part`: the parts of a pattern.
* `FlopCensus.Text.Glob.parts`: the parts of a written pattern.
* `FlopCensus.Text.Glob.accepts`: matching.
* `FlopCensus.Text.globMatches`: a pattern against a whole name.
-/

namespace FlopCensus.Text.Glob

/-- A part of a pattern. -/
inductive Part where
  /-- Any characters. -/
  | star
  /-- Any one character. -/
  | any
  /-- The character itself. -/
  | char (c : Char)
  /-- A character in one of the ranges, or, if negated, in none. -/
  | class (negated : Bool) (ranges : List (Char × Char))
deriving Repr, DecidableEq

/-- The characters of a class cut at the hyphens that make ranges. The next such hyphen has at least
`skip` characters in front of it. -/
def chunks (skip : Nat) (s : List Char) : List (List Char) :=
  let front := s.take skip ++ (s.drop skip).takeWhile (· != '-')
  match _h : s.drop front.length with
  | [] => [s]
  | _ :: rest => front :: chunks 2 rest
termination_by s.length
decreasing_by
  have h := congrArg List.length _h
  simp only [List.length_drop, List.length_cons] at h
  omega

/-- A hyphen with nothing behind it is a member. -/
def keepLastHyphen : List (List Char) → List (List Char)
  | [] => []
  | [c] => [c]
  | [c, []] => [c ++ ['-']]
  | c :: rest => c :: keepLastHyphen rest

/-- Takes out the ranges whose ends are in the wrong order. -/
def dropEmptyRanges : List (List Char) → List (List Char)
  | [] => []
  | c :: rest =>
    match dropEmptyRanges rest with
    | [] => [c]
    | d :: more =>
      match c.getLast?, d.head? with
      | some first, some last =>
        if last < first then (c.dropLast ++ d.tail) :: more else c :: d :: more
      | _, _ => c :: d :: more

/-- The ranges of a class, of which two neighbouring pieces share one. -/
def ranges : List (List Char) → List (Char × Char)
  | [] => []
  | [c] => c.map fun x => (x, x)
  | c :: d :: more =>
    let singles := c.dropLast.map fun x => (x, x)
    match c.getLast?, d with
    | some first, last :: d => singles ++ (first, last) :: ranges (d :: more)
    | _, d => singles ++ ranges (d :: more)
termination_by pieces => pieces.flatten.length + pieces.length
decreasing_by
  all_goals
    simp only [List.flatten_cons, List.length_append, List.length_cons]
    omega

/-- The part for the pieces of a class. Behind the mark of a negation a hyphen is a member. -/
def classOfPieces : List (List Char) → Part
  | ['!'] :: d :: more => .class true (('-', '-') :: ranges (d :: more))
  | ('!' :: c) :: more => .class true (ranges (c :: more))
  | pieces => .class false (ranges pieces)

/-- The part for the characters between brackets. -/
def classOf (s : List Char) : Part :=
  let skip := if s.head? == some '!' then 2 else 1
  classOfPieces (dropEmptyRanges (keepLastHyphen (chunks skip s)))

/-- The characters of a class behind its opening bracket. A bracket in first place does not close
the class. -/
def classBody (s : List Char) : List Char :=
  let first := if s.head? == some ']' then 1 else 0
  s.take first ++ (s.drop first).takeWhile (· != ']')

/-- The characters of a class behind its opening bracket, and what follows the closing one. -/
def splitClass? (s : List Char) : Option (List Char × List Char) :=
  match s.drop (classBody s).length with
  | [] => none
  | _ :: rest => some (classBody s, rest)

/-- Taking a class off the front leaves less. -/
theorem length_lt_of_splitClass? {s body rest : List Char} (h : splitClass? s = some (body, rest)) :
    rest.length < s.length := by
  unfold splitClass? at h
  split at h
  · simp at h
  · next tail htail =>
    simp only [Option.some.injEq, Prod.mk.injEq] at h
    have hl := congrArg List.length htail
    simp only [List.length_drop, List.length_cons, h.2] at hl
    omega

/-- The class behind an opening bracket, and what follows it. -/
def class? (s : List Char) : Option (Part × List Char) :=
  match s with
  | '!' :: s => (splitClass? s).map fun (body, rest) => (classOf ('!' :: body), rest)
  | s => (splitClass? s).map fun (body, rest) => (classOf body, rest)

/-- Taking a class off the front leaves less. -/
theorem length_lt_of_class? {s rest : List Char} {p : Part} (h : class? s = some (p, rest)) :
    rest.length < s.length := by
  unfold class? at h
  split at h
  · obtain ⟨⟨body, r⟩, hr, heq⟩ := Option.map_eq_some_iff.1 h
    have := length_lt_of_splitClass? hr
    simp only [Prod.mk.injEq] at heq
    simp only [List.length_cons, ← heq.2]
    omega
  · obtain ⟨⟨body, r⟩, hr, heq⟩ := Option.map_eq_some_iff.1 h
    have := length_lt_of_splitClass? hr
    simp only [Prod.mk.injEq] at heq
    simpa only [← heq.2] using this

/-- The parts of a written pattern. -/
def parts (s : List Char) : List Part :=
  match s with
  | [] => []
  | '*' :: s => .star :: parts s
  | '?' :: s => .any :: parts s
  | '[' :: s =>
    match _h : class? s with
    | some (p, rest) => p :: parts rest
    | none => .char '[' :: parts s
  | c :: s => .char c :: parts s
termination_by s.length
decreasing_by
  · simp
  · simp
  · have := length_lt_of_class? _h
    simp only [List.length_cons]
    omega
  · simp
  · simp

/-- The part stands for the character. -/
def Part.covers (p : Part) (c : Char) : Bool :=
  match p with
  | .star => false
  | .any => true
  | .char d => c == d
  | .class negated ranges => (ranges.any fun (first, last) => first ≤ c && c ≤ last) != negated

/-- For each place of a list whether a later one, or the place itself, holds. -/
def someLater (found : List Bool) : List Bool :=
  found.foldr (fun b later => (b || later.headD false) :: later) []

/-- For each rest of a text, the text itself first, whether some parts stand for the whole of it. -/
def acceptedRests (s : List Char) : List Part → List Bool
  | [] => List.replicate s.length false ++ [true]
  | .star :: ps => someLater (acceptedRests s ps)
  | p :: ps => List.zipWith (fun c rest => p.covers c && rest) s (acceptedRests s ps).tail ++ [false]

/-- The parts stand for the whole text. -/
def accepts (ps : List Part) (s : List Char) : Bool :=
  (acceptedRests s ps).headD false

end Glob

/-- The pattern stands for the whole name. -/
def globMatches (pattern name : String) : Bool :=
  Glob.accepts (Glob.parts pattern.toList) name.toList

end FlopCensus.Text
