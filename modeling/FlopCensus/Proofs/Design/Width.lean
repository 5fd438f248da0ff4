import FlopCensus.Design.Width
import FlopCensus.Proofs.Tree.Traversal
import Mathlib.Tactic.Common

set_option autoImplicit false
set_option relaxedAutoImplicit false

/-!
# The ends of a range

The width of a declaration is a matter of the first two numeric literals of its packed dimension.
Whatever else is written there, be it an identifier or an operator, is passed over, so that a bound
that is computed from a parameter is read as one of the numbers in it.

## Main definitions

* `FlopCensus.Design.HasEnds` — the first two numeric literals of a dimension are plain integers.

## Main results

* `FlopCensus.Design.resolveWidth_eq_ok_iff` — which dimensions have a width.
* `FlopCensus.Design.declaredWidth_law` — the width of a declaration with a packed dimension, and
  when it is one.
-/

namespace FlopCensus.Design

/-- The first two numeric literals of a dimension are plain integers, the ends of a range. -/
inductive HasEnds (dimensions : Node) (msb lsb : Int) : Prop
  | intro {first second : Leaf} {rest : List Leaf}
      (literals : dimensions.leaves.filter isNumeric = first :: second :: rest)
      (read_first : Numeral.read first.text = .ok msb)
      (read_second : Numeral.read second.text = .ok lsb)

/-- A literal denotes the number that is read from its text. -/
lemma literal_eq_ok_iff {l : Leaf} {i : Int} :
    literal l = .ok i ↔ Numeral.read l.text = .ok i := by
  rw [literal]
  cases Numeral.read l.text <;> simp

/-- **Which dimensions have a width**: those with two ends. -/
theorem resolveWidth_eq_ok_iff {dimensions : Node} {width : ℕ} :
    resolveWidth dimensions = .ok width ↔
      ∃ msb lsb, HasEnds dimensions msb lsb ∧ width = (msb - lsb).natAbs + 1 := by
  constructor
  · intro hwidth
    unfold resolveWidth at hwidth
    split at hwidth
    · rename_i first second rest hliterals
      cases hfirst : literal first with
      | error e => simp [hfirst, bind, Except.bind] at hwidth
      | ok msb =>
        cases hsecond : literal second with
        | error e => simp [hfirst, hsecond, bind, Except.bind] at hwidth
        | ok lsb =>
          simp only [hfirst, hsecond, bind, Except.bind, pure, Except.pure,
            Except.ok.injEq] at hwidth
          exact ⟨msb, lsb, ⟨hliterals, literal_eq_ok_iff.1 hfirst, literal_eq_ok_iff.1 hsecond⟩,
            hwidth.symm⟩
    · cases hwidth
  · rintro ⟨msb, lsb, ⟨hliterals, hfirst, hsecond⟩, rfl⟩
    rw [resolveWidth, hliterals]
    simp only [literal_eq_ok_iff.2 hfirst, literal_eq_ok_iff.2 hsecond]
    rfl

/-- The width of a declaration is the one that its first packed dimension has. -/
lemma value_declaredWidth_eq {declaration : Node} :
    (declaredWidth declaration).value =
      ((declaration.firstTagged? packedDimensions).bind fun d => (resolveWidth d).toOption).getD
        1 := by
  rw [declaredWidth]
  cases declaration.firstTagged? packedDimensions with
  | none => rfl
  | some dimensions =>
    rw [Option.bind_some]
    cases hwidth : resolveWidth dimensions <;> simp [hwidth, Except.toOption]

/-- A declaration has at least one bit. -/
lemma one_le_declaredWidth (declaration : Node) : 1 ≤ (declaredWidth declaration).value := by
  rw [value_declaredWidth_eq]
  cases declaration.firstTagged? packedDimensions with
  | none => exact Nat.le_refl 1
  | some dimensions =>
    rw [Option.bind_some]
    cases hwidth : resolveWidth dimensions with
    | error e => exact Nat.le_refl 1
    | ok width =>
      obtain ⟨msb, lsb, -, rfl⟩ := resolveWidth_eq_ok_iff.1 hwidth
      exact Nat.le_add_left 1 _

section Declaration

variable {declaration dimensions : Node}
  (hdimensions : declaration.firstTagged? packedDimensions = some dimensions)

include hdimensions

/-- Two ends give the width. -/
lemma declaredWidth_of_hasEnds {msb lsb : Int} (h : HasEnds dimensions msb lsb) :
    (declaredWidth declaration).value = (msb - lsb).natAbs + 1 := by
  rw [value_declaredWidth_eq, hdimensions, Option.bind_some, resolveWidth_eq_ok_iff.2 ⟨_, _, h, rfl⟩]
  rfl

/-- Without two ends the width is one. -/
lemma declaredWidth_of_not_hasEnds (h : ∀ msb lsb, ¬HasEnds dimensions msb lsb) :
    (declaredWidth declaration).value = 1 := by
  rw [value_declaredWidth_eq, hdimensions, Option.bind_some]
  cases hwidth : resolveWidth dimensions with
  | error e => rfl
  | ok width =>
    obtain ⟨msb, lsb, hends, -⟩ := resolveWidth_eq_ok_iff.1 hwidth
    exact absurd hends (h msb lsb)

/-- **The width of a declaration with a packed dimension.** It is that of the range between the
first two numeric literals of the dimension, whatever other tokens stand in it. So it is one exactly
if these two are not different plain integers; a parameter in the dimension does not make it one. -/
theorem declaredWidth_law :
    (∀ msb lsb, HasEnds dimensions msb lsb →
      (declaredWidth declaration).value = (msb - lsb).natAbs + 1) ∧
    ((declaredWidth declaration).value = 1 ↔
      ∀ msb lsb, HasEnds dimensions msb lsb → msb = lsb) := by
  refine ⟨fun msb lsb => declaredWidth_of_hasEnds hdimensions, fun hone msb lsb hends => ?_,
    fun hequal => ?_⟩
  · have hwidth := declaredWidth_of_hasEnds hdimensions hends
    omega
  · by_cases hends : ∃ msb lsb, HasEnds dimensions msb lsb
    · obtain ⟨msb, lsb, hends⟩ := hends
      obtain rfl := hequal msb lsb hends
      rw [declaredWidth_of_hasEnds hdimensions hends]
      simp
    · exact declaredWidth_of_not_hasEnds hdimensions fun msb lsb h => hends ⟨msb, lsb, h⟩

end Declaration

/-- The packed dimension with some tokens. -/
def dimensionsOf (bounds : List Leaf) : Node :=
  ⟨packedDimensions, bounds.map .leaf⟩

/-- The declaration of `q` with a packed dimension. -/
def vectorOf (bounds : List Leaf) : Node where
  tag := "kDataDeclaration"
  children := [
    .leaf ⟨"reg", "reg", 0, 3⟩,
    (dimensionsOf bounds).toTree,
    .node "kRegisterVariable" [.leaf ⟨"SymbolIdentifier", "q", 20, 21⟩]]

/-- The packed dimension of the declaration is found. -/
lemma firstTagged?_vectorOf (bounds : List Leaf) :
    (vectorOf bounds).firstTagged? packedDimensions = some (dimensionsOf bounds) := by
  simp [Node.firstTagged?, Tree.firstTagged?, vectorOf, dimensionsOf, Node.toTree,
    Tree.nodesTagged_node, packedDimensions]

/-- The packed dimension has these tokens. -/
lemma leaves_dimensionsOf (bounds : List Leaf) : (dimensionsOf bounds).leaves = bounds := by
  simp [dimensionsOf, Node.leaves, Node.toTree, List.flatMap_map]

/-- The tokens `[N:0]`, the left bound of which is a parameter. -/
def parameterBounds : List Leaf :=
  [⟨"[", "[", 4, 5⟩, ⟨"SymbolIdentifier", "N", 5, 6⟩, ⟨":", ":", 6, 7⟩,
    ⟨"TK_DecNumber", "0", 7, 8⟩, ⟨"]", "]", 8, 9⟩]

/-- The tokens `[N-1:0]`, the left bound of which is computed from a parameter. -/
def computedBounds : List Leaf :=
  [⟨"[", "[", 4, 5⟩, ⟨"SymbolIdentifier", "N", 5, 6⟩, ⟨"-", "-", 6, 7⟩,
    ⟨"TK_DecNumber", "1", 7, 8⟩, ⟨":", ":", 8, 9⟩, ⟨"TK_DecNumber", "0", 9, 10⟩,
    ⟨"]", "]", 10, 11⟩]

/-- One numeric literal beside a parameter does not make a range. -/
theorem declaredWidth_parameterBounds :
    (vectorOf parameterBounds).firstTagged? packedDimensions =
        some (dimensionsOf parameterBounds) ∧
      (declaredWidth (vectorOf parameterBounds)).value = 1 := by
  have hdimensions := firstTagged?_vectorOf parameterBounds
  obtain ⟨-, hone⟩ := declaredWidth_law hdimensions
  refine ⟨hdimensions, hone.2 fun msb lsb hends => ?_⟩
  have hliterals : (dimensionsOf parameterBounds).leaves.filter isNumeric =
      [⟨"TK_DecNumber", "0", 7, 8⟩] := by
    rw [leaves_dimensionsOf]
    decide
  obtain ⟨htwo, -, -⟩ := hends
  rw [hliterals] at htwo
  cases htwo

/-- **A width that is read from an expression with a parameter**: `[N-1:0]` counts as the range
between one and zero. -/
theorem declaredWidth_computedBounds :
    (vectorOf computedBounds).firstTagged? packedDimensions = some (dimensionsOf computedBounds) ∧
      ((dimensionsOf computedBounds).leaves.any (·.tag == "SymbolIdentifier")) = true ∧
      (declaredWidth (vectorOf computedBounds)).value = 2 := by
  refine ⟨firstTagged?_vectorOf computedBounds, ?_, by decide +kernel⟩
  rw [leaves_dimensionsOf]
  decide

end FlopCensus.Design
