import FlopCensus.Proofs.Dump.Assembly
import Mathlib.Data.List.Basic
import Mathlib.Tactic.Common

set_option autoImplicit false
set_option relaxedAutoImplicit false

/-!
# Reading a printed outline

A tree is printed by writing its outline line by line, each element indented by its depth. Read
back, every element gets the level of its depth, so the assembly builds an outline that is the
printed one, and with it the same tree.

## Main definitions

* `FlopCensus.Dump.indented` — the entries of a printed outline.

## Main results

* `FlopCensus.Dump.levelled_indented` — the entries of a printed outline get their depths back.
* `FlopCensus.Dump.parse_of_entries` — a dump with the entries of a printed tree gives that tree.
-/

namespace FlopCensus.Dump

open FlopCensus.Tree (outlineAll outlineFrom)

/-- The entries of an outline that is printed with `w` blanks for each level. -/
def indented (w : ℕ) (outline : List (ℕ × Element)) : List Entry :=
  outline.map fun x => ⟨w * x.1, x.2⟩

@[simp] lemma indented_nil (w : ℕ) : indented w [] = [] := rfl

@[simp] lemma indented_cons (w : ℕ) (x : ℕ × Element) (xs : List (ℕ × Element)) :
    indented w (x :: xs) = ⟨w * x.1, x.2⟩ :: indented w xs := rfl

@[simp] lemma indented_append (w : ℕ) (xs ys : List (ℕ × Element)) :
    indented w (xs ++ ys) = indented w xs ++ indented w ys :=
  List.map_append

/-- An entry indented by a depth is added at that depth, if enough nodes are open. -/
lemma levelled_cons_of_le {w : ℕ} (hw : 1 ≤ w) {depth opened : ℕ} (h : depth ≤ opened)
    (e : Element) (es : List Entry) :
    levelled w opened (⟨w * depth, e⟩ :: es) =
      (depth, e) :: levelled w (if e.isNode then depth + 1 else depth) es := by
  have hlevel : min (w * depth / w) opened = depth := by
    rw [Nat.mul_div_cancel_left _ (by omega)]
    omega
  rw [levelled, hlevel]

/-- The entries of a printed forest get their depths back, and leave as many nodes open as the
entries behind them may need.

**Proof sketch.** Induction on the forest. A leaf leaves its own depth open, a node one more, which
is what its children need; behind the children at least the depth of the node itself is open. -/
lemma levelled_indented_outlineAll {w : ℕ} (hw : 1 ≤ w) {depth opened : ℕ} (h : depth ≤ opened)
    (ts : List Tree) : ∃ left, depth ≤ left ∧ ∀ es, levelled w opened
      (indented w (outlineAll depth ts) ++ es) = outlineAll depth ts ++ levelled w left es := by
  match ts with
  | [] => exact ⟨opened, h, fun es => by rw [outlineAll]; rfl⟩
  | .leaf token :: ts =>
    obtain ⟨left, hle, hrest⟩ := levelled_indented_outlineAll hw (Nat.le_refl depth) ts
    refine ⟨left, hle, fun es => ?_⟩
    rw [outlineAll, outlineFrom, List.singleton_append, indented_cons, List.cons_append,
      levelled_cons_of_le hw h, List.cons_append, ← hrest]
    rfl
  | .node tag children :: ts =>
    obtain ⟨inner, hinner, hchildren⟩ :=
      levelled_indented_outlineAll hw (Nat.le_refl (depth + 1)) children
    obtain ⟨left, hle, hrest⟩ :=
      levelled_indented_outlineAll hw (show depth ≤ inner by omega) ts
    refine ⟨left, hle, fun es => ?_⟩
    rw [outlineAll, outlineFrom, List.cons_append, indented_cons, indented_append, List.cons_append,
      levelled_cons_of_le hw h, List.cons_append, List.append_assoc, List.append_assoc, ← hrest,
      ← hchildren]
    rfl
termination_by Tree.sizeAll ts
decreasing_by all_goals simp only [Tree.sizeAll, Tree.size]; omega

/-- **The entries of a printed tree get their depths back.** -/
theorem levelled_indented {w : ℕ} (hw : 1 ≤ w) (t : Tree) :
    levelled w 0 (indented w t.outline) = t.outline := by
  obtain ⟨left, -, h⟩ := levelled_indented_outlineAll hw (Nat.le_refl 0) [t]
  have hlast := h []
  have hone : outlineAll 0 [t] = t.outline := by
    rw [outlineAll, outlineAll, List.append_nil, Tree.outline]
  rwa [hone, List.append_nil, levelled, List.append_nil] at hlast

/-- Below a depth no element of an outline lies higher. -/
lemma le_of_mem_outlineAll {depth : ℕ} (ts : List Tree) :
    ∀ x ∈ outlineAll depth ts, depth ≤ x.1 := by
  intro x hx
  match ts with
  | [] => rw [outlineAll] at hx; cases hx
  | .leaf token :: ts =>
    rw [outlineAll, outlineFrom, List.singleton_append, List.mem_cons] at hx
    rcases hx with rfl | hx
    · exact Nat.le_refl depth
    · exact le_of_mem_outlineAll ts x hx
  | .node tag children :: ts =>
    rw [outlineAll, outlineFrom, List.cons_append, List.mem_cons, List.mem_append] at hx
    rcases hx with rfl | hx | hx
    · exact Nat.le_refl depth
    · exact Nat.le_of_succ_le (le_of_mem_outlineAll children x hx)
    · exact le_of_mem_outlineAll ts x hx
termination_by Tree.sizeAll ts
decreasing_by all_goals simp only [Tree.sizeAll, Tree.size]; omega

/-- Below the outermost level, elements are appended. -/
lemma View.outline_addAll {xs : List (ℕ × Element)} (h : ∀ x ∈ xs, x.1 ≠ 0) (v : View) :
    (v.addAll xs).outline = v.outline ++ xs := by
  induction xs generalizing v with
  | nil => exact (List.append_nil _).symm
  | cons x xs ih =>
    have hx := h x List.mem_cons_self
    have hxs := fun y hy => h y (List.mem_cons_of_mem _ hy)
    rw [View.addAll, List.foldl_cons]
    have hfirst : xs.foldl (fun v x => v.add x.1 x.2) (v.add x.1 x.2) =
        (v.add x.1 x.2).addAll xs := rfl
    rw [hfirst, ih hxs, View.add, if_neg hx, List.append_assoc, List.singleton_append]

/-- The outline of a tree is assembled as it is. -/
lemma outline_addAll_outline (root : Node) (v : View) :
    (v.addAll root.toTree.outline).outline = root.toTree.outline := by
  have hbelow : ∀ x ∈ outlineAll 1 root.children, x.1 ≠ 0 := by
    intro x hx
    have := le_of_mem_outlineAll root.children x hx
    omega
  rw [Node.toTree, Tree.outline_node]
  change ((v.add 0 (.node root.tag)).addAll (outlineAll 1 root.children)).outline = _
  rw [View.outline_addAll hbelow]
  rfl

/-- **A dump whose entries are those of a printed tree is parsed as that tree.** -/
theorem parse_of_entries {w : ℕ} (hw : 1 ≤ w) {text : String} {root : Node}
    (h : entries (Text.splitLines text.toList) = .ok (indented w root.toTree.outline)) :
    parse text w = .ok root := by
  have hresult := result_foldl_addEntry w (indented w root.toTree.outline)
  rw [levelled_indented hw, outline_addAll_outline] at hresult
  rw [parse_eq_bind hw, h]
  simp only [Except.bind]
  generalize ((indented w root.toTree.outline).foldl (Progress.addEntry w) .initial).result =
    found at hresult ⊢
  cases found with
  | none =>
    rw [Node.toTree, Tree.outline_node] at hresult
    simp at hresult
  | some n => rw [Node.eq_of_outline hresult]

end FlopCensus.Dump
