import FlopCensus.Tree.Basic
import Mathlib.Data.List.Basic
import Mathlib.Tactic.Common

set_option autoImplicit false
set_option relaxedAutoImplicit false

/-!
# A tree is known from its outline

The outline of a tree lists its elements in document order, each with its depth. Nothing else of the
tree is lost: the children of a node are what follows it up to the next element that lies no deeper.

## Main definitions

* `FlopCensus.Tree.OpensAbove` — what may follow the outline of a forest.

## Main results

* `FlopCensus.Tree.outlineAll_append_inj` — outlines of forests are a prefix code.
* `FlopCensus.Tree.outline_injective` — trees with the same outline are equal.
-/

namespace FlopCensus

namespace Tree

/-- The list is empty or opens with an element that lies above the given depth. -/
def OpensAbove (depth : ℕ) (rest : List (ℕ × Element)) : Prop :=
  ∀ x ∈ rest.head?, x.1 < depth

@[simp] lemma opensAbove_nil (depth : ℕ) : OpensAbove depth [] := by
  simp [OpensAbove]

@[simp] lemma opensAbove_cons {depth : ℕ} {x : ℕ × Element} {rest : List (ℕ × Element)} :
    OpensAbove depth (x :: rest) ↔ x.1 < depth := by
  simp [OpensAbove]

/-- The outline of a forest side by side with another. -/
lemma outlineAll_append (depth : ℕ) (xs ys : List Tree) :
    outlineAll depth (xs ++ ys) = outlineAll depth xs ++ outlineAll depth ys := by
  induction xs with
  | nil => rw [List.nil_append, outlineAll, List.nil_append]
  | cons t xs ih => rw [List.cons_append, outlineAll, outlineAll, ih, List.append_assoc]

/-- What may follow a forest also opens above the depth below it, with the forest in front. -/
lemma OpensAbove.outlineAll_append {depth : ℕ} {rest : List (ℕ × Element)}
    (h : OpensAbove depth rest) (xs : List Tree) :
    OpensAbove (depth + 1) (outlineAll depth xs ++ rest) := by
  cases xs with
  | nil =>
    intro x hx
    have := h x hx
    omega
  | cons t xs =>
    cases t with
    | leaf token => simp [outlineAll, outlineFrom]
    | node tag children => simp [outlineAll, outlineFrom]

/-- **Outlines of forests are a prefix code**: where the forest ends can be seen from the depths.

**Proof sketch.** Induction on the size of the first forest. The first trees of both forests have
the same top, for it is the first entry. The children of a node end where the next entry lies no
deeper than the node, so they agree by induction, and so do the remaining trees. -/
theorem outlineAll_append_inj (depth : ℕ) (xs ys : List Tree) {r s : List (ℕ × Element)}
    (hr : OpensAbove depth r) (hs : OpensAbove depth s)
    (h : outlineAll depth xs ++ r = outlineAll depth ys ++ s) : xs = ys ∧ r = s := by
  match xs, ys with
  | [], [] => exact ⟨rfl, h⟩
  | [], .leaf _ :: _ =>
    rw [show r = _ from h] at hr
    simp [outlineAll, outlineFrom] at hr
  | [], .node _ _ :: _ =>
    rw [show r = _ from h] at hr
    simp [outlineAll, outlineFrom] at hr
  | .leaf _ :: _, [] =>
    rw [show s = _ from h.symm] at hs
    simp [outlineAll, outlineFrom] at hs
  | .node _ _ :: _, [] =>
    rw [show s = _ from h.symm] at hs
    simp [outlineAll, outlineFrom] at hs
  | .leaf a :: xs, .leaf b :: ys =>
    simp only [outlineAll, outlineFrom, List.cons_append, List.nil_append, List.cons.injEq,
      Prod.mk.injEq, true_and, Element.leaf.injEq] at h
    obtain ⟨rfl, rfl⟩ := outlineAll_append_inj depth xs ys hr hs h.2
    exact ⟨by rw [h.1], rfl⟩
  | .leaf _ :: _, .node _ _ :: _ => simp [outlineAll, outlineFrom] at h
  | .node _ _ :: _, .leaf _ :: _ => simp [outlineAll, outlineFrom] at h
  | .node t cs :: xs, .node u ds :: ys =>
    simp only [outlineAll, outlineFrom, List.cons_append, List.append_assoc, List.cons.injEq,
      Prod.mk.injEq, true_and, Element.node.injEq] at h
    obtain ⟨rfl, h⟩ := h
    obtain ⟨rfl, hrest⟩ := outlineAll_append_inj (depth + 1) cs ds
      (hr.outlineAll_append xs) (hs.outlineAll_append ys) h
    obtain ⟨rfl, rfl⟩ := outlineAll_append_inj depth xs ys hr hs hrest
    exact ⟨rfl, rfl⟩
termination_by sizeAll xs
decreasing_by all_goals simp only [sizeAll, size]; omega

/-- **Trees with the same outline are equal.** -/
theorem outline_injective {s t : Tree} (h : s.outline = t.outline) : s = t := by
  have hforest : outlineAll 0 [s] ++ [] = outlineAll 0 [t] ++ [] := by
    simp only [outlineAll, List.append_nil]
    exact h
  have := (outlineAll_append_inj 0 [s] [t] (opensAbove_nil 0) (opensAbove_nil 0) hforest).1
  exact List.head_eq_of_cons_eq this

/-- The outline of an interior node. -/
lemma outline_node (tag : String) (children : List Tree) :
    (Tree.node tag children).outline = (0, .node tag) :: outlineAll 1 children := by
  rw [outline, outlineFrom]

end Tree

/-- Interior nodes whose trees have the same outline are equal. -/
lemma Node.eq_of_outline {m n : Node} (h : m.toTree.outline = n.toTree.outline) : m = n := by
  have := Tree.outline_injective h
  cases m
  cases n
  simpa [Node.toTree] using this

end FlopCensus
