import FlopCensus.Tree.Basic
import Mathlib.Data.List.Basic
import Mathlib.Tactic.Common

set_option autoImplicit false
set_option relaxedAutoImplicit false

/-!
# Searching trees by recursion

The searches of a tree walk it with an explicit stack. The walk visits the elements in document
order, so each search has equations by recursion on the tree, with which the searches in a given
tree are computed.

## Main results

* `FlopCensus.Tree.elements_eq_preorder` — the walk visits the elements in document order.
* `FlopCensus.Tree.leaves_node`, `FlopCensus.Tree.nodesTagged_node` — the searches below a node.
-/

namespace FlopCensus

namespace Tree

/-- The elements of two forests side by side. -/
lemma preorderAll_append (xs ys : List Tree) :
    preorderAll (xs ++ ys) = preorderAll xs ++ preorderAll ys := by
  induction xs with
  | nil => rw [List.nil_append, preorderAll, List.nil_append]
  | cons t xs ih => rw [List.cons_append, preorderAll, preorderAll, ih, List.append_assoc]

/-- The elements of a forest are those of its trees. -/
lemma preorderAll_eq_flatMap (xs : List Tree) : preorderAll xs = xs.flatMap preorder := by
  induction xs with
  | nil => rw [preorderAll, List.flatMap_nil]
  | cons t xs ih => rw [preorderAll, List.flatMap_cons, ih]

/-- A walk over pending trees visits each of them in document order. -/
lemma walk_eq_preorderAll (pending : List Tree) : walk pending = preorderAll pending := by
  fun_induction walk pending with
  | case1 => rw [preorderAll]
  | case2 token pending ih => rw [preorderAll, preorder, ih, List.singleton_append]
  | case3 tag children pending ih =>
    rw [preorderAll, preorder, ih, preorderAll_append, List.cons_append]

/-- **The walk visits the elements of a tree in document order.** -/
theorem elements_eq_preorder (t : Tree) : t.elements = t.preorder := by
  rw [elements, walk_eq_preorderAll, preorderAll, preorderAll, List.append_nil]

/-- A token has no other elements. -/
lemma elements_leaf (token : Leaf) : (Tree.leaf token).elements = [.leaf token] := by
  rw [elements_eq_preorder, preorder]

/-- A node comes before the elements below it. -/
lemma elements_node (tag : String) (children : List Tree) :
    (Tree.node tag children).elements = .node tag children :: children.flatMap elements := by
  rw [elements_eq_preorder, preorder, preorderAll_eq_flatMap]
  exact congrArg _ (List.flatMap_congr fun t _ => (elements_eq_preorder t).symm)

@[simp] lemma leaves_leaf (token : Leaf) : (Tree.leaf token).leaves = [token] := by
  simp [leaves, elements_leaf, leaf?]

/-- **The tokens below a node are those of its children.** -/
@[simp] theorem leaves_node (tag : String) (children : List Tree) :
    (Tree.node tag children).leaves = children.flatMap leaves := by
  simp only [leaves, elements_node, List.filterMap_cons, leaf?, List.filterMap_flatMap]
  rfl

@[simp] lemma nodesTagged_leaf (token : Leaf) (tag : String) :
    (Tree.leaf token).nodesTagged tag = [] := by
  simp [nodesTagged, elements_leaf, node?]

/-- **The nodes with a tag below a node**: the node itself, if it has the tag, and then those of its
children. -/
theorem nodesTagged_node (tag : String) (children : List Tree) (wanted : String) :
    (Tree.node tag children).nodesTagged wanted =
      (if tag = wanted then [⟨tag, children⟩] else []) ++
        children.flatMap (nodesTagged · wanted) := by
  simp only [nodesTagged, elements_node, List.filterMap_cons, node?, List.filterMap_flatMap,
    List.filter_cons, beq_iff_eq, List.filter_flatMap]
  split <;> rfl

end Tree

end FlopCensus
