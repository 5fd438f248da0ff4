import FlopCensus.Dump.Assembly
import FlopCensus.Proofs.Tree.Outline
import Mathlib.Data.Int.Notation
import Mathlib.Data.List.Basic
import Mathlib.Tactic.Common

set_option autoImplicit false
set_option relaxedAutoImplicit false

/-!
# The tree that is built from entries

Entries are added to a stack of open nodes, which later entries close. Seen from outside, the stack
is an outline that only grows: each entry is appended to it at its level, except that a node at the
outermost level starts a new outline, and a leaf at the outermost level is dropped.

## Main definitions

* `FlopCensus.Dump.View` — an outline with the number of nodes that are open at its end.
* `FlopCensus.Dump.Progress.view` — the view of a state of the assembly.
* `FlopCensus.Dump.levelled` — the entries with the levels at which they are added.

## Main results

* `FlopCensus.Dump.Progress.view_add` — the step of the view.
* `FlopCensus.Dump.view_foldl_addEntry` — the run of the view.
* `FlopCensus.Dump.parse_eq_bind` — a dump is parsed by assembling its entries.

## Design

The stack is not compared with the part of a tree that has been read, because nodes are closed late:
after the last entry of a subtree its nodes are still open. The outline does not depend on when
nodes are closed, so it is the invariant that the steps preserve.
-/

namespace FlopCensus

/-- The element is an interior node. -/
def Element.isNode : Element → Bool
  | .leaf _ => false
  | .node _ => true

namespace Dump

/-- An outline with the number of nodes that are open at its end. -/
structure View where
  /-- The number of open nodes. -/
  opened : ℕ
  /-- The elements with their depths. -/
  outline : List (ℕ × Element)

/-- One more element at a level. A node at the outermost level replaces the outline, and a leaf at
the outermost level leaves it as it is. -/
def View.add (v : View) (level : ℕ) (e : Element) : View where
  opened := if e.isNode then level + 1 else level
  outline :=
    if level = 0 then (if e.isNode then [(0, e)] else v.outline)
    else v.outline ++ [(level, e)]

/-- The outline of open nodes, innermost first. -/
def stackOutline : List OpenNode → List (ℕ × Element)
  | [] => []
  | o :: rest =>
    stackOutline rest ++
      (rest.length, .node o.tag) :: Tree.outlineAll (rest.length + 1) o.before.reverse

namespace Progress

/-- The outline of the open nodes, or of the finished root when no node is open. -/
def outline : Progress → List (ℕ × Element)
  | ⟨none, []⟩ => []
  | ⟨some root, []⟩ => root.toTree.outline
  | ⟨_, o :: rest⟩ => stackOutline (o :: rest)

/-- The state as it is seen from outside. -/
def view (p : Progress) : View :=
  ⟨p.stack.length, p.outline⟩

/-! ### Closing nodes -/

/-- Closing takes nodes off the stack. -/
lemma length_stack_close (n : ℕ) (p : Progress) :
    (p.close n).stack.length = p.stack.length - n := by
  induction n generalizing p with
  | zero => rw [close, Nat.sub_zero]
  | succ n ih =>
    obtain ⟨root, stack⟩ := p
    match stack with
    | [] => simp [close]
    | [o] =>
      rw [close, ih]
      simp
    | inner :: outer :: rest =>
      rw [close, ih]
      simp only [List.length_cons]
      omega

/-- The innermost node has the same place in the outline, open or closed. -/
lemma stackOutline_push (inner outer : OpenNode) (rest : List OpenNode) :
    stackOutline (outer.push inner.close.toTree :: rest) =
      stackOutline (inner :: outer :: rest) := by
  simp only [stackOutline, OpenNode.push, OpenNode.close, Node.toTree, List.reverse_cons,
    Tree.outlineAll_append, Tree.outlineAll, Tree.outlineFrom, List.length_cons, List.append_nil,
    List.append_assoc, List.cons_append]

/-- Closing nodes does not change the outline. -/
lemma outline_close (n : ℕ) (p : Progress) : (p.close n).outline = p.outline := by
  induction n generalizing p with
  | zero => rw [close]
  | succ n ih =>
    obtain ⟨root, stack⟩ := p
    match stack with
    | [] => rw [close]
    | [o] =>
      rw [close, ih, outline, outline, stackOutline, stackOutline, OpenNode.close, Node.toTree,
        Tree.outline_node]
      rfl
    | inner :: outer :: rest =>
      rw [close, ih, outline, outline, stackOutline_push]

/-- After closing down to a level, that many nodes are open. -/
lemma length_stack_closeTo {p : Progress} {level : ℕ} (h : level ≤ p.stack.length) :
    (p.closeTo level).stack.length = level := by
  rw [closeTo, length_stack_close]
  omega

/-- Closing down to a level does not change the outline. -/
lemma outline_closeTo (p : Progress) (level : ℕ) : (p.closeTo level).outline = p.outline :=
  outline_close _ p

/-- The outline is that of the result. -/
lemma outline_eq_result (p : Progress) :
    p.outline = (p.result.map fun root => root.toTree.outline).getD [] := by
  have hstack := length_stack_closeTo (Nat.zero_le p.stack.length)
  have houtline := outline_closeTo p 0
  rw [result, ← houtline]
  generalize p.closeTo 0 = q at hstack
  obtain ⟨root, stack⟩ := q
  obtain rfl : stack = [] := List.length_eq_zero_iff.1 hstack
  cases root with
  | none => rfl
  | some root => rfl

/-! ### Adding an element -/

/-- **One step of the assembly**, seen from outside.

**Proof sketch.** Closing nodes leaves the outline alone. What is then pushed on the stack, or given
to its innermost node, stands at the end of the outline. If no node is left open, a pushed node is
the whole outline, and a leaf finds no node. -/
theorem view_add {p : Progress} {level : ℕ} (h : level ≤ p.stack.length) (e : Element) :
    (p.add level e).view = p.view.add level e := by
  have hstack := length_stack_closeTo h
  have houtline := outline_closeTo p level
  rw [view, view, View.add, ← houtline]
  cases e with
  | node tag =>
    simp only [add, Element.isNode, if_true]
    generalize p.closeTo level = q at hstack
    obtain ⟨root, stack⟩ := q
    cases stack with
    | nil =>
      obtain rfl : level = 0 := hstack.symm
      simp [outline, stackOutline, Tree.outlineAll]
    | cons o rest =>
      obtain rfl : level = rest.length + 1 := hstack.symm
      simp [outline, stackOutline, Tree.outlineAll]
  | leaf token =>
    simp only [add, Element.isNode]
    generalize p.closeTo level = q at hstack
    obtain ⟨root, stack⟩ := q
    cases stack with
    | nil =>
      -- no node is open, and the leaf is lost
      obtain rfl : level = 0 := hstack.symm
      simp
    | cons o rest =>
      obtain rfl : level = rest.length + 1 := hstack.symm
      simp [outline, stackOutline, OpenNode.push, Tree.outlineAll_append, Tree.outlineAll,
        Tree.outlineFrom]

/-- Adds an entry at its level. -/
def addEntry (w : ℕ) (p : Progress) (e : Entry) : Progress :=
  p.add (min (e.indent / w) p.stack.length) e.element

end Progress

/-! ### Runs -/

/-- The entries with the levels at which they are added: the level that the indentation shows, but
no more than the number of nodes that the entries before left open. -/
def levelled (w : ℕ) : ℕ → List Entry → List (ℕ × Element)
  | _, [] => []
  | opened, e :: es =>
    let level := min (e.indent / w) opened
    (level, e.element) :: levelled w (if e.element.isNode then level + 1 else level) es

/-- Adds elements at their levels, one after another. -/
def View.addAll (v : View) (xs : List (ℕ × Element)) : View :=
  xs.foldl (fun v x => v.add x.1 x.2) v

/-- **The run of the assembly**, seen from outside. -/
theorem view_foldl_addEntry (w : ℕ) (es : List Entry) (p : Progress) :
    (es.foldl (Progress.addEntry w) p).view = p.view.addAll (levelled w p.stack.length es) := by
  induction es generalizing p with
  | nil => rfl
  | cons e es ih =>
    have hstep : (p.addEntry w e).view = p.view.add (min (e.indent / w) p.stack.length) e.element :=
      Progress.view_add (Nat.min_le_right _ _) _
    have hopened := congrArg View.opened hstep
    simp only [Progress.view, View.add] at hopened
    rw [List.foldl_cons, ih, hstep, hopened]
    rfl

/-- The entries of some lines; lines that say nothing about the tree have none. -/
def entries : List (List Char) → Except Error (List Entry)
  | [] => return []
  | line :: lines => do
    match ← readLine line with
    | none => entries lines
    | some e => return e :: (← entries lines)

/-- The entries of lines one after another. -/
lemma entries_append (ls ms : List (List Char)) :
    entries (ls ++ ms) = (do return (← entries ls) ++ (← entries ms)) := by
  induction ls with
  | nil =>
    rw [List.nil_append, entries]
    cases entries ms <;> rfl
  | cons l ls ih =>
    rw [List.cons_append, entries, entries]
    cases readLine l with
    | error e => rfl
    | ok found =>
      cases found with
      | none => exact ih
      | some e =>
        simp only [bind, Except.bind, ih]
        cases entries ls with
        | error e' => rfl
        | ok es => cases entries ms <;> rfl

/-- The level of an entry under a width of at least one. -/
lemma depthOf_of_pos {w : ℕ} (hw : 1 ≤ w) (indent opened : ℕ) :
    depthOf w indent opened = .ok (min (indent / w) opened) := by
  have hwidth : ((w : ℤ) == 0) = false := by
    rw [beq_eq_false_iff_ne]
    omega
  have hlevel : Int.fdiv (indent : ℤ) (w : ℤ) = ((indent / w : ℕ) : ℤ) := by
    rw [Int.fdiv_eq_ediv_of_nonneg _ (by omega), Int.natCast_ediv]
  rw [depthOf, hwidth, hlevel]
  simp only [Bool.false_eq_true, if_false, Int.toNat_natCast]
  rw [if_neg (Int.not_lt.2 (Int.natCast_nonneg _))]

/-- Lines are read one by one, and what they hold is added to the tree. -/
lemma foldlM_readInto {w : ℕ} (hw : 1 ≤ w) (lines : List (List Char)) (p : Progress) :
    lines.foldlM (readInto w) p =
      (entries lines).map fun es => es.foldl (Progress.addEntry w) p := by
  induction lines generalizing p with
  | nil => rfl
  | cons line lines ih =>
    rw [List.foldlM_cons, readInto, entries]
    cases readLine line with
    | error e => rfl
    | ok found =>
      cases found with
      | none => exact ih p
      | some e =>
        simp only [bind, Except.bind, depthOf_of_pos hw]
        change List.foldlM (readInto w) (p.addEntry w e) lines = _
        rw [ih]
        cases entries lines <;> rfl

/-- **A dump is parsed by assembling its entries.** -/
theorem parse_eq_bind {w : ℕ} (hw : 1 ≤ w) (text : String) :
    parse text w = (entries (Text.splitLines text.toList)).bind fun es =>
      match (es.foldl (Progress.addEntry w) .initial).result with
      | some root => .ok root
      | none => .error .noNodes := by
  rw [parse, foldlM_readInto hw]
  cases entries (Text.splitLines text.toList) with
  | error e => rfl
  | ok es =>
    simp only [Except.map, Except.bind, bind]
    cases (es.foldl (Progress.addEntry w) Progress.initial).result <;> rfl

/-- The result of a run is known from its outline. -/
lemma result_foldl_addEntry (w : ℕ) (es : List Entry) :
    (((es.foldl (Progress.addEntry w) .initial).result.map fun root => root.toTree.outline).getD [])
      = (View.addAll ⟨0, []⟩ (levelled w 0 es)).outline := by
  rw [← Progress.outline_eq_result]
  exact congrArg View.outline (view_foldl_addEntry w es .initial)

end Dump

end FlopCensus
