import FlopCensus.Proofs.Dump.Printed
import FlopCensus.Proofs.Tree.Traversal
import Mathlib.Data.List.Basic
import Mathlib.Tactic.Common

set_option autoImplicit false
set_option relaxedAutoImplicit false

/-!
# Trees as a syntax tool prints them

A syntax tool numbers the parts of a node, not always without gaps, and decides for each leaf how
its tag is written. A listing is a tree with these choices. Its parts carry what makes them
printable, so that every listing can be printed, and its dump is parsed as the tree.

## Main definitions

* `FlopCensus.Dump.Label`, `FlopCensus.Dump.Tag`, `FlopCensus.Dump.LineText`,
  `FlopCensus.Dump.Span` — the parts of a line.
* `FlopCensus.Dump.Listing` — trees with the choices of a printer.
* `FlopCensus.Dump.Listing.tree` — the tree without them.
* `FlopCensus.Dump.dumpOf` — the printed dump.

## Main results

* `FlopCensus.Dump.Listing.shows_lines` — the lines of a listing show the outline of its tree.
* `FlopCensus.Dump.Listing.nodesTagged_tree_node` — the searches in the tree of a listing.
* `FlopCensus.Dump.parse_dumpOf` — the dump of a listing is parsed as its tree.
-/

namespace FlopCensus.Dump

open Text

/-! ### The parts of a line -/

/-- The tag of a node. -/
structure Label where
  /-- The tag. -/
  name : String
  /-- The tag is a word. -/
  isWord_name : isWord name.toList = true

/-- The tag of a leaf and how it is written. -/
structure Tag where
  /-- With which quotes the tag is written. -/
  spelling : Spelling
  /-- The tag. -/
  name : String
  /-- The tag can be written in this way. -/
  fits : spelling.Fits name.toList
  /-- The tag stays on its line. -/
  isPlain : IsPlain name.toList
  /-- The tag has no quotes at its ends. -/
  stripBy_name : stripBy isQuote name.toList = name.toList

/-- A text that stays on its line. -/
structure LineText where
  /-- The text. -/
  text : String
  /-- The text holds no separator of lines. -/
  isPlain : IsPlain text.toList

/-- The bytes of a token, with offsets that can be written. -/
structure Span where
  /-- The offset of the first byte. -/
  start : ℕ
  /-- The offset behind the last byte. -/
  stop : ℕ
  /-- The first offset is within the digit limit. -/
  start_fits : (Numeral.decimal start).length ≤ Numeral.digitLimit
  /-- The second offset is within the digit limit. -/
  stop_fits : (Numeral.decimal stop).length ≤ Numeral.digitLimit

/-! ### Listings -/

/-- A tree with the number of each part and the spelling of each tag. -/
inductive Listing where
  /-- A token. -/
  | leaf (index : ℕ) (tag : Tag) (text : LineText) (span : Span)
  /-- A node with its parts. -/
  | node (index : ℕ) (label : Label) (parts : List Listing)

namespace Listing

mutual

/-- The tree of a listing. -/
def tree : Listing → Tree
  | .leaf _ tag text span => .leaf ⟨tag.name, text.text, span.start, span.stop⟩
  | .node _ label parts => .node label.name (trees parts)

/-- The trees of several listings. -/
def trees : List Listing → List Tree
  | [] => []
  | t :: rest => tree t :: trees rest

end

mutual

/-- The lines of a listing. -/
def lines (w depth : ℕ) : Listing → List (List Char)
  | .leaf index tag text span =>
    [leafChars (spaces w depth) (Numeral.decimal index) (tag.spelling.write tag.name.toList)
      (Numeral.decimal span.start) (Numeral.decimal span.stop) text.text.toList]
  | .node index label parts =>
    nodeChars (spaces w depth) (Numeral.decimal index) label.name.toList " \x7b".toList ::
      (linesAll w (depth + 1) parts ++ [spaces w depth ++ "\x7d".toList])

/-- The lines of several listings. -/
def linesAll (w depth : ℕ) : List Listing → List (List Char)
  | [] => []
  | t :: rest => lines w depth t ++ linesAll w depth rest

end

mutual

/-- **The lines of a listing show the outline of its tree.** -/
theorem shows_lines (w depth : ℕ) (t : Listing) :
    Shows w (t.lines w depth) (Tree.outlineFrom depth t.tree) := by
  match t with
  | .leaf index tag text span =>
    have hshows := Shows.leaf w depth (isNumeral_decimal index) tag.fits tag.isPlain span.start_fits
      span.stop_fits text.isPlain
    rw [tag.stripBy_name, String.ofList_toList, String.ofList_toList] at hshows
    rw [lines, tree, Tree.outlineFrom]
    exact hshows
  | .node index label parts =>
    have hopen := Shows.node w depth (isNumeral_decimal index) label.isWord_name
      (by decide : IsPlain " \x7b".toList)
    rw [String.ofList_toList] at hopen
    have hparts := (shows_linesAll w (depth + 1) parts).append (Shows.brace w depth)
    rw [List.append_nil] at hparts
    rw [lines, tree, Tree.outlineFrom]
    exact hopen.append hparts

/-- The lines of several listings show the outline of their trees. -/
theorem shows_linesAll (w depth : ℕ) (ts : List Listing) :
    Shows w (linesAll w depth ts) (Tree.outlineAll depth (trees ts)) := by
  match ts with
  | [] =>
    rw [linesAll, trees, Tree.outlineAll]
    exact Shows.nil
  | t :: rest =>
    rw [linesAll, trees, Tree.outlineAll]
    exact (shows_lines w depth t).append (shows_linesAll w depth rest)

end

/-! ### Searching -/

/-- The trees of several listings, one by one. -/
lemma trees_eq_map (ts : List Listing) : trees ts = ts.map tree := by
  induction ts with
  | nil => rw [trees, List.map_nil]
  | cons t ts ih => rw [trees, ih, List.map_cons]

/-- The nodes with a tag in several listings. -/
def found (wanted : String) (ts : List Listing) : List Node :=
  (trees ts).flatMap (Tree.nodesTagged · wanted)

/-- The tokens of several listings. -/
def leavesOf (ts : List Listing) : List Leaf :=
  (trees ts).flatMap Tree.leaves

/-- No node of the listing has the tag. -/
def Lacks (wanted : String) (t : Listing) : Prop :=
  t.tree.nodesTagged wanted = []

@[simp] lemma found_nil (wanted : String) : found wanted [] = [] := by
  rw [found, trees, List.flatMap_nil]

lemma found_cons (wanted : String) (t : Listing) (ts : List Listing) :
    found wanted (t :: ts) = t.tree.nodesTagged wanted ++ found wanted ts := by
  rw [found, trees, List.flatMap_cons, found]

lemma found_append (wanted : String) (ts us : List Listing) :
    found wanted (ts ++ us) = found wanted ts ++ found wanted us := by
  simp only [found, trees_eq_map, List.map_append, List.flatMap_append]

/-- A listing without the tag is passed over. -/
lemma found_cons_of_lacks {wanted : String} {t : Listing} (h : t.Lacks wanted) (ts : List Listing) :
    found wanted (t :: ts) = found wanted ts := by
  rw [found_cons, h, List.nil_append]

@[simp] lemma leavesOf_nil : leavesOf [] = [] := by
  rw [leavesOf, trees, List.flatMap_nil]

@[simp] lemma leavesOf_cons (t : Listing) (ts : List Listing) :
    leavesOf (t :: ts) = t.tree.leaves ++ leavesOf ts := by
  rw [leavesOf, trees, List.flatMap_cons, leavesOf]

@[simp] lemma leavesOf_append (ts us : List Listing) :
    leavesOf (ts ++ us) = leavesOf ts ++ leavesOf us := by
  rw [leavesOf, trees_eq_map, List.map_append, List.flatMap_append, leavesOf, leavesOf,
    trees_eq_map, trees_eq_map]

@[simp] lemma leaves_tree_leaf (index : ℕ) (tag : Tag) (text : LineText) (span : Span) :
    (Listing.leaf index tag text span).tree.leaves =
      [⟨tag.name, text.text, span.start, span.stop⟩] := by
  rw [tree, Tree.leaves_leaf]

@[simp] lemma leaves_tree_node (index : ℕ) (label : Label) (parts : List Listing) :
    (Listing.node index label parts).tree.leaves = leavesOf parts := by
  rw [tree, Tree.leaves_node, leavesOf]

/-- The nodes with a tag in a node: the node itself, if it has the tag, and those in its parts. -/
lemma nodesTagged_tree_node (index : ℕ) (label : Label) (parts : List Listing) (wanted : String) :
    (Listing.node index label parts).tree.nodesTagged wanted =
      (if label.name = wanted then [⟨label.name, trees parts⟩] else []) ++ found wanted parts := by
  rw [tree, Tree.nodesTagged_node, found]

/-- A node with the tag is found before those in its parts. -/
lemma nodesTagged_tree_of_eq {label : Label} {wanted : String} (h : label.name = wanted) (index : ℕ)
    (parts : List Listing) : (Listing.node index label parts).tree.nodesTagged wanted =
      ⟨label.name, trees parts⟩ :: found wanted parts := by
  rw [nodesTagged_tree_node, if_pos h, List.singleton_append]

/-- In a node with another tag, those in its parts are found. -/
lemma nodesTagged_tree_of_ne {label : Label} {wanted : String} (h : label.name ≠ wanted)
    (index : ℕ) (parts : List Listing) :
    (Listing.node index label parts).tree.nodesTagged wanted = found wanted parts := by
  rw [nodesTagged_tree_node, if_neg h, List.nil_append]

@[simp] lemma lacks_leaf (wanted : String) (index : ℕ) (tag : Tag) (text : LineText) (span : Span) :
    (Listing.leaf index tag text span).Lacks wanted := by
  rw [Lacks, tree, Tree.nodesTagged_leaf]

/-- A node lacks a tag if it is not its own and all its parts lack it. -/
@[simp] lemma lacks_node (wanted : String) (index : ℕ) (label : Label) (parts : List Listing) :
    (Listing.node index label parts).Lacks wanted ↔
      wanted ≠ label.name ∧ ∀ t ∈ parts, t.Lacks wanted := by
  rw [Lacks, nodesTagged_tree_node, List.append_eq_nil_iff, found, trees_eq_map,
    List.flatMap_eq_nil_iff, List.forall_mem_map]
  refine and_congr ?_ Iff.rfl
  by_cases h : label.name = wanted
  · simp [h]
  · simp [h, Ne.symm h]

/-- Listings that lack a tag have no nodes with it. -/
lemma found_eq_nil {wanted : String} {ts : List Listing} (h : ∀ t ∈ ts, t.Lacks wanted) :
    found wanted ts = [] := by
  rw [found, trees_eq_map, List.flatMap_eq_nil_iff, List.forall_mem_map]
  exact h

/-- A node with the tag is the only one if its parts lack the tag. -/
lemma nodesTagged_tree_of_lacks {label : Label} {wanted : String} {parts : List Listing}
    (h : label.name = wanted) (hparts : ∀ t ∈ parts, t.Lacks wanted) (index : ℕ) :
    (Listing.node index label parts).tree.nodesTagged wanted = [⟨label.name, trees parts⟩] := by
  rw [nodesTagged_tree_of_eq h, found_eq_nil hparts]

/-- The tokens below the node of some parts. -/
lemma leaves_trees (name : String) (parts : List Listing) :
    Node.leaves ⟨name, trees parts⟩ = leavesOf parts := by
  rw [Node.leaves, Node.toTree, Tree.leaves_node, leavesOf]

/-- Below the node of some parts, which has another tag, those in its parts are found. -/
lemma nodesTagged_trees_of_ne {name wanted : String} (h : name ≠ wanted) (parts : List Listing) :
    Node.nodesTagged ⟨name, trees parts⟩ wanted = found wanted parts := by
  rw [Node.nodesTagged, Node.toTree, Tree.nodesTagged_node, if_neg h, List.nil_append, found]

/-- The first node below the node of some parts, which has another tag. -/
lemma firstTagged?_trees {name wanted : String} (h : name ≠ wanted) (parts : List Listing) :
    Node.firstTagged? ⟨name, trees parts⟩ wanted = (found wanted parts).head? := by
  rw [Node.firstTagged?, Tree.firstTagged?, ← Node.nodesTagged, nodesTagged_trees_of_ne h]

end Listing

/-! ### Dumps -/

/-- The dump of a listing whose root is a node: a title, and then the lines of the listing. -/
def dumpOf (w index : ℕ) (label : Label) (parts : List Listing) : String :=
  String.ofList (("Parse Tree:".toList :: (Listing.node index label parts).lines w 0).flatMap
    (· ++ ['\n']))

/-- **The dump of a listing is parsed as its tree.** -/
theorem parse_dumpOf {w : ℕ} (hw : 1 ≤ w) (index : ℕ) (label : Label) (parts : List Listing) :
    parse (dumpOf w index label parts) w = .ok ⟨label.name, Listing.trees parts⟩ := by
  have hshows := Shows.title.append ((Listing.node index label parts).shows_lines w 0)
  rw [List.nil_append, Listing.tree] at hshows
  exact parse_of_shows hw String.toList_ofList hshows

end FlopCensus.Dump
