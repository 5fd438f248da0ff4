import FlopCensus.Proofs.Design.View
import FlopCensus.Proofs.Slang.Description
import Mathlib.Data.List.Basic
import Mathlib.Tactic.Common

set_option autoImplicit false
set_option relaxedAutoImplicit false

/-!
# Views of listings and sketches

The view of the tree of a listing, and that of the translation of a sketch, are computed part by
part: a node that is sought stands around what is seen of its parts, any other one disappears, and a
token is seen if it is read.

## Main definitions

* `FlopCensus.Dump.Listing.sight`, `FlopCensus.Slang.Sketch.sight` — what is seen of a listing and
  of a sketch, once a token of the module has come.
* `FlopCensus.Slang.IsInert` — the kinds of nodes that leave no trace.

## Main results

* `FlopCensus.Dump.Listing.sight_node_of_sought`, `FlopCensus.Slang.Sketch.sight_node_of_sought` —
  nodes that are sought.
* `FlopCensus.Dump.Listing.sight_node_of_inert`, `FlopCensus.Slang.Sketch.sight_node_of_inert` —
  nodes that are not.
* `FlopCensus.Slang.Sketch.sight_assignment` — assignments, whose left side gets a node of its own.
-/

namespace FlopCensus

open Design Dump

/-! ### Views without a first token -/

namespace Design

/-- Once a token has come, several trees are seen one by one. -/
lemma viewAll_false (above : List String) (ts : List Tree) :
    viewAll above false ts = ts.flatMap (view above false) := by
  induction ts with
  | nil => rw [viewAll, List.flatMap_nil]
  | cons t ts ih => rw [viewAll, Bool.false_and, ih, List.flatMap_cons]

mutual

/-- Where all tokens are read, it does not matter whether one has come. -/
theorem view_of_isRead {above : List String} (h : isRead above = true) (fresh : Bool) (t : Tree) :
    view above fresh t = view above false t := by
  match t with
  | .leaf l => rw [view, view, h, Bool.or_true, Bool.or_true]
  | .node tag children =>
    rw [view, view, viewAll_of_isRead (isRead_of_tail h tag) _ children,
      viewAll_of_isRead (isRead_of_tail h tag) (false || _) children,
      viewAll_of_isRead h fresh children]

/-- Where all tokens are read, it does not matter whether one has come. -/
theorem viewAll_of_isRead {above : List String} (h : isRead above = true) (fresh : Bool)
    (ts : List Tree) : viewAll above fresh ts = viewAll above false ts := by
  match ts with
  | [] => rw [viewAll, viewAll]
  | t :: rest =>
    rw [viewAll, viewAll, view_of_isRead h fresh t, viewAll_of_isRead h (fresh && _) rest,
      viewAll_of_isRead h (false && _) rest]

end

/-- The tags that any search asks for. -/
def soughtTags : List String :=
  moduleDeclaration :: searches.map Prod.snd

/-- A tag that no search asks for is sought nowhere. -/
lemma isSought_eq_false {tag : String} (h : tag ∉ soughtTags) (above : List String) :
    isSought above tag = false := by
  rw [soughtTags, List.mem_cons, not_or] at h
  rw [isSought, Bool.or_eq_false_iff, beq_eq_false_iff_ne, List.any_eq_false]
  refine ⟨h.1, fun outer _ hmem => h.2 ?_⟩
  exact List.mem_map_of_mem (f := Prod.snd) (List.contains_iff_mem.1 hmem)

end Design

/-! ### Listings -/

namespace Dump.Listing

/-- What is seen of a listing below nodes with the given tags. -/
def sight (above : List String) (t : Listing) : List Tree :=
  view above false t.tree

variable {above : List String}

/-- What is seen of the trees of several listings. -/
lemma viewAll_trees (above : List String) (ts : List Listing) :
    viewAll above false (trees ts) = ts.flatMap (sight above) := by
  rw [viewAll_false, trees_eq_map, List.flatMap_map]
  rfl

/-- A token that is read is seen. -/
lemma sight_leaf (h : isRead above = true) (index : ℕ) (tag : Tag) (text : LineText) (span : Span) :
    (Listing.leaf index tag text span).sight above =
      [.leaf ⟨tag.name, text.text, span.start, 0⟩] := by
  rw [sight, tree, view, h, Bool.or_true, if_pos rfl]
  rfl

/-- A token that is not read is not seen. -/
lemma sight_leaf_of_unread (h : isRead above = false) (index : ℕ) (tag : Tag) (text : LineText)
    (span : Span) : (Listing.leaf index tag text span).sight above = [] := by
  rw [sight, tree, view, h]
  rfl

/-- Of a node that is not sought, its parts are seen. -/
lemma sight_node_of_not_sought {label : Label} (h : isSought above label.name = false) (index : ℕ)
    (parts : List Listing) :
    (Listing.node index label parts).sight above = parts.flatMap (sight above) := by
  rw [sight, tree, view, h, ← viewAll_trees]
  rfl

/-- Of a node that no search asks for, its parts are seen. -/
lemma sight_node_of_inert {label : Label} (h : label.name ∉ soughtTags) (above : List String)
    (index : ℕ) (parts : List Listing) :
    (Listing.node index label parts).sight above = parts.flatMap (sight above) :=
  sight_node_of_not_sought (isSought_eq_false h above) index parts

/-- A node that is sought is seen with its parts. -/
lemma sight_node_of_sought {label : Label} (h : isSought above label.name = true)
    (hmodule : label.name ≠ moduleDeclaration) (index : ℕ) (parts : List Listing) :
    (Listing.node index label parts).sight above =
      [.node label.name (parts.flatMap (sight (label.name :: above)))] := by
  rw [sight, tree, view, if_pos h, ← viewAll_trees, Bool.false_or, beq_eq_false_iff_ne.2 hmodule]

end Dump.Listing

/-! ### Sketches -/

namespace Slang

/-- The parts of a node that is no assignment become what each of them becomes. -/
lemma translatedParts_false (above : List String) (ts : List Tree) :
    translatedParts above false ts = ts.flatMap (translated above) := by
  induction ts with
  | nil => rw [translatedParts, List.flatMap_nil]
  | cons t ts ih =>
    by_cases h : t = .absent
    · rw [h, translatedParts, ih, List.flatMap_cons, translated, List.nil_append]
    · rw [translatedParts_cons above false h, ih, List.flatMap_cons]
      rfl

/-- A kind that leaves no trace: it is no assignment, and no search asks for what it is dumped
as. -/
def IsInert (kind : String) : Prop :=
  kind ≠ dimensionKind ∧ assignmentKinds.contains kind = false ∧
    (nodeTags.lookup kind).getD kind ∉ soughtTags

instance (kind : String) : Decidable (IsInert kind) :=
  inferInstanceAs (Decidable (_ ∧ _ ∧ _))

/-- What is below a node hangs off no declarator if the node is none and does not hang off one. -/
lemma flagBelow_cons {kind : String} {outer : List String} (h : flagBelow outer = false)
    (hkind : kind ≠ declaratorKind) : flagBelow (kind :: outer) = false := by
  rw [flagBelow, declaredBelow, h, Bool.false_and, Bool.or_false, beq_eq_false_iff_ne]
  exact hkind

namespace Sketch

/-- What is seen of the translation of a sketch below nodes with the given tags, given the kinds
above the sketch. -/
def sight (above outer : List String) (s : Sketch) : List FlopCensus.Tree :=
  viewAll above false (translated outer s.tree)

variable {above outer : List String}

/-- The trees of several sketches, one by one. -/
lemma trees_eq_map (ss : List Sketch) : trees ss = ss.map tree := by
  induction ss with
  | nil => rw [trees, List.map_nil]
  | cons s ss ih => rw [trees, ih, List.map_cons]

/-- What is seen of the translations of several sketches. -/
lemma viewAll_translated (above outer : List String) (ss : List Sketch) :
    viewAll above false ((trees ss).flatMap (translated outer)) =
      ss.flatMap (sight above outer) := by
  rw [viewAll_false, trees_eq_map, List.flatMap_map, List.flatMap_assoc]
  exact List.flatMap_congr fun s _ => (viewAll_false above _).symm

/-- Nothing is seen of an absent part. -/
lemma sight_absent (above outer : List String) : sight above outer .absent = [] := by
  rw [sight, tree, translated, viewAll]

/-- A token that is not read is not seen. -/
lemma sight_token_of_unread (h : isRead above = false) (outer : List String) (kind : String)
    (text : LineText) (offset : ℕ) : (Sketch.token kind text offset).sight above outer = [] := by
  rw [sight, tree, translated]
  split
  · rw [viewAll, viewAll, view, h]
    rfl
  · rw [viewAll]

/-- A token that is read is seen, if it has a text. -/
lemma sight_token (h : isRead above = true) (outer : List String) (kind : String) {text : LineText}
    (htext : text.text ≠ "") (offset : ℕ) :
    (Sketch.token kind text offset).sight above outer =
      [.leaf ⟨bareTag ⟨kind, text.text, offset, false⟩, text.text, offset, 0⟩] := by
  have hshown : Token.IsShown ⟨kind, text.text, offset, false⟩ := ⟨htext, rfl⟩
  have hlines : text.text.toList.flatMap (fun c => if c = '\n' then ['\\', 'n'] else [c]) =
      text.text.toList := by
    have hchars : ∀ c ∈ text.text.toList, (if c = '\n' then ['\\', 'n'] else [c]) = [c] := by
      intro c hc
      refine if_neg fun hnewline => ?_
      exact absurd (text.isPlain c hc) (by rw [hnewline]; decide)
    rw [List.flatMap_congr hchars, List.flatMap_singleton']
  rw [sight, tree, translated, if_pos hshown, viewAll, viewAll, view, h, Bool.or_true, if_pos rfl,
    translatedToken, hlines, String.ofList_toList]
  rfl

/-- What becomes of a node that is no assignment. -/
lemma translated_node {kind : Label} (h : assignmentKinds.contains kind.name = false)
    (outer : List String) (parts : List Sketch) : translated outer (Sketch.node kind parts).tree =
      [.node (translatedTag outer kind.name)
        ((trees parts).flatMap (translated (kind.name :: outer)))] := by
  rw [tree, translated, h, translatedParts_false]

/-- What is seen of a node that is no assignment. -/
lemma sight_node {kind : Label} (h : assignmentKinds.contains kind.name = false)
    (above outer : List String) (parts : List Sketch) : (Sketch.node kind parts).sight above outer =
      view above false (.node (translatedTag outer kind.name)
        ((trees parts).flatMap (translated (kind.name :: outer)))) := by
  rw [sight, translated_node h, viewAll, viewAll, List.append_nil]

/-- Of a node that is not sought, its parts are seen. -/
lemma sight_node_of_not_sought {kind : Label} (h : assignmentKinds.contains kind.name = false)
    (hs : isSought above (translatedTag outer kind.name) = false) (parts : List Sketch) :
    (Sketch.node kind parts).sight above outer =
      parts.flatMap (sight above (kind.name :: outer)) := by
  rw [sight_node h, view, hs, ← viewAll_translated]
  rfl

/-- Of a node of an inert kind, its parts are seen. -/
lemma sight_node_of_inert {kind : Label} (h : IsInert kind.name) (above outer : List String)
    (parts : List Sketch) : (Sketch.node kind parts).sight above outer =
      parts.flatMap (sight above (kind.name :: outer)) := by
  refine sight_node_of_not_sought h.2.1 ?_ parts
  rw [translatedTag, if_neg h.1]
  exact isSought_eq_false h.2.2 above

/-- A node that is sought is seen with its parts. -/
lemma sight_node_of_sought {kind : Label} {tag : String}
    (h : assignmentKinds.contains kind.name = false) (htag : translatedTag outer kind.name = tag)
    (hs : isSought above tag = true) (hmodule : tag ≠ moduleDeclaration) (parts : List Sketch) :
    (Sketch.node kind parts).sight above outer =
      [.node tag (parts.flatMap (sight (tag :: above) (kind.name :: outer)))] := by
  rw [sight_node h, htag, view, if_pos hs, ← viewAll_translated, Bool.false_or,
    beq_eq_false_iff_ne.2 hmodule]

/-- An assignment that is sought is seen with a node for its left side. -/
lemma sight_assignment {kind : Label} {tag : String} (h : kind.name ∈ assignmentKinds)
    (htag : translatedTag outer kind.name = tag) (hs : isSought above tag = true)
    (hmodule : tag ≠ moduleDeclaration) (hleft : isSought (tag :: above) leftValue = true)
    {left : Sketch} (hpresent : left.tree ≠ .absent) (rest : List Sketch) :
    (Sketch.node kind (left :: rest)).sight above outer =
      [.node tag (.node leftValue (left.sight (leftValue :: tag :: above) (kind.name :: outer)) ::
        rest.flatMap (sight (tag :: above) (kind.name :: outer)))] := by
  have hview : view (tag :: above) false
      (.node leftValue (translated (kind.name :: outer) left.tree)) =
        [.node leftValue (left.sight (leftValue :: tag :: above) (kind.name :: outer))] := by
    rw [view, if_pos hleft]
    rfl
  rw [sight, tree, translated, List.contains_iff_mem.2 h, trees, translatedParts_cons _ _ hpresent,
    translatedParts_false, htag, viewAll, viewAll, view, if_pos hs, List.append_nil, Bool.false_or,
    beq_eq_false_iff_ne.2 hmodule, if_pos rfl, List.singleton_append, viewAll, Bool.false_and,
    viewAll_translated]
  exact congrArg (fun parts => [FlopCensus.Tree.node tag (parts ++ _)]) hview

end Sketch

end Slang

end FlopCensus
