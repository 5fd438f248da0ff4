import FlopCensus.Proofs.Design.Extraction
import FlopCensus.Proofs.Tree.Traversal
import Mathlib.Data.List.Basic
import Mathlib.Tactic.Common

set_option autoImplicit false
set_option relaxedAutoImplicit false

/-!
# What the analysis sees of a tree

The analysis looks for nodes with certain tags below nodes with certain other tags, and reads the
tokens of some of the nodes that it finds. The view of a tree is what then remains: nodes that no
search asks for are replaced by what is below them, tokens that are not read are left out, and the
other ones lose the offset where they stop. Two trees with the same view have the same inventory,
whatever else tells them apart.

## Main definitions

* `FlopCensus.Design.searches`, `FlopCensus.Design.readTags` — what is looked for and read.
* `FlopCensus.Design.view`, `FlopCensus.Node.view` — the view of a tree and of a node.

## Main results

* `FlopCensus.Node.map_nodesTagged_view` — a search in the view of a node.
* `FlopCensus.Node.leaves_view` — the tokens in the view of a node.
* `FlopCensus.Design.value_inventoryOf_view` — the view of a tree has the inventory of the tree.

## Design

The line of a module is that of its first token, wherever this token is. So a token that is the
first one of a module remains in the view, and a flag tells, on the way through the tree, that no
token of the module has come before.
-/

namespace FlopCensus

/-- A token without the offset where it stops. -/
def Leaf.fade (l : Leaf) : Leaf :=
  { l with stop := 0 }

namespace Design

/-! ### The view -/

/-- The searches below a node: the tag of the node, and the tag that is looked for. -/
def searches : List (String × String) := [
  (moduleDeclaration, moduleHeader),
  (moduleDeclaration, dataDeclaration),
  (moduleDeclaration, alwaysStatement),
  (moduleHeader, portDeclaration),
  (dataDeclaration, packedDimensions),
  (dataDeclaration, registerVariable),
  (portDeclaration, packedDimensions),
  (alwaysStatement, eventExpression)] ++
  assignmentTags.map (alwaysStatement, ·) ++ assignmentTags.map (·, leftValue)

/-- The tags of the nodes whose tokens are read. -/
def readTags : List String :=
  [moduleHeader, dataDeclaration, portDeclaration, packedDimensions, registerVariable,
    eventExpression, leftValue]

/-- A search below one of the nodes above asks for the tag. Modules are looked for everywhere. -/
def isSought (above : List String) (tag : String) : Bool :=
  tag == moduleDeclaration || above.any fun outer => searches.contains (outer, tag)

/-- The tokens of one of the nodes above are read. -/
def isRead (above : List String) : Bool :=
  above.any readTags.contains

mutual

/-- What is seen of a tree below nodes with the given tags. If `fresh` holds, no token of the module
has come yet. -/
def view (above : List String) (fresh : Bool) : Tree → List Tree
  | .leaf l => if fresh || isRead above then [.leaf l.fade] else []
  | .node tag children =>
    if isSought above tag then
      [.node tag (viewAll (tag :: above) (fresh || tag == moduleDeclaration) children)]
    else viewAll above fresh children

/-- What is seen of several trees. -/
def viewAll (above : List String) (fresh : Bool) : List Tree → List Tree
  | [] => []
  | t :: rest => view above fresh t ++ viewAll above (fresh && t.leaves.isEmpty) rest

end

end Design

/-- The view of a node that is found below nodes with the given tags. -/
def Node.view (above : List String) (fresh : Bool) (n : Node) : Node where
  tag := n.tag
  children :=
    Design.viewAll (n.tag :: above) (fresh || n.tag == Design.moduleDeclaration) n.children

/-! ### Searches in a view -/

section Searches

open Design

/-- What is looked for below a node is sought below it. -/
lemma Design.isSought_cons {tag wanted : String} (h : (tag, wanted) ∈ searches)
    (above : List String) : isSought (tag :: above) wanted = true := by
  rw [isSought, List.any_cons, List.contains_iff_mem.2 h, Bool.true_or, Bool.or_true]

/-- What is sought is sought further below. -/
lemma Design.isSought_of_tail {above : List String} {wanted : String}
    (h : isSought above wanted = true) (tag : String) : isSought (tag :: above) wanted = true := by
  rw [isSought, Bool.or_eq_true] at h
  rw [isSought, List.any_cons, Bool.or_eq_true, Bool.or_eq_true]
  exact h.imp id Or.inr

/-- The tokens below a node whose tokens are read are read. -/
lemma Design.isRead_cons {tag : String} (h : tag ∈ readTags) (above : List String) :
    isRead (tag :: above) = true := by
  rw [isRead, List.any_cons, List.contains_iff_mem.2 h, Bool.true_or]

/-- What is read is read further below. -/
lemma Design.isRead_of_tail {above : List String} (h : isRead above = true) (tag : String) :
    isRead (tag :: above) = true := by
  rw [isRead] at h
  rw [isRead, List.any_cons, h, Bool.or_true]

variable {β : Type} {f : Node → β} {wanted : String}

mutual

/-- A search in the view of a tree finds the views of what it finds in the tree. -/
theorem Design.map_nodesTagged_view
    (hf : ∀ above fresh (n : Node), n.tag = wanted → f (n.view above fresh) = f n)
    {above : List String} (hw : isSought above wanted = true) (fresh : Bool) (t : Tree) :
    ((view above fresh t).flatMap (·.nodesTagged wanted)).map f =
      (t.nodesTagged wanted).map f := by
  match t with
  | .leaf l =>
    rw [view]
    split <;> simp
  | .node tag children =>
    rw [view, Tree.nodesTagged_node]
    by_cases hs : isSought above tag = true
    · have hparts := map_nodesTagged_viewAll hf (isSought_of_tail hw tag)
        (fresh || tag == moduleDeclaration) children
      rw [if_pos hs, List.flatMap_singleton, Tree.nodesTagged_node, List.map_append, hparts,
        List.map_append]
      congr 1
      by_cases htag : tag = wanted
      · rw [if_pos htag, if_pos htag]
        exact congrArg (fun x => [x]) (hf above fresh ⟨tag, children⟩ htag)
      · rw [if_neg htag, if_neg htag]
    · -- the node gives way to its parts, and it is none of those that are looked for
      have hne : tag ≠ wanted := fun h => hs (h ▸ hw)
      rw [if_neg hs, if_neg hne, List.nil_append]
      exact map_nodesTagged_viewAll hf hw fresh children

/-- A search in the view of several trees. -/
theorem Design.map_nodesTagged_viewAll
    (hf : ∀ above fresh (n : Node), n.tag = wanted → f (n.view above fresh) = f n)
    {above : List String} (hw : isSought above wanted = true) (fresh : Bool) (ts : List Tree) :
    ((viewAll above fresh ts).flatMap (·.nodesTagged wanted)).map f =
      (ts.flatMap (·.nodesTagged wanted)).map f := by
  match ts with
  | [] => rw [viewAll]
  | t :: rest =>
    rw [viewAll, List.flatMap_append, List.map_append, List.flatMap_cons, List.map_append,
      map_nodesTagged_view hf hw, map_nodesTagged_viewAll hf hw]

end

/-- **A search in the view of a node** finds the views of what it finds in the node, if a search
below such nodes asks for the tag. -/
theorem Node.map_nodesTagged_view
    (hf : ∀ above fresh (n : Node), n.tag = wanted → f (n.view above fresh) = f n)
    (above : List String) (fresh : Bool) {n : Node}
    (hw : isSought (n.tag :: above) wanted = true) :
    ((n.view above fresh).nodesTagged wanted).map f = (n.nodesTagged wanted).map f := by
  have hparts := map_nodesTagged_viewAll hf hw (fresh || n.tag == moduleDeclaration) n.children
  rw [Node.nodesTagged, Node.toTree, Tree.nodesTagged_node, Node.nodesTagged, Node.toTree,
    Tree.nodesTagged_node, List.map_append, List.map_append]
  refine congrArg₂ _ ?_ hparts
  by_cases htag : n.tag = wanted
  · rw [if_pos htag, if_pos (by exact htag)]
    exact congrArg (fun x => [x]) (hf above fresh n htag)
  · rw [if_neg htag, if_neg (by exact htag)]

/-- The first node that a search finds in the view of a node. -/
lemma Node.map_firstTagged?_view
    (hf : ∀ above fresh (n : Node), n.tag = wanted → f (n.view above fresh) = f n)
    (above : List String) (fresh : Bool) {n : Node}
    (hw : isSought (n.tag :: above) wanted = true) :
    ((n.view above fresh).firstTagged? wanted).map f = (n.firstTagged? wanted).map f := by
  rw [Node.firstTagged?, Tree.firstTagged?, ← Node.nodesTagged, Node.firstTagged?,
    Tree.firstTagged?, ← Node.nodesTagged, ← List.head?_map, ← List.head?_map,
    Node.map_nodesTagged_view hf above fresh hw]

end Searches

/-! ### Tokens in a view -/

section Tokens

open Design

mutual

/-- The tokens in the view of a tree whose tokens are read. -/
theorem Design.leaves_view {above : List String} (h : isRead above = true) (fresh : Bool)
    (t : Tree) : (view above fresh t).flatMap Tree.leaves = t.leaves.map Leaf.fade := by
  match t with
  | .leaf l => rw [view, h, Bool.or_true, if_pos rfl, List.flatMap_singleton, Tree.leaves_leaf,
      Tree.leaves_leaf, List.map_singleton]
  | .node tag children =>
    rw [view, Tree.leaves_node]
    split
    · rw [List.flatMap_singleton, Tree.leaves_node]
      exact leaves_viewAll (isRead_of_tail h tag) _ children
    · exact leaves_viewAll h fresh children

/-- The tokens in the view of several trees whose tokens are read. -/
theorem Design.leaves_viewAll {above : List String} (h : isRead above = true) (fresh : Bool)
    (ts : List Tree) :
    (viewAll above fresh ts).flatMap Tree.leaves = (ts.flatMap Tree.leaves).map Leaf.fade := by
  match ts with
  | [] => rw [viewAll, List.flatMap_nil, List.map_nil]
  | t :: rest =>
    rw [viewAll, List.flatMap_append, List.flatMap_cons, List.map_append, leaves_view h,
      leaves_viewAll h]

end

mutual

/-- As long as no token has come, the first token of a tree remains the first one in its view. -/
theorem Design.head?_leaves_view (above : List String) (t : Tree) :
    ((view above true t).flatMap Tree.leaves).head? = t.leaves.head?.map Leaf.fade := by
  match t with
  | .leaf l => rw [view, Bool.true_or, if_pos rfl, List.flatMap_singleton, Tree.leaves_leaf,
      Tree.leaves_leaf, List.head?_singleton, List.head?_singleton, Option.map_some]
  | .node tag children =>
    rw [view, Tree.leaves_node]
    split
    · rw [List.flatMap_singleton, Tree.leaves_node, Bool.true_or]
      exact head?_leaves_viewAll (tag :: above) children
    · exact head?_leaves_viewAll above children

/-- As long as no token has come, the first token of several trees remains the first one. -/
theorem Design.head?_leaves_viewAll (above : List String) (ts : List Tree) :
    ((viewAll above true ts).flatMap Tree.leaves).head? =
      (ts.flatMap Tree.leaves).head?.map Leaf.fade := by
  match ts with
  | [] => rw [viewAll, List.flatMap_nil, List.head?_nil, Option.map_none]
  | t :: rest =>
    have hfirst := head?_leaves_view above t
    rw [viewAll, List.flatMap_append, List.flatMap_cons, List.head?_append, List.head?_append,
      hfirst]
    cases hleaves : t.leaves with
    | nil =>
      rw [List.isEmpty_nil, Bool.true_and, head?_leaves_viewAll above rest]
      rfl
    | cons l ls => rfl

end

variable {above : List String} {n : Node}

/-- **The tokens in the view of a node** whose tokens are read. -/
theorem Node.leaves_view (h : n.tag ∈ readTags) (fresh : Bool) :
    (n.view above fresh).leaves = n.leaves.map Leaf.fade := by
  rw [Node.leaves, Node.toTree, Tree.leaves_node, Node.leaves, Node.toTree, Tree.leaves_node]
  exact leaves_viewAll (isRead_cons h above) _ n.children

/-- The first token of a module remains in its view. -/
lemma Node.head?_leaves_view (h : n.tag = moduleDeclaration) (fresh : Bool) :
    (n.view above fresh).leaves.head? = n.leaves.head?.map Leaf.fade := by
  have hfresh : (fresh || n.tag == moduleDeclaration) = true := by simp [h]
  rw [Node.leaves, Node.toTree, Tree.leaves_node, Node.leaves, Node.toTree, Tree.leaves_node,
    Node.view, hfresh]
  exact head?_leaves_viewAll (n.tag :: above) n.children

end Tokens

namespace Design

/-! ### Lists with the same images -/

section Images

variable {α β : Type} {xs ys : List α}

lemma any_eq_of_map_eq {f : α → Bool} (h : xs.map f = ys.map f) : xs.any f = ys.any f := by
  have hany : ∀ zs : List α, zs.any f = (zs.map f).any id := fun zs => by
    rw [List.any_map, Function.id_comp]
  rw [hany, hany, h]

lemma filterMap_eq_of_map_eq {f : α → Option β} (h : xs.map f = ys.map f) :
    xs.filterMap f = ys.filterMap f := by
  have himage : ∀ zs : List α, zs.filterMap f = (zs.map f).filterMap id := fun zs => by
    rw [List.filterMap_map, Function.id_comp]
  rw [himage, himage, h]

lemma flatMap_eq_of_map_eq {f : α → List β} (h : xs.map f = ys.map f) :
    xs.flatMap f = ys.flatMap f := by
  rw [List.flatMap_def, List.flatMap_def, h]

lemma bind_eq_of_map_eq {f : α → Option β} {x y : Option α} (h : x.map f = y.map f) :
    x.bind f = y.bind f := by
  have himage : ∀ z : Option α, z.bind f = (z.map f).bind id := fun z => by
    rw [Option.bind_map, Function.id_comp]
  rw [himage, himage, h]

end Images

variable (above : List String) (fresh : Bool)

/-! ### Widths and declarations -/

/-- The width of packed dimensions is read off their view. -/
lemma resolveWidth_view {n : Node} (h : n.tag = packedDimensions) :
    resolveWidth (n.view above fresh) = resolveWidth n := by
  have hleaves : (n.view above fresh).leaves.filter isNumeric =
      (n.leaves.filter isNumeric).map Leaf.fade := by
    rw [Node.leaves_view (h ▸ by decide), List.filter_map]
    rfl
  rw [resolveWidth, resolveWidth, hleaves]
  rcases n.leaves.filter isNumeric with _ | ⟨first, _ | ⟨second, rest⟩⟩ <;> rfl

/-- The width of a declaration is read off its view. -/
lemma declaredWidth_view {n : Node} (h : (n.tag, packedDimensions) ∈ searches) :
    declaredWidth (n.view above fresh) = declaredWidth n := by
  have hfirst := Node.map_firstTagged?_view (fun above fresh _ => resolveWidth_view above fresh)
    above fresh (isSought_cons h above)
  rw [declaredWidth, declaredWidth]
  cases hview : (n.view above fresh).firstTagged? packedDimensions with
  | none =>
    rw [hview, Option.map_none, eq_comm, Option.map_eq_none_iff] at hfirst
    rw [hfirst]
  | some d =>
    rw [hview, Option.map_some, eq_comm, Option.map_eq_some_iff] at hfirst
    obtain ⟨d', hd', hwidth⟩ := hfirst
    simp only [hd', hwidth]

/-- The first token with a property is found among faded tokens if fading keeps the property. -/
lemma find?_map_fade {p : Leaf → Bool} (h : ∀ l, p l.fade = p l) (ls : List Leaf) :
    (ls.map Leaf.fade).find? p = (ls.find? p).map Leaf.fade := by
  rw [List.find?_map]
  congr 2
  exact funext h

/-- The kind of a data declaration is read off its view. -/
lemma declaredKind_view {d : Node} (h : d.tag = dataDeclaration) :
    declaredKind (d.view above fresh) = declaredKind d := by
  rw [declaredKind, declaredKind, Node.leaves_view (h ▸ by decide), find?_map_fade fun _ => rfl]
  cases d.leaves.find? fun l => storageKinds.contains l.text <;> rfl

/-- The variables of a data declaration are found in its view. -/
lemma map_declaredNames_view {d : Node} (h : d.tag = dataDeclaration) (p : Place) (width : ℕ) :
    (declaredNames (d.view above fresh)).map (p.register width) =
      (declaredNames d).map (p.register width) := by
  have hvariable : ∀ above fresh (v : Node), v.tag = registerVariable →
      ((v.view above fresh).leaves.find? isIdentifier).map (p.register width) =
        (v.leaves.find? isIdentifier).map (p.register width) := by
    intro above fresh v hv
    rw [Node.leaves_view (hv ▸ by decide), find?_map_fade fun _ => rfl, Option.map_map]
    rfl
  have hnames := filterMap_eq_of_map_eq (Node.map_nodesTagged_view
    (f := fun v => (v.leaves.find? isIdentifier).map (p.register width)) hvariable above fresh
    (n := d) (isSought_cons (h ▸ by decide) above))
  rw [declaredNames, declaredNames, List.map_filterMap, List.map_filterMap]
  exact hnames

/-- **The registers of a data declaration** are read off its view. -/
theorem value_ofData_view {d : Node} (h : d.tag = dataDeclaration) (p : Place) :
    (ofData p (d.view above fresh)).value = (ofData p d).value := by
  rw [value_ofData, value_ofData, declaredKind_view above fresh h,
    declaredWidth_view above fresh (h ▸ by decide), map_declaredNames_view above fresh h]

/-- **The registers of a port** are read off its view. -/
theorem value_ofPort_view {port : Node} (h : port.tag = portDeclaration) (p : Place) :
    (ofPort p (port.view above fresh)).value = (ofPort p port).value := by
  have hleaves : (port.view above fresh).leaves = port.leaves.map Leaf.fade :=
    Node.leaves_view (h ▸ by decide) fresh
  have houtput : isOutput (port.view above fresh) = isOutput port := by
    rw [isOutput, isOutput, hleaves, List.any_map]
    rfl
  have hkind : portKind (port.view above fresh) = portKind port := by
    rw [portKind, portKind, hleaves, ← List.map_reverse, find?_map_fade fun _ => rfl]
    cases port.leaves.reverse.find? fun l => storageKinds.contains l.text <;> rfl
  have hnames : ∀ width, (portNames (port.view above fresh)).map (p.register width) =
      (portNames port).map (p.register width) := by
    intro width
    rw [portNames, portNames, hleaves, List.filter_map, List.map_map]
    rfl
  rw [value_ofPort, value_ofPort, houtput, hkind, declaredWidth_view above fresh (h ▸ by decide),
    hnames]

/-! ### Blocks -/

/-- The token names an edge if it does so faded. -/
lemma signalsAfterEdge_map_fade (armed : Bool) (ls : List Leaf) :
    signalsAfterEdge armed (ls.map Leaf.fade) = signalsAfterEdge armed ls := by
  induction ls generalizing armed with
  | nil => rfl
  | cons l ls ih =>
    rw [List.map_cons, signalsAfterEdge, signalsAfterEdge, ih, ih, ih]
    rfl

/-- The signals that a block waits for are read off its view. -/
lemma edgeSignals_view {b : Node} (h : b.tag = alwaysStatement) :
    edgeSignals (b.view above fresh) = edgeSignals b := by
  have hevent : ∀ above fresh (e : Node), e.tag = eventExpression →
      signalsAfterEdge false (e.view above fresh).leaves = signalsAfterEdge false e.leaves := by
    intro above fresh e he
    rw [Node.leaves_view (he ▸ by decide), signalsAfterEdge_map_fade]
  exact flatMap_eq_of_map_eq
    (Node.map_nodesTagged_view hevent above fresh (isSought_cons (h ▸ by decide) above))

/-- Whether a block waits for an edge is read off its view. -/
lemma isEdgeTriggered_view {b : Node} (h : b.tag = alwaysStatement) :
    isEdgeTriggered (b.view above fresh) = isEdgeTriggered b := by
  have hevent : ∀ above fresh (e : Node), e.tag = eventExpression →
      (e.view above fresh).leaves.any isEdgeWord = e.leaves.any isEdgeWord := by
    intro above fresh e he
    rw [Node.leaves_view (he ▸ by decide), List.any_map]
    rfl
  exact any_eq_of_map_eq
    (Node.map_nodesTagged_view hevent above fresh (isSought_cons (h ▸ by decide) above))

/-- The target of an assignment is the first identifier of its left side. -/
lemma assignmentTarget_eq_ok_iff {a : Node} {name : String} : assignmentTarget a = .ok name ↔
    ((a.firstTagged? leftValue).bind fun l => (l.leaves.find? isIdentifier).map Leaf.text) =
      some name := by
  rw [assignmentTarget]
  cases a.firstTagged? leftValue with
  | none => simp
  | some l =>
    simp only [Option.bind_some]
    cases l.leaves.find? isIdentifier <;> simp

/-- The target of an assignment is read off its view. -/
lemma assignmentTarget_view {a : Node} (h : a.tag ∈ assignmentTags) (name : String) :
    assignmentTarget (a.view above fresh) = .ok name ↔ assignmentTarget a = .ok name := by
  have hleft : ∀ above fresh (l : Node), l.tag = leftValue →
      ((l.view above fresh).leaves.find? isIdentifier).map Leaf.text =
        (l.leaves.find? isIdentifier).map Leaf.text := by
    intro above fresh l hl
    rw [Node.leaves_view (hl ▸ by decide), find?_map_fade fun _ => rfl, Option.map_map]
    rfl
  have hsearch : (a.tag, leftValue) ∈ searches :=
    List.mem_append_right _ (List.mem_map_of_mem h)
  rw [assignmentTarget_eq_ok_iff, assignmentTarget_eq_ok_iff, bind_eq_of_map_eq]
  exact Node.map_firstTagged?_view (f := fun l => (l.leaves.find? isIdentifier).map Leaf.text)
    hleft above fresh (isSought_cons hsearch above)

/-- The names that a block assigns are read off its view. -/
lemma mem_assignedIn_view {b : Node} (h : b.tag = alwaysStatement) (name : String) :
    name ∈ assignedIn (b.view above fresh) ↔ name ∈ assignedIn b := by
  have hassigned : ∀ b : Node, name ∈ assignedIn b ↔
      ∃ tag ∈ assignmentTags, (b.nodesTagged tag).any fun a => assignmentTarget a = .ok name := by
    intro b
    simp only [mem_assignedIn, assignments, List.mem_flatMap, List.any_eq_true, decide_eq_true_iff]
    constructor
    · rintro ⟨a, ⟨tag, htag, ha⟩, hname⟩
      exact ⟨tag, htag, a, ha, hname⟩
    · rintro ⟨tag, htag, a, ha, hname⟩
      exact ⟨a, ⟨tag, htag, ha⟩, hname⟩
  rw [hassigned, hassigned]
  refine exists_congr fun tag => and_congr_right fun htag => ?_
  have hsearch : (b.tag, tag) ∈ searches := by
    rw [h]
    exact List.mem_append_left _ (List.mem_append_right _ (List.mem_map_of_mem htag))
  rw [any_eq_of_map_eq]
  refine Node.map_nodesTagged_view (fun above fresh a ha => ?_) above fresh
    (isSought_cons hsearch above)
  simp only [assignmentTarget_view above fresh (ha ▸ htag)]

/-- What the roles of registers depend on in a block. -/
def effect (b : Node) : Bool × List String × (String → Bool) :=
  (isEdgeTriggered b, edgeSignals b, (assignedIn b).contains)

/-- The effect of a block is read off its view. -/
lemma effect_view {b : Node} (h : b.tag = alwaysStatement) :
    effect (b.view above fresh) = effect b := by
  have hassigned : (assignedIn (b.view above fresh)).contains = (assignedIn b).contains := by
    funext name
    rw [Bool.eq_iff_iff, List.contains_iff_mem, List.contains_iff_mem,
      mem_assignedIn_view above fresh h]
  rw [effect, effect, isEdgeTriggered_view above fresh h, edgeSignals_view above fresh h,
    hassigned]

/-- Blocks with the same effects give a register the same role. -/
lemma roleIn_eq_of_map_effect {bs cs : List Node} (h : bs.map effect = cs.map effect)
    (r : Register) : roleIn bs r = roleIn cs r := by
  -- a block is asked for nothing but its effect
  have hclock : ∀ ds : List Node, (clockingBlock? ds r.name).map effect =
      (ds.map effect).find? fun e => e.1 && e.2.2 r.name := by
    intro ds
    rw [clockingBlock?, List.find?_map]
    rfl
  have hany : (bs.any fun b => (assignedIn b).contains r.name) =
      cs.any fun b => (assignedIn b).contains r.name := by
    have himage := congrArg (List.map fun e => e.2.2 r.name) h
    rw [List.map_map, List.map_map] at himage
    exact any_eq_of_map_eq himage
  have hsame : (clockingBlock? bs r.name).map effect = (clockingBlock? cs r.name).map effect := by
    rw [hclock, hclock, h]
  rw [roleIn, roleIn, hany]
  cases hb : clockingBlock? bs r.name with
  | none =>
    rw [hb, Option.map_none, eq_comm, Option.map_eq_none_iff] at hsame
    rw [hsame]
  | some b =>
    rw [hb, Option.map_some, eq_comm, Option.map_eq_some_iff] at hsame
    obtain ⟨c, hc, heffect⟩ := hsame
    have hsignals : edgeSignals c = edgeSignals b := congrArg (fun e => e.2.1) heffect
    simp only [hc, hsignals]

/-! ### Modules -/

/-- The name of a module is read off its view. -/
lemma moduleName?_view {m : Node} (h : m.tag = moduleDeclaration) :
    moduleName? (m.view above fresh) = moduleName? m := by
  have hheader : ∀ above fresh (n : Node), n.tag = moduleHeader →
      ((n.view above fresh).leaves.find? fun l => isIdentifier l && l.text != "module").map
          Leaf.text =
        (n.leaves.find? fun l => isIdentifier l && l.text != "module").map Leaf.text := by
    intro above fresh n hn
    rw [Node.leaves_view (hn ▸ by decide), find?_map_fade fun _ => rfl, Option.map_map]
    rfl
  have hname : ∀ m : Node, moduleName? m = (m.firstTagged? moduleHeader).bind fun n =>
      (n.leaves.find? fun l => isIdentifier l && l.text != "module").map Leaf.text := by
    intro m
    simp only [Option.map_eq_bind]
    rfl
  rw [hname, hname, bind_eq_of_map_eq]
  exact Node.map_firstTagged?_view
    (f := fun n => (n.leaves.find? fun l => isIdentifier l && l.text != "module").map Leaf.text)
    hheader above fresh (isSought_cons (h ▸ by decide) above)

/-- The ports in the header of a module are read off the view of the module. -/
lemma flatMap_headerPorts_view {m : Node} (h : m.tag = moduleDeclaration) (p : Place) :
    ((headerPorts (m.view above fresh)).flatMap fun port => (ofPort p port).value) =
      (headerPorts m).flatMap fun port => (ofPort p port).value := by
  have hheader : ∀ above fresh (n : Node), n.tag = moduleHeader →
      ((n.view above fresh).nodesTagged portDeclaration).flatMap
          (fun port => (ofPort p port).value) =
        (n.nodesTagged portDeclaration).flatMap fun port => (ofPort p port).value := by
    intro above fresh n hn
    exact flatMap_eq_of_map_eq (Node.map_nodesTagged_view
      (fun above fresh port hport => value_ofPort_view above fresh hport p) above fresh
      (isSought_cons (hn ▸ by decide) above))
  have hports : ∀ m : Node, ((headerPorts m).flatMap fun port => (ofPort p port).value) =
      ((m.firstTagged? moduleHeader).map fun n => (n.nodesTagged portDeclaration).flatMap
        fun port => (ofPort p port).value).getD [] := by
    intro m
    rw [headerPorts]
    cases m.firstTagged? moduleHeader <;> rfl
  rw [hports, hports, Node.map_firstTagged?_view hheader above fresh
    (isSought_cons (h ▸ by decide) above)]

/-- The registers of a module are read off its view. -/
lemma registersOf_view {m : Node} (h : m.tag = moduleDeclaration) (p : Place) :
    registersOf p (m.view above fresh) = registersOf p m := by
  rw [registersOf, registersOf, flatMap_headerPorts_view above fresh h]
  refine congrArg₂ _ (flatMap_eq_of_map_eq ?_) rfl
  exact Node.map_nodesTagged_view
    (fun above fresh d hd => value_ofData_view above fresh hd p) above fresh
    (isSought_cons (h ▸ by decide) above)

/-- The line of a module is read off its view. -/
lemma startLine_view {m : Node} (h : m.tag = moduleDeclaration) (source : List UInt8) :
    startLine source (m.view above fresh) = startLine source m := by
  rw [startLine, startLine, Node.head?_leaves_view h]
  cases m.leaves.head? <;> rfl

/-- The roles of registers are read off the view of their module. -/
lemma roleIn_view {m : Node} (h : m.tag = moduleDeclaration) (r : Register) :
    roleIn ((m.view above fresh).nodesTagged alwaysStatement) r =
      roleIn (m.nodesTagged alwaysStatement) r :=
  roleIn_eq_of_map_effect (Node.map_nodesTagged_view
    (fun above fresh _ hb => effect_view above fresh hb) above fresh
    (isSought_cons (h ▸ by decide) above)) r

/-! ### The inventory of a view -/

/-- What a module contributes to an inventory, if it has a name. -/
def contribution (source : List UInt8) (file : String) (m : Node) :
    Option (List Register × ModuleSummary) :=
  (extractModule m source file).value.toOption.map fun e =>
    (e.registers.map (roleIn (e.node.nodesTagged alwaysStatement)), e.summary)

/-- The contribution of a module is read off its view. -/
lemma contribution_view {m : Node} (h : m.tag = moduleDeclaration) (source : List UInt8)
    (file : String) :
    contribution source file (m.view above fresh) = contribution source file m := by
  have hroles : roleIn ((m.view above fresh).nodesTagged alwaysStatement) =
      roleIn (m.nodesTagged alwaysStatement) := funext (roleIn_view above fresh h)
  rw [contribution, contribution, value_extractModule, value_extractModule,
    moduleName?_view above fresh h]
  cases moduleName? m with
  | none => rfl
  | some name =>
    simp only [Except.toOption, Option.map_some, registersOf_view above fresh h,
      startLine_view above fresh h, hroles]

/-- The inventory of a tree consists of the contributions of its modules. -/
lemma value_inventoryOf_eq (tree : Node) (source : List UInt8) (file : String) :
    (inventoryOf tree source file).value = {
      registers := ((tree.nodesTagged moduleDeclaration).filterMap
        (contribution source file)).flatMap Prod.fst
      modules := ((tree.nodesTagged moduleDeclaration).filterMap
        (contribution source file)).map Prod.snd
      failures := [] } := by
  have hcontributions : (tree.nodesTagged moduleDeclaration).filterMap (contribution source file) =
      (extract tree source file).value.map fun e =>
        (e.registers.map (roleIn (e.node.nodesTagged alwaysStatement)), e.summary) := by
    rw [value_extract, List.map_filterMap]
    rfl
  rw [value_inventoryOf, hcontributions, List.flatMap_map, List.map_map]
  rfl

/-- **The view of a tree has the inventory of the tree.**

**Proof sketch.** What the analysis computes from a node depends on the first token of the node, on
the tokens that are read below it, and on what it computes from the nodes that it finds there. The
view keeps the former by definition, and the latter by the same statement for the nodes that are
found (`Node.map_nodesTagged_view`), from the parts of declarations and blocks up to modules. -/
theorem value_inventoryOf_view (tree : Node) (source : List UInt8) (file : String) :
    (inventoryOf (tree.view above fresh) source file).value =
      (inventoryOf tree source file).value := by
  have hmodules := filterMap_eq_of_map_eq (Node.map_nodesTagged_view
    (fun above fresh m hm => contribution_view above fresh hm source file) above fresh (n := tree)
    (by simp [isSought]))
  rw [value_inventoryOf_eq, value_inventoryOf_eq, hmodules]

end Design

end FlopCensus
