import FlopCensus.Proofs.Design.View

set_option autoImplicit false
set_option relaxedAutoImplicit false

/-!
# Trees put into a declaration

The analysis goes by first matches: the first word of storage of a declaration, its first packed
dimension, the first identifier of each variable. So trees can be put into a declaration without an
effect on the registers, as long as they hold nothing that is looked for, and what decides a search
among the tokens stands before them.

## Main definitions

* `FlopCensus.Gap` — a tree with a gap, into which trees can be put.
* `FlopCensus.Gap.Every` — a property of the tree and of all parts with the gap in them.
* `FlopCensus.Design.Unsought`, `FlopCensus.Design.IsPassedBy` — the trees, and the gaps, for which
  nothing changes.

## Main results

* `FlopCensus.Gap.map_nodesTagged` — a search in a tree with something in its gap.
* `FlopCensus.Design.registers_inventoryOf_gap` — the registers do not depend on what is in the gap.

## Design

A gap is given by the way down to it, with what is on its left and on its right. A search meets the
nodes on this way, which change with what is in the gap, among others that do not. So two searches
find the same, up to a function, if this function does not tell the changed nodes apart.
-/

namespace FlopCensus

/-- A tree with a gap. -/
inductive Gap where
  /-- The gap is among the children of the root. -/
  | here (tag : String) (before after : List Tree)
  /-- The gap is further down, in a child of the root. -/
  | deeper (tag : String) (before : List Tree) (inside : Gap) (after : List Tree)

namespace Gap

/-- The tag of the root. -/
def tag : Gap → String
  | .here tag _ _ => tag
  | .deeper tag _ _ _ => tag

/-- The children of the root, with trees in the gap. -/
def children : Gap → List Tree → List Tree
  | .here _ before after, ts => before ++ (ts ++ after)
  | .deeper _ before inside after, ts => before ++ .node inside.tag (inside.children ts) :: after

/-- The tree with trees in the gap. -/
def node (g : Gap) (ts : List Tree) : Node :=
  ⟨g.tag, g.children ts⟩

/-- The tags on the way to the gap. -/
def tags : Gap → List String
  | .here tag _ _ => [tag]
  | .deeper tag _ inside _ => tag :: inside.tags

/-- The tokens before the gap. -/
def front : Gap → List Leaf
  | .here _ before _ => before.flatMap Tree.leaves
  | .deeper _ before inside _ => before.flatMap Tree.leaves ++ inside.front

/-- The tokens behind the gap. -/
def back : Gap → List Leaf
  | .here _ _ after => after.flatMap Tree.leaves
  | .deeper _ _ inside after => inside.back ++ after.flatMap Tree.leaves

/-- The tree and all parts with the gap in them have a property. -/
def Every (p : Gap → Prop) : Gap → Prop
  | .here tag before after => p (.here tag before after)
  | .deeper tag before inside after => p (.deeper tag before inside after) ∧ inside.Every p

/-- What holds of all parts holds of the tree. -/
lemma Every.self {p : Gap → Prop} {g : Gap} (h : g.Every p) : p g := by
  cases g with
  | here tag before after => exact h
  | deeper tag before inside after => exact h.1

/-- What holds of all trees with a gap holds of all parts. -/
lemma every_of_forall {p : Gap → Prop} (h : ∀ g, p g) (g : Gap) : g.Every p := by
  induction g with
  | here tag before after => exact h _
  | deeper tag before inside after ih => exact ⟨h _, ih⟩

/-- A property that follows for each part follows for all. -/
lemma Every.imp {p q : Gap → Prop} {g : Gap} (h : g.Every p) (hpq : ∀ g, p g → q g) :
    g.Every q := by
  induction g with
  | here tag before after => exact hpq _ h
  | deeper tag before inside after ih => exact ⟨hpq _ h.1, ih h.2⟩

/-- Two properties of all parts. -/
lemma Every.and {p q : Gap → Prop} {g : Gap} (hp : g.Every p) (hq : g.Every q) :
    g.Every fun g' => p g' ∧ q g' := by
  induction g with
  | here tag before after => exact ⟨hp, hq⟩
  | deeper tag before inside after ih => exact ⟨⟨hp.1, hq.1⟩, ih hp.2 hq.2⟩

/-- All parts of the parts are parts. -/
lemma Every.every {p : Gap → Prop} {g : Gap} (h : g.Every p) : g.Every fun g' => g'.Every p := by
  induction g with
  | here tag before after => exact h
  | deeper tag before inside after ih => exact ⟨h, ih h.2⟩

/-- The tag of the root is on the way. -/
lemma tag_mem_tags (g : Gap) : g.tag ∈ g.tags := by
  cases g <;> exact List.mem_cons_self

/-- The way in a part is one in the tree. -/
lemma every_tags_subset (g : Gap) : g.Every fun g' => g'.tags ⊆ g.tags := by
  induction g with
  | here tag before after => exact List.Subset.refl _
  | deeper tag before inside after ih =>
    exact ⟨List.Subset.refl _, ih.imp fun _ hsub =>
      List.Subset.trans hsub (List.subset_cons_self _ _)⟩

variable {ts : List Tree}

/-- The tokens of the tree with trees in the gap. -/
lemma leaves_node (g : Gap) (ts : List Tree) :
    (g.node ts).leaves = g.front ++ (ts.flatMap Tree.leaves ++ g.back) := by
  rw [Node.leaves, Node.toTree, Tree.leaves_node]
  induction g with
  | here tag before after => simp [node, children, front, back]
  | deeper tag before inside after ih =>
    have hinside : (inside.children ts).flatMap Tree.leaves =
      inside.front ++ (ts.flatMap Tree.leaves ++ inside.back) := ih
    simp [node, children, front, back, hinside]

/-- **A search in a tree with trees in its gap**: nothing is found in these, and so the search finds
the same as without them, up to a function that does not tell the nodes around the gap apart. -/
theorem map_nodesTagged {β : Type} {f : Node → β} {wanted : String}
    (hts : ∀ t ∈ ts, t.nodesTagged wanted = []) {g : Gap}
    (hf : g.Every fun g' => g'.tag = wanted → f (g'.node ts) = f (g'.node [])) :
    ((g.node ts).nodesTagged wanted).map f = ((g.node []).nodesTagged wanted).map f := by
  -- the root is found or not, whatever its children are
  have hsplit : ∀ g : Gap, (g.tag = wanted → f (g.node ts) = f (g.node [])) →
      ((g.children ts).flatMap (·.nodesTagged wanted)).map f =
        ((g.children []).flatMap (·.nodesTagged wanted)).map f →
      ((g.node ts).nodesTagged wanted).map f = ((g.node []).nodesTagged wanted).map f := by
    intro g hroot hchildren
    have hnode : ∀ us, (g.node us).nodesTagged wanted = (if g.tag = wanted then [g.node us] else [])
        ++ (g.children us).flatMap (·.nodesTagged wanted) := fun us => Tree.nodesTagged_node _ _ _
    rw [hnode, hnode, List.map_append, List.map_append, hchildren]
    by_cases htag : g.tag = wanted
    · rw [if_pos htag, if_pos htag, List.map_singleton, List.map_singleton, hroot htag]
    · rw [if_neg htag, if_neg htag]
  induction g with
  | here tag before after =>
    have hnone : ts.flatMap (·.nodesTagged wanted) = [] := List.flatMap_eq_nil_iff.2 hts
    refine hsplit _ hf ?_
    simp [children, hnone]
  | deeper tag before inside after ih =>
    have hchildren : ∀ us, ((deeper tag before inside after).children us).flatMap
        (·.nodesTagged wanted) = before.flatMap (·.nodesTagged wanted) ++
          ((inside.node us).nodesTagged wanted ++ after.flatMap (·.nodesTagged wanted)) := by
      intro us
      rw [children, List.flatMap_append, List.flatMap_cons]
      rfl
    refine hsplit _ hf.1 ?_
    rw [hchildren, hchildren, List.map_append, List.map_append, List.map_append, List.map_append,
      ih hf.2]

/-- A search for a tag that is not on the way finds the very same. -/
lemma nodesTagged_of_not_mem {wanted : String} (hts : ∀ t ∈ ts, t.nodesTagged wanted = [])
    {g : Gap} (hway : wanted ∉ g.tags) :
    (g.node ts).nodesTagged wanted = (g.node []).nodesTagged wanted := by
  have hsame := map_nodesTagged (f := id) hts
    (g.every_tags_subset.imp fun g' hsub htag => absurd (hsub (htag ▸ g'.tag_mem_tags)) hway)
  rwa [List.map_id, List.map_id] at hsame

end Gap

namespace Design

/-! ### Trees that no search asks for -/

/-- The tags that are looked for around a declaration and in it. -/
def declarationTags : List String :=
  [moduleDeclaration, moduleHeader, dataDeclaration, alwaysStatement, packedDimensions,
    registerVariable]

/-- The trees hold none of the nodes that are looked for, and no word of storage. -/
structure Unsought (ts : List Tree) : Prop where
  /-- None of the nodes is looked for. -/
  nodes : ∀ wanted ∈ declarationTags, ∀ t ∈ ts, t.nodesTagged wanted = []
  /-- None of the tokens is a word of storage. -/
  words : ∀ l ∈ ts.flatMap Tree.leaves, storageKinds.contains l.text = false

/-- A search for a token is decided before the gap, or finds nothing in the trees. -/
def IsDecided (p : Leaf → Bool) (ts : List Tree) (g : Gap) : Prop :=
  (∃ l ∈ g.front, p l = true) ∨ ∀ l ∈ ts.flatMap Tree.leaves, p l = false

/-- The gap may be in a declaration: it is in no header, in no block and in no packed dimension of a
declaration, and in each variable it is behind the name unless the trees hold no name. -/
structure IsPassedBy (g : Gap) (ts : List Tree) : Prop where
  /-- The gap is in no header. -/
  header : moduleHeader ∉ g.tags
  /-- It is in no block. -/
  block : alwaysStatement ∉ g.tags
  /-- It is in no packed dimension of a declaration. -/
  packed : g.Every fun g' => g'.tag = dataDeclaration → packedDimensions ∉ g'.tags
  /-- The name of a variable does not depend on the trees. -/
  named : g.Every fun g' => g'.tag = registerVariable → IsDecided isIdentifier ts g'

section Gaps

variable {ts : List Tree} {g : Gap}

/-- The gap is passed by in each part of the tree. -/
lemma IsPassedBy.parts (hg : IsPassedBy g ts) : g.Every fun g' => IsPassedBy g' ts := by
  have hways := g.every_tags_subset
  have hdeclared := hg.packed.every.and hg.named.every
  refine (hways.and hdeclared).imp fun g' h => ?_
  exact ⟨fun hheader => hg.header (h.1 hheader), fun hblock => hg.block (h.1 hblock), h.2.1, h.2.2⟩

/-- A search for a token that is decided finds the same. -/
lemma find?_leaves_gap {p : Leaf → Bool} (h : IsDecided p ts g) :
    (g.node ts).leaves.find? p = (g.node []).leaves.find? p := by
  rw [g.leaves_node, g.leaves_node, List.flatMap_nil, List.nil_append, List.find?_append,
    List.find?_append, List.find?_append]
  rcases h with ⟨l, hl, hp⟩ | hnone
  · obtain ⟨found, hfound⟩ := Option.isSome_iff_exists.1 (List.find?_isSome.2 ⟨l, hl, hp⟩)
    rw [hfound, Option.some_or, Option.some_or]
  · have hfind : (ts.flatMap Tree.leaves).find? p = none :=
      List.find?_eq_none.2 fun l hl => by simp [hnone l hl]
    rw [hfind, Option.none_or]

/-- The kind of a declaration does not depend on the trees. -/
lemma declaredKind_gap (hts : Unsought ts) :
    declaredKind (g.node ts) = declaredKind (g.node []) := by
  rw [declaredKind_eq, declaredKind_eq, find?_leaves_gap (.inr hts.words)]

/-- The width of a declaration does not depend on the trees. -/
lemma declaredWidth_gap (hts : Unsought ts) (hpacked : packedDimensions ∉ g.tags) :
    declaredWidth (g.node ts) = declaredWidth (g.node []) := by
  have hnone := hts.nodes packedDimensions (by decide)
  have hfirst : (g.node ts).firstTagged? packedDimensions =
      (g.node []).firstTagged? packedDimensions :=
    congrArg List.head? (Gap.nodesTagged_of_not_mem hnone hpacked)
  rw [declaredWidth, declaredWidth, hfirst]

/-- The names that a declaration declares do not depend on the trees. -/
lemma declaredNames_gap (hts : Unsought ts)
    (hnamed : g.Every fun g' => g'.tag = registerVariable → IsDecided isIdentifier ts g') :
    declaredNames (g.node ts) = declaredNames (g.node []) := by
  have hnone := hts.nodes registerVariable (by decide)
  exact filterMap_eq_of_map_eq (Gap.map_nodesTagged hnone
    (hnamed.imp fun g' hdecided htag => find?_leaves_gap (hdecided htag)))

/-- **The registers of a declaration do not depend on the trees.** -/
lemma value_ofData_gap (hts : Unsought ts) (hpacked : packedDimensions ∉ g.tags)
    (hnamed : g.Every fun g' => g'.tag = registerVariable → IsDecided isIdentifier ts g')
    (p : Place) : (ofData p (g.node ts)).value = (ofData p (g.node [])).value := by
  rw [value_ofData, value_ofData, declaredKind_gap hts, declaredWidth_gap hts hpacked,
    declaredNames_gap hts hnamed]

/-- The header of a module does not depend on the trees. -/
lemma firstTagged?_header_gap (hts : Unsought ts) (hheader : moduleHeader ∉ g.tags) :
    (g.node ts).firstTagged? moduleHeader = (g.node []).firstTagged? moduleHeader :=
  congrArg List.head? (Gap.nodesTagged_of_not_mem (hts.nodes moduleHeader (by decide)) hheader)

/-- The registers of a module do not depend on the trees. -/
lemma registersOf_gap (hts : Unsought ts) (hg : IsPassedBy g ts) (p : Place) :
    registersOf p (g.node ts) = registersOf p (g.node []) := by
  have hdata : ((g.node ts).nodesTagged dataDeclaration).map (fun d => (ofData p d).value) =
      ((g.node []).nodesTagged dataDeclaration).map fun d => (ofData p d).value := by
    have hnone := hts.nodes dataDeclaration (by decide)
    refine Gap.map_nodesTagged hnone ?_
    have hparts := hg.packed.and hg.named.every
    exact hparts.imp fun g' hpart htag => value_ofData_gap hts (hpart.1 htag) hpart.2 p
  have hports : headerPorts (g.node ts) = headerPorts (g.node []) := by
    rw [headerPorts, headerPorts, firstTagged?_header_gap hts hg.header]
  rw [registersOf, registersOf, flatMap_eq_of_map_eq hdata, hports]

/-- The registers that a module contributes, and their roles, do not depend on the trees. -/
lemma contribution_gap (hts : Unsought ts) (hg : IsPassedBy g ts) (source : List UInt8)
    (file : String) : (contribution source file (g.node ts)).map Prod.fst =
      (contribution source file (g.node [])).map Prod.fst := by
  have hname : moduleName? (g.node ts) = moduleName? (g.node []) := by
    rw [moduleName?, moduleName?, firstTagged?_header_gap hts hg.header]
  have hblocks : (g.node ts).nodesTagged alwaysStatement =
      (g.node []).nodesTagged alwaysStatement :=
    Gap.nodesTagged_of_not_mem (hts.nodes alwaysStatement (by decide)) hg.block
  rw [contribution, contribution, value_extractModule, value_extractModule, hname]
  cases moduleName? (g.node []) with
  | none => rfl
  | some name =>
    simp only [Except.toOption, Option.map_some, registersOf_gap hts hg, hblocks]

/-- **The registers of a tree do not depend on what is in the gap.**

**Proof sketch.** A search for nodes finds none in the trees (`Gap.map_nodesTagged`), and a search
for tokens is decided before them (`find?_leaves_gap`). So it goes from the parts of declarations up
to modules. -/
theorem registers_inventoryOf_gap (hts : Unsought ts) (hg : IsPassedBy g ts) (source : List UInt8)
    (file : String) : (inventoryOf (g.node ts) source file).value.registers =
      (inventoryOf (g.node []) source file).value.registers := by
  have hnone := hts.nodes moduleDeclaration (by decide)
  have hmodules := filterMap_eq_of_map_eq (Gap.map_nodesTagged
    (f := fun m => (contribution source file m).map Prod.fst) hnone
    (hg.parts.imp fun g' hpart _ => contribution_gap hts hpart source file))
  have hregisters : ∀ tree : Node, (inventoryOf tree source file).value.registers =
      ((tree.nodesTagged moduleDeclaration).filterMap
        fun m => (contribution source file m).map Prod.fst).flatten := by
    intro tree
    rw [value_inventoryOf_eq, ← List.map_filterMap, ← List.flatMap_def]
  rw [hregisters, hregisters, hmodules]

end Gaps

end Design

end FlopCensus
