import FlopCensus.Proofs.Design.Insertion
import FlopCensus.Proofs.Slang.Sight
import FlopCensus.Proofs.Slang.TokenText
import Mathlib.Data.List.Basic
import Mathlib.Tactic.Common

set_option autoImplicit false
set_option relaxedAutoImplicit false

/-!
# The dimensions of declared names

A dimension behind a declared name holds numbers and names as one in front of it does. It has no
effect on the registers of the declaration: it is dumped as unpacked, and so are the dimensions
inside of it, and the name comes first. The latter needs a name that is dumped. If it is not, a name
in the dimension takes its place.

## Main definitions

* `FlopCensus.Slang.IsForeign` — the kinds that dumps do not know.
* `FlopCensus.Slang.Dimensional` — what dimensions consist of.
* `FlopCensus.Slang.DeclaredName` — a name in a data declaration, with the tree around it.

## Main results

* `FlopCensus.Slang.DeclaredName.registers_dimensions` — dimensions have no effect on registers.
* `FlopCensus.Slang.DeclaredName.registers_unnamed` — without the name they can have one.

## Design

The translation of a tree with dimensions is a tree with trees in a gap (`FlopCensus.Gap`). The
kinds on the way to a declarator are those of its declaration, of modules and of units, and foreign
ones, so that the gap is in no header, block or assignment.
-/

namespace FlopCensus.Slang

open Design
open scoped List

/-! ### Foreign kinds -/

/-- Dumps have no tag of their own for the kind, and it does not look like one of their tags. -/
def IsForeign (kind : String) : Prop :=
  nodeTags.lookup kind = none ∧ Text.opensWith kind "k" = false

instance (kind : String) : Decidable (IsForeign kind) :=
  inferInstanceAs (Decidable (_ ∧ _))

/-- Assignments have a tag. -/
lemma IsForeign.not_assignment {kind : String} (h : IsForeign kind) :
    assignmentKinds.contains kind = false := by
  by_contra hmem
  rw [Bool.not_eq_false, List.contains_iff_mem] at hmem
  have hknown : ∀ kind ∈ assignmentKinds, nodeTags.lookup kind ≠ none := by decide
  exact hknown kind hmem h.1

/-- Only a dimension is dumped with a tag. -/
lemma IsForeign.translatedTag_cases {kind : String} (h : IsForeign kind) (above : List String) :
    (kind = dimensionKind ∧ translatedTag above kind =
        if HangsOffDeclarator above then "kUnpackedDimensions" else "kPackedDimensions") ∨
      (kind ≠ dimensionKind ∧ Text.opensWith (translatedTag above kind) "k" = false) := by
  rw [translatedTag, h.1, Option.getD_none]
  by_cases hk : kind = dimensionKind
  · exact .inl ⟨hk, if_pos hk⟩
  · rw [if_neg hk]
    exact .inr ⟨hk, h.2⟩

/-- A foreign kind is not dumped with a tag, except for dimensions. -/
lemma IsForeign.translatedTag_ne {kind tag : String} (h : IsForeign kind)
    (htag : Text.opensWith tag "k" = true)
    (hdim : kind = dimensionKind → tag ∉ ["kUnpackedDimensions", "kPackedDimensions"])
    (above : List String) : translatedTag above kind ≠ tag := by
  rintro rfl
  rcases h.translatedTag_cases above with ⟨hkind, heq⟩ | ⟨-, hno⟩
  · refine hdim hkind ?_
    rw [heq]
    split <;> decide
  · rw [htag] at hno
    cases hno

/-- The known kinds on the way to a declarator. -/
def wayKinds : List String :=
  ["CompilationUnit", "ModuleDeclaration", "DataDeclaration", declaratorKind]

/-- The known kinds are dumped with their tags. -/
lemma translatedTag_of_mem_wayKinds {kind : String} (h : kind ∈ wayKinds) (above : List String) :
    translatedTag above kind = (nodeTags.lookup kind).getD kind := by
  have hne : ∀ kind ∈ wayKinds, kind ≠ dimensionKind := by decide
  rw [translatedTag, if_neg (hne kind h)]

/-! ### Dimensions -/

/-- What dimensions consist of: nodes of foreign kinds that are no types, and tokens that are no
words of storage. -/
structure Dimensional (ks : List String) (ts : List Token) : Prop where
  isForeign_of_mem : ∀ kind ∈ ks, IsForeign kind
  no_type : ∀ kind ∈ ks, Text.endsWith kind "Type" = false
  no_storage : ∀ t ∈ ts, t.text ∉ storageKinds

instance (ks : List String) (ts : List Token) : Decidable (Dimensional ks ts) :=
  decidable_of_iff ((∀ kind ∈ ks, IsForeign kind) ∧
      (∀ kind ∈ ks, Text.endsWith kind "Type" = false) ∧ ∀ t ∈ ts, t.text ∉ storageKinds)
    ⟨fun h => ⟨h.1, h.2.1, h.2.2⟩, fun h => ⟨h.isForeign_of_mem, h.no_type, h.no_storage⟩⟩

/-- Fewer kinds and tokens are still those of dimensions. -/
lemma Dimensional.mono {ks ls : List String} {ts us : List Token} (h : Dimensional ls us)
    (hk : ks ⊆ ls) (ht : ts ⊆ us) : Dimensional ks ts :=
  ⟨fun k hmem => h.isForeign_of_mem k (hk hmem), fun k hmem => h.no_type k (hk hmem),
    fun t hmem => h.no_storage t (ht hmem)⟩

/-- Below a declarator, no tag of a part of a dimension is looked for. -/
lemma translatedTag_not_mem {above : List String} (habove : HangsOffDeclarator above)
    {kind : String} (h : IsForeign kind) : translatedTag above kind ∉ declarationTags := by
  have htags : ∀ tag ∈ declarationTags, Text.opensWith tag "k" = true := by decide
  rcases h.translatedTag_cases above with ⟨-, htag⟩ | ⟨-, htag⟩
  · rw [htag, if_pos habove]
    decide
  · intro hmem
    rw [htags _ hmem] at htag
    cases htag

/-- What is no type does not end what hangs off a declarator. -/
lemma HangsOffDeclarator.cons {above : List String} (h : HangsOffDeclarator above) {kind : String}
    (hkind : Text.endsWith kind "Type" = false) : HangsOffDeclarator (kind :: above) := by
  obtain ⟨between, outer, rfl, hbetween⟩ := h
  exact ⟨kind :: between, outer, rfl, List.forall_mem_cons.2 ⟨hkind, hbetween⟩⟩

mutual

/-- **Nothing that is looked for is found in a dimension** that hangs off a declarator. -/
theorem nodesTagged_translated {wanted : String} (hw : wanted ∈ declarationTags)
    {above : List String} (habove : HangsOffDeclarator above) (t : Tree)
    (h : Dimensional (kinds t) (tokens t)) :
    (translated above t).flatMap (·.nodesTagged wanted) = [] := by
  match t with
  | .absent => rw [translated, List.flatMap_nil]
  | .token t =>
    rw [translated]
    split <;> simp
  | .node kind children =>
    rw [kinds, tokens] at h
    have hforeign := h.isForeign_of_mem kind List.mem_cons_self
    have htag : translatedTag above kind ≠ wanted :=
      fun heq => translatedTag_not_mem habove hforeign (heq ▸ hw)
    have hparts := nodesTagged_translatedAll hw
      (habove.cons (h.no_type kind List.mem_cons_self)) children
      (h.mono (List.subset_cons_self _ _) (List.Subset.refl _))
    rw [translated, hforeign.not_assignment, translatedParts_false, List.flatMap_singleton,
      Tree.nodesTagged_node, if_neg htag, hparts, List.nil_append]

/-- Nothing that is looked for is found in several dimensions. -/
theorem nodesTagged_translatedAll {wanted : String} (hw : wanted ∈ declarationTags)
    {above : List String} (habove : HangsOffDeclarator above) (ts : List Tree)
    (h : Dimensional (kindsAll ts) (tokensAll ts)) :
    (ts.flatMap (translated above)).flatMap (·.nodesTagged wanted) = [] := by
  match ts with
  | [] => rfl
  | t :: rest =>
    rw [kindsAll, tokensAll] at h
    rw [List.flatMap_cons, List.flatMap_append,
      nodesTagged_translated hw habove t
        (h.mono (List.subset_append_left _ _) (List.subset_append_left _ _)),
      nodesTagged_translatedAll hw habove rest
        (h.mono (List.subset_append_right _ _) (List.subset_append_right _ _)), List.append_nil]

end

/-! ### Tokens -/

mutual

/-- The tokens of a translation are those that are there. -/
theorem leaves_translated (above : List String) (t : Tree) :
    (translated above t).flatMap FlopCensus.Tree.leaves =
      ((tokens t).filter fun tok => tok.IsShown).map translatedToken := by
  match t with
  | .absent => rw [translated, tokens]; rfl
  | .token t =>
    rw [translated, tokens]
    by_cases hs : t.IsShown <;> simp [hs]
  | .node kind children =>
    rw [translated, tokens, List.flatMap_singleton, Tree.leaves_node, leaves_translatedParts]

/-- The tokens of several translations are those that are there. -/
theorem leaves_translatedParts (above : List String) (assigns : Bool) (ts : List Tree) :
    (translatedParts above assigns ts).flatMap FlopCensus.Tree.leaves =
      ((tokensAll ts).filter fun tok => tok.IsShown).map translatedToken := by
  match ts with
  | [] => rw [translatedParts, tokensAll]; rfl
  | part :: rest =>
    rw [tokensAll, List.filter_append, List.map_append, ← leaves_translated above part,
      ← leaves_translatedParts above false rest]
    by_cases hpart : part = .absent
    · rw [hpart, translatedParts, translated, List.flatMap_nil, List.nil_append,
        leaves_translatedParts, leaves_translatedParts]
    · rw [translatedParts_cons above assigns hpart, List.flatMap_append]
      cases assigns <;> simp

end

/-- A text without line feeds is written as it stands. -/
lemma leafText_of_not_mem {t : Token} (h : '\n' ∉ t.text.toList) : leafText t = t.text := by
  have hchars : ∀ c ∈ t.text.toList, (if c == '\n' then ['\\', 'n'] else [c]) = [c] := by
    intro c hc
    have hne : c ≠ '\n' := fun heq => h (heq ▸ hc)
    rw [if_neg (by simpa using hne)]
  rw [leafText, List.flatMap_congr hchars, List.flatMap_singleton', String.ofList_toList]

/-- Only a word of storage is written as one. -/
lemma text_mem_storageKinds {t : Token} (h : (translatedToken t).text ∈ storageKinds) :
    t.text ∈ storageKinds := by
  rw [text_translatedToken] at h
  by_cases hnewline : '\n' ∈ t.text.toList
  -- a line feed is written with a backslash, and there is none in a word of storage
  · have hescape : '\\' ∈ (leafText t).toList := by
      rw [leafText, String.toList_ofList, List.mem_flatMap]
      exact ⟨'\n', hnewline, by decide⟩
    have hplain : ∀ w ∈ storageKinds, '\\' ∉ w.toList := by decide
    exact absurd hescape (hplain _ h)
  · rwa [leafText_of_not_mem hnewline] at h

/-- **Dimensions that hang off a declarator are not looked for.** -/
lemma unsought_translated {above : List String} (habove : HangsOffDeclarator above)
    {dims : List Tree} (h : Dimensional (kindsAll dims) (tokensAll dims)) :
    Unsought (translatedParts above false dims) := by
  constructor
  · intro wanted hwanted
    rw [← List.flatMap_eq_nil_iff, translatedParts_false]
    exact nodesTagged_translatedAll hwanted habove dims h
  · intro l hl
    rw [leaves_translatedParts, List.mem_map] at hl
    obtain ⟨t, ht, rfl⟩ := hl
    rw [← Bool.not_eq_true, List.contains_iff_mem]
    exact fun hmem => h.no_storage t (List.mem_filter.1 ht).1 (text_mem_storageKinds hmem)

/-- The kinds of several trees, tree by tree. -/
lemma kindsAll_eq_flatMap (ts : List Tree) : kindsAll ts = ts.flatMap kinds := by
  induction ts with
  | nil => rw [kindsAll, List.flatMap_nil]
  | cons t ts ih => rw [kindsAll, ih, List.flatMap_cons]

/-- The tokens of several trees, tree by tree. -/
lemma tokensAll_eq_flatMap (ts : List Tree) : tokensAll ts = ts.flatMap tokens := by
  induction ts with
  | nil => rw [tokensAll, List.flatMap_nil]
  | cons t ts ih => rw [tokensAll, ih, List.flatMap_cons]

/-! ### The way to a declarator -/

namespace Context

/-- The kinds of the nodes around the open part, outermost first. -/
def path : Context → List String
  | .hole => []
  | .node kind _ inside _ => kind :: inside.path

/-- The translation of a tree with a declarator in it, with a gap between the parts of this
declarator. -/
def gap (above : List String) (before after : List Tree) : Context → Gap
  | .hole => .here (translatedTag above declaratorKind)
      (translatedParts (declaratorKind :: above) false before)
      (translatedParts (declaratorKind :: above) false after)
  | .node kind front inside back => .deeper (translatedTag above kind)
      (translatedParts (kind :: above) false front) (inside.gap (kind :: above) before after)
      (translatedParts (kind :: above) false back)

/-- A tree around a node is a node. -/
lemma fill_node (c : Context) (kind : String) (parts : List Tree) :
    ∃ root children, c.fill (.node kind parts) = .node root children := by
  cases c <;> exact ⟨_, _, rfl⟩

variable {above : List String} {before after : List Tree}

/-- What is put into a declarator that is in no assignment stands in the gap. -/
lemma translated_fill {c : Context} (h : ∀ kind ∈ c.path, assignmentKinds.contains kind = false)
    (above : List String) (before dims after : List Tree) :
    translated above (c.fill (.node declaratorKind (before ++ (dims ++ after)))) =
      [((c.gap above before after).node
        (translatedParts (declaratorKind :: (c.path.reverse ++ above)) false dims)).toTree] := by
  induction c generalizing above with
  | hole =>
    have hkind : assignmentKinds.contains declaratorKind = false := by decide
    rw [fill, translated, hkind, translatedParts_false, List.flatMap_append, List.flatMap_append,
      ← translatedParts_false, ← translatedParts_false, ← translatedParts_false]
    rfl
  | node kind front inside back ih =>
    have hinside := ih (fun k hk => h k (List.mem_cons_of_mem _ hk)) (kind :: above)
    rw [fill, translated, h kind List.mem_cons_self, translatedParts_false, List.flatMap_append,
      List.flatMap_cons, hinside, path, List.reverse_cons, List.append_assoc,
      ← translatedParts_false, ← translatedParts_false]
    rfl

/-- The tags on the way to the gap are those of the kinds on the path and that of declarators. -/
lemma mem_tags_gap (c : Context) {tag : String} (h : tag ∈ (c.gap above before after).tags) :
    ∃ outer, ∃ kind ∈ c.path ++ [declaratorKind], tag = translatedTag outer kind := by
  induction c generalizing above with
  | hole => exact ⟨above, declaratorKind, List.mem_singleton_self _, List.mem_singleton.1 h⟩
  | node kind front inside back ih =>
    rcases List.mem_cons.1 h with rfl | h
    · exact ⟨above, kind, List.mem_cons_self, rfl⟩
    · obtain ⟨outer, k, hk, htag⟩ := ih h
      exact ⟨outer, k, List.mem_cons_of_mem _ hk, htag⟩

/-- A token in front of the gap in its declarator is in front of the gap in all parts. -/
lemma every_front_gap (c : Context) {t : Token} (hmem : .token t ∈ before) (hs : t.IsShown) :
    (c.gap above before after).Every fun g => translatedToken t ∈ g.front := by
  induction c generalizing above with
  | hole =>
    have hleaf : FlopCensus.Tree.leaf (translatedToken t) ∈
        translatedParts (declaratorKind :: above) false before := by
      rw [translatedParts_false, List.mem_flatMap]
      refine ⟨.token t, hmem, ?_⟩
      rw [translated, if_pos hs]
      exact List.mem_singleton_self _
    refine List.mem_flatMap.2 ⟨_, hleaf, ?_⟩
    rw [Tree.leaves_leaf]
    exact List.mem_singleton_self _
  | node kind front inside back ih =>
    have hinside : (inside.gap (kind :: above) before after).Every
      fun g => translatedToken t ∈ g.front := ih
    exact ⟨List.mem_append_right _ hinside.self, hinside⟩

/-- Around a tree with fewer kinds and tokens there are fewer of them, too. -/
lemma fill_sublist (c : Context) {t u : Tree} (hk : kinds t <+ kinds u)
    (ht : tokens t <+ tokens u) :
    kinds (c.fill t) <+ kinds (c.fill u) ∧ tokens (c.fill t) <+ tokens (c.fill u) := by
  induction c with
  | hole => exact ⟨hk, ht⟩
  | node kind front inside back ih =>
    simp only [fill, kinds, tokens, kindsAll_eq_flatMap, tokensAll_eq_flatMap, List.flatMap_append,
      List.flatMap_cons]
    exact ⟨((List.Sublist.refl _).append (ih.1.append (List.Sublist.refl _))).cons_cons _,
      (List.Sublist.refl _).append (ih.2.append (List.Sublist.refl _))⟩

/-- Without dimensions on the path, no node on the way to the gap is a packed dimension. -/
lemma packedDimensions_not_mem_tags_gap {c : Context}
    (h : ∀ kind ∈ c.path, kind ∈ wayKinds ∨ (IsForeign kind ∧ kind ≠ dimensionKind)) :
    packedDimensions ∉ (c.gap above before after).tags := by
  intro hmem
  obtain ⟨outer, kind, hkind, htag⟩ := c.mem_tags_gap hmem
  have hcases : kind ∈ wayKinds ∨ (IsForeign kind ∧ kind ≠ dimensionKind) := by
    rcases List.mem_append.1 hkind with hpath | hlast
    · exact h kind hpath
    · exact .inl (List.mem_singleton.1 hlast ▸ by decide)
  rcases hcases with hknown | ⟨hforeign, hne⟩
  · have hnone : ∀ k ∈ wayKinds, packedDimensions ≠ (nodeTags.lookup k).getD k := by decide
    rw [translatedTag_of_mem_wayKinds hknown] at htag
    exact hnone kind hknown htag
  · exact hforeign.translatedTag_ne (by decide) (fun heq => absurd heq hne) outer htag.symm

/-- The gap is in no packed dimension of a declaration, if on the path there is no dimension below
the declaration. -/
lemma every_unpacked {c : Context} {outer inner : List String}
    (hpath : c.path = outer ++ "DataDeclaration" :: inner)
    (houter : ∀ kind ∈ outer, kind = "CompilationUnit" ∨ kind = "ModuleDeclaration" ∨
      IsForeign kind)
    (hinner : ∀ kind ∈ inner, kind = declaratorKind ∨ (IsForeign kind ∧ kind ≠ dimensionKind)) :
    (c.gap above before after).Every fun g =>
      g.tag = dataDeclaration → packedDimensions ∉ g.tags := by
  induction c generalizing outer above with
  | hole => simp [path] at hpath
  | node kind front inside back ih =>
    cases outer with
    | nil =>
      -- here is the declaration, and all the other parts are inside of it
      have hkinds : ∀ k ∈ (node kind front inside back).path,
          k ∈ wayKinds ∨ (IsForeign k ∧ k ≠ dimensionKind) := by
        rw [hpath, List.nil_append]
        refine List.forall_mem_cons.2 ⟨.inl (by decide), fun k hk => ?_⟩
        rcases hinner k hk with rfl | hforeign
        · exact .inl (by decide)
        · exact .inr hforeign
      exact (Gap.every_tags_subset _).imp fun g hsub _ hmem =>
        packedDimensions_not_mem_tags_gap hkinds (hsub hmem)
    | cons k outer =>
      -- above the declaration, nothing is dumped as one
      rw [path, List.cons_append] at hpath
      obtain ⟨rfl, hinside⟩ := List.cons.inj hpath
      refine ⟨fun htag => ?_, ih hinside fun k hk => houter k (List.mem_cons_of_mem _ hk)⟩
      have hne : translatedTag above kind ≠ dataDeclaration := by
        rcases houter kind List.mem_cons_self with rfl | rfl | hforeign
        · rw [translatedTag_of_mem_wayKinds (by decide)]
          decide
        · rw [translatedTag_of_mem_wayKinds (by decide)]
          decide
        · exact hforeign.translatedTag_ne (by decide) (fun _ => by decide) above
      exact absurd htag hne

end Context

/-! ### Declared names -/

/-- A name in a data declaration, with the tree around it. -/
structure DeclaredName where
  /-- The nodes above the declarator of the name, with their other parts. -/
  around : Context
  /-- The kinds above the declaration, outermost first. -/
  outer : List String
  /-- The kinds between the declaration and the declarator, outermost first. -/
  inner : List String
  path_around : around.path = outer ++ "DataDeclaration" :: inner
  /-- The declaration belongs to the body of a module. -/
  outer_kinds : ∀ kind ∈ outer, kind = "CompilationUnit" ∨ kind = "ModuleDeclaration" ∨
    IsForeign kind
  /-- The declarator belongs to the declaration, and to no dimension of it. -/
  inner_kinds : ∀ kind ∈ inner, kind = declaratorKind ∨ (IsForeign kind ∧ kind ≠ dimensionKind)
  /-- The parts of the declarator in front of the name. -/
  before : List Tree
  /-- The name. -/
  name : Token
  name_kind : name.kind = "Identifier"
  /-- The parts of the declarator between the name and the place of the dimensions. -/
  behind : List Tree
  /-- The parts of the declarator behind the place of the dimensions. -/
  rest : List Tree

namespace DeclaredName

variable {d : DeclaredName} {dims : List Tree}

/-- The tree with dimensions behind the name. -/
def tree (d : DeclaredName) (dims : List Tree) : Tree :=
  d.around.fill (.node declaratorKind (d.before ++ .token d.name :: d.behind ++ (dims ++ d.rest)))

/-- The translation of the tree, with a gap for the dimensions. -/
def gap (d : DeclaredName) : Gap :=
  d.around.gap [] (d.before ++ .token d.name :: d.behind) d.rest

/-- The translation of the dimensions. -/
def dimensions (d : DeclaredName) (dims : List Tree) : List FlopCensus.Tree :=
  translatedParts (declaratorKind :: (d.around.path.reverse ++ [])) false dims

/-- The tree with dimensions is a node. -/
lemma tree_eq_node (d : DeclaredName) (dims : List Tree) :
    ∃ root children, d.tree dims = .node root children :=
  d.around.fill_node _ _

/-- Without dimensions there are fewer kinds and tokens. -/
lemma tree_sublist (d : DeclaredName) (dims : List Tree) :
    kinds (d.tree []) <+ kinds (d.tree dims) ∧ tokens (d.tree []) <+ tokens (d.tree dims) := by
  refine d.around.fill_sublist ?_ ?_
  · simp only [kinds, kindsAll_eq_flatMap, List.nil_append, List.flatMap_append]
    exact ((List.Sublist.refl _).append (List.sublist_append_right _ _)).cons_cons _
  · simp only [tokens, tokensAll_eq_flatMap, List.nil_append, List.flatMap_append]
    exact (List.Sublist.refl _).append (List.sublist_append_right _ _)

/-- A kind on the way to a declarator is one of a few, or a foreign one. -/
lemma mem_wayKinds_or_isForeign (d : DeclaredName) :
    ∀ kind ∈ d.around.path ++ [declaratorKind], kind ∈ wayKinds ∨ IsForeign kind := by
  intro kind hmem
  simp only [d.path_around, wayKinds, List.mem_append, List.mem_cons, List.not_mem_nil,
    or_false] at hmem ⊢
  rcases hmem with (h | h | h) | h
  · have := d.outer_kinds kind h
    tauto
  · tauto
  · have := d.inner_kinds kind h
    tauto
  · tauto

/-- A declarator is in no assignment. -/
lemma not_assignment (d : DeclaredName) :
    ∀ kind ∈ d.around.path, assignmentKinds.contains kind = false := by
  intro kind hmem
  rcases d.mem_wayKinds_or_isForeign kind (List.mem_append_left _ hmem) with hknown | hforeign
  · have hnone : ∀ kind ∈ wayKinds, assignmentKinds.contains kind = false := by decide
    exact hnone kind hknown
  · exact hforeign.not_assignment

/-- A declarator is in no header and in no block. -/
lemma not_mem_tags_gap (d : DeclaredName) {tag : String}
    (htag : tag ∈ [moduleHeader, alwaysStatement]) : tag ∉ d.gap.tags := by
  intro hmem
  obtain ⟨above, kind, hkind, rfl⟩ := d.around.mem_tags_gap hmem
  rcases d.mem_wayKinds_or_isForeign kind hkind with hknown | hforeign
  · rw [translatedTag_of_mem_wayKinds hknown] at htag
    have hnone : ∀ kind ∈ wayKinds, (nodeTags.lookup kind).getD kind ∉
      [moduleHeader, alwaysStatement] := by decide
    exact hnone kind hknown htag
  · have htags : ∀ tag ∈ [moduleHeader, alwaysStatement], Text.opensWith tag "k" = true ∧
        tag ∉ ["kUnpackedDimensions", "kPackedDimensions"] := by decide
    exact hforeign.translatedTag_ne (htags _ htag).1 (fun _ => (htags _ htag).2) above rfl

/-- A name that is there comes before the dimensions. -/
lemma every_named (d : DeclaredName) (hs : d.name.IsShown) (ts : List FlopCensus.Tree) :
    d.gap.Every (IsDecided isIdentifier ts) := by
  have hmem : Tree.token d.name ∈ d.before ++ .token d.name :: d.behind :=
    List.mem_append_right _ List.mem_cons_self
  have hname : isIdentifier (translatedToken d.name) = true := by
    rw [isIdentifier, translatedToken, bareTag, d.name_kind]
    rfl
  exact (d.around.every_front_gap hmem hs).imp fun _ hfront => .inl ⟨_, hfront, hname⟩

/-- The dimensions hang off a declarator, and so they are not looked for. -/
lemma unsought_dimensions (d : DeclaredName) (h : Dimensional (kindsAll dims) (tokensAll dims)) :
    Unsought (d.dimensions dims) :=
  unsought_translated ⟨[], _, rfl, by simp⟩ h

/-- **The gap is passed by** if the name is there, or if the dimensions hold no name. -/
lemma isPassedBy (d : DeclaredName)
    (h : d.name.IsShown ∨ ∀ t ∈ tokensAll dims, t.IsShown → bareTag t ≠ identifier) :
    IsPassedBy d.gap (d.dimensions dims) where
  header := d.not_mem_tags_gap (by decide)
  block := d.not_mem_tags_gap (by decide)
  packed := Context.every_unpacked d.path_around d.outer_kinds d.inner_kinds
  named := by
    rcases h with hs | hnone
    · exact (d.every_named hs _).imp fun _ hdecided _ => hdecided
    · refine Gap.every_of_forall (fun g _ => .inr fun l hl => ?_) _
      rw [dimensions, leaves_translatedParts, List.mem_map] at hl
      obtain ⟨t, ht, rfl⟩ := hl
      obtain ⟨hmem, hs⟩ := List.mem_filter.1 ht
      exact beq_eq_false_iff_ne.2 (hnone t hmem (of_decide_eq_true hs))

/-- The tree can be printed if the offsets of its tokens can be written. -/
lemma render_isOk_iff (d : DeclaredName)
    (h : Printable (kinds (d.tree dims)) (tokens (d.tree dims))) :
    (∃ dump, render 2 (d.tree dims) = .ok dump) ↔
      ∀ t ∈ tokens (d.tree dims), t.IsShown → t.OffsetsFit := by
  obtain ⟨root, children, hnode⟩ := d.tree_eq_node dims
  rw [hnode] at h ⊢
  exact (parse_render (w := 2) (by decide) h).1

/-- The dump of the tree is analyzed as its translation. -/
lemma value_analyzeDump (d : DeclaredName)
    (h : Printable (kinds (d.tree dims)) (tokens (d.tree dims))) {dump : String}
    (hdump : render 2 (d.tree dims) = .ok dump) (source : List UInt8) (file : String) :
    (analyzeDump dump source file).value =
      .ok (inventoryOf (d.gap.node (d.dimensions dims)) source file).value := by
  obtain ⟨root, children, hnode⟩ := d.tree_eq_node dims
  have htranslated : [(translation root children).toTree] =
      [(d.gap.node (d.dimensions dims)).toTree] := by
    have hfill := Context.translated_fill d.not_assignment []
      (d.before ++ .token d.name :: d.behind) dims d.rest
    rwa [← tree, hnode] at hfill
  have htranslation : translation root children = d.gap.node (d.dimensions dims) := by
    injection htranslated with htree
    injection htree with htag hparts
    exact congrArg₂ Node.mk htag hparts
  rw [hnode] at h hdump
  have hparse : Dump.parseStandard dump = .ok (translation root children) :=
    (parse_render (w := 2) (by decide) h).2 dump hdump
  rw [analyzeDump, hparse, htranslation]
  rfl

/-- **Dimensions behind a declared name have no effect on registers**, if the name is there or the
dimensions hold no name. The tree with them can be printed if and only if the offsets of its tokens
can be written. The tree without them can then be printed, too, and the analysis of both dumps
yields the same registers, whatever the source and its path.

**Proof sketch.** The dumps are analyzed as the translations of the trees (`value_analyzeDump`),
which differ in what is in a gap. There the dimensions are not looked for, as they hang off a
declarator (`unsought_dimensions`), and the names are found before them (`isPassedBy`), so that they
have no effect (`Design.registers_inventoryOf_gap`). -/
theorem registers_dimensions (d : DeclaredName) {dims : List Tree}
    (hdims : Dimensional (kindsAll dims) (tokensAll dims))
    (hname : d.name.IsShown ∨ ∀ t ∈ tokensAll dims, t.IsShown → bareTag t ≠ identifier)
    (hprintable : Printable (kinds (d.tree dims)) (tokens (d.tree dims))) :
    ((∃ dump, render 2 (d.tree dims) = .ok dump) ↔
        ∀ t ∈ tokens (d.tree dims), t.IsShown → t.OffsetsFit) ∧
      ∀ dump, render 2 (d.tree dims) = .ok dump →
        ∃ bare, render 2 (d.tree []) = .ok bare ∧
          ∀ source file, ∃ inventory without,
            (analyzeDump dump source file).value = .ok inventory ∧
              (analyzeDump bare source file).value = .ok without ∧
                inventory.registers = without.registers := by
  have hfewer : Printable (kinds (d.tree [])) (tokens (d.tree [])) :=
    ⟨fun kind hmem => hprintable.isWord_of_mem kind ((d.tree_sublist dims).1.subset hmem),
      fun t hmem => hprintable.isPrintable_of_mem t ((d.tree_sublist dims).2.subset hmem)⟩
  have hrender := d.render_isOk_iff hprintable
  refine ⟨hrender, fun dump hdump => ?_⟩
  obtain ⟨bare, hbare⟩ := (d.render_isOk_iff hfewer).2 fun t hmem =>
    hrender.1 ⟨dump, hdump⟩ t ((d.tree_sublist dims).2.subset hmem)
  refine ⟨bare, hbare, fun source file => ⟨_, _, d.value_analyzeDump hprintable hdump source file,
    d.value_analyzeDump hfewer hbare source file, ?_⟩⟩
  exact registers_inventoryOf_gap (d.unsought_dimensions hdims) (d.isPassedBy hname) source file

/-- The name `q` in `module m; reg [7:0] q [N]; endmodule`, there or missing. -/
def memory (missing : Bool) : DeclaredName where
  around := .node "CompilationUnit" [] (.node "ModuleDeclaration"
    [.node "ModuleHeader" [.token ⟨"ModuleKeyword", "module", 0, false⟩,
      .token ⟨"Identifier", "m", 7, false⟩, .token ⟨"Semicolon", ";", 8, false⟩]]
    (.node "DataDeclaration"
      [.node "RegType" [.token ⟨"RegKeyword", "reg", 10, false⟩,
        .node dimensionKind [.token ⟨"OpenBracket", "[", 14, false⟩,
          .token ⟨"IntegerLiteral", "7", 15, false⟩, .token ⟨"Colon", ":", 16, false⟩,
          .token ⟨"IntegerLiteral", "0", 17, false⟩, .token ⟨"CloseBracket", "]", 18, false⟩]]]
      .hole [.token ⟨"Semicolon", ";", 25, false⟩])
    [.token ⟨"EndModuleKeyword", "endmodule", 27, false⟩]) []
  outer := ["CompilationUnit", "ModuleDeclaration"]
  inner := []
  path_around := rfl
  outer_kinds := by decide
  inner_kinds := by decide
  before := []
  name := ⟨"Identifier", "q", 20, missing⟩
  name_kind := rfl
  behind := []
  rest := []

/-- The dimension `[N]` of the memory. -/
def memorySize : List Tree :=
  [.node dimensionKind [.token ⟨"OpenBracket", "[", 22, false⟩,
    .node "IdentifierName" [.token ⟨"Identifier", "N", 23, false⟩],
    .token ⟨"CloseBracket", "]", 24, false⟩]]

/-- The size of a memory has no effect on its register. -/
theorem registers_dimensions_memory :
    Dimensional (kindsAll memorySize) (tokensAll memorySize) ∧ (memory false).name.IsShown ∧
      Printable (kinds ((memory false).tree memorySize)) (tokens ((memory false).tree memorySize)) ∧
      ∃ dump bare inventory without, render 2 ((memory false).tree memorySize) = .ok dump ∧
        render 2 ((memory false).tree []) = .ok bare ∧
        (analyzeDump dump [] "m.sv").value = .ok inventory ∧
        (analyzeDump bare [] "m.sv").value = .ok without ∧
        inventory.registers = without.registers ∧
        inventory.registers = [⟨"q", 8, 1, "m", "m.sv", .flipFlop, none, none⟩] := by
  have hsize : Dimensional (kindsAll memorySize) (tokensAll memorySize) := by decide
  have hshown : (memory false).name.IsShown := by decide
  have hprintable : Printable (kinds ((memory false).tree memorySize))
      (tokens ((memory false).tree memorySize)) := by decide
  have hfit : ∀ t ∈ tokens ((memory false).tree memorySize), t.IsShown → t.OffsetsFit := by
    decide +kernel
  obtain ⟨hrender, hsame⟩ := (memory false).registers_dimensions hsize (.inl hshown) hprintable
  obtain ⟨dump, hdump⟩ := hrender.2 hfit
  obtain ⟨bare, hbare, hanalyzed⟩ := hsame dump hdump
  obtain ⟨inventory, without, hinventory, hwithout, heq⟩ := hanalyzed [] "m.sv"
  refine ⟨hsize, hshown, hprintable, dump, bare, inventory, without, hdump, hbare, hinventory,
    hwithout, heq, ?_⟩
  rw [value_analyzeDump _ hprintable hdump] at hinventory
  obtain rfl := Except.ok.inj hinventory
  decide +kernel

/-- **The size of a memory without a name is taken for a register.** -/
theorem registers_unnamed :
    Dimensional (kindsAll memorySize) (tokensAll memorySize) ∧ ¬ (memory true).name.IsShown ∧
      Printable (kinds ((memory true).tree memorySize)) (tokens ((memory true).tree memorySize)) ∧
      ∃ dump bare inventory without, render 2 ((memory true).tree memorySize) = .ok dump ∧
        render 2 ((memory true).tree []) = .ok bare ∧
        (analyzeDump dump [] "m.sv").value = .ok inventory ∧
        (analyzeDump bare [] "m.sv").value = .ok without ∧
        inventory.registers = [⟨"N", 8, 1, "m", "m.sv", .flipFlop, none, none⟩] ∧
        without.registers = [] := by
  have hprintable : Printable (kinds ((memory true).tree memorySize))
      (tokens ((memory true).tree memorySize)) := by decide
  have hbareable : Printable (kinds ((memory true).tree [])) (tokens ((memory true).tree [])) := by
    decide
  obtain ⟨dump, hdump⟩ := ((memory true).render_isOk_iff hprintable).2 (by decide +kernel)
  obtain ⟨bare, hbare⟩ := ((memory true).render_isOk_iff hbareable).2 (by decide +kernel)
  refine ⟨by decide, by decide, hprintable, dump, bare, _, _, hdump, hbare,
    value_analyzeDump _ hprintable hdump [] "m.sv", value_analyzeDump _ hbareable hbare [] "m.sv",
    ?_, ?_⟩
  · decide +kernel
  · decide +kernel

end DeclaredName

end FlopCensus.Slang
