import FlopCensus.Proofs.Design.Described
import FlopCensus.Proofs.Slang.Sight
import Mathlib.Data.List.Basic
import Mathlib.Tactic.Common

set_option autoImplicit false
set_option relaxedAutoImplicit false

/-!
# The two trees of a design look the same

A described design has a dump as a syntax tool prints it, and a syntax tree of the slang front end,
which is printed as a dump of another shape. The analysis sees the same of both: each construct of a
description has one view, which is computed from its listing and from its sketch.

## Main definitions

* `FlopCensus.Description.Module.seen` — what is seen of a module, made of `Port.seen`, `Data.seen`
  and `Block.seen`.
* `FlopCensus.Description.Module.names` — the names that the analysis reads in a module.
* `FlopCensus.Description.dumpedTree`, `FlopCensus.Description.renderedTree` — the two trees.

## Main results

* `FlopCensus.Description.sight_module`, `FlopCensus.Description.sight_moduleSketch` — both trees of
  a module are seen the same.
* `FlopCensus.Description.analyzeDump_render` — the analysis of both dumps yields the same result.

## Design

For each construct there is a lemma about its listing, and one about its sketch with a name that
ends in `Sketch`. Nothing is assumed about the nodes above a construct but what is sought and read
below them. Names have to have a text, because a token without one is left out when a syntax tree is
printed.
-/

namespace FlopCensus

open Design Dump

namespace Description

open Slang

variable {above outer : List String}

/-! ### Tokens -/

/-- The tag is written without double quotes in it. -/
def IsBare (tag : Tag) : Prop :=
  '"' ∉ tag.name.toList ∧ tag.name ≠ ""

instance (tag : Tag) : Decidable (IsBare tag) :=
  inferInstanceAs (Decidable (_ ∧ _))

/-- A word or sign as it is seen. -/
def fixedSeen (tag : Tag) (span : Span) : Tree :=
  .leaf ⟨tag.name, tag.name, span.start, 0⟩

/-- A name as it is seen. -/
def Ident.seen (x : Ident) : Tree :=
  .leaf x.leaf.fade

/-- A number as it is seen. -/
def Natural.seen (n : Natural) : Tree :=
  .leaf ⟨"TK_DecNumber", Numeral.natText n.value, n.span.start, 0⟩

lemma sight_fixed (h : isRead above = true) (index : ℕ) (tag : Tag) (span : Span) :
    (fixed index tag span).sight above = [fixedSeen tag span] :=
  Listing.sight_leaf h index tag _ span

lemma sight_fixedSketch (h : isRead above = true) {kind : String}
    (hkind : tokenTags.lookup kind = none) {tag : Tag} (hbare : IsBare tag) (outer : List String)
    (span : Span) : (Sketch.fixed kind tag span).sight above outer = [fixedSeen tag span] := by
  have hchars : tag.name.toList.map (fun c => if c = '"' then '\'' else c) = tag.name.toList := by
    have hkeep : ∀ c ∈ tag.name.toList, (if c = '"' then '\'' else c) = c := by
      intro c hc
      refine if_neg ?_
      rintro rfl
      exact hbare.1 hc
    rw [List.map_congr_left hkeep, List.map_id']
  rw [Sketch.fixed, Sketch.sight_token h _ _ hbare.2, bareTag, hkind]
  simp only [hchars, tag.stripBy_name, String.ofList_toList]
  rfl

lemma sight_sign (h : isRead above = true) (s : Sign) (outer : List String) (span : Span) :
    (s.sketch span).sight above outer = [fixedSeen s.tag span] := by
  have hkind : tokenTags.lookup s.kind = none := by cases s <;> decide
  have hbare : IsBare s.tag := by cases s <;> decide
  exact sight_fixedSketch h hkind hbare outer span

lemma sight_word (h : isRead above = true) (w : Word) (outer : List String) (span : Span) :
    (w.sketch span).sight above outer = [fixedSeen w.tag span] := by
  have hkind : tokenTags.lookup w.kind = none := by cases w <;> decide
  have hbare : IsBare w.tag := by cases w <;> decide
  exact sight_fixedSketch h hkind hbare outer span

lemma sight_ident (h : isRead above = true) (x : Ident) (index : ℕ) :
    (x.listing index).sight above = [x.seen] :=
  Listing.sight_leaf h index _ _ x.span

lemma sight_identSketch (h : isRead above = true) {x : Ident} (htext : x.name.text ≠ "")
    (outer : List String) : x.sketch.sight above outer = [x.seen] :=
  Sketch.sight_token h outer "Identifier" htext x.span.start

lemma sight_natural (h : isRead above = true) (n : Natural) (index : ℕ) :
    (n.listing index).sight above = [n.seen] :=
  Listing.sight_leaf h index _ _ n.span

lemma sight_naturalSketch (h : isRead above = true) (n : Natural) (outer : List String) :
    n.sketch.sight above outer = [n.seen] := by
  have htext : Numeral.natText n.value ≠ "" := by
    intro hempty
    have hchars := congrArg String.toList hempty
    rw [Numeral.natText, String.toList_ofList, String.toList_empty] at hchars
    exact Numeral.decimal_ne_nil n.value hchars
  exact Sketch.sight_token h outer "IntegerLiteral" htext n.span.start

lemma sight_reference (h : isRead above = true) (x : Ident) (index : ℕ) :
    (x.reference index).sight above = [x.seen] := by
  rw [Ident.reference, Listing.sight_node_of_inert (by decide), List.flatMap_singleton,
    sight_ident h]

lemma sight_expression (h : isRead above = true) {x : Ident} (htext : x.name.text ≠ "")
    (outer : List String) : x.expression.sight above outer = [x.seen] := by
  rw [Ident.expression, Sketch.sight_node_of_inert (by decide), List.flatMap_singleton,
    sight_identSketch h htext]

/-! ### Lists with separators -/

section Lists

variable {α : Type} {sep : ℕ → Sketch} {item : α → Sketch} {sep' : ℕ → Listing}
  {item' : ℕ → α → Listing}

/-- Further parts between separators are seen the same if the separators and the parts are. -/
lemma sight_separatedFrom (hsep : ∀ i, (sep i).sight above outer = (sep' i).sight above)
    {as : List α} (hitem : ∀ a ∈ as, ∀ i, (item a).sight above outer = (item' i a).sight above)
    (i : ℕ) : (Sketch.separatedFrom sep item i as).flatMap (Sketch.sight above outer) =
      (separatedFrom sep' item' i as).flatMap (Listing.sight above) := by
  induction as generalizing i with
  | nil => rfl
  | cons a as ih =>
    obtain ⟨ha, has⟩ := List.forall_mem_cons.1 hitem
    rw [Sketch.separatedFrom, separatedFrom]
    simp only [List.flatMap_cons]
    rw [hsep, ha (i + 1), ih has]

/-- Parts between separators are seen the same if the separators and the parts are. -/
lemma sight_separated (hsep : ∀ i, (sep i).sight above outer = (sep' i).sight above)
    {as : List α} (hitem : ∀ a ∈ as, ∀ i, (item a).sight above outer = (item' i a).sight above) :
    (Sketch.separated sep item as).flatMap (Sketch.sight above outer) =
      (separated sep' item' as).flatMap (Listing.sight above) := by
  cases as with
  | nil => rfl
  | cons a as =>
    obtain ⟨ha, has⟩ := List.forall_mem_cons.1 hitem
    rw [Sketch.separated, separated, List.flatMap_cons, List.flatMap_cons, ha 0,
      sight_separatedFrom hsep has]

/-- Of numbered parts, each is seen. -/
lemma sight_numbered {g : α → Tree} (hitem : ∀ i a, (item' i a).sight above = [g a]) (i : ℕ)
    (as : List α) : (numbered item' i as).flatMap (Listing.sight above) = as.map g := by
  induction as generalizing i with
  | nil => rfl
  | cons a as ih =>
    rw [numbered, List.flatMap_cons, hitem, ih]
    rfl

/-- Of the sketches of some parts, each is seen. -/
lemma sight_map {g : α → Tree} {as : List α}
    (hitem : ∀ a ∈ as, (item a).sight above outer = [g a]) :
    (as.map item).flatMap (Sketch.sight above outer) = as.map g := by
  rw [List.flatMap_map, List.map_eq_flatMap]
  exact List.flatMap_congr hitem

/-- Commas are seen the same where they are read. -/
lemma sight_comma (h : isRead above = true) (outer : List String) (spans : ℕ → Span) (i : ℕ) :
    (commaSketch spans i).sight above outer = (comma spans i).sight above := by
  rw [commaSketch, sight_sign h, comma, sight_fixed h]
  rfl

end Lists

/-! ### Types -/

/-- A range as it is seen in a type. -/
def Range.seen (r : Range) : Tree :=
  .node packedDimensions (r.leaves.map fun l => .leaf l.fade)

lemma sight_range (hread : isRead above = true) (hs : isSought above packedDimensions = true)
    (r : Range) (index : ℕ) : (r.listing index).sight above = [r.seen] := by
  have hpacked : isRead ("kPackedDimensions" :: above) = true := isRead_of_tail hread _
  rw [Range.listing, Listing.sight_node_of_sought hs (by decide)]
  simp (disch := first | assumption | decide) only [Range.parts, name_label, List.flatMap_cons,
    List.flatMap_nil, List.append_nil, Listing.sight_node_of_inert, sight_fixed, sight_natural]
  rfl

lemma sight_rangeSketch (hread : isRead above = true)
    (hs : isSought above packedDimensions = true) (houter : flagBelow outer = false) (r : Range) :
    r.sketch.sight above outer = [r.seen] := by
  have htag : translatedTag outer "VariableDimension" = packedDimensions := by
    rw [← nodeTag_eq_translatedTag, nodeTag, houter]
    rfl
  have hpacked : isRead (packedDimensions :: above) = true := isRead_of_tail hread _
  rw [Range.sketch, Sketch.sight_node_of_sought (by decide) htag hs (by decide)]
  simp (disch := first | assumption | decide) only [name_label, List.flatMap_cons,
    List.flatMap_nil, List.append_nil, Sketch.sight_node_of_inert, sight_sign,
    sight_naturalSketch]
  rfl

/-- The word for a kind as a token that is seen. -/
def kindSeen (k : Kind × Span) : Tree :=
  fixedSeen k.1.tag k.2

/-- A data type as it is seen. -/
def typeSeen (kind : Option (Kind × Span)) (range : Option Range) : List Tree :=
  (kind.map kindSeen).toList ++ (range.map Range.seen).toList

lemma sight_typeParts (hread : isRead above = true) (hs : isSought above packedDimensions = true)
    (kind : Option (Kind × Span)) (range : Option Range) :
    (typeParts kind range).flatMap (Listing.sight above) = typeSeen kind range := by
  cases kind <;> cases range <;>
    simp (disch := first | assumption | decide) [typeParts, typeSeen, kindSeen,
      Listing.sight_node_of_inert, sight_fixed, sight_range]

lemma sight_dimensions (hread : isRead above = true) (hs : isSought above packedDimensions = true)
    (houter : flagBelow outer = false) (range : Option Range) :
    (dimensions range).flatMap (Sketch.sight above outer) = (range.map Range.seen).toList := by
  cases range with
  | none => rfl
  | some r => simp [dimensions, sight_rangeSketch hread hs houter]

lemma sight_storage (hread : isRead above = true) (hs : isSought above packedDimensions = true)
    (houter : flagBelow outer = false) (s : Storage) (span : Span) (range : Option Range) :
    (s.sketch span range).sight above outer = typeSeen (some (.storage s, span)) range := by
  have hkeyword : tokenTags.lookup s.keyword = none := by cases s <;> decide
  have hbare : IsBare s.tag := by cases s <;> decide
  rw [Storage.sketch, Sketch.sight_node_of_inert (by decide), List.flatMap_cons,
    sight_fixedSketch hread hkeyword hbare,
    sight_dimensions hread hs (flagBelow_cons houter (by decide))]
  rfl

lemma sight_implicitType (hread : isRead above = true)
    (hs : isSought above packedDimensions = true) (houter : flagBelow outer = false)
    (range : Option Range) :
    (implicitType range).sight above outer = typeSeen none range := by
  rw [implicitType, Sketch.sight_node_of_inert (by decide),
    sight_dimensions hread hs (flagBelow_cons houter (by decide))]
  rfl

/-! ### Ports -/

/-- A port as it is seen. -/
def Port.seen (p : Port) : Tree :=
  .node portDeclaration (fixedSeen p.direction.tag p.directionSpan ::
    (typeSeen p.kind p.range ++ [p.name.seen]))

lemma sight_port (hs : isSought above portDeclaration = true) (p : Port) (index : ℕ) :
    (p.listing index).sight above = [p.seen] := by
  have hread : isRead ("kPortDeclaration" :: above) = true := isRead_cons (by decide) above
  have hpacked : isSought ("kPortDeclaration" :: above) packedDimensions = true :=
    isSought_cons (by decide) above
  have htype : p.dataType.flatMap (Listing.sight ("kPortDeclaration" :: above)) =
      typeSeen p.kind p.range := by
    rw [← sight_typeParts hread hpacked, Port.dataType]
    cases typeParts p.kind p.range with
    | nil => rfl
    | cons t ts => rw [List.flatMap_singleton, Listing.sight_node_of_inert (by decide)]
  rw [Port.listing, Listing.sight_node_of_sought hs (by decide), name_label, Port.parts,
    List.flatMap_cons, List.flatMap_append, htype, sight_fixed hread, List.flatMap_singleton,
    Listing.sight_node_of_inert (by decide), List.flatMap_singleton, sight_ident hread]
  rfl

lemma sight_portHeader (hread : isRead above = true) (hs : isSought above packedDimensions = true)
    (houter : flagBelow outer = false) (p : Port) : p.header.sight above outer =
      fixedSeen p.direction.tag p.directionSpan :: typeSeen p.kind p.range := by
  have hkeyword : tokenTags.lookup p.direction.keyword = none := by cases p.direction <;> decide
  have hbare : IsBare p.direction.tag := by cases p.direction <;> decide
  have hvariable : flagBelow ("VariablePortHeader" :: outer) = false :=
    flagBelow_cons houter (by decide)
  have hnet : flagBelow ("NetPortHeader" :: outer) = false := flagBelow_cons houter (by decide)
  rw [Port.header]
  rcases p.kind with _ | ⟨_ | s, span⟩
  · rw [Sketch.sight_node_of_inert (by decide)]
    simp [sight_fixedSketch hread hkeyword hbare, sight_implicitType hread hs hvariable]
  · rw [Sketch.sight_node_of_inert (by decide)]
    simp [sight_fixedSketch hread hkeyword hbare, sight_implicitType hread hs hnet,
      sight_fixedSketch hread (by decide : tokenTags.lookup "WireKeyword" = none)
        (by decide : IsBare Kind.wire.tag), typeSeen, kindSeen]
  · rw [Sketch.sight_node_of_inert (by decide)]
    simp [sight_fixedSketch hread hkeyword hbare, sight_storage hread hs hvariable]

lemma sight_portSketch (hs : isSought above portDeclaration = true)
    (hvariable : isSought (portDeclaration :: above) registerVariable = false)
    (houter : flagBelow outer = false) {p : Port} (hname : p.name.name.text ≠ "") :
    p.sketch.sight above outer = [p.seen] := by
  have hread : isRead (portDeclaration :: above) = true := isRead_cons (by decide) above
  have hpacked : isSought (portDeclaration :: above) packedDimensions = true :=
    isSought_cons (by decide) above
  have hport : flagBelow ("ImplicitAnsiPort" :: outer) = false :=
    flagBelow_cons houter (by decide)
  have htag : translatedTag outer "ImplicitAnsiPort" = portDeclaration := rfl
  rw [Port.sketch, Sketch.sight_node_of_sought (by decide) htag hs (by decide), List.flatMap_cons,
    name_label, sight_portHeader hread hpacked hport, List.flatMap_singleton, declarator,
    Sketch.sight_node_of_not_sought (by decide) hvariable, List.flatMap_singleton,
    sight_identSketch hread hname]
  rfl

/-! ### Data declarations -/

/-- The variables of a data declaration as they are seen. -/
def Data.variablesSeen (d : Data) (above : List String) : List Tree :=
  (separated (comma d.commas) variableListing d.names).flatMap (Listing.sight above)

/-- A data declaration as it is seen. -/
def Data.seen (d : Data) (above : List String) : Tree :=
  .node dataDeclaration (typeSeen (some (.storage d.kind, d.marks 0)) d.range ++
    (d.variablesSeen (dataDeclaration :: above) ++ [fixedSeen Sign.semicolon.tag (d.marks 3)]))

lemma sight_data (hs : isSought above dataDeclaration = true) (d : Data) (index : ℕ) :
    (d.listing index).sight above = [d.seen above] := by
  have hread : isRead ("kDataDeclaration" :: above) = true := isRead_cons (by decide) above
  have hpacked : isSought ("kDataDeclaration" :: above) packedDimensions = true :=
    isSought_cons (by decide) above
  rw [Data.listing, Listing.sight_node_of_sought hs (by decide), Data.parts]
  simp (disch := first | assumption | decide) only [name_label, List.flatMap_cons,
    List.flatMap_nil, List.append_nil, Listing.sight_node_of_inert, sight_typeParts, sight_fixed]
  rfl

/-- A declared name as it is seen in a data declaration. -/
def variableSeen (x : Ident) : Tree :=
  .node registerVariable [x.seen]

lemma sight_variable (hs : isSought above registerVariable = true) (x : Ident) (index : ℕ) :
    (variableListing index x).sight above = [variableSeen x] := by
  have hread : isRead ("kRegisterVariable" :: above) = true := isRead_cons (by decide) above
  rw [variableListing, Listing.sight_node_of_sought hs (by decide), List.flatMap_singleton,
    name_label, sight_ident hread]
  rfl

lemma sight_declarator (hs : isSought above registerVariable = true) {x : Ident}
    (hname : x.name.text ≠ "") (outer : List String) :
    (declarator x).sight above outer = [variableSeen x] := by
  have hread : isRead (registerVariable :: above) = true := isRead_cons (by decide) above
  have htag : translatedTag outer "Declarator" = registerVariable := rfl
  rw [declarator, Sketch.sight_node_of_sought (by decide) htag hs (by decide),
    List.flatMap_singleton, sight_identSketch hread hname]
  rfl

lemma sight_variables (hread : isRead above = true) (hs : isSought above registerVariable = true)
    {d : Data} (hnames : ∀ x ∈ d.names, x.name.text ≠ "") (outer : List String) :
    (Sketch.separated (commaSketch d.commas) declarator d.names).flatMap
      (Sketch.sight above outer) = d.variablesSeen above := by
  refine sight_separated (sight_comma hread outer d.commas) fun x hx i => ?_
  rw [sight_declarator hs (hnames x hx), sight_variable hs]

lemma sight_dataSketch (hs : isSought above dataDeclaration = true)
    (houter : flagBelow outer = false) {d : Data} (hnames : ∀ x ∈ d.names, x.name.text ≠ "") :
    d.sketch.sight above outer = [d.seen above] := by
  have hread : isRead (dataDeclaration :: above) = true := isRead_cons (by decide) above
  have hpacked : isSought (dataDeclaration :: above) packedDimensions = true :=
    isSought_cons (by decide) above
  have hvariable : isSought (dataDeclaration :: above) registerVariable = true :=
    isSought_cons (by decide) above
  have htype : flagBelow ("DataDeclaration" :: outer) = false := flagBelow_cons houter (by decide)
  have htag : translatedTag outer "DataDeclaration" = dataDeclaration := rfl
  rw [Data.sketch, Sketch.sight_node_of_sought (by decide) htag hs (by decide), name_label]
  simp only [List.flatMap_cons, List.flatMap_nil]
  rw [Sketch.sight_absent, sight_storage hread hpacked htype,
    Sketch.sight_node_of_inert (by decide), sight_variables hread hvariable hnames,
    sight_sign hread]
  rfl

/-! ### Values -/

lemma sight_fixed_of_unread (h : isRead above = false) (index : ℕ) (tag : Tag) (span : Span) :
    (fixed index tag span).sight above = [] :=
  Listing.sight_leaf_of_unread h _ _ _ _

lemma sight_fixedSketch_of_unread (h : isRead above = false) (outer : List String) (kind : String)
    (tag : Tag) (span : Span) : (Sketch.fixed kind tag span).sight above outer = [] :=
  Sketch.sight_token_of_unread h _ _ _ _

lemma sight_sign_of_unread (h : isRead above = false) (outer : List String) (s : Sign)
    (span : Span) : (s.sketch span).sight above outer = [] :=
  sight_fixedSketch_of_unread h outer s.kind s.tag span

lemma sight_word_of_unread (h : isRead above = false) (outer : List String) (w : Word)
    (span : Span) : (w.sketch span).sight above outer = [] :=
  sight_fixedSketch_of_unread h outer w.kind w.tag span

/-- The kind of an operation is inert. -/
lemma isInert_operation (sign : Tag) : IsInert (operation sign).1.name := by
  have htable : ∀ entry ∈ operations, IsInert entry.2.1.name := by decide
  rw [operation]
  cases hlookup : operations.lookup sign.name with
  | none => decide
  | some kinds =>
    obtain ⟨l, r, hentry, -⟩ := List.lookup_eq_some_iff.1 hlookup
    exact htable (sign.name, kinds) (by simp [hentry])

/-- Nothing is seen of a value where no tokens are read. -/
lemma sight_value (h : isRead above = false) (v : Value) (index : ℕ) :
    (v.listing index).sight above = [] := by
  induction v generalizing index with
  | name x =>
    rw [Value.listing, Ident.reference, Listing.sight_node_of_inert (by decide),
      List.flatMap_singleton, Ident.listing, Listing.sight_leaf_of_unread h]
  | number n => exact Listing.sight_leaf_of_unread h _ _ _ _
  | binary left sign span right hleft hright =>
    rw [Value.listing, Listing.sight_node_of_inert (by decide)]
    simp [hleft, hright, sight_fixed_of_unread h]

/-- Nothing is seen of the sketch of a value where no tokens are read. -/
lemma sight_valueSketch (h : isRead above = false) (v : Value) (outer : List String) :
    v.sketch.sight above outer = [] := by
  induction v generalizing outer with
  | name x =>
    rw [Value.sketch, Ident.expression, Sketch.sight_node_of_inert (by decide),
      List.flatMap_singleton, Ident.sketch, Sketch.sight_token_of_unread h]
  | number n => exact Sketch.sight_token_of_unread h _ _ _ _
  | binary left sign span right hleft hright =>
    rw [Value.sketch, Sketch.sight_node_of_inert (isInert_operation sign)]
    simp [hleft, hright, sight_fixedSketch_of_unread h]

/-! ### Assignments -/

/-- An assignment as it is seen. -/
def Assignment.seen (a : Assignment) : Tree :=
  .node a.label.name [.node leftValue [a.target.seen]]

/-- The left side of an assignment is sought in it. -/
lemma isSought_leftValue (a : Assignment) (above : List String) :
    isSought (a.label.name :: above) leftValue = true :=
  isSought_cons (List.mem_append_right _ (List.mem_map_of_mem (name_assignment_label a))) above

/-- An assignment is no module. -/
lemma label_ne_module (a : Assignment) : a.label.name ≠ moduleDeclaration := by
  have htags : ∀ tag ∈ assignmentTags, tag ≠ moduleDeclaration := by decide
  exact htags _ (name_assignment_label a)

/-- Of the tokens of an assignment only those of its left side are read. -/
lemma isRead_assignment (h : isRead above = false) (a : Assignment) :
    isRead (a.label.name :: above) = false := by
  have htags : ∀ tag ∈ assignmentTags, readTags.contains tag = false := by decide
  rw [isRead] at h
  rw [isRead, List.any_cons, htags _ (name_assignment_label a), h, Bool.false_or]

lemma sight_bare (h : isRead above = false) {a : Assignment}
    (hs : isSought above a.label.name = true) (index : ℕ) :
    (a.bare index).sight above = [a.seen] := by
  have hunread := isRead_assignment h a
  have hleft := isSought_leftValue a above
  have hread : isRead ("kLPValue" :: a.label.name :: above) = true := isRead_cons (by decide) _
  -- The sign, the value and the semicolon stand in the node, but nobody reads them there.
  have hsign : (if a.blocking then fixed 1 (signTag "=") (a.marks 1)
      else .leaf 1 (classTag "TK_LE") ⟨"<=", by decide⟩ (a.marks 1)).sight
        (a.label.name :: above) = [] := by
    cases a.blocking
    · exact Listing.sight_leaf_of_unread hunread _ _ _ _
    · exact Listing.sight_leaf_of_unread hunread _ _ _ _
  rw [Assignment.bare, Listing.sight_node_of_sought hs (label_ne_module a), Assignment.parts]
  simp only [List.flatMap_cons, List.flatMap_nil, hsign, sight_value hunread,
    sight_fixed_of_unread hunread, List.append_nil]
  rw [Listing.sight_node_of_sought hleft (by decide), List.flatMap_singleton, name_label,
    sight_reference hread]
  rfl

lemma sight_assignment (h : isRead above = false) {a : Assignment}
    (hs : isSought above a.label.name = true) (index : ℕ) :
    (a.listing index).sight above = [a.seen] := by
  rw [Assignment.listing]
  cases a.condition with
  | none => exact sight_bare h hs index
  | some c =>
    simp (disch := decide) [Listing.sight_node_of_inert, sight_value h, sight_fixed_of_unread h,
      sight_bare h hs]

lemma sight_statement (h : isRead above = false) {a : Assignment}
    (hs : isSought above a.label.name = true) (hname : a.target.name.text ≠ "")
    (outer : List String) : a.statement.sight above outer = [a.seen] := by
  have hunread := isRead_assignment h a
  have hleft := isSought_leftValue a above
  have hread : isRead (leftValue :: a.label.name :: above) = true := isRead_cons (by decide) _
  have hkind : a.kind.name ∈ assignmentKinds := by
    rw [Assignment.kind]
    cases a.blocking <;> decide
  have htag : ∀ outer, translatedTag outer a.kind.name = a.label.name := by
    intro outer
    rw [Assignment.kind, Assignment.label]
    cases a.blocking <;> rfl
  have hpresent : a.target.expression.tree ≠ .absent := by
    rw [Ident.expression, Sketch.tree]
    simp
  have hsign : ∀ outer, a.sign.sight (a.label.name :: above) outer = [] := by
    intro outer
    rw [Assignment.sign]
    cases a.blocking
    · exact sight_sign_of_unread hunread _ .lessThanEquals _
    · exact sight_sign_of_unread hunread _ .equals _
  rw [Assignment.statement, Sketch.sight_node_of_inert (by decide)]
  -- Here the semicolon stands behind the node.
  simp only [List.flatMap_cons, List.flatMap_nil, sight_sign_of_unread h, List.append_nil]
  rw [Sketch.sight_assignment hkind (htag _) hs (label_ne_module a) hleft hpresent,
    sight_expression hread hname]
  simp only [List.flatMap_cons, List.flatMap_nil, hsign, sight_valueSketch hunread, List.append_nil]
  rfl

lemma sight_assignmentSketch (h : isRead above = false) {a : Assignment}
    (hs : isSought above a.label.name = true) (hname : a.target.name.text ≠ "")
    (outer : List String) : a.sketch.sight above outer = [a.seen] := by
  rw [Assignment.sketch]
  cases a.condition with
  | none => exact sight_statement h hs hname outer
  | some c =>
    simp (disch := decide) [Sketch.sight_node_of_inert, sight_valueSketch h,
      sight_sign_of_unread h, sight_word_of_unread h, sight_statement h hs hname]

/-! ### Event controls -/

/-- The edge of a term as it is seen. -/
def edgeSeen (x : Edge × Span) : Tree :=
  fixedSeen x.1.tag x.2

/-- A term of an event control as it is seen. -/
def Event.seen (e : Event) : Tree :=
  .node eventExpression ((e.edge.map edgeSeen).toList ++ [e.signal.seen])

lemma sight_event (hs : isSought above eventExpression = true) (e : Event) (index : ℕ) :
    (e.listing index).sight above = [e.seen] := by
  have hread : isRead ("kEventExpression" :: above) = true := isRead_cons (by decide) above
  rw [Event.listing, Listing.sight_node_of_sought hs (by decide), Event.parts, name_label,
    List.flatMap_append, List.flatMap_singleton, sight_reference hread, Event.seen]
  cases e.edge with
  | none => rfl
  | some x =>
    rw [Option.map_some, Option.toList_some, List.flatMap_singleton, sight_fixed hread]
    rfl

lemma sight_eventSketch (hs : isSought above eventExpression = true) {e : Event}
    (hname : e.signal.name.text ≠ "") (outer : List String) :
    e.sketch.sight above outer = [e.seen] := by
  have hread : isRead (eventExpression :: above) = true := isRead_cons (by decide) above
  have htag : translatedTag outer "SignalEventExpression" = eventExpression := rfl
  rw [Event.sketch, Sketch.sight_node_of_sought (by decide) htag hs (by decide),
    List.flatMap_append, List.flatMap_singleton, sight_expression hread hname, Event.seen]
  cases e.edge with
  | none => rfl
  | some x =>
    have hkeyword : tokenTags.lookup x.1.keyword = none := by cases x.1 <;> decide
    have hbare : IsBare x.1.tag := by cases x.1 <;> decide
    simp [edgeSeen, sight_fixedSketch hread hkeyword hbare]

/-- Of further terms between separators that are not read, the terms are seen. -/
lemma sight_eventsFrom (h : isRead above = false) (hs : isSought above eventExpression = true)
    (spans : ℕ → Span) (i : ℕ) (events : List Event) :
    (separatedFrom (orWord spans) Event.listing i events).flatMap (Listing.sight above) =
      events.map Event.seen := by
  induction events generalizing i with
  | nil => rfl
  | cons e events ih =>
    rw [separatedFrom]
    simp only [List.flatMap_cons, List.map_cons]
    rw [orWord, sight_fixed_of_unread h, sight_event hs, ih]
    rfl

lemma sight_events (h : isRead above = false) (hs : isSought above eventExpression = true)
    (spans : ℕ → Span) (events : List Event) :
    (separated (orWord spans) Event.listing events).flatMap (Listing.sight above) =
      events.map Event.seen := by
  cases events with
  | nil => rfl
  | cons e events =>
    rw [separated, List.flatMap_cons, sight_event hs, sight_eventsFrom h hs]
    rfl

/-- Of nested terms, the terms are seen one after another. -/
lemma sight_joined (h : isRead above = false) (hs : isSought above eventExpression = true)
    (spans : ℕ → Span) (i : ℕ) {e : Event} {events : List Event}
    (hnames : ∀ e' ∈ e :: events, e'.signal.name.text ≠ "") (outer : List String) :
    (joined spans i e events).sight above outer = (e :: events).map Event.seen := by
  induction events generalizing i e outer with
  | nil =>
    rw [joined]
    exact sight_eventSketch hs (hnames e List.mem_cons_self) outer
  | cons e' events ih =>
    obtain ⟨hfirst, hrest⟩ := List.forall_mem_cons.1 hnames
    rw [joined, Sketch.sight_node_of_inert (by decide)]
    simp only [List.flatMap_cons, List.flatMap_nil, sight_eventSketch hs hfirst, orSketch,
      sight_word_of_unread h, ih _ hrest, List.nil_append, List.append_nil]
    rfl

lemma sight_joinedTerms (h : isRead above = false) (hs : isSought above eventExpression = true)
    (spans : ℕ → Span) {events : List Event}
    (hnames : ∀ e ∈ events, e.signal.name.text ≠ "") (outer : List String) :
    (joinedTerms spans events).flatMap (Sketch.sight above outer) = events.map Event.seen := by
  cases events with
  | nil => rfl
  | cons e events => rw [joinedTerms, List.flatMap_singleton, sight_joined h hs spans 1 hnames]

/-! ### Blocks -/

/-- A block as it is seen. -/
def Block.seen (b : Block) : Tree :=
  .node alwaysStatement (b.terms.map Event.seen ++ b.assignments.map Assignment.seen)

/-- The names that a block waits for or assigns. -/
def Block.names (b : Block) : List Ident :=
  b.terms.map Event.signal ++ b.assignments.map Assignment.target

section Blocks

variable (h : isRead above = false) (hs : ∀ a : Assignment, isSought above a.label.name = true)

include h hs

lemma sight_body (b : Block) : b.body.sight above = b.assignments.map Assignment.seen := by
  have hnumbered : ∀ i as, (numbered Assignment.listing i as).flatMap (Listing.sight above) =
      as.map Assignment.seen := sight_numbered fun i a => sight_assignment h (hs a) i
  rw [Block.body]
  split
  · rename_i a has
    rw [has, sight_assignment h (hs a)]
    rfl
  · simp (disch := decide) [Listing.sight_node_of_inert, sight_fixed_of_unread h, hnumbered]

lemma sight_bodySketch {b : Block} (hnames : ∀ a ∈ b.assignments, a.target.name.text ≠ "")
    (outer : List String) :
    b.bodySketch.sight above outer = b.assignments.map Assignment.seen := by
  have hlist : ∀ outer, (b.assignments.map Assignment.sketch).flatMap (Sketch.sight above outer) =
      b.assignments.map Assignment.seen := fun outer =>
    sight_map fun a ha => sight_assignmentSketch h (hs a) (hnames a ha) outer
  rw [Block.bodySketch]
  split
  · rename_i a has
    rw [has] at hnames ⊢
    exact sight_assignmentSketch h (hs a) (hnames a List.mem_cons_self) outer
  · simp (disch := decide) [Sketch.sight_node_of_inert, sight_word_of_unread h, hlist]

end Blocks

/-- Only the tokens below further nodes are read in a block. -/
lemma isRead_block (above : List String) : isRead (alwaysStatement :: above) = isRead above := by
  rw [isRead, List.any_cons, ← isRead]
  rfl

lemma isSought_assignment (a : Assignment) (above : List String) :
    isSought (alwaysStatement :: above) a.label.name = true := by
  refine isSought_cons (List.mem_append_left _ (List.mem_append_right _ ?_)) above
  exact List.mem_map_of_mem (name_assignment_label a)

lemma sight_block (h : isRead above = false) (hs : isSought above alwaysStatement = true)
    (b : Block) (index : ℕ) : (b.listing index).sight above = [b.seen] := by
  have hunread : isRead ("kAlwaysStatement" :: above) = false := (isRead_block above).trans h
  have hevent : isSought ("kAlwaysStatement" :: above) eventExpression = true :=
    isSought_cons (by decide) above
  have hbody := sight_body hunread (isSought_assignment · above) b
  rw [Block.listing, Listing.sight_node_of_sought hs (by decide), Block.parts, name_label,
    Block.seen, Block.terms]
  cases b.events with
  | none => simp [sight_fixed_of_unread hunread, hbody, alwaysStatement]
  | some events =>
    simp (disch := decide) [Listing.sight_node_of_inert, Block.control,
      sight_fixed_of_unread hunread, sight_events hunread hevent, hbody, alwaysStatement]

lemma sight_blockSketch (h : isRead above = false) (hs : isSought above alwaysStatement = true)
    {b : Block} (hnames : ∀ x ∈ b.names, x.name.text ≠ "") (outer : List String) :
    b.sketch.sight above outer = [b.seen] := by
  have hunread : isRead (alwaysStatement :: above) = false := (isRead_block above).trans h
  have hevent : isSought (alwaysStatement :: above) eventExpression = true :=
    isSought_cons (by decide) above
  have hsignals : ∀ e ∈ b.terms, e.signal.name.text ≠ "" := fun e he =>
    hnames e.signal (List.mem_append_left _ (List.mem_map_of_mem he))
  have htargets : ∀ a ∈ b.assignments, a.target.name.text ≠ "" := fun a ha =>
    hnames a.target (List.mem_append_right _ (List.mem_map_of_mem ha))
  have hbody := sight_bodySketch hunread (isSought_assignment · above) htargets
  have hkind : assignmentKinds.contains b.word.kinds.1.name = false := by cases b.word <;> decide
  have htag : translatedTag outer b.word.kinds.1.name = alwaysStatement := by
    cases b.word <;> rfl
  rw [Block.sketch, Sketch.sight_node_of_sought hkind htag hs (by decide), Block.statement,
    Block.seen]
  rw [Block.terms] at hsignals ⊢
  cases hevents : b.events with
  | none => simp [sight_fixedSketch_of_unread hunread, hbody]
  | some events =>
    rw [hevents, Option.getD_some] at hsignals
    simp (disch := decide) [Sketch.sight_node_of_inert, Block.controlSketch,
      sight_sign_of_unread hunread, sight_fixedSketch_of_unread hunread,
      sight_joinedTerms hunread hevent _ hsignals, hbody]

/-! ### Modules -/

/-- The names that a part of a module declares, waits for or assigns. -/
def Item.names : Item → List Ident
  | .data d => d.names
  | .block b => b.names

/-- The names in a module: its own, those of its ports, and those in its parts. -/
def Module.names (m : Module) : List Ident :=
  m.name :: (m.ports.map Port.name ++ m.items.flatMap Item.names)

/-- A part of a module as it is seen. -/
def Item.seen (above : List String) : Item → Tree
  | .data d => d.seen above
  | .block b => b.seen

/-- Below a module, data declarations and blocks are sought, and no tokens are read. -/
def InModule (above : List String) : Prop :=
  isRead above = false ∧ isSought above dataDeclaration = true ∧
    isSought above alwaysStatement = true

lemma sight_item (h : InModule above) (x : Item) (index : ℕ) :
    (x.listing index).sight above = [x.seen above] := by
  obtain ⟨hunread, hdata, hblock⟩ := h
  cases x with
  | data d => exact sight_data hdata d index
  | block b => exact sight_block hunread hblock b index

lemma sight_itemSketch (h : InModule above) (houter : flagBelow outer = false) {x : Item}
    (hnames : ∀ y ∈ x.names, y.name.text ≠ "") :
    x.sketch.sight above outer = [x.seen above] := by
  obtain ⟨hunread, hdata, hblock⟩ := h
  cases x with
  | data d => exact sight_dataSketch hdata houter hnames
  | block b => exact sight_blockSketch hunread hblock hnames outer

/-- The ports of a module as they are seen. -/
def Module.portsSeen (m : Module) (above : List String) : List Tree :=
  (separated (comma m.commas) Port.listing m.ports).flatMap (Listing.sight above)

/-- The parts of the header of a module as they are seen. -/
def Module.headerSeen (m : Module) (above : List String) : List Tree :=
  fixedSeen Word.moduleStart.tag m.opening :: m.name.seen ::
    fixedSeen Sign.openParenthesis.tag (m.marks 0) ::
      (m.portsSeen above ++
        [fixedSeen Sign.closeParenthesis.tag (m.marks 1), fixedSeen Sign.semicolon.tag (m.marks 2)])

/-- A module as it is seen. -/
def Module.seen (m : Module) (above : List String) : Tree :=
  .node moduleDeclaration (
    .node moduleHeader (m.headerSeen (moduleHeader :: moduleDeclaration :: above)) ::
      m.items.map (Item.seen (moduleDeclaration :: above)))

lemma sight_header (h : isRead above = true) (m : Module) :
    m.headerParts.flatMap (Listing.sight above) = m.headerSeen above := by
  simp (disch := decide) [Module.headerParts, Listing.sight_node_of_inert, sight_fixed h,
    sight_ident h, Module.headerSeen, Module.portsSeen, Sign.tag, Word.tag]

lemma sight_ports (h : isRead above = true) (hs : isSought above portDeclaration = true)
    (hvariable : isSought (portDeclaration :: above) registerVariable = false)
    (houter : flagBelow outer = false) {m : Module}
    (hnames : ∀ p ∈ m.ports, p.name.name.text ≠ "") :
    (Sketch.separated (commaSketch m.commas) Port.sketch m.ports).flatMap
      (Sketch.sight above outer) = m.portsSeen above := by
  refine sight_separated (sight_comma h outer m.commas) fun p hp i => ?_
  rw [sight_portSketch hs hvariable houter (hnames p hp), sight_port hs]

lemma sight_headerSketches (h : isRead above = true) (hs : isSought above portDeclaration = true)
    (hvariable : isSought (portDeclaration :: above) registerVariable = false)
    (houter : flagBelow outer = false) {m : Module} (hname : m.name.name.text ≠ "")
    (hnames : ∀ p ∈ m.ports, p.name.name.text ≠ "") :
    m.headerSketches.flatMap (Sketch.sight above outer) = m.headerSeen above := by
  have hlist : flagBelow ("SeparatedList" :: "AnsiPortList" :: outer) = false :=
    flagBelow_cons (flagBelow_cons houter (by decide)) (by decide)
  simp (disch := decide) [Module.headerSketches, Sketch.sight_node_of_inert,
    sight_sign h, sight_word h, sight_identSketch h hname, sight_ports h hs hvariable hlist hnames,
    Module.headerSeen]

/-! ### The two trees of a design -/

/-- The tags above the modules of a design. -/
def unitTags : List String := ["kDescriptionList"]

lemma inModule_unitTags : InModule (moduleDeclaration :: unitTags) := by
  refine ⟨?_, ?_, ?_⟩ <;> decide

/-- A module that starts with its header is seen with what is seen of the header and of the parts
behind it: the header has tokens, so the first token of the module is not among these parts. -/
lemma view_module {parts rest partsSeen restSeen : List Tree} {first : Leaf}
    (hparts : viewAll (moduleHeader :: moduleDeclaration :: unitTags) false parts =
      .leaf first :: partsSeen)
    (hrest : viewAll (moduleDeclaration :: unitTags) false rest = restSeen) :
    view unitTags false (.node moduleDeclaration (.node moduleHeader parts :: rest)) =
      [.node moduleDeclaration (.node moduleHeader (.leaf first :: partsSeen) :: restSeen)] := by
  have hread : isRead (moduleHeader :: moduleDeclaration :: unitTags) = true := by decide
  have hmodule : isSought unitTags moduleDeclaration = true := by decide
  have hheader : isSought (moduleDeclaration :: unitTags) moduleHeader = true := by decide
  -- Behind the header the flag no longer holds, since the header is not empty.
  have hleaves : (Tree.node moduleHeader parts).leaves.isEmpty = false := by
    rw [Tree.leaves_node, List.isEmpty_eq_false_iff]
    intro hempty
    have hseen := leaves_viewAll hread false parts
    rw [hparts, hempty, List.flatMap_cons, Tree.leaves_leaf] at hseen
    cases hseen
  rw [view, if_pos hmodule, viewAll, view, if_pos hheader, hleaves, Bool.and_false, hrest,
    viewAll_of_isRead hread, hparts]
  rfl

/-- **A module is seen in the dump of a syntax tool.** -/
lemma sight_module (m : Module) (index : ℕ) :
    (m.listing index).sight unitTags = [m.seen unitTags] := by
  have hheader : isRead (moduleHeader :: moduleDeclaration :: unitTags) = true := by decide
  have hitems := sight_numbered fun i x => sight_item inModule_unitTags x i
  rw [Module.listing, Listing.sight, Listing.tree, Module.parts, Listing.trees, Listing.tree]
  refine view_module ((Listing.viewAll_trees _ m.headerParts).trans (sight_header hheader m)) ?_
  rw [Listing.viewAll_trees]
  simp (disch := decide) [Listing.sight_node_of_inert, hitems,
    sight_fixed_of_unread inModule_unitTags.1]

/-- **A module is seen the same in the syntax tree of the slang front end.** -/
lemma sight_moduleSketch {m : Module} (hnames : ∀ x ∈ m.names, x.name.text ≠ "") :
    m.sketch.sight unitTags ["CompilationUnit"] = [m.seen unitTags] := by
  -- The name of a port is a declarator as well, but below a port no variables are sought.
  have hvariable : isSought (portDeclaration :: moduleHeader :: moduleDeclaration :: unitTags)
      registerVariable = false := by decide
  have hports : ∀ p ∈ m.ports, p.name.name.text ≠ "" := fun p hp => hnames p.name
    (List.mem_cons_of_mem _ (List.mem_append_left _ (List.mem_map_of_mem hp)))
  have hitems : ∀ x ∈ m.items, ∀ y ∈ x.names, y.name.text ≠ "" := fun x hx y hy => hnames y
    (List.mem_cons_of_mem _ (List.mem_append_right _ (List.mem_flatMap.2 ⟨x, hx, hy⟩)))
  rw [Module.sketch, Sketch.sight_node (by decide), Sketch.trees, List.flatMap_cons,
    Sketch.translated_node (by decide), List.singleton_append]
  refine view_module ((Sketch.viewAll_translated _ _ m.headerSketches).trans
    (sight_headerSketches (by decide) (by decide) hvariable (by decide)
      (hnames m.name List.mem_cons_self) hports)) ?_
  rw [Sketch.viewAll_translated, List.flatMap_append, List.flatMap_singleton,
    sight_word_of_unread inModule_unitTags.1, List.append_nil]
  exact sight_map fun x hx => sight_itemSketch inModule_unitTags (by decide) (hitems x hx)

/-- The tree in the dump of a syntax tool. -/
def dumpedTree (modules : List Module) : Node :=
  ⟨"kDescriptionList", Listing.trees (numbered Module.listing 0 modules)⟩

/-- The tree in the dump of the syntax tree of the slang front end. -/
def renderedTree (modules : List Module) (ending : ℕ) : Node :=
  translation "CompilationUnit" (Sketch.trees (unitSketches modules ending))

/-- What is seen of the first tree. -/
lemma view_dumpedTree (modules : List Module) : (dumpedTree modules).view [] false =
    ⟨"kDescriptionList", modules.map (Module.seen · unitTags)⟩ := by
  have hmodules := sight_numbered (fun i m => sight_module m i) 0 modules
  rw [← hmodules, ← Listing.viewAll_trees]
  rfl

/-- What is seen of the second tree. -/
lemma view_renderedTree {modules : List Module}
    (hnames : ∀ m ∈ modules, ∀ x ∈ m.names, x.name.text ≠ "") (ending : ℕ) :
    (renderedTree modules ending).view [] false =
      ⟨"kDescriptionList", modules.map (Module.seen · unitTags)⟩ := by
  have hunread : isRead unitTags = false := by decide
  have hmodules : (unitSketches modules ending).flatMap
      (Sketch.sight unitTags ["CompilationUnit"]) = modules.map (Module.seen · unitTags) := by
    rw [unitSketches, List.flatMap_append, List.flatMap_singleton,
      Sketch.sight_token_of_unread hunread, List.append_nil]
    exact sight_map fun m hm => sight_moduleSketch (hnames m hm)
  rw [← hmodules, ← Sketch.viewAll_translated, ← translatedParts_false]
  rfl

/-- The analysis of the dump of a syntax tool. -/
lemma value_analyzeDump_dump (modules : List Module) (source : List UInt8) (file : String) :
    (analyzeDump (dump modules) source file).value =
      .ok (inventoryOf (dumpedTree modules) source file).value := by
  have hparse : Dump.parseStandard (dump modules) = .ok (dumpedTree modules) :=
    parse_dumpOf (by decide) 0 (label "kDescriptionList") _
  rw [analyzeDump, hparse]
  rfl

/-- **The analysis cannot tell the two trees of a design apart.** The two trees have the same tokens
at the same offsets, if the empty token at the end of the source is left out. If names have a text
and offsets can be written, the syntax tree can be printed, and the analysis of this dump succeeds
with the same result as that of the dump of a syntax tool, whatever the source and its path.

**Proof sketch.** One dump is parsed as the translation of the syntax tree (`parse_render`), the
other as the tree of the listing (`parse_dumpOf`). Construct by construct, the same is seen of both
trees (`view_renderedTree`, `view_dumpedTree`): the nodes that stand only in one of them are not
sought where they stand, and where the order of tokens and ends of nodes differs, no tokens are
read. What is seen of a tree has the inventory of the tree (`value_inventoryOf_view`). -/
theorem analyzeDump_render (modules : List Module) (ending : ℕ)
    (hnames : ∀ m ∈ modules, ∀ x ∈ m.names, x.name.text ≠ "")
    (hoffsets : ∀ t ∈ tokens (syntaxTree modules ending), t.IsShown → t.OffsetsFit) :
    (tokens (syntaxTree modules ending)).map Token.spelling =
        (dumpedTree modules).leaves.map Leaf.spelling ++ [("", (ending : ℤ))] ∧
      ∃ printed, render 2 (syntaxTree modules ending) = .ok printed ∧
        ∀ source file, ∃ result,
          (analyzeDump printed source file).value = .ok result ∧
            (analyzeDump (dump modules) source file).value = .ok result := by
  have htokens := spelling_tokens_syntaxTree modules ending
  rw [← Listing.leaves_trees "kDescriptionList", ← dumpedTree] at htokens
  refine ⟨htokens, ?_⟩
  have hprintable := Sketch.printable_tree
    (.node (label "CompilationUnit") (unitSketches modules ending))
  rw [syntaxTree, Sketch.tree] at hoffsets ⊢
  rw [Sketch.tree] at hprintable
  obtain ⟨hrender, hread⟩ := parse_render (w := 2) (by decide) hprintable
  obtain ⟨printed, hprinted⟩ := hrender.2 hoffsets
  have hparse : Dump.parseStandard printed = .ok (renderedTree modules ending) :=
    hread printed hprinted
  have hview : (renderedTree modules ending).view [] false = (dumpedTree modules).view [] false :=
    (view_renderedTree hnames ending).trans (view_dumpedTree modules).symm
  refine ⟨printed, hprinted, fun source file => ?_⟩
  -- the analysis sees the views of the trees only, and these are the same
  have hsame : (inventoryOf (renderedTree modules ending) source file).value =
      (inventoryOf (dumpedTree modules) source file).value := by
    rw [← value_inventoryOf_view [] false (renderedTree modules ending), hview,
      value_inventoryOf_view]
  refine ⟨_, ?_, value_analyzeDump_dump modules source file⟩
  rw [analyzeDump, hparse, ← hsame]
  rfl

/-! ### A clocked register -/

/-- Small numbers can be written. -/
lemma decimal_short : ∀ n : Fin 200, (Numeral.decimal n).length ≤ Numeral.digitLimit := by
  decide +kernel

/-- The bytes of a token near the start of a source. -/
def shortSpan (start length : Fin 100) : Span where
  start := start
  stop := start + length
  start_fits := decimal_short ⟨start, by omega⟩
  stop_fits := decimal_short ⟨start + length, by omega⟩

/-- The bytes of some fixed tokens, by position. -/
def shortSpans (spans : List (Fin 100 × Fin 100)) (index : ℕ) : Span :=
  let span := spans.getD index (0, 0)
  shortSpan span.1 span.2

/-- The design `module m(input clk); reg [7:0] q; always_ff @(posedge clk) q <= 1; endmodule`. -/
def clockedDesign : Module where
  opening := shortSpan 0 6
  name := ⟨⟨"m", by decide, by decide⟩, shortSpan 7 1⟩
  ports := [{
    direction := .input
    directionSpan := shortSpan 9 5
    kind := none
    range := none
    name := ⟨⟨"clk", by decide, by decide⟩, shortSpan 15 3⟩ }]
  items := [
    .data {
      kind := .reg
      range := some {
        msb := ⟨7, by decide +kernel, shortSpan 26 1⟩
        lsb := ⟨0, by decide +kernel, shortSpan 28 1⟩
        marks := shortSpans [(25, 1), (0, 0), (27, 1), (0, 0), (29, 1)] }
      names := [⟨⟨"q", by decide, by decide⟩, shortSpan 31 1⟩]
      commas := shortSpans []
      marks := shortSpans [(21, 3), (0, 0), (0, 0), (32, 1)] },
    .block {
      word := .alwaysFf
      events := some [{
        edge := some (.posedge, shortSpan 46 7)
        signal := ⟨⟨"clk", by decide, by decide⟩, shortSpan 54 3⟩ }]
      assignments := [{
        condition := none
        blocking := false
        target := ⟨⟨"q", by decide, by decide⟩, shortSpan 59 1⟩
        value := .number ⟨1, by decide +kernel, shortSpan 64 1⟩
        marks := shortSpans [(0, 0), (61, 2), (0, 0), (65, 1)] }]
      separators := shortSpans []
      marks := shortSpans [(34, 9), (44, 1), (45, 1), (57, 1)] }]
  commas := shortSpans []
  marks := shortSpans [(8, 1), (18, 1), (19, 1), (67, 9)]

/-- From both dumps of the design the analysis yields its register. -/
theorem analyzeDump_render_clockedDesign :
    (∀ m ∈ [clockedDesign], ∀ x ∈ m.names, x.name.text ≠ "") ∧
      (∀ t ∈ tokens (syntaxTree [clockedDesign] 76), t.IsShown → t.OffsetsFit) ∧
      ∃ printed, render 2 (syntaxTree [clockedDesign] 76) = .ok printed ∧
        (analyzeDump printed [] "m.sv").value = .ok {
          registers := [⟨"q", 8, 1, "m", "m.sv", .flipFlop, some "clk", none⟩]
          modules := [⟨"m", "m.sv", 1, 1⟩]
          failures := [] } := by
  have hnames : ∀ m ∈ [clockedDesign], ∀ x ∈ m.names, x.name.text ≠ "" := by decide
  have hoffsets : ∀ t ∈ tokens (syntaxTree [clockedDesign] 76), t.IsShown → t.OffsetsFit := by
    decide +kernel
  obtain ⟨-, printed, hprinted, hsame⟩ := analyzeDump_render [clockedDesign] 76 hnames hoffsets
  obtain ⟨result, hrendered, hdumped⟩ := hsame [] "m.sv"
  rw [value_analyzeDump_dump] at hdumped
  refine ⟨hnames, hoffsets, printed, hprinted, ?_⟩
  rw [hrendered, ← hdumped]
  decide +kernel

end Description

end FlopCensus
