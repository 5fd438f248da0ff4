import FlopCensus.Design.Extraction
import FlopCensus.Proofs.Design.Description
import FlopCensus.Proofs.Design.Roles
import Mathlib.Data.List.Basic
import Mathlib.Tactic.Common

set_option autoImplicit false
set_option relaxedAutoImplicit false

/-!
# Searching described declarations and blocks

The analysis searches a tree for nodes with certain tags and for certain tokens below them. Here is
what each search finds in the declarations and blocks of a description: in each of them exactly its
own parts.

## Main definitions

* `FlopCensus.Description.Data.node`, `FlopCensus.Description.Port.node`,
  `FlopCensus.Description.Block.node` — the subtrees of declarations, ports and blocks.
* `FlopCensus.Description.declaredAt` — the register that a variable declares.

## Main results

* `FlopCensus.Description.resolveWidth_range` — the width of a range.
* `FlopCensus.Description.value_ofData`, `FlopCensus.Description.value_ofPort` — the registers of a
  data declaration and of a port.
* `FlopCensus.Description.found_block` — a search in a block finds what it finds in its terms and
  assignments.
* `FlopCensus.Description.edgeSignals_block` — the signals that a block waits for.
* `FlopCensus.Description.contains_assignedIn_block` — the names that a block assigns.

## Design

Searches go by tag. For each construct a list gives the tags that occur below it, and the lemmas
`lacks_…` say that it has no nodes with any other tag.
-/

namespace FlopCensus.Description

open Dump Dump.Listing

/-! ### Lists of parts -/

section Lists

variable {α : Type} {sep : ℕ → Listing} {item : ℕ → α → Listing} {wanted : String}

/-- The nodes found in numbered parts are those found in the parts. -/
lemma found_numbered {g : α → List Node}
    (h : ∀ i a, (item i a).tree.nodesTagged wanted = g a) (i : ℕ) (as : List α) :
    found wanted (numbered item i as) = as.flatMap g := by
  induction as generalizing i with
  | nil => rw [numbered, found_nil, List.flatMap_nil]
  | cons a as ih => rw [numbered, found_cons, h, ih, List.flatMap_cons]

/-- The nodes found in further parts between separators. -/
lemma found_separatedFrom {g : α → List Node} (hsep : ∀ i, (sep i).Lacks wanted)
    (h : ∀ i a, (item i a).tree.nodesTagged wanted = g a) (i : ℕ) (as : List α) :
    found wanted (separatedFrom sep item i as) = as.flatMap g := by
  induction as generalizing i with
  | nil => rw [separatedFrom, found_nil, List.flatMap_nil]
  | cons a as ih =>
    rw [separatedFrom, found_cons_of_lacks (hsep i), found_cons, h, ih, List.flatMap_cons]

/-- The nodes found in parts between separators are those found in the parts. -/
lemma found_separated {g : α → List Node} (hsep : ∀ i, (sep i).Lacks wanted)
    (h : ∀ i a, (item i a).tree.nodesTagged wanted = g a) (as : List α) :
    found wanted (separated sep item as) = as.flatMap g := by
  cases as with
  | nil => rw [separated, found_nil, List.flatMap_nil]
  | cons a as =>
    rw [separated, found_cons, h, found_separatedFrom hsep h, List.flatMap_cons]

/-- Parts between separators lack a tag if the parts do. -/
lemma lacks_separated (hsep : ∀ i, (sep i).Lacks wanted) (h : ∀ i a, (item i a).Lacks wanted)
    (as : List α) : ∀ t ∈ separated sep item as, t.Lacks wanted := by
  have hfrom : ∀ (bs : List α) i, ∀ t ∈ separatedFrom sep item i bs, t.Lacks wanted := by
    intro bs
    induction bs with
    | nil => exact fun i t ht => absurd ht List.not_mem_nil
    | cons b bs ih =>
      exact fun i => List.forall_mem_cons.2
        ⟨hsep i, List.forall_mem_cons.2 ⟨h (i + 1) b, ih (i + 2)⟩⟩
  cases as with
  | nil => exact fun t ht => absurd ht List.not_mem_nil
  | cons a as => exact List.forall_mem_cons.2 ⟨h 0 a, hfrom as 1⟩

end Lists

/-! ### What constructs lack -/

section Lacks

variable {wanted : String}

@[simp] lemma lacks_fixed (index : ℕ) (tag : Tag) (span : Span) :
    (fixed index tag span).Lacks wanted :=
  lacks_leaf _ _ _ _ _

@[simp] lemma lacks_ident (index : ℕ) (x : Ident) : (x.listing index).Lacks wanted :=
  lacks_leaf _ _ _ _ _

@[simp] lemma lacks_natural (index : ℕ) (n : Natural) : (n.listing index).Lacks wanted :=
  lacks_leaf _ _ _ _ _

@[simp] lemma lacks_comma (spans : ℕ → Span) (index : ℕ) : (comma spans index).Lacks wanted :=
  lacks_fixed _ _ _

@[simp] lemma lacks_orWord (spans : ℕ → Span) (index : ℕ) : (orWord spans index).Lacks wanted :=
  lacks_fixed _ _ _

@[simp] lemma name_label (name : String) (h : Text.isWord name.toList = true) :
    (label name h).name = name := rfl

/-- The tags in a data type. -/
def typeLabels : List String :=
  ["kDataTypePrimitive", "kPackedDimensions", "kDeclarationDimensions", "kDimensionRange"]

/-- The parts of a data type lack all other tags. -/
lemma lacks_typeParts (h : wanted ∉ typeLabels) (kind : Option (Kind × Span))
    (range : Option Range) : ∀ t ∈ typeParts kind range, t.Lacks wanted := by
  simp only [typeLabels, List.mem_cons, List.not_mem_nil, or_false, not_or] at h
  cases kind <;> cases range <;> simp [typeParts, Range.listing, Range.parts, h]

/-- The tags in the parts of a port. -/
def portLabels : List String :=
  ["kDataType", "kUnqualifiedId"] ++ typeLabels

/-- The parts of a port lack all other tags. -/
lemma lacks_port_parts (h : wanted ∉ portLabels) (p : Port) : ∀ t ∈ p.parts, t.Lacks wanted := by
  rw [portLabels, List.mem_append, not_or] at h
  have htype := lacks_typeParts h.2 p.kind p.range
  have hport := h.1
  simp only [List.mem_cons, List.not_mem_nil, or_false, not_or] at hport
  have hdata : ∀ t ∈ p.dataType, t.Lacks wanted := by
    rw [Port.dataType]
    cases hparts : typeParts p.kind p.range with
    | nil => simp
    | cons t ts =>
      rw [hparts] at htype
      simpa [hport] using htype
  rw [Port.parts]
  simpa [hport, or_imp, forall_and] using hdata

/-- A port lacks all tags but its own and those in its parts. -/
lemma lacks_port (hself : wanted ≠ "kPortDeclaration") (h : wanted ∉ portLabels) (index : ℕ)
    (p : Port) : (p.listing index).Lacks wanted :=
  (lacks_node _ _ _ _).2 ⟨hself, lacks_port_parts h p⟩

/-- The tags in the parts of a data declaration. -/
def dataLabels : List String :=
  ["kInstantiationType", "kDataType", "kGateInstanceRegisterVariableList", "kRegisterVariable"] ++
    typeLabels

/-- The parts of a data declaration lack all other tags. -/
lemma lacks_data_parts (h : wanted ∉ dataLabels) (d : Data) : ∀ t ∈ d.parts, t.Lacks wanted := by
  rw [dataLabels, List.mem_append, not_or] at h
  have htype := lacks_typeParts h.2 (some (.storage d.kind, d.marks 0)) d.range
  have hdata := h.1
  simp only [List.mem_cons, List.not_mem_nil, or_false, not_or] at hdata
  have hnames : ∀ t ∈ separated (comma d.commas) variableListing d.names, t.Lacks wanted :=
    lacks_separated (lacks_comma d.commas) (fun i x => by simp [variableListing, hdata]) d.names
  rw [Data.parts]
  simpa [hdata] using ⟨htype, hnames⟩

/-- A data declaration lacks all tags but its own and those in its parts. -/
lemma lacks_data (hself : wanted ≠ "kDataDeclaration") (h : wanted ∉ dataLabels) (index : ℕ)
    (d : Data) : (d.listing index).Lacks wanted :=
  (lacks_node _ _ _ _).2 ⟨hself, lacks_data_parts h d⟩

/-- The tags in a value. -/
def valueLabels : List String :=
  ["kReference", "kBinaryExpression"]

/-- A reference lacks all other tags. -/
lemma lacks_reference (h : wanted ≠ "kReference") (index : ℕ) (x : Ident) :
    (x.reference index).Lacks wanted := by
  simp [Ident.reference, h]

/-- A value lacks all other tags. -/
lemma lacks_value (h : wanted ∉ valueLabels) (index : ℕ) (v : Value) :
    (v.listing index).Lacks wanted := by
  simp only [valueLabels, List.mem_cons, List.not_mem_nil, or_false, not_or] at h
  induction v generalizing index with
  | name x => exact lacks_reference h.1 index x
  | number n => exact lacks_natural index n
  | binary left sign span right hleft hright => simp [Value.listing, h, hleft, hright]

/-- The tags in an assignment. -/
def assignmentLabels : List String :=
  ["kBlockingAssignmentStatement", "kNonblockingAssignmentStatement", "kLPValue",
    "kConditionalStatement", "kIfClause", "kIfHeader", "kParenGroup", "kIfBody"] ++ valueLabels

/-- The parts of an assignment lack all tags but that of the left side and those of values. -/
lemma lacks_assignment_parts (h : wanted ∉ valueLabels) (hleft : wanted ≠ "kLPValue")
    (a : Assignment) : ∀ t ∈ a.parts, t.Lacks wanted := by
  have hreference : wanted ≠ "kReference" := fun he => h (by simp [he, valueLabels])
  have hvalue := lacks_value h 2 a.value
  have htarget := lacks_reference hreference 0 a.target
  rw [Assignment.parts]
  cases a.blocking <;> simp [hleft, hvalue, htarget]

/-- An assignment lacks all other tags. -/
lemma lacks_assignment (h : wanted ∉ assignmentLabels) (index : ℕ) (a : Assignment) :
    (a.listing index).Lacks wanted := by
  rw [assignmentLabels, List.mem_append, not_or] at h
  have hlabels := h.1
  simp only [List.mem_cons, List.not_mem_nil, or_false, not_or] at hlabels
  have hparts := lacks_assignment_parts h.2 hlabels.2.2.1 a
  have hbare : ∀ i, (a.bare i).Lacks wanted := by
    intro i
    rw [Assignment.bare, lacks_node, Assignment.label]
    cases a.blocking
    · exact ⟨hlabels.2.1, hparts⟩
    · exact ⟨hlabels.1, hparts⟩
  rw [Assignment.listing]
  cases a.condition with
  | none => exact hbare index
  | some c =>
    have hcondition := lacks_value h.2 1 c
    simp [hlabels, hbare, hcondition]

end Lacks

/-! ### Widths -/

/-- No number is a reserved word. -/
lemma natText_not_reserved (n : ℕ) : Numeral.natText n ∉ reservedWords := by
  have hwords : ∀ word ∈ reservedWords, word.toList.all Text.isDigit = false := by decide
  intro hmem
  have hall : (Numeral.natText n).toList.all Text.isDigit = true := by
    rw [Numeral.natText, String.toList_ofList, List.all_eq_true]
    exact Numeral.isDigit_of_mem_decimal n
  rw [hwords _ hmem] at hall
  cases hall

/-- The tokens of a range. -/
def Range.leaves (r : Range) : List Leaf := [
  ⟨"[", "[", (r.marks 0).start, (r.marks 0).stop⟩,
  ⟨"TK_DecNumber", Numeral.natText r.msb.value, r.msb.span.start, r.msb.span.stop⟩,
  ⟨":", ":", (r.marks 2).start, (r.marks 2).stop⟩,
  ⟨"TK_DecNumber", Numeral.natText r.lsb.value, r.lsb.span.start, r.lsb.span.stop⟩,
  ⟨"]", "]", (r.marks 4).start, (r.marks 4).stop⟩]

/-- The packed dimensions of a range. -/
def Range.node (r : Range) : Node :=
  ⟨"kPackedDimensions", trees r.parts⟩

/-- The tokens below the packed dimensions of a range are those of the range. -/
lemma leaves_range (r : Range) : r.node.leaves = r.leaves := by
  rw [Range.node, leaves_trees]
  simp [Range.parts, Range.leaves, fixed, signTag, classTag, Natural.listing]

/-- **The width of literal packed dimensions** is that of the range. -/
theorem resolveWidth_range (r : Range) : Design.resolveWidth r.node = .ok r.width := by
  have hnumeric : r.leaves.filter Design.isNumeric = [
      ⟨"TK_DecNumber", Numeral.natText r.msb.value, r.msb.span.start, r.msb.span.stop⟩,
      ⟨"TK_DecNumber", Numeral.natText r.lsb.value, r.lsb.span.start, r.lsb.span.stop⟩] := by
    simp [Range.leaves, Design.isNumeric, Text.opensWith, Design.numericMark]
  rw [Design.resolveWidth, leaves_range, hnumeric]
  simp only [Design.literal, Numeral.read_natText r.msb.fits, Numeral.read_natText r.lsb.fits]
  rfl

/-- The packed dimensions in a data type. -/
lemma found_packedDimensions_typeParts (kind : Option (Kind × Span)) (range : Option Range) :
    found "kPackedDimensions" (typeParts kind range) = (range.map Range.node).toList := by
  have hrange : ∀ r : Range, found "kPackedDimensions" [r.listing 3] = [r.node] := by
    intro r
    rw [found_cons, found_nil, List.append_nil, Range.listing]
    exact nodesTagged_tree_of_lacks rfl (by simp [Range.parts]) 3
  have hkind : ∀ k : Kind × Span, (Listing.node 1 (label "kDataTypePrimitive")
      [fixed 0 k.1.tag k.2]).Lacks "kPackedDimensions" := by
    intro k
    simp
  cases kind with
  | none =>
    cases range with
    | none => simp [typeParts]
    | some r => exact hrange r
  | some k =>
    cases range with
    | none => exact found_eq_nil (by simp [typeParts])
    | some r => exact (found_cons_of_lacks (hkind k) _).trans (hrange r)

/-- The width of a declaration whose first packed dimensions are those of a data type. -/
lemma value_declaredWidth {declaration : Node} {range : Option Range}
    (h : declaration.firstTagged? Design.packedDimensions = range.map Range.node) :
    (Design.declaredWidth declaration).value = widthOf range := by
  rw [Design.declaredWidth, h]
  cases range with
  | none => rfl
  | some r =>
    simp only [Option.map_some, resolveWidth_range]
    rfl

/-! ### Data types -/

/-- The token of a kind. -/
def kindLeaf (k : Kind × Span) : Leaf :=
  ⟨k.1.tag.name, k.1.tag.name, k.2.start, k.2.stop⟩

/-- The tokens of a data type are its kind and its range. -/
lemma leavesOf_typeParts (kind : Option (Kind × Span)) (range : Option Range) :
    leavesOf (typeParts kind range) =
      (kind.map kindLeaf).toList ++ (range.map Range.leaves).getD [] := by
  have hrange : ∀ r : Range, (r.listing 3).tree.leaves = r.leaves := by
    intro r
    rw [← leaves_range, Range.node, leaves_trees, Range.listing, leaves_tree_node]
  cases kind <;> cases range <;> simp [typeParts, kindLeaf, fixed, hrange]

/-- No token of a range is an identifier or a reserved word. -/
lemma of_mem_range_leaves {range : Option Range} :
    ∀ l ∈ (range.map Range.leaves).getD [],
      Design.isIdentifier l = false ∧ l.text ∉ reservedWords := by
  cases range with
  | none => exact fun l hl => absurd hl List.not_mem_nil
  | some r =>
    have hsign : ∀ text ∈ ["[", ":", "]"], (text == Design.identifier) = false ∧
        text ∉ reservedWords := by decide
    simp only [Option.map_some, Option.getD_some, Range.leaves, List.forall_mem_cons,
      Design.isIdentifier]
    refine ⟨hsign _ (by simp), ⟨rfl, natText_not_reserved _⟩, hsign _ (by simp),
      ⟨rfl, natText_not_reserved _⟩, hsign _ (by simp), by simp⟩

/-- The word for a kind is one of the words for kinds. -/
lemma name_kind_mem (k : Kind) : k.tag.name ∈ Design.storageKinds := by
  rcases k with _ | (_ | _) <;> decide

/-! ### Declared variables -/

/-- The token of a name. -/
def Ident.leaf (x : Ident) : Leaf :=
  ⟨"SymbolIdentifier", x.name.text, x.span.start, x.span.stop⟩

/-- The token of a name is the only one of its listing. -/
@[simp] lemma leaves_ident (index : ℕ) (x : Ident) : (x.listing index).tree.leaves = [x.leaf] :=
  leaves_tree_leaf _ _ _ _

/-- The token of a name is an identifier. -/
@[simp] lemma isIdentifier_leaf (x : Ident) : Design.isIdentifier x.leaf = true := rfl

/-- A name is none of some reserved words. -/
lemma Name.not_mem (x : Name) {words : List String} (h : ∀ word ∈ words, word ∈ reservedWords) :
    x.text ∉ words :=
  fun hmem => x.not_reserved (h _ hmem)

/-- The register that a variable with its number of bits declares. -/
def declaredAt (place : Design.Place) (x : Ident × ℕ) : Register :=
  place.register x.2 x.1.leaf

/-- The node of a data declaration. -/
def Data.node (d : Data) : Node :=
  ⟨"kDataDeclaration", trees d.parts⟩

/-- The kind of a data declaration is found. -/
lemma declaredKind_data (d : Data) : Design.declaredKind d.node = d.kind.tag.name := by
  have hleaves : ∃ rest, d.node.leaves = kindLeaf (.storage d.kind, d.marks 0) :: rest := by
    rw [Data.node, leaves_trees, Data.parts]
    simp only [leavesOf_cons, leaves_tree_node, leavesOf_typeParts, Option.map_some,
      Option.toList_some, List.cons_append]
    exact ⟨_, rfl⟩
  obtain ⟨rest, hleaves⟩ := hleaves
  have hkind : Design.storageKinds.contains (kindLeaf (.storage d.kind, d.marks 0)).text = true :=
    List.contains_iff_mem.2 (name_kind_mem (.storage d.kind))
  rw [Design.declaredKind, hleaves, List.find?_cons, hkind]
  rfl

/-- The width of a data declaration is that of its range. -/
lemma value_declaredWidth_data (d : Data) :
    (Design.declaredWidth d.node).value = widthOf d.range := by
  have hnames : ∀ t ∈ separated (comma d.commas) variableListing d.names,
      t.Lacks "kPackedDimensions" :=
    lacks_separated (lacks_comma d.commas) (fun i x => by simp [variableListing]) d.names
  refine value_declaredWidth ?_
  rw [Data.node, Design.packedDimensions, firstTagged?_trees (by decide), Data.parts, found_cons,
    nodesTagged_tree_of_ne (by decide), found_cons, nodesTagged_tree_of_ne (by decide),
    found_packedDimensions_typeParts, found_nil, List.append_nil, found_eq_nil, List.append_nil]
  · cases d.range <;> rfl
  · simpa using hnames

/-- The variables of a data declaration are found. -/
lemma declaredNames_data (d : Data) : Design.declaredNames d.node = d.names.map Ident.leaf := by
  have hvariable : ∀ i x, (variableListing i x).tree.nodesTagged "kRegisterVariable" =
      [⟨"kRegisterVariable", trees [x.listing 0]⟩] := by
    intro i x
    exact nodesTagged_tree_of_lacks rfl (by simp) i
  have htype := lacks_typeParts (by decide : "kRegisterVariable" ∉ typeLabels)
    (some (.storage d.kind, d.marks 0)) d.range
  have hfound : d.node.nodesTagged "kRegisterVariable" =
      d.names.map fun x => ⟨"kRegisterVariable", trees [x.listing 0]⟩ := by
    rw [Data.node, nodesTagged_trees_of_ne (by decide), Data.parts,
      found_cons_of_lacks, found_cons, nodesTagged_tree_of_ne (by decide),
      found_separated (lacks_comma d.commas) hvariable, found_eq_nil (by simp), List.append_nil,
      List.map_eq_flatMap]
    simpa using htype
  have hleaf : ∀ x : Ident, (Node.leaves ⟨"kRegisterVariable", trees [x.listing 0]⟩).find?
      Design.isIdentifier = some x.leaf := by
    intro x
    rw [leaves_trees]
    simp
  rw [Design.declaredNames, Design.registerVariable, hfound, List.filterMap_map,
    ← List.filterMap_eq_map]
  exact List.filterMap_congr fun x _ => hleaf x

/-- **The registers of a data declaration** are its variables, if it stores values at all. -/
theorem value_ofData (place : Design.Place) (d : Data) :
    (Design.ofData place d.node).value = d.stored.map (declaredAt place) := by
  have hkind : Design.registerKinds.contains d.kind.tag.name = true := by
    cases d.kind <;> decide
  rw [Design.ofData, declaredKind_data, if_pos hkind, Logged.value_bind, Logged.value_pure,
    value_declaredWidth_data, declaredNames_data, Data.stored, List.map_map, List.map_map]
  rfl

/-! ### Ports -/

/-- The node of a port. -/
def Port.node (p : Port) : Node :=
  ⟨"kPortDeclaration", trees p.parts⟩

/-- The token of the direction of a port. -/
def Port.directionLeaf (p : Port) : Leaf :=
  ⟨p.direction.tag.name, p.direction.tag.name, p.directionSpan.start, p.directionSpan.stop⟩

/-- The tokens of a port: its direction, its data type and its name. -/
lemma leaves_port (p : Port) : p.node.leaves = p.directionLeaf :: ((p.kind.map kindLeaf).toList ++
    (p.range.map Range.leaves).getD []) ++ [p.name.leaf] := by
  have htype : leavesOf p.dataType = leavesOf (typeParts p.kind p.range) := by
    rw [Port.dataType]
    cases typeParts p.kind p.range <;> simp
  rw [Port.node, leaves_trees, Port.parts, leavesOf_cons, leavesOf_append, htype,
    leavesOf_typeParts]
  simp [Port.directionLeaf, fixed]

/-- The word of a direction is a reserved word, but not one for a kind. -/
lemma name_direction (d : Direction) :
    d.tag.name ∉ Design.storageKinds ∧ (d.tag.name == Design.identifier) = false := by
  cases d <;> decide

/-- The word of a kind is no identifier, and not the word for an output. -/
lemma name_kind (k : Kind) : (k.tag.name == Design.identifier) = false ∧ k.tag.name ≠ "output" := by
  rcases k with _ | (_ | _) <;> decide

/-- A port counts as an output if it is one. -/
lemma isOutput_port (p : Port) : Design.isOutput p.node = true ↔ p.direction = .output := by
  have hdirection : p.directionLeaf.text = "output" ↔ p.direction = .output := by
    change p.direction.tag.name = "output" ↔ _
    cases p.direction <;> decide
  have hname : p.name.leaf.text ≠ "output" := by
    intro h
    have hmem : p.name.leaf.text ∈ reservedWords := h ▸ by decide
    exact p.name.name.not_reserved hmem
  have hkind : ∀ l ∈ (p.kind.map kindLeaf).toList, l.text ≠ "output" := by
    intro l hl
    obtain ⟨k, -, rfl⟩ := Option.map_eq_some_iff.1 (Option.mem_toList.1 hl)
    exact (name_kind k.1).2
  have hrange : ∀ l ∈ (p.range.map Range.leaves).getD [], l.text ≠ "output" := by
    intro l hl h
    exact (of_mem_range_leaves l hl).2 (h ▸ by decide)
  rw [Design.isOutput, leaves_port, List.any_eq_true]
  simp only [beq_iff_eq, List.cons_append, List.mem_cons, List.mem_append, List.not_mem_nil,
    or_false]
  constructor
  · rintro ⟨l, rfl | (hl | hl) | rfl, h⟩
    · exact hdirection.1 h
    · exact absurd h (hkind l hl)
    · exact absurd h (hrange l hl)
    · exact absurd h hname
  · exact fun h => ⟨p.directionLeaf, Or.inl rfl, hdirection.2 h⟩

/-- The kind of a port is found, and is that of a net if the port has none. -/
lemma portKind_port (p : Port) : Design.portKind p.node =
    match p.kind with
    | some k => k.1.tag.name
    | none => "wire" := by
  have hname : Design.storageKinds.contains p.name.leaf.text = false := by
    rw [← Bool.not_eq_true, List.contains_iff_mem]
    exact p.name.name.not_mem (by decide)
  have hrange : ((p.range.map Range.leaves).getD []).reverse.find?
      (fun l => Design.storageKinds.contains l.text) = none := by
    rw [List.find?_eq_none]
    intro l hl hmem
    have hwords : ∀ word ∈ Design.storageKinds, word ∈ reservedWords := by decide
    exact (of_mem_range_leaves l (List.mem_reverse.1 hl)).2
      (hwords _ (List.contains_iff_mem.1 hmem))
  have hdirection : Design.storageKinds.contains p.directionLeaf.text = false := by
    rw [← Bool.not_eq_true, List.contains_iff_mem]
    exact (name_direction p.direction).1
  -- the search starts at the last leaf, and passes the name and the range
  rw [Design.portKind, leaves_port]
  simp only [List.reverse_append, List.reverse_cons, List.reverse_nil, List.nil_append,
    List.singleton_append, List.find?_cons, hname, List.find?_append, hrange, Option.none_or]
  cases p.kind with
  | none =>
    simp only [Option.map_none, Option.toList_none, List.reverse_nil, List.find?_nil, hdirection]
    rfl
  | some k =>
    have hkind : Design.storageKinds.contains (kindLeaf k).text = true :=
      List.contains_iff_mem.2 (name_kind_mem k.1)
    simp only [Option.map_some, Option.toList_some, List.reverse_singleton, List.find?_cons, hkind]
    rfl

/-- The name of a port is found, and no other identifier. -/
lemma portNames_port (p : Port) : Design.portNames p.node = [p.name.leaf] := by
  have hname : (Design.portDirections ++ Design.storageKinds).contains p.name.leaf.text =
      false := by
    rw [← Bool.not_eq_true, List.contains_iff_mem]
    exact p.name.name.not_mem (by decide)
  have hdirection : Design.isIdentifier p.directionLeaf = false := (name_direction p.direction).2
  have hkind : ∀ l ∈ (p.kind.map kindLeaf).toList, Design.isIdentifier l = false := by
    intro l hl
    obtain ⟨k, -, rfl⟩ := Option.map_eq_some_iff.1 (Option.mem_toList.1 hl)
    exact (name_kind k.1).1
  have hnone : ∀ ls : List Leaf, (∀ l ∈ ls, Design.isIdentifier l = false) →
      ls.filter (fun l => Design.isIdentifier l &&
        !(Design.portDirections ++ Design.storageKinds).contains l.text) = [] := by
    intro ls h
    rw [List.filter_eq_nil_iff]
    intro l hl
    rw [h l hl]
    simp
  rw [Design.portNames, leaves_port, List.cons_append, List.filter_cons, hdirection,
    List.filter_append, List.filter_append, hnone _ hkind,
    hnone _ fun l hl => (of_mem_range_leaves l hl).1, List.filter_cons, isIdentifier_leaf, hname]
  rfl

/-- The width of a port is that of its range. -/
lemma value_declaredWidth_port (p : Port) :
    (Design.declaredWidth p.node).value = widthOf p.range := by
  have htype : found "kPackedDimensions" p.dataType =
      found "kPackedDimensions" (typeParts p.kind p.range) := by
    rw [Port.dataType]
    cases typeParts p.kind p.range with
    | nil => rfl
    | cons t ts =>
      rw [found_cons, found_nil, nodesTagged_tree_of_ne (by decide), List.append_nil]
  refine value_declaredWidth ?_
  rw [Port.node, Design.packedDimensions, firstTagged?_trees (by decide), Port.parts,
    found_cons_of_lacks (lacks_fixed _ _ _), found_append, htype,
    found_packedDimensions_typeParts, found_eq_nil (by simp), List.append_nil]
  cases p.range <;> rfl

/-- **The register of a port** is its name, if the port stores a value. -/
theorem value_ofPort (place : Design.Place) (p : Port) :
    (Design.ofPort place p.node).value = p.stored.map (declaredAt place) := by
  have hkind : Design.registerKinds.contains (Design.portKind p.node) = true ↔
      ∃ s span, p.kind = some (.storage s, span) := by
    rw [portKind_port]
    rcases p.kind with _ | ⟨_ | s, span⟩
    · simp [Design.registerKinds]
    · have hwire : Design.registerKinds.contains Kind.wire.tag.name = false := by decide
      simp only [hwire]
      simp
    · have hstorage : Design.registerKinds.contains (Kind.storage s).tag.name = true := by
        cases s <;> decide
      simp only [hstorage]
      simp
  have hcondition : (Design.isOutput p.node &&
      Design.registerKinds.contains (Design.portKind p.node)) = true ↔
        p.direction = .output ∧ ∃ s span, p.kind = some (.storage s, span) := by
    rw [Bool.and_eq_true, isOutput_port, hkind]
  rw [Design.ofPort]
  by_cases hstored : p.direction = .output ∧ ∃ s span, p.kind = some (.storage s, span)
  · rw [if_pos (hcondition.2 hstored), Logged.value_bind, Logged.value_pure,
      value_declaredWidth_port, portNames_port]
    obtain ⟨hdirection, s, span, hkind⟩ := hstored
    rw [Port.stored, hdirection, hkind]
    rfl
  · rw [if_neg (mt hcondition.1 hstored), Logged.value_pure, Port.stored]
    split
    · rename_i s span hdirection hkind
      exact absurd ⟨hdirection, s, span, hkind⟩ hstored
    · rfl

/-! ### Blocks -/

/-- The tags in a block apart from those in its terms and assignments. -/
def blockLabels : List String :=
  ["kProceduralTimingControlStatement", "kEventControl", "kParenGroup", "kEventExpressionList",
    "kSeqBlock", "kBegin", "kBlockItemStatementList", "kEnd"]

/-- **The nodes found in a block** are those found in its terms and then those found in its
assignments. -/
theorem found_block {wanted : String} {inEvent : Event → List Node}
    {inAssignment : Assignment → List Node} (h : wanted ∉ blockLabels)
    (hevent : ∀ i e, (Event.listing i e).tree.nodesTagged wanted = inEvent e)
    (hassignment : ∀ i a, (Assignment.listing i a).tree.nodesTagged wanted = inAssignment a)
    (b : Block) :
    found wanted b.parts = b.terms.flatMap inEvent ++ b.assignments.flatMap inAssignment := by
  simp only [blockLabels, List.mem_cons, List.not_mem_nil, or_false, not_or] at h
  obtain ⟨htiming, hcontrol, hparen, hlist, hseq, hbegin, hitems, hend⟩ := h
  have hbody : b.body.tree.nodesTagged wanted = b.assignments.flatMap inAssignment := by
    rw [Block.body]
    split
    · rename_i a has
      rw [has, hassignment, List.flatMap_singleton]
    · rw [nodesTagged_tree_of_ne (Ne.symm hseq), found_cons_of_lacks (by simp [hbegin]), found_cons,
        nodesTagged_tree_of_ne (Ne.symm hitems), found_numbered hassignment,
        found_eq_nil (by simp [hend]), List.append_nil]
  rw [Block.parts, found_cons_of_lacks (lacks_fixed _ _ _), found_cons, found_nil, List.append_nil,
    Block.terms]
  -- without events the body stands alone, with no timing control around it
  cases b.events with
  | none => exact hbody
  | some events =>
    have hcontrol : (b.control events).tree.nodesTagged wanted = events.flatMap inEvent := by
      rw [Block.control, nodesTagged_tree_of_ne (Ne.symm hcontrol),
        found_cons_of_lacks (lacks_fixed _ _ _), found_cons,
        nodesTagged_tree_of_ne (Ne.symm hparen), found_cons_of_lacks (lacks_fixed _ _ _),
        found_cons, nodesTagged_tree_of_ne (Ne.symm hlist),
        found_separated (lacks_orWord _) hevent, found_eq_nil (by simp), found_nil, List.append_nil,
        List.append_nil]
    rw [nodesTagged_tree_of_ne (Ne.symm htiming), found_cons, found_cons, found_nil,
      List.append_nil, hcontrol, hbody]
    rfl

/-- The node of a block. -/
def Block.node (b : Block) : Node :=
  ⟨"kAlwaysStatement", trees b.parts⟩

/-- The node of a term. -/
def Event.node (e : Event) : Node :=
  ⟨"kEventExpression", trees e.parts⟩

/-- A term lacks all tags but its own and that of references. -/
lemma lacks_event {wanted : String} (h : wanted ≠ "kEventExpression") (hr : wanted ≠ "kReference")
    (index : ℕ) (e : Event) : (e.listing index).Lacks wanted := by
  have hsignal := lacks_reference hr 1 e.signal
  rw [Event.listing, Event.parts]
  cases e.edge <;> simp [h, hsignal]

/-- The terms of a block are found. -/
lemma nodesTagged_event (b : Block) :
    b.node.nodesTagged Design.eventExpression = b.terms.map Event.node := by
  have hevent : ∀ i e, (Event.listing i e).tree.nodesTagged "kEventExpression" = [e.node] := by
    intro i e
    have hsignal := lacks_reference (by decide : "kEventExpression" ≠ "kReference") 1 e.signal
    refine nodesTagged_tree_of_lacks rfl ?_ i
    rw [Event.parts]
    cases e.edge <;> simp [hsignal]
  have hassignment : ∀ i a, (Assignment.listing i a).tree.nodesTagged "kEventExpression" = [] :=
    lacks_assignment (by decide)
  rw [Block.node, Design.eventExpression, nodesTagged_trees_of_ne (by decide),
    found_block (by decide) hevent hassignment, List.map_eq_flatMap]
  simp

/-- The token of an edge. -/
def edgeLeaf (x : Edge × Span) : Leaf :=
  ⟨x.1.tag.name, x.1.tag.name, x.2.start, x.2.stop⟩

/-- The tokens of a term: its edge and its signal. -/
lemma leaves_event (e : Event) :
    e.node.leaves = (e.edge.map edgeLeaf).toList ++ [e.signal.leaf] := by
  rw [Event.node, leaves_trees, Event.parts]
  cases e.edge <;> simp [edgeLeaf, fixed, Ident.reference]

/-- The token of an edge names an edge. -/
lemma isEdgeWord_edgeLeaf (x : Edge × Span) : Design.isEdgeWord (edgeLeaf x) = true := by
  change Design.edgeWords.contains x.1.tag.name = true
  cases x.1 <;> decide

/-- The token of a name names no edge. -/
lemma isEdgeWord_leaf (x : Ident) : Design.isEdgeWord x.leaf = false := by
  rw [Design.isEdgeWord, ← Bool.not_eq_true, List.contains_iff_mem]
  exact x.name.not_mem (by decide)

/-- The signals behind edges in a term. -/
lemma signalsAfterEdge_event (e : Event) :
    Design.signalsAfterEdge false e.node.leaves = e.waited.toList := by
  rw [leaves_event, Event.waited]
  cases e.edge with
  | none =>
    simp only [Option.map_none, Option.toList_none, List.nil_append, Design.signalsAfterEdge,
      isEdgeWord_leaf]
    rfl
  | some x =>
    simp only [Option.map_some, Option.toList_some, List.singleton_append, Design.signalsAfterEdge,
      isEdgeWord_edgeLeaf, isEdgeWord_leaf, isIdentifier_leaf]
    rfl

/-- A term names an edge if it waits for one. -/
lemma any_isEdgeWord_event (e : Event) :
    e.node.leaves.any Design.isEdgeWord = e.waited.isSome := by
  rw [leaves_event, Event.waited]
  cases e.edge with
  | none => simp [isEdgeWord_leaf]
  | some x => simp [isEdgeWord_edgeLeaf]

/-- **The signals that a block waits for are found.** -/
theorem edgeSignals_block (b : Block) : Design.edgeSignals b.node = b.edges := by
  rw [Design.edgeSignals, nodesTagged_event, List.flatMap_map]
  simp only [signalsAfterEdge_event]
  rw [Block.edges, List.filterMap_eq_flatMap_toList]

/-- A block counts as edge-triggered if it waits for an edge. -/
lemma isEdgeTriggered_block (b : Block) : Design.isEdgeTriggered b.node = !b.edges.isEmpty := by
  rw [Design.isEdgeTriggered, nodesTagged_event, List.any_map, Block.edges]
  simp only [Function.comp_def, any_isEdgeWord_event]
  induction b.terms with
  | nil => rfl
  | cons e es ih =>
    rw [List.any_cons, ih]
    cases hwaited : e.waited with
    | none => rw [List.filterMap_cons_none hwaited, Option.isSome_none, Bool.false_or]
    | some x => rw [List.filterMap_cons_some hwaited, Option.isSome_some, Bool.true_or,
        List.isEmpty_cons, Bool.not_false]

/-! ### Assigned names -/

/-- The node of an assignment without its condition. -/
def Assignment.node (a : Assignment) : Node :=
  ⟨a.label.name, trees a.parts⟩

/-- The tag of an assignment is one of those looked for. -/
lemma name_assignment_label (a : Assignment) : a.label.name ∈ Design.assignmentTags := by
  rw [Assignment.label]
  cases a.blocking <;> decide

/-- An assignment is found under its tag, also below a condition. -/
lemma nodesTagged_assignment {wanted : String} (h : wanted ∈ Design.assignmentTags) (index : ℕ)
    (a : Assignment) : (a.listing index).tree.nodesTagged wanted =
      if a.label.name = wanted then [a.node] else [] := by
  have htags : ∀ tag ∈ Design.assignmentTags, tag ∉ valueLabels ∧ tag ≠ "kLPValue" ∧
      tag ≠ "kConditionalStatement" ∧ tag ≠ "kIfClause" ∧ tag ≠ "kIfHeader" ∧
      tag ≠ "kParenGroup" ∧ tag ≠ "kIfBody" := by decide
  obtain ⟨hvalue, hleft, hconditional, hclause, hheader, hparen, hbodyTag⟩ := htags wanted h
  have hbare : ∀ i, (a.bare i).tree.nodesTagged wanted =
      if a.label.name = wanted then [a.node] else [] := by
    intro i
    rw [Assignment.bare, nodesTagged_tree_node,
      found_eq_nil (lacks_assignment_parts hvalue hleft a), List.append_nil]
    rfl
  rw [Assignment.listing]
  cases a.condition with
  | none => exact hbare index
  | some c =>
    have hcondition := lacks_value hvalue 1 c
    rw [nodesTagged_tree_of_ne (Ne.symm hconditional), found_cons, found_nil, List.append_nil,
      nodesTagged_tree_of_ne (Ne.symm hclause), found_cons_of_lacks, found_cons, found_nil,
      List.append_nil, nodesTagged_tree_of_ne (Ne.symm hbodyTag), found_cons, found_nil,
      List.append_nil, hbare]
    simp [hheader, hparen, hcondition]

/-- The assignments of a block are found, one kind after another. -/
lemma assignments_block (b : Block) : Design.assignments b.node =
    Design.assignmentTags.flatMap fun tag =>
      b.assignments.flatMap fun a => if a.label.name = tag then [a.node] else [] := by
  rw [Design.assignments]
  refine List.flatMap_congr fun tag htag => ?_
  have htags : ∀ tag ∈ Design.assignmentTags, tag ∉ blockLabels ∧ tag ≠ "kAlwaysStatement" ∧
      tag ≠ "kEventExpression" ∧ tag ≠ "kReference" := by decide
  obtain ⟨hblock, hself, hevent, hreference⟩ := htags tag htag
  rw [Block.node, nodesTagged_trees_of_ne (Ne.symm hself),
    found_block hblock (lacks_event hevent hreference) (nodesTagged_assignment htag)]
  simp

/-- The target of an assignment is found. -/
lemma assignmentTarget_assignment (a : Assignment) :
    Design.assignmentTarget a.node = .ok a.target.name.text := by
  have hleft : a.node.firstTagged? Design.leftValue =
      some ⟨"kLPValue", trees [a.target.reference 0]⟩ := by
    have hlabel : a.label.name ≠ "kLPValue" := by
      rw [Assignment.label]
      cases a.blocking <;> decide
    rw [Assignment.node, Design.leftValue, firstTagged?_trees hlabel, Assignment.parts, found_cons,
      nodesTagged_tree_of_eq (name_label _ _)]
    rfl
  have htarget : (Node.leaves ⟨"kLPValue", trees [a.target.reference 0]⟩).find?
      Design.isIdentifier = some a.target.leaf := by
    rw [leaves_trees]
    simp [Ident.reference]
  simp only [Design.assignmentTarget, hleft, htarget]
  rfl

/-- **The names that a block assigns are found.** -/
theorem contains_assignedIn_block (b : Block) (name : String) :
    (Design.assignedIn b.node).contains name = b.assigns name := by
  rw [Bool.eq_iff_iff, List.contains_iff_mem, Design.mem_assignedIn, assignments_block,
    Block.assigns, List.any_eq_true]
  simp only [List.mem_flatMap, decide_eq_true_iff]
  constructor
  · rintro ⟨n, ⟨tag, -, a, ha, hn⟩, htarget⟩
    split at hn
    · rw [List.mem_singleton.1 hn, assignmentTarget_assignment] at htarget
      exact ⟨a, ha, Except.ok.inj htarget⟩
    · cases hn
  · rintro ⟨a, ha, rfl⟩
    refine ⟨a.node, ⟨a.label.name, name_assignment_label a, a, ha, ?_⟩,
      assignmentTarget_assignment a⟩
    rw [if_pos rfl]
    exact List.mem_singleton_self _

end FlopCensus.Description
