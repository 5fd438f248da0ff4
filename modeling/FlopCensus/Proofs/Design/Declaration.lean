import FlopCensus.Proofs.Design.Ownership
import FlopCensus.Proofs.Design.Width
import FlopCensus.Proofs.Tree.Traversal
import Mathlib.Data.List.Basic
import Mathlib.Tactic.Common

set_option autoImplicit false
set_option relaxedAutoImplicit false

/-!
# One variable, declared in the body or in the header

A variable can be declared with the same type by a data declaration and by a port. A data
declaration is searched for its variables, the first identifier of each of which counts, and a port
for all of its identifiers. So a port declares the identifiers of its type as well, such as the
parameters in a packed dimension.

## Main definitions

* `FlopCensus.Design.variableOf`, `FlopCensus.Design.portOf` — the two declarations of a variable.
* `FlopCensus.Design.IsStorageType` — a type whose variables store a value.

## Main results

* `FlopCensus.Design.value_ofData_variableOf`, `FlopCensus.Design.value_ofPort_portOf` — the
  registers of each declaration.
* `FlopCensus.Design.ofPort_eq_ofData_iff` — they agree exactly if the type has no identifiers.
-/

namespace FlopCensus.Design

/-- The data declaration of a variable. -/
def variableOf (type : Tree) (x : Leaf) : Node :=
  ⟨dataDeclaration, [type, .node registerVariable [.leaf x]]⟩

/-- The port that declares a variable, with the word for its direction in front. -/
def portOf (direction : Leaf) (type : Tree) (x : Leaf) : Node :=
  ⟨portDeclaration, [.leaf direction, type, .leaf x]⟩

/-- A type whose variables store a value. -/
structure IsStorageType (type : Tree) : Prop where
  /-- It has a word for a kind that stores a value. -/
  stores : ∃ l ∈ type.leaves, l.text ∈ registerKinds
  /-- It has no word for another kind. -/
  only : ∀ l ∈ type.leaves, l.text ∈ storageKinds → l.text ∈ registerKinds
  /-- No variable is declared in it. -/
  lacks_variables : type.nodesTagged registerVariable = []

/-- The first word for a kind stores a value, if all of them do and there is one. -/
lemma firstKind_mem {ls : List Leaf} (stores : ∃ l ∈ ls, l.text ∈ registerKinds)
    (only : ∀ l ∈ ls, l.text ∈ storageKinds → l.text ∈ registerKinds) :
    ((ls.find? fun l => storageKinds.contains l.text).map (·.text)).getD "wire" ∈
      registerKinds := by
  have hkinds : ∀ kind ∈ registerKinds, kind ∈ storageKinds := by decide
  cases hfound : ls.find? fun l => storageKinds.contains l.text with
  | some l =>
    have hword := List.find?_some hfound
    exact only l (List.mem_of_find?_eq_some hfound) (List.contains_iff_mem.1 hword)
  | none =>
    obtain ⟨l, hl, hstores⟩ := stores
    exact absurd (List.contains_iff_mem.2 (hkinds _ hstores)) (List.find?_eq_none.1 hfound l hl)

/-- The name of a port is no word for a direction or a kind. -/
lemma not_mem_of_isPortName {l : Leaf} (h : isPortName l = true) :
    l.text ∉ portDirections ++ storageKinds := by
  rw [isPortName, Bool.and_eq_true, Bool.not_eq_true', ← Bool.not_eq_true,
    List.contains_iff_mem] at h
  exact h.2

section Variable

variable {type : Tree} {direction x : Leaf}

/-- The tokens of the data declaration. -/
lemma leaves_variableOf : (variableOf type x).leaves = type.leaves ++ [x] := by
  simp [Node.leaves, Node.toTree, variableOf]

/-- The tokens of the port. -/
lemma leaves_portOf : (portOf direction type x).leaves = direction :: (type.leaves ++ [x]) := by
  simp [Node.leaves, Node.toTree, portOf]

/-- Both declarations have the width of the type. -/
lemma declaredWidth_portOf :
    (declaredWidth (portOf direction type x)).value = (declaredWidth (variableOf type x)).value := by
  have hport : (portOf direction type x).firstTagged? packedDimensions =
      (type.nodesTagged packedDimensions).head? := by
    simp [Node.firstTagged?, Tree.firstTagged?, Node.toTree, portOf, Tree.nodesTagged_node,
      portDeclaration, packedDimensions]
  have hdata : (variableOf type x).firstTagged? packedDimensions =
      (type.nodesTagged packedDimensions).head? := by
    simp [Node.firstTagged?, Tree.firstTagged?, Node.toTree, variableOf, Tree.nodesTagged_node,
      dataDeclaration, packedDimensions, registerVariable]
  rw [declaredWidth, declaredWidth, hport, hdata]

/-- The data declaration declares the variable alone. -/
lemma declaredNames_variableOf (hx : isIdentifier x = true)
    (hvariables : type.nodesTagged registerVariable = []) :
    declaredNames (variableOf type x) = [x] := by
  have hne : dataDeclaration ≠ registerVariable := by decide
  have hfound : (variableOf type x).nodesTagged registerVariable =
      [⟨registerVariable, [.leaf x]⟩] := by
    simp [Node.nodesTagged, Node.toTree, variableOf, Tree.nodesTagged_node, hvariables, hne]
  rw [declaredNames, hfound]
  simp [Node.leaves, Node.toTree, hx]

/-- The port declares the identifiers of the type, and then the variable. -/
lemma portNames_portOf (hdirection : direction.text = "output") (hx : isPortName x = true) :
    portNames (portOf direction type x) = type.leaves.filter isPortName ++ [x] := by
  have hword : isPortName direction = false := by
    simp [isPortName, hdirection, portDirections]
  have hnames : portNames (portOf direction type x) =
      (portOf direction type x).leaves.filter isPortName := rfl
  rw [hnames, leaves_portOf, List.filter_cons_of_neg (by simp [hword]), List.filter_append,
    List.filter_cons_of_pos hx, List.filter_nil]

section Storage

variable (htype : IsStorageType type) (hx : isPortName x = true)

include htype hx

/-- The kind of the data declaration is that of the type. -/
lemma declaredKind_variableOf_mem : declaredKind (variableOf type x) ∈ registerKinds := by
  rw [declaredKind_eq, leaves_variableOf]
  refine firstKind_mem ?_ ?_
  · obtain ⟨l, hl, hstores⟩ := htype.stores
    exact ⟨l, List.mem_append_left _ hl, hstores⟩
  · intro l hl hword
    obtain hl | hl := List.mem_append.1 hl
    · exact htype.only l hl hword
    · obtain rfl := List.mem_singleton.1 hl
      exact absurd (List.mem_append_right _ hword) (not_mem_of_isPortName hx)

/-- The kind of the port is that of the type. -/
lemma portKind_portOf_mem (hdirection : direction.text = "output") :
    portKind (portOf direction type x) ∈ registerKinds := by
  rw [portKind_eq, leaves_portOf]
  refine firstKind_mem ?_ ?_
  · obtain ⟨l, hl, hstores⟩ := htype.stores
    exact ⟨l, by simp [hl], hstores⟩
  · intro l hl hword
    simp only [List.mem_reverse, List.mem_cons, List.mem_append, List.not_mem_nil,
      or_false] at hl
    obtain rfl | hl | rfl := hl
    · rw [hdirection] at hword
      exact absurd hword (by decide)
    · exact htype.only l hl hword
    · exact absurd (List.mem_append_right _ hword) (not_mem_of_isPortName hx)

/-- **The register of the data declaration** is that of the variable. -/
theorem value_ofData_variableOf (p : Place) : (ofData p (variableOf type x)).value =
    [p.register (declaredWidth (variableOf type x)).value x] := by
  have hidentifier : isIdentifier x = true := (Bool.and_eq_true_iff.1 hx).1
  rw [value_ofData, if_pos (List.contains_iff_mem.2 (declaredKind_variableOf_mem htype hx)),
    declaredNames_variableOf hidentifier htype.lacks_variables]
  rfl

/-- **The registers of the port** are those of the identifiers of the type and of the variable. -/
theorem value_ofPort_portOf (p : Place) (hdirection : direction.text = "output") :
    (ofPort p (portOf direction type x)).value = (type.leaves.filter isPortName ++ [x]).map
      (p.register (declaredWidth (variableOf type x)).value) := by
  have houtput : isOutput (portOf direction type x) = true := by
    rw [isOutput, leaves_portOf, List.any_cons, hdirection]
    rfl
  have hkind := List.contains_iff_mem.2 (portKind_portOf_mem htype hx hdirection)
  rw [value_ofPort, houtput, hkind, Bool.and_self, if_pos rfl, portNames_portOf hdirection hx,
    declaredWidth_portOf]

/-- **When a port and a data declaration agree.** A data declaration of a variable gives the
register of the variable, with the declared width. A port with the same type gives a register of
this width for each identifier of the type before it, so that the two agree exactly if the type has
no identifiers but for words that name a direction or a kind. -/
theorem ofPort_eq_ofData_iff (p : Place) (hdirection : direction.text = "output") :
    let width := (declaredWidth (variableOf type x)).value
    (ofData p (variableOf type x)).value = [p.register width x] ∧
      (ofPort p (portOf direction type x)).value =
        (type.leaves.filter isPortName).map (p.register width) ++ [p.register width x] ∧
      ((ofPort p (portOf direction type x)).value = (ofData p (variableOf type x)).value ↔
        ∀ l ∈ type.leaves, isIdentifier l = true → l.text ∈ portDirections ++ storageKinds) := by
  intro width
  have hdata := value_ofData_variableOf htype hx p
  have hport := value_ofPort_portOf htype hx p hdirection
  rw [List.map_append, List.map_singleton] at hport
  refine ⟨hdata, hport, ?_⟩
  rw [hport, hdata, List.append_left_eq_self, List.map_eq_nil_iff, List.filter_eq_nil_iff]
  refine forall_congr' fun l => forall_congr' fun _ => ?_
  rw [isPortName, Bool.and_eq_true, Bool.not_eq_true', ← Bool.not_eq_true, List.contains_iff_mem,
    not_and, not_not]

end Storage

end Variable

/-- The type `reg` with some tokens in a packed dimension. -/
def vectorType (bounds : List Leaf) : Tree :=
  .node "kDataType" [.leaf ⟨"reg", "reg", 0, 0⟩, (dimensionsOf bounds).toTree]

/-- Variables of this type store a value. -/
lemma isStorageType_vectorType {bounds : List Leaf}
    (h : ∀ l ∈ bounds, l.text ∉ storageKinds) : IsStorageType (vectorType bounds) := by
  have hleaves : (vectorType bounds).leaves = ⟨"reg", "reg", 0, 0⟩ :: bounds := by
    simp [vectorType, dimensionsOf, Node.toTree, List.flatMap_map]
  have hreg : "reg" ∈ registerKinds := by decide
  refine ⟨⟨_, hleaves ▸ List.mem_cons_self, hreg⟩, ?_, ?_⟩
  · rw [hleaves, List.forall_mem_cons]
    exact ⟨fun _ => hreg, fun l hl hword => absurd hword (h l hl)⟩
  · simp [vectorType, dimensionsOf, Node.toTree, Tree.nodesTagged_node, registerVariable,
      packedDimensions]

/-- The word `output`. -/
def outputWord : Leaf :=
  ⟨"output", "output", 0, 6⟩

/-- The variable `q`. -/
def variableName : Leaf :=
  ⟨identifier, "q", 20, 21⟩

/-- A port and a data declaration of a variable with the range `[7:0]` agree. -/
theorem ofPort_eq_ofData_literalBounds :
    let type := vectorType [⟨"TK_DecNumber", "7", 5, 6⟩, ⟨"TK_DecNumber", "0", 7, 8⟩]
    let p : Place := ⟨[], "a.sv", "m"⟩
    IsStorageType type ∧ isPortName variableName = true ∧ outputWord.text = "output" ∧
      (ofPort p (portOf outputWord type variableName)).value =
        (ofData p (variableOf type variableName)).value ∧
      (ofData p (variableOf type variableName)).value.map (fun r => (r.name, r.width)) =
        [("q", 8)] := by
  intro type p
  have htype : IsStorageType type := isStorageType_vectorType (by decide)
  have hname : isPortName variableName = true := by decide
  have hword : outputWord.text = "output" := rfl
  obtain ⟨-, -, hagree⟩ := ofPort_eq_ofData_iff htype hname p hword
  have hplain : ∀ l ∈ type.leaves, isIdentifier l = true →
      l.text ∈ portDirections ++ storageKinds := by
    decide +kernel
  exact ⟨htype, hname, hword, hagree.2 hplain, by decide +kernel⟩

/-- **A parameter that a port declares**: with the range `[N:0]` the port gives a register `N`
besides `q`, which the data declaration does not. -/
theorem ofPort_ne_ofData_parameterBounds :
    let type := vectorType parameterBounds
    let p : Place := ⟨[], "a.sv", "m"⟩
    IsStorageType type ∧ isPortName variableName = true ∧ outputWord.text = "output" ∧
      (ofPort p (portOf outputWord type variableName)).value.map (·.name) = ["N", "q"] ∧
      (ofData p (variableOf type variableName)).value.map (·.name) = ["q"] :=
  ⟨isStorageType_vectorType (by decide), by decide, rfl, by decide +kernel, by decide +kernel⟩

end FlopCensus.Design
