import FlopCensus.Proofs.Design.Description
import FlopCensus.Proofs.Design.Extraction
import FlopCensus.Proofs.Tree.Traversal
import Mathlib.Data.List.Basic
import Mathlib.Logic.Equiv.Basic
import Mathlib.Tactic.Common

set_option autoImplicit false
set_option relaxedAutoImplicit false

/-!
# Renaming a design

Names mean nothing to the analysis: it compares them with each other and with a few reserved words.
A map of names that keeps different names apart and leaves the reserved words as they are can hence
be carried out before the analysis or after it.

## Main definitions

* `FlopCensus.Design.Renaming` — the maps of names.
* `FlopCensus.Node.rename` — a tree with its identifiers renamed.
* `FlopCensus.Inventory.rename` — an inventory with its names renamed.

## Main results

* `FlopCensus.Design.moduleName?_rename`, `FlopCensus.Design.registersOf_rename` — the searches of
  the extraction commute with a renaming.
* `FlopCensus.Design.roleIn_rename` — so does the classification.
* `FlopCensus.Design.inventoryOf_rename` — so does the analysis of a tree.

## Design

What a search finds in the renamed tree is the renamed finding, and a condition on tokens or nodes
has the same value before and after the renaming. The lemmas of these two kinds are rewriting rules,
from the searches in a tree up to the stages of the analysis.
-/

namespace FlopCensus

namespace Design

/-- A map of names that keeps different names apart and leaves the reserved words as they are. -/
structure Renaming where
  /-- The new name of a name. -/
  apply : String → String
  /-- Different names stay different. -/
  injective : Function.Injective apply
  /-- The reserved words stay as they are. -/
  keeps : ∀ word ∈ Description.reservedWords, apply word = word

instance : CoeFun Renaming fun _ => String → String := ⟨Renaming.apply⟩

/-- The renaming that exchanges two names. -/
def Renaming.swap {a b : String} (ha : a ∉ Description.reservedWords)
    (hb : b ∉ Description.reservedWords) : Renaming where
  apply := Equiv.swap a b
  injective := (Equiv.swap a b).injective
  keeps _ hword := Equiv.swap_apply_of_ne_of_ne (fun h => ha (h ▸ hword)) fun h => hb (h ▸ hword)

end Design

open Design

/-- A token under a renaming, which changes the text of identifiers only. -/
def Leaf.rename (σ : Renaming) (l : Leaf) : Leaf :=
  if isIdentifier l then { l with text := σ l.text } else l

mutual

/-- A tree with its identifiers renamed. -/
def Tree.rename (σ : Renaming) : Tree → Tree
  | .leaf token => .leaf (token.rename σ)
  | .node tag children => .node tag (renameAll σ children)

/-- A forest with its identifiers renamed. -/
def Tree.renameAll (σ : Renaming) : List Tree → List Tree
  | [] => []
  | t :: rest => t.rename σ :: renameAll σ rest

end

/-- A node with the identifiers below it renamed. -/
def Node.rename (σ : Renaming) (n : Node) : Node :=
  ⟨n.tag, Tree.renameAll σ n.children⟩

/-- A register with its names renamed. -/
def Register.rename (σ : Renaming) (r : Register) : Register :=
  { r with
    name := σ r.name
    module := σ r.module
    clock := r.clock.map σ
    reset := r.reset.map σ }

/-- A summary with the name of its module renamed. -/
def ModuleSummary.rename (σ : Renaming) (m : ModuleSummary) : ModuleSummary :=
  { m with name := σ m.name }

/-- An inventory with all its names renamed. -/
def Inventory.rename (σ : Renaming) (inv : Inventory) : Inventory :=
  { inv with
    registers := inv.registers.map (Register.rename σ)
    modules := inv.modules.map (ModuleSummary.rename σ) }

section Searches

variable (σ : Renaming)

/-! ### The searches in a tree -/

mutual

/-- The tokens of a renamed tree are the renamed tokens. -/
lemma Tree.leaves_rename (t : Tree) : (t.rename σ).leaves = t.leaves.map (Leaf.rename σ) := by
  cases t with
  | leaf token => simp [Tree.rename]
  | node tag children => simpa [Tree.rename, List.map_flatMap] using leavesAll_rename children

/-- The tokens of a renamed forest are the renamed tokens. -/
lemma Tree.leavesAll_rename (ts : List Tree) : (Tree.renameAll σ ts).flatMap Tree.leaves =
    ts.flatMap fun t => t.leaves.map (Leaf.rename σ) := by
  cases ts with
  | nil => rfl
  | cons t ts =>
    rw [Tree.renameAll, List.flatMap_cons, List.flatMap_cons, leaves_rename t, leavesAll_rename ts]

end

mutual

/-- The nodes with a tag in a renamed tree are the renamed nodes with this tag. -/
lemma Tree.nodesTagged_rename (t : Tree) (tag : String) :
    (t.rename σ).nodesTagged tag = (t.nodesTagged tag).map (Node.rename σ) := by
  cases t with
  | leaf token => simp [Tree.rename]
  | node own children =>
    rw [Tree.rename, Tree.nodesTagged_node, Tree.nodesTagged_node, List.map_append,
      nodesTaggedAll_rename children, List.map_flatMap]
    split <;> rfl

/-- The nodes with a tag in a renamed forest are the renamed nodes with this tag. -/
lemma Tree.nodesTaggedAll_rename (ts : List Tree) (tag : String) :
    (Tree.renameAll σ ts).flatMap (Tree.nodesTagged · tag) =
      ts.flatMap fun t => (t.nodesTagged tag).map (Node.rename σ) := by
  cases ts with
  | nil => rfl
  | cons t ts =>
    rw [Tree.renameAll, List.flatMap_cons, List.flatMap_cons, nodesTagged_rename t,
      nodesTaggedAll_rename ts]

end

@[simp] lemma Node.leaves_rename (n : Node) :
    (n.rename σ).leaves = n.leaves.map (Leaf.rename σ) :=
  Tree.leaves_rename σ n.toTree

@[simp] lemma Node.nodesTagged_rename (n : Node) (tag : String) :
    (n.rename σ).nodesTagged tag = (n.nodesTagged tag).map (Node.rename σ) :=
  Tree.nodesTagged_rename σ n.toTree tag

@[simp] lemma Node.firstTagged?_rename (n : Node) (tag : String) :
    (n.rename σ).firstTagged? tag = (n.firstTagged? tag).map (Node.rename σ) := by
  have htagged := n.nodesTagged_rename σ tag
  rw [Node.nodesTagged, Node.nodesTagged] at htagged
  rw [Node.firstTagged?, Node.firstTagged?, Tree.firstTagged?, Tree.firstTagged?, htagged,
    List.head?_map]

@[simp] lemma Node.tag_rename (n : Node) : (n.rename σ).tag = n.tag := rfl

end Searches

namespace Design

section Stages

variable (σ : Renaming)

/-! ### Tokens -/

@[simp] lemma start_rename (l : Leaf) : (l.rename σ).start = l.start := by
  unfold Leaf.rename
  split <;> rfl

@[simp] lemma tag_rename (l : Leaf) : (l.rename σ).tag = l.tag := by
  unfold Leaf.rename
  split <;> rfl

@[simp] lemma isIdentifier_rename (l : Leaf) : isIdentifier (l.rename σ) = isIdentifier l := by
  simp [isIdentifier]

@[simp] lemma isNumeric_rename (l : Leaf) : isNumeric (l.rename σ) = isNumeric l := by
  simp [isNumeric]

lemma text_rename {l : Leaf} (h : isIdentifier l = true) : (l.rename σ).text = σ l.text := by
  rw [Leaf.rename, if_pos h]

/-- A numeric literal is no identifier, so that it keeps its text. -/
lemma rename_of_isNumeric {l : Leaf} (h : isNumeric l = true) : l.rename σ = l := by
  have hnot : ¬ isIdentifier l = true := by
    intro hid
    rw [isIdentifier, beq_iff_eq] at hid
    rw [isNumeric, hid] at h
    exact absurd h (by decide)
  rw [Leaf.rename, if_neg hnot]

/-- A renaming leads to a reserved word only from this word. -/
lemma apply_eq_iff {word : String} (hword : word ∈ Description.reservedWords) (name : String) :
    σ name = word ↔ name = word := by
  constructor
  · intro h
    exact σ.injective (h.trans (σ.keeps word hword).symm)
  · rintro rfl
    exact σ.keeps name hword

/-- The text of a token becomes a reserved word only if it is this word. -/
lemma text_rename_eq_iff {word : String} (hword : word ∈ Description.reservedWords) (l : Leaf) :
    (l.rename σ).text = word ↔ l.text = word := by
  unfold Leaf.rename
  split
  · exact apply_eq_iff σ hword l.text
  · rfl

/-- The text of a token is one of some reserved words before and after the renaming. -/
lemma contains_text_rename {words : List String}
    (hwords : ∀ word ∈ words, word ∈ Description.reservedWords) (l : Leaf) :
    words.contains (l.rename σ).text = words.contains l.text := by
  rw [Bool.eq_iff_iff, List.contains_iff_mem, List.contains_iff_mem]
  constructor
  · intro h
    exact (text_rename_eq_iff σ (hwords _ h) l).1 rfl ▸ h
  · intro h
    exact (text_rename_eq_iff σ (hwords _ h) l).2 rfl ▸ h

/-- A token that is one of some reserved words keeps its text. -/
lemma text_rename_of_contains {words : List String}
    (hwords : ∀ word ∈ words, word ∈ Description.reservedWords) {l : Leaf}
    (h : words.contains l.text = true) : (l.rename σ).text = l.text :=
  (text_rename_eq_iff σ (hwords _ (List.contains_iff_mem.1 h)) l).2 rfl

lemma storageKinds_reserved : ∀ word ∈ storageKinds, word ∈ Description.reservedWords := by
  decide

lemma portWords_reserved :
    ∀ word ∈ portDirections ++ storageKinds, word ∈ Description.reservedWords := by
  decide

lemma edgeWords_reserved : ∀ word ∈ edgeWords, word ∈ Description.reservedWords := by
  decide

/-! ### Declarations -/

/-- The tokens that satisfy a condition are found where they were. -/
lemma find?_map_rename {p q : Leaf → Bool} (h : ∀ l, p (l.rename σ) = q l) (ls : List Leaf) :
    (ls.map (Leaf.rename σ)).find? p = (ls.find? q).map (Leaf.rename σ) := by
  rw [List.find?_map, show p ∘ Leaf.rename σ = q from funext h]

@[simp] lemma resolveWidth_rename (d : Node) : resolveWidth (d.rename σ) = resolveWidth d := by
  have hliterals : (d.leaves.map (Leaf.rename σ)).filter isNumeric = d.leaves.filter isNumeric := by
    rw [List.filter_map, show isNumeric ∘ Leaf.rename σ = isNumeric from
      funext (isNumeric_rename σ)]
    exact (List.map_congr_left fun l hl => rename_of_isNumeric σ (List.mem_filter.1 hl).2).trans
      (List.map_id _)
  rw [resolveWidth, Node.leaves_rename, hliterals, ← resolveWidth]

@[simp] lemma declaredWidth_rename (d : Node) : declaredWidth (d.rename σ) = declaredWidth d := by
  rw [declaredWidth, declaredWidth, Node.firstTagged?_rename]
  cases d.firstTagged? packedDimensions with
  | none => rfl
  | some dimensions => simp only [Option.map_some, resolveWidth_rename]

/-- The first storage word of some tokens, which is what a declaration goes by, stays. -/
lemma kind_rename (ls : List Leaf) :
    ((ls.map (Leaf.rename σ)).find? fun l => storageKinds.contains l.text).map (·.text) =
      (ls.find? fun l => storageKinds.contains l.text).map (·.text) := by
  rw [find?_map_rename σ (contains_text_rename σ storageKinds_reserved)]
  cases hfound : ls.find? fun l => storageKinds.contains l.text with
  | none => rfl
  | some l =>
    have hword := List.find?_some hfound
    simp [text_rename_of_contains σ storageKinds_reserved hword]

@[simp] lemma declaredKind_rename (d : Node) : declaredKind (d.rename σ) = declaredKind d := by
  rw [declaredKind_eq, Node.leaves_rename, kind_rename, ← declaredKind_eq]

@[simp] lemma portKind_rename (port : Node) : portKind (port.rename σ) = portKind port := by
  rw [portKind_eq, Node.leaves_rename, ← List.map_reverse, kind_rename, ← portKind_eq]

@[simp] lemma isOutput_rename (port : Node) : isOutput (port.rename σ) = isOutput port := by
  have hword : ∀ l : Leaf, ((l.rename σ).text == "output") = (l.text == "output") := fun l => by
    rw [Bool.eq_iff_iff, beq_iff_eq, beq_iff_eq]
    exact text_rename_eq_iff σ (by decide) l
  simp [isOutput, List.any_map, Function.comp_def, hword]

@[simp] lemma declaredNames_rename (d : Node) :
    declaredNames (d.rename σ) = (declaredNames d).map (Leaf.rename σ) := by
  simp only [declaredNames, Node.nodesTagged_rename, List.filterMap_map, List.map_filterMap]
  refine List.filterMap_congr fun v _ => ?_
  rw [Function.comp_apply, Node.leaves_rename, find?_map_rename σ (isIdentifier_rename σ)]

@[simp] lemma portNames_rename (port : Node) :
    portNames (port.rename σ) = (portNames port).map (Leaf.rename σ) := by
  rw [portNames, Node.leaves_rename, List.filter_map, portNames]
  congr 1
  refine List.filter_congr fun l _ => ?_
  rw [Function.comp_apply, isIdentifier_rename, contains_text_rename σ portWords_reserved]

/-- What a data declaration declares are identifiers. -/
lemma isIdentifier_of_mem_declaredNames {d : Node} {l : Leaf} (h : l ∈ declaredNames d) :
    isIdentifier l = true := by
  obtain ⟨v, -, hv⟩ := List.mem_filterMap.1 h
  exact List.find?_some hv

/-- What a port declares are identifiers. -/
lemma isIdentifier_of_mem_portNames {port : Node} {l : Leaf} (h : l ∈ portNames port) :
    isIdentifier l = true :=
  (Bool.and_eq_true_iff.1 (List.mem_filter.1 h).2).1

/-! ### Modules -/

/-- A place in the renamed design. -/
def Place.rename (p : Place) : Place :=
  { p with module := σ p.module }

/-- The registers of renamed identifiers are the renamed registers. -/
lemma map_register_rename (p : Place) (width : Nat) {ls : List Leaf}
    (h : ∀ l ∈ ls, isIdentifier l = true) :
    (ls.map (Leaf.rename σ)).map ((p.rename σ).register width) =
      (ls.map (p.register width)).map (Register.rename σ) := by
  rw [List.map_map, List.map_map]
  refine List.map_congr_left fun l hl => ?_
  simp [Place.register, Place.rename, Register.rename, text_rename σ (h l hl)]

lemma value_ofData_rename (p : Place) (d : Node) : (ofData (p.rename σ) (d.rename σ)).value =
    (ofData p d).value.map (Register.rename σ) := by
  rw [value_ofData, value_ofData, declaredKind_rename, declaredWidth_rename, declaredNames_rename]
  split
  · exact map_register_rename σ p _ fun l => isIdentifier_of_mem_declaredNames
  · rfl

lemma value_ofPort_rename (p : Place) (port : Node) :
    (ofPort (p.rename σ) (port.rename σ)).value =
      (ofPort p port).value.map (Register.rename σ) := by
  rw [value_ofPort, value_ofPort, isOutput_rename, portKind_rename, declaredWidth_rename,
    portNames_rename]
  split
  · exact map_register_rename σ p _ fun l => isIdentifier_of_mem_portNames
  · rfl

@[simp] lemma headerPorts_rename (module : Node) :
    headerPorts (module.rename σ) = (headerPorts module).map (Node.rename σ) := by
  rw [headerPorts, headerPorts, Node.firstTagged?_rename]
  cases module.firstTagged? moduleHeader with
  | none => rfl
  | some header => exact header.nodesTagged_rename σ portDeclaration

/-- **The registers of a renamed module are the renamed registers.** -/
theorem registersOf_rename (p : Place) (module : Node) :
    registersOf (p.rename σ) (module.rename σ) =
      (registersOf p module).map (Register.rename σ) := by
  simp only [registersOf, Node.nodesTagged_rename, headerPorts_rename, List.flatMap_map,
    value_ofData_rename, value_ofPort_rename, List.map_append, List.map_flatMap]

/-- The name of a module is found where it was. -/
lemma find?_moduleName_rename (ls : List Leaf) :
    ((ls.map (Leaf.rename σ)).find? fun l => isIdentifier l && l.text != "module") =
      (ls.find? fun l => isIdentifier l && l.text != "module").map (Leaf.rename σ) := by
  refine find?_map_rename σ (q := fun l => isIdentifier l && l.text != "module") (fun l => ?_) ls
  rw [isIdentifier_rename, bne, bne, Bool.eq_iff_iff]
  simp [text_rename_eq_iff σ (by decide : "module" ∈ Description.reservedWords) l]

/-- **The name of a renamed module is the renamed name.** -/
theorem moduleName?_rename (module : Node) :
    moduleName? (module.rename σ) = (moduleName? module).map σ := by
  rw [moduleName?, moduleName?, Node.firstTagged?_rename]
  cases module.firstTagged? moduleHeader with
  | none => rfl
  | some header =>
    simp only [Option.map_some, Option.bind_eq_bind, Option.bind_some, Node.leaves_rename,
      find?_moduleName_rename]
    cases hfound : header.leaves.find? fun l => isIdentifier l && l.text != "module" with
    | none => rfl
    | some l =>
      have hname := List.find?_some hfound
      rw [Bool.and_eq_true] at hname
      simp [text_rename σ hname.1]

@[simp] lemma startLine_rename (source : List UInt8) (module : Node) :
    startLine source (module.rename σ) = startLine source module := by
  rw [startLine, startLine, Node.leaves_rename, List.head?_map]
  cases module.leaves.head? with
  | none => rfl
  | some l => simp

/-- An extraction with all its names renamed. -/
def Extraction.rename (e : Extraction) : Extraction where
  summary := e.summary.rename σ
  node := e.node.rename σ
  registers := e.registers.map (Register.rename σ)

/-- The extraction of a renamed module is the renamed extraction. -/
lemma extractModule_rename (module : Node) (source : List UInt8) (file : String) :
    (extractModule (module.rename σ) source file).value.toOption =
      (extractModule module source file).value.toOption.map (Extraction.rename σ) := by
  rw [value_extractModule, value_extractModule, moduleName?_rename]
  cases moduleName? module with
  | none => rfl
  | some name =>
    have hregisters := registersOf_rename σ ⟨source, file, name⟩ module
    simp only [Place.rename] at hregisters
    simp [Except.toOption, Extraction.rename, ModuleSummary.rename, hregisters]

/-- The extractions of a renamed tree are the renamed extractions. -/
lemma extract_rename (tree : Node) (source : List UInt8) (file : String) :
    (extract (tree.rename σ) source file).value =
      (extract tree source file).value.map (Extraction.rename σ) := by
  rw [value_extract, value_extract, Node.nodesTagged_rename, List.filterMap_map,
    List.map_filterMap]
  exact List.filterMap_congr fun m _ => extractModule_rename σ m source file

/-! ### Blocks -/

/-- The target of a renamed assignment is the renamed target. -/
lemma assignmentTarget_rename (a : Node) :
    assignmentTarget (a.rename σ) = (assignmentTarget a).map σ := by
  rw [assignmentTarget, assignmentTarget, Node.firstTagged?_rename]
  cases a.firstTagged? leftValue with
  | none => rfl
  | some left =>
    simp only [Option.map_some, Node.leaves_rename, find?_map_rename σ (isIdentifier_rename σ)]
    cases hfound : left.leaves.find? isIdentifier with
    | none => rfl
    | some l => simp [Except.map, text_rename σ (List.find?_some hfound)]

/-- The targets of renamed assignments are the renamed targets. -/
lemma value_targets_rename (nodes : List Node) :
    (targets (nodes.map (Node.rename σ))).value = (targets nodes).value.map σ := by
  induction nodes with
  | nil => rfl
  | cons a nodes ih =>
    rw [List.map_cons, targets, targets, assignmentTarget_rename]
    cases assignmentTarget a with
    | error e => exact ih
    | ok name => simp [Except.map, ih]

@[simp] lemma assignments_rename (block : Node) :
    assignments (block.rename σ) = (assignments block).map (Node.rename σ) := by
  rw [assignments, assignments, List.map_flatMap]
  exact List.flatMap_congr fun tag _ => block.nodesTagged_rename σ tag

@[simp] lemma assignedIn_rename (block : Node) :
    assignedIn (block.rename σ) = (assignedIn block).map σ := by
  rw [assignedIn, assignedSignals, assignments_rename, value_targets_rename, ← assignedSignals,
    ← assignedIn]

@[simp] lemma isEdgeWord_rename (l : Leaf) : isEdgeWord (l.rename σ) = isEdgeWord l :=
  contains_text_rename σ edgeWords_reserved l

/-- The signals behind the edge words of renamed tokens are the renamed signals. -/
lemma signalsAfterEdge_rename (armed : Bool) (ls : List Leaf) :
    signalsAfterEdge armed (ls.map (Leaf.rename σ)) = (signalsAfterEdge armed ls).map σ := by
  induction ls generalizing armed with
  | nil => rfl
  | cons l ls ih =>
    simp only [List.map_cons, signalsAfterEdge, isEdgeWord_rename, isIdentifier_rename]
    split_ifs with hedge hname
    · exact ih true
    · rw [Bool.and_eq_true] at hname
      rw [List.map_cons, text_rename σ hname.2, ih false]
    · exact ih armed

@[simp] lemma edgeSignals_rename (block : Node) :
    edgeSignals (block.rename σ) = (edgeSignals block).map σ := by
  simp [edgeSignals, List.flatMap_map, List.map_flatMap, signalsAfterEdge_rename]

@[simp] lemma isEdgeTriggered_rename (block : Node) :
    isEdgeTriggered (block.rename σ) = isEdgeTriggered block := by
  simp [isEdgeTriggered, List.any_map, Function.comp_def]

/-- A name is among some names before and after the renaming. -/
lemma contains_map_apply (names : List String) (name : String) :
    (names.map σ).contains (σ name) = names.contains name := by
  rw [Bool.eq_iff_iff, List.contains_iff_mem, List.contains_iff_mem]
  exact List.mem_map_of_injective σ.injective

/-- The block that clocks a renamed name is the renamed block. -/
lemma clockingBlock?_rename (blocks : List Node) (name : String) :
    clockingBlock? (blocks.map (Node.rename σ)) (σ name) =
      (clockingBlock? blocks name).map (Node.rename σ) := by
  rw [clockingBlock?, clockingBlock?, List.find?_map]
  congr 2
  funext b
  simp only [Function.comp_apply, isEdgeTriggered_rename, assignedIn_rename, contains_map_apply]

/-- **The role of a renamed register is the renamed role.** -/
theorem roleIn_rename (blocks : List Node) (r : Register) :
    roleIn (blocks.map (Node.rename σ)) (r.rename σ) = (roleIn blocks r).rename σ := by
  have hlatched : ((blocks.map (Node.rename σ)).any fun b => (assignedIn b).contains (σ r.name)) =
      blocks.any fun b => (assignedIn b).contains r.name := by
    simp only [List.any_map, Function.comp_def, assignedIn_rename, contains_map_apply]
  have hclock : clockingBlock? (blocks.map (Node.rename σ)) (r.rename σ).name =
      (clockingBlock? blocks r.name).map (Node.rename σ) := clockingBlock?_rename σ blocks r.name
  by_cases hknown : r.classification ≠ .potential
  · rw [roleIn, roleIn, if_pos hknown, if_pos (by exact hknown)]
  · rw [roleIn, roleIn, if_neg hknown, if_neg (by exact hknown), hclock]
    cases clockingBlock? blocks r.name with
    | some b => simp [Register.rename]
    | none =>
      simp only [Option.map_none]
      rw [show (r.rename σ).name = σ r.name from rfl, hlatched]
      split <;> rfl

/-! ### The analysis of a tree -/

/-- **The analysis of a tree commutes with a renaming.** If the identifiers of a tree are renamed,
by any map that keeps names apart and leaves the reserved words as they are, the inventory has the
renamed registers and modules, and nothing else in it changes.

**Proof sketch.** Modules, declarations and blocks are found by tags, and each condition on a token
depends on its tag, or on whether its text is one of some reserved words, so the searches find the
renamed nodes and tokens (`extract_rename`). The classification compares the names of registers with
those of targets only, and an injective map keeps the outcome (`roleIn_rename`). -/
theorem inventoryOf_rename (tree : Node) (source : List UInt8) (file : String) :
    (inventoryOf (tree.rename σ) source file).value =
      (inventoryOf tree source file).value.rename σ := by
  simp only [value_inventoryOf, extract_rename, Inventory.rename, List.flatMap_map,
    List.map_flatMap, List.map_map]
  congr 1
  refine List.flatMap_congr fun e _ => ?_
  simp only [Extraction.rename, Node.nodesTagged_rename, List.map_map]
  exact List.map_congr_left fun r _ => roleIn_rename σ _ r

end Stages

/-- A module with a clocked register. -/
def clockedModule : Node where
  tag := moduleDeclaration
  children := [
    .node moduleHeader [.leaf ⟨"module", "module", 0, 6⟩, .leaf ⟨identifier, "m", 7, 8⟩],
    .node dataDeclaration [
      .leaf ⟨"reg", "reg", 10, 13⟩,
      .node registerVariable [.leaf ⟨identifier, "q", 14, 15⟩]],
    .node alwaysStatement [
      .node eventExpression [
        .leaf ⟨"posedge", "posedge", 26, 33⟩,
        .leaf ⟨identifier, "clk", 34, 37⟩],
      .node "kNonblockingAssignmentStatement" [
        .node leftValue [.leaf ⟨identifier, "q", 39, 40⟩]]]]

/-- A register that exchanges its name with its clock. -/
theorem inventoryOf_rename_clockedModule :
    let σ := Renaming.swap (by decide : "q" ∉ Description.reservedWords)
      (by decide : "clk" ∉ Description.reservedWords)
    (inventoryOf clockedModule [] "a.sv").value.registers =
        [⟨"q", 1, 1, "m", "a.sv", .flipFlop, some "clk", none⟩] ∧
      (inventoryOf (clockedModule.rename σ) [] "a.sv").value.registers =
        [⟨"clk", 1, 1, "m", "a.sv", .flipFlop, some "q", none⟩] := by
  intro σ
  have hbefore : (inventoryOf clockedModule [] "a.sv").value.registers =
      [⟨"q", 1, 1, "m", "a.sv", .flipFlop, some "clk", none⟩] := by
    decide +kernel
  refine ⟨hbefore, ?_⟩
  rw [inventoryOf_rename, Inventory.rename, hbefore]
  decide +kernel

end Design

end FlopCensus
