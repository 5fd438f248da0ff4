import FlopCensus.Proofs.Design.Described
import FlopCensus.Proofs.Design.Extraction
import Mathlib.Data.List.Basic
import Mathlib.Tactic.Common

set_option autoImplicit false
set_option relaxedAutoImplicit false

/-!
# The analysis recovers the inventory of a description

A description gives a dump and an inventory. The analysis of the dump yields this inventory, for any
number of modules, declarations and blocks in any order: every stage of the analysis finds the parts
of each module, and attributes none of them to a neighbour.

## Main definitions

* `FlopCensus.Description.Module.node` — the subtree of a module.
* `FlopCensus.Description.Module.extraction` — what the analysis extracts from it.

## Main results

* `FlopCensus.Description.found_module` — a search in a module finds what it finds in its ports and
  in the parts of its body.
* `FlopCensus.Description.value_extractModule` — the extraction of a module.
* `FlopCensus.Description.roleIn_declaredAt` — the roles of its registers.
* `FlopCensus.Description.analyzeDump_dump` — the inventory of a dump.
-/

namespace FlopCensus.Description

open Dump Dump.Listing

/-! ### Searching a module -/

/-- The tags in a module apart from those in its ports and in the parts of its body. -/
def moduleLabels : List String :=
  ["kModuleHeader", "kParenGroup", "kPortDeclarationList", "kModuleItemList"]

section Search

variable {wanted : String} {inPort : Port → List Node} {inItem : Item → List Node}

/-- The nodes found in the header of a module are those found in its ports. -/
lemma found_header (h : wanted ∉ moduleLabels)
    (hport : ∀ i p, (Port.listing i p).tree.nodesTagged wanted = inPort p) (m : Module) :
    found wanted m.headerParts = m.ports.flatMap inPort := by
  simp only [moduleLabels, List.mem_cons, List.not_mem_nil, or_false, not_or] at h
  obtain ⟨-, hparen, hlist, -⟩ := h
  rw [Module.headerParts, found_cons_of_lacks (lacks_fixed _ _ _),
    found_cons_of_lacks (lacks_ident _ _), found_cons, nodesTagged_tree_of_ne (Ne.symm hparen),
    found_cons_of_lacks (lacks_fixed _ _ _), found_cons, nodesTagged_tree_of_ne (Ne.symm hlist),
    found_separated (lacks_comma _) hport, found_eq_nil (by simp), found_eq_nil (by simp),
    List.append_nil, List.append_nil]

/-- **The nodes found in a module** are those found in its ports and then those found in the parts
of its body. -/
theorem found_module (h : wanted ∉ moduleLabels)
    (hport : ∀ i p, (Port.listing i p).tree.nodesTagged wanted = inPort p)
    (hitem : ∀ i x, (Item.listing i x).tree.nodesTagged wanted = inItem x) (m : Module) :
    found wanted m.parts = m.ports.flatMap inPort ++ m.items.flatMap inItem := by
  have hheader : wanted ≠ "kModuleHeader" := fun he => h (by simp [he, moduleLabels])
  have hitems : wanted ≠ "kModuleItemList" := fun he => h (by simp [he, moduleLabels])
  rw [Module.parts, found_cons, nodesTagged_tree_of_ne (Ne.symm hheader), found_header h hport,
    found_cons, nodesTagged_tree_of_ne (Ne.symm hitems), found_numbered hitem,
    found_eq_nil (by simp), List.append_nil]

end Search

/-- A block lacks all tags but its own and those in its terms and assignments. -/
lemma lacks_block {wanted : String} (hself : wanted ≠ "kAlwaysStatement")
    (h : wanted ∉ blockLabels) (hevent : wanted ≠ "kEventExpression")
    (hassignment : wanted ∉ assignmentLabels) (index : ℕ) (b : Block) :
    (b.listing index).Lacks wanted := by
  have hreference : wanted ≠ "kReference" :=
    fun he => hassignment (by simp [he, assignmentLabels, valueLabels])
  rw [Block.listing, Lacks, nodesTagged_tree_of_ne (Ne.symm hself),
    found_block h (lacks_event hevent hreference) (lacks_assignment hassignment)]
  simp

/-- The node of a module. -/
def Module.node (m : Module) : Node :=
  ⟨"kModuleDeclaration", trees m.parts⟩

/-- The data declarations of a module are found. -/
lemma nodesTagged_data (m : Module) :
    m.node.nodesTagged Design.dataDeclaration = m.data.map Data.node := by
  have hitem : ∀ i x, (Item.listing i x).tree.nodesTagged "kDataDeclaration" =
      (x.data?.map Data.node).toList := by
    intro i x
    cases x with
    | data d => exact nodesTagged_tree_of_lacks rfl (lacks_data_parts (by decide) d) i
    | block b => exact lacks_block (by decide) (by decide) (by decide) (by decide) i b
  rw [Module.node, Design.dataDeclaration, nodesTagged_trees_of_ne (by decide),
    found_module (by decide) (lacks_port (by decide) (by decide)) hitem, Module.data,
    List.map_filterMap, List.filterMap_eq_flatMap_toList]
  simp

/-- The blocks of a module are found. -/
lemma nodesTagged_block (m : Module) :
    m.node.nodesTagged Design.alwaysStatement = m.blocks.map Block.node := by
  have hitem : ∀ i x, (Item.listing i x).tree.nodesTagged "kAlwaysStatement" =
      (x.block?.map Block.node).toList := by
    intro i x
    cases x with
    | data d => exact lacks_data (by decide) (by decide) i d
    | block b =>
      rw [Item.listing, Block.listing, nodesTagged_tree_of_eq (name_label _ _),
        found_block (by decide) (lacks_event (by decide) (by decide))
          (lacks_assignment (by decide))]
      simp [Item.block?, Block.node]
  rw [Module.node, Design.alwaysStatement, nodesTagged_trees_of_ne (by decide),
    found_module (by decide) (lacks_port (by decide) (by decide)) hitem, Module.blocks,
    List.map_filterMap, List.filterMap_eq_flatMap_toList]
  simp

/-- The modules of a dump are found, and no module in another one. -/
lemma found_modules (i : ℕ) (modules : List Module) :
    found Design.moduleDeclaration (numbered Module.listing i modules) =
      modules.map Module.node := by
  have hitem : ∀ i x, (Item.listing i x).Lacks "kModuleDeclaration" := by
    intro i x
    cases x with
    | data d => exact lacks_data (by decide) (by decide) i d
    | block b => exact lacks_block (by decide) (by decide) (by decide) (by decide) i b
  have hmodule : ∀ i m, (Module.listing i m).tree.nodesTagged "kModuleDeclaration" = [m.node] := by
    intro i m
    rw [Module.listing, nodesTagged_tree_of_eq (name_label _ _),
      found_module (by decide) (lacks_port (by decide) (by decide)) hitem]
    simp [Module.node]
  rw [Design.moduleDeclaration, found_numbered hmodule, List.map_eq_flatMap]

/-! ### The header of a module -/

/-- The header of a module. -/
def Module.header (m : Module) : Node :=
  ⟨"kModuleHeader", trees m.headerParts⟩

/-- The header of a module is found. -/
lemma firstTagged?_header (m : Module) :
    m.node.firstTagged? Design.moduleHeader = some m.header := by
  rw [Module.node, Design.moduleHeader, firstTagged?_trees (by decide), Module.parts, found_cons,
    nodesTagged_tree_of_eq (name_label _ _)]
  rfl

/-- The ports of a module are found. -/
lemma headerPorts_module (m : Module) : Design.headerPorts m.node = m.ports.map Port.node := by
  have hport : ∀ i p, (Port.listing i p).tree.nodesTagged "kPortDeclaration" = [p.node] :=
    fun i p => nodesTagged_tree_of_lacks rfl (lacks_port_parts (by decide) p) i
  rw [Design.headerPorts, firstTagged?_header]
  change m.header.nodesTagged "kPortDeclaration" = _
  rw [Module.header, nodesTagged_trees_of_ne (by decide),
    found_header (by decide) hport, List.map_eq_flatMap]

/-- The name of a module is found behind the word that opens it. -/
lemma moduleName?_module (m : Module) : Design.moduleName? m.node = some m.name.name.text := by
  have hopening : Design.isIdentifier ⟨"module", "module", m.opening.start, m.opening.stop⟩ =
      false := rfl
  have hname : (m.name.leaf.text != "module") = true := by
    rw [bne_iff_ne]
    exact fun h => m.name.name.not_reserved (h ▸ by decide : m.name.leaf.text ∈ reservedWords)
  have hfound : m.header.leaves.find? (fun l => Design.isIdentifier l && l.text != "module") =
      some m.name.leaf := by
    rw [Module.header, leaves_trees, Module.headerParts, leavesOf_cons, leavesOf_cons, leaves_ident,
      fixed, leaves_tree_leaf, List.singleton_append, List.singleton_append,
      List.find?_cons_of_neg, List.find?_cons_of_pos]
    · rw [isIdentifier_leaf, Bool.true_and]
      exact hname
    · rw [wordTag, hopening]
      simp
  rw [Design.moduleName?, firstTagged?_header]
  simp only [Option.bind_eq_bind, Option.bind_some, hfound]
  rfl

/-- A module starts with the word that opens it. -/
lemma startLine_module (source : List UInt8) (m : Module) :
    Design.startLine source m.node = lineOf source m.opening := by
  have hhead : m.node.leaves.head? =
      some ⟨"module", "module", m.opening.start, m.opening.stop⟩ := by
    rw [Module.node, leaves_trees, Module.parts, leavesOf_cons, leaves_tree_node,
      Module.headerParts, leavesOf_cons, fixed, leaves_tree_leaf]
    rfl
  rw [Design.startLine, hhead]
  rfl

/-! ### The registers of a module -/

/-- The place of a module. -/
def Module.place (m : Module) (source : List UInt8) (file : String) : Design.Place :=
  ⟨source, file, m.name.name.text⟩

/-- What the analysis extracts from a module. -/
def Module.extraction (m : Module) (source : List UInt8) (file : String) : Design.Extraction where
  summary := m.summary source file
  node := m.node
  registers := m.stored.map (declaredAt (m.place source file))

/-- **The extraction of a module** yields its summary, and the variables that store a value. -/
theorem value_extractModule (m : Module) (source : List UInt8) (file : String) :
    (Design.extractModule m.node source file).value = .ok (m.extraction source file) := by
  have hdata : (m.node.nodesTagged Design.dataDeclaration).flatMap
      (fun d => (Design.ofData (m.place source file) d).value) =
        (m.data.flatMap Data.stored).map (declaredAt (m.place source file)) := by
    rw [nodesTagged_data, List.flatMap_map, List.map_flatMap]
    exact List.flatMap_congr fun d _ => value_ofData _ d
  have hports : (Design.headerPorts m.node).flatMap
      (fun p => (Design.ofPort (m.place source file) p).value) =
        (m.ports.flatMap Port.stored).map (declaredAt (m.place source file)) := by
    rw [headerPorts_module, List.flatMap_map, List.map_flatMap]
    exact List.flatMap_congr fun p _ => value_ofPort _ p
  have hregisters : Design.registersOf (m.place source file) m.node =
      m.stored.map (declaredAt (m.place source file)) := by
    rw [Design.registersOf, hdata, hports, ← List.map_append]
    rfl
  rw [Module.place] at hregisters
  rw [Design.value_extractModule, moduleName?_module]
  simp only [hregisters, startLine_module, List.length_map]
  rfl

/-- The extractions of several modules. -/
lemma value_extractAll (modules : List Module) (source : List UInt8) (file : String) :
    (Design.extractAll source file (modules.map Module.node)).value =
      modules.map (·.extraction source file) := by
  induction modules with
  | nil => rfl
  | cons m ms ih =>
    rw [List.map_cons, Design.extractAll, Logged.value_bind, value_extractModule, List.map_cons,
      ← ih]
    rfl

/-- **A declared variable gets the role that the description gives it**: the analysis finds for it
the first block that waits for an edge and assigns it, and otherwise whether any block does. -/
theorem roleIn_declaredAt (m : Module) (source : List UInt8) (file : String) (x : Ident × ℕ) :
    Design.roleIn (m.blocks.map Block.node) (declaredAt (m.place source file) x) =
      m.register source file x := by
  have hclocking : Design.clockingBlock? (m.blocks.map Block.node) x.1.name.text =
      (m.blocks.find? fun b => !b.edges.isEmpty && b.assigns x.1.name.text).map Block.node := by
    rw [Design.clockingBlock?, List.find?_map]
    simp only [Function.comp_def, isEdgeTriggered_block, contains_assignedIn_block]
  have hassigned : (m.blocks.map Block.node).any
      (fun b => (Design.assignedIn b).contains x.1.name.text) =
        m.blocks.any (·.assigns x.1.name.text) := by
    rw [List.any_map]
    simp only [Function.comp_def, contains_assignedIn_block]
  have hname : (declaredAt (m.place source file) x).name = x.1.name.text := rfl
  have hunknown : ¬(declaredAt (m.place source file) x).classification ≠ .potential :=
    not_not_intro rfl
  rw [Design.roleIn, if_neg hunknown, hname, hclocking, hassigned, Module.register]
  cases m.blocks.find? fun b => !b.edges.isEmpty && b.assigns x.1.name.text with
  | none => rfl
  | some b =>
    simp only [Option.map_some, edgeSignals_block]
    rfl

/-- The registers of an extracted module with their roles. -/
lemma value_classifyModule_extraction (m : Module) (source : List UInt8) (file : String) :
    (Design.classifyModule (m.extraction source file).node
      (m.extraction source file).registers).value = m.registers source file := by
  rw [Design.value_classifyModule, Module.extraction, nodesTagged_block, List.map_map,
    Module.registers]
  exact List.map_congr_left fun x _ => roleIn_declaredAt m source file x

/-! ### The inventory of a dump -/

/-- The inventory of the extractions of several modules. -/
lemma value_inventoryOfAll (modules : List Module) (source : List UInt8) (file : String) :
    (Design.inventoryOfAll (modules.map (·.extraction source file))).value =
      inventory modules source file := by
  induction modules with
  | nil => rfl
  | cons m ms ih =>
    rw [List.map_cons, Design.inventoryOfAll, Logged.value_bind, Logged.value_bind,
      Logged.value_pure, ih, value_classifyModule_extraction]
    rfl

/-- **The analysis of the dump of a description yields its inventory.** There is one summary for
each module in order, and there is one register for each variable of a module that stores a value,
with its width, its line and the role that the blocks of this module give it.

**Proof sketch.** The dump is parsed as the tree of its listing (`parse_dumpOf`), in which the
modules are found in order (`found_modules`). Extraction finds the declarations of each module
(`value_extractModule`) and classification its blocks (`roleIn_declaredAt`); both go through the
modules one by one. -/
theorem analyzeDump_dump (modules : List Module) (source : List UInt8) (file : String) :
    (Design.analyzeDump (dump modules) source file).value =
      .ok (inventory modules source file) := by
  have hparse : Dump.parseStandard (dump modules) =
      .ok ⟨"kDescriptionList", trees (numbered Module.listing 0 modules)⟩ :=
    parse_dumpOf (by decide) 0 (label "kDescriptionList") _
  have hmodules : Node.nodesTagged ⟨"kDescriptionList", trees (numbered Module.listing 0 modules)⟩
      Design.moduleDeclaration = modules.map Module.node := by
    rw [nodesTagged_trees_of_ne (by decide), found_modules]
  rw [Design.analyzeDump, hparse]
  change Except.ok (Design.inventoryOf _ source file).value = _
  rw [Design.inventoryOf, Logged.value_bind, Design.extract, hmodules, value_extractAll,
    value_inventoryOfAll]

end FlopCensus.Description
