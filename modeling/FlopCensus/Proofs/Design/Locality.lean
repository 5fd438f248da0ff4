import FlopCensus.Proofs.Design.Classification
import FlopCensus.Proofs.Design.View
import FlopCensus.Proofs.Inventory.Merging
import FlopCensus.Proofs.Tree.Traversal
import Mathlib.Data.List.Basic
import Mathlib.Tactic.Common

set_option autoImplicit false
set_option relaxedAutoImplicit false

/-!
# Modules are analysed by themselves

All searches start at the root of a tree, and the registers of all modules end up in one list. Still
the inventory of a tree is that of its parts side by side, provided that the root is no module: all
that is searched for a module is below it, so that nothing outside of it has an influence on its
registers, their roles or its summary.

## Main definitions

* `FlopCensus.Design.inventoryOfModules` — what some modules contribute, as an inventory.

## Main results

* `FlopCensus.Design.value_inventoryOf_children` — the inventory of a tree is that of the nodes
  below its root, each analysed by itself.
* `FlopCensus.Design.inventoryOf_append` — two lists of children, and a change in one child.
-/

namespace FlopCensus

namespace Design

/-- What some modules contribute, as an inventory. -/
def inventoryOfModules (source : List UInt8) (file : String) (modules : List Node) : Inventory where
  registers := (modules.filterMap (contribution source file)).flatMap Prod.fst
  modules := (modules.filterMap (contribution source file)).map Prod.snd

/-- The modules below the root of a tree are those of the nodes among its children. -/
lemma nodesTagged_children {tag : String} (h : tag ≠ moduleDeclaration) (children : List Tree) :
    (⟨tag, children⟩ : Node).nodesTagged moduleDeclaration =
      (children.filterMap Tree.node?).flatMap (·.nodesTagged moduleDeclaration) := by
  rw [Node.nodesTagged, Node.toTree, Tree.nodesTagged_node, if_neg h, List.nil_append]
  induction children with
  | nil => rfl
  | cons t ts ih =>
    cases t with
    | leaf token =>
      rw [List.flatMap_cons, Tree.nodesTagged_leaf, List.nil_append, ih,
        List.filterMap_cons_none (by rfl)]
    | node tag below =>
      rw [List.flatMap_cons, ih, List.filterMap_cons_some (by rfl), List.flatMap_cons]
      rfl

section Parts

variable (source : List UInt8) (file : String)

/-- The inventory of some groups of modules is that of each group, side by side. -/
lemma inventoryOfModules_flatMap {α : Type} (group : α → List Node) (xs : List α) :
    inventoryOfModules source file (xs.flatMap group) =
      Inventory.merge (xs.map fun x => inventoryOfModules source file (group x)) := by
  simp [inventoryOfModules, Inventory.merge, List.flatMap_map, List.filterMap_flatMap,
    List.flatMap_assoc, List.map_flatMap]

/-- **The inventory of a tree is that of the nodes below its root**, each of them analysed as a tree
of its own, in their order. The root must be no module. -/
theorem value_inventoryOf_children {tag : String} (h : tag ≠ moduleDeclaration)
    (children : List Tree) :
    (inventoryOf ⟨tag, children⟩ source file).value =
      Inventory.merge ((children.filterMap Tree.node?).map fun n =>
        (inventoryOf n source file).value) := by
  have hown : ∀ n : Node, (inventoryOf n source file).value =
      inventoryOfModules source file (n.nodesTagged moduleDeclaration) :=
    fun n => value_inventoryOf_eq n source file
  rw [hown, nodesTagged_children h, inventoryOfModules_flatMap]
  simp only [hown]

/-- **Modules are analysed locally.** If the root of a tree is no module, two lists of children have
the inventories of both lists side by side. Each node below the root has the inventory that it has
as a tree of its own. So whatever is put in place of some children, be it nothing at all, the
inventories of the children before and behind them stay as they are. -/
theorem inventoryOf_append {tag : String} (h : tag ≠ moduleDeclaration) :
    let inventory := fun children => (inventoryOf ⟨tag, children⟩ source file).value
    (∀ children others,
      inventory (children ++ others) = (inventory children).append (inventory others)) ∧
    (∀ children, inventory children = Inventory.merge
      ((children.filterMap Tree.node?).map fun n => (inventoryOf n source file).value)) ∧
    ∀ before changed behind, inventory (before ++ changed ++ behind) =
      ((inventory before).append (inventory changed)).append (inventory behind) := by
  intro inventory
  have hparts : ∀ children, inventory children = Inventory.merge
      ((children.filterMap Tree.node?).map fun n => (inventoryOf n source file).value) :=
    value_inventoryOf_children source file h
  have happend : ∀ children others,
      inventory (children ++ others) = (inventory children).append (inventory others) := by
    intro children others
    rw [hparts, hparts, hparts, List.filterMap_append, List.map_append, Inventory.merge_append]
  exact ⟨happend, hparts, fun before changed behind => by rw [happend, happend]⟩

end Parts

/-- A module that declares `q`, with a list of tokens for its name. -/
def moduleOf (name : List String) (block : Tree) : Tree :=
  .node moduleDeclaration [
    .node moduleHeader (name.map fun text => .leaf ⟨identifier, text, 0, 0⟩),
    .node dataDeclaration [
      .leaf ⟨"reg", "reg", 0, 0⟩,
      .node registerVariable [.leaf ⟨identifier, "q", 0, 0⟩]],
    block]

/-- Registers of one name in two modules, and in one without a name between them: each has the role
that its own module gives it, whatever stands in the first module. -/
theorem inventoryOf_append_sameName :
    let inventory := fun children => (inventoryOf ⟨"kDescriptionList", children⟩ [] "a.sv").value
    let others := [moduleOf [] levelBlock, moduleOf ["n"] levelBlock]
    "kDescriptionList" ≠ moduleDeclaration ∧
      (inventory others).registers.map (fun r => (r.name, r.module, r.classification.name)) =
        [("q", "n", "latch")] ∧
      (∀ first, (inventory (first :: others)).registers =
        (inventory [first]).registers ++ (inventory others).registers) ∧
      (inventory [moduleOf ["m"] (edgeBlock ["clk"])]).registers.map
        (fun r => (r.name, r.module, r.clock)) = [("q", "m", some "clk")] := by
  intro inventory others
  have htag : "kDescriptionList" ≠ moduleDeclaration := by decide
  obtain ⟨happend, -, -⟩ := inventoryOf_append [] "a.sv" htag
  refine ⟨htag, by decide +kernel, fun first => ?_, by decide +kernel⟩
  exact congrArg Inventory.registers (happend [first] others)

end Design

end FlopCensus
