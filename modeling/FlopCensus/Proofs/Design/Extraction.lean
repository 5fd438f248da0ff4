import FlopCensus.Design.Analysis
import FlopCensus.Proofs.Design.Roles
import Mathlib.Data.List.Basic
import Mathlib.Tactic.Common

set_option autoImplicit false
set_option relaxedAutoImplicit false

/-!
# What the extraction yields

The extraction goes through the modules and their declarations one by one and tells what it passes
over. Without the records, each stage is a list function of what the searches find.

## Main results

* `FlopCensus.Design.value_extractModule` — the extraction of a module.
* `FlopCensus.Design.value_extract` — the extractions of a tree.
* `FlopCensus.Design.value_inventoryOf` — the inventory of a tree.
-/

namespace FlopCensus.Design

/-- Collecting goes through the declarations one by one. -/
lemma value_collect (f : Node → Logged (List Register)) (declarations : List Node) :
    (collect f declarations).value = declarations.flatMap fun d => (f d).value := by
  induction declarations with
  | nil => rfl
  | cons d ds ih =>
    rw [collect, Logged.value_bind, Logged.value_bind, Logged.value_pure, ih, List.flatMap_cons]

/-- The kind of a data declaration is the text of its first storage word. -/
lemma declaredKind_eq (d : Node) : declaredKind d =
    ((d.leaves.find? fun l => storageKinds.contains l.text).map (·.text)).getD "wire" := by
  rw [declaredKind]
  cases d.leaves.find? fun l => storageKinds.contains l.text <;> rfl

/-- The kind of a port is the text of its last storage word. -/
lemma portKind_eq (port : Node) : portKind port =
    ((port.leaves.reverse.find? fun l => storageKinds.contains l.text).map (·.text)).getD
      "wire" := by
  rw [portKind]
  cases port.leaves.reverse.find? fun l => storageKinds.contains l.text <;> rfl

/-- The registers of a data declaration. -/
lemma value_ofData (p : Place) (d : Node) : (ofData p d).value =
    if registerKinds.contains (declaredKind d) then
      (declaredNames d).map (p.register (declaredWidth d).value) else [] := by
  rw [ofData]
  split <;> rfl

/-- The registers of a port. -/
lemma value_ofPort (p : Place) (port : Node) : (ofPort p port).value =
    if isOutput port && registerKinds.contains (portKind port) then
      (portNames port).map (p.register (declaredWidth port).value) else [] := by
  rw [ofPort]
  split <;> rfl

/-- The registers that are extracted from a module with a name. -/
def registersOf (p : Place) (module : Node) : List Register :=
  ((module.nodesTagged dataDeclaration).flatMap fun d => (ofData p d).value) ++
    (headerPorts module).flatMap fun port => (ofPort p port).value

/-- **The extraction of a module**: it fails exactly if the module has no name. -/
theorem value_extractModule (module : Node) (source : List UInt8) (file : String) :
    (extractModule module source file).value =
      match moduleName? module with
      | none => .error .unnamed
      | some name =>
        let registers := registersOf ⟨source, file, name⟩ module
        .ok {
          summary :=
            { name, file, line := startLine source module, registerCount := registers.length }
          node := module
          registers } := by
  rw [extractModule]
  cases moduleName? module with
  | none => rfl
  | some name =>
    simp only [Logged.value_bind, Logged.value_pure, value_collect, registersOf]

/-- Modules without a name are passed over. -/
lemma value_extractAll (source : List UInt8) (file : String) (modules : List Node) :
    (extractAll source file modules).value =
      modules.filterMap fun m => (extractModule m source file).value.toOption := by
  induction modules with
  | nil => rfl
  | cons m ms ih =>
    rw [extractAll, Logged.value_bind, List.filterMap_cons, ← ih]
    cases (extractModule m source file).value <;> rfl

/-- **The extractions of a tree** are those of its modules with a name. -/
theorem value_extract (tree : Node) (source : List UInt8) (file : String) :
    (extract tree source file).value =
      (tree.nodesTagged moduleDeclaration).filterMap fun m =>
        (extractModule m source file).value.toOption :=
  value_extractAll source file _

/-- The inventory of some extractions, side by side. -/
lemma value_inventoryOfAll (extractions : List Extraction) :
    (inventoryOfAll extractions).value = {
      registers := extractions.flatMap fun e =>
        e.registers.map (roleIn (e.node.nodesTagged alwaysStatement))
      modules := extractions.map (·.summary)
      failures := [] } := by
  induction extractions with
  | nil => rfl
  | cons e es ih =>
    rw [inventoryOfAll, Logged.value_bind, Logged.value_bind, Logged.value_pure, ih,
      value_classifyModule]
    rfl

/-- **The inventory of a tree**: the extracted registers with their roles. -/
theorem value_inventoryOf (tree : Node) (source : List UInt8) (file : String) :
    (inventoryOf tree source file).value = {
      registers := (extract tree source file).value.flatMap fun e =>
        e.registers.map (roleIn (e.node.nodesTagged alwaysStatement))
      modules := (extract tree source file).value.map (·.summary)
      failures := [] } := by
  rw [inventoryOf, Logged.value_bind, value_inventoryOfAll]

end FlopCensus.Design
