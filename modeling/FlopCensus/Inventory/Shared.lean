import FlopCensus.Inventory.Basic

set_option autoImplicit false
set_option relaxedAutoImplicit false

/-!
# Inventories that share registers

Merging and restricting inventories copies no register: an inventory made from others holds the
same registers, so a register that is classified anew shows its new role in all of them. Here the
registers lie in one pool and an inventory holds their places in it.

## Main definitions

* `FlopCensus.SharedInventories`: the pool and the inventories over it.
* `FlopCensus.SharedInventories.get?`: an inventory as a value.
* `FlopCensus.SharedInventories.merge?`, `FlopCensus.SharedInventories.ofModule?`,
  `FlopCensus.SharedInventories.reclassify?`: the operations.
-/

namespace FlopCensus

/-- An inventory whose registers are places in a pool. -/
structure SharedInventories.View where
  /-- The places of the registers. -/
  places : List Nat
  /-- The modules. -/
  modules : List ModuleSummary
  /-- The failures. -/
  failures : List FileFailure

/-- A pool of registers and inventories over it. -/
structure SharedInventories where
  /-- All registers. -/
  pool : List Register := []
  /-- The inventories in order of creation. -/
  views : List SharedInventories.View := []

namespace SharedInventories

/-- The inventory of a view. -/
def inventory (s : SharedInventories) (v : View) : Inventory where
  registers := v.places.filterMap (s.pool[·]?)
  modules := v.modules
  failures := v.failures

/-- An inventory by number. -/
def get? (s : SharedInventories) (i : Nat) : Option Inventory :=
  s.views[i]?.map s.inventory

/-- Adds an inventory whose registers are new. -/
def add (s : SharedInventories) (inv : Inventory) : SharedInventories where
  pool := s.pool ++ inv.registers
  views := s.views ++
    [⟨(List.range inv.registers.length).map (s.pool.length + ·), inv.modules, inv.failures⟩]

/-- Several inventories, none sharing a register with another. -/
def ofList (inventories : List Inventory) : SharedInventories :=
  inventories.foldl add {}

/-- Adds a view, and gives its inventory. -/
def push (s : SharedInventories) (v : View) : SharedInventories × Inventory :=
  ({ s with views := s.views ++ [v] }, s.inventory v)

/-- Adds the merge of some inventories. -/
def merge? (s : SharedInventories) (numbers : List Nat) :
    Option (SharedInventories × Inventory) := do
  let parts ← numbers.mapM (s.views[·]?)
  return s.push ⟨parts.flatMap (·.places), parts.flatMap (·.modules), parts.flatMap (·.failures)⟩

/-- Adds the restriction of an inventory to a module. -/
def ofModule? (s : SharedInventories) (i : Nat) (name : String) :
    Option (SharedInventories × Inventory) := do
  let v ← s.views[i]?
  let places := v.places.filter fun p => s.pool[p]?.any fun r => r.module = name
  return s.push ⟨places, v.modules.filter fun m => m.name = name, v.failures⟩

/-- Classifies register `r` of inventory `i` anew, and gives the inventory. -/
def reclassify? (s : SharedInventories) (i r : Nat) (c : Classification) :
    Option (SharedInventories × Inventory) := do
  let v ← s.views[i]?
  let place ← v.places[r]?
  let s := { s with pool := s.pool.modify place fun x => { x with classification := c } }
  return (s, s.inventory v)

end SharedInventories

end FlopCensus
