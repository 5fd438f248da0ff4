import FlopCensus.Design.Blocks
import FlopCensus.Dump.Assembly

set_option autoImplicit false
set_option relaxedAutoImplicit false

/-!
# The inventory of a dump

The pure core of the analysis: a tree dump and the bytes of its source file give the registers and
modules of the file.

## Main definitions

* `FlopCensus.Design.inventoryOf`: the inventory of a tree.
* `FlopCensus.Design.analyzeDump`: the inventory of a dump.
-/

namespace FlopCensus.Design

/-- The inventory of some extracted modules, with roles given to their registers. -/
def inventoryOfAll : List Extraction → Logged Inventory
  | [] => return .empty
  | e :: rest => do
    let registers ← classifyModule e.node e.registers
    return Inventory.append { registers, modules := [e.summary] } (← inventoryOfAll rest)

/-- The inventory of a tree. -/
def inventoryOf (tree : Node) (source : List UInt8) (file : String) : Logged Inventory := do
  inventoryOfAll (← extract tree source file)

/-- The inventory of a dump, given the bytes of the file that the dump was made of. -/
def analyzeDump (dump : String) (source : List UInt8) (file : String) :
    Logged (Except Dump.Error Inventory) :=
  match Dump.parseStandard dump with
  | .error e => return .error e
  | .ok tree => return .ok (← inventoryOf tree source file)

end FlopCensus.Design
