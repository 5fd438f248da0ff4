import FlopCensus.Numeral.Integer

set_option autoImplicit false
set_option relaxedAutoImplicit false

/-!
# Register inventories

The outcome of an analysis: the storage elements of a design, the modules they are declared in, and
the files that could not be analysed. Groupings and totals are functions of the list of registers.

## Main definitions

* `FlopCensus.Classification`: what a storage element is; the set of classifications is open.
* `FlopCensus.Register`, `FlopCensus.ModuleSummary`, `FlopCensus.FileFailure`: the entries.
* `FlopCensus.Inventory`: the three lists.
* `FlopCensus.Inventory.byType`, `FlopCensus.Inventory.byModule`: the grouped views.
* `FlopCensus.Inventory.merge`, `FlopCensus.Inventory.ofModule`: joining and restriction.
-/

namespace FlopCensus

/-- What a storage element is, by name. -/
structure Classification where
  /-- The name in reports. -/
  name : String
deriving Repr, DecidableEq

namespace Classification

/-- A flip-flop, driven by the edge of a clock. -/
def flipFlop : Classification := ⟨"flip_flop"⟩

/-- A latch, driven by a level. -/
def latch : Classification := ⟨"latch"⟩

/-- A declared element whose role is not known yet. -/
def potential : Classification := ⟨"potential_register"⟩

/-- The classifications that an analysis knows, in the order of reports. -/
def known : List Classification := [flipFlop, latch, potential]

end Classification

/-- A declared storage element. -/
structure Register where
  /-- The declared name. -/
  name : String
  /-- The number of bits. -/
  width : Int
  /-- The line of the declaration. -/
  line : Int
  /-- The module that holds the declaration. -/
  module : String
  /-- The file that holds the declaration. -/
  file : String
  /-- The role of the element. -/
  classification : Classification := .potential
  /-- The signal whose edge drives it. -/
  clock : Option String := none
  /-- The second signal of its block's event control. -/
  reset : Option String := none
deriving Repr, DecidableEq

/-- A register in words. -/
def Register.describe (r : Register) : Except Numeral.Error String :=
  return r.classification.name ++ " " ++ r.module ++ "." ++ r.name ++ " [" ++
    (← Numeral.write r.width) ++ "]"

/-- A module and the number of registers in it. -/
structure ModuleSummary where
  /-- The name of the module. -/
  name : String
  /-- The file that declares it. -/
  file : String
  /-- The line where it starts. -/
  line : Int
  /-- The number of registers declared in it. -/
  registerCount : Int := 0
deriving Repr, DecidableEq

/-- A module in words. -/
def ModuleSummary.describe (m : ModuleSummary) : String :=
  "module " ++ m.name

/-- A file that could not be analysed. -/
structure FileFailure where
  /-- The path of the file. -/
  file : String
  /-- Why it could not be analysed. -/
  reason : String
deriving Repr, DecidableEq

/-- Registers, modules and failures of any number of files. -/
structure Inventory where
  /-- The registers in order of declaration. -/
  registers : List Register := []
  /-- The modules in order of declaration. -/
  modules : List ModuleSummary := []
  /-- The files that could not be analysed. -/
  failures : List FileFailure := []
deriving Repr, DecidableEq

namespace Inventory

/-- Nothing at all. -/
def empty : Inventory := {}

/-- The number of registers. -/
def totalRegisters (inv : Inventory) : Nat :=
  inv.registers.length

/-- The number of bits in all registers. -/
def totalBits (inv : Inventory) : Int :=
  (inv.registers.map (·.width)).foldr (· + ·) 0

/-- The keys of a list in order of first occurrence. -/
def distinct {α : Type} [DecidableEq α] : List α → List α
  | [] => []
  | a :: rest => a :: (distinct rest).filter (· ≠ a)

/-- The classifications that occur: the known ones in their order, then the others in order of
first occurrence. -/
def kinds (inv : Inventory) : List Classification :=
  let present := distinct (inv.registers.map (·.classification))
  Classification.known.filter (present.contains ·) ++
    present.filter fun c => !Classification.known.contains c

/-- The number of registers of each classification that occurs. -/
def byType (inv : Inventory) : List (Classification × Nat) :=
  inv.kinds.map fun c => (c, inv.registers.countP fun r => r.classification = c)

/-- The registers of each module that owns any, modules in order of first occurrence. -/
def byModule (inv : Inventory) : List (String × List Register) :=
  (distinct (inv.registers.map (·.module))).map fun m =>
    (m, inv.registers.filter fun r => r.module = m)

/-- Two inventories side by side. -/
def append (a b : Inventory) : Inventory where
  registers := a.registers ++ b.registers
  modules := a.modules ++ b.modules
  failures := a.failures ++ b.failures

/-- Inventories side by side, in order. -/
def merge (parts : List Inventory) : Inventory where
  registers := parts.flatMap (·.registers)
  modules := parts.flatMap (·.modules)
  failures := parts.flatMap (·.failures)

/-- The registers and the summary of one module. Failures stay, for they may have hidden more. -/
def ofModule (inv : Inventory) (name : String) : Inventory where
  registers := inv.registers.filter fun r => r.module = name
  modules := inv.modules.filter fun m => m.name = name
  failures := inv.failures

end Inventory

end FlopCensus
