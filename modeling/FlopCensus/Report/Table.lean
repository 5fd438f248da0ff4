import FlopCensus.Inventory.Basic

set_option autoImplicit false
set_option relaxedAutoImplicit false

/-!
# Tables of a report

The two tables that every textual format shows, as headings and rows of cells. An absent clock or
reset is an empty cell.

## Main definitions

* `FlopCensus.Report.Table`: headings and rows.
* `FlopCensus.Report.registerTable`, `FlopCensus.Report.moduleTable`: the two tables.
* `FlopCensus.Report.Sections`: the parts of a report that are asked for.
-/

namespace FlopCensus.Report

/-- Headings and rows of cells. -/
structure Table where
  /-- The headings of the columns. -/
  headings : List String
  /-- The rows, each with one cell per column. -/
  rows : List (List String)
deriving Repr, DecidableEq

/-- The parts of a report that are asked for. -/
structure Sections where
  /-- The table of registers. -/
  registers : Bool := true
  /-- The table of modules. -/
  modules : Bool := true
deriving Repr, DecidableEq

/-- The headings of the table of registers. -/
def registerHeadings : List String :=
  ["Register", "Module", "Type", "Width", "Clock", "Reset", "File", "Line"]

/-- The headings of the table of modules. -/
def moduleHeadings : List String :=
  ["Module", "Registers", "File", "Line"]

/-- The cells of a register. -/
def registerCells (r : Register) : Except Numeral.Error (List String) := do
  let width ← Numeral.write r.width
  let line ← Numeral.write r.line
  return [r.name, r.module, r.classification.name, width, r.clock.getD "", r.reset.getD "", r.file,
    line]

/-- The cells of a module. -/
def moduleCells (m : ModuleSummary) : Except Numeral.Error (List String) := do
  let count ← Numeral.write m.registerCount
  let line ← Numeral.write m.line
  return [m.name, count, m.file, line]

/-- The table of registers. -/
def registerTable (registers : List Register) : Except Numeral.Error Table :=
  return ⟨registerHeadings, ← registers.mapM registerCells⟩

/-- The table of modules. -/
def moduleTable (modules : List ModuleSummary) : Except Numeral.Error Table :=
  return ⟨moduleHeadings, ← modules.mapM moduleCells⟩

end FlopCensus.Report
