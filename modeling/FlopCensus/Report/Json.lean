import FlopCensus.Json.Writer
import FlopCensus.Report.Table

set_option autoImplicit false
set_option relaxedAutoImplicit false

/-!
# Reports in JSON

The inventory as a JSON value, with the groupings and totals next to the lists. Absent clocks and
resets have no member.

## Main definitions

* `FlopCensus.Report.Json.ofRegister`, `FlopCensus.Report.Json.ofModule`,
  `FlopCensus.Report.Json.ofInventory`: entries and inventories as values.
* `FlopCensus.Report.Json.report`: the report in a layout.
-/

namespace FlopCensus.Report.Json

open FlopCensus.Json (Value Layout)

/-- A member that is there only if the text is. -/
def optional (name : String) (text : Option String) : List (String × Value) :=
  match text with
  | some s => [(name, .text s)]
  | none => []

/-- A register as a value. -/
def ofRegister (r : Register) : Value :=
  .object ([("name", .text r.name), ("declaredWidth", .int r.width),
    ("declarationLine", .int r.line), ("classification", .text r.classification.name),
    ("module", .text r.module), ("file", .text r.file)] ++ optional "clock" r.clock ++
    optional "reset" r.reset)

/-- A module as a value. -/
def ofModule (m : ModuleSummary) : Value :=
  .object [("name", .text m.name), ("file", .text m.file), ("declarationLine", .int m.line),
    ("registerCount", .int m.registerCount)]

/-- A failure as a value. -/
def ofFailure (f : FileFailure) : Value :=
  .object [("file", .text f.file), ("reason", .text f.reason)]

/-- Registers as a value. -/
def ofRegisters (rs : List Register) : Value :=
  .array (rs.map ofRegister)

/-- Modules as a value. -/
def ofModules (ms : List ModuleSummary) : Value :=
  .array (ms.map ofModule)

/-- The members of an inventory, of which the sections that are not asked for are left out. -/
def members (inv : Inventory) (sections : Sections) : List (String × Value) :=
  (if sections.registers then [("registers", ofRegisters inv.registers)] else []) ++
  [("totalRegisters", .int inv.totalRegisters),
    ("byType", .object (inv.byType.map fun (c, n) => (c.name, .int n)))] ++
  (if sections.registers then
    [("byModule", .object (inv.byModule.map fun (m, rs) => (m, ofRegisters rs)))] else []) ++
  [("totalBits", .int inv.totalBits)] ++
  (if sections.modules then [("modules", ofModules inv.modules)] else []) ++
  [("failures", .array (inv.failures.map ofFailure))]

/-- An inventory as a value. -/
def ofInventory (inv : Inventory) (sections : Sections) : Value :=
  .object (members inv sections)

/-- The layout of reports that ask for no other. -/
def standard : Layout := .indented 2

/-- The registers in a layout. -/
def registers (layout : Layout) (rs : List Register) : Except Numeral.Error String :=
  FlopCensus.Json.write layout (ofRegisters rs)

/-- The modules in a layout. -/
def modules (layout : Layout) (ms : List ModuleSummary) : Except Numeral.Error String :=
  FlopCensus.Json.write layout (ofModules ms)

/-- The report in a layout. -/
def report (layout : Layout) (inv : Inventory) (sections : Sections) :
    Except Numeral.Error String :=
  FlopCensus.Json.write layout (ofInventory inv sections)

end FlopCensus.Report.Json
