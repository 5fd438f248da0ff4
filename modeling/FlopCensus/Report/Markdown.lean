import FlopCensus.Report.Table

set_option autoImplicit false
set_option relaxedAutoImplicit false

/-!
# Reports in Markdown

A table has a line of headings, a line that aligns the columns to the left, and a line per row,
cells being set between bars. The report is a summary followed by the tables and the failures.

## Main definitions

* `FlopCensus.Report.Markdown.table`: a table.
* `FlopCensus.Report.Markdown.summary`: the totals as a list.
* `FlopCensus.Report.Markdown.report`: the whole report.
-/

namespace FlopCensus.Report.Markdown

/-- A line of cells. -/
def row (cells : List String) : String :=
  "| " ++ " | ".intercalate cells ++ " |"

/-- The mark that aligns a column as wide as its heading. -/
def alignment (heading : String) : String :=
  ":" ++ String.ofList (List.replicate (heading.length + 1) '-')

/-- A table. -/
def table (t : Table) : String :=
  "\n".intercalate
    (row t.headings :: ("|" ++ "|".intercalate (t.headings.map alignment) ++ "|") :: t.rows.map row)

/-- The table of registers. -/
def registers (rs : List Register) : Except Numeral.Error String :=
  return table (← registerTable rs)

/-- The table of modules. -/
def modules (ms : List ModuleSummary) : Except Numeral.Error String :=
  return table (← moduleTable ms)

/-- An item of a list. -/
def item (label value : String) : String :=
  "- " ++ label ++ ": " ++ value

/-- The totals as a list. -/
def summary (inv : Inventory) : Except Numeral.Error String := do
  let bits ← Numeral.write inv.totalBits
  let kinds := inv.byType.map fun (c, n) => item c.name (Numeral.natText n)
  let failed :=
    if inv.failures.isEmpty then []
    else [item "Failed files" (Numeral.natText inv.failures.length)]
  return "\n".intercalate
    ([item "Total registers" (Numeral.natText inv.totalRegisters), item "Total bits" bits] ++
      kinds ++
      failed)

/-- The failures as a list. -/
def failures (fs : List FileFailure) : String :=
  "\n".intercalate (fs.map fun f => item ("`" ++ f.file ++ "`") f.reason)

/-- The whole report. -/
def report (inv : Inventory) (sections : Sections) : Except Numeral.Error String := do
  let head := ["# Register Analysis", ← summary inv]
  let moduleSection ←
    if sections.modules then do pure ["## Modules", ← modules inv.modules] else pure []
  let registerSection ←
    if sections.registers then do pure ["## Registers", ← registers inv.registers] else pure []
  let failureSection := if inv.failures.isEmpty then [] else ["## Failures", failures inv.failures]
  return "\n\n".intercalate (head ++ moduleSection ++ registerSection ++ failureSection)

end FlopCensus.Report.Markdown
