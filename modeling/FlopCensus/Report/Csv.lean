import FlopCensus.Report.Table

set_option autoImplicit false
set_option relaxedAutoImplicit false

/-!
# Reports as comma-separated values

A record ends with `\r\n`, the last one aside. A field that holds a comma, a quote or a line end
stands in quotes, a quote inside being written twice.

## Main definitions

* `FlopCensus.Report.Csv.field`: a field.
* `FlopCensus.Report.Csv.table`: a table with its headings as the first record.
* `FlopCensus.Report.Csv.report`: the tables that are asked for.
-/

namespace FlopCensus.Report.Csv

/-- The character has a meaning outside quotes. -/
def isSpecial (c : Char) : Bool :=
  c == ',' || c == '"' || c == '\r' || c == '\n'

/-- The characters of a quoted field. -/
def doubled (s : List Char) : List Char :=
  s.flatMap fun c => if c == '"' then ['"', '"'] else [c]

/-- A field, in quotes where they are needed. -/
def field (s : String) : String :=
  if s.toList.any isSpecial then String.ofList ('"' :: doubled s.toList ++ ['"']) else s

/-- A record without its end. -/
def record (cells : List String) : String :=
  ",".intercalate (cells.map field)

/-- A table with its headings as the first record. -/
def table (t : Table) : String :=
  "\r\n".intercalate ((t.headings :: t.rows).map record)

/-- The table of registers. -/
def registers (rs : List Register) : Except Numeral.Error String :=
  return table (← registerTable rs)

/-- The table of modules. -/
def modules (ms : List ModuleSummary) : Except Numeral.Error String :=
  return table (← moduleTable ms)

/-- The tables that are asked for, one after the other. -/
def report (inv : Inventory) (sections : Sections) : Except Numeral.Error String := do
  let moduleSection ← if sections.modules then do pure [← modules inv.modules] else pure []
  let registerSection ← if sections.registers then do pure [← registers inv.registers] else pure []
  return "\n\n".intercalate (moduleSection ++ registerSection)

end FlopCensus.Report.Csv
