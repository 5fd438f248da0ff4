import FlopCensus.Registry
import FlopCensus.Report.Csv
import FlopCensus.Report.Html
import FlopCensus.Report.Json
import FlopCensus.Report.Markdown

set_option autoImplicit false
set_option relaxedAutoImplicit false

/-!
# Report formats

The formats in which an inventory can be reported, and the registry that offers them by name.

## Main definitions

* `FlopCensus.Report.Format`: the formats.
* `FlopCensus.Report.formats`: the registry of formats.
* `FlopCensus.Report.Format.report`, `FlopCensus.Report.Format.registers`,
  `FlopCensus.Report.Format.modules`: the report and its tables in a format.
-/

namespace FlopCensus.Report

/-- A format, with its settings. -/
inductive Format where
  | markdown
  | csv
  | json (layout : FlopCensus.Json.Layout)
  | html
deriving Repr, DecidableEq

/-- The formats in the order in which they are offered. -/
def formats : Registry Format where
  kind := "renderer"
  entries := [
    ⟨"markdown", "Markdown", .markdown⟩,
    ⟨"csv", "CSV", .csv⟩,
    ⟨"json", "JSON", .json Json.standard⟩,
    ⟨"html", "HTML", .html⟩]

namespace Format

/-- The table of registers. -/
def registers : Format → List Register → Except Numeral.Error String
  | .markdown => Markdown.registers
  | .csv => Csv.registers
  | .json layout => Json.registers layout
  | .html => Html.registers

/-- The table of modules. -/
def modules : Format → List ModuleSummary → Except Numeral.Error String
  | .markdown => Markdown.modules
  | .csv => Csv.modules
  | .json layout => Json.modules layout
  | .html => Html.modules

/-- The report with the sections that are asked for. -/
def report : Format → Inventory → Sections → Except Numeral.Error String
  | .markdown => Markdown.report
  | .csv => Csv.report
  | .json layout => Json.report layout
  | .html => Html.report

end Format

end FlopCensus.Report
