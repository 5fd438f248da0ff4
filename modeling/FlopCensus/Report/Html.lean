import FlopCensus.Report.Table

set_option autoImplicit false
set_option relaxedAutoImplicit false

/-!
# Reports as a web page

A page of its own, with its style sheet in the head: the totals, the two tables and the failures.
Every text from outside is escaped, so none of it can open or close an element.

## Main definitions

* `FlopCensus.Report.Html.escape`: a text as the content of an element or attribute.
* `FlopCensus.Report.Html.registers`, `FlopCensus.Report.Html.modules`: the tables.
* `FlopCensus.Report.Html.page`: a page around the tables.
* `FlopCensus.Report.Html.report`: the page of an inventory.
-/

namespace FlopCensus.Report.Html

/-- One character as the content of an element or attribute. -/
def escapeChar (c : Char) : List Char :=
  if c == '&' then "&amp;".toList
  else if c == '<' then "&lt;".toList
  else if c == '>' then "&gt;".toList
  else if c == '"' then "&quot;".toList
  else [c]

/-- A text as the content of an element or attribute. -/
def escape (s : String) : String :=
  String.ofList (s.toList.flatMap escapeChar)

/-! ### Style sheet -/

/-- A rule of the style sheet. -/
structure StyleRule where
  /-- The elements that the rule is about. -/
  selector : String
  /-- The properties and their values. -/
  declarations : List (String × String)

/-- A rule in the notation of style sheets. -/
def StyleRule.render (r : StyleRule) : String :=
  r.selector ++ " \x7b\n" ++
    String.join (r.declarations.map fun (name, value) =>
      "    " ++ name ++ ": " ++ value ++ ";\n") ++
    "\x7d\n"

/-- The rules of the page. -/
def styles : List StyleRule := [
  ⟨"body", [
    ("font-family", "-apple-system, BlinkMacSystemFont, \"Segoe UI\", Roboto, sans-serif"),
    ("margin", "2rem"), ("color", "#24292f")]⟩,
  ⟨"h1", [("font-size", "1.6rem")]⟩,
  ⟨".summary", [("display", "flex"), ("gap", "1rem"), ("margin-bottom", "1.5rem")]⟩,
  ⟨".stat", [
    ("border", "1px solid #d0d7de"), ("border-radius", "6px"), ("padding", "0.5rem 1rem"),
    ("display", "flex"), ("flex-direction", "column")]⟩,
  ⟨".stat-label", [("font-size", "0.8rem"), ("color", "#57606a")]⟩,
  ⟨".stat-value", [("font-size", "1.3rem"), ("font-weight", "600")]⟩,
  ⟨"table", [("border-collapse", "collapse"), ("margin-bottom", "1.5rem")]⟩,
  ⟨"th, td", [
    ("border", "1px solid #d0d7de"), ("padding", "0.3rem 0.7rem"), ("text-align", "left")]⟩,
  ⟨"th", [("background", "#f6f8fa")]⟩,
  ⟨".reg-name, .module-name", [("font-family", "monospace")]⟩,
  ⟨".reg-width", [("text-align", "right")]⟩,
  ⟨".reg-flip_flop .reg-type", [("color", "#0969da")]⟩,
  ⟨".reg-latch .reg-type", [("color", "#cf222e")]⟩,
  ⟨".empty", [("color", "#57606a"), ("font-style", "italic")]⟩]

/-- The style sheet of the page. -/
def styleSheet : String :=
  "\n".intercalate (styles.map StyleRule.render)

/-! ### Tables -/

/-- A cell, with its class if it has one. The content must have been escaped. -/
def cell (style content : String) : String :=
  if style == "" then "                <td>" ++ content ++ "</td>\n"
  else "                <td class=\"" ++ style ++ "\">" ++ content ++ "</td>\n"

/-- A row of cells, its opening tag being given. -/
def row (opening : String) (cells : List String) : String :=
  opening ++ "\n" ++ String.join cells ++ "            </tr>"

/-- A table with its class, headings and rows; without rows a line that says what is missing. -/
def table (style missing : String) (headings rows : List String) : String :=
  if rows.isEmpty then "<p class=\"empty\">" ++ missing ++ "</p>"
  else
    "<table class=\"" ++ style ++ "\">\n            <thead>\n                <tr>\n" ++
    String.join (headings.map fun h => "                    <th>" ++ h ++ "</th>\n") ++
    "                </tr>\n            </thead>\n            <tbody>\n                " ++
    "\n".intercalate rows ++
    "\n            </tbody>\n        </table>"

/-- The row of a register. -/
def registerRow (r : Register) : Except Numeral.Error String := do
  let width ← Numeral.write r.width
  let line ← Numeral.write r.line
  let kind := escape r.classification.name
  return row ("<tr class=\"reg-" ++ kind ++ "\">") [
    cell "reg-name" (escape r.name),
    cell "" (escape r.module),
    cell "reg-type" kind,
    cell "reg-width" width,
    cell "" (escape (r.clock.getD "")),
    cell "" (escape (r.reset.getD "")),
    cell "reg-location" (escape r.file ++ ":" ++ line)]

/-- The row of a module. -/
def moduleRow (m : ModuleSummary) : Except Numeral.Error String := do
  let count ← Numeral.write m.registerCount
  let line ← Numeral.write m.line
  return row "<tr>" [
    cell "module-name" (escape m.name),
    cell "" count,
    cell "module-location" (escape m.file ++ ":" ++ line)]

/-- The table of registers. -/
def registers (rs : List Register) : Except Numeral.Error String :=
  return table "register-table" "No registers"
    ["Register", "Module", "Type", "Width", "Clock", "Reset", "Location"] (← rs.mapM registerRow)

/-- The table of modules. -/
def modules (ms : List ModuleSummary) : Except Numeral.Error String :=
  return table "module-table" "No modules" ["Module", "Registers", "Location"] (← ms.mapM moduleRow)

/-! ### Page -/

/-- A number of the summary with its label. -/
def stat (style label value : String) : String :=
  "        <div class=\"" ++ style ++ "\"><span class=\"stat-label\">" ++ label ++
    "</span><span class=\"stat-value\">" ++ value ++ "</span></div>\n"

/-- The number of registers of a classification. -/
def kindStat (c : Classification) (count : Nat) : String :=
  let kind := escape c.name
  "\n" ++ stat ("stat stat-" ++ kind) kind (Numeral.natText count) ++ "        "

/-- A section with its heading, or nothing for an empty content. -/
def headed (heading content : String) : String :=
  if content == "" then ""
  else "\n    <h2>" ++ heading ++ "</h2>\n    " ++ content ++ "\n    "

/-- A failure as an item of a list. -/
def failureItem (f : FileFailure) : String :=
  "\n        <li><code>" ++ escape f.file ++ "</code>: " ++ escape f.reason ++ "</li>\n        "

/-- The list of failures, or nothing when there are none. -/
def failureList (fs : List FileFailure) : String :=
  if fs.isEmpty then ""
  else
    "<ul class=\"failures\">\n        " ++ String.join (fs.map failureItem) ++ "\n    </ul>"

/-- A page with the totals of an inventory around two tables that are given as they are to stand. -/
def page (title : String) (inv : Inventory) (moduleTable registerTable : String) :
    Except Numeral.Error String := do
  let bits ← Numeral.write inv.totalBits
  let title := escape title
  return "<!DOCTYPE html>\n<html lang=\"en\">\n<head>\n    <meta charset=\"UTF-8\">\n" ++
    "    <meta name=\"viewport\" content=\"width=device-width, initial-scale=1.0\">\n" ++
    "    <title>" ++ title ++ "</title>\n    <style>\n" ++ styleSheet ++ "\n    </style>\n" ++
    "</head>\n<body>\n    <h1>" ++ title ++ "</h1>\n\n    <section class=\"summary\">\n" ++
    stat "stat" "Registers" (Numeral.natText inv.totalRegisters) ++ stat "stat" "Bits" bits ++
    "        " ++ String.join (inv.byType.map fun (c, n) => kindStat c n) ++
    "\n    </section>\n\n    " ++
    headed "Modules" moduleTable ++ "\n\n    " ++
    headed "Registers" registerTable ++ "\n\n    " ++
    headed "Failures" (failureList inv.failures) ++ "\n</body>\n</html>"

/-- The page of an inventory with the tables that are asked for. -/
def report (inv : Inventory) (sections : Sections) : Except Numeral.Error String := do
  let moduleTable ← if sections.modules then modules inv.modules else pure ""
  let registerTable ← if sections.registers then registers inv.registers else pure ""
  page "Register Analysis" inv moduleTable registerTable

end FlopCensus.Report.Html
