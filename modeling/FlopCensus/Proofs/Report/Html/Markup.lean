import FlopCensus.Proofs.Inventory.Kinds
import FlopCensus.Proofs.Report.Html.Escape
import FlopCensus.Proofs.Report.Table
import Mathlib.Tactic.Common

set_option autoImplicit false
set_option relaxedAutoImplicit false

/-!
# The markup of web pages

The markup of a page depends on how many entries there are in an inventory, and not on what they
are: every text from outside stands in it as an inert one.

## Main definitions

* `FlopCensus.Report.Html.registersText`, `FlopCensus.Report.Html.modulesText` — the tables.
* `FlopCensus.Report.Html.markup` — the characters of a text that open or close tags and values.

## Main results

* `FlopCensus.Report.Html.nodup_labels` — the classifications in the summary.
* `FlopCensus.Report.Html.report_of_isWritable` — the page is there if the integers can be written.
* `FlopCensus.Report.Html.markup_page_eq` — pages around tables with the same markup.
* `FlopCensus.Report.Html.markup_report_eq` — pages of inventories of the same size.

## Design

All rows of one kind have the same markup (`markup_registerText`), so that the markup of a table is
a matter of the number of its rows.
-/

namespace FlopCensus

open Numeral (intText natText)

namespace Report.Html

/-! ### Pieces of a page -/

/-- The row of a register whose integers can be written. -/
def registerText (r : Register) : String :=
  row ("<tr class=\"reg-" ++ escape r.classification.name ++ "\">") [
    cell "reg-name" (escape r.name),
    cell "" (escape r.module),
    cell "reg-type" (escape r.classification.name),
    cell "reg-width" (intText r.width),
    cell "" (escape (r.clock.getD "")),
    cell "" (escape (r.reset.getD "")),
    cell "reg-location" (escape r.file ++ ":" ++ intText r.line)]

/-- The row of a module whose integers can be written. -/
def moduleText (m : ModuleSummary) : String :=
  row "<tr>" [
    cell "module-name" (escape m.name),
    cell "" (intText m.registerCount),
    cell "module-location" (escape m.file ++ ":" ++ intText m.line)]

/-- The table of registers whose integers can be written. -/
def registersText (rs : List Register) : String :=
  table "register-table" "No registers"
    ["Register", "Module", "Type", "Width", "Clock", "Reset", "Location"] (rs.map registerText)

/-- The table of modules whose integers can be written. -/
def modulesText (ms : List ModuleSummary) : String :=
  table "module-table" "No modules" ["Module", "Registers", "Location"] (ms.map moduleText)

lemma registers_of_isWritable {rs : List Register} (h : ∀ r ∈ rs, r.IsWritable) :
    registers rs = .ok (registersText rs) := by
  have hrows : ∀ r ∈ rs, registerRow r = .ok (registerText r) := fun r hr => by
    rw [registerRow, (h r hr).width.write_eq, (h r hr).line.write_eq]
    rfl
  rw [registers, mapM_eq_ok hrows]
  rfl

lemma modules_of_isWritable {ms : List ModuleSummary} (h : ∀ m ∈ ms, m.IsWritable) :
    modules ms = .ok (modulesText ms) := by
  have hrows : ∀ m ∈ ms, moduleRow m = .ok (moduleText m) := fun m hm => by
    rw [moduleRow, (h m hm).count.write_eq, (h m hm).line.write_eq]
    rfl
  rw [modules, mapM_eq_ok hrows]
  rfl

/-! ### Markup -/

/-- The markup in a text. -/
def markup (s : String) : List Char :=
  s.toList.filter isMarkup

lemma markup_append (s t : String) : markup (s ++ t) = markup s ++ markup t := by
  rw [markup, String.toList_append, List.filter_append]
  rfl

lemma markup_join (ss : List String) : markup (String.join ss) = ss.flatMap markup := by
  rw [markup, String.toList_join, List.filter_flatMap]
  rfl

/-- There is no markup in a text without any. -/
lemma IsInert.markup_eq {s : String} (h : IsInert s) : markup s = [] :=
  List.filter_eq_nil_iff.2 fun c hc => by simp [h c hc]

/-- The markup of joined texts, if there is none between them. -/
lemma markup_intercalate {sep : String} (h : IsInert sep) (ss : List String) :
    markup (sep.intercalate ss) = ss.flatMap markup := by
  induction ss with
  | nil => rfl
  | cons s ss ih =>
    cases ss with
    | nil => simp
    | cons t ss =>
      rw [String.intercalate_cons_cons, markup_append, markup_append, h.markup_eq, ih,
        List.append_nil]
      rfl

/-- The markup of a cell, whatever is in it. -/
def cellMarkup (style : String) : List Char :=
  markup (cell style "")

lemma markup_cell {style content : String} (h : IsInert content) :
    markup (cell style content) = cellMarkup style := by
  rw [cellMarkup, cell, cell]
  split <;> simp only [markup_append, h.markup_eq] <;> rfl

lemma markup_registerText (r r' : Register) :
    markup (registerText r) = markup (registerText r') := by
  simp only [registerText, row, markup_append, String.join_cons, (isInert_escape _).markup_eq]
  simp only [markup_cell (isInert_escape _), markup_cell (isInert_intText _),
    markup_cell (isInert_location _ _)]

lemma markup_moduleText (m m' : ModuleSummary) :
    markup (moduleText m) = markup (moduleText m') := by
  simp only [moduleText, row, markup_append, String.join_cons]
  simp only [markup_cell (isInert_escape _), markup_cell (isInert_intText _),
    markup_cell (isInert_location _ _)]

lemma markup_kindStat (c c' : Classification) (n n' : ℕ) :
    markup (kindStat c n) = markup (kindStat c' n') := by
  unfold kindStat stat
  simp only [markup_append, (isInert_escape _).markup_eq, (isInert_natText _).markup_eq]

lemma markup_failureItem (f f' : FileFailure) :
    markup (failureItem f) = markup (failureItem f') := by
  unfold failureItem
  simp only [markup_append, (isInert_escape _).markup_eq]

/-- Pieces with the same markup have together as much markup as there are pieces. -/
lemma flatMap_markup_eq {α : Type} {text : α → String}
    (htext : ∀ x y, markup (text x) = markup (text y)) {xs ys : List α}
    (hlength : xs.length = ys.length) :
    (xs.map text).flatMap markup = (ys.map text).flatMap markup := by
  induction xs generalizing ys with
  | nil => rw [List.length_eq_zero_iff.1 hlength.symm]
  | cons x xs ih =>
    obtain ⟨y, ys, rfl⟩ := List.exists_cons_of_length_eq_add_one hlength.symm
    rw [List.map_cons, List.map_cons, List.flatMap_cons, List.flatMap_cons, htext x y,
      ih (Nat.succ.inj hlength)]

/-- Tables with the same number of rows have the same markup. -/
lemma markup_table_eq {α : Type} {text : α → String}
    (htext : ∀ x y, markup (text x) = markup (text y)) {xs ys : List α}
    (hlength : xs.length = ys.length) (style missing : String) (headings : List String) :
    markup (table style missing headings (xs.map text)) =
      markup (table style missing headings (ys.map text)) := by
  have hempty : (xs.map text).isEmpty = (ys.map text).isEmpty := by
    rw [List.isEmpty_map, List.isEmpty_map, Bool.eq_iff_iff, List.isEmpty_iff_length_eq_zero,
      List.isEmpty_iff_length_eq_zero, hlength]
  have hbreak : IsInert "\n" := by decide
  rw [table, table, hempty]
  split
  · rfl
  · simp only [markup_append, markup_intercalate hbreak, flatMap_markup_eq htext hlength]

lemma markup_failureList_eq {fs gs : List FileFailure} (h : fs.length = gs.length) :
    markup (failureList fs) = markup (failureList gs) := by
  have hempty : fs.isEmpty = gs.isEmpty := by
    rw [Bool.eq_iff_iff, List.isEmpty_iff_length_eq_zero, List.isEmpty_iff_length_eq_zero, h]
  rw [failureList, failureList, hempty]
  split
  · rfl
  · simp only [markup_append, markup_join, flatMap_markup_eq markup_failureItem h]

/-- Summaries of the same number of classifications have the same markup. -/
lemma markup_kindStats_eq {xs ys : List (Classification × ℕ)} (h : xs.length = ys.length) :
    markup (String.join (xs.map fun (c, n) => kindStat c n)) =
      markup (String.join (ys.map fun (c, n) => kindStat c n)) := by
  rw [markup_join, markup_join]
  refine flatMap_markup_eq ?_ h
  rintro ⟨c, n⟩ ⟨c', n'⟩
  exact markup_kindStat c c' n n'

/-- There is a list of failures for both or for neither of them. -/
lemma failureList_eq_empty_iff {fs gs : List FileFailure} (h : fs.length = gs.length) :
    failureList fs = "" ↔ failureList gs = "" := by
  have hempty : ∀ fs : List FileFailure, failureList fs = "" ↔ fs.length = 0 := by
    intro fs
    cases fs with
    | nil => simp [failureList]
    | cons f fs => simp [failureList]
  rw [hempty, hempty, h]

/-- The classifications in the summary are told apart by their labels. -/
theorem nodup_labels (inv : Inventory) : (inv.kinds.map fun c => escape c.name).Nodup :=
  inv.nodup_kinds.map fun _ _ h => Classification.name_injective (escape_injective h)

/-! ### Pages -/

/-- A section is there for both contents or for neither of them. -/
lemma markup_headed_eq {s t : String} (hempty : s = "" ↔ t = "") (h : markup s = markup t)
    (heading : String) : markup (headed heading s) = markup (headed heading t) := by
  unfold headed
  by_cases hs : s = ""
  · rw [hs, hempty.1 hs]
  · rw [if_neg (by simpa using hs), if_neg (by simpa using mt hempty.2 hs)]
    simp only [markup_append, h]

/-- Numbers of the summary have the same markup. -/
lemma markup_stat_eq {v w : String} (hv : IsInert v) (hw : IsInert w) (style label : String) :
    markup (stat style label v) = markup (stat style label w) := by
  unfold stat
  simp only [markup_append, hv.markup_eq, hw.markup_eq]

/-- **The markup of a page** depends on the number of classifications and failures, and on the
markup of the tables in it. -/
theorem markup_page_eq {a b : Inventory} {ma mb ra rb p q : String} (title : String)
    (ha : Numeral.IsWritable a.totalBits) (hb : Numeral.IsWritable b.totalBits)
    (hkinds : a.byType.length = b.byType.length)
    (hfailures : a.failures.length = b.failures.length) (hm : ma = "" ↔ mb = "")
    (hmodules : markup ma = markup mb) (hr : ra = "" ↔ rb = "")
    (hregisters : markup ra = markup rb) (hp : page title a ma ra = .ok p)
    (hq : page title b mb rb = .ok q) : markup p = markup q := by
  unfold page at hp hq
  rw [ha.write_eq] at hp
  rw [hb.write_eq] at hq
  obtain rfl := Except.ok.inj hp
  obtain rfl := Except.ok.inj hq
  have hcount := markup_stat_eq (isInert_natText a.totalRegisters)
    (isInert_natText b.totalRegisters) "stat" "Registers"
  have hbits := markup_stat_eq (isInert_intText a.totalBits) (isInert_intText b.totalBits)
    "stat" "Bits"
  have hkindStats := markup_kindStats_eq hkinds
  have hmoduleSection := markup_headed_eq hm hmodules "Modules"
  have hregisterSection := markup_headed_eq hr hregisters "Registers"
  have hfailureSection := markup_headed_eq (failureList_eq_empty_iff hfailures)
    (markup_failureList_eq hfailures) "Failures"
  simp only [markup_append, hcount, hbits, hkindStats, hmoduleSection, hregisterSection,
    hfailureSection]

/-! ### Reports -/

/-- A table is there even without rows. -/
lemma table_ne_empty (style missing : String) (headings rows : List String) :
    table style missing headings rows ≠ "" := by
  unfold table
  split <;> simp

section Reports

variable {inv : Inventory} (h : inv.IsWritable)

include h

/-- A report is a page with the tables that are asked for. -/
lemma report_of_isWritable (sections : Sections) :
    report inv sections = page "Register Analysis" inv
      (if sections.modules then modulesText inv.modules else "")
      (if sections.registers then registersText inv.registers else "") := by
  rw [report, modules_of_isWritable h.modules, registers_of_isWritable h.registers]
  obtain ⟨_ | _, _ | _⟩ := sections <;> rfl

/-- A page is there if the number of bits can be written. -/
lemma exists_report (sections : Sections) : ∃ p, report inv sections = .ok p := by
  rw [report_of_isWritable h]
  unfold page
  rw [h.bits.write_eq]
  exact ⟨_, rfl⟩

end Reports

/-- **Pages of the same size have the same markup**, whatever the entries of the inventories are. -/
theorem markup_report_eq {a b : Inventory} {sections : Sections} {p q : String}
    (ha : a.IsWritable) (hb : b.IsWritable)
    (hregisters : a.registers.length = b.registers.length)
    (hmodules : a.modules.length = b.modules.length)
    (hfailures : a.failures.length = b.failures.length)
    (hkinds : a.byType.length = b.byType.length) (hp : report a sections = .ok p)
    (hq : report b sections = .ok q) : markup p = markup q := by
  rw [report_of_isWritable ha] at hp
  rw [report_of_isWritable hb] at hq
  have hmoduleTables : markup (modulesText a.modules) = markup (modulesText b.modules) :=
    markup_table_eq markup_moduleText hmodules _ _ _
  have hregisterTables : markup (registersText a.registers) = markup (registersText b.registers) :=
    markup_table_eq markup_registerText hregisters _ _ _
  refine markup_page_eq _ ha.bits hb.bits hkinds hfailures ?_ ?_ ?_ ?_ hp hq
  · split <;> simp [modulesText, table_ne_empty]
  · split
    · exact hmoduleTables
    · rfl
  · split <;> simp [registersText, table_ne_empty]
  · split
    · exact hregisterTables
    · rfl

end Report.Html

end FlopCensus
