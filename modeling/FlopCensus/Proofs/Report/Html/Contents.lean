import FlopCensus.Proofs.Report.Html.Markup
import Mathlib.Tactic.Common

set_option autoImplicit false
set_option relaxedAutoImplicit false

/-!
# Web pages read back

A reader of pages goes from tag to tag. It keeps the text between the tags of a cell, and those
around the file and the reason of a failure, if no other tag comes between. What it finds in the
page of an inventory are the texts of its entries in order, whatever characters are in them.

## Main definitions

* `FlopCensus.Report.Html.Place` — the places of a page where a text from outside is shown.
* `FlopCensus.Report.Html.Reader` — a reader in the middle of a page.
* `FlopCensus.Report.Html.contents` — what a reader finds.
* `FlopCensus.Inventory.shown` — what there is to find.

## Main results

* `FlopCensus.Report.Html.shows_cell`, `FlopCensus.Report.Html.shows_failureItem` — the texts in a
  cell and in a failure.
* `FlopCensus.Report.Html.shows_page` — the texts in a page.
* `FlopCensus.Report.Html.contents_report` — the texts in the page of an inventory.
* `FlopCensus.Report.Html.report_of_same_size` — the pages of two inventories.

## Design

A page is put together from pieces that begin and end outside of tags and places, so that reading
the pieces one after another is reading the page (`Shows.append`). Within a piece the reader passes
through other states; the lemma about the piece tells them before and behind each text from outside,
and what is written out between these texts is computed.
-/

namespace FlopCensus

open Numeral (intText natText)

namespace Report.Html

/-! ### A reader of pages -/

/-- Where a page shows a text from outside. -/
inductive Place where
  /-- In a cell of a table. -/
  | cell
  /-- In front of a failure: the file. -/
  | file
  /-- In a failure behind the file: the reason. -/
  | reason
deriving DecidableEq, Repr

namespace Place

/-- The name of the tag in front of the content. -/
def opening : Place → List Char
  | cell => ['t', 'd']
  | file => ['c', 'o', 'd', 'e']
  | reason => ['/', 'c', 'o', 'd', 'e']

/-- The name of the tag behind the content. -/
def closing : Place → List Char
  | cell => ['/', 't', 'd']
  | file => ['/', 'c', 'o', 'd', 'e']
  | reason => ['/', 'l', 'i']

/-- The place whose content begins behind a tag. -/
def behind? (tag : List Char) : Option Place :=
  [cell, file, reason].find? (·.opening = tag)

end Place

/-- Where a reader stands with respect to tags. -/
inductive Position where
  /-- Outside of them. -/
  | outside
  /-- In the name of a tag, behind the given characters. -/
  | name (chars : List Char)
  /-- Among the attributes of a tag with the given name. -/
  | attributes (name : List Char)
deriving DecidableEq

/-- A reader in the middle of a page. -/
structure Reader where
  /-- Where it stands. -/
  position : Position := .outside
  /-- What it has read of the content of a place. -/
  content : Option (Place × List Char) := none
deriving DecidableEq

namespace Reader

/-- At the end of a tag the content of a place is complete if this is its closing tag. -/
def endTag (r : Reader) (tag : List Char) : Reader × List (Place × List Char) :=
  ({ content := (Place.behind? tag).map (·, []) }, (r.content.filter (·.1.closing = tag)).toList)

/-- The reader behind a character, and the content that is complete then. -/
def step (r : Reader) (c : Char) : Reader × List (Place × List Char) :=
  match r.position with
  | .outside =>
    if c = '<' then ({ r with position := .name [] }, [])
    else ({ r with content := r.content.map fun (place, s) => (place, s ++ [c]) }, [])
  | .name chars =>
    if c = '>' then r.endTag chars
    else if c = ' ' then ({ r with position := .attributes chars }, [])
    else ({ r with position := .name (chars ++ [c]) }, [])
  | .attributes name => if c = '>' then r.endTag name else (r, [])

/-- The reader behind some characters, and the contents that are complete then. -/
def run (r : Reader) : List Char → Reader × List (Place × List Char)
  | [] => (r, [])
  | c :: s => (((r.step c).1.run s).1, (r.step c).2 ++ ((r.step c).1.run s).2)

end Reader

/-- What a reader finds in the cells and failures of a page. -/
def contents (refs : References) (page : String) : List (Place × String) :=
  (Reader.run {} page.toList).2.map fun (place, s) => (place, String.ofList (refs.unescape s))

end Report.Html

/-! ### What there is to find -/

open Report.Html

/-- The texts that a page shows of a register. -/
def Register.shown (r : Register) : List (Place × String) :=
  [r.name, r.module, r.classification.name, intText r.width, r.clock.getD "", r.reset.getD "",
    r.file ++ ":" ++ intText r.line].map (.cell, ·)

/-- The texts that a page shows of a module. -/
def ModuleSummary.shown (m : ModuleSummary) : List (Place × String) :=
  [m.name, intText m.registerCount, m.file ++ ":" ++ intText m.line].map (.cell, ·)

/-- The texts that a page shows of a failure. -/
def FileFailure.shown (f : FileFailure) : List (Place × String) :=
  [(.file, f.file), (.reason, ": " ++ f.reason)]

/-- The texts that a page shows of an inventory. -/
def Inventory.shown (inv : Inventory) (sections : Report.Sections) : List (Place × String) :=
  (if sections.modules then inv.modules.flatMap ModuleSummary.shown else []) ++
    (if sections.registers then inv.registers.flatMap Register.shown else []) ++
    inv.failures.flatMap FileFailure.shown

namespace Report.Html

/-! ### Reading in parts -/

/-- Reading a text leads from one state to another, some contents being complete then. -/
def Reads (r : Reader) (s : String) (r' : Reader) (found : List (Place × List Char)) : Prop :=
  r.run s.toList = (r', found)

/-- A piece of a page begins and ends outside of tags and places. -/
def Shows (s : String) (found : List (Place × List Char)) : Prop :=
  Reads {} s {} found

lemma Reads.append {r r' r'' : Reader} {s t : String} {xs ys : List (Place × List Char)}
    (h : Reads r s r' xs) (h' : Reads r' t r'' ys) : Reads r (s ++ t) r'' (xs ++ ys) := by
  have hrun : ∀ (r : Reader) (u v : List Char),
      r.run (u ++ v) = (((r.run u).1.run v).1, (r.run u).2 ++ ((r.run u).1.run v).2) := by
    intro r u v
    induction u generalizing r with
    | nil => rfl
    | cons c u ih => rw [List.cons_append, Reader.run, ih, Reader.run, List.append_assoc]
  rw [Reads] at h h'
  rw [Reads, String.toList_append, hrun, h, h']

/-- A text that is written out. -/
lemma Reads.of_chars {r r' : Reader} {chars : List Char} {found : List (Place × List Char)}
    (h : r.run chars = (r', found)) : Reads r (String.ofList chars) r' found := by
  rw [Reads, String.toList_ofList, h]

/-- Outside of tags an inert text belongs to the content. -/
lemma reads_content {s : String} (h : IsInert s) (place : Place) (before : List Char) :
    Reads { content := some (place, before) } s { content := some (place, before ++ s.toList) }
      [] := by
  rw [Reads]
  rw [IsInert] at h
  generalize s.toList = chars at h ⊢
  induction chars generalizing before with
  | nil => simp [Reader.run]
  | cons c s ih =>
    obtain ⟨hc, hs⟩ := List.forall_mem_cons.1 h
    have hopen : c ≠ '<' := by
      rintro rfl
      exact absurd hc (by decide)
    have hstep : Reader.step { content := some (place, before) } c =
        ({ content := some (place, before ++ [c]) }, []) := if_neg hopen
    rw [Reader.run, hstep, ih _ hs, List.append_assoc]
    rfl

/-- Outside of tags and places a text without tags is of no account. -/
lemma shows_of_no_tag {s : String} (h : '<' ∉ s.toList) : Shows s [] := by
  rw [Shows, Reads]
  generalize s.toList = chars at h ⊢
  induction chars with
  | nil => rfl
  | cons c s ih =>
    obtain ⟨hc, hs⟩ := not_or.1 (mt List.mem_cons.2 h)
    have hstep : Reader.step {} c = ({}, []) := if_neg (Ne.symm hc)
    rw [Reader.run, hstep, ih hs]
    rfl

lemma shows_of_isInert {s : String} (h : IsInert s) : Shows s [] :=
  shows_of_no_tag fun hmem => absurd (h _ hmem) (by decide)

/-- Among the attributes of a tag an inert text is of no account. -/
lemma reads_attributes {s : String} (h : IsInert s) (name : List Char) :
    Reads { position := .attributes name } s { position := .attributes name } [] := by
  rw [Reads]
  rw [IsInert] at h
  generalize s.toList = chars at h ⊢
  induction chars with
  | nil => rfl
  | cons c s ih =>
    obtain ⟨hc, hs⟩ := List.forall_mem_cons.1 h
    have hclose : c ≠ '>' := by
      rintro rfl
      exact absurd hc (by decide)
    have hstep : Reader.step { position := .attributes name } c =
        ({ position := .attributes name }, []) := if_neg hclose
    rw [Reader.run, hstep, ih hs]
    rfl

/-- Pieces are read one after another. -/
lemma Shows.append {s t : String} {xs ys : List (Place × List Char)} (h : Shows s xs)
    (h' : Shows t ys) : Shows (s ++ t) (xs ++ ys) :=
  Reads.append h h'

section Pieces

variable {α : Type} {text : α → String} {shown : α → List (Place × List Char)} {xs : List α}
  (h : ∀ x ∈ xs, Shows (text x) (shown x))

include h

lemma shows_join : Shows (String.join (xs.map text)) (xs.flatMap shown) := by
  induction xs with
  | nil => rfl
  | cons x xs ih =>
    obtain ⟨hx, hxs⟩ := List.forall_mem_cons.1 h
    rw [List.map_cons, String.join_cons]
    exact hx.append (ih hxs)

lemma shows_lines : Shows ("\n".intercalate (xs.map text)) (xs.flatMap shown) := by
  have hbreak : Shows "\n" [] := .of_chars rfl
  induction xs with
  | nil => rfl
  | cons x xs ih =>
    obtain ⟨hx, hxs⟩ := List.forall_mem_cons.1 h
    cases xs with
    | nil => simpa using hx
    | cons y ys =>
      rw [List.map_cons, List.map_cons, String.intercalate_cons_cons]
      simpa using (hx.append hbreak).append (ih hxs)

end Pieces

/-! ### Pieces of a page -/

/-- Texts as they stand in a page. -/
def escaped (shown : List (Place × String)) : List (Place × List Char) :=
  shown.map fun (place, s) => (place, (escape s).toList)

/-- Texts of several pieces. -/
lemma flatMap_escaped {α : Type} (shown : α → List (Place × String)) (xs : List α) :
    (xs.flatMap fun x => escaped (shown x)) = escaped (xs.flatMap shown) := by
  rw [escaped, List.map_flatMap]
  rfl

/-- Pieces that show nothing. -/
lemma flatMap_nothing {α : Type} (xs : List α) :
    (xs.flatMap fun _ => ([] : List (Place × List Char))) = [] :=
  List.flatMap_eq_nil_iff.2 fun _ _ => rfl

/-- A cell shows its text. -/
lemma shows_cell {style : String} (hstyle : IsInert style) (s : String) :
    Shows (cell style (escape s)) (escaped [(.cell, s)]) := by
  have hcontent := reads_content (isInert_escape s) .cell []
  have hend : ∀ chars, Reads { content := some (.cell, chars) } "</td>\n" {} [(.cell, chars)] :=
    fun _ => .of_chars rfl
  rw [List.nil_append] at hcontent
  rw [cell]
  split
  · have hopen : Reads {} "                <td>" { content := some (.cell, []) } [] :=
      .of_chars rfl
    exact (hopen.append hcontent).append (hend _)
  · have hname : Reads {} "                <td class=\"" { position := .attributes ['t', 'd'] }
        [] := .of_chars rfl
    have hclose : Reads { position := .attributes ['t', 'd'] } "\">" { content := some (.cell, []) }
        [] := .of_chars rfl
    exact (((hname.append (reads_attributes hstyle _)).append hclose).append hcontent).append
      (hend _)

/-- A row shows what its cells show. -/
lemma shows_row {opening : String} (hopening : Shows opening []) (cells : List (String × String))
    (hstyle : ∀ c ∈ cells, IsInert c.1) :
    Shows (row opening (cells.map fun c => cell c.1 (escape c.2)))
      (escaped (cells.map fun c => (.cell, c.2))) := by
  have hcell : ∀ c ∈ cells, Shows (cell c.1 (escape c.2)) (escaped [(.cell, c.2)]) :=
    fun c hc => shows_cell (hstyle c hc) c.2
  have hcells := shows_join hcell
  have hfound : cells.flatMap (fun c => escaped [(.cell, c.2)]) =
      escaped (cells.map fun c => (.cell, c.2)) := by
    simp only [escaped, List.map_cons, List.map_nil, List.map_map]
    exact List.flatMap_pure_eq_map _ _
  have hbreak : Shows "\n" [] := .of_chars rfl
  have hend : Shows "            </tr>" [] := .of_chars rfl
  rw [hfound] at hcells
  unfold row
  simpa using ((hopening.append hbreak).append hcells).append hend

/-- A heading shows nothing. -/
lemma shows_heading {heading : String} (h : IsInert heading) :
    Shows ("                    <th>" ++ heading ++ "</th>\n") [] := by
  have hopen : Shows "                    <th>" [] := .of_chars rfl
  have hend : Shows "</th>\n" [] := .of_chars rfl
  exact (hopen.append (shows_of_isInert h)).append hend

/-- A table shows what its rows show. -/
lemma shows_table {α : Type} {text : α → String} {shown : α → List (Place × List Char)}
    (htext : ∀ x, Shows (text x) (shown x)) {style missing : String} (hstyle : IsInert style)
    (hmissing : IsInert missing) {headings : List String} (hheadings : ∀ h ∈ headings, IsInert h)
    (xs : List α) : Shows (table style missing headings (xs.map text)) (xs.flatMap shown) := by
  unfold table
  cases xs with
  | nil =>
    have hopen : Shows "<p class=\"empty\">" [] := .of_chars rfl
    have hend : Shows "</p>" [] := .of_chars rfl
    exact (hopen.append (shows_of_isInert hmissing)).append hend
  | cons x xs =>
    have hname : Reads {} "<table class=\"" { position := .attributes "table".toList } [] :=
      .of_chars rfl
    have hclose : Reads { position := .attributes "table".toList }
        "\">\n            <thead>\n                <tr>\n" {} [] := .of_chars rfl
    have hopen := (hname.append (reads_attributes hstyle _)).append hclose
    have hhead := shows_join fun h hh => shows_heading (hheadings h hh)
    have hbody : Shows
        "                </tr>\n            </thead>\n            <tbody>\n                " [] :=
      .of_chars (by decide +kernel)
    have hrow : ∀ y ∈ x :: xs, Shows (text y) (shown y) := fun y _ => htext y
    have hrows := shows_lines hrow
    have hend : Shows "\n            </tbody>\n        </table>" [] := .of_chars rfl
    rw [flatMap_nothing] at hhead
    rw [if_neg (by simp)]
    simpa using (((Shows.append hopen hhead).append hbody).append hrows).append hend

/-- The row of a register shows its texts. -/
lemma shows_registerText (r : Register) : Shows (registerText r) (escaped r.shown) := by
  have hname : Reads {} "<tr class=\"reg-" { position := .attributes ['t', 'r'] } [] :=
    .of_chars rfl
  have hclose : Reads { position := .attributes ['t', 'r'] } "\">" {} [] := .of_chars rfl
  have hopening :=
    (hname.append (reads_attributes (isInert_escape r.classification.name) _)).append hclose
  have hrow := shows_row hopening [("reg-name", r.name), ("", r.module),
    ("reg-type", r.classification.name), ("reg-width", intText r.width), ("", r.clock.getD ""),
    ("", r.reset.getD ""), ("reg-location", r.file ++ ":" ++ intText r.line)] (by
      simp only [List.forall_mem_cons, List.not_mem_nil, IsEmpty.forall_iff, implies_true, and_true]
      decide)
  rw [registerText, escape_location, ← escape_intText r.width]
  exact hrow

/-- The row of a module shows its texts. -/
lemma shows_moduleText (m : ModuleSummary) : Shows (moduleText m) (escaped m.shown) := by
  have hopening : Shows "<tr>" [] := .of_chars rfl
  have hrow := shows_row hopening [("module-name", m.name), ("", intText m.registerCount),
    ("module-location", m.file ++ ":" ++ intText m.line)] (by
      simp only [List.forall_mem_cons, List.not_mem_nil, IsEmpty.forall_iff, implies_true, and_true]
      decide)
  rw [moduleText, escape_location, ← escape_intText m.registerCount]
  exact hrow

/-- A number of the summary is not in such a place. -/
lemma shows_stat {style label value : String} (hstyle : IsInert style) (hlabel : IsInert label)
    (hvalue : IsInert value) : Shows (stat style label value) [] := by
  have hname : Reads {} "        <div class=\"" { position := .attributes ['d', 'i', 'v'] } [] :=
    .of_chars rfl
  have hopen : Reads { position := .attributes ['d', 'i', 'v'] }
      "\"><span class=\"stat-label\">" {} [] := .of_chars rfl
  have hbetween : Reads {} "</span><span class=\"stat-value\">" {} [] :=
    .of_chars rfl
  have hend : Reads {} "</span></div>\n" {} [] := .of_chars rfl
  unfold stat
  exact (((((hname.append (reads_attributes hstyle _)).append hopen).append
    (shows_of_isInert hlabel)).append hbetween).append (shows_of_isInert hvalue)).append hend

lemma shows_kindStat (c : Classification) (n : ℕ) : Shows (kindStat c n) [] := by
  have hbreak : Shows "\n" [] := .of_chars rfl
  have hend : Shows "        " [] := .of_chars rfl
  have hstyle : IsInert ("stat stat-" ++ escape c.name) := by
    have hkind : escape "stat stat-" = "stat stat-" := rfl
    rw [← hkind, ← escape_append]
    exact isInert_escape _
  unfold kindStat
  dsimp only
  exact (hbreak.append (shows_stat hstyle (isInert_escape _) (isInert_natText n))).append hend

lemma shows_kindStats (xs : List (Classification × ℕ)) :
    Shows (String.join (xs.map fun (c, n) => kindStat c n)) [] := by
  rw [← flatMap_nothing xs]
  refine shows_join ?_
  rintro ⟨c, n⟩ -
  exact shows_kindStat c n

/-- A section shows what its content shows. -/
lemma shows_headed {heading content : String} {found : List (Place × List Char)}
    (hheading : IsInert heading) (h : Shows content found) :
    Shows (headed heading content) found := by
  unfold headed
  split
  · rename_i hempty
    rwa [eq_of_beq hempty] at h
  · have hopen : Shows "\n    <h2>" [] := .of_chars rfl
    have hclose : Shows "</h2>\n    " [] := .of_chars rfl
    have hend : Shows "\n    " [] := .of_chars rfl
    simpa using (((hopen.append (shows_of_isInert hheading)).append hclose).append h).append hend

/-- An item of the list of failures shows its file and its reason. -/
lemma shows_failureItem (f : FileFailure) : Shows (failureItem f) (escaped f.shown) := by
  have hopen : Reads {} "\n        <li><code>" { content := some (.file, []) } [] :=
    .of_chars rfl
  have hfile := reads_content (isInert_escape f.file) .file []
  have hbetween : ∀ chars, Reads { content := some (.file, chars) } "</code>: "
      { content := some (.reason, [':', ' ']) } [(.file, chars)] := fun _ => .of_chars rfl
  have hreason := reads_content (isInert_escape f.reason) .reason [':', ' ']
  have hend : ∀ chars, Reads { content := some (.reason, chars) } "</li>\n        " {}
      [(.reason, chars)] := fun _ => .of_chars rfl
  -- the colon counts as a part of the reason
  have hshown : escaped f.shown = [(.file, (escape f.file).toList),
      (.reason, [':', ' '] ++ (escape f.reason).toList)] := by
    have hcolon : escape ": " = ": " := rfl
    simp [escaped, FileFailure.shown, escape_append, hcolon]
  rw [List.nil_append] at hfile
  unfold failureItem
  rw [hshown]
  exact (((hopen.append hfile).append (hbetween _)).append hreason).append (hend _)

lemma shows_failureList (fs : List FileFailure) :
    Shows (failureList fs) (escaped (fs.flatMap FileFailure.shown)) := by
  have hitem : ∀ f ∈ fs, Shows (failureItem f) (escaped f.shown) := fun f _ => shows_failureItem f
  have hitems := shows_join hitem
  rw [flatMap_escaped] at hitems
  unfold failureList
  cases fs with
  | nil => rfl
  | cons f fs =>
    have hopen : Shows "<ul class=\"failures\">\n        " [] := .of_chars rfl
    have hend : Shows "\n    </ul>" [] := .of_chars rfl
    rw [if_neg (by simp)]
    simpa using (hopen.append hitems).append hend

/-- There are no tags in the style sheet. -/
lemma shows_styleSheet : Shows styleSheet [] := by
  have hrules : ∀ r ∈ styles, '<' ∉ r.selector.toList ∧
      ∀ d ∈ r.declarations, '<' ∉ d.1.toList ∧ '<' ∉ d.2.toList := by
    simp only [styles, List.forall_mem_cons, List.not_mem_nil, IsEmpty.forall_iff, implies_true,
      and_true]
    simp
  have hrule : ∀ r ∈ styles, Shows r.render [] := by
    intro r hr
    obtain ⟨hselector, hdeclarations⟩ := hrules r hr
    refine shows_of_no_tag ?_
    simp only [StyleRule.render, String.toList_append, String.toList_join, List.mem_append,
      List.mem_flatMap, List.mem_map, not_or, not_exists, not_and]
    refine ⟨⟨⟨hselector, by decide⟩, ?_⟩, by decide⟩
    rintro _ ⟨d, hd, rfl⟩
    simp only [String.toList_append, List.mem_append, not_or]
    exact ⟨⟨⟨⟨by decide, (hdeclarations d hd).1⟩, by decide⟩, (hdeclarations d hd).2⟩, by decide⟩
  have hlines := shows_lines hrule
  rwa [flatMap_nothing] at hlines

/-- A page shows what its tables show, and its failures. -/
lemma shows_page {inv : Inventory} {title m r p : String} {ms rs : List (Place × List Char)}
    (hbits : Numeral.IsWritable inv.totalBits) (hm : Shows m ms) (hr : Shows r rs)
    (hp : page title inv m r = .ok p) :
    Shows p (ms ++ rs ++ escaped (inv.failures.flatMap FileFailure.shown)) := by
  have htop : Shows
      "<!DOCTYPE html>\n<html lang=\"en\">\n<head>\n    <meta charset=\"UTF-8\">\n" [] :=
    .of_chars (by decide +kernel)
  have hmeta : Shows
      "    <meta name=\"viewport\" content=\"width=device-width, initial-scale=1.0\">\n" [] :=
    .of_chars (by decide +kernel)
  have htitle : Shows "    <title>" [] := .of_chars rfl
  have hstyle : Shows "</title>\n    <style>\n" [] := .of_chars rfl
  have hstyleEnd : Shows "\n    </style>\n" [] := .of_chars rfl
  have hbody : Shows "</head>\n<body>\n    <h1>" [] := .of_chars rfl
  have hsummary : Shows "</h1>\n\n    <section class=\"summary\">\n" [] :=
    .of_chars rfl
  have hindent : Shows "        " [] := .of_chars rfl
  have hsummaryEnd : Shows "\n    </section>\n\n    " [] := .of_chars rfl
  have hbreak : Shows "\n\n    " [] := .of_chars rfl
  have hend : Shows "\n</body>\n</html>" [] := .of_chars rfl
  have hescaped := shows_of_isInert (isInert_escape title)
  have hcount : Shows (stat "stat" "Registers" (natText inv.totalRegisters)) [] :=
    shows_stat (by decide) (by decide) (isInert_natText _)
  have hbitCount : Shows (stat "stat" "Bits" (intText inv.totalBits)) [] :=
    shows_stat (by decide) (by decide) (isInert_intText _)
  have hkinds := shows_kindStats inv.byType
  have hmodules : Shows (headed "Modules" m) ms := shows_headed (by decide) hm
  have hregisters : Shows (headed "Registers" r) rs := shows_headed (by decide) hr
  have hfailures : Shows (headed "Failures" (failureList inv.failures))
      (escaped (inv.failures.flatMap FileFailure.shown)) :=
    shows_headed (by decide) (shows_failureList inv.failures)
  unfold page at hp
  rw [hbits.write_eq] at hp
  obtain rfl := Except.ok.inj hp
  -- the pieces in order, section after section
  have hstart := ((((htop.append hmeta).append htitle).append hescaped).append hstyle).append
    shows_styleSheet
  have hheading := (((hstart.append hstyleEnd).append hbody).append hescaped).append hsummary
  have htotals := ((((hheading.append hcount).append hbitCount).append hindent).append
    hkinds).append hsummaryEnd
  have hsections := ((((htotals.append hmodules).append hbreak).append hregisters).append
    hbreak).append hfailures
  simpa using hsections.append hend

/-! ### Reports -/

/-- Texts are read back from what stands in the page for them. -/
lemma unescape_escaped (refs : References) (shown : List (Place × String)) :
    ((escaped shown).map fun (place, s) => (place, String.ofList (refs.unescape s))) = shown := by
  rw [escaped, List.map_map]
  refine List.map_id'' (fun x => ?_) shown
  simp [refs.unescape_escape]

/-- **The contents of a page are the texts of the inventory**, whatever characters are in them. -/
theorem contents_report (refs : References) {inv : Inventory} {sections : Sections} {p : String}
    (h : inv.IsWritable) (hp : report inv sections = .ok p) :
    contents refs p = inv.shown sections := by
  have hmodules : Shows (if sections.modules then modulesText inv.modules else "")
      (escaped (if sections.modules then inv.modules.flatMap ModuleSummary.shown else [])) := by
    split
    · rw [← flatMap_escaped]
      exact shows_table shows_moduleText (by decide) (by decide) (by decide) _
    · rfl
  have hregisters : Shows (if sections.registers then registersText inv.registers else "")
      (escaped (if sections.registers then inv.registers.flatMap Register.shown else [])) := by
    split
    · rw [← flatMap_escaped]
      exact shows_table shows_registerText (by decide) (by decide) (by decide) _
    · rfl
  rw [report_of_isWritable h] at hp
  have hpage := shows_page h.bits hmodules hregisters hp
  rw [Shows, Reads] at hpage
  rw [contents, hpage, Inventory.shown, ← unescape_escaped refs (_ ++ _ ++ _)]
  simp only [escaped, List.map_append]

/-- **Reports on web pages are not altered by data and lose none of it.** Two inventories whose
integers can be written, with as many registers, modules, failures and classifications, have pages
with the same markup. All who can read references to the four characters find in the cells and
failures of each page exactly the texts of its inventory. -/
theorem report_of_same_size (refs : References) {a b : Inventory} {sections : Sections}
    (ha : a.IsWritable) (hb : b.IsWritable)
    (hregisters : a.registers.length = b.registers.length)
    (hmodules : a.modules.length = b.modules.length)
    (hfailures : a.failures.length = b.failures.length)
    (hkinds : (a.registers.map (·.classification)).toFinset.card =
      (b.registers.map (·.classification)).toFinset.card) :
    ∃ p q, report a sections = .ok p ∧ report b sections = .ok q ∧ markup p = markup q ∧
      contents refs p = a.shown sections ∧ contents refs q = b.shown sections := by
  rw [← Inventory.length_byType, ← Inventory.length_byType] at hkinds
  obtain ⟨p, hp⟩ := exists_report ha sections
  obtain ⟨q, hq⟩ := exists_report hb sections
  exact ⟨p, q, hp, hq, markup_report_eq ha hb hregisters hmodules hfailures hkinds hp hq,
    contents_report refs ha hp, contents_report refs hb hq⟩

/-- An inventory of plain texts. -/
def plainInventory : Inventory where
  registers := [{ name := "q", width := 8, line := 2, module := "m", file := "a.sv" }]
  failures := [⟨"b.sv", "missing"⟩]

/-- An inventory of texts that look like markup. -/
def forgedInventory : Inventory where
  registers := [{ name := "</td><td>", width := -1, line := 7, module := "&lt;", file := "\"",
                  classification := ⟨"x\" class=\"y"⟩, clock := some "<b", reset := some "&" }]
  failures := [⟨"</code>", "</li>"⟩]

/-- The pages of these inventories have the same markup, and show their texts. -/
theorem report_of_forgedInventory :
    (plainInventory.IsWritable ∧ forgedInventory.IsWritable) ∧
      ∃ p q, report plainInventory {} = .ok p ∧ report forgedInventory {} = .ok q ∧
        markup p = markup q ∧
        contents basicReferences q = [(.cell, "</td><td>"), (.cell, "&lt;"),
          (.cell, "x\" class=\"y"), (.cell, "-1"), (.cell, "<b"), (.cell, "&"), (.cell, "\":7"),
          (.file, "</code>"), (.reason, ": </li>")] := by
  have hplain : plainInventory.IsWritable :=
    ⟨List.forall_mem_singleton.2 (Register.isWritable_of_lt (by decide) (by decide)),
      List.forall_mem_nil _, Numeral.length_decimal_le_limit (by decide)⟩
  have hforged : forgedInventory.IsWritable :=
    ⟨List.forall_mem_singleton.2 (Register.isWritable_of_lt (by decide) (by decide)),
      List.forall_mem_nil _, Numeral.length_decimal_le_limit (by decide)⟩
  have hshown : forgedInventory.shown {} = [(.cell, "</td><td>"), (.cell, "&lt;"),
      (.cell, "x\" class=\"y"), (.cell, "-1"), (.cell, "<b"), (.cell, "&"), (.cell, "\":7"),
      (.file, "</code>"), (.reason, ": </li>")] := by
    decide +kernel
  obtain ⟨p, q, hp, hq, hmarkup, -, hcontents⟩ :=
    @report_of_same_size basicReferences plainInventory forgedInventory {} hplain hforged rfl rfl
      rfl (by decide)
  exact ⟨⟨hplain, hforged⟩, p, q, hp, hq, hmarkup, hcontents.trans hshown⟩

end Report.Html

end FlopCensus
