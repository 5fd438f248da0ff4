import FlopCensus.Proofs.Report.Table
import FlopCensus.Proofs.Text.Line
import FlopCensus.Proofs.Text.LineEnd
import FlopCensus.Report.Csv
import Mathlib.Data.List.DropRight
import Mathlib.Tactic.Common

set_option autoImplicit false
set_option relaxedAutoImplicit false

/-!
# Comma-separated values read back

A reader of comma-separated values goes through a document character by character. Outside quotes a
comma ends a field and `\r\n` ends a record; between quotes only a quote has a meaning, and a second
one behind it stands for a quote. The last record may end with the document. Such a reader gets back
the headings and rows of a table, whatever texts are in it.

## Main definitions

* `FlopCensus.Report.Csv.Reader` — a reader in the middle of a document.
* `FlopCensus.Report.Csv.read` — the records of a document.
* `FlopCensus.Report.Csv.document` — records, each with a line end behind it.

## Main results

* `FlopCensus.Report.Csv.read_table` — a table is read back.
* `FlopCensus.Report.Csv.toList_table` — a table is a document without its last line end.
* `FlopCensus.Report.Csv.read_tables` — the tables of registers and modules are read back.

## Design

The reader that has read a whole field is told by what it holds (`Reader.Holds`), since where it
stands then depends on whether there were quotes. All that may follow the field has the same effect
in each of these cases.
-/

namespace FlopCensus.Report.Csv

open Text (isLineEnd)

/-! ### A reader of documents -/

/-- What the reader has seen of a field. -/
inductive Phase where
  /-- Nothing. -/
  | start
  /-- Characters outside quotes. -/
  | plain
  /-- An opening quote, and perhaps characters behind it. -/
  | quoted
  /-- A quote behind an opening quote: it closes the field unless another one follows. -/
  | closed
  /-- The whole field, and the carriage return of a line end. -/
  | lineEnd
deriving DecidableEq

/-- A reader in the middle of a document. -/
structure Reader where
  /-- What has been seen of the field. -/
  phase : Phase := .start
  /-- The characters of the field. -/
  field : List Char := []
  /-- The fields of the record before it. -/
  fields : List String := []
  /-- The records before this one. -/
  records : List (List String) := []

namespace Reader

/-- The record up to the field. -/
def record (r : Reader) : List String :=
  r.fields ++ [String.ofList r.field]

/-- The reader behind a further character of the field. -/
def take (r : Reader) (phase : Phase) (c : Char) : Reader :=
  { r with phase, field := r.field ++ [c] }

/-- The reader behind a comma that ends the field. -/
def endField (r : Reader) : Reader where
  fields := r.record
  records := r.records

/-- The reader behind a line end that ends the record. -/
def endRecord (r : Reader) : Reader where
  records := r.records ++ [r.record]

/-- The reader behind a character that has a meaning outside quotes, if it may stand there. -/
def stepSpecial (r : Reader) (c : Char) : Option Reader :=
  if c = ',' then some r.endField
  else if c = '\r' then some { r with phase := .lineEnd }
  else none

/-- The reader behind a character, if the character may stand there. -/
def step (r : Reader) (c : Char) : Option Reader :=
  match r.phase with
  | .start =>
    if c = '"' then some { r with phase := .quoted }
    else if isSpecial c then r.stepSpecial c
    else some (r.take .plain c)
  | .plain => if isSpecial c then r.stepSpecial c else some (r.take .plain c)
  | .quoted => if c = '"' then some { r with phase := .closed } else some (r.take .quoted c)
  | .closed => if c = '"' then some (r.take .quoted c) else r.stepSpecial c
  | .lineEnd => if c = '\n' then some r.endRecord else none

/-- The reader behind some characters, if they may stand there. -/
def run (r : Reader) (s : List Char) : Option Reader :=
  s.foldlM step r

/-- The records at the end of the document, if it may end there. Behind a line end there need not be
another record. -/
def finish (r : Reader) : Option (List (List String)) :=
  match r.phase with
  | .start => some (if r.fields = [] then r.records else r.endRecord.records)
  | .plain | .closed => some r.endRecord.records
  | .quoted | .lineEnd => none

end Reader

/-- The records of a document. -/
def read (s : String) : Option (List (List String)) := do
  (← Reader.run {} s.toList).finish

namespace Reader

@[simp] lemma run_nil (r : Reader) : r.run [] = some r := rfl

/-- One character, and then the others. -/
lemma run_cons {r r' : Reader} {c : Char} (h : r.step c = some r') (s : List Char) :
    r.run (c :: s) = r'.run s := by
  rw [run, List.foldlM_cons, h]
  rfl

/-- One text, and then another one. -/
lemma run_append {r r' : Reader} {s : List Char} (h : r.run s = some r') (t : List Char) :
    r.run (s ++ t) = r'.run t := by
  rw [run] at h
  rw [run, List.foldlM_append, h]
  rfl

end Reader

/-! ### Fields -/

/-- The reader has read a whole field: it holds the record up to this field. -/
structure Reader.Holds (r : Reader) (cells : List String) (records : List (List String)) :
    Prop where
  /-- No quote is open, and no line end has begun. -/
  phase : r.phase = .plain ∨ r.phase = .closed ∨ r.phase = .start ∧ r.field = []
  /-- The record up to the field. -/
  record : r.record = cells
  /-- The records before. -/
  records : r.records = records

section Fields

variable (fields : List String) (records : List (List String))

/-- Characters between quotes are read. -/
lemma run_doubled (before s : List Char) :
    Reader.run ⟨.quoted, before, fields, records⟩ (doubled s) =
      some ⟨.quoted, before ++ s, fields, records⟩ := by
  induction s generalizing before with
  | nil => simp [doubled]
  | cons c s ih =>
    have hrest := ih (before ++ [c])
    rw [List.append_assoc, List.singleton_append] at hrest
    rw [doubled, List.flatMap_cons]
    by_cases hc : c = '"'
    · subst hc
      exact hrest
    · have hstep : Reader.step ⟨.quoted, before, fields, records⟩ c =
          some ⟨.quoted, before ++ [c], fields, records⟩ := if_neg hc
      rw [if_neg (by simpa using hc), List.singleton_append, Reader.run_cons hstep]
      exact hrest

/-- Characters outside quotes are read. -/
lemma run_plain {s : List Char} (h : ∀ c ∈ s, isSpecial c = false) (before : List Char) :
    Reader.run ⟨.plain, before, fields, records⟩ s =
      some ⟨.plain, before ++ s, fields, records⟩ := by
  induction s generalizing before with
  | nil => simp
  | cons c s ih =>
    have hrest := ih (fun d hd => h d (List.mem_cons_of_mem _ hd)) (before ++ [c])
    rw [List.append_assoc, List.singleton_append] at hrest
    have hstep : Reader.step ⟨.plain, before, fields, records⟩ c =
        some ⟨.plain, before ++ [c], fields, records⟩ := by
      rw [Reader.step, h c List.mem_cons_self]
      rfl
    rw [Reader.run_cons hstep]
    exact hrest

/-- **A field is read**, whether it is written in quotes or not. -/
theorem run_field (s : String) : ∃ r, Reader.run ⟨.start, [], fields, records⟩ (field s).toList =
    some r ∧ r.Holds (fields ++ [s]) records := by
  have hrecord : fields ++ [String.ofList s.toList] = fields ++ [s] := by rw [String.ofList_toList]
  rw [field]
  by_cases hany : s.toList.any isSpecial = true
  · have hopen : Reader.step ⟨.start, [], fields, records⟩ '"' =
        some ⟨.quoted, [], fields, records⟩ := rfl
    have hinner := run_doubled fields records [] s.toList
    rw [if_pos hany, String.toList_ofList, List.cons_append, Reader.run_cons hopen,
      Reader.run_append hinner]
    exact ⟨⟨.closed, s.toList, fields, records⟩, rfl, .inr (.inl rfl), hrecord, rfl⟩
  · have hplain : ∀ c ∈ s.toList, isSpecial c = false := by simpa using hany
    rw [if_neg hany]
    -- an empty field leaves the reader where it is, so the state may still be the first one
    cases hs : s.toList with
    | nil =>
      rw [hs] at hrecord
      exact ⟨⟨.start, [], fields, records⟩, rfl, .inr (.inr ⟨rfl, rfl⟩), hrecord, rfl⟩
    | cons c cs =>
      rw [hs] at hplain hrecord
      obtain ⟨hc, hcs⟩ := List.forall_mem_cons.1 hplain
      have hquote : c ≠ '"' := by
        rintro rfl
        exact absurd hc (by decide)
      have hfirst : Reader.step ⟨.start, [], fields, records⟩ c =
          some ⟨.plain, [c], fields, records⟩ := by
        rw [Reader.step, if_neg hquote, hc]
        rfl
      rw [Reader.run_cons hfirst]
      exact ⟨_, run_plain fields records hcs [c], .inl rfl, hrecord, rfl⟩

end Fields

/-! ### What follows a field -/

section Holds

variable {r : Reader} {cells : List String} {records : List (List String)}
  (h : r.Holds cells records)

include h

/-- Behind a whole field a comma or a carriage return has its meaning. -/
lemma Reader.Holds.step_eq {c : Char} (hspecial : isSpecial c = true) (hquote : c ≠ '"') :
    r.step c = r.stepSpecial c := by
  rw [Reader.step]
  rcases h.phase with hp | hp | ⟨hp, -⟩ <;> simp [hp, hspecial, hquote]

/-- A comma ends the field. -/
lemma Reader.Holds.step_comma : r.step ',' = some ⟨.start, [], cells, records⟩ := by
  rw [h.step_eq (by decide) (by decide), Reader.stepSpecial, if_pos rfl, Reader.endField,
    h.record, h.records]

/-- A line end ends the record. -/
lemma Reader.Holds.run_lineEnd (rest : List Char) :
    r.run ('\r' :: '\n' :: rest) = Reader.run ⟨.start, [], [], records ++ [cells]⟩ rest := by
  have hreturn : r.step '\r' = some { r with phase := .lineEnd } := by
    rw [h.step_eq (by decide) (by decide)]
    rfl
  have hfeed : Reader.step { r with phase := .lineEnd } '\n' = some r.endRecord := rfl
  rw [Reader.run_cons hreturn, Reader.run_cons hfeed, Reader.endRecord, h.record, h.records]

/-- The end of the document ends the record, unless there is none. -/
lemma Reader.Holds.finish_eq (hne : cells ≠ [""]) : r.finish = some (records ++ [cells]) := by
  have hend : r.endRecord.records = records ++ [cells] := by
    rw [Reader.endRecord, h.record, h.records]
  rw [Reader.finish]
  rcases h.phase with hp | hp | ⟨hp, hfield⟩
  · rw [hp, hend]
  · rw [hp, hend]
  · have hfields : r.fields ≠ [] := by
      intro hnil
      have hrecord := h.record
      rw [Reader.record, hnil, hfield] at hrecord
      exact hne hrecord.symm
    rw [hp, hend]
    simp [hfields]

end Holds

/-! ### Records and documents -/

/-- **A record is read.** -/
theorem run_record {cells : List String} (hne : cells ≠ []) (before : List String)
    (records : List (List String)) :
    ∃ r, Reader.run ⟨.start, [], before, records⟩ (record cells).toList = some r ∧
      r.Holds (before ++ cells) records := by
  obtain ⟨first, rest, rfl⟩ := List.exists_cons_of_ne_nil hne
  induction rest generalizing first before with
  | nil => simpa [record] using run_field before records first
  | cons second rest ih =>
    obtain ⟨r, hfirst, hr⟩ := run_field before records first
    obtain ⟨r', hrest, hr'⟩ := ih (before ++ [first]) second (by simp)
    have hsplit : (record (first :: second :: rest)).toList =
        (field first).toList ++ ',' :: (record (second :: rest)).toList := by
      simp [record, String.toList_intercalate]
    refine ⟨r', ?_, by simpa using hr'⟩
    rw [hsplit, Reader.run_append hfirst, Reader.run_cons hr.step_comma]
    exact hrest

/-- Records, each with a line end behind it. -/
def document (records : List (List String)) : List Char :=
  records.flatMap fun cells => (record cells).toList ++ ['\r', '\n']

/-- Records before the end of a document are read. -/
lemma run_document {rows : List (List String)} (hne : ∀ row ∈ rows, row ≠ [])
    (records : List (List String)) (rest : List Char) :
    Reader.run ⟨.start, [], [], records⟩ (document rows ++ rest) =
      Reader.run ⟨.start, [], [], records ++ rows⟩ rest := by
  induction rows generalizing records with
  | nil => simp [document]
  | cons row rows ih =>
    obtain ⟨r, hrow, hr⟩ := run_record (hne row List.mem_cons_self) [] records
    have hrows := ih (fun row hrow => hne row (List.mem_cons_of_mem _ hrow)) (records ++ [row])
    have hsplit : document (row :: rows) ++ rest =
        (record row).toList ++ '\r' :: '\n' :: (document rows ++ rest) := by
      simp [document]
    rw [hsplit, Reader.run_append hrow, hr.run_lineEnd, List.nil_append, hrows, List.append_assoc,
      List.singleton_append]

/-! ### Tables -/

/-- A field does not end like a line, if it is not empty. -/
lemma field_ends {s : String} (hne : s ≠ "") :
    ∃ cs c, (field s).toList = cs ++ [c] ∧ isLineEnd c = false := by
  rw [field]
  by_cases hany : s.toList.any isSpecial = true
  · rw [if_pos hany, String.toList_ofList]
    exact ⟨'"' :: doubled s.toList, '"', rfl, by decide⟩
  · have hchars : s.toList ≠ [] := fun h => hne (String.toList_eq_nil_iff.1 h)
    obtain ⟨cs, c, hs⟩ := s.toList.eq_nil_or_concat'.resolve_left hchars
    have hc : isSpecial c = false := by
      have hplain : ∀ c ∈ s.toList, isSpecial c = false := by simpa using hany
      exact hplain c (by simp [hs])
    rw [if_neg hany]
    refine ⟨cs, c, hs, ?_⟩
    simp only [isSpecial, Bool.or_eq_false_iff] at hc
    rw [isLineEnd, hc.1.2, hc.2]
    rfl

/-- A record does not end like a line, if there is anything in it. -/
lemma record_ends {cells : List String} (hne : cells ≠ []) (hempty : cells ≠ [""]) :
    ∃ cs c, (record cells).toList = cs ++ [c] ∧ isLineEnd c = false := by
  obtain ⟨first, rest, rfl⟩ := List.exists_cons_of_ne_nil hne
  induction rest generalizing first with
  | nil =>
    have hfirst : first ≠ "" := fun h => hempty (by rw [h])
    simpa [record] using field_ends hfirst
  | cons second rest ih =>
    have hsplit : (record (first :: second :: rest)).toList =
        (field first).toList ++ [','] ++ (record (second :: rest)).toList := by
      simp [record, String.toList_intercalate]
    rw [hsplit]
    -- if the last field is empty, the separator in front of it ends the record
    by_cases hlast : second :: rest = [""]
    · have hnone : (record (second :: rest)).toList = [] := by
        rw [hlast]
        rfl
      exact ⟨(field first).toList, ',', by rw [hnone, List.append_nil], by decide⟩
    · obtain ⟨cs, c, hrest, hc⟩ := ih second (by simp) hlast
      exact ⟨(field first).toList ++ [','] ++ cs, c, by rw [hrest, ← List.append_assoc], hc⟩

/-- No record of the table is blank, so that each of them can be told from the end of the table. -/
def HasNoBlank (t : Table) : Prop :=
  ∀ cells ∈ t.headings :: t.rows, cells ≠ [] ∧ cells ≠ [""]

/-- A table with several columns has no blank record. -/
lemma hasNoBlank_of_length {t : Table} {n : ℕ} (hn : 2 ≤ n)
    (h : ∀ cells ∈ t.headings :: t.rows, cells.length = n) : HasNoBlank t := by
  intro cells hcells
  have hlength := h cells hcells
  constructor <;> rintro rfl <;> simp at hlength <;> omega

/-- A table is a document up to its last record, and this record without a line end. -/
lemma exists_toList_table (t : Table) : ∃ before last, t.headings :: t.rows = before ++ [last] ∧
    (table t).toList = document before ++ (record last).toList := by
  obtain ⟨before, last, hrows⟩ :=
    (t.headings :: t.rows).eq_nil_or_concat'.resolve_left (List.cons_ne_nil _ _)
  have hjoined := Text.toList_intercalate_append "\r\n" (record t.headings) (t.rows.map record)
  rw [← List.map_cons, hrows, String.toList_append] at hjoined
  have hdocument : (table t).toList ++ ['\r', '\n'] =
      document before ++ (record last).toList ++ ['\r', '\n'] := by
    rw [table, hrows]
    refine hjoined.trans ?_
    simp [document, List.flatMap_map]
  exact ⟨before, last, hrows, List.append_cancel_right hdocument⟩

section Tables

variable {t : Table} (h : HasNoBlank t)

include h

/-- **A table is a document without the line end behind its last record**: no other characters are
lost when all that belongs to line ends is removed from the end of the document. -/
theorem toList_table :
    (table t).toList = (document (t.headings :: t.rows)).rdropWhile isLineEnd := by
  obtain ⟨before, last, hrows, htable⟩ := exists_toList_table t
  obtain ⟨hne, hempty⟩ := h last (by simp [hrows])
  obtain ⟨cs, c, hlast, hc⟩ := record_ends hne hempty
  have hdocument : document (t.headings :: t.rows) =
      document before ++ cs ++ [c] ++ ['\r'] ++ ['\n'] := by
    simp [document, hrows, hlast]
  rw [hdocument, List.rdropWhile_concat_pos _ _ _ (by decide),
    List.rdropWhile_concat_pos _ _ _ (by decide), List.rdropWhile_concat_neg _ _ _ (by simp [hc]),
    htable, hlast, List.append_assoc]

/-- **A table is read back.** -/
theorem read_table : read (table t) = some (t.headings :: t.rows) := by
  obtain ⟨before, last, hrows, htable⟩ := exists_toList_table t
  obtain ⟨hne, hempty⟩ := h last (by simp [hrows])
  obtain ⟨r, hlast, hr⟩ := run_record hne [] before
  have hrecords : ∀ row ∈ before, row ≠ [] := fun row hrow => (h row (by simp [hrows, hrow])).1
  have hbefore := run_document hrecords [] (record last).toList
  rw [List.nil_append, hlast] at hbefore
  rw [read, htable, hrows]
  change (Reader.run ⟨.start, [], [], []⟩ _ >>= _) = _
  rw [hbefore]
  exact hr.finish_eq hempty

end Tables

/-- **Tables of comma-separated values are read back.** The tables of registers and of modules exist
if the integers in them can be written. A reader gets from them the headings and one record for each
register or module, in order, with the texts of its eight or four columns, whatever these texts are.
Of the line ends, only the one behind the last record is missing. -/
theorem read_tables {rs : List Register} {ms : List ModuleSummary}
    (hregisters : ∀ r ∈ rs, r.IsWritable) (hmodules : ∀ m ∈ ms, m.IsWritable) :
    (∃ text, registers rs = .ok text ∧
      text.toList = (document (registerHeadings :: rs.map Register.texts)).rdropWhile isLineEnd ∧
      read text = some (registerHeadings :: rs.map Register.texts) ∧
      ∀ cells ∈ registerHeadings :: rs.map Register.texts, cells.length = 8) ∧
    ∃ text, modules ms = .ok text ∧
      text.toList =
        (document (moduleHeadings :: ms.map ModuleSummary.texts)).rdropWhile isLineEnd ∧
      read text = some (moduleHeadings :: ms.map ModuleSummary.texts) ∧
      ∀ cells ∈ moduleHeadings :: ms.map ModuleSummary.texts, cells.length = 4 := by
  constructor
  · let t : Table := ⟨registerHeadings, rs.map Register.texts⟩
    have hlength : ∀ cells ∈ t.headings :: t.rows, cells.length = 8 := by
      simp [t, registerHeadings, Register.texts]
    have hblank : HasNoBlank t := hasNoBlank_of_length (by decide) hlength
    refine ⟨table t, ?_, toList_table hblank, read_table hblank, hlength⟩
    rw [registers, registerTable_of_isWritable hregisters]
    rfl
  · let t : Table := ⟨moduleHeadings, ms.map ModuleSummary.texts⟩
    have hlength : ∀ cells ∈ t.headings :: t.rows, cells.length = 4 := by
      simp [t, moduleHeadings, ModuleSummary.texts]
    have hblank : HasNoBlank t := hasNoBlank_of_length (by decide) hlength
    refine ⟨table t, ?_, toList_table hblank, read_table hblank, hlength⟩
    rw [modules, moduleTable_of_isWritable hmodules]
    rfl

/-- A register whose texts hold commas, quotes and line ends, and end in such a character. -/
def awkwardRegister : Register where
  name := "a,\"b\""
  width := 8
  line := -1
  module := "\r\n"
  file := ""
  clock := some "\"\""
  reset := some "x\r"

/-- The table of this register, and that of no modules. -/
theorem read_tables_awkward :
    (∀ r ∈ [awkwardRegister], r.IsWritable) ∧
      (∃ text, registers [awkwardRegister] = .ok text ∧ read text = some [registerHeadings,
        ["a,\"b\"", "\r\n", "potential_register", "8", "\"\"", "x\r", "", "-1"]]) ∧
      ∃ text, modules [] = .ok text ∧ read text = some [moduleHeadings] := by
  have hregister : ∀ r ∈ [awkwardRegister], r.IsWritable :=
    List.forall_mem_singleton.2 (Register.isWritable_of_lt (by decide) (by decide))
  have hmodules : ∀ m ∈ ([] : List ModuleSummary), m.IsWritable := List.forall_mem_nil _
  have htexts : awkwardRegister.texts =
      ["a,\"b\"", "\r\n", "potential_register", "8", "\"\"", "x\r", "", "-1"] := by
    simp [Register.texts, awkwardRegister, Classification.potential, Numeral.intText,
      Numeral.natText, Numeral.decimal, Text.digitChar]
  obtain ⟨⟨text, hok, -, hread, -⟩, ⟨empty, hnone, -, hempty, -⟩⟩ := read_tables hregister hmodules
  rw [List.map_singleton, htexts] at hread
  exact ⟨hregister, ⟨text, hok, hread⟩, ⟨empty, hnone, hempty⟩⟩

end FlopCensus.Report.Csv
