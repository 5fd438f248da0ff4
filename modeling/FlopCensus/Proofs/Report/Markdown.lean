import FlopCensus.Proofs.Report.Table
import FlopCensus.Proofs.Text.LineEnd
import FlopCensus.Report.Markdown
import Mathlib.Data.List.DropRight
import Mathlib.Tactic.Common

set_option autoImplicit false
set_option relaxedAutoImplicit false

/-!
# Markdown tables read back

A reader of Markdown takes a table line by line. A line is cut at the bars in it, except for those
behind a backslash, which stand for bars in a cell; blanks around the content of a cell do not
belong to it. Cells are written as they are, so that a table is read back only if no cell holds a
bar or a line end, or has blanks around it.

## Main definitions

* `FlopCensus.Report.Markdown.readRow` — the contents of the cells in a line.
* `FlopCensus.Report.Markdown.read` — the headings and rows of a table.
* `FlopCensus.Report.Markdown.IsPlainCell` — a text without bars, line ends and blanks around it.

## Main results

* `FlopCensus.Report.Markdown.readRow_row` — the contents in a row, whatever its cells are.
* `FlopCensus.Report.Markdown.readLines_row_iff` — the rows that are read back.
* `FlopCensus.Report.Markdown.length_fileLines_table_iff` — the tables that have a line per row.
* `FlopCensus.Report.Markdown.read_table_iff` — the tables that are read back.
* `FlopCensus.Report.Markdown.read_tables_iff` — the tables of registers and modules.

## Design

The contents of cells are the texts in which a reader would look for links and the like next; this
step is left out. Each cell of a row is cut into one or more pieces on its own, because of the
blanks that are written around it, and so a row is read back exactly if each of its cells is.
-/

namespace FlopCensus.Report.Markdown

open Numeral (isAsciiBlank)
open Text (isLineEnd fileLines length_fileLines_eq_one_iff fileLines_of_no_lineEnd)

/-! ### A reader of tables -/

/-- A text without the blanks around it. -/
def trim (s : List Char) : List Char :=
  Text.stripBy isAsciiBlank s

/-- The pieces of a line between bars, behind the given character. A bar behind a backslash belongs
to a piece. -/
def cut (last : Char) : List Char → List (List Char)
  | [] => [[]]
  | c :: s => if c = '|' ∧ last ≠ '\\' then [] :: cut c s else (cut c s).modifyHead (c :: ·)

/-- A text in which a bar behind a backslash stands for a bar. -/
def unescape : List Char → List Char
  | [] => []
  | '\\' :: '|' :: s => '|' :: unescape s
  | c :: s => c :: unescape s

/-- What is between two bars, as the content of a cell. -/
def content (piece : List Char) : String :=
  String.ofList (trim (unescape piece))

/-- The contents of the cells in a line. There may be a bar in front of the first cell and one
behind the last. -/
def readRow (line : List Char) : List String :=
  let contents := (cut ' ' line).map content
  let inner := if contents.head? = some "" then contents.tail else contents
  if inner.getLast? = some "" then inner.dropLast else inner

/-- The text aligns a column: it consists of hyphens, with a colon on one side or on both. -/
def isMark (s : String) : Bool :=
  let inner := if s.toList.head? = some ':' then s.toList.tail else s.toList
  let hyphens := if inner.getLast? = some ':' then inner.dropLast else inner
  !hyphens.isEmpty && hyphens.all (· == '-')

/-- The headings and rows of a table: a line of headings, a line that aligns as many columns, and
the lines of the rows. -/
def read (s : String) : Option Table :=
  match fileLines s.toList with
  | head :: marks :: rows =>
    if (readRow marks).length = (readRow head).length ∧ (readRow marks).all isMark then
      some ⟨readRow head, rows.map readRow⟩
    else none
  | _ => none

/-- The text stands for itself as a cell. -/
structure IsPlainCell (cell : String) : Prop where
  /-- There is no bar in it. -/
  bar : '|' ∉ cell.toList
  /-- There is no line end in it. -/
  lineEnd : ∀ c ∈ cell.toList, isLineEnd c = false
  /-- There are no blanks around it. -/
  blanks : trim cell.toList = cell.toList

/-! ### Pieces of lists -/

section Pieces

variable {α β : Type} {f : α → List β} {xs : List α}

/-- Nonempty pieces are as many as what they are made from if each of them is a single one. -/
lemma length_flatMap_eq_iff (h : ∀ x ∈ xs, f x ≠ []) :
    (xs.flatMap f).length = xs.length ↔ ∀ x ∈ xs, (f x).length = 1 := by
  -- no piece is empty, so none can make up for another that is too long
  have hle : ∀ ys : List α, (∀ y ∈ ys, f y ≠ []) → ys.length ≤ (ys.flatMap f).length := by
    intro ys hys
    induction ys with
    | nil => simp
    | cons y ys ih =>
      have hy := List.length_pos_of_ne_nil (hys y List.mem_cons_self)
      have hrest := ih fun z hz => hys z (List.mem_cons_of_mem _ hz)
      rw [List.flatMap_cons, List.length_append, List.length_cons]
      omega
  induction xs with
  | nil => simp
  | cons x xs ih =>
    obtain ⟨hx, hxs⟩ := List.forall_mem_cons.1 h
    have hpos := List.length_pos_of_ne_nil hx
    have hrest := hle xs hxs
    rw [List.forall_mem_cons, List.flatMap_cons, List.length_append, List.length_cons]
    refine Iff.trans ?_ (and_congr_right fun _ => ih hxs)
    omega

/-- Nonempty pieces give back what they are made from if each of them does. -/
lemma flatMap_eq_self_iff {f : α → List α} (h : ∀ x ∈ xs, f x ≠ []) :
    xs.flatMap f = xs ↔ ∀ x ∈ xs, f x = [x] := by
  constructor
  · intro hself
    have hone := (length_flatMap_eq_iff h).1 (congrArg List.length hself)
    have hsingle : ∀ x ∈ xs, ∃ y, f x = [y] := fun x hx => List.length_eq_one_iff.1 (hone x hx)
    clear h hone
    induction xs with
    | nil => simp
    | cons x xs ih =>
      obtain ⟨y, hy⟩ := hsingle x List.mem_cons_self
      rw [List.flatMap_cons, hy, List.singleton_append, List.cons.injEq] at hself
      obtain ⟨rfl, hrest⟩ := hself
      exact List.forall_mem_cons.2
        ⟨hy, ih hrest fun z hz => hsingle z (List.mem_cons_of_mem _ hz)⟩
  · intro hone
    calc xs.flatMap f = xs.flatMap fun x => [x] := List.flatMap_congr hone
      _ = xs := by simp

end Pieces

/-! ### Blanks around a text -/

/-- Trimming does not lengthen a text. -/
lemma length_trim_le (s : List Char) : (trim s).length ≤ s.length :=
  (List.rdropWhile_prefix isAsciiBlank _).length_le.trans (List.length_dropWhile_le isAsciiBlank s)

/-- The blanks that are written around a cell do not belong to its content. -/
lemma trim_surrounded (s : List Char) : trim (' ' :: s ++ [' ']) = trim s := by
  have hblank : isAsciiBlank ' ' = true := by decide
  have hend : ∀ t, Text.dropEndBy isAsciiBlank (t ++ [' ']) = Text.dropEndBy isAsciiBlank t :=
    fun t => List.rdropWhile_concat_pos _ _ _ hblank
  rw [trim, List.cons_append, Text.stripBy, List.dropWhile_cons_of_pos hblank, trim, Text.stripBy]
  by_cases h : ∀ c ∈ s, isAsciiBlank c = true
  · have hall : ∀ c ∈ s ++ [' '], isAsciiBlank c = true :=
      List.forall_mem_append.2 ⟨h, List.forall_mem_singleton.2 hblank⟩
    rw [List.dropWhile_eq_nil_iff.2 hall, List.dropWhile_eq_nil_iff.2 h]
  · rw [List.dropWhile_append, if_neg (by simpa [List.dropWhile_eq_nil_iff] using h), hend]

/-! ### Bars in a cell -/

/-- A bar for a backslash and a bar makes the text shorter. -/
lemma unescape_eq_or_length_lt (s : List Char) :
    unescape s = s ∨ (unescape s).length < s.length := by
  fun_induction unescape s with
  | case1 => exact .inl rfl
  | case2 s ih =>
    refine .inr ?_
    rcases ih with h | h
    · simp [h]
    · simp only [List.length_cons]
      omega
  | case3 c s _ ih =>
    rcases ih with h | h
    · exact .inl (by rw [h])
    · exact .inr (by simpa using h)

/-- A blank at the end remains. -/
lemma unescape_concat (s : List Char) : unescape (s ++ [' ']) = unescape s ++ [' '] := by
  fun_induction unescape s with
  | case1 => rfl
  | case2 s ih => simp [unescape, ih]
  | case3 c s hpair ih =>
    rw [List.cons_append, unescape, ih, List.cons_append]
    rintro rest rfl hrest
    cases s with
    | nil => simp at hrest
    | cons d s =>
      obtain ⟨rfl, -⟩ := List.cons.inj hrest
      exact hpair s rfl rfl

/-- A text without bars remains as it is. -/
lemma unescape_of_no_bar {s : List Char} (h : '|' ∉ s) : unescape s = s := by
  fun_induction unescape s with
  | case1 => rfl
  | case2 s ih => simp at h
  | case3 c s _ ih => rw [ih fun hs => h (List.mem_cons_of_mem _ hs)]

/-- There is at least one piece. -/
lemma cut_ne_nil (last : Char) (s : List Char) : cut last s ≠ [] := by
  cases s with
  | nil => simp [cut]
  | cons c s =>
    rw [cut]
    split
    · simp
    · simpa using cut_ne_nil c s

/-- What is in front of a text is of no account unless it is a backslash. -/
lemma cut_of_ne {last : Char} (h : last ≠ '\\') (s : List Char) : cut last s = cut ' ' s := by
  cases s with
  | nil => rfl
  | cons c s => simp [cut, h]

/-- A bar that is not behind a backslash ends the pieces before it. -/
lemma cut_append_bar (last : Char) (s : List Char) {c : Char} (hc : c ≠ '\\') (t : List Char) :
    cut last (s ++ c :: '|' :: t) = cut last (s ++ [c]) ++ cut ' ' t := by
  induction s generalizing last with
  | nil =>
    have hbar : cut c ('|' :: t) = [] :: cut ' ' t := by
      rw [cut, if_pos ⟨rfl, hc⟩, cut_of_ne (by decide)]
    rw [List.nil_append, List.nil_append, cut, hbar, cut]
    split <;> rfl
  | cons d s ih =>
    obtain ⟨piece, pieces, hpieces⟩ := List.exists_cons_of_ne_nil (cut_ne_nil d (s ++ [c]))
    rw [List.cons_append, List.cons_append, cut, cut, ih, hpieces]
    split <;> rfl

/-- A text without bars is one piece. -/
lemma cut_of_no_bar (last : Char) {s : List Char} (h : '|' ∉ s) : cut last s = [s] := by
  induction s generalizing last with
  | nil => rfl
  | cons c s ih =>
    obtain ⟨hc, hs⟩ := not_or.1 (mt List.mem_cons.2 h)
    rw [cut, if_neg fun hcut => hc hcut.1.symm, ih c hs, List.modifyHead_cons]

/-- If no bar stands behind a backslash, there is one more piece than there are bars. -/
lemma length_cut {last : Char} {s : List Char} (h : unescape s = s)
    (hlast : last = '\\' → s.head? ≠ some '|') :
    (cut last (s ++ [' '])).length = s.count '|' + 1 := by
  induction s generalizing last with
  | nil => simp [cut]
  | cons c s ih =>
    -- a backslash in front of a bar would have gone with `unescape`
    have hpair : c = '\\' → s.head? ≠ some '|' := by
      rintro rfl hhead
      obtain ⟨t, rfl⟩ : ∃ t, s = '|' :: t := by
        cases s with
        | nil => simp at hhead
        | cons d t => exact ⟨t, by simpa using hhead⟩
      simp [unescape] at h
    have hs : unescape s = s := by
      rw [unescape] at h
      · exact (List.cons.inj h).2
      · rintro rest rfl rfl
        exact hpair rfl rfl
    rw [List.cons_append, cut, List.count_cons]
    by_cases hc : c = '|'
    · have hopen : last ≠ '\\' := fun hb => hlast hb (by rw [hc]; rfl)
      rw [if_pos ⟨hc, hopen⟩, List.length_cons, ih hs hpair, hc]
      simp
    · rw [if_neg fun hcut => hc hcut.1, List.length_modifyHead, ih hs hpair]
      simp [hc]

/-- The bars between the pieces are all that is missing in them. -/
lemma intercalate_cut (last : Char) (s : List Char) : ['|'].intercalate (cut last s) = s := by
  induction s generalizing last with
  | nil => simp [cut]
  | cons c s ih =>
    have hrest := ih c
    obtain ⟨piece, pieces, hpieces⟩ := List.exists_cons_of_ne_nil (cut_ne_nil c s)
    rw [hpieces] at hrest
    rw [cut, hpieces]
    split
    · rename_i hcut
      rw [List.intercalate_cons_cons, hrest, hcut.1]
      rfl
    · rw [List.modifyHead_cons]
      cases pieces with
      | nil => simpa using hrest
      | cons next pieces =>
        rw [List.intercalate_cons_cons] at hrest ⊢
        rw [← hrest]
        rfl

/-- The contents of the pieces of a cell. -/
def cellContents (cell : String) : List String :=
  (cut ' ' (' ' :: cell.toList ++ [' '])).map content

/-- A cell has at least one content. -/
lemma cellContents_ne_nil (cell : String) : cellContents cell ≠ [] := by
  simp [cellContents, cut_ne_nil]

/-- The content of a piece between blanks. -/
lemma content_surrounded (s : List Char) :
    content (' ' :: s ++ [' ']) = String.ofList (trim (unescape s)) := by
  have hopen : unescape (' ' :: (s ++ [' '])) = ' ' :: unescape (s ++ [' ']) := by
    rw [unescape]
    rintro rest hc
    exact absurd hc (by decide)
  rw [content, List.cons_append, hopen, unescape_concat, ← List.cons_append, trim_surrounded]

/-- **A cell is read back exactly if it holds no bar and has no blanks around it.**

**Proof sketch.** The content of a cell that is one piece is no longer than the cell, and shorter if
a bar is escaped in it. So a cell that is read back has no such bar; then it would be cut at each
bar that it has. -/
theorem cellContents_eq_singleton_iff {cell : String} :
    cellContents cell = [cell] ↔ '|' ∉ cell.toList ∧ trim cell.toList = cell.toList := by
  constructor
  · intro hread
    have hlength := congrArg List.length hread
    rw [cellContents, List.length_map, List.length_singleton] at hlength
    obtain ⟨piece, hpiece⟩ := List.length_eq_one_iff.1 hlength
    -- the only piece is the cell itself, and its content is not shortened
    have hwhole := intercalate_cut ' ' (' ' :: cell.toList ++ [' '])
    rw [hpiece, List.intercalate_singleton] at hwhole
    rw [cellContents, hpiece, hwhole, List.map_singleton, content_surrounded, List.singleton_inj,
      ← String.toList_inj, String.toList_ofList] at hread
    have htrim := length_trim_le (unescape cell.toList)
    rw [hread] at htrim
    have hsame := (unescape_eq_or_length_lt cell.toList).resolve_right (Nat.not_lt.2 htrim)
    rw [hsame] at hread
    refine ⟨?_, hread⟩
    -- a bar that is not escaped would have cut it
    have hpieces : (cut ' ' (' ' :: cell.toList ++ [' '])).length =
        (' ' :: cell.toList).count '|' + 1 :=
      length_cut (by simp [unescape, hsame]) fun hb => absurd hb (by decide)
    rw [hlength] at hpieces
    exact List.count_eq_zero.1 (by simpa using hpieces)
  · rintro ⟨hbar, hblanks⟩
    have hnone : '|' ∉ ' ' :: cell.toList ++ [' '] := by simpa using hbar
    rw [cellContents, cut_of_no_bar ' ' hnone, List.map_singleton, content_surrounded,
      unescape_of_no_bar hbar, hblanks, String.ofList_toList]

/-! ### Lines between bars -/

/-- The line with a bar behind each of the pieces, and one in front of the first. -/
def framed (pieces : List (List Char)) : List Char :=
  '|' :: pieces.flatMap (· ++ ['|'])

/-- The pieces of a line are those of what is between its bars. -/
lemma cut_framed {pieces : List (List Char)}
    (h : ∀ p ∈ pieces, ∃ s c, p = s ++ [c] ∧ c ≠ '\\') :
    cut ' ' (framed pieces) = [] :: (pieces.flatMap (cut ' ') ++ [[]]) := by
  rw [framed, cut, if_pos ⟨rfl, by decide⟩, cut_of_ne (by decide)]
  congr 1
  induction pieces with
  | nil => rfl
  | cons p pieces ih =>
    obtain ⟨s, c, rfl, hc⟩ := h p List.mem_cons_self
    have hbar := cut_append_bar ' ' s hc (pieces.flatMap (· ++ ['|']))
    rw [ih fun p hp => h p (List.mem_cons_of_mem _ hp)] at hbar
    rw [List.flatMap_cons, List.append_assoc, List.append_assoc, List.singleton_append,
      List.singleton_append, hbar, List.flatMap_cons, List.append_assoc]

/-- **The contents in a line** are those of what is between its bars. -/
theorem readRow_framed {pieces : List (List Char)}
    (h : ∀ p ∈ pieces, ∃ s c, p = s ++ [c] ∧ c ≠ '\\') :
    readRow (framed pieces) = pieces.flatMap fun p => (cut ' ' p).map content := by
  have hempty : content [] = "" := rfl
  simp only [readRow, cut_framed h, List.map_cons, List.map_append, List.map_nil, hempty,
    List.head?_cons, if_true, List.tail_cons, List.getLast?_concat, List.dropLast_concat,
    List.map_flatMap]

/-! ### Rows -/

/-- The characters of a row: there is a blank on either side of a cell. -/
lemma toList_row {cells : List String} (hne : cells ≠ []) :
    (row cells).toList = framed (cells.map fun c => ' ' :: c.toList ++ [' ']) := by
  obtain ⟨first, rest, rfl⟩ := List.exists_cons_of_ne_nil hne
  induction rest generalizing first with
  | nil => simp [row, framed]
  | cons second rest ih =>
    have hsplit : (row (first :: second :: rest)).toList =
        '|' :: ' ' :: first.toList ++ ' ' :: (row (second :: rest)).toList := by
      simp [row, String.intercalate_cons_cons]
    rw [hsplit, ih second (by simp)]
    simp [framed]

/-- **The contents in a row are those of its cells.** -/
theorem readRow_row {cells : List String} (hne : cells ≠ []) :
    readRow (row cells).toList = cells.flatMap cellContents := by
  rw [toList_row hne, readRow_framed, List.flatMap_map]
  · rfl
  · intro p hp
    obtain ⟨c, -, rfl⟩ := List.mem_map.1 hp
    exact ⟨' ' :: c.toList, ' ', rfl, by decide⟩

/-- A row has the line ends of its cells. -/
lemma row_has_no_lineEnd_iff {cells : List String} (hne : cells ≠ []) :
    (∀ c ∈ (row cells).toList, isLineEnd c = false) ↔
      ∀ cell ∈ cells, ∀ c ∈ cell.toList, isLineEnd c = false := by
  have hblank : isLineEnd ' ' = false := by decide
  have hbar : isLineEnd '|' = false := by decide
  rw [toList_row hne, framed, List.flatMap_map]
  simp only [List.forall_mem_cons, List.forall_mem_flatMap, List.forall_mem_append, hblank, hbar,
    true_and, List.not_mem_nil, IsEmpty.forall_iff, implies_true, and_true]

/-- **A row is read back exactly if each of its cells stands for itself.** -/
theorem readLines_row_iff {cells : List String} (hne : cells ≠ []) :
    (fileLines (row cells).toList).map readRow = [cells] ↔ ∀ c ∈ cells, IsPlainCell c := by
  have hcells : readRow (row cells).toList = cells ↔
      ∀ c ∈ cells, '|' ∉ c.toList ∧ trim c.toList = c.toList := by
    rw [readRow_row hne, flatMap_eq_self_iff fun c _ => cellContents_ne_nil c]
    exact forall₂_congr fun c _ => cellContents_eq_singleton_iff
  constructor
  · intro hread
    have hlength := congrArg List.length hread
    rw [List.length_map, List.length_singleton] at hlength
    have hend := length_fileLines_eq_one_iff.1 hlength
    rw [fileLines_of_no_lineEnd hend, List.map_singleton, List.singleton_inj] at hread
    intro c hc
    exact ⟨(hcells.1 hread c hc).1, (row_has_no_lineEnd_iff hne).1 hend c hc,
      (hcells.1 hread c hc).2⟩
  · intro hplain
    have hend := (row_has_no_lineEnd_iff hne).2 fun c hc => (hplain c hc).lineEnd
    rw [fileLines_of_no_lineEnd hend, List.map_singleton, List.singleton_inj]
    exact hcells.2 fun c hc => ⟨(hplain c hc).bar, (hplain c hc).blanks⟩

/-! ### The line that aligns the columns -/

/-- The line that aligns the columns. -/
def alignmentRow (headings : List String) : String :=
  "|" ++ "|".intercalate (headings.map alignment) ++ "|"

/-- The characters of a mark. -/
lemma toList_alignment (heading : String) :
    (alignment heading).toList = ':' :: List.replicate (heading.length + 1) '-' := by
  simp [alignment]

/-- The characters of the line that aligns the columns. -/
lemma toList_alignmentRow {headings : List String} (hne : headings ≠ []) :
    (alignmentRow headings).toList = framed (headings.map fun h => (alignment h).toList) := by
  obtain ⟨first, rest, rfl⟩ := List.exists_cons_of_ne_nil hne
  induction rest generalizing first with
  | nil => simp [alignmentRow, framed]
  | cons second rest ih =>
    have hsplit : (alignmentRow (first :: second :: rest)).toList =
        '|' :: (alignment first).toList ++ (alignmentRow (second :: rest)).toList := by
      simp [alignmentRow, String.intercalate_cons_cons]
    rw [hsplit, ih second (by simp)]
    simp [framed]

/-- A mark stands for itself. -/
lemma content_alignment (heading : String) :
    (cut ' ' (alignment heading).toList).map content = [alignment heading] := by
  have hbar : '|' ∉ (alignment heading).toList := by
    simp [toList_alignment]
  have htrim : trim (alignment heading).toList = (alignment heading).toList := by
    rw [toList_alignment, List.replicate_succ', trim, Text.stripBy,
      List.dropWhile_cons_of_neg (by decide), ← List.cons_append]
    exact List.rdropWhile_concat_neg _ _ _ (by decide)
  rw [cut_of_no_bar ' ' hbar, List.map_singleton, content, unescape_of_no_bar hbar, htrim,
    String.ofList_toList]

/-- A mark is one. -/
lemma isMark_alignment (heading : String) : isMark (alignment heading) = true := by
  have hlast : (List.replicate (heading.length + 1) '-').getLast? ≠ some ':' := by
    rw [List.replicate_succ', List.getLast?_concat]
    decide
  rw [isMark, toList_alignment, List.head?_cons, if_pos rfl, List.tail_cons, if_neg hlast]
  simp

/-- There is a mark for each heading. -/
lemma readRow_alignmentRow {headings : List String} (hne : headings ≠ []) :
    readRow (alignmentRow headings).toList = headings.map alignment := by
  rw [toList_alignmentRow hne, readRow_framed, List.flatMap_map]
  · simp only [content_alignment]
    exact List.flatMap_pure_eq_map _ _
  · intro p hp
    obtain ⟨h, -, rfl⟩ := List.mem_map.1 hp
    rw [toList_alignment, List.replicate_succ', ← List.cons_append]
    exact ⟨_, '-', rfl, by decide⟩

/-! ### Tables -/

/-- A row does not end in a line end. -/
lemma row_ends (cells : List String) :
    ∃ s c, (row cells).toList = s ++ [c] ∧ isLineEnd c = false :=
  ⟨("| " ++ " | ".intercalate cells ++ " ").toList, '|', by simp [row], by decide⟩

/-- There is no line end in the line that aligns the columns. -/
lemma alignmentRow_has_no_lineEnd {headings : List String} (hne : headings ≠ []) :
    ∀ c ∈ (alignmentRow headings).toList, isLineEnd c = false := by
  have hbar : isLineEnd '|' = false := by decide
  have hmark : ∀ n, ∀ c ∈ ':' :: List.replicate n '-', isLineEnd c = false := by
    intro n c hc
    rcases List.mem_cons.1 hc with rfl | hc
    · decide
    · rw [List.eq_of_mem_replicate hc]
      decide
  rw [toList_alignmentRow hne, framed, List.flatMap_map]
  simp only [List.forall_mem_cons, List.forall_mem_flatMap, List.forall_mem_append, hbar, true_and,
    toList_alignment, List.not_mem_nil, IsEmpty.forall_iff, implies_true, and_true]
  exact fun h _ => List.forall_mem_cons.1 (hmark (h.length + 1))

section Tables

variable {t : Table}

/-- The lines of a table: those of its headings, the marks, and those of its rows. -/
lemma fileLines_table (hne : t.headings ≠ []) : fileLines (table t).toList =
    fileLines (row t.headings).toList ++ (alignmentRow t.headings).toList ::
      t.rows.flatMap fun cells => fileLines (row cells).toList := by
  have hmarks := fileLines_of_no_lineEnd (alignmentRow_has_no_lineEnd hne)
  have hlines : (table t).toList = ['\n'].intercalate ((row t.headings).toList ::
      (alignmentRow t.headings).toList :: t.rows.map fun cells => (row cells).toList) := by
    rw [table, String.toList_intercalate, List.map_cons, List.map_cons, List.map_map]
    rfl
  have hends : ∀ p ∈ (row t.headings).toList :: (alignmentRow t.headings).toList ::
      t.rows.map (fun cells => (row cells).toList), ∃ s c, p = s ++ [c] ∧ isLineEnd c = false := by
    simp only [List.forall_mem_cons, List.forall_mem_map]
    refine ⟨row_ends _, ?_, fun cells _ => row_ends cells⟩
    exact ⟨_, '|', by rw [alignmentRow, String.toList_append]; rfl, by decide⟩
  rw [hlines, Text.fileLines_intercalate (List.cons_ne_nil _ _) hends, List.flatMap_cons,
    List.flatMap_cons, hmarks, List.flatMap_map]
  rfl

/-- The headings stand for themselves, and there are cells in each line. -/
structure HasPlainHeadings (t : Table) : Prop where
  /-- There are headings. -/
  ne_nil : t.headings ≠ []
  /-- They stand for themselves. -/
  plain : ∀ c ∈ t.headings, IsPlainCell c
  /-- There are cells in each row. -/
  rows : ∀ cells ∈ t.rows, cells ≠ []

variable (h : HasPlainHeadings t)

include h

/-- The lines of a table with plain headings. -/
lemma HasPlainHeadings.fileLines_table : fileLines (table t).toList =
    (row t.headings).toList :: (alignmentRow t.headings).toList ::
      t.rows.flatMap fun cells => fileLines (row cells).toList := by
  have hhead : ∀ c ∈ (row t.headings).toList, isLineEnd c = false :=
    (row_has_no_lineEnd_iff h.ne_nil).2 fun c hc => (h.plain c hc).lineEnd
  rw [Markdown.fileLines_table h.ne_nil, fileLines_of_no_lineEnd hhead]
  rfl

/-- **A table has a line per row**, behind its first two lines, exactly if there is no line end in a
cell. -/
theorem length_fileLines_table_iff : (fileLines (table t).toList).length = t.rows.length + 2 ↔
    ∀ cells ∈ t.rows, ∀ cell ∈ cells, ∀ c ∈ cell.toList, isLineEnd c = false := by
  rw [h.fileLines_table, List.length_cons, List.length_cons, Nat.add_right_cancel_iff,
    Nat.add_right_cancel_iff, length_flatMap_eq_iff fun cells _ => Text.fileLines_ne_nil _]
  exact forall₂_congr fun cells hcells =>
    length_fileLines_eq_one_iff.trans (row_has_no_lineEnd_iff (h.rows cells hcells))

/-- What is read from a table: its headings, and a row for each line behind the first two. -/
theorem HasPlainHeadings.read_table : read (table t) = some
    ⟨t.headings, t.rows.flatMap fun cells => (fileLines (row cells).toList).map readRow⟩ := by
  have hhead : readRow (row t.headings).toList = t.headings := by
    have hread := (readLines_row_iff h.ne_nil).2 h.plain
    have hend := (row_has_no_lineEnd_iff h.ne_nil).2 fun c hc => (h.plain c hc).lineEnd
    rwa [fileLines_of_no_lineEnd hend, List.map_singleton, List.singleton_inj] at hread
  have hmarks : (t.headings.map alignment).all isMark = true := by
    simp [isMark_alignment]
  simp only [read, h.fileLines_table]
  rw [hhead, readRow_alignmentRow h.ne_nil, List.length_map, if_pos ⟨rfl, hmarks⟩, List.map_flatMap]

/-- **A table is read back** exactly if each of its cells stands for itself. -/
theorem read_table_iff :
    read (table t) = some t ↔ ∀ cells ∈ t.rows, ∀ c ∈ cells, IsPlainCell c := by
  have hself : read (table t) = some t ↔
      (t.rows.flatMap fun cells => (fileLines (row cells).toList).map readRow) = t.rows := by
    rw [h.read_table, Option.some.injEq, Table.mk.injEq]
    exact and_iff_right rfl
  rw [hself, flatMap_eq_self_iff fun cells _ => mt List.map_eq_nil_iff.1 (Text.fileLines_ne_nil _)]
  exact forall₂_congr fun cells hcells => readLines_row_iff (h.rows cells hcells)

end Tables

/-! ### Registers and modules -/

/-- A text without bars and blanks stands for itself. -/
lemma isPlainCell_of_forall {s : String}
    (h : ∀ c ∈ s.toList, c ≠ '|' ∧ isAsciiBlank c = false) : IsPlainCell s where
  bar hbar := (h _ hbar).1 rfl
  lineEnd c hc := by
    have hblank := (h c hc).2
    cases hend : isLineEnd c with
    | false => rfl
    | true =>
      simp only [isLineEnd, Bool.or_eq_true, beq_iff_eq] at hend
      rcases hend with rfl | rfl <;> exact absurd hblank (by decide)
  blanks := by
    have hdrop : ∀ t : List Char,
        (∀ c ∈ t, isAsciiBlank c = false) → t.dropWhile isAsciiBlank = t := fun t ht =>
      List.dropWhile_eq_self_iff.2 fun hlength => by simp [ht _ (List.getElem_mem hlength)]
    have hnone : ∀ c ∈ s.toList, isAsciiBlank c = false := fun c hc => (h c hc).2
    rw [trim, Text.stripBy, hdrop _ hnone, Text.dropEndBy,
      hdrop _ fun c hc => hnone c (List.mem_reverse.1 hc), List.reverse_reverse]

/-- A number stands for itself. -/
lemma isPlainCell_intText (i : ℤ) : IsPlainCell (Numeral.intText i) := by
  have hdigit : ∀ d < 10, Text.digitChar d ≠ '|' ∧ isAsciiBlank (Text.digitChar d) = false := by
    decide
  refine isPlainCell_of_forall fun c hc => ?_
  rcases Numeral.of_mem_intText hc with rfl | ⟨d, hd, rfl⟩
  · decide
  · exact hdigit d hd

/-- The headings of the table of registers stand for themselves. -/
lemma hasPlainHeadings_registers (rs : List Register) :
    HasPlainHeadings ⟨registerHeadings, rs.map Register.texts⟩ := by
  have hplain : ∀ c ∈ registerHeadings, ∀ d ∈ c.toList, d ≠ '|' ∧ isAsciiBlank d = false := by
    simp [registerHeadings, isAsciiBlank]
  exact ⟨List.cons_ne_nil _ _, fun c hc => isPlainCell_of_forall (hplain c hc),
    by simp [Register.texts]⟩

/-- The headings of the table of modules stand for themselves. -/
lemma hasPlainHeadings_modules (ms : List ModuleSummary) :
    HasPlainHeadings ⟨moduleHeadings, ms.map ModuleSummary.texts⟩ := by
  have hplain : ∀ c ∈ moduleHeadings, ∀ d ∈ c.toList, d ≠ '|' ∧ isAsciiBlank d = false := by
    simp [moduleHeadings, isAsciiBlank]
  exact ⟨List.cons_ne_nil _ _, fun c hc => isPlainCell_of_forall (hplain c hc),
    by simp [ModuleSummary.texts]⟩

/-- **Which tables of registers and modules keep their shape.** The tables exist if the integers in
them can be written. A table has a line per row, behind its first two lines, exactly if there is no
line end in the names, clocks, resets and files in it. Reading its lines gives back the headings and
the texts of each row, and nothing else, exactly if these hold no bar either and have no blanks
around them. -/
theorem read_tables_iff {rs : List Register} {ms : List ModuleSummary}
    (hregisters : ∀ r ∈ rs, r.IsWritable) (hmodules : ∀ m ∈ ms, m.IsWritable) :
    (∃ text, registers rs = .ok text ∧
      ((fileLines text.toList).length = rs.length + 2 ↔
        ∀ r ∈ rs, ∀ s ∈ r.names, ∀ c ∈ s.toList, isLineEnd c = false) ∧
      (read text = some ⟨registerHeadings, rs.map Register.texts⟩ ↔
        ∀ r ∈ rs, ∀ s ∈ r.names, IsPlainCell s)) ∧
    ∃ text, modules ms = .ok text ∧
      ((fileLines text.toList).length = ms.length + 2 ↔
        ∀ m ∈ ms, ∀ s ∈ m.names, ∀ c ∈ s.toList, isLineEnd c = false) ∧
      (read text = some ⟨moduleHeadings, ms.map ModuleSummary.texts⟩ ↔
        ∀ m ∈ ms, ∀ s ∈ m.names, IsPlainCell s) := by
  constructor
  · have h := hasPlainHeadings_registers rs
    refine ⟨_, by rw [registers, registerTable_of_isWritable hregisters]; rfl, ?_, ?_⟩
    · have hlength := length_fileLines_table_iff h
      rw [List.length_map, List.forall_mem_map] at hlength
      exact hlength.trans <| forall₂_congr fun r _ =>
        Register.forall_mem_texts_iff (fun i => (isPlainCell_intText i).lineEnd) r
    · have hread := read_table_iff h
      rw [List.forall_mem_map] at hread
      exact hread.trans <| forall₂_congr fun r _ =>
        Register.forall_mem_texts_iff isPlainCell_intText r
  · have h := hasPlainHeadings_modules ms
    refine ⟨_, by rw [modules, moduleTable_of_isWritable hmodules]; rfl, ?_, ?_⟩
    · have hlength := length_fileLines_table_iff h
      rw [List.length_map, List.forall_mem_map] at hlength
      exact hlength.trans <| forall₂_congr fun m _ =>
        ModuleSummary.forall_mem_texts_iff (fun i => (isPlainCell_intText i).lineEnd) m
    · have hread := read_table_iff h
      rw [List.forall_mem_map] at hread
      exact hread.trans <| forall₂_congr fun m _ =>
        ModuleSummary.forall_mem_texts_iff isPlainCell_intText m

/-- A register with a clock and without a reset. -/
def plainRegister : Register where
  name := "count_q"
  width := 8
  line := 3
  module := "\\m#1"
  file := "rtl/a.sv"
  clock := some "clk"

/-- A module whose file has a line end in its name. -/
def brokenModule : ModuleSummary where
  name := "top"
  registerCount := 0
  file := "a\n.sv"
  line := 1

/-- The table of this register is read back, and that of this module has a line too many. -/
theorem read_tables_plain :
    (∀ r ∈ [plainRegister], r.IsWritable) ∧ (∀ m ∈ [brokenModule], m.IsWritable) ∧
      (∃ text, registers [plainRegister] = .ok text ∧ (fileLines text.toList).length = 3 ∧
        read text = some ⟨registerHeadings,
          [["count_q", "\\m#1", "potential_register", "8", "clk", "", "rtl/a.sv", "3"]]⟩) ∧
      ∃ text, modules [brokenModule] = .ok text ∧ (fileLines text.toList).length ≠ 3 := by
  have hregister : ∀ r ∈ [plainRegister], r.IsWritable :=
    List.forall_mem_singleton.2 (Register.isWritable_of_lt (by decide) (by decide))
  have hmodule : ∀ m ∈ [brokenModule], m.IsWritable :=
    List.forall_mem_singleton.2 ⟨Numeral.length_decimal_le_limit (by decide),
      Numeral.length_decimal_le_limit (by decide)⟩
  have hplain : ∀ r ∈ [plainRegister], ∀ s ∈ r.names, IsPlainCell s := by
    have hchars : ∀ s ∈ plainRegister.names, ∀ c ∈ s.toList, c ≠ '|' ∧ isAsciiBlank c = false := by
      simp [plainRegister, Register.names, Classification.potential, isAsciiBlank]
    exact List.forall_mem_singleton.2 fun s hs => isPlainCell_of_forall (hchars s hs)
  have htexts : plainRegister.texts =
      ["count_q", "\\m#1", "potential_register", "8", "clk", "", "rtl/a.sv", "3"] := by
    simp [Register.texts, plainRegister, Classification.potential, Numeral.intText,
      Numeral.natText, Numeral.decimal, Text.digitChar]
  obtain ⟨⟨text, hok, hlines, hread⟩, ⟨broken, hbroken, hcount, -⟩⟩ :=
    read_tables_iff hregister hmodule
  rw [List.map_singleton, htexts] at hread
  refine ⟨hregister, hmodule, ⟨text, hok, hlines.2 fun r hr s hs => (hplain r hr s hs).lineEnd,
    hread.2 hplain⟩, broken, hbroken, fun hthree => ?_⟩
  have hfile := hcount.1 hthree brokenModule List.mem_cons_self brokenModule.file
    (by simp [ModuleSummary.names])
  exact absurd (hfile '\n' (by decide)) (by decide)

/-- A register whose name is an escaped identifier with a bar in it. -/
def barredRegister : Register where
  name := "\\a|b"
  width := 1
  line := 1
  module := "m"
  file := "a.sv"

/-- **A bar in a name makes a cell too many**: the row of this register has nine cells under eight
headings. -/
theorem read_registers_barred : ∃ text, registers [barredRegister] = .ok text ∧
    read text = some ⟨registerHeadings,
      [["\\a", "b", "m", "potential_register", "1", "", "", "a.sv", "1"]]⟩ := by
  have hwritable : ∀ r ∈ [barredRegister], r.IsWritable :=
    List.forall_mem_singleton.2 (Register.isWritable_of_lt (by decide) (by decide))
  have hrow : (fileLines (row barredRegister.texts).toList).map readRow =
      [["\\a", "b", "m", "potential_register", "1", "", "", "a.sv", "1"]] := by
    decide +kernel
  refine ⟨_, by rw [registers, registerTable_of_isWritable hwritable]; rfl, ?_⟩
  rw [(hasPlainHeadings_registers [barredRegister]).read_table, List.map_singleton,
    List.flatMap_singleton, hrow]

end FlopCensus.Report.Markdown
