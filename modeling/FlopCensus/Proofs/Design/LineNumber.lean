import FlopCensus.Design.Width
import Mathlib.Data.List.SplitBy
import Mathlib.Tactic.Common

set_option autoImplicit false
set_option relaxedAutoImplicit false

/-!
# Line numbers

The line of a byte is found by counting the newlines in front of it. A line is a piece of the
source, which is cut after each newline, so a newline stands at the end of the line that it ends,
and an empty line is a piece that is nothing but its newline.

## Main definitions

* `FlopCensus.Design.sourceLines` — the source, cut after each newline.
* `FlopCensus.Design.IsOnLine` — the byte at an offset lies in the line with a number.

## Main results

* `FlopCensus.Design.sourceLines_eq_iff` — what makes pieces the lines of a source.
* `FlopCensus.Design.lineAt_eq_iff` — inside the source, counting newlines finds the line.
* `FlopCensus.Design.lineAt_law` — line numbers inside the source and outside of it.

## Design

Equal lines may stand in a source, so a line is told by where it starts: behind all lines in front
of it. Each of these has exactly one newline (`count_newline_of_mem_dropLast`), which is all that
counting and cutting have to agree on.
-/

namespace FlopCensus.Design

/-- The byte that ends a line. -/
def newline : UInt8 := 10

/-- The lines of a source, each with the newline that ends it: two neighbouring bytes belong to the
same line unless the first of them is a newline. -/
def sourceLines (source : List UInt8) : List (List UInt8) :=
  source.splitBy fun b _ => b != newline

/-- The number of bytes in front of the line with an index, lines being indexed from zero. -/
def lineStart (source : List UInt8) (index : ℕ) : ℕ :=
  ((sourceLines source).take index).flatten.length

/-- The byte at an offset lies in the line with a number, lines being counted from one: the line has
started, and the next one has not. -/
def IsOnLine (source : List UInt8) (offset number : ℕ) : Prop :=
  1 ≤ number ∧ lineStart source (number - 1) ≤ offset ∧ offset < lineStart source number

instance (source : List UInt8) (offset number : ℕ) : Decidable (IsOnLine source offset number) :=
  inferInstanceAs (Decidable (_ ∧ _))

/-! ### The lines of a source -/

/-- What does not depend on the second of two neighbours holds along a list if it holds of all
elements but the last. -/
lemma isChain_iff_forall_mem_dropLast {α : Type} {p : α → Prop} {xs : List α} :
    xs.IsChain (fun x _ => p x) ↔ ∀ x ∈ xs.dropLast, p x := by
  simp [List.isChain_iff_getElem, List.forall_mem_iff_getElem, Nat.lt_sub_iff_add_lt]

/-- **The lines of a source are the one way to cut it** into pieces that are not empty, with a
newline at the end of each piece but the last and nowhere else.

**Proof sketch.** The cut is told by the neighbours that it separates. No two neighbours are cut
apart inside a line, so none of its bytes but the last is a newline; the last byte of a line and the
first one of the next are cut apart, so the former is a newline. -/
theorem sourceLines_eq_iff {source : List UInt8} {lines : List (List UInt8)} :
    sourceLines source = lines ↔
      source = lines.flatten ∧ [] ∉ lines ∧ (∀ line ∈ lines, newline ∉ line.dropLast) ∧
        ∀ line ∈ lines.dropLast, line.getLast? = some newline := by
  rw [sourceLines, List.splitBy_eq_iff]
  refine and_congr_right fun _ => and_congr_right fun hne => and_congr ?_ ?_
  · refine forall₂_congr fun line _ => ?_
    rw [isChain_iff_forall_mem_dropLast]
    simp only [bne_iff_ne]
    exact List.forall_mem_ne'
  · rw [← isChain_iff_forall_mem_dropLast]
    refine List.IsChain.iff_of_mem_imp fun line next hline hnext => ?_
    have hl : line ≠ [] := ne_of_mem_of_not_mem hline hne
    have hn : next ≠ [] := ne_of_mem_of_not_mem hnext hne
    simp [hl, hn, List.getLast?_eq_some_getLast hl]

/-- The lines make up the source. -/
@[simp] lemma flatten_sourceLines (source : List UInt8) : (sourceLines source).flatten = source :=
  (sourceLines_eq_iff.1 rfl).1.symm

variable {source : List UInt8}

/-- A newline stands nowhere in a line but at its end. -/
lemma newline_not_mem_dropLast {line : List UInt8} (hline : line ∈ sourceLines source) :
    newline ∉ line.dropLast :=
  (sourceLines_eq_iff.1 rfl).2.2.1 line hline

/-- **A line with another one behind it has one newline.** -/
lemma count_newline_of_mem_dropLast {line : List UInt8}
    (hline : line ∈ (sourceLines source).dropLast) : line.count newline = 1 := by
  have hlast : line.getLast? = some newline := (sourceLines_eq_iff.1 rfl).2.2.2 line hline
  have hinside := newline_not_mem_dropLast (List.dropLast_subset _ hline)
  rw [← List.dropLast_append_getLast? newline hlast, List.count_append,
    List.count_eq_zero.2 hinside, List.count_singleton_self]

/-- In front of the line with an index there are as many newlines as lines. -/
lemma count_newline_take {index : ℕ} (hindex : index < (sourceLines source).length) :
    ((sourceLines source).take index).flatten.count newline = index := by
  induction index with
  | zero => rfl
  | succ index ih =>
    have hbefore : index < (sourceLines source).length := Nat.lt_of_succ_lt hindex
    have hline : (sourceLines source)[index] ∈ (sourceLines source).dropLast := by
      rw [← List.getElem_dropLast (by rw [List.length_dropLast]; omega)]
      exact List.getElem_mem _
    rw [List.take_succ_eq_append_getElem hbefore, List.flatten_concat, List.count_append,
      ih hbefore, count_newline_of_mem_dropLast hline]

/-! ### Where lines start -/

/-- A line ends where the next one starts. -/
lemma lineStart_succ {index : ℕ} (hindex : index < (sourceLines source).length) :
    lineStart source (index + 1) = lineStart source index + (sourceLines source)[index].length := by
  rw [lineStart, List.take_succ_eq_append_getElem hindex, List.flatten_concat, List.length_append,
    lineStart]

/-- Behind the last line there is nothing. -/
lemma lineStart_of_length_le {index : ℕ} (hindex : (sourceLines source).length ≤ index) :
    lineStart source index = source.length := by
  rw [lineStart, List.take_of_length_le hindex, flatten_sourceLines]

/-- A line that holds a byte is one of the lines. -/
lemma IsOnLine.index_lt {offset index : ℕ} (h : IsOnLine source offset (index + 1)) :
    index < (sourceLines source).length := by
  obtain ⟨-, hstart, hstop⟩ := h
  by_contra hindex
  rw [Nat.add_sub_cancel, lineStart_of_length_le (by omega)] at hstart
  rw [lineStart_of_length_le (by omega)] at hstop
  omega

/-- The source, split at a line. -/
lemma eq_append_getElem_append {index : ℕ} (hindex : index < (sourceLines source).length) :
    source = ((sourceLines source).take index).flatten ++
      ((sourceLines source)[index] ++ ((sourceLines source).drop (index + 1)).flatten) := by
  rw [← List.flatten_cons, ← List.drop_eq_getElem_cons hindex, ← List.flatten_append,
    List.take_append_drop, flatten_sourceLines]

/-- The bytes in front of a byte of a line are those in front of the line and some of the line. -/
lemma take_lineStart_add {index : ℕ} (hindex : index < (sourceLines source).length) {i : ℕ}
    (hi : i ≤ (sourceLines source)[index].length) :
    source.take (lineStart source index + i) =
      ((sourceLines source).take index).flatten ++ (sourceLines source)[index].take i := by
  calc source.take (lineStart source index + i)
      = (((sourceLines source).take index).flatten ++ ((sourceLines source)[index] ++
          ((sourceLines source).drop (index + 1)).flatten)).take (lineStart source index + i) :=
        congrArg _ (eq_append_getElem_append hindex)
    _ = ((sourceLines source).take index).flatten ++ (sourceLines source)[index].take i := by
        rw [lineStart, List.take_length_add_append, List.take_append_of_le_length hi]

/-- Each byte of the source lies in a line.

**Proof sketch.** Some line starts behind the byte; the first one that does comes right after the
line with the byte. -/
lemma exists_isOnLine {offset : ℕ} (hoffset : offset < source.length) :
    ∃ number, IsOnLine source offset number := by
  suffices hbehind : ∀ index, offset < lineStart source index →
      ∃ number, IsOnLine source offset number by
    refine hbehind (sourceLines source).length ?_
    rwa [lineStart_of_length_le le_rfl]
  intro index hindex
  induction index with
  | zero => exact absurd hindex (Nat.not_lt_zero offset)
  | succ index ih =>
    by_cases hearlier : offset < lineStart source index
    · exact ih hearlier
    · exact ⟨index + 1, Nat.le_add_left 1 index, Nat.le_of_not_lt hearlier, hindex⟩

/-! ### Counting newlines -/

/-- The line at an offset of the source: one more than there are newlines in front of it. -/
lemma lineAt_natCast (source : List UInt8) (offset : ℕ) :
    lineAt source offset = (source.take offset).count newline + 1 :=
  rfl

/-- A byte of a line has its number: the newlines in front of the byte are those that end the lines
in front of its own. -/
lemma lineAt_of_isOnLine {offset number : ℕ} (h : IsOnLine source offset number) :
    lineAt source offset = number := by
  obtain ⟨index, rfl⟩ := Nat.exists_eq_add_of_le' h.1
  have hindex := h.index_lt
  obtain ⟨-, hstart, hstop⟩ := h
  rw [Nat.add_sub_cancel] at hstart
  rw [lineStart_succ hindex] at hstop
  obtain ⟨i, rfl⟩ := Nat.exists_eq_add_of_le hstart
  have hi : i < (sourceLines source)[index].length := Nat.lt_of_add_lt_add_left hstop
  -- a newline in front of the byte on its own line would end that line
  have hinside : newline ∉ (sourceLines source)[index].take i := by
    intro hmem
    refine newline_not_mem_dropLast (List.getElem_mem hindex) ?_
    rw [List.dropLast_eq_take]
    exact List.take_subset_take_left _ (by omega) hmem
  calc lineAt source ↑(lineStart source index + i)
      = (source.take (lineStart source index + i)).count newline + 1 := lineAt_natCast source _
    _ = ((sourceLines source).take index).flatten.count newline +
          ((sourceLines source)[index].take i).count newline + 1 := by
        rw [take_lineStart_add hindex hi.le, List.count_append]
    _ = index + 1 := by
        rw [count_newline_take hindex, List.count_eq_zero.2 hinside, Nat.add_zero]

/-- **Counting newlines finds the line of a byte**: the answer is the number of the one line that
the byte lies in. -/
theorem lineAt_eq_iff {offset number : ℕ} (hoffset : offset < source.length) :
    lineAt source offset = number ↔ IsOnLine source offset number := by
  constructor
  · rintro rfl
    obtain ⟨number, hnumber⟩ := exists_isOnLine hoffset
    rwa [lineAt_of_isOnLine hnumber]
  · exact lineAt_of_isOnLine

/-- Further on in the source the line is not an earlier one. -/
lemma lineAt_mono (source : List UInt8) {a b : ℤ} (hab : a ≤ b) :
    lineAt source a ≤ lineAt source b := by
  have hfront : (source.take a.toNat).Sublist (source.take b.toNat) :=
    List.take_sublist_take_left (Int.toNat_le_toNat hab)
  exact Nat.succ_le_succ (hfront.count_le newline)

/-- The next byte is on the next line exactly if this one is a newline. -/
lemma lineAt_succ (source : List UInt8) (offset : ℕ) :
    lineAt source (offset + 1) =
      lineAt source offset + if source[offset]? = some newline then 1 else 0 := by
  rw [← Int.natCast_succ, lineAt_natCast, lineAt_natCast, List.take_add_one, List.count_append]
  cases source[offset]? with
  | none => simp
  | some b =>
    simp only [Option.toList_some, List.count_singleton, beq_iff_eq, Option.some.injEq]
    omega

/-- In front of the source it is the first line. -/
lemma lineAt_of_neg (source : List UInt8) {offset : ℤ} (hoffset : offset < 0) :
    lineAt source offset = 1 := by
  rw [lineAt, Int.toNat_of_nonpos (Int.le_of_lt hoffset), List.take_zero, List.count_nil]

/-- Behind the source all newlines count. -/
lemma lineAt_of_length_le {offset : ℤ} (hoffset : source.length ≤ offset) :
    lineAt source offset = 1 + source.count newline := by
  rw [lineAt, List.take_of_length_le (by omega), Nat.add_comm, newline]

/-- **Line numbers agree with the source cut after each newline.** Inside the source the number at
an offset is that of the line with the byte. From one offset to the next it stays or, right after a
newline, rises by one. In front of the source it is one, and behind it one more than there are
newlines. -/
theorem lineAt_law (source : List UInt8) :
    (∀ offset : ℕ, offset < source.length → ∀ number,
      lineAt source offset = number ↔ IsOnLine source offset number) ∧
    (∀ a b : ℤ, a ≤ b → lineAt source a ≤ lineAt source b) ∧
    (∀ offset : ℕ, lineAt source (offset + 1) =
      lineAt source offset + if source[offset]? = some newline then 1 else 0) ∧
    (∀ offset : ℤ, offset < 0 → lineAt source offset = 1) ∧
    ∀ offset : ℤ, source.length ≤ offset → lineAt source offset = 1 + source.count newline := by
  refine ⟨fun offset hoffset number => ?_, fun a b hab => ?_, fun offset => ?_,
    fun offset hoffset => ?_, fun offset hoffset => ?_⟩
  · exact lineAt_eq_iff hoffset
  · exact lineAt_mono source hab
  · exact lineAt_succ source offset
  · exact lineAt_of_neg source hoffset
  · exact lineAt_of_length_le hoffset

/-- A source with an empty line and a last line that no newline ends. -/
def gappedSource : List UInt8 :=
  [97, 98, 10, 10, 99]

/-- **Line numbers around an empty line**: a newline stands on the line that it ends. -/
theorem lineAt_gappedSource :
    sourceLines gappedSource = [[97, 98, 10], [10], [99]] ∧
      lineAt gappedSource 2 = 1 ∧ lineAt gappedSource 3 = 2 ∧ lineAt gappedSource 4 = 3 ∧
      lineAt gappedSource (-1) = 1 ∧ lineAt gappedSource 5 = 3 := by
  obtain ⟨hinside, -, -, hbefore, hbehind⟩ := lineAt_law gappedSource
  refine ⟨by decide, ?_, ?_, ?_, hbefore (-1) (by decide), hbehind 5 (by decide)⟩
  · exact (hinside 2 (by decide) 1).2 (by decide)
  · exact (hinside 3 (by decide) 2).2 (by decide)
  · exact (hinside 4 (by decide) 3).2 (by decide)

end FlopCensus.Design
