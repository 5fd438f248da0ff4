import FlopCensus.Text.Lines
import Mathlib.Data.List.Basic
import Mathlib.Tactic.Common

set_option autoImplicit false
set_option relaxedAutoImplicit false

/-!
# The lines of a text file

A text file has three line ends, `\n`, `\r\n` and `\r`. The lines of a text that was joined from
pieces are those of the pieces, provided that no piece ends in half of a line end.

## Main definitions

* `FlopCensus.Text.isLineEnd` — the characters of line ends.
* `FlopCensus.Text.fileLines` — the lines of a text file.

## Main results

* `FlopCensus.Text.unifyNewlines_append_cons` — line ends in front of another character.
* `FlopCensus.Text.length_fileLines_eq_one_iff` — the texts that are a single line.
* `FlopCensus.Text.fileLines_intercalate` — the lines of a text that was joined from pieces.
-/

namespace FlopCensus.Text

/-- The character belongs to a line end. -/
def isLineEnd (c : Char) : Bool :=
  c == '\r' || c == '\n'

/-- The lines of a text file, without line ends. A line end has a line behind it, which may be
empty. -/
def fileLines (s : List Char) : List (List Char) :=
  (unifyNewlines s).splitOn '\n'

/-! ### Line ends of one form -/

/-- A character that does not open a pair is brought to its form by itself. -/
lemma unifyNewlines_cons {c : Char} {s : List Char} (h : c = '\r' → s.head? ≠ some '\n') :
    unifyNewlines (c :: s) = (if c == '\r' then '\n' else c) :: unifyNewlines s := by
  cases s with
  | nil => simp [unifyNewlines]
  | cons d s =>
    rw [unifyNewlines]
    rintro rest rfl hrest
    obtain ⟨rfl, -⟩ := List.cons.inj hrest
    exact h rfl rfl

/-- **Line ends are not changed by what follows**, if this is no line feed. -/
theorem unifyNewlines_append_cons (s : List Char) {c : Char} (hc : c ≠ '\n') (t : List Char) :
    unifyNewlines (s ++ c :: t) = unifyNewlines s ++ unifyNewlines (c :: t) := by
  fun_induction unifyNewlines s with
  | case1 => rfl
  | case2 rest ih => rw [List.cons_append, List.cons_append, unifyNewlines, ih, List.cons_append]
  | case3 d rest hpair ih =>
    have hopen : d = '\r' → (rest ++ c :: t).head? ≠ some '\n' := by
      rintro rfl
      cases rest with
      | nil => simpa using hc
      | cons e rest =>
        intro he
        obtain rfl : e = '\n' := by simpa using he
        exact hpair rest rfl rfl
    rw [List.cons_append, unifyNewlines_cons hopen, ih, List.cons_append]

/-- There is a line feed for each line end. -/
lemma newline_mem_unifyNewlines_iff {s : List Char} :
    '\n' ∈ unifyNewlines s ↔ ∃ c ∈ s, isLineEnd c = true := by
  fun_induction unifyNewlines s with
  | case1 => simp
  | case2 rest ih => simp [isLineEnd]
  | case3 c rest hpair ih =>
    rw [List.mem_cons, ih, List.exists_mem_cons_iff, isLineEnd]
    refine or_congr ?_ Iff.rfl
    by_cases hreturn : c = '\r'
    · simp [hreturn]
    · simp only [beq_iff_eq, hreturn, if_false, Bool.or_eq_true, false_or]
      exact eq_comm

/-- A text without line ends remains as it is. -/
lemma unifyNewlines_of_no_lineEnd {s : List Char} (h : ∀ c ∈ s, isLineEnd c = false) :
    unifyNewlines s = s := by
  induction s with
  | nil => rfl
  | cons c s ih =>
    obtain ⟨hc, hs⟩ := List.forall_mem_cons.1 h
    have hreturn : c ≠ '\r' := by
      rintro rfl
      exact absurd hc (by decide)
    rw [unifyNewlines_cons fun hr => absurd hr hreturn, ih hs, if_neg (by simpa using hreturn)]

/-! ### Lines -/

/-- There is at least one line. -/
lemma fileLines_ne_nil (s : List Char) : fileLines s ≠ [] :=
  List.splitOn_ne_nil _ _

/-- A text without line ends is one line. -/
lemma fileLines_of_no_lineEnd {s : List Char} (h : ∀ c ∈ s, isLineEnd c = false) :
    fileLines s = [s] := by
  have hnone : '\n' ∉ s := fun hmem => absurd (h _ hmem) (by decide)
  rw [fileLines, unifyNewlines_of_no_lineEnd h, List.splitOn_eq_singleton hnone]

/-- **A text is one line exactly if it has no line ends.** -/
theorem length_fileLines_eq_one_iff {s : List Char} :
    (fileLines s).length = 1 ↔ ∀ c ∈ s, isLineEnd c = false := by
  constructor
  · intro hlength c hc
    by_contra hend
    have hmem := newline_mem_unifyNewlines_iff.2 ⟨c, hc, by simpa using hend⟩
    obtain ⟨before, behind, hsplit⟩ := List.append_of_mem hmem
    rw [fileLines, hsplit, List.splitOn_append_cons_self, List.length_append] at hlength
    have hbefore := List.length_pos_of_ne_nil (List.splitOn_ne_nil '\n' before)
    have hbehind := List.length_pos_of_ne_nil (List.splitOn_ne_nil '\n' behind)
    omega
  · intro h
    rw [fileLines_of_no_lineEnd h, List.length_singleton]

/-- A line feed behind a character that belongs to no line end separates the lines before it from
those behind it. -/
lemma fileLines_append_newline (s : List Char) {c : Char} (hc : isLineEnd c = false)
    (t : List Char) : fileLines (s ++ c :: '\n' :: t) = fileLines (s ++ [c]) ++ fileLines t := by
  simp only [isLineEnd, Bool.or_eq_false_iff, beq_eq_false_iff_ne] at hc
  have hline : ∀ u, unifyNewlines (c :: u) = c :: unifyNewlines u := fun u => by
    rw [unifyNewlines_cons fun hr => absurd hr hc.1, if_neg (by simpa using hc.1)]
  have hfeed : unifyNewlines ('\n' :: t) = '\n' :: unifyNewlines t :=
    unifyNewlines_cons fun hr => absurd hr (by decide)
  rw [fileLines, fileLines, fileLines, unifyNewlines_append_cons s hc.2,
    unifyNewlines_append_cons s hc.2, hline, hline, hfeed, unifyNewlines,
    ← List.splitOn_append_cons_self, List.append_assoc, List.singleton_append]

/-- **The lines of a joined text are those of its pieces**, if no piece ends in a line end. -/
theorem fileLines_intercalate {pieces : List (List Char)} (hne : pieces ≠ [])
    (h : ∀ p ∈ pieces, ∃ s c, p = s ++ [c] ∧ isLineEnd c = false) :
    fileLines (['\n'].intercalate pieces) = pieces.flatMap fileLines := by
  obtain ⟨first, rest, rfl⟩ := List.exists_cons_of_ne_nil hne
  induction rest generalizing first with
  | nil => simp
  | cons second rest ih =>
    obtain ⟨s, c, rfl, hc⟩ := h first List.mem_cons_self
    have hrest := ih second (by simp) fun p hp => h p (List.mem_cons_of_mem _ hp)
    rw [List.intercalate_cons_cons, List.append_assoc, List.append_assoc, List.singleton_append,
      List.singleton_append, fileLines_append_newline s hc, hrest]
    rfl

end FlopCensus.Text
