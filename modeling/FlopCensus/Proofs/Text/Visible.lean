import FlopCensus.Proofs.Text.Line
import FlopCensus.Proofs.Text.LineEnd
import Mathlib.Data.List.Basic
import Mathlib.Tactic.Common

set_option autoImplicit false
set_option relaxedAutoImplicit false

/-!
# Lines whatever their ends

A text is cut into the same lines before and after its line ends are written in one form, for a pair
of a carriage return and a line feed is one separator in both conventions. Where line ends are
chosen freely a carriage return may come to stand in front of a line feed that was meant to end an
empty line. The lines that are not empty remain the same: they are what lies between separators.

## Main definitions

* `FlopCensus.Text.visibleLines` — the lines of a text that are not empty.
* `FlopCensus.Text.LineEnd` — the forms of a line end.
* `FlopCensus.Text.written` — a text that is written line by line.

## Main results

* `FlopCensus.Text.splitLines_unifyNewlines` — a text with its line ends in one form has the same
  lines.
* `FlopCensus.Text.visibleLines_eq` — the visible lines are what lies between separators.
* `FlopCensus.Text.visibleLines_written` — the visible lines do not depend on the line ends.
-/

namespace FlopCensus.Text

/-! ### Line ends in one form -/

/-- The first cut of a text and of the text with its line ends in one form. -/
lemma cutLine_unifyNewlines (s : List Char) :
    cutLine (unifyNewlines s) = ((cutLine s).1, (cutLine s).2.map unifyNewlines) := by
  have hopen : ∀ {c : Char} {rest : List Char},
      (∀ more, c = '\r' → rest = '\n' :: more → False) → c = '\r' → rest.head? ≠ some '\n' := by
    intro c rest hpair hc hhead
    cases rest with
    | nil => cases hhead
    | cons d more => exact hpair more hc (congrArg (· :: more) (Option.some.inj hhead))
  fun_induction cutLine s with
  | case1 => rfl
  | case2 rest => exact cutLine_cons_of_break (by decide) fun hr => absurd hr (by decide)
  | case3 c rest hpair hbreak =>
    rw [unifyNewlines_cons (hopen hpair)]
    split
    · exact cutLine_cons_of_break (by decide) fun hr => absurd hr (by decide)
    · rename_i hreturn
      exact cutLine_cons_of_break hbreak fun hr => absurd hr (by simpa using hreturn)
  | case4 c rest hpair hbreak line more hrest ih =>
    rw [Bool.not_eq_true] at hbreak
    have hreturn : c ≠ '\r' := by
      rintro rfl
      exact absurd hbreak (by decide)
    rw [unifyNewlines_cons (hopen hpair), if_neg (by simpa using hreturn),
      cutLine_cons_of_not_break _ hbreak, ih, hrest]

/-- The lines of a text without separators. -/
lemma splitLines_of_cutLine_eq_none {s line : List Char} (h : cutLine s = (line, none)) :
    splitLines s = [line].filter (· ≠ []) := by
  rw [splitLines]
  split <;> simp_all

/-- **A text with its line ends in one form has the same lines.** -/
theorem splitLines_unifyNewlines (s : List Char) : splitLines (unifyNewlines s) = splitLines s := by
  fun_induction splitLines s with
  | case1 s hs =>
    have hcut := cutLine_unifyNewlines s
    rw [hs] at hcut
    exact splitLines_of_cutLine_eq_none hcut
  | case2 s line hne hs =>
    have hcut := cutLine_unifyNewlines s
    rw [hs] at hcut
    rw [splitLines_of_cutLine_eq_none hcut, List.filter_cons_of_pos (by simpa using hne),
      List.filter_nil]
  | case3 s line rest hs ih =>
    have hcut := cutLine_unifyNewlines s
    rw [hs] at hcut
    rw [splitLines_of_cutLine hcut, ih]

/-! ### Visible lines -/

/-- The lines of a text that are not empty. -/
def visibleLines (s : List Char) : List (List Char) :=
  (splitLines s).filter (· ≠ [])

/-- The parts of a text between separators that are not empty. -/
def pieces (s : List Char) : List (List Char) :=
  (s.splitOnP isLineBreak).filter (· ≠ [])

/-- A separator stands between the pieces in front of it and those behind it. -/
lemma pieces_append_cons (s : List Char) {c : Char} (h : isLineBreak c = true) (t : List Char) :
    pieces (s ++ c :: t) = pieces s ++ pieces t := by
  rw [pieces, List.splitOnP_append_cons s t h, List.filter_append, pieces, pieces]

/-- A separator is no piece. -/
lemma pieces_cons {c : Char} (h : isLineBreak c = true) (t : List Char) :
    pieces (c :: t) = pieces t :=
  pieces_append_cons [] h t

/-- A text without separators is one piece, if it is not empty. -/
lemma pieces_of_isPlain {s : List Char} (h : IsPlain s) : pieces s = [s].filter (· ≠ []) := by
  rw [pieces, List.splitOnP_eq_singleton h]

/-- A text that is not cut is a plain line. -/
lemma of_cutLine_eq_none {s line : List Char} (h : cutLine s = (line, none)) :
    IsPlain line ∧ s = line := by
  fun_induction cutLine s generalizing line with
  | case1 =>
    obtain rfl : [] = line := (Prod.mk.inj h).1
    exact ⟨isPlain_nil, rfl⟩
  | case2 rest => cases h
  | case3 c rest hpair hbreak => cases h
  | case4 c rest hpair hbreak first more hrest ih =>
    obtain ⟨rfl, rfl⟩ := Prod.mk.inj h
    obtain ⟨hplain, rfl⟩ := ih hrest
    exact ⟨isPlain_cons.2 ⟨by simpa using hbreak, hplain⟩, rfl⟩

/-- A text that is cut has a plain line in front of a separator. What stands behind the first
character of the separator has the pieces of the rest. -/
lemma of_cutLine_eq_some {s line rest : List Char} (h : cutLine s = (line, some rest)) :
    IsPlain line ∧ ∃ c t, isLineBreak c = true ∧ s = line ++ c :: t ∧ pieces t = pieces rest := by
  fun_induction cutLine s generalizing line with
  | case1 => cases h
  | case2 more =>
    obtain ⟨rfl, hrest⟩ := Prod.mk.inj h
    obtain rfl := Option.some.inj hrest
    exact ⟨isPlain_nil, '\r', '\n' :: more, by decide, rfl, pieces_cons (by decide) more⟩
  | case3 c more hpair hbreak =>
    obtain ⟨rfl, hrest⟩ := Prod.mk.inj h
    obtain rfl := Option.some.inj hrest
    exact ⟨isPlain_nil, c, more, hbreak, rfl, rfl⟩
  | case4 c behind hpair hbreak first more hfirst ih =>
    obtain ⟨rfl, rfl⟩ := Prod.mk.inj h
    obtain ⟨hplain, d, t, hd, rfl, hpieces⟩ := ih hfirst
    exact ⟨isPlain_cons.2 ⟨by simpa using hbreak, hplain⟩, d, t, hd, rfl, hpieces⟩

/-- **The visible lines of a text are what lies between separators.** -/
theorem visibleLines_eq (s : List Char) : visibleLines s = pieces s := by
  rw [visibleLines]
  fun_induction splitLines s with
  | case1 s hs =>
    obtain ⟨hplain, rfl⟩ := of_cutLine_eq_none hs
    rfl
  | case2 s line hne hs =>
    obtain ⟨hplain, rfl⟩ := of_cutLine_eq_none hs
    rw [pieces_of_isPlain hplain]
  | case3 s line rest hs ih =>
    obtain ⟨hplain, c, t, hc, rfl, hpieces⟩ := of_cutLine_eq_some hs
    rw [pieces_append_cons line hc, hpieces, pieces_of_isPlain hplain, ← ih, ← List.filter_append,
      List.singleton_append]

/-! ### Written lines -/

/-- The forms of a line end. -/
inductive LineEnd where
  /-- A line feed. -/
  | feed
  /-- A carriage return and a line feed. -/
  | pair
  /-- A carriage return. -/
  | carriage
deriving Repr, DecidableEq

/-- The characters of a line end. -/
def LineEnd.chars : LineEnd → List Char
  | .feed => ['\n']
  | .pair => ['\r', '\n']
  | .carriage => ['\r']

/-- A text that is written line by line, each line with a line end of its own. -/
def written (lines : List (List Char × LineEnd)) : List Char :=
  lines.flatMap fun l => l.1 ++ l.2.chars

/-- All forms of a line end separate what stands in front of them from what stands behind. -/
lemma pieces_append_lineEnd (s : List Char) (e : LineEnd) (t : List Char) :
    pieces (s ++ (e.chars ++ t)) = pieces s ++ pieces t := by
  cases e with
  | feed => exact pieces_append_cons s (by decide) t
  | pair =>
    have hfeed : pieces ('\n' :: t) = pieces t := pieces_cons (by decide) t
    rw [← hfeed]
    exact pieces_append_cons s (by decide) ('\n' :: t)
  | carriage => exact pieces_append_cons s (by decide) t

/-- **The visible lines of a written text do not depend on its line ends.** -/
theorem visibleLines_written (lines : List (List Char × LineEnd)) (rest : List Char) :
    visibleLines (written lines ++ rest) =
      lines.flatMap (fun l => visibleLines l.1) ++ visibleLines rest := by
  induction lines with
  | nil => rfl
  | cons l lines ih =>
    rw [written, List.flatMap_cons, List.append_assoc, List.append_assoc, visibleLines_eq,
      pieces_append_lineEnd, ← visibleLines_eq, ← visibleLines_eq, ← written, ih,
      List.flatMap_cons, List.append_assoc]

end FlopCensus.Text
