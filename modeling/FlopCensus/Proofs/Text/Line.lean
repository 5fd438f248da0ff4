import FlopCensus.Text.Lines
import Mathlib.Data.List.Basic
import Mathlib.Tactic.Common

set_option autoImplicit false
set_option relaxedAutoImplicit false

/-!
# Cutting a text that was put together from lines

A text is written line by line, each line closed by a line feed. Reading cuts it at every separator,
so a line that holds separators of its own falls into several. What can be said in any case is that
the cuts of one line do not depend on the others, provided that it does not end in a separator.

## Main definitions

* `FlopCensus.Text.IsPlain` — a text without separators.
* `FlopCensus.Text.OnlyNewlines` — a text without separators except line feeds.

## Main results

* `FlopCensus.Text.splitLines_append_newline` — the cuts of a first line and of the rest.
* `FlopCensus.Text.splitLines_joined` — the cuts of a text are those of its lines.
* `FlopCensus.Text.splitLines_plain_append` — a plain beginning belongs to the first cut.
-/

namespace FlopCensus.Text

/-- The text holds no separator of lines. -/
def IsPlain (s : List Char) : Prop :=
  ∀ c ∈ s, isLineBreak c = false

instance (s : List Char) : Decidable (IsPlain s) :=
  List.decidableBAll _ s

/-- The text holds no separator of lines except line feeds. -/
def OnlyNewlines (s : List Char) : Prop :=
  ∀ c ∈ s, isLineBreak c = true → c = '\n'

instance (s : List Char) : Decidable (OnlyNewlines s) :=
  List.decidableBAll _ s

@[simp] lemma isPlain_nil : IsPlain [] := by
  simp [IsPlain]

@[simp] lemma isPlain_cons {c : Char} {s : List Char} :
    IsPlain (c :: s) ↔ isLineBreak c = false ∧ IsPlain s := by
  simp [IsPlain]

@[simp] lemma isPlain_append {s t : List Char} : IsPlain (s ++ t) ↔ IsPlain s ∧ IsPlain t := by
  simp [IsPlain, or_imp, forall_and]

/-! ### One cut -/

/-- The empty text is cut nowhere. -/
lemma cutLine_nil : cutLine [] = ([], none) := rfl

/-- A carriage return before a line feed is one separator. -/
lemma cutLine_pair (s : List Char) : cutLine ('\r' :: '\n' :: s) = ([], some s) := rfl

/-- A character that is no separator belongs to the line. -/
lemma cutLine_cons_of_not_break {c : Char} (s : List Char) (h : isLineBreak c = false) :
    cutLine (c :: s) = (c :: (cutLine s).1, (cutLine s).2) := by
  generalize hs : cutLine s = cut
  unfold cutLine
  split
  · rename_i hnil
    simp at hnil
  · rename_i hpair
    rw [(List.cons.inj hpair).1] at h
    exact absurd h (by decide)
  · rename_i d rest _ hcons
    obtain ⟨rfl, rfl⟩ := List.cons.inj hcons
    rw [h, hs]
    rfl

/-- A separator ends the line, alone if it is no carriage return before a line feed. -/
lemma cutLine_cons_of_break {c : Char} {s : List Char} (h : isLineBreak c = true)
    (hs : c = '\r' → s.head? ≠ some '\n') : cutLine (c :: s) = ([], some s) := by
  unfold cutLine
  split
  · rename_i hnil
    simp at hnil
  · rename_i hpair
    obtain ⟨rfl, rfl⟩ := List.cons.inj hpair
    exact absurd rfl (hs rfl)
  · rename_i d rest _ hcons
    obtain ⟨rfl, rfl⟩ := List.cons.inj hcons
    rw [if_pos h]

/-- A plain text in front belongs to the line. -/
lemma cutLine_plain_append {s : List Char} (h : IsPlain s) (t : List Char) :
    cutLine (s ++ t) = (s ++ (cutLine t).1, (cutLine t).2) := by
  induction s with
  | nil => rfl
  | cons c s ih =>
    rw [isPlain_cons] at h
    rw [List.cons_append, cutLine_cons_of_not_break _ h.1, ih h.2, List.cons_append]

/-- A plain text is one line. -/
lemma cutLine_of_isPlain {s : List Char} (h : IsPlain s) : cutLine s = (s, none) := by
  have := cutLine_plain_append h []
  rwa [cutLine_nil, List.append_nil] at this

/-- A plain text before a line feed is a line. -/
lemma cutLine_plain_newline {s : List Char} (h : IsPlain s) (rest : List Char) :
    cutLine (s ++ '\n' :: rest) = (s, some rest) := by
  have hbreak : cutLine ('\n' :: rest) = ([], some rest) :=
    cutLine_cons_of_break (by decide) fun hr => absurd hr (by decide)
  rw [cutLine_plain_append h, hbreak, List.append_nil]

/-- Where the first cut falls in a text does not depend on what stands behind a character that is no
separator: the text before that character is plain, or the cut falls into it.

**Proof sketch.** Induction on the text. At its first separator the line ends; a carriage return at
the very end of the text is not followed by a line feed, because the next character is none. -/
lemma isPlain_or_cutLine_append (t : List Char) {c : Char} (hc : isLineBreak c = false) :
    IsPlain t ∨ ∃ line more, more.length < t.length ∧
      ∀ rest, cutLine (t ++ c :: rest) = (line, some (more ++ c :: rest)) := by
  have hcn : c ≠ '\n' := by
    rintro rfl
    exact absurd hc (by decide)
  induction t with
  | nil => exact Or.inl isPlain_nil
  | cons d t ih =>
    by_cases hd : isLineBreak d = true
    · refine Or.inr ?_
      by_cases hpair : d = '\r' ∧ t.head? = some '\n'
      · obtain ⟨rfl, ht⟩ := hpair
        obtain ⟨u, rfl⟩ : ∃ u, t = '\n' :: u := by
          cases t with
          | nil => simp at ht
          | cons e u => exact ⟨u, by simpa using ht⟩
        exact ⟨[], u, by simp only [List.length_cons]; omega, fun rest => cutLine_pair _⟩
      · refine ⟨[], t, by simp, fun rest => ?_⟩
        refine cutLine_cons_of_break hd fun hr => ?_
        cases t with
        | nil => simpa using hcn
        | cons e u => simpa [hr] using hpair
    · rw [Bool.not_eq_true] at hd
      rcases ih with hplain | ⟨line, more, hlt, hcut⟩
      · exact Or.inl (isPlain_cons.2 ⟨hd, hplain⟩)
      · refine Or.inr ⟨d :: line, more, by simp only [List.length_cons]; omega, fun rest => ?_⟩
        rw [List.cons_append, cutLine_cons_of_not_break _ hd, hcut]

/-! ### All cuts -/

/-- The lines of a text with a separator are its first line and the lines behind it. -/
lemma splitLines_of_cutLine {s line rest : List Char} (h : cutLine s = (line, some rest)) :
    splitLines s = line :: splitLines rest := by
  rw [splitLines]
  split <;> simp_all

/-- A nonempty text without a separator is one line. -/
lemma splitLines_of_isPlain {s : List Char} (h : IsPlain s) (hne : s ≠ []) :
    splitLines s = [s] := by
  have hcut := cutLine_of_isPlain h
  rw [splitLines]
  split <;> simp_all

/-- A nonempty text has a first line. -/
lemma splitLines_ne_nil {s : List Char} (hne : s ≠ []) : splitLines s ≠ [] := by
  rw [splitLines]
  split
  · rename_i h
    exfalso
    cases s with
    | nil => exact hne rfl
    | cons c s =>
      by_cases hc : isLineBreak c = true
      · by_cases hs : c = '\r' → s.head? ≠ some '\n'
        · rw [cutLine_cons_of_break hc hs] at h
          simp at h
        · push Not at hs
          obtain ⟨rfl, hs⟩ := hs
          cases s with
          | nil => simp at hs
          | cons d s =>
            obtain rfl : d = '\n' := by simpa using hs
            rw [cutLine_pair] at h
            simp at h
      · rw [Bool.not_eq_true] at hc
        rw [cutLine_cons_of_not_break _ hc] at h
        simp at h
  · simp
  · simp

/-- **A line and the text behind it are cut apart from each other.** The line may hold separators,
but its last character is none.

**Proof sketch.** Induction on the length of the line. By `isPlain_or_cutLine_append` either the
line is plain and ends at the line feed, or a piece of it is cut off and a shorter line remains. -/
theorem splitLines_append_newline {c : Char} (hc : isLineBreak c = false) (t rest : List Char) :
    splitLines (t ++ c :: '\n' :: rest) = splitLines (t ++ [c]) ++ splitLines rest := by
  induction hn : t.length using Nat.strongRecOn generalizing t with
  | ind n ih =>
    rcases isPlain_or_cutLine_append t hc with hplain | ⟨line, more, hlt, hcut⟩
    · have hline : IsPlain (t ++ [c]) := by simp [hplain, hc]
      have hcut : cutLine (t ++ c :: '\n' :: rest) = (t ++ [c], some rest) := by
        rw [← cutLine_plain_newline hline rest, List.append_assoc, List.singleton_append]
      rw [splitLines_of_cutLine hcut, splitLines_of_isPlain hline (by simp),
        List.singleton_append]
    · rw [splitLines_of_cutLine (hcut _), splitLines_of_cutLine (hcut []),
        ih more.length (by omega) more rfl, List.cons_append]

/-- Texts that are joined by a separator, with one more at the end, are closed by separators. -/
lemma toList_intercalate_append (separator first : String) (texts : List String) :
    (separator.intercalate (first :: texts) ++ separator).toList =
      (first :: texts).flatMap fun t => t.toList ++ separator.toList := by
  rw [String.toList_append, String.toList_intercalate]
  induction texts generalizing first with
  | nil => simp
  | cons second texts ih =>
    have := ih second
    simp_all

/-- The text does not end in a separator, and is not empty. -/
def EndsInLine (s : List Char) : Prop :=
  ∃ t c, isLineBreak c = false ∧ s = t ++ [c]

/-- A text ends in a line if its last part does. -/
lemma EndsInLine.append {s : List Char} (h : EndsInLine s) (t : List Char) :
    EndsInLine (t ++ s) := by
  obtain ⟨u, c, hc, rfl⟩ := h
  exact ⟨t ++ u, c, hc, by rw [List.append_assoc]⟩

/-- **The cuts of a text are the cuts of its lines.** -/
theorem splitLines_joined {lines : List (List Char)} (h : ∀ l ∈ lines, EndsInLine l) :
    splitLines (lines.flatMap (· ++ ['\n'])) = lines.flatMap splitLines := by
  induction lines with
  | nil =>
    rw [List.flatMap_nil, List.flatMap_nil, splitLines]
    split <;> simp_all [cutLine_nil]
  | cons l ls ih =>
    obtain ⟨t, c, hc, rfl⟩ := h l List.mem_cons_self
    have hrest := ih fun m hm => h m (List.mem_cons_of_mem _ hm)
    have hassoc : t ++ [c] ++ ['\n'] ++ ls.flatMap (· ++ ['\n']) =
        t ++ c :: '\n' :: ls.flatMap (· ++ ['\n']) := by simp
    rw [List.flatMap_cons, List.flatMap_cons, hassoc, splitLines_append_newline hc, hrest]

/-- Lines without separators, none of them empty, are not cut. -/
lemma flatMap_splitLines_of_isPlain {lines : List (List Char)} (hp : ∀ l ∈ lines, IsPlain l)
    (hne : ∀ l ∈ lines, l ≠ []) : lines.flatMap splitLines = lines := by
  calc lines.flatMap splitLines = lines.flatMap fun l => [l] :=
        List.flatMap_congr fun l hl => splitLines_of_isPlain (hp l hl) (hne l hl)
    _ = lines := by simp

/-- Lines without separators, none of them empty, are cut as they were joined. -/
lemma splitLines_joined_of_isPlain {lines : List (List Char)} (hp : ∀ l ∈ lines, IsPlain l)
    (hne : ∀ l ∈ lines, l ≠ []) : splitLines (lines.flatMap (· ++ ['\n'])) = lines := by
  have hends : ∀ l ∈ lines, EndsInLine l := by
    intro l hl
    obtain ⟨t, c, rfl⟩ := l.eq_nil_or_concat'.resolve_left (hne l hl)
    exact ⟨t, c, hp _ hl c (by simp), rfl⟩
  rw [splitLines_joined hends, flatMap_splitLines_of_isPlain hp hne]

/-- **A plain beginning belongs to the first cut** of a nonempty text. -/
theorem splitLines_plain_append {s t l : List Char} {ls : List (List Char)} (h : IsPlain s)
    (ht : splitLines t = l :: ls) : splitLines (s ++ t) = (s ++ l) :: ls := by
  have hcut := cutLine_plain_append h t
  rw [splitLines] at ht
  split at ht
  · simp at ht
  · rename_i line hline hne
    obtain ⟨rfl, rfl⟩ := List.cons_eq_cons.1 ht
    rw [hne] at hcut
    rw [splitLines]
    split <;> simp_all
  · rename_i line rest hrest
    obtain ⟨rfl, rfl⟩ := List.cons_eq_cons.1 ht
    rw [hrest] at hcut
    exact splitLines_of_cutLine hcut

end FlopCensus.Text
