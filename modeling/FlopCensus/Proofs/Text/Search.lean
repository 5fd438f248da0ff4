import FlopCensus.Text.Search
import Mathlib.Data.List.Basic
import Mathlib.Data.List.Infix
import Mathlib.Tactic.Common

set_option autoImplicit false
set_option relaxedAutoImplicit false

/-!
# Where a text occurs in another

The cuts of a text at a mark are all the ways to write it as what stands in front of an occurrence
and what stands behind it, from left to right. A beginning of the text comes in front of the cuts of
the rest, so the last cuts of a text can be told from its end alone.

## Main results

* `FlopCensus.Text.mem_splitsAt_iff` — the cuts of a text.
* `FlopCensus.Text.exists_splitsAt_append` — the last cuts of a text are those of its end.
* `FlopCensus.Text.splitsAt_append_cons` — the cuts at a character, the first one told apart.
* `FlopCensus.Text.behind_intercalate` — lines without a mark are passed over in the search for it.
-/

namespace FlopCensus.Text

variable {mark s t : List Char} {c : Char}

/-! ### Occurrences at the front -/

/-- A text is what is left of it behind another one. -/
lemma isPrefixOf?_append (mark s : List Char) : mark.isPrefixOf? (mark ++ s) = some s :=
  List.isPrefixOf?_eq_some_iff_append_eq.2 rfl

/-- A text that does not begin with another one has nothing left behind it. -/
lemma isPrefixOf?_eq_none (h : ¬mark <+: s) : mark.isPrefixOf? s = none := by
  refine Option.eq_none_iff_forall_ne_some.2 fun rest hrest => h ⟨rest, ?_⟩
  exact List.isPrefixOf?_eq_some_iff_append_eq.1 hrest

/-- An occurrence at the front that stops before a character lies in front of it. -/
lemma prefix_of_prefix_append_cons (hc : c ∉ mark) (h : mark <+: s ++ c :: t) : mark <+: s := by
  have hsplit : s ++ [c] <+: s ++ c :: t := ⟨t, by rw [List.append_assoc, List.singleton_append]⟩
  rcases List.prefix_or_prefix_of_prefix h hsplit with hmark | hlong
  · rcases List.prefix_concat_iff.1 hmark with rfl | hfront
    · exact absurd (by simp) hc
    · exact hfront
  · exact absurd (hlong.subset (by simp)) hc

/-! ### Cuts -/

/-- The cuts of a text are the one at its front, if there is one, and those behind its first
character. -/
lemma splitsAt_cons (mark : List Char) (c : Char) (s : List Char) :
    splitsAt mark (c :: s) = (mark.isPrefixOf? (c :: s)).toList.map (Prod.mk []) ++
      (splitsAt mark s).map (Prod.map (c :: ·) id) := by
  rw [splitsAt]
  split
  · rename_i found hfound
    rw [hfound]
    rfl
  · rename_i hnone
    rw [hnone]
    rfl

/-- **The cuts of a text** are the ways to write it around the mark. -/
theorem mem_splitsAt_iff {before rest : List Char} :
    (before, rest) ∈ splitsAt mark s ↔ before ++ (mark ++ rest) = s := by
  induction s generalizing before with
  | nil =>
    rw [splitsAt]
    split
    · rename_i hmark
      simp [List.isEmpty_iff.1 hmark]
    · rename_i hmark
      simp [List.isEmpty_iff.not.1 hmark]
  | cons c s ih =>
    rw [splitsAt_cons, List.mem_append, List.mem_map, List.mem_map]
    cases before with
    | nil => simp [List.isPrefixOf?_eq_some_iff_append_eq]
    | cons d before =>
      simp only [Prod.mk.injEq, reduceCtorEq, false_and, and_false, exists_false, false_or,
        Prod.exists, Prod.map_apply, id_eq, List.cons.injEq, List.cons_append]
      constructor
      · rintro ⟨before, rest, hcut, ⟨rfl, rfl⟩, rfl⟩
        exact ⟨rfl, ih.1 hcut⟩
      · rintro ⟨rfl, hsplit⟩
        exact ⟨before, rest, ih.2 hsplit, ⟨rfl, rfl⟩, rfl⟩

/-- A text in which the mark does not occur is not cut. -/
lemma splitsAt_eq_nil (h : ¬mark <:+: s) : splitsAt mark s = [] := by
  refine List.eq_nil_iff_forall_not_mem.2 fun ⟨before, rest⟩ hcut => h ⟨before, rest, ?_⟩
  rw [List.append_assoc, mem_splitsAt_iff.1 hcut]

/-- **The last cuts of a text are those of its end.** -/
theorem exists_splitsAt_append (mark t s : List Char) :
    ∃ earlier,
      splitsAt mark (t ++ s) = earlier ++ (splitsAt mark s).map (Prod.map (t ++ ·) id) := by
  induction t with
  | nil => exact ⟨[], (List.map_id _).symm⟩
  | cons c t ih =>
    obtain ⟨earlier, hlater⟩ := ih
    refine ⟨(mark.isPrefixOf? (c :: (t ++ s))).toList.map (Prod.mk []) ++
      earlier.map (Prod.map (c :: ·) id), ?_⟩
    rw [List.cons_append, splitsAt_cons, hlater, List.map_append, List.map_map, List.append_assoc]
    rfl

/-- **The cuts at a character**, the first one told apart. -/
theorem splitsAt_append_cons (h : c ∉ s) (t : List Char) :
    splitsAt [c] (s ++ c :: t) =
      (s, t) :: (splitsAt [c] t).map (Prod.map (fun before => s ++ c :: before) id) := by
  induction s with
  | nil =>
    have hfront : [c].isPrefixOf? (c :: t) = some t := isPrefixOf?_append [c] t
    rw [List.nil_append, splitsAt_cons, hfront]
    rfl
  | cons d s ih =>
    rw [List.mem_cons, not_or] at h
    have hnone : [c].isPrefixOf? (d :: (s ++ c :: t)) = none := by
      refine isPrefixOf?_eq_none fun hfront => ?_
      exact h.1 (List.cons_prefix_cons.1 hfront).1
    rw [List.cons_append, splitsAt_cons, hnone, ih h.2, List.map_cons, List.map_map]
    rfl

/-! ### The search for a phrase -/

/-- The first occurrence is the one at the front, if there is one. -/
lemma exists_behind_append (mark s : List Char) :
    ∃ later, behind mark (mark ++ s) = s :: later := by
  cases h : mark ++ s with
  | nil =>
    obtain ⟨rfl, rfl⟩ := List.append_eq_nil_iff.1 h
    exact ⟨[], rfl⟩
  | cons c r =>
    rw [behind, ← h, isPrefixOf?_append]
    exact ⟨_, rfl⟩

/-- A line without a mark is passed over in the search for it. -/
lemma behind_append_cons (hne : mark ≠ []) (hc : c ∉ mark) (h : occurs mark s = false)
    (t : List Char) : behind mark (s ++ c :: t) = behind mark t := by
  induction s with
  | nil =>
    have hfront : ¬mark <+: c :: t := fun hfront =>
      hne (List.prefix_nil.1 (prefix_of_prefix_append_cons (s := []) hc hfront))
    rw [List.nil_append, behind, isPrefixOf?_eq_none hfront]
    rfl
  | cons d s ih =>
    rw [occurs, Bool.or_eq_false_iff] at h
    have hfront : ¬mark <+: d :: s ++ c :: t := fun hfront => by
      have := List.isPrefixOf_iff_prefix.2 (prefix_of_prefix_append_cons hc hfront)
      rw [this] at h
      exact absurd h.1 (by decide)
    rw [List.cons_append] at hfront ⊢
    rw [behind, isPrefixOf?_eq_none hfront, ih h.2]
    rfl

/-- **Lines without a mark are passed over** in the search for it. -/
theorem behind_intercalate {lines rest : List (List Char)} (hne : mark ≠ []) (hc : c ∉ mark)
    (h : ∀ l ∈ lines, occurs mark l = false) (hrest : rest ≠ []) :
    behind mark ([c].intercalate (lines ++ rest)) = behind mark ([c].intercalate rest) := by
  induction lines with
  | nil => rfl
  | cons l lines ih =>
    obtain ⟨hl, hlines⟩ := List.forall_mem_cons.1 h
    obtain ⟨next, others, hnext⟩ := List.exists_cons_of_ne_nil
      (List.append_ne_nil_of_right_ne_nil lines hrest)
    rw [List.cons_append, hnext, List.intercalate_cons_cons, List.append_assoc,
      List.singleton_append, behind_append_cons hne hc hl, ← hnext, ih hlines]

end FlopCensus.Text
