import Mathlib.Data.List.TakeWhile
import Mathlib.Tactic.Common

set_option autoImplicit false
set_option relaxedAutoImplicit false

/-!
# Runs of characters

A run of characters of a class reaches up to the first character outside the class, or up to the end
of the text. Where something follows that does not continue the run, the run and what follows can be
told apart.

## Main results

* `FlopCensus.Text.takeWhile_run_append`, `FlopCensus.Text.dropWhile_run_append` — a run and what
  follows it.
* `FlopCensus.Text.run_append_inj` — there is one way to tell them apart.
-/

namespace FlopCensus.Text

variable {p : Char → Bool} {s t : List Char}

/-- A text in which a character does not occur is a run of others. -/
lemma forall_bne_of_not_mem {c : Char} (h : c ∉ s) : ∀ d ∈ s, (d != c) = true := by
  intro d hd
  rw [bne_iff_ne]
  rintro rfl
  exact h hd

section Run

variable (h : ∀ c ∈ s, p c = true) (ht : ∀ c ∈ t.head?, p c = false)

include h ht

/-- A run is taken up to what does not continue it. -/
lemma takeWhile_run_append : (s ++ t).takeWhile p = s := by
  rw [List.takeWhile_append_of_pos h]
  cases t with
  | nil => rw [List.takeWhile_nil, List.append_nil]
  | cons c t => rw [List.takeWhile_cons_of_neg (by simp [ht c rfl]), List.append_nil]

/-- What does not continue a run is left behind it. -/
lemma dropWhile_run_append : (s ++ t).dropWhile p = t := by
  rw [List.dropWhile_append_of_pos h]
  cases t with
  | nil => rfl
  | cons c t => rw [List.dropWhile_cons_of_neg (by simp [ht c rfl])]

end Run

/-- A character outside the class does not continue a run. -/
lemma head?_cons_of_neg {c : Char} (h : p c = false) (t : List Char) :
    ∀ d ∈ (c :: t).head?, p d = false := by
  rintro d hd
  obtain rfl : c = d := Option.some.inj hd
  exact h

/-- What is left of a text behind a run does not continue it. -/
lemma head?_dropWhile (p : Char → Bool) (s : List Char) :
    ∀ c ∈ (s.dropWhile p).head?, p c = false := by
  intro c hc
  have hstop := List.head?_dropWhile_not p s
  rw [Option.mem_def.1 hc] at hstop
  exact hstop

/-- What stands in front of the first occurrence of a character. -/
lemma takeWhile_bne_append {c : Char} (h : c ∉ s) (t : List Char) :
    (s ++ c :: t).takeWhile (· != c) = s :=
  takeWhile_run_append (forall_bne_of_not_mem h) (head?_cons_of_neg (by simp) t)

/-- What is left from the first occurrence of a character on. -/
lemma dropWhile_bne_append {c : Char} (h : c ∉ s) (t : List Char) :
    (s ++ c :: t).dropWhile (· != c) = c :: t :=
  dropWhile_run_append (forall_bne_of_not_mem h) (head?_cons_of_neg (by simp) t)

/-- **A run and what stops it** can be told apart in one way. -/
theorem run_append_inj {s' t' : List Char} {c c' : Char} (h : ∀ d ∈ s, p d = true)
    (h' : ∀ d ∈ s', p d = true) (hc : p c = false) (hc' : p c' = false)
    (heq : s ++ c :: t = s' ++ c' :: t') : s = s' ∧ c :: t = c' :: t' := by
  have hrun : s = s' := by
    rw [← takeWhile_run_append h (head?_cons_of_neg hc t), heq,
      takeWhile_run_append h' (head?_cons_of_neg hc' t')]
  subst hrun
  exact ⟨rfl, List.append_cancel_left heq⟩

end FlopCensus.Text
