import FlopCensus.Numeral.Integer
import Mathlib.Data.List.TakeWhile
import Mathlib.Tactic.Common
import Mathlib.Tactic.IntervalCases

set_option autoImplicit false
set_option relaxedAutoImplicit false

/-!
# Reading what is written in digits

A nonempty run of decimal digits of any scripts that respects the digit limit denotes a number, and
the digits of a natural number denote that number. Which numbers can be written is a matter of the
same limit.

## Main definitions

* `FlopCensus.Numeral.digitValues` — the values of the digits of a run.
* `FlopCensus.Numeral.IsWritable` — the digits of an integer are within the limit.

## Main results

* `FlopCensus.Numeral.read_of_isDigit` — a run of digits is read as its value.
* `FlopCensus.Numeral.read_natText` — a natural number is read back from its digits.
* `FlopCensus.Numeral.write_eq_ok_iff` — the integers that can be written.
-/

namespace FlopCensus.Numeral

open Text

/-! ### Single digits -/

/-- A digit lies less than ten places behind one of the zeros. -/
lemma exists_zero_of_digitValue? {c : Char} {v : ℕ} (h : digitValue? c = some v) :
    ∃ z ∈ zeroDigits, v < 10 ∧ c.toNat = z + v := by
  obtain ⟨z, hz, hv⟩ := Option.map_eq_some_iff.1 h
  have hmem := List.mem_of_find?_eq_some hz
  have hrange := List.find?_some hz
  simp only [Bool.and_eq_true, decide_eq_true_eq] at hrange
  exact ⟨z, hmem, by omega, by omega⟩

/-- A character outside all ranges is not covered. -/
lemma covers_eq_false {ranges : Ranges} {c : Char}
    (h : ∀ r ∈ ranges, c.toNat < r.1 ∨ r.2 < c.toNat) : ranges.covers c = false := by
  induction ranges with
  | nil => rfl
  | cons r ranges ih =>
    have hr := h r List.mem_cons_self
    have hrest := ih fun s hs => h s (List.mem_cons_of_mem _ hs)
    rw [Ranges.covers]
    split
    · rfl
    · rw [hrest, Bool.or_false, decide_eq_false_iff_not]
      omega

/-- No digit is a blank. -/
lemma isBlank_of_digitValue? {c : Char} {v : ℕ} (h : digitValue? c = some v) :
    isBlank c = false := by
  have apart : ∀ z ∈ zeroDigits, ∀ r ∈ blankRanges, z + 9 < r.1 ∨ r.2 < z := by decide
  obtain ⟨z, hz, hv, hc⟩ := exists_zero_of_digitValue? h
  refine covers_eq_false fun r hr => ?_
  have := apart z hz r hr
  omega

/-- The ASCII form of a digit is the ASCII digit of its value.

**Proof sketch.** The only zero inside ASCII is that of the ASCII digits, so a digit inside ASCII is
its own form. Any other digit is no blank, and its form is made from its value. -/
lemma asciiForm_of_digitValue? {c : Char} {v : ℕ} (h : digitValue? c = some v) :
    asciiForm c = digitChar v := by
  have first : ∀ z ∈ zeroDigits, z < 127 → z = 48 := by decide
  obtain ⟨z, hz, hv, hc⟩ := exists_zero_of_digitValue? h
  rw [asciiForm]
  split
  · obtain rfl := first z hz (by omega)
    rw [digitChar, ← hc, Char.ofNat_toNat]
  · rw [if_neg (by rw [isBlank_of_digitValue? h]; decide), h]

/-- The value of a digit is less than ten. -/
lemma lt_ten_of_digitValue? {c : Char} {v : ℕ} (h : digitValue? c = some v) : v < 10 := by
  obtain ⟨_, _, hv, _⟩ := exists_zero_of_digitValue? h
  exact hv

/-- An ASCII digit has its value. -/
lemma digitValue?_digitChar {d : ℕ} (h : d < 10) : digitValue? (digitChar d) = some d := by
  interval_cases d <;> rfl

/-- An ASCII digit is a digit of base ten. -/
lemma digitIn_digitChar {d : ℕ} (h : d < 10) : digitIn 10 (digitChar d) = some d := by
  interval_cases d <;> rfl

/-- An ASCII digit is neither a sign nor an underscore nor a blank. -/
lemma digitChar_ne {d : ℕ} (h : d < 10) : digitChar d ≠ '-' ∧ digitChar d ≠ '+' ∧
    digitChar d ≠ '_' ∧ isAsciiBlank (digitChar d) = false := by
  interval_cases d <;> decide

/-! ### Runs of digits -/

/-- The values of the digits among some characters. -/
def digitValues (s : List Char) : List ℕ :=
  s.filterMap digitValue?

/-- The values of digits are less than ten. -/
lemma lt_ten_of_mem_digitValues {s : List Char} {v : ℕ} (h : v ∈ digitValues s) : v < 10 := by
  obtain ⟨c, _, hc⟩ := List.mem_filterMap.1 h
  exact lt_ten_of_digitValue? hc

/-- The ASCII form of a run of digits is written from its values. -/
lemma map_asciiForm {s : List Char} (h : ∀ c ∈ s, isDigit c = true) :
    s.map asciiForm = (digitValues s).map digitChar := by
  induction s with
  | nil => rfl
  | cons c s ih =>
    obtain ⟨v, hv⟩ := Option.isSome_iff_exists.1 (h c List.mem_cons_self)
    have htail := ih fun d hd => h d (List.mem_cons_of_mem _ hd)
    rw [List.map_cons, htail, asciiForm_of_digitValue? hv, digitValues, digitValues,
      List.filterMap_cons_some hv, List.map_cons]

/-- A run of digits has as many values as digits. -/
lemma length_digitValues {s : List Char} (h : ∀ c ∈ s, isDigit c = true) :
    (digitValues s).length = s.length := by
  have := congrArg List.length (map_asciiForm h)
  simpa using this.symm

/-- Digits contain no underscore that could be misplaced. -/
lemma underscoresFit_map_digitChar {vs : List ℕ} (h : ∀ v ∈ vs, v < 10) :
    underscoresFit (vs.map digitChar) = true := by
  induction vs with
  | nil => rfl
  | cons v vs ih =>
    have hne := (digitChar_ne (h v List.mem_cons_self)).2.2.1
    have htail := ih fun w hw => h w (List.mem_cons_of_mem _ hw)
    rw [List.map_cons, underscoresFit]
    · exact htail
    · rintro h' -; exact hne h'
    · rintro _ h' -; exact hne h'

/-- The digits of a run of ASCII digits are its values. -/
lemma filterMap_digitIn_map_digitChar {vs : List ℕ} (h : ∀ v ∈ vs, v < 10) :
    (vs.map digitChar).filterMap (digitIn 10) = vs := by
  induction vs with
  | nil => rfl
  | cons v vs ih =>
    rw [List.map_cons, List.filterMap_cons_some (digitIn_digitChar (h v List.mem_cons_self)),
      ih fun w hw => h w (List.mem_cons_of_mem _ hw)]

/-- A numeral that consists of ASCII digits within the limit has their value. -/
lemma magnitude_map_digitChar {vs : List ℕ} (text : String) (hne : vs ≠ [])
    (h : ∀ v ∈ vs, v < 10) (hl : vs.length ≤ digitLimit) :
    magnitude 10 text (vs.map digitChar) = .ok (valueOf 10 vs) := by
  have hrun : ∀ c ∈ vs.map digitChar, (c == '_' || (digitIn 10 c).isSome) = true := by
    intro c hc
    obtain ⟨v, hv, rfl⟩ := List.mem_map.1 hc
    rw [digitIn_digitChar (h v hv), Option.isSome_some, Bool.or_true]
  have hhead : ((vs.map digitChar).head? == some '_') = false := by
    cases vs with
    | nil => exact absurd rfl hne
    | cons v vs =>
      simpa using (digitChar_ne (h v List.mem_cons_self)).2.2.1
  simp only [magnitude, List.takeWhile_eq_self_iff.2 hrun, List.dropWhile_eq_nil_iff.2 hrun,
    filterMap_digitIn_map_digitChar h, underscoresFit_map_digitChar h, hhead]
  simp [hne, Nat.not_lt.2 hl]
  rfl

/-- A run of ASCII digits within the limit denotes its value. -/
lemma readIn_ten_of_map_digitChar {vs : List ℕ} {text : String} (hne : vs ≠ [])
    (h : ∀ v ∈ vs, v < 10) (hl : vs.length ≤ digitLimit)
    (htext : text.toList.map asciiForm = vs.map digitChar) :
    readIn 10 text = .ok (valueOf 10 vs : ℤ) := by
  obtain ⟨v, ws, rfl⟩ := List.exists_cons_of_ne_nil hne
  obtain ⟨hminus, hplus, -, hblank⟩ := digitChar_ne (h v List.mem_cons_self)
  have hmark : dropMark 10 (digitChar v :: ws.map digitChar) =
      digitChar v :: ws.map digitChar := by
    unfold dropMark
    split <;> simp_all
  have hmag := magnitude_map_digitChar text hne h hl
  simp only [readIn, htext, List.map_cons, List.dropWhile_cons, hblank, Bool.false_eq_true,
    if_false]
  split
  · simp_all
  · simp_all
  · rw [hmark, ← List.map_cons, hmag]
    rfl

/-- **A run of digits denotes its value.** The digits may come from any script; there is at least
one and there are no more than the limit allows. -/
theorem read_of_isDigit {s : List Char} (hne : s ≠ []) (h : ∀ c ∈ s, isDigit c = true)
    (hl : s.length ≤ digitLimit) :
    read (String.ofList s) = .ok (valueOf 10 (digitValues s) : ℤ) := by
  have hlen := length_digitValues h
  refine readIn_ten_of_map_digitChar ?_ (fun v hv => lt_ten_of_mem_digitValues hv) (by omega) ?_
  · intro hnil
    rw [hnil] at hlen
    exact hne (List.length_eq_zero_iff.1 hlen.symm)
  · rw [String.toList_ofList, map_asciiForm h]

/-! ### The digits of a number -/

/-- A number has at least one digit. -/
lemma decimal_ne_nil (n : ℕ) : decimal n ≠ [] := by
  rw [decimal]
  split <;> simp

/-- The digits of a number are ASCII digits. -/
lemma exists_of_mem_decimal {n : ℕ} : ∀ c ∈ decimal n, ∃ d < 10, c = digitChar d := by
  induction n using Nat.strong_induction_on with
  | _ n ih =>
    intro c hc
    rw [decimal] at hc
    split at hc
    · rename_i hn
      exact ⟨n, hn, List.mem_singleton.1 hc⟩
    · rcases List.mem_append.1 hc with hc | hc
      · exact ih (n / 10) (by omega) c hc
      · exact ⟨n % 10, Nat.mod_lt _ (by omega), List.mem_singleton.1 hc⟩

/-- The digits of a number are digits. -/
lemma isDigit_of_mem_decimal (n : ℕ) : ∀ c ∈ decimal n, isDigit c = true := by
  intro c hc
  obtain ⟨d, hd, rfl⟩ := exists_of_mem_decimal c hc
  rw [isDigit, digitValue?_digitChar hd, Option.isSome_some]

/-- The digits of a number have its value. -/
lemma valueOf_digitValues_decimal (n : ℕ) : valueOf 10 (digitValues (decimal n)) = n := by
  induction n using Nat.strong_induction_on with
  | _ n ih =>
    rw [decimal]
    split
    · rename_i hn
      rw [digitValues, List.filterMap_cons_some (digitValue?_digitChar hn)]
      simp [valueOf]
    · have hlast := digitValue?_digitChar (Nat.mod_lt n (show 10 > 0 by omega))
      have hrest := ih (n / 10) (by omega)
      rw [valueOf, digitValues] at hrest
      rw [digitValues, List.filterMap_append, valueOf, List.foldl_append, hrest,
        List.filterMap_cons_some hlast]
      simp only [List.filterMap_nil, List.foldl_cons, List.foldl_nil]
      omega

/-- **A natural number is read back from its digits**, if they are within the limit. -/
theorem read_natText {n : ℕ} (h : (decimal n).length ≤ digitLimit) :
    read (natText n) = .ok (n : ℤ) := by
  rw [natText, read_of_isDigit (decimal_ne_nil n) (isDigit_of_mem_decimal n) h,
    valueOf_digitValues_decimal]

/-! ### Numbers that can be written -/

/-- The digits of an integer are within the limit. -/
def IsWritable (i : ℤ) : Prop :=
  (decimal i.natAbs).length ≤ digitLimit

instance (i : ℤ) : Decidable (IsWritable i) :=
  inferInstanceAs (Decidable (_ ≤ _))

/-- **An integer can be written if its digits are within the limit.** -/
theorem write_eq_ok_iff {i : ℤ} {text : String} :
    write i = .ok text ↔ IsWritable i ∧ text = intText i := by
  rw [write, IsWritable]
  split
  · rename_i hlong
    constructor
    · intro h
      cases h
    · intro h
      exact absurd h.1 (Nat.not_le.2 hlong)
  · rename_i hshort
    constructor
    · intro h
      exact ⟨Nat.not_lt.1 hshort, (Except.ok.inj h).symm⟩
    · rintro ⟨-, rfl⟩
      rfl

/-- A number below a power of ten has no more digits than the exponent. -/
lemma length_decimal_le {k : ℕ} : ∀ {n : ℕ}, n < 10 ^ (k + 1) → (decimal n).length ≤ k + 1 := by
  induction k with
  | zero =>
    intro n h
    rw [decimal, if_pos (by simpa using h), List.length_singleton]
  | succ k ih =>
    intro n h
    rw [decimal]
    split
    · rw [List.length_singleton]
      omega
    · have hrest : n / 10 < 10 ^ (k + 1) := Nat.div_lt_of_lt_mul (by rwa [Nat.pow_succ'] at h)
      rw [List.length_append, List.length_singleton]
      exact Nat.succ_le_succ (ih hrest)

/-- A smaller number has no more digits. -/
lemma length_decimal_mono {m n : ℕ} (h : m ≤ n) : (decimal m).length ≤ (decimal n).length := by
  induction n using Nat.strong_induction_on generalizing m with
  | _ n ih =>
    by_cases hm : m < 10
    · have hone : (decimal m).length = 1 := by rw [decimal, if_pos hm, List.length_singleton]
      rw [hone]
      exact List.length_pos_iff.2 (decimal_ne_nil n)
    · have hn : ¬n < 10 := by omega
      rw [decimal, if_neg hm, List.length_append, decimal.eq_1 n, if_neg hn, List.length_append]
      exact Nat.add_le_add_right (ih (n / 10) (by omega) (Nat.div_le_div_right h)) _

/-- A number of a few digits is within the limit. -/
lemma length_decimal_le_limit {n : ℕ} (h : n < 10 ^ 6) : (decimal n).length ≤ digitLimit :=
  (length_decimal_le h).trans (by decide)

/-- The text of a natural number holds its digits. -/
lemma of_mem_natText {n : ℕ} {c : Char} (hc : c ∈ (natText n).toList) :
    ∃ d < 10, c = digitChar d := by
  rw [natText, String.toList_ofList] at hc
  exact exists_of_mem_decimal c hc

/-- The text of an integer holds its digits, and perhaps a sign. -/
lemma of_mem_intText {i : ℤ} {c : Char} (hc : c ∈ (intText i).toList) :
    c = '-' ∨ ∃ d < 10, c = digitChar d := by
  rw [intText] at hc
  split at hc
  · rw [String.toList_append] at hc
    rcases List.mem_append.1 hc with hc | hc
    · exact .inl (by simpa using hc)
    · exact .inr (of_mem_natText hc)
  · exact .inr (of_mem_natText hc)

/-- The text of an integer that can be written. -/
lemma IsWritable.write_eq {i : ℤ} (h : IsWritable i) : write i = .ok (intText i) :=
  write_eq_ok_iff.2 ⟨h, rfl⟩

end FlopCensus.Numeral
