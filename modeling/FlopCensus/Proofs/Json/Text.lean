import FlopCensus.Json.Writer
import FlopCensus.Proofs.Json.Grammar
import Mathlib.Tactic.Common
import Mathlib.Tactic.IntervalCases

set_option autoImplicit false
set_option relaxedAutoImplicit false

/-!
# Texts in JSON, written and read

A text between quotes is written in ASCII, with escapes for the other characters. What is written
spells the text. What spells a text is read as this text behind the opening quote, whatever follows
the closing one. So a written text reads back, and no two texts are written alike.

## Main definitions

* `FlopCensus.Json.unitsOf` — the UTF-16 units of a character.

## Main results

* `FlopCensus.Json.spellsText_escapeText` — a written text spells the text.
* `FlopCensus.Json.readText_of_spells` — what spells a text is read as the text.
* `FlopCensus.Json.readText_escape` — a written text reads back.
* `FlopCensus.Json.escapeText_append_inj` — a written text ends at its closing quote.
-/

namespace FlopCensus.Json

/-- The UTF-16 units of a character. -/
def unitsOf (c : Char) : List Nat :=
  if c.toNat < 0x10000 then [c.toNat]
  else [0xd800 + (c.toNat - 0x10000) / 0x400, 0xdc00 + (c.toNat - 0x10000) % 0x400]

/-- A digit has its value. -/
lemma hexValue?_hexDigit {d : Nat} (h : d < 16) : hexValue? (Text.hexDigit d) = some d := by
  interval_cases d <;> decide

/-- Four digits have the value of the unit. -/
lemma unit?_hexDigits {n : Nat} (h : n < 0x10000) :
    ∃ a b c d, Text.hexDigits 4 n = [a, b, c, d] ∧ unit? a b c d = some n := by
  refine ⟨_, _, _, _, rfl, ?_⟩
  simp only [unit?, hexValue?_hexDigit (Nat.mod_lt _ (by decide : 0 < 16)), Option.bind_eq_bind,
    Option.bind_some, Option.pure_def, Option.some.injEq]
  omega

/-! ### Writing -/

/-- An escaped unit spells the unit. -/
lemma SpellsPoints.escapeUnit {n : Nat} (h : n < 0x10000) {points : List Nat} {s : List Char}
    (rest : SpellsPoints points s) : SpellsPoints (n :: points) (escapeUnit n ++ s) := by
  obtain ⟨a, b, c, d, hdigits, hunit⟩ := unit?_hexDigits h
  rw [Json.escapeUnit, hdigits]
  exact .unit hunit rest

/-- **An escaped character spells its units.** -/
theorem SpellsPoints.escapeChar (c : Char) {points : List Nat} {s : List Char}
    (rest : SpellsPoints points s) : SpellsPoints (unitsOf c ++ points) (escapeChar c ++ s) := by
  have hsmall : c.toNat < 0x10000 → unitsOf c = [c.toNat] := fun h => if_pos h
  have hletter : ∀ x d : Char, (x, d) ∈ shortEscapes → d.toNat < 0x10000 → c = d →
      SpellsPoints (unitsOf c ++ points) (['\\', x] ++ s) := by
    rintro x d hx hd rfl
    rw [hsmall hd]
    exact .short hx rest
  unfold Json.escapeChar
  simp only [beq_iff_eq, Bool.and_eq_true, decide_eq_true_eq]
  -- seven characters have an escape of their own; of the others, some stand for themselves, some
  -- take one unit and some a pair
  split_ifs with hquote hescape hn hr ht hf hb hplain hunit
  · exact hletter '"' '"' (by decide) (by decide) hquote
  · exact hletter '\\' '\\' (by decide) (by decide) hescape
  · exact hletter 'n' '\n' (by decide) (by decide) hn
  · exact hletter 'r' '\r' (by decide) (by decide) hr
  · exact hletter 't' '\t' (by decide) (by decide) ht
  · exact hletter 'f' '\x0c' (by decide) (by decide) hf
  · exact hletter 'b' '\x08' (by decide) (by decide) hb
  · have hle : c.toNat ≤ 126 := hplain.2
    rw [hsmall (by omega)]
    exact .plain hplain.1 hquote hescape rest
  · rw [hsmall hunit]
    exact rest.escapeUnit hunit
  · have hbound : c.toNat < 0x110000 := by
      obtain h | h := c.valid
      · exact Nat.lt_trans h (by decide)
      · exact h.2
    rw [List.append_assoc, unitsOf, if_neg hunit]
    exact (rest.escapeUnit (by omega)).escapeUnit (by omega)

/-- Escaped characters spell their units. -/
lemma spellsPoints_escape (s : List Char) :
    SpellsPoints (s.flatMap unitsOf) (s.flatMap escapeChar) := by
  induction s with
  | nil => exact .nil
  | cons c s ih =>
    rw [List.flatMap_cons, List.flatMap_cons]
    exact ih.escapeChar c

/-! ### Reading -/

/-- A character that is neither a quote nor a backslash is read as it is. -/
lemma readString_cons {c : Char} (hquote : c ≠ '"') (hescape : c ≠ '\\') (done : List Nat)
    (rest : List Char) : readString done (c :: rest) = readString (c.toNat :: done) rest := by
  rw [readString]
  · exact hquote
  · exact fun _ _ _ _ _ hc _ => hescape hc
  · exact fun _ _ hc _ => hescape hc

/-- A short escape is read as its character. -/
lemma readString_short {letter c : Char} (h : (letter, c) ∈ shortEscapes) (done : List Nat)
    (rest : List Char) :
    readString done ('\\' :: letter :: rest) = readString (c.toNat :: done) rest := by
  have htable : ∀ e ∈ shortEscapes, e.1 ≠ 'u' ∧ escaped? e.1 = some e.2 := by decide
  obtain ⟨hu, hknown⟩ := htable _ h
  rw [readString]
  · rw [hknown]
  · exact fun _ _ _ _ _ hletter _ => hu hletter

/-- **What spells code points is read as them**, up to the closing quote. -/
theorem readString_of_spells {points : List Nat} {s : List Char} (h : SpellsPoints points s)
    (done : List Nat) (rest : List Char) :
    readString done (s ++ '"' :: rest) = some (done.reverse ++ points, rest) := by
  induction h generalizing done with
  | nil => simp [readString]
  | plain _ quote escape _ ih =>
    rw [List.cons_append, readString_cons quote escape, ih]
    simp
  | short known _ ih =>
    rw [List.cons_append, List.cons_append, readString_short known, ih]
    simp
  | unit digits _ ih =>
    simp only [List.cons_append, readString, digits, ih]
    simp

/-! ### Pairs -/

/-- A character is not half of a pair. -/
lemma isSurrogate_toNat (c : Char) : Text.isSurrogate c.toNat = false := by
  have hvalid : c.toNat < 0xd800 ∨ 0xdfff < c.toNat ∧ c.toNat < 0x110000 := c.valid
  rw [Text.isSurrogate, Bool.and_eq_false_iff, decide_eq_false_iff_not, decide_eq_false_iff_not]
  omega

/-- A unit that opens no pair stands for itself. -/
lemma joinPairs_cons {n : Nat} (h : isHighUnit n = false) (rest : List Nat) :
    joinPairs (n :: rest) = Text.ofCode n :: joinPairs rest := by
  cases rest with
  | nil => simp [joinPairs]
  | cons m rest => simp [joinPairs, h]

/-- The units of a character make up the character. -/
lemma joinPairs_unitsOf_append (c : Char) (rest : List Nat) :
    joinPairs (unitsOf c ++ rest) = c :: joinPairs rest := by
  have hhalf := isSurrogate_toNat c
  by_cases hsmall : c.toNat < 0x10000
  · -- a character is no surrogate, so its only unit opens no pair
    have hhigh : isHighUnit c.toNat = false := by
      rw [Text.isSurrogate, Bool.and_eq_false_iff, decide_eq_false_iff_not,
        decide_eq_false_iff_not] at hhalf
      rw [isHighUnit, Bool.and_eq_false_iff, decide_eq_false_iff_not, decide_eq_false_iff_not]
      omega
    rw [unitsOf, if_pos hsmall, List.singleton_append, joinPairs_cons hhigh, Text.ofCode, hhalf,
      if_neg Bool.false_ne_true, Char.ofNat_toNat]
  · have hbound : c.toNat < 0xd800 ∨ 0xdfff < c.toNat ∧ c.toNat < 0x110000 := c.valid
    have hhigh : isHighUnit (0xd800 + (c.toNat - 0x10000) / 0x400) = true := by
      rw [isHighUnit, Bool.and_eq_true, decide_eq_true_eq, decide_eq_true_eq]
      omega
    have hlow : isLowUnit (0xdc00 + (c.toNat - 0x10000) % 0x400) = true := by
      rw [isLowUnit, Bool.and_eq_true, decide_eq_true_eq, decide_eq_true_eq]
      omega
    have hcode : 0x10000 + (0xd800 + (c.toNat - 0x10000) / 0x400 - 0xd800) * 0x400 +
        (0xdc00 + (c.toNat - 0x10000) % 0x400 - 0xdc00) = c.toNat := by
      omega
    rw [unitsOf, if_neg hsmall, List.cons_append, List.singleton_append, joinPairs, hhigh, hlow,
      hcode, Char.ofNat_toNat]
    rfl

/-- The units of a text make up the text. -/
lemma joinPairs_unitsOf (s : List Char) : joinPairs (s.flatMap unitsOf) = s := by
  induction s with
  | nil => rfl
  | cons c s ih => rw [List.flatMap_cons, joinPairs_unitsOf_append, ih]

/-- **A written text spells the text.** -/
theorem spellsText_escapeText (s : String) : SpellsText s (escapeText s) :=
  ⟨_, _, spellsPoints_escape s.toList, by rw [joinPairs_unitsOf, String.ofList_toList], rfl⟩

/-- **What spells a text is read as the text**, whatever follows the closing quote. -/
theorem readText_of_spells {t : String} {s : List Char} (h : SpellsText t s) :
    ∃ body, s = '"' :: body ++ ['"'] ∧
      ∀ rest, readText (body ++ '"' :: rest) = some (t, rest) := by
  obtain ⟨points, body, hpoints, rfl, rfl⟩ := h
  refine ⟨body, rfl, fun rest => ?_⟩
  rw [readText, readString_of_spells hpoints]
  rfl

/-- **A written text reads back**, whatever follows its closing quote. -/
theorem readText_escape (s : String) (rest : List Char) :
    readText (s.toList.flatMap escapeChar ++ '"' :: rest) = some (s, rest) := by
  obtain ⟨body, hbody, hread⟩ := readText_of_spells (spellsText_escapeText s)
  have hescaped : s.toList.flatMap escapeChar = body := by simpa [escapeText] using hbody
  rw [hescaped, hread]

/-- **A written text ends at its closing quote.** -/
theorem escapeText_append_inj {s t : String} {xs ys : List Char}
    (h : escapeText s ++ xs = escapeText t ++ ys) : s = t ∧ xs = ys := by
  have hs := readText_escape s xs
  have ht := readText_escape t ys
  simp only [escapeText, List.cons_append, List.append_assoc, List.nil_append, List.cons.injEq,
    true_and] at h
  rw [← h, hs, Option.some_inj, Prod.mk.injEq] at ht
  exact ht

end FlopCensus.Json
