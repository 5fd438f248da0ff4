import FlopCensus.Proofs.Json.Text
import FlopCensus.Proofs.Numeral.Reading
import FlopCensus.Proofs.Text.Run
import Mathlib.Data.List.DropRight
import Mathlib.Data.List.TakeWhile
import Mathlib.Tactic.Common
import Mathlib.Tactic.IntervalCases

set_option autoImplicit false
set_option relaxedAutoImplicit false

/-!
# Reading what the grammar derives

What spells a value is read as this value, whatever the blanks in it. The nesting of calls that the
length of a text allows is enough, since every call that is nested has a character less in front of
it. So no text spells two values.

## Main definitions

* `FlopCensus.Json.EndsNumber` — what can follow a number.
* `FlopCensus.Json.StartsValue` — what a value can start with.

## Main results

* `FlopCensus.Json.readValue_of_spells` — a value at the front of the characters.
* `FlopCensus.Json.read_of_spells` — a whole text.
* `FlopCensus.Json.SpellsPadded.unique` — a text spells one value.
-/

namespace FlopCensus.Json

open Numeral Text

/-! ### Blanks -/

/-- Blanks are skipped. -/
lemma skipSpace_append {s : List Char} (h : IsBlank s) (rest : List Char) :
    skipSpace (s ++ rest) = skipSpace rest := by
  rw [skipSpace, List.dropWhile_append_of_pos h, skipSpace]

/-- A character that is no blank is not skipped. -/
lemma skipSpace_cons {c : Char} (h : isSpace c = false) (rest : List Char) :
    skipSpace (c :: rest) = c :: rest := by
  rw [skipSpace, List.dropWhile_cons, h, if_neg Bool.false_ne_true]

/-- Blanks are skipped once. -/
lemma skipSpace_skipSpace (s : List Char) : skipSpace (skipSpace s) = skipSpace s :=
  List.dropWhile_idempotent isSpace s

/-- Blanks in front of a value make no difference. -/
lemma readValue_skipSpace (fuel : Nat) (s : List Char) :
    readValue fuel (skipSpace s) = readValue fuel s := by
  cases fuel with
  | zero => rfl
  | succ fuel => rw [readValue, readValue, skipSpace_skipSpace]

/-- Blanks in front of items make no difference. -/
lemma readItems_skipSpace (fuel : Nat) (done : List Value) (s : List Char) :
    readItems fuel done (skipSpace s) = readItems fuel done s := by
  cases fuel with
  | zero => rfl
  | succ fuel => rw [readItems, readItems, readValue_skipSpace]

/-- Blanks in front of members make no difference. -/
lemma readMembers_skipSpace (fuel : Nat) (done : List (String × Value)) (s : List Char) :
    readMembers fuel done (skipSpace s) = readMembers fuel done s := by
  cases fuel with
  | zero => rfl
  | succ fuel => rw [readMembers, readMembers, skipSpace_skipSpace]

/-! ### Numbers -/

/-- What follows does not continue a number. -/
def EndsNumber (rest : List Char) : Prop :=
  ∀ c ∈ rest.head?, isNumberChar c = false

/-- A character that is in no number ends one. -/
lemma EndsNumber.cons {c : Char} (h : isNumberChar c = false) (rest : List Char) :
    EndsNumber (c :: rest) := by
  rintro d hd
  obtain rfl : c = d := by simpa using hd
  exact h

/-- No blank continues a number. -/
lemma EndsNumber.append {s rest : List Char} (h : IsBlank s) (hrest : EndsNumber rest) :
    EndsNumber (s ++ rest) := by
  cases s with
  | nil => exact hrest
  | cons c s =>
    have hspace : isSpace c = true := h c List.mem_cons_self
    simp only [isSpace, Bool.or_eq_true, beq_iff_eq] at hspace
    refine .cons ?_ _
    obtain ((rfl | rfl) | rfl) | rfl := hspace <;> decide

/-- A digit is no blank, it is part of a number, and it is neither a sign nor the mark of a real. -/
lemma digitChar_facts {d : Nat} (h : d < 10) : isSpace (digitChar d) = false ∧
    isNumberChar (digitChar d) = true ∧ digitChar d ≠ '-' ∧
    (digitChar d == '.' || digitChar d == 'e' || digitChar d == 'E') = false := by
  interval_cases d <;> decide

/-- Digits have no mark of a real among them. -/
lemma any_digits {ds : List Nat} (h : ∀ d ∈ ds, d < 10) :
    (ds.map digitChar).any (fun c => c == '.' || c == 'e' || c == 'E') = false := by
  rw [List.any_eq_false]
  intro c hc
  obtain ⟨d, hd, rfl⟩ := List.mem_map.1 hc
  rw [(digitChar_facts (h d hd)).2.2.2]
  exact Bool.false_ne_true

/-- **The number that digits spell.** -/
theorem number?_of_spells {i : Int} {s : List Char} (h : SpellsInt i s) :
    number? s = some (.int i) := by
  cases h with
  | @plain digits h =>
    obtain ⟨d, ds, rfl⟩ := List.exists_cons_of_ne_nil h.ne_nil
    have hsign := (digitChar_facts (h.lt_ten d List.mem_cons_self)).2.2.1
    have hvalues := filterMap_digitIn_map_digitChar h.lt_ten
    rw [List.map_cons] at hvalues
    unfold number?
    rw [any_digits h.lt_ten, if_neg Bool.false_ne_true]
    simp [hsign, hvalues]
  | @negative digits h =>
    have hmarks : ('-' :: digits.map digitChar).any
        (fun c => c == '.' || c == 'e' || c == 'E') = false := any_digits h.lt_ten
    unfold number?
    rw [hmarks, if_neg Bool.false_ne_true]
    simp [h.ne_nil, filterMap_digitIn_map_digitChar h.lt_ten]

/-- A numeral consists of the characters of a number. -/
lemma SpellsInt.isNumberChar {i : Int} {s : List Char} (h : SpellsInt i s) :
    ∀ c ∈ s, isNumberChar c = true := by
  have hdigits : ∀ {ds : List Nat}, (∀ d ∈ ds, d < 10) →
      ∀ c ∈ ds.map digitChar, Json.isNumberChar c = true := by
    intro ds hds c hc
    obtain ⟨d, hd, rfl⟩ := List.mem_map.1 hc
    exact (digitChar_facts (hds d hd)).2.1
  cases h with
  | plain h => exact hdigits h.lt_ten
  | negative h => exact List.forall_mem_cons.2 ⟨rfl, hdigits h.lt_ten⟩

/-- What starts with a digit, or with a sign and a digit, is read as a number. -/
lemma readValue_of_digit {s : List Char} {d : Nat} (h : d < 10)
    (hs : (∃ t, s = digitChar d :: t) ∨ ∃ t, s = '-' :: digitChar d :: t) (fuel : Nat) :
    readValue (fuel + 1) s =
      (number? (s.takeWhile isNumberChar)).map fun v => (v, s.dropWhile isNumberChar) := by
  obtain ⟨t, rfl⟩ | ⟨t, rfl⟩ := hs
  all_goals interval_cases d <;> rfl

/-- A numeral is read as its number, up to where the number ends. -/
lemma readValue_of_spellsInt {i : Int} {s : List Char} (h : SpellsInt i s) (fuel : Nat)
    {rest : List Char} (hrest : EndsNumber rest) :
    readValue (fuel + 1) (s ++ rest) = some (.int i, rest) := by
  have hstart : ∃ d < 10, (∃ t, s ++ rest = digitChar d :: t) ∨
      ∃ t, s ++ rest = '-' :: digitChar d :: t := by
    cases h with
    | @plain digits h =>
      obtain ⟨d, ds, rfl⟩ := List.exists_cons_of_ne_nil h.ne_nil
      exact ⟨d, h.lt_ten d List.mem_cons_self, .inl ⟨_, rfl⟩⟩
    | @negative digits h =>
      obtain ⟨d, ds, rfl⟩ := List.exists_cons_of_ne_nil h.ne_nil
      exact ⟨d, h.lt_ten d List.mem_cons_self, .inr ⟨_, rfl⟩⟩
  obtain ⟨d, hd, hs⟩ := hstart
  rw [readValue_of_digit hd hs, Text.takeWhile_run_append h.isNumberChar hrest,
    Text.dropWhile_run_append h.isNumberChar hrest, number?_of_spells h]
  rfl

/-! ### Values -/

/-- What a value starts with: no blank, and nothing that closes a bracket. -/
def StartsValue (s : List Char) : Prop :=
  ∃ c t, s = c :: t ∧ isSpace c = false ∧ c ≠ ']' ∧ c ≠ '\x7d'

/-- A value starts like one. -/
lemma Spells.startsValue {v : Value} {s : List Char} (h : Spells v s) : StartsValue s := by
  cases h with
  | null | yes | no => exact ⟨_, _, rfl, by decide⟩
  | int h =>
    cases h with
    | @plain digits h =>
      obtain ⟨d, ds, rfl⟩ := List.exists_cons_of_ne_nil h.ne_nil
      have hd : ∀ d < 10, isSpace (digitChar d) = false ∧ digitChar d ≠ ']' ∧
          digitChar d ≠ '\x7d' := by decide
      exact ⟨_, _, rfl, hd d (h.lt_ten d List.mem_cons_self)⟩
    | negative h => exact ⟨_, _, rfl, by decide⟩
  | text h =>
    obtain ⟨points, body, -, -, rfl⟩ := h
    exact ⟨_, _, rfl, by decide⟩
  | emptyArray | array | emptyObject | object => exact ⟨_, _, rfl, by decide⟩

/-- What spells a value is not empty, so that there is a call left to read it. -/
lemma Spells.exists_fuel {v : Value} {s : List Char} (h : Spells v s) {fuel : Nat}
    (hfuel : s.length ≤ fuel) : ∃ k, fuel = k + 1 ∧ s.length ≤ k + 1 := by
  obtain ⟨c, t, rfl, -⟩ := h.startsValue
  rw [List.length_cons] at hfuel
  obtain ⟨k, rfl⟩ := Nat.exists_eq_add_of_lt (Nat.lt_of_lt_of_le (Nat.succ_pos _) hfuel)
  exact ⟨_, rfl, hfuel⟩

/-- Items start like a value, behind some blanks. -/
lemma SpellsItems.skipSpace_ne {items : List Value} {s : List Char} (h : SpellsItems items s)
    (rest : List Char) : ∃ c t, skipSpace (s ++ rest) = c :: t ∧ c ≠ ']' := by
  have hpadded : ∀ {v : Value} {s : List Char}, SpellsPadded v s → ∀ rest,
      ∃ c t, skipSpace (s ++ rest) = c :: t ∧ c ≠ ']' := by
    rintro v s ⟨left, h, right⟩ rest
    obtain ⟨c, t, rfl, hspace, hclose, -⟩ := h.startsValue
    rw [List.append_assoc, List.append_assoc, skipSpace_append left, List.cons_append,
      skipSpace_cons hspace]
    exact ⟨c, _, rfl, hclose⟩
  cases h with
  | last h => exact hpadded h rest
  | more h others =>
    rw [List.append_assoc]
    exact hpadded h _

/-- Members start with a quote, behind some blanks. -/
lemma SpellsMembers.skipSpace_eq {members : List (String × Value)} {s : List Char}
    (h : SpellsMembers members s) (rest : List Char) : ∃ t, skipSpace (s ++ rest) = '"' :: t := by
  have hmember : ∀ {m : String × Value} {s : List Char}, SpellsMember m s → ∀ rest,
      ∃ t, skipSpace (s ++ rest) = '"' :: t := by
    rintro m s ⟨left, ⟨points, body, -, -, rfl⟩, right, value⟩ rest
    rw [List.append_assoc, List.append_assoc, List.append_assoc, skipSpace_append left]
    exact ⟨_, rfl⟩
  cases h with
  | last h => exact hmember h rest
  | more h others =>
    rw [List.append_assoc]
    exact hmember h _

/-! ### One call of the reader -/

/-- A bracket that is closed at once. -/
lemma readValue_emptyArray (fuel : Nat) {s rest : List Char} (h : skipSpace s = ']' :: rest) :
    readValue (fuel + 1) ('[' :: s) = some (.array [], rest) := by
  rw [readValue, skipSpace_cons (by decide)]
  simp only [h]

/-- A bracket in front of items. -/
lemma readValue_array (fuel : Nat) {s : List Char}
    (h : ∃ c t, skipSpace s = c :: t ∧ c ≠ ']') :
    readValue (fuel + 1) ('[' :: s) =
      (readItems fuel [] s).map fun (items, rest) => (.array items, rest) := by
  obtain ⟨c, t, hs, hc⟩ := h
  rw [readValue, skipSpace_cons (by decide), ← readItems_skipSpace]
  simp only [hs]
  split
  · rename_i heq
    exact absurd (List.cons.inj heq).1 hc
  · rfl

/-- A brace that is closed at once. -/
lemma readValue_emptyObject (fuel : Nat) {s rest : List Char}
    (h : skipSpace s = '\x7d' :: rest) :
    readValue (fuel + 1) ('\x7b' :: s) = some (.object [], rest) := by
  rw [readValue, skipSpace_cons (by decide)]
  simp only [h]

/-- A brace in front of members. -/
lemma readValue_object (fuel : Nat) {s : List Char} (h : ∃ t, skipSpace s = '"' :: t) :
    readValue (fuel + 1) ('\x7b' :: s) =
      (readMembers fuel [] s).map fun (members, rest) => (.object members, rest) := by
  obtain ⟨t, hs⟩ := h
  rw [readValue, skipSpace_cons (by decide), ← readMembers_skipSpace]
  simp only [hs]
  rfl

section Items

variable {fuel : Nat} {done : List Value} {v : Value} {s behind rest : List Char}

/-- An item with another one behind it. -/
lemma readItems_comma (h : readValue fuel (s ++ ',' :: rest) = some (v, behind ++ ',' :: rest))
    (blank : IsBlank behind) :
    readItems (fuel + 1) done (s ++ ',' :: rest) = readItems fuel (v :: done) rest := by
  rw [readItems, h]
  simp only [skipSpace_append blank, skipSpace_cons (show isSpace ',' = false by decide)]

/-- The last item. -/
lemma readItems_bracket (h : readValue fuel (s ++ ']' :: rest) = some (v, behind ++ ']' :: rest))
    (blank : IsBlank behind) :
    readItems (fuel + 1) done (s ++ ']' :: rest) = some ((v :: done).reverse, rest) := by
  rw [readItems, h]
  simp only [skipSpace_append blank, skipSpace_cons (show isSpace ']' = false by decide)]

end Items

section Members

variable {fuel : Nat} {done : List (String × Value)} {name : String} {v : Value}
  {before t between s behind rest : List Char}

/-- A name is read up to its colon, and its value is next. What follows the value tells whether
there are other members. -/
lemma readMembers_name (left : IsBlank before) (hname : SpellsText name t)
    (right : IsBlank between) (h : readValue fuel s = some (v, behind)) :
    (skipSpace behind = ',' :: rest →
      readMembers (fuel + 1) done (before ++ t ++ between ++ ':' :: s) =
        readMembers fuel ((name, v) :: done) rest) ∧
    (skipSpace behind = '\x7d' :: rest →
      readMembers (fuel + 1) done (before ++ t ++ between ++ ':' :: s) =
        some (((name, v) :: done).reverse, rest)) := by
  obtain ⟨body, rfl, hread⟩ := readText_of_spells hname
  rw [readMembers, List.append_assoc, List.append_assoc, skipSpace_append left]
  simp only [List.cons_append, List.append_assoc, List.nil_append,
    skipSpace_cons (show isSpace '"' = false by decide), hread, skipSpace_append right,
    skipSpace_cons (show isSpace ':' = false by decide), h]
  constructor
  · intro hcomma
    simp only [hcomma]
  · intro hbrace
    simp only [hbrace]

/-- A member with another one behind it. -/
lemma readMembers_comma (left : IsBlank before) (hname : SpellsText name t)
    (right : IsBlank between)
    (h : readValue fuel (s ++ ',' :: rest) = some (v, behind ++ ',' :: rest))
    (blank : IsBlank behind) :
    readMembers (fuel + 1) done (before ++ t ++ between ++ ':' :: s ++ ',' :: rest) =
      readMembers fuel ((name, v) :: done) rest := by
  rw [List.append_assoc, List.cons_append]
  refine (readMembers_name left hname right h).1 ?_
  rw [skipSpace_append blank, skipSpace_cons (by decide)]

/-- The last member. -/
lemma readMembers_brace (left : IsBlank before) (hname : SpellsText name t)
    (right : IsBlank between)
    (h : readValue fuel (s ++ '\x7d' :: rest) = some (v, behind ++ '\x7d' :: rest))
    (blank : IsBlank behind) :
    readMembers (fuel + 1) done (before ++ t ++ between ++ ':' :: s ++ '\x7d' :: rest) =
      some (((name, v) :: done).reverse, rest) := by
  rw [List.append_assoc, List.cons_append]
  refine (readMembers_name left hname right h).2 ?_
  rw [skipSpace_append blank, skipSpace_cons (by decide)]

end Members

mutual

/-- **What spells a value is read as the value**, up to where it ends. -/
theorem readValue_of_spells {v : Value} {s : List Char} (h : Spells v s) (fuel : Nat)
    (hfuel : s.length ≤ fuel) (rest : List Char) (hrest : EndsNumber rest) :
    readValue fuel (s ++ rest) = some (v, rest) := by
  -- a value is spelled by one character at least, so there is fuel for one step
  obtain ⟨k, rfl, hk⟩ := h.exists_fuel hfuel
  match h with
  | .null => rfl
  | .yes => rfl
  | .no => rfl
  | .int h => exact readValue_of_spellsInt h k hrest
  | .text h =>
    obtain ⟨body, rfl, hread⟩ := readText_of_spells h
    rw [readValue, List.cons_append, List.cons_append, skipSpace_cons (by decide)]
    simp only [List.append_assoc, List.cons_append, List.nil_append, hread]
    rfl
  | .emptyArray blank =>
    rw [List.cons_append, List.cons_append, List.append_assoc]
    exact readValue_emptyArray k (skipSpace_append blank _)
  | .array h =>
    have hread := readItems_of_spells h k (by simp at hk; omega) [] rest
    rw [List.cons_append, List.cons_append, List.append_assoc,
      readValue_array k (h.skipSpace_ne _), List.singleton_append, hread]
    rfl
  | .emptyObject blank =>
    rw [List.cons_append, List.cons_append, List.append_assoc]
    exact readValue_emptyObject k (skipSpace_append blank _)
  | .object h names =>
    have hread := readMembers_of_spells h k (by simp at hk; omega) [] rest
    rw [List.cons_append, List.cons_append, List.append_assoc,
      readValue_object k (h.skipSpace_eq _), List.singleton_append, hread]
    rfl

/-- What spells a value with blanks around it is read as the value, but for the blanks behind. -/
theorem readValue_of_padded {v : Value} {s : List Char} (h : SpellsPadded v s) (fuel : Nat)
    (hfuel : s.length ≤ fuel) (rest : List Char) (hrest : EndsNumber rest) :
    ∃ behind, IsBlank behind ∧ readValue fuel (s ++ rest) = some (v, behind ++ rest) := by
  match h with
  | .intro left h right =>
    have hread := readValue_of_spells h fuel (by simp at hfuel; omega) _ (hrest.append right)
    refine ⟨_, right, ?_⟩
    rw [← readValue_skipSpace, List.append_assoc, List.append_assoc, skipSpace_append left,
      readValue_skipSpace, hread]

/-- What spells items is read as the items, up to the closing bracket. -/
theorem readItems_of_spells {items : List Value} {s : List Char} (h : SpellsItems items s)
    (fuel : Nat) (hfuel : s.length < fuel) (done : List Value) (rest : List Char) :
    readItems fuel done (s ++ ']' :: rest) = some (done.reverse ++ items, rest) := by
  obtain ⟨k, rfl⟩ := Nat.exists_eq_succ_of_ne_zero (Nat.ne_zero_of_lt hfuel)
  match h with
  | .last h =>
    obtain ⟨behind, blank, hread⟩ := readValue_of_padded h k (Nat.le_of_lt_succ hfuel)
      (']' :: rest) (.cons rfl rest)
    rw [readItems_bracket hread blank, List.reverse_cons]
  | @SpellsItems.more _ _ _ others h hothers =>
    rw [List.length_append, List.length_cons] at hfuel
    obtain ⟨behind, blank, hread⟩ := readValue_of_padded h k (by omega)
      (',' :: (others ++ ']' :: rest)) (.cons rfl _)
    rw [List.append_assoc, List.cons_append, readItems_comma hread blank,
      readItems_of_spells hothers k (by omega), List.reverse_cons, List.append_assoc,
      List.singleton_append]

/-- What spells members is read as the members, up to the closing brace. -/
theorem readMembers_of_spells {members : List (String × Value)} {s : List Char}
    (h : SpellsMembers members s) (fuel : Nat) (hfuel : s.length < fuel)
    (done : List (String × Value)) (rest : List Char) :
    readMembers fuel done (s ++ '\x7d' :: rest) = some (done.reverse ++ members, rest) := by
  obtain ⟨k, rfl⟩ := Nat.exists_eq_succ_of_ne_zero (Nat.ne_zero_of_lt hfuel)
  match h with
  | .last (.intro left hname right value) =>
    simp only [List.length_append, List.length_cons] at hfuel
    obtain ⟨behind, blank, hread⟩ := readValue_of_padded value k (by omega)
      ('\x7d' :: rest) (.cons rfl rest)
    rw [readMembers_brace left hname right hread blank, List.reverse_cons]
  | @SpellsMembers.more _ _ _ others (.intro left hname right value) hothers =>
    simp only [List.length_append, List.length_cons] at hfuel
    obtain ⟨behind, blank, hread⟩ := readValue_of_padded value k (by omega)
      (',' :: (others ++ '\x7d' :: rest)) (.cons rfl _)
    rw [List.append_assoc, List.cons_append, readMembers_comma left hname right hread blank,
      readMembers_of_spells hothers k (by omega), List.reverse_cons, List.append_assoc,
      List.singleton_append]

end

/-! ### Whole texts -/

/-- **What spells a value is read as the value**, also with blanks around it. -/
theorem read_of_spells {v : Value} {text : String} (h : SpellsPadded v text.toList) :
    read text = some v := by
  obtain ⟨behind, blank, hread⟩ := readValue_of_padded h (text.length + 1)
    (by rw [String.length_toList]; omega) [] (fun c hc => by simp at hc)
  have hend : (skipSpace (behind ++ [])).isEmpty = true := by
    rw [skipSpace_append blank]
    rfl
  rw [List.append_nil] at hread
  rw [read, hread]
  simp only [hend, if_true]

/-- **A text spells one value.** -/
theorem SpellsPadded.unique {v w : Value} {s : List Char} (hv : SpellsPadded v s)
    (hw : SpellsPadded w s) : v = w := by
  have hread : ∀ {u : Value}, SpellsPadded u s → read (String.ofList s) = some u := fun hu =>
    read_of_spells (by rwa [String.toList_ofList])
  exact Option.some.inj ((hread hv).symm.trans (hread hw))

end FlopCensus.Json
