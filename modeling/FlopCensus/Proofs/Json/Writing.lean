import FlopCensus.Proofs.Json.Reading
import Mathlib.Data.List.Forall2
import Mathlib.Tactic.Common

set_option autoImplicit false
set_option relaxedAutoImplicit false

/-!
# Writing by the grammar

A plain value can be written in every layout, and what is written spells the value. So it reads back
whatever the layout, and two plain values are written alike only if they are the same.

## Main definitions

* `FlopCensus.Json.Value.IsPlain` — values without reals whose integers can be written and whose
  objects have distinct names.

## Main results

* `FlopCensus.Json.write_of_isPlain` — what is written spells the value.
* `FlopCensus.Json.read_write` — it reads back.
* `FlopCensus.Json.write_injective` — it tells the value.
-/

namespace FlopCensus.Json

open Numeral Text

/-- The values without reals whose integers can be written and whose objects have distinct names. -/
inductive Value.IsPlain : Value → Prop
  | null : IsPlain .null
  | bool (b : Bool) : IsPlain (.bool b)
  | int {i : Int} (h : IsWritable i) : IsPlain (.int i)
  | text (s : String) : IsPlain (.text s)
  | array {items : List Value} (h : ∀ v ∈ items, IsPlain v) : IsPlain (.array items)
  | object {members : List (String × Value)} (names : (members.map Prod.fst).Nodup)
      (h : ∀ m ∈ members, IsPlain m.2) : IsPlain (.object members)

/-! ### Numbers -/

/-- The digits of a number are those of a numeral for it.

**Proof sketch.** The digits of `n / 10` stand in front of the last one. They start with a zero only
if `n / 10` is zero, and then there is no need for them. -/
lemma exists_isNumeral_decimal (n : Nat) :
    ∃ digits, IsNumeral digits ∧ valueOf 10 digits = n ∧ decimal n = digits.map digitChar := by
  induction n using Nat.strong_induction_on with
  | _ n ih =>
    rw [decimal]
    split
    · rename_i hn
      refine ⟨[n], ⟨List.cons_ne_nil _ _, by simpa using hn, fun h => ?_⟩, by simp [valueOf], rfl⟩
      rw [Option.some.inj h]
    · rename_i hn
      obtain ⟨digits, hdigits, hvalue, hwritten⟩ := ih (n / 10) (by omega)
      refine ⟨digits ++ [n % 10], ⟨by simp, ?_, fun h => ?_⟩, ?_, by rw [hwritten]; simp⟩
      · have hlast : n % 10 < 10 := Nat.mod_lt _ (by decide)
        exact List.forall_mem_append.2 ⟨hdigits.lt_ten, List.forall_mem_singleton.2 hlast⟩
      · rw [List.head?_append_of_ne_nil _ hdigits.ne_nil] at h
        rw [hdigits.leading h] at hvalue
        have hzero : n / 10 = 0 := hvalue.symm
        omega
      · rw [valueOf, List.foldl_append, ← valueOf, hvalue]
        simp only [List.foldl_cons, List.foldl_nil]
        omega

/-- **The text of an integer spells it.** -/
theorem spellsInt_intText (i : Int) : SpellsInt i (intText i).toList := by
  obtain ⟨digits, hdigits, hvalue, hwritten⟩ := exists_isNumeral_decimal i.natAbs
  have htext : (natText i.natAbs).toList = digits.map digitChar := by
    rw [natText, String.toList_ofList, hwritten]
  rw [intText]
  split
  · have hi : i = -(valueOf 10 digits : Int) := by omega
    rw [String.toList_append, htext, hi]
    exact .negative hdigits
  · have hi : i = (valueOf 10 digits : Int) := by omega
    rw [htext, hi]
    exact .plain hdigits

/-! ### Layouts -/

/-- No blanks at all. -/
lemma isBlank_nil : IsBlank [] := List.forall_mem_nil _

/-- What stands in front of an item is blank. -/
lemma isBlank_lead (layout : Layout) (level : Nat) : IsBlank (layout.lead level) := by
  cases layout with
  | line => exact isBlank_nil
  | indented width =>
    rintro c hc
    rcases List.mem_cons.1 hc with rfl | hc
    · rfl
    · rw [List.eq_of_mem_replicate hc]
      rfl

/-- Items are set apart by a comma and blanks. -/
lemma exists_separator (layout : Layout) (level : Nat) :
    ∃ gap, IsBlank gap ∧ layout.separator level = ',' :: gap := by
  cases layout with
  | line => exact ⟨[' '], List.forall_mem_singleton.2 rfl, rfl⟩
  | indented width => exact ⟨_, isBlank_lead _ level, rfl⟩

/-- Blanks side by side are blanks. -/
lemma IsBlank.append {s t : List Char} (hs : IsBlank s) (ht : IsBlank t) : IsBlank (s ++ t) :=
  List.forall_mem_append.2 ⟨hs, ht⟩

/-- A value can have more blanks around it. -/
lemma SpellsPadded.pad {v : Value} {s before behind : List Char} (h : SpellsPadded v s)
    (left : IsBlank before) (right : IsBlank behind) :
    SpellsPadded v (before ++ (s ++ behind)) := by
  obtain ⟨hbefore, hv, hbehind⟩ := h
  have hmore := SpellsPadded.intro (left.append hbefore) hv (hbehind.append right)
  simpa only [List.append_assoc] using hmore

/-- A member can have more blanks around it. -/
lemma SpellsMember.pad {m : String × Value} {s before behind : List Char} (h : SpellsMember m s)
    (left : IsBlank before) (right : IsBlank behind) :
    SpellsMember m (before ++ (s ++ behind)) := by
  obtain ⟨hbefore, hname, hbetween, hv⟩ := h
  have hmore := SpellsMember.intro (left.append hbefore) hname hbetween (hv.pad isBlank_nil right)
  simpa only [List.append_assoc, List.cons_append, List.nil_append] using hmore

/-- Pieces set apart by commas and blanks spell a list, if each piece spells an element, also with
more blanks around it. -/
lemma spells_intercalate {α : Type} {One : α → List Char → Prop}
    {All : List α → List Char → Prop} {gap behind : List Char}
    (pad : ∀ {x s before behind}, One x s → IsBlank before → IsBlank behind →
      One x (before ++ (s ++ behind)))
    (last : ∀ {x s}, One x s → All [x] s)
    (more : ∀ {x xs s rest}, One x s → All xs rest → All (x :: xs) (s ++ ',' :: rest))
    (blank : IsBlank gap) (right : IsBlank behind) {xs : List α} {pieces : List (List Char)}
    (h : List.Forall₂ One xs pieces) (hne : xs ≠ []) {before : List Char} (left : IsBlank before) :
    All xs (before ++ ((',' :: gap).intercalate pieces ++ behind)) := by
  induction h generalizing before with
  | nil => exact absurd rfl hne
  | cons hx hrest ih =>
    cases hrest with
    | nil =>
      rw [List.intercalate_singleton]
      exact last (pad hx left right)
    | cons hy hrest =>
      have hothers := ih (List.cons_ne_nil _ _) blank
      have hlist := more (pad hx left isBlank_nil) hothers
      rw [List.intercalate_cons_cons]
      simpa only [List.append_assoc, List.cons_append, List.nil_append] using hlist

/-- Items between brackets, if there are any. -/
lemma exists_enclose (layout : Layout) (level : Nat) (opening closing : Char)
    {pieces : List (List Char)} (hne : pieces ≠ []) : ∃ gap before behind,
      (IsBlank gap ∧ IsBlank before ∧ IsBlank behind) ∧
      enclose layout level opening closing pieces =
        opening :: (before ++ ((',' :: gap).intercalate pieces ++ behind)) ++ [closing] := by
  obtain ⟨gap, blank, hgap⟩ := exists_separator layout (level + 1)
  refine ⟨gap, _, _, ⟨blank, isBlank_lead layout (level + 1), isBlank_lead layout level⟩, ?_⟩
  rw [enclose, hgap]
  · simp only [List.cons_append, List.append_assoc]
  · exact hne

/-! ### Values -/

/-- Items that can be written one by one. -/
lemma writeItems_of_forall {layout : Layout} {level : Nat} {items : List Value}
    (h : ∀ v ∈ items, ∃ s, writeAt layout level v = .ok s ∧ Spells v s) :
    ∃ pieces, writeItems layout level items = .ok pieces ∧
      List.Forall₂ SpellsPadded items pieces := by
  induction items with
  | nil => exact ⟨[], rfl, .nil⟩
  | cons v items ih =>
    obtain ⟨s, hs, hspells⟩ := h v List.mem_cons_self
    obtain ⟨pieces, hpieces, hall⟩ := ih fun w hw => h w (List.mem_cons_of_mem _ hw)
    have hpadded := SpellsPadded.intro isBlank_nil hspells isBlank_nil
    rw [List.nil_append, List.append_nil] at hpadded
    refine ⟨s :: pieces, ?_, .cons hpadded hall⟩
    rw [writeItems, hs, hpieces]
    rfl

/-- Members whose values can be written one by one. -/
lemma writeMembers_of_forall {layout : Layout} {level : Nat} {members : List (String × Value)}
    (h : ∀ m ∈ members, ∃ s, writeAt layout level m.2 = .ok s ∧ Spells m.2 s) :
    ∃ pieces, writeMembers layout level members = .ok pieces ∧
      List.Forall₂ SpellsMember members pieces := by
  induction members with
  | nil => exact ⟨[], rfl, .nil⟩
  | cons m members ih =>
    obtain ⟨name, v⟩ := m
    obtain ⟨s, hs, hspells⟩ := h (name, v) List.mem_cons_self
    obtain ⟨pieces, hpieces, hall⟩ := ih fun w hw => h w (List.mem_cons_of_mem _ hw)
    have hgap : IsBlank [' '] := List.forall_mem_singleton.2 rfl
    have hpadded := SpellsPadded.intro hgap hspells isBlank_nil
    have hmember := SpellsMember.intro isBlank_nil (spellsText_escapeText name) isBlank_nil hpadded
    simp only [List.nil_append, List.append_nil, List.singleton_append] at hmember
    refine ⟨(escapeText name ++ ':' :: ' ' :: s) :: pieces, ?_, .cons hmember hall⟩
    rw [writeMembers, hs, hpieces]
    rfl

/-- **A plain value can be written on every level**, and what is written spells it. -/
theorem writeAt_of_isPlain {v : Value} (h : v.IsPlain) (layout : Layout) (level : Nat) :
    ∃ s, writeAt layout level v = .ok s ∧ Spells v s := by
  induction h generalizing level with
  | null => exact ⟨_, rfl, .null⟩
  | bool b =>
    cases b with
    | false => exact ⟨_, rfl, .no⟩
    | true => exact ⟨_, rfl, .yes⟩
  | @int i h =>
    refine ⟨(intText i).toList, ?_, .int (spellsInt_intText i)⟩
    rw [writeAt, h.write_eq]
    rfl
  | text s => exact ⟨_, rfl, .text (spellsText_escapeText s)⟩
  | @array items _ ih =>
    obtain ⟨pieces, hpieces, hall⟩ := writeItems_of_forall fun v hv => ih v hv (level + 1)
    have hwrite : writeAt layout level (.array items) =
        .ok (enclose layout level '[' ']' pieces) := by
      rw [writeAt, hpieces]
      rfl
    refine ⟨_, hwrite, ?_⟩
    -- without items the brackets stand next to each other
    cases hall with
    | nil => exact .emptyArray isBlank_nil
    | cons hfirst hrest =>
      obtain ⟨gap, before, behind, ⟨blank, left, right⟩, henclose⟩ :=
        exists_enclose layout level '[' ']' (List.cons_ne_nil _ _)
      rw [henclose]
      exact .array (spells_intercalate .pad .last .more blank right (.cons hfirst hrest)
        (List.cons_ne_nil _ _) left)
  | @object members names _ ih =>
    obtain ⟨pieces, hpieces, hall⟩ := writeMembers_of_forall fun m hm => ih m hm (level + 1)
    have hwrite : writeAt layout level (.object members) =
        .ok (enclose layout level '\x7b' '\x7d' pieces) := by
      rw [writeAt, hpieces]
      rfl
    refine ⟨_, hwrite, ?_⟩
    cases hall with
    | nil => exact .emptyObject isBlank_nil
    | cons hfirst hrest =>
      obtain ⟨gap, before, behind, ⟨blank, left, right⟩, henclose⟩ :=
        exists_enclose layout level '\x7b' '\x7d' (List.cons_ne_nil _ _)
      rw [henclose]
      exact .object (spells_intercalate .pad .last .more blank right (.cons hfirst hrest)
        (List.cons_ne_nil _ _) left) names

/-- **A plain value can be written in every layout**, and what is written spells it. -/
theorem write_of_isPlain {v : Value} (h : v.IsPlain) (layout : Layout) :
    ∃ text, write layout v = .ok text ∧ SpellsPadded v text.toList := by
  obtain ⟨s, hs, hspells⟩ := writeAt_of_isPlain h layout 0
  have hpadded := SpellsPadded.intro isBlank_nil hspells isBlank_nil
  refine ⟨String.ofList s, ?_, ?_⟩
  · rw [write, hs]
    rfl
  · rwa [List.nil_append, List.append_nil, ← String.toList_ofList (l := s)] at hpadded

/-- **What is written reads back.** -/
theorem read_write {v : Value} (h : v.IsPlain) {layout : Layout} {text : String}
    (htext : write layout v = .ok text) : read text = some v := by
  obtain ⟨written, hwritten, hspells⟩ := write_of_isPlain h layout
  obtain rfl : written = text := Except.ok.inj (hwritten.symm.trans htext)
  exact read_of_spells hspells

/-- **What is written tells the value.** -/
theorem write_injective {v w : Value} (hv : v.IsPlain) (hw : w.IsPlain) {layout : Layout}
    (h : write layout v = write layout w) : v = w := by
  obtain ⟨text, htext, -⟩ := write_of_isPlain hv layout
  have hread := read_write hv htext
  have hother := read_write hw (h.symm.trans htext)
  exact Option.some.inj (hread.symm.trans hother)

end FlopCensus.Json
