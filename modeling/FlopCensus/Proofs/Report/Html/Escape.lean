import FlopCensus.Proofs.Numeral.Reading
import FlopCensus.Report.Html
import Mathlib.Data.List.Basic
import Mathlib.Tactic.Common

set_option autoImplicit false
set_option relaxedAutoImplicit false

/-!
# Escaped texts

Four characters have a meaning in the markup of a page, and a text that is escaped has references in
their place. All who can read these references get the text back, and there is nothing in it that
could be taken for markup.

## Main definitions

* `FlopCensus.Report.Html.References` — a reader of references.
* `FlopCensus.Report.Html.References.unescape` — a text with what its references stand for.
* `FlopCensus.Report.Html.IsInert` — a text that holds no markup.

## Main results

* `FlopCensus.Report.Html.foldl_replace_eq` — escaping replaces one character after another.
* `FlopCensus.Report.Html.References.unescape_escape` — an escaped text is read back.
* `FlopCensus.Report.Html.escape_injective` — no two texts become the same.
* `FlopCensus.Report.Html.isInert_escape` — an escaped text holds no markup.
-/

namespace FlopCensus.Report.Html

/-! ### References -/

/-- The characters with a meaning in markup, and the names of the references to them. -/
def namedChars : List (Char × String) :=
  [('&', "amp"), ('<', "lt"), ('>', "gt"), ('"', "quot")]

/-- A reference to the character of a name. -/
def reference (name : String) : List Char :=
  '&' :: name.toList ++ [';']

/-- A reader of references, which knows those to the four characters and perhaps others. -/
structure References where
  /-- What the reference at the beginning of a text stands for, and how many characters there are in
  it. The ampersand in front of it has been read. -/
  read : List Char → Option (List Char × ℕ)
  /-- The references to the four characters are known. -/
  known : ∀ entry ∈ namedChars, ∀ rest,
    read (entry.2.toList ++ ';' :: rest) = some ([entry.1], entry.2.length + 1)

/-- A text with what its references stand for in their place. -/
def References.unescape (refs : References) : List Char → List Char
  | [] => []
  | c :: s =>
    if c = '&' then
      match refs.read s with
      | some (text, length) => text ++ refs.unescape (s.drop length)
      | none => c :: refs.unescape s
    else c :: refs.unescape s
termination_by s => s.length

/-! ### Escaping -/

/-- A character becomes the reference to it, if it has a name; otherwise it remains. -/
lemma escapeChar_cases (c : Char) :
    (∃ entry ∈ namedChars, c = entry.1 ∧ escapeChar c = reference entry.2) ∨
      (∀ entry ∈ namedChars, c ≠ entry.1) ∧ escapeChar c = [c] := by
  have hnamed : ∀ entry ∈ namedChars, escapeChar entry.1 = reference entry.2 := by decide
  by_cases h : ∃ entry ∈ namedChars, c = entry.1
  · obtain ⟨entry, hentry, rfl⟩ := h
    exact .inl ⟨entry, hentry, rfl, hnamed entry hentry⟩
  · have hc : ∀ entry ∈ namedChars, c ≠ entry.1 := fun entry hentry heq => h ⟨entry, hentry, heq⟩
    refine .inr ⟨hc, ?_⟩
    simp only [namedChars, List.forall_mem_cons] at hc
    simp [escapeChar, hc]

/-- A text with references in place of one character. -/
def replace (entry : Char × String) (s : List Char) : List Char :=
  s.flatMap fun c => if c = entry.1 then reference entry.2 else [c]

/-- **Escaping replaces one character after another**, the ampersand first, so that no ampersand of
a reference is replaced. -/
theorem foldl_replace_eq (s : List Char) :
    namedChars.foldl (fun t entry => replace entry t) s = s.flatMap escapeChar := by
  simp only [namedChars, List.foldl_cons, List.foldl_nil, replace, List.flatMap_assoc]
  refine List.flatMap_congr fun c _ => ?_
  rcases escapeChar_cases c with ⟨entry, hentry, rfl, -⟩ | ⟨hc, hplain⟩
  · clear * - hentry
    revert entry
    decide
  · simp only [namedChars, List.forall_mem_cons] at hc
    simp [hplain, hc]

/-- **An escaped text is read back.** -/
theorem References.unescape_escape (refs : References) (s : String) :
    refs.unescape (escape s).toList = s.toList := by
  rw [escape, String.toList_ofList]
  induction s.toList with
  | nil => rw [List.flatMap_nil, References.unescape]
  | cons c s ih =>
    rw [List.flatMap_cons]
    rcases escapeChar_cases c with ⟨entry, hentry, rfl, hnamed⟩ | ⟨hc, hplain⟩
    · have hrest : (entry.2.toList ++ ';' :: s.flatMap escapeChar).drop (entry.2.length + 1) =
          s.flatMap escapeChar := by
        rw [← String.length_toList, ← List.drop_drop, List.drop_left]
        rfl
      rw [hnamed, reference, List.append_assoc, List.cons_append,
        List.singleton_append, References.unescape, if_pos rfl, refs.known entry hentry]
      simp only [hrest, ih, List.singleton_append]
    · rw [hplain, List.singleton_append, References.unescape, if_neg (hc ('&', "amp") (by decide)),
        ih]

/-- The references to the four characters. -/
def basicReferences : References where
  read s := (namedChars.find? fun entry => (entry.2.toList ++ [';']).isPrefixOf s).map fun entry =>
    ([entry.1], entry.2.length + 1)
  known := by
    simp only [namedChars, List.forall_mem_cons]
    refine ⟨?_, ?_, ?_, ?_, ?_⟩ <;> simp

/-- No two texts become the same when they are escaped. -/
theorem escape_injective : Function.Injective escape := by
  intro s t h
  rw [← String.toList_inj, ← basicReferences.unescape_escape s, h, basicReferences.unescape_escape]

/-! ### Texts without markup -/

/-- The character belongs to markup. -/
def isMarkup (c : Char) : Bool :=
  c == '<' || c == '>' || c == '"'

/-- The text holds no markup, so that it may stand in any place. -/
def IsInert (s : String) : Prop :=
  ∀ c ∈ s.toList, isMarkup c = false

instance (s : String) : Decidable (IsInert s) :=
  decidable_of_iff (s.toList.all (!isMarkup ·) = true) (by simp [IsInert])

/-- **An escaped text holds no markup.** -/
theorem isInert_escape (s : String) : IsInert (escape s) := by
  intro c hc
  rw [escape, String.toList_ofList] at hc
  obtain ⟨d, -, hd⟩ := List.mem_flatMap.1 hc
  have hreference : ∀ entry ∈ namedChars, (reference entry.2).all (!isMarkup ·) = true := by
    decide
  rcases escapeChar_cases d with ⟨entry, hentry, -, hnamed⟩ | ⟨hplain, hsame⟩
  · rw [hnamed] at hd
    simpa using List.all_eq_true.1 (hreference entry hentry) c hd
  · rw [hsame, List.mem_singleton] at hd
    subst hd
    simp only [namedChars, List.forall_mem_cons] at hplain
    simp [isMarkup, hplain]

/-! ### Texts that remain -/

/-- Two texts are escaped one by one. -/
lemma escape_append (s t : String) : escape (s ++ t) = escape s ++ escape t := by
  rw [escape, String.toList_append, List.flatMap_append, String.ofList_append]
  rfl

/-- A text without the four characters remains. -/
lemma escape_eq_self {s : String} (h : ∀ c ∈ s.toList, escapeChar c = [c]) : escape s = s := by
  have hchars : s.toList.flatMap escapeChar = s.toList := by
    rw [List.flatMap_congr h]
    simp
  rw [escape, hchars, String.ofList_toList]

/-- A digit remains. -/
lemma escapeChar_digitChar : ∀ d < 10, escapeChar (Text.digitChar d) = [Text.digitChar d] := by
  decide

/-- A natural number remains. -/
@[simp]
lemma escape_natText (n : ℕ) : escape (Numeral.natText n) = Numeral.natText n := by
  refine escape_eq_self fun c hc => ?_
  obtain ⟨d, hd, rfl⟩ := Numeral.of_mem_natText hc
  exact escapeChar_digitChar d hd

/-- An integer remains. -/
@[simp]
lemma escape_intText (i : ℤ) : escape (Numeral.intText i) = Numeral.intText i := by
  refine escape_eq_self fun c hc => ?_
  rcases Numeral.of_mem_intText hc with rfl | ⟨d, hd, rfl⟩
  · decide
  · exact escapeChar_digitChar d hd

/-- The place of a declaration is escaped as a whole. -/
lemma escape_location (file : String) (line : ℤ) :
    escape file ++ ":" ++ Numeral.intText line = escape (file ++ ":" ++ Numeral.intText line) := by
  have hcolon : escape ":" = ":" := rfl
  rw [escape_append, escape_append, hcolon, escape_intText]

/-- A natural number holds no markup. -/
lemma isInert_natText (n : ℕ) : IsInert (Numeral.natText n) :=
  escape_natText n ▸ isInert_escape _

/-- An integer holds no markup. -/
lemma isInert_intText (i : ℤ) : IsInert (Numeral.intText i) :=
  escape_intText i ▸ isInert_escape _

/-- The place of a declaration holds no markup. -/
lemma isInert_location (file : String) (line : ℤ) :
    IsInert (escape file ++ ":" ++ Numeral.intText line) :=
  escape_location file line ▸ isInert_escape _

end FlopCensus.Report.Html
