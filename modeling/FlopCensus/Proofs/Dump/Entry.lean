import FlopCensus.Dump.Entry
import FlopCensus.Proofs.Numeral.Reading
import FlopCensus.Proofs.Text.Line
import FlopCensus.Proofs.Text.Run
import Mathlib.Data.List.TakeWhile
import Mathlib.Tactic.Common

set_option autoImplicit false
set_option relaxedAutoImplicit false

/-!
# Reading written lines

The two kinds of dump lines are written from their parts, and reading such a line gives the parts
back. The tag of a leaf may be spelled as a word or in quotes of either form. The text of a token is
not escaped, so it may be anything that stays on the line.

## Main definitions

* `FlopCensus.Dump.nodeChars`, `FlopCensus.Dump.leafChars` — the lines written from their parts.
* `FlopCensus.Dump.Spelling` — how the tag of a leaf is written.

## Main results

* `FlopCensus.Dump.readLine_nodeChars` — a node line gives its indentation and tag.
* `FlopCensus.Dump.readLine_leafChars` — a leaf line gives its indentation and token.
* `FlopCensus.Dump.leafLine?_leafHead` — only the end of a leaf line decides whether it is one.
-/

namespace FlopCensus.Dump

open Text

/-! ### Steps of the recognition -/

/-- A fixed text at the front is passed. -/
@[simp] lemma after?_append (text : String) (s : List Char) :
    after? text (text.toList ++ s) = some s :=
  List.isPrefixOf?_eq_some_iff_append_eq.2 rfl

/-- A run that is not empty is found in front of what does not continue it. -/
lemma run?_run_append {p : Char → Bool} {s t : List Char} (hne : s ≠ [])
    (h : ∀ d ∈ s, p d = true) (ht : ∀ c ∈ t.head?, p c = false) :
    run? p (s ++ t) = some (s, t) := by
  obtain ⟨d, ds, rfl⟩ := List.exists_cons_of_ne_nil hne
  rw [run?, takeWhile_run_append h ht, dropWhile_run_append h ht]

/-- A run ends before the first character outside the class. -/
lemma run?_append {p : Char → Bool} {s : List Char} {c : Char} (hne : s ≠ [])
    (h : ∀ d ∈ s, p d = true) (hc : p c = false) (t : List Char) :
    run? p (s ++ c :: t) = some (s, c :: t) :=
  run?_run_append hne h (head?_cons_of_neg hc t)

/-- A run that is found stands in front of what is left. -/
lemma of_run?_eq_some {p : Char → Bool} {s run rest : List Char} (h : run? p s = some (run, rest)) :
    run ++ rest = s ∧ run ≠ [] ∧ ∀ c ∈ run, p c = true := by
  rw [run?] at h
  split at h
  · cases h
  · rename_i c cs htake
    obtain ⟨rfl, rfl⟩ := Prod.mk.inj (Option.some.inj h)
    refine ⟨by rw [← htake, List.takeWhile_append_dropWhile], List.cons_ne_nil _ _, fun d hd => ?_⟩
    rw [← htake] at hd
    exact List.mem_takeWhile_imp hd

/-- The indentation of a line ends before the first character that is no blank. -/
lemma splitIndent_append {blanks : List Char} {c : Char}
    (h : ∀ d ∈ blanks, isBlank d = true) (hc : isBlank c = false) (t : List Char) :
    splitIndent (blanks ++ c :: t) = (blanks.length, c :: t) := by
  have ht := head?_cons_of_neg hc t
  rw [splitIndent, takeWhile_run_append h ht, dropWhile_run_append h ht]

/-- The characters form a numeral: there is at least one, and all are digits. -/
def IsNumeral (s : List Char) : Prop :=
  s ≠ [] ∧ ∀ c ∈ s, isDigit c = true

instance (s : List Char) : Decidable (IsNumeral s) :=
  @instDecidableAnd _ _ _ (List.decidableBAll _ s)

/-- A numeral that is found stands in front of what is left. -/
lemma of_run?_isDigit {s run rest : List Char} (h : run? isDigit s = some (run, rest)) :
    run ++ rest = s ∧ IsNumeral run :=
  of_run?_eq_some h

/-- The digits of a number form a numeral. -/
lemma isNumeral_decimal (n : ℕ) : IsNumeral (Numeral.decimal n) :=
  ⟨Numeral.decimal_ne_nil n, Numeral.isDigit_of_mem_decimal n⟩

/-- A numeral ends before a character that is no digit. -/
lemma IsNumeral.run?_append {s : List Char} (h : IsNumeral s) {c : Char} (hc : isDigit c = false)
    (t : List Char) : run? isDigit (s ++ c :: t) = some (s, c :: t) :=
  Dump.run?_append h.1 h.2 hc t

/-- A word consists of at least one word character. -/
lemma isWord_iff {s : List Char} : isWord s = true ↔ s ≠ [] ∧ ∀ c ∈ s, isWordChar c = true := by
  simp [isWord]

/-- A text that is given by its characters is a word if they are one. -/
lemma isWord_ofList {s : List Char} (h : isWord s = true) :
    isWord (String.ofList s).toList = true := by
  rwa [String.toList_ofList]

/-! ### Node lines -/

/-- A node line from its parts. -/
def nodeChars (blanks index tag rest : List Char) : List Char :=
  blanks ++ ("Node @".toList ++ (index ++ (" (tag: ".toList ++ (tag ++ (")".toList ++ rest)))))

/-- A node line gives its indentation and tag. -/
lemma nodeLine?_nodeChars {blanks index tag : List Char} (hb : ∀ d ∈ blanks, isBlank d = true)
    (hi : IsNumeral index) (ht : isWord tag = true) (rest : List Char) :
    nodeLine? (nodeChars blanks index tag rest) = some (blanks.length, tag) := by
  obtain ⟨hne, hword⟩ := isWord_iff.1 ht
  have hindent : splitIndent (nodeChars blanks index tag rest) = (blanks.length,
      "Node @".toList ++ (index ++ (" (tag: ".toList ++ (tag ++ (")".toList ++ rest))))) :=
    splitIndent_append hb (by decide : isBlank 'N' = false) _
  have hindex : run? isDigit (index ++ (" (tag: ".toList ++ (tag ++ (")".toList ++ rest)))) =
      some (index, " (tag: ".toList ++ (tag ++ (")".toList ++ rest))) :=
    hi.run?_append (by decide : isDigit ' ' = false) _
  have htag : run? isWordChar (tag ++ (")".toList ++ rest)) = some (tag, ")".toList ++ rest) :=
    run?_append hne hword (by decide : isWordChar ')' = false) _
  simp only [nodeLine?, hindent, after?_append, hindex, htag, Option.bind_eq_bind,
    Option.bind_some]
  rfl

/-- **A node line is read as a node** with its indentation and tag, whatever stands behind. -/
theorem readLine_nodeChars {blanks index tag : List Char} (hb : ∀ d ∈ blanks, isBlank d = true)
    (hi : IsNumeral index) (ht : isWord tag = true) (rest : List Char) :
    readLine (nodeChars blanks index tag rest) =
      .ok (some ⟨blanks.length, .node (String.ofList tag)⟩) := by
  rw [readLine, nodeLine?_nodeChars hb hi ht]

/-! ### Tags of leaves -/

/-- How the tag of a leaf is written. -/
inductive Spelling where
  /-- As a word. -/
  | word
  /-- In double quotes. -/
  | double
  /-- In single quotes. -/
  | single
deriving Repr, DecidableEq

/-- The tag as it is written. -/
def Spelling.write : Spelling → List Char → List Char
  | .word, tag => tag
  | .double, tag => '"' :: (tag ++ ['"'])
  | .single, tag => '\'' :: (tag ++ ['\''])

/-- The tag can be written in this way. -/
def Spelling.Fits : Spelling → List Char → Prop
  | .word, tag => isWord tag = true
  | .double, tag => '"' ∉ tag
  | .single, tag => '\'' ∉ tag

instance (s : Spelling) (tag : List Char) : Decidable (s.Fits tag) :=
  match s with
  | .word => inferInstanceAs (Decidable (_ = _))
  | .double => inferInstanceAs (Decidable (¬_))
  | .single => inferInstanceAs (Decidable (¬_))

/-- A quoted text ends at the first quote of its form. -/
lemma quoted?_append {q : Char} {tag : List Char} (h : q ∉ tag) (rest : List Char) :
    quoted? q (tag ++ q :: rest) = some (q :: (tag ++ [q]), rest) := by
  rw [quoted?, dropWhile_bne_append h, takeWhile_bne_append h]
  rfl

/-- A written tag ends before the blank behind it. -/
lemma Spelling.leafTag?_write {s : Spelling} {tag : List Char} (h : s.Fits tag)
    (rest : List Char) :
    leafTag? (s.write tag ++ ' ' :: rest) = some (s.write tag, ' ' :: rest) := by
  cases s with
  | word =>
    obtain ⟨hne, hword⟩ := isWord_iff.1 h
    have hrun := Dump.run?_append hne hword (by decide : isWordChar ' ' = false) rest
    obtain ⟨c, cs, rfl⟩ := List.exists_cons_of_ne_nil hne
    have hc := hword c List.mem_cons_self
    simp only [Spelling.write, List.cons_append] at hrun ⊢
    rw [leafTag?]
    · exact hrun
    · -- a word does not begin with a quote
      rintro _ hq
      rw [(List.cons.inj hq).1] at hc
      exact absurd hc (by decide)
    · rintro _ hq
      rw [(List.cons.inj hq).1] at hc
      exact absurd hc (by decide)
  | double =>
    have := quoted?_append h (' ' :: rest)
    simpa [Spelling.write, leafTag?] using this
  | single =>
    have := quoted?_append h (' ' :: rest)
    simpa [Spelling.write, leafTag?] using this

/-- The end of a text can be dropped if it belongs to the class. -/
lemma dropEndBy_append_of_pos {p : Char → Bool} {c : Char} (h : p c = true) (s : List Char) :
    dropEndBy p (s ++ [c]) = dropEndBy p s := by
  simp [dropEndBy, h]

/-- Characters of the class at both ends may be dropped first. -/
lemma stripBy_between {p : Char → Bool} {c d : Char} (hc : p c = true) (hd : p d = true)
    (s : List Char) : stripBy p (c :: (s ++ [d])) = stripBy p s := by
  rw [stripBy, List.dropWhile_cons_of_pos hc, List.dropWhile_append]
  split
  · rename_i hnil
    rw [List.isEmpty_iff] at hnil
    rw [stripBy, hnil, List.dropWhile_cons_of_pos hd, List.dropWhile_nil]
  · rw [dropEndBy_append_of_pos hd, stripBy]

/-- A text without characters of the class stays as it is. -/
lemma stripBy_of_neg {p : Char → Bool} {s : List Char} (h : ∀ c ∈ s, p c = false) :
    stripBy p s = s := by
  have hdrop : ∀ t : List Char, (∀ c ∈ t, p c = false) → t.dropWhile p = t := by
    intro t ht
    cases t with
    | nil => rfl
    | cons c t => exact List.dropWhile_cons_of_neg (by simp [ht c List.mem_cons_self])
  rw [stripBy, hdrop s h, dropEndBy, hdrop s.reverse (by simpa using h), List.reverse_reverse]

/-- The tag that is read is the written one without quotes at its ends. -/
lemma Spelling.stripBy_write {s : Spelling} (tag : List Char) :
    stripBy isQuote (s.write tag) = stripBy isQuote tag := by
  cases s with
  | word => rfl
  | double => exact stripBy_between (by decide) (by decide) tag
  | single => exact stripBy_between (by decide) (by decide) tag

/-- A word has no quotes. -/
lemma isQuote_of_isWordChar {c : Char} (h : isWordChar c = true) : isQuote c = false := by
  rw [isQuote, Bool.or_eq_false_iff, beq_eq_false_iff_ne, beq_eq_false_iff_ne]
  constructor
  · rintro rfl
    exact absurd h (by decide)
  · rintro rfl
    exact absurd h (by decide)

/-- The tag read from a word is the word. -/
lemma stripBy_isQuote_of_isWord {tag : List Char} (h : isWord tag = true) :
    stripBy isQuote tag = tag :=
  stripBy_of_neg fun c hc => isQuote_of_isWordChar ((isWord_iff.1 h).2 c hc)

/-! ### Leaf lines -/

/-- A leaf line up to the text of its token. -/
def leafHead (blanks index tag start stop : List Char) (rest : List Char) : List Char :=
  blanks ++ ("Leaf @".toList ++ (index ++ (" (#".toList ++ (tag ++ (" @".toList ++
    (start ++ ("-".toList ++ (stop ++ (": \"".toList ++ rest)))))))))

/-- A leaf line from its parts. -/
def leafChars (blanks index tag start stop text : List Char) : List Char :=
  leafHead blanks index tag start stop (text ++ "\")".toList)

section Leaf

variable {blanks index tag : List Char} {s : Spelling}

/-- The recognition of a leaf line reaches the numeral of its first byte. -/
lemma leafLine?_upTo_start (hb : ∀ d ∈ blanks, isBlank d = true) (hi : IsNumeral index)
    (ht : s.Fits tag) (start rest : List Char) :
    leafLine? (blanks ++ ("Leaf @".toList ++ (index ++ (" (#".toList ++ (s.write tag ++
      (" @".toList ++ (start ++ rest))))))) =
    (do
      let (start, r) ← run? isDigit (start ++ rest)
      let r ← after? "-" r
      let (stop, r) ← run? isDigit r
      let r ← after? ": \"" r
      let text ← leafText? r
      return { indent := blanks.length, tag := s.write tag, start, stop, text }) := by
  have hindent : splitIndent (blanks ++ ("Leaf @".toList ++ (index ++ (" (#".toList ++
      (s.write tag ++ (" @".toList ++ (start ++ rest))))))) = (blanks.length, "Leaf @".toList ++
      (index ++ (" (#".toList ++ (s.write tag ++ (" @".toList ++ (start ++ rest)))))) :=
    splitIndent_append hb (by decide : isBlank 'L' = false) _
  have hindex : run? isDigit (index ++ (" (#".toList ++ (s.write tag ++ (" @".toList ++
      (start ++ rest))))) =
      some (index, " (#".toList ++ (s.write tag ++ (" @".toList ++ (start ++ rest)))) :=
    hi.run?_append (by decide : isDigit ' ' = false) _
  have htag : leafTag? (s.write tag ++ (" @".toList ++ (start ++ rest))) =
      some (s.write tag, " @".toList ++ (start ++ rest)) :=
    Spelling.leafTag?_write ht _
  simp only [leafLine?, hindent, after?_append, hindex, htag, Option.bind_eq_bind,
    Option.bind_some]

/-- **Only its end decides whether the line is a leaf**: the parts in front are read back, and the
text is what the end of the line leaves of it. -/
theorem leafLine?_leafHead (hb : ∀ d ∈ blanks, isBlank d = true) (hi : IsNumeral index)
    (ht : s.Fits tag) {start stop : List Char} (hstart : IsNumeral start)
    (hstop : IsNumeral stop) (rest : List Char) :
    leafLine? (leafHead blanks index (s.write tag) start stop rest) =
      (leafText? rest).map fun text =>
        { indent := blanks.length, tag := s.write tag, start, stop, text } := by
  have hfirst : run? isDigit (start ++ ("-".toList ++ (stop ++ (": \"".toList ++ rest)))) =
      some (start, "-".toList ++ (stop ++ (": \"".toList ++ rest))) :=
    hstart.run?_append (by decide : isDigit '-' = false) _
  have hlast : run? isDigit (stop ++ (": \"".toList ++ rest)) =
      some (stop, ": \"".toList ++ rest) :=
    hstop.run?_append (by decide : isDigit ':' = false) _
  rw [leafHead, leafLine?_upTo_start hb hi ht]
  simp only [hfirst, hlast, after?_append, Option.bind_eq_bind, Option.bind_some]
  cases leafText? rest <;> rfl

/-- A leaf line is no node line. -/
lemma nodeLine?_leafHead (hb : ∀ d ∈ blanks, isBlank d = true) (index tag start stop : List Char)
    (rest : List Char) : nodeLine? (leafHead blanks index tag start stop rest) = none := by
  have hindent : splitIndent (leafHead blanks index tag start stop rest) = (blanks.length,
      "Leaf @".toList ++ (index ++ (" (#".toList ++ (tag ++ (" @".toList ++
        (start ++ ("-".toList ++ (stop ++ (": \"".toList ++ rest))))))))) :=
    splitIndent_append hb (by decide : isBlank 'L' = false) _
  rw [nodeLine?, hindent]
  rfl

/-- The text of a token stands in front of its mark and of the blanks behind that. -/
lemma leafText?_append_blanks (text : List Char) {ending : List Char}
    (h : ∀ c ∈ ending, isBlank c = true) :
    leafText? (text ++ ("\")".toList ++ ending)) = some text := by
  have hreverse : (text ++ ("\")".toList ++ ending)).reverse =
      ending.reverse ++ ')' :: '"' :: text.reverse := by simp
  have hpos : ∀ c ∈ ending.reverse, isBlank c = true := fun c hc => h c (List.mem_reverse.1 hc)
  rw [leafText?, dropEndBy, List.reverse_reverse, hreverse,
    dropWhile_run_append hpos (head?_cons_of_neg (by decide) _)]
  exact congrArg some (List.reverse_reverse text)

/-- The text of a token reaches to the end of its line. -/
lemma leafText?_append (text : List Char) : leafText? (text ++ "\")".toList) = some text := by
  simpa using leafText?_append_blanks text (List.forall_mem_nil _)

end Leaf

/-! ### Offsets -/

/-- A numeral within the digit limit is read as an offset. -/
lemma offset_of_isNumeral {s : List Char} (h : IsNumeral s)
    (hl : s.length ≤ Numeral.digitLimit) :
    offset s = .ok (Numeral.valueOf 10 (Numeral.digitValues s)) := by
  rw [offset, Numeral.read_of_isDigit h.1 h.2 hl]
  rfl

/-- The digits of a number are read as that number. -/
lemma offset_decimal {n : ℕ} (h : (Numeral.decimal n).length ≤ Numeral.digitLimit) :
    offset (Numeral.decimal n) = .ok n := by
  rw [offset_of_isNumeral (isNumeral_decimal n) h, Numeral.valueOf_digitValues_decimal]

/-- **A leaf line is read as a leaf** with its indentation, the tag without quotes at its ends, the
text and the offsets. -/
theorem readLine_leafChars {blanks index tag : List Char} {s : Spelling}
    (hb : ∀ d ∈ blanks, isBlank d = true) (hi : IsNumeral index) (ht : s.Fits tag)
    {start stop : ℕ} (hstart : (Numeral.decimal start).length ≤ Numeral.digitLimit)
    (hstop : (Numeral.decimal stop).length ≤ Numeral.digitLimit) (text : List Char) :
    readLine (leafChars blanks index (s.write tag) (Numeral.decimal start)
      (Numeral.decimal stop) text) =
      .ok (some ⟨blanks.length, .leaf
        ⟨String.ofList (stripBy isQuote tag), String.ofList text, start, stop⟩⟩) := by
  rw [readLine, leafChars, nodeLine?_leafHead hb, leafLine?_leafHead hb hi ht
    (isNumeral_decimal start) (isNumeral_decimal stop), leafText?_append]
  simp only [Option.map_some, LeafLine.token, offset_decimal hstart, offset_decimal hstop,
    Spelling.stripBy_write]
  rfl

end FlopCensus.Dump
