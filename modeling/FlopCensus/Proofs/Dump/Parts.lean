import FlopCensus.Proofs.Dump.Entry
import Mathlib.Data.List.TakeWhile
import Mathlib.Tactic.Common

set_option autoImplicit false
set_option relaxedAutoImplicit false

/-!
# Lines of a dump have one reading

A node line and a leaf line are each put together from parts, and a line is recognised exactly if it
is put together from some. The parts are found one after another from the left, and those of a leaf
line behind the mark of its text from the right, so no line has two ways to be taken apart. It does
not matter in which order a reader tries the ways there might be.

## Main definitions

* `FlopCensus.Dump.NodeParts`, `FlopCensus.Dump.LeafParts` — the parts of a line of either kind.
* `FlopCensus.Dump.Matching` — a way to find the parts of each line that has some.
* `FlopCensus.Dump.HasOneReading` — what is found in a line is what its only parts say.

## Main results

* `FlopCensus.Dump.NodeParts.line_injective`, `FlopCensus.Dump.LeafParts.line_injective` — a line
  can be taken apart in one way.
* `FlopCensus.Dump.exists_nodeParts`, `FlopCensus.Dump.exists_leafParts` — a line that is recognised
  can be taken apart.
* `FlopCensus.Dump.lines_have_one_reading` — both kinds of lines have one reading, and no line is of
  both kinds.
-/

namespace FlopCensus.Dump

open Text

/-! ### What a step of the recognition finds -/

/-- What is left behind a fixed text, with the text in front. -/
lemma append_of_after? {text : String} {s rest : List Char} (h : after? text s = some rest) :
    text.toList ++ rest = s :=
  List.isPrefixOf?_eq_some_iff_append_eq.1 h

/-- The indentation of a line consists of blanks. -/
lemma exists_blanks (s : List Char) :
    ∃ blanks, (∀ c ∈ blanks, isBlank c = true) ∧ blanks ++ (splitIndent s).2 = s :=
  ⟨s.takeWhile isBlank, fun _ hc => List.mem_takeWhile_imp hc, List.takeWhile_append_dropWhile⟩

/-! ### Matchings -/

/-- A way to find the parts of every line that is put together from some, in whatever order the
possibilities are tried. -/
structure Matching {P : Type} (line : P → List Char) where
  /-- The parts that are found in a line. -/
  find? : List Char → Option P
  /-- What is found makes up the line. -/
  sound : ∀ {s p}, find? s = some p → line p = s
  /-- Something is found if there is anything to find. -/
  complete : ∀ p, (find? (line p)).isSome = true

/-- What a recognition finds in a line is what the only parts of the line say. -/
structure HasOneReading {P α : Type} (line : P → List Char) (content : P → α)
    (found? : List Char → Option α) (s : List Char) : Prop where
  /-- The lines that are recognised are those with parts. -/
  isSome_iff : (found? s).isSome = true ↔ ∃ p, line p = s
  /-- There are no two ways to take the line apart. -/
  unique : ∀ {p q}, line p = s → line q = s → p = q
  /-- What is found is the content of the parts. -/
  found_eq : ∀ {p}, line p = s → found? s = some (content p)
  /-- All matchings find the same. -/
  matching_eq : ∀ m : Matching line, (m.find? s).map content = found? s

/-- A recognition that finds what parts of the line say, and finds it in every line that has parts,
has one reading if lines can be taken apart in one way. -/
lemma hasOneReading_of_injective {P α : Type} {line : P → List Char} {content : P → α}
    {found? : List Char → Option α} (hinj : Function.Injective line)
    (hline : ∀ p, found? (line p) = some (content p))
    (hparts : ∀ {s a}, found? s = some a → ∃ p, line p = s) (s : List Char) :
    HasOneReading line content found? s where
  isSome_iff := by
    constructor
    · intro h
      obtain ⟨a, ha⟩ := Option.isSome_iff_exists.1 h
      exact hparts ha
    · rintro ⟨p, rfl⟩
      rw [hline, Option.isSome_some]
  unique hp hq := hinj (hp.trans hq.symm)
  found_eq := by
    rintro p rfl
    exact hline p
  matching_eq m := by
    cases hm : m.find? s with
    | some p => rw [← m.sound hm, hline, Option.map_some]
    | none =>
      cases hs : found? s with
      | none => rfl
      | some a =>
        obtain ⟨p, rfl⟩ := hparts hs
        have := m.complete p
        rw [hm] at this
        cases this

/-! ### Node lines -/

/-- The parts of a node line. -/
structure NodeParts where
  /-- The indentation. -/
  blanks : List Char
  /-- The number of the node among its siblings. -/
  index : List Char
  /-- The tag of the node. -/
  tag : List Char
  /-- What stands behind the tag. -/
  rest : List Char
  isBlank_blanks : ∀ c ∈ blanks, isBlank c = true
  isNumeral_index : IsNumeral index
  isWord_tag : isWord tag = true

namespace NodeParts

/-- The line that is put together from the parts. -/
def line (p : NodeParts) : List Char :=
  nodeChars p.blanks p.index p.tag p.rest

/-- The indentation and the tag. -/
def content (p : NodeParts) : ℕ × List Char :=
  (p.blanks.length, p.tag)

/-- A line is recognised by its parts. -/
lemma nodeLine?_line (p : NodeParts) : nodeLine? p.line = some p.content :=
  nodeLine?_nodeChars p.isBlank_blanks p.isNumeral_index p.isWord_tag p.rest

/-- **A node line can be taken apart in one way.** -/
theorem line_injective : Function.Injective line := by
  rintro ⟨blanks, index, tag, rest, hb, hi, ht⟩ ⟨blanks', index', tag', rest', hb', hi', ht'⟩ h
  obtain ⟨rfl, h⟩ := run_append_inj hb hb' (by decide : isBlank 'N' = false) (by decide) h
  obtain ⟨rfl, h⟩ := run_append_inj hi.2 hi'.2 (by decide : isDigit ' ' = false) (by decide)
    ((List.append_right_inj "Node @".toList).1 h)
  obtain ⟨rfl, h⟩ := run_append_inj (isWord_iff.1 ht).2 (isWord_iff.1 ht').2
    (by decide : isWordChar ')' = false) (by decide)
    ((List.append_right_inj " (tag: ".toList).1 h)
  obtain rfl : rest = rest' := (List.append_right_inj ")".toList).1 h
  rfl

end NodeParts

/-- **A line that is recognised as a node line can be taken apart.** -/
theorem exists_nodeParts {s : List Char} {found : ℕ × List Char}
    (h : nodeLine? s = some found) : ∃ p : NodeParts, p.line = s := by
  simp only [nodeLine?, Option.bind_eq_bind, Option.bind_eq_some_iff] at h
  obtain ⟨s₁, h₁, ⟨index, s₂⟩, hindex, s₃, h₃, ⟨tag, s₄⟩, htag, rest, hrest, -⟩ := h
  obtain ⟨blanks, hblanks, hs⟩ := exists_blanks s
  obtain ⟨hs₁, hindex⟩ := of_run?_isDigit hindex
  obtain ⟨hs₃, hne, hword⟩ := of_run?_eq_some htag
  refine ⟨⟨blanks, index, tag, rest, hblanks, hindex, isWord_iff.2 ⟨hne, hword⟩⟩, ?_⟩
  rw [NodeParts.line, nodeChars, append_of_after? hrest, hs₃, append_of_after? h₃, hs₁,
    append_of_after? h₁, hs]

/-! ### Leaf lines -/

/-- The parts of a leaf line. -/
structure LeafParts where
  /-- The indentation. -/
  blanks : List Char
  /-- The number of the leaf among its siblings. -/
  index : List Char
  /-- How the tag is written. -/
  spelling : Spelling
  /-- The tag of the leaf, without the quotes around it. -/
  tag : List Char
  /-- The numeral of the first byte. -/
  start : List Char
  /-- The numeral behind the last byte. -/
  stop : List Char
  /-- The text of the token. -/
  text : List Char
  /-- The blanks at the end of the line. -/
  ending : List Char
  isBlank_blanks : ∀ c ∈ blanks, isBlank c = true
  isNumeral_index : IsNumeral index
  fits_tag : spelling.Fits tag
  isNumeral_start : IsNumeral start
  isNumeral_stop : IsNumeral stop
  isBlank_ending : ∀ c ∈ ending, isBlank c = true

/-- A text that is found stands in front of its mark and of the blanks behind that. -/
lemma of_leafText? {s text : List Char} (h : leafText? s = some text) :
    ∃ ending, (∀ c ∈ ending, isBlank c = true) ∧ text ++ ("\")".toList ++ ending) = s := by
  rw [leafText?, dropEndBy, List.reverse_reverse] at h
  split at h
  · rename_i rest hrest
    obtain rfl := Option.some.inj h
    refine ⟨(s.reverse.takeWhile isBlank).reverse, fun c hc => ?_, ?_⟩
    · exact List.mem_takeWhile_imp (List.mem_reverse.1 hc)
    · calc rest.reverse ++ ("\")".toList ++ (s.reverse.takeWhile isBlank).reverse)
          = (s.reverse.takeWhile isBlank ++ ')' :: '"' :: rest).reverse := by simp
        _ = s := by
          rw [← hrest, List.takeWhile_append_dropWhile, List.reverse_reverse]
  · cases h

/-- A text and the blanks behind its mark can be told apart in one way. -/
lemma text_append_inj {text text' ending ending' : List Char}
    (h : ∀ c ∈ ending, isBlank c = true) (h' : ∀ c ∈ ending', isBlank c = true)
    (heq : text ++ ("\")".toList ++ ending) = text' ++ ("\")".toList ++ ending')) :
    text = text' ∧ ending = ending' := by
  have hfirst := leafText?_append_blanks text h
  rw [heq, leafText?_append_blanks text' h'] at hfirst
  obtain rfl := Option.some.inj hfirst
  exact ⟨rfl, List.append_cancel_left (List.append_cancel_left heq)⟩

/-- A tag that is written in two ways is the same tag, and the ways are the same. -/
lemma Spelling.write_inj {s s' : Spelling} {tag tag' : List Char} (h : s.Fits tag)
    (h' : s'.Fits tag') (heq : s.write tag = s'.write tag') : s = s' ∧ tag = tag' := by
  have hword : ∀ {w t : List Char} {q : Char}, isWord w = true → isWordChar q = false →
      w ≠ q :: (t ++ [q]) := by
    rintro _ t q hw hq rfl
    rw [(isWord_iff.1 hw).2 q List.mem_cons_self] at hq
    cases hq
  cases s <;> cases s' <;> simp only [Spelling.write] at heq
  · exact ⟨rfl, heq⟩
  · exact absurd heq (hword h (by decide))
  · exact absurd heq (hword h (by decide))
  · exact absurd heq.symm (hword h' (by decide))
  · exact ⟨rfl, by simpa using heq⟩
  · simp at heq
  · exact absurd heq.symm (hword h' (by decide))
  · simp at heq
  · exact ⟨rfl, by simpa using heq⟩

/-- A written tag and what stands behind it can be told apart in one way. -/
lemma Spelling.write_append_inj {s s' : Spelling} {tag tag' rest rest' : List Char}
    (h : s.Fits tag) (h' : s'.Fits tag')
    (heq : s.write tag ++ ' ' :: rest = s'.write tag' ++ ' ' :: rest') :
    s = s' ∧ tag = tag' ∧ rest = rest' := by
  have hfirst := Spelling.leafTag?_write h rest
  have hsecond := Spelling.leafTag?_write h' rest'
  rw [heq, hsecond] at hfirst
  obtain ⟨hwritten, hrest⟩ := Prod.mk.inj (Option.some.inj hfirst)
  obtain ⟨rfl, rfl⟩ := Spelling.write_inj h h' hwritten.symm
  exact ⟨rfl, rfl, (List.cons.inj hrest).2.symm⟩

/-- A quoted text that is found stands in front of what is left. -/
lemma of_quoted? {q : Char} {s written rest : List Char} (h : quoted? q s = some (written, rest)) :
    ∃ tag, q ∉ tag ∧ written = q :: (tag ++ [q]) ∧ written ++ rest = q :: s := by
  rw [quoted?] at h
  split at h
  · rename_i d behind hdrop
    obtain ⟨rfl, rfl⟩ := Prod.mk.inj (Option.some.inj h)
    have hd : d = q := by
      have := List.head?_dropWhile_not (· != q) s
      rw [hdrop] at this
      simpa using this
    refine ⟨s.takeWhile (· != q), fun hq => ?_, rfl, ?_⟩
    · have := List.mem_takeWhile_imp hq
      simp at this
    · have := List.takeWhile_append_dropWhile (p := (· != q)) (l := s)
      rw [hdrop, hd] at this
      simpa using this
  · cases h

/-- A tag that is found is written in one of the ways. -/
lemma of_leafTag? {s written rest : List Char} (h : leafTag? s = some (written, rest)) :
    ∃ (spelling : Spelling) (tag : List Char), spelling.Fits tag ∧ spelling.write tag = written ∧
      written ++ rest = s := by
  unfold leafTag? at h
  split at h
  · obtain ⟨tag, hfits, hwritten, hs⟩ := of_quoted? h
    exact ⟨.double, tag, hfits, hwritten.symm, hs⟩
  · obtain ⟨tag, hfits, hwritten, hs⟩ := of_quoted? h
    exact ⟨.single, tag, hfits, hwritten.symm, hs⟩
  · obtain ⟨hs, hne, hword⟩ := of_run?_eq_some h
    exact ⟨.word, written, isWord_iff.2 ⟨hne, hword⟩, rfl, hs⟩

namespace LeafParts

/-- The line that is put together from the parts. -/
def line (p : LeafParts) : List Char :=
  leafHead p.blanks p.index (p.spelling.write p.tag) p.start p.stop
    (p.text ++ ("\")".toList ++ p.ending))

/-- What is read from the line. -/
def content (p : LeafParts) : LeafLine where
  indent := p.blanks.length
  tag := p.spelling.write p.tag
  start := p.start
  stop := p.stop
  text := p.text

/-- A line is recognised by its parts. -/
lemma leafLine?_line (p : LeafParts) : leafLine? p.line = some p.content := by
  rw [line, leafLine?_leafHead p.isBlank_blanks p.isNumeral_index p.fits_tag p.isNumeral_start
    p.isNumeral_stop, leafText?_append_blanks p.text p.isBlank_ending]
  rfl

/-- **A leaf line can be taken apart in one way.** -/
theorem line_injective : Function.Injective line := by
  rintro ⟨blanks, index, spelling, tag, start, stop, text, ending, hb, hi, ht, hstart, hstop, he⟩
    ⟨blanks', index', spelling', tag', start', stop', text', ending', hb', hi', ht', hstart',
      hstop', he'⟩ h
  obtain ⟨rfl, h⟩ := run_append_inj hb hb' (by decide : isBlank 'L' = false) (by decide) h
  obtain ⟨rfl, h⟩ := run_append_inj hi.2 hi'.2 (by decide : isDigit ' ' = false) (by decide)
    ((List.append_right_inj "Leaf @".toList).1 h)
  obtain ⟨rfl, rfl, h⟩ := Spelling.write_append_inj ht ht'
    ((List.append_right_inj " (#".toList).1 h)
  obtain ⟨rfl, h⟩ := run_append_inj hstart.2 hstart'.2 (by decide : isDigit '-' = false)
    (by decide) ((List.append_right_inj "@".toList).1 h)
  obtain ⟨rfl, h⟩ := run_append_inj hstop.2 hstop'.2 (by decide : isDigit ':' = false) (by decide)
    ((List.append_right_inj "-".toList).1 h)
  obtain ⟨rfl, rfl⟩ := text_append_inj he he' ((List.append_right_inj ": \"".toList).1 h)
  rfl

end LeafParts

/-- **A line that is recognised as a leaf line can be taken apart.** -/
theorem exists_leafParts {s : List Char} {found : LeafLine} (h : leafLine? s = some found) :
    ∃ p : LeafParts, p.line = s := by
  simp only [leafLine?, Option.bind_eq_bind, Option.bind_eq_some_iff] at h
  obtain ⟨s₁, h₁, ⟨index, s₂⟩, hindex, s₃, h₃, ⟨written, s₄⟩, htag, s₅, h₅, ⟨start, s₆⟩, hstart,
    s₇, h₇, ⟨stop, s₈⟩, hstop, s₉, h₉, text, htext, -⟩ := h
  obtain ⟨blanks, hblanks, hs⟩ := exists_blanks s
  obtain ⟨hs₁, hindex⟩ := of_run?_isDigit hindex
  obtain ⟨spelling, tag, hfits, rfl, hs₃⟩ := of_leafTag? htag
  obtain ⟨hs₅, hstart⟩ := of_run?_isDigit hstart
  obtain ⟨hs₇, hstop⟩ := of_run?_isDigit hstop
  obtain ⟨ending, hending, hs₉⟩ := of_leafText? htext
  refine ⟨⟨blanks, index, spelling, tag, start, stop, text, ending, hblanks, hindex, hfits, hstart,
    hstop, hending⟩, ?_⟩
  rw [LeafParts.line, leafHead, hs₉, append_of_after? h₉, hs₇, append_of_after? h₇, hs₅,
    append_of_after? h₅, hs₃, append_of_after? h₃, hs₁, append_of_after? h₁, hs]

/-- **Lines of a dump have one reading.** A line is recognised exactly if it is put together from
parts, which are the only ones it can be put together from, and every other way to find them finds
the same. No line is of both kinds.

**Proof sketch.** Each part in front of the text of a leaf is a run that a character of the next
part stops, or is written between quotes that it does not hold (`run_append_inj`,
`Spelling.write_append_inj`). The text may hold anything, even the end of another leaf line, but
what ends the line is a mark and blanks, which the mark does not hold (`text_append_inj`). -/
theorem lines_have_one_reading (s : List Char) :
    HasOneReading NodeParts.line NodeParts.content nodeLine? s ∧
      HasOneReading LeafParts.line LeafParts.content leafLine? s ∧
      ¬((nodeLine? s).isSome = true ∧ (leafLine? s).isSome = true) := by
  refine ⟨hasOneReading_of_injective NodeParts.line_injective NodeParts.nodeLine?_line
    exists_nodeParts s, hasOneReading_of_injective LeafParts.line_injective
    LeafParts.leafLine?_line exists_leafParts s, ?_⟩
  rintro ⟨hnode, hleaf⟩
  obtain ⟨found, hfound⟩ := Option.isSome_iff_exists.1 hleaf
  obtain ⟨p, rfl⟩ := exists_leafParts hfound
  rw [LeafParts.line, nodeLine?_leafHead p.isBlank_blanks] at hnode
  cases hnode

/-- A text that looks like the end of a leaf line itself. -/
example : (leafLine? "Leaf @0 (#a @0-1: \"b\") c\")  ".toList).map (·.text) =
    some "b\") c".toList := by
  decide

end FlopCensus.Dump
