import FlopCensus.Proofs.Dump.Entry
import FlopCensus.Proofs.Dump.Outline
import Mathlib.Data.List.Basic
import Mathlib.Tactic.Common

set_option autoImplicit false
set_option relaxedAutoImplicit false

/-!
# Dumps that are printed line by line

A printer writes one line for each element, indented by the depth of the element, and may write
other lines that show none. What the lines show is put together from what each of them shows.

## Main definitions

* `FlopCensus.Dump.spaces` — the indentation of a depth.
* `FlopCensus.Dump.Shows` — plain lines that show an outline.

## Main results

* `FlopCensus.Dump.Shows.append` — lines one after another show their outlines one after another.
* `FlopCensus.Dump.Shows.node`, `FlopCensus.Dump.Shows.leaf`, `FlopCensus.Dump.Shows.brace` — what
  the single lines of a printer show.
* `FlopCensus.Dump.parse_of_shows` — a text of lines that show a tree is parsed as that tree.
-/

namespace FlopCensus.Dump

open Text

/-! ### Characters that end no line -/

/-- The separators of lines. -/
def separators : List Char :=
  ['\n', '\r', '\x0b', '\x0c', '\x1c', '\x1d', '\x1e', '\u0085', '\u2028', '\u2029']

/-- The separators of lines are all listed. -/
lemma mem_separators {c : Char} (h : isLineBreak c = true) : c ∈ separators := by
  simpa [isLineBreak, separators, or_assoc] using h

/-- The characters of a class without separators of lines are no separators. -/
lemma isLineBreak_of_class {p : Char → Bool} (hp : separators.any p = false) {c : Char}
    (h : p c = true) : isLineBreak c = false := by
  by_contra hbreak
  have hmem : c ∈ separators := mem_separators (by simpa using hbreak)
  exact List.any_eq_false.1 hp c hmem h

/-- A word character is no separator of lines. -/
lemma isLineBreak_of_isWordChar {c : Char} (h : isWordChar c = true) : isLineBreak c = false :=
  isLineBreak_of_class (by decide +kernel) h

/-- A digit is no separator of lines. -/
lemma isLineBreak_of_isDigit {c : Char} (h : isDigit c = true) : isLineBreak c = false :=
  isLineBreak_of_class (by decide) h

/-- A word stays on its line. -/
lemma isPlain_of_isWord {s : List Char} (h : isWord s = true) : IsPlain s :=
  fun c hc => isLineBreak_of_isWordChar ((isWord_iff.1 h).2 c hc)

/-- A numeral stays on its line. -/
lemma IsNumeral.isPlain {s : List Char} (h : IsNumeral s) : IsPlain s :=
  fun c hc => isLineBreak_of_isDigit (h.2 c hc)

/-- A written tag stays on its line if the tag does. -/
lemma Spelling.isPlain_write {s : Spelling} {tag : List Char} (h : IsPlain tag) :
    IsPlain (s.write tag) := by
  cases s with
  | word => exact h
  | double => simp [Spelling.write, h, isLineBreak]
  | single => simp [Spelling.write, h, isLineBreak]

/-! ### Indentation -/

/-- The indentation of a depth. -/
def spaces (w depth : ℕ) : List Char :=
  List.replicate (w * depth) ' '

/-- Indentation consists of blanks. -/
lemma isBlank_of_mem_spaces (w depth : ℕ) : ∀ c ∈ spaces w depth, isBlank c = true := by
  intro c hc
  rw [List.eq_of_mem_replicate hc]
  decide

/-- Indentation stays on its line. -/
@[simp] lemma isPlain_spaces (w depth : ℕ) : IsPlain (spaces w depth) := by
  intro c hc
  rw [List.eq_of_mem_replicate hc]
  decide

@[simp] lemma length_spaces (w depth : ℕ) : (spaces w depth).length = w * depth :=
  List.length_replicate

/-! ### What lines show -/

/-- The entry of a line that holds one. -/
lemma entries_singleton {l : List Char} {e : Entry} (h : readLine l = .ok (some e)) :
    entries [l] = .ok [e] := by
  rw [entries, h]
  rfl

/-- Lines that stay lines when they are put together, and show an outline. -/
structure Shows (w : ℕ) (lines : List (List Char)) (outline : List (ℕ × Element)) : Prop where
  /-- No line holds a separator. -/
  plain : ∀ l ∈ lines, IsPlain l
  /-- No line is empty. -/
  nonempty : ∀ l ∈ lines, l ≠ []
  /-- The entries are those of the printed outline. -/
  entries_eq : entries lines = .ok (indented w outline)

namespace Shows

variable {w : ℕ}

/-- No lines show nothing. -/
lemma nil : Shows w [] [] :=
  ⟨by simp, by simp, rfl⟩

/-- **Lines one after another show their outlines one after another.** -/
theorem append {ls ms : List (List Char)} {xs ys : List (ℕ × Element)} (hl : Shows w ls xs)
    (hm : Shows w ms ys) : Shows w (ls ++ ms) (xs ++ ys) where
  plain l h := (List.mem_append.1 h).elim (hl.plain l) (hm.plain l)
  nonempty l h := (List.mem_append.1 h).elim (hl.nonempty l) (hm.nonempty l)
  entries_eq := by
    rw [entries_append, hl.entries_eq, hm.entries_eq, indented_append]
    rfl

/-- A line shows the element of its entry. -/
lemma singleton {l : List Char} {depth : ℕ} {e : Element} (hp : IsPlain l) (hne : l ≠ [])
    (h : readLine l = .ok (some ⟨w * depth, e⟩)) : Shows w [l] [(depth, e)] where
  plain _ hm := List.mem_singleton.1 hm ▸ hp
  nonempty _ hm := List.mem_singleton.1 hm ▸ hne
  entries_eq := entries_singleton h

/-- A node line shows its node. -/
lemma node (w depth : ℕ) {index tag rest : List Char} (hi : IsNumeral index)
    (ht : isWord tag = true) (hrest : IsPlain rest) :
    Shows w [nodeChars (spaces w depth) index tag rest] [(depth, .node (String.ofList tag))] := by
  refine singleton ?_ (by simp [nodeChars]) ?_
  · simp [nodeChars, isPlain_of_isWord ht, hi.isPlain, hrest, isLineBreak]
  · rw [readLine_nodeChars (isBlank_of_mem_spaces w depth) hi ht, length_spaces]

/-- A leaf line shows its token. -/
lemma leaf (w depth : ℕ) {index tag text : List Char} {s : Spelling} {start stop : ℕ}
    (hi : IsNumeral index) (ht : s.Fits tag) (hp : IsPlain tag)
    (hstart : (Numeral.decimal start).length ≤ Numeral.digitLimit)
    (hstop : (Numeral.decimal stop).length ≤ Numeral.digitLimit) (htext : IsPlain text) :
    Shows w [leafChars (spaces w depth) index (s.write tag) (Numeral.decimal start)
        (Numeral.decimal stop) text]
      [(depth, .leaf ⟨String.ofList (stripBy isQuote tag), String.ofList text, start, stop⟩)] := by
  refine singleton ?_ (by simp [leafChars, leafHead]) ?_
  · simp [leafChars, leafHead, hi.isPlain, Spelling.isPlain_write hp, htext,
      (isNumeral_decimal _).isPlain, isLineBreak]
  · rw [readLine_leafChars (isBlank_of_mem_spaces w depth) hi ht hstart hstop, length_spaces]

/-- A closing brace shows nothing. -/
lemma brace (w depth : ℕ) : Shows w [spaces w depth ++ "\x7d".toList] [] := by
  have hindent := splitIndent_append (isBlank_of_mem_spaces w depth)
    (by decide : isBlank '\x7d' = false) []
  have hread : readLine (spaces w depth ++ "\x7d".toList) = .ok none := by
    rw [readLine, nodeLine?, leafLine?]
    simp only [show "\x7d".toList = ['\x7d'] from rfl, hindent]
    rfl
  refine ⟨fun l hl => ?_, fun l hl => ?_, ?_⟩
  · rw [List.mem_singleton.1 hl]
    simp [isLineBreak]
  · rw [List.mem_singleton.1 hl]
    simp
  · rw [entries, hread]
    rfl

/-- The title of a dump shows nothing. -/
lemma title : Shows w ["Parse Tree:".toList] [] := by
  refine ⟨fun l hl => ?_, fun l hl => ?_, rfl⟩
  · rw [List.mem_singleton.1 hl]
    simp [isLineBreak]
  · rw [List.mem_singleton.1 hl]
    simp

end Shows

/-- **A text of lines that show a tree is parsed as that tree.** -/
theorem parse_of_shows {w : ℕ} (hw : 1 ≤ w) {text : String} {lines : List (List Char)} {root : Node}
    (htext : text.toList = lines.flatMap (· ++ ['\n']))
    (h : Shows w lines root.toTree.outline) : parse text w = .ok root := by
  refine parse_of_entries hw ?_
  rw [htext, splitLines_joined_of_isPlain h.plain h.nonempty]
  exact h.entries_eq

end FlopCensus.Dump
