import FlopCensus.Proofs.Dump.Printed
import Mathlib.Data.List.Basic
import Mathlib.Tactic.Common

set_option autoImplicit false
set_option relaxedAutoImplicit false

/-!
# Every printing of a tree is parsed as the tree

The format of a dump leaves much to the printer: how the parts of a node are numbered, in which of
the possible ways the tag of a leaf is written, how a node line goes on behind its tag, and which
lines stand between those of the elements, as long as these show no element themselves. Whatever
the printer chooses, the tree is read back.

## Main definitions

* `FlopCensus.Dump.IsQuotable` — texts that can be the tag of a leaf in quotes.
* `FlopCensus.Dump.IsPrintable` — trees that can be printed.
* `FlopCensus.Dump.IsLineOf` — the lines that can be printed for an element.
* `FlopCensus.Dump.IsPrinting` — the lines that can be printed for an outline.

## Main results

* `FlopCensus.Dump.entries_of_isPrinting` — a printing shows the outline that it prints.
* `FlopCensus.Dump.parse_printing` — a printable tree has printings, and all are parsed as the tree.

## Design

A printing is a relation between an outline and lines, not a function with an argument for each
choice: `IsPrinting` has one constructor for the line of an element and one for a line that shows
none, so an induction on it goes through the lines as the parser does.
-/

namespace FlopCensus

namespace Text

/-- Plain lines that are joined by line feeds are cut as they were joined. Only an empty line at the
end is lost. -/
lemma splitLines_intercalate {lines : List (List Char)} (h : ∀ l ∈ lines, IsPlain l) :
    splitLines (['\n'].intercalate lines) = lines ∨
      splitLines (['\n'].intercalate lines) ++ [[]] = lines := by
  have hempty : splitLines [] = [] := by
    rw [splitLines]
    rfl
  induction lines with
  | nil => exact Or.inl hempty
  | cons l ls ih =>
    have hl := h l List.mem_cons_self
    cases ls with
    | nil =>
      rw [List.intercalate_singleton]
      -- an empty line at the end is lost
      by_cases hne : l = []
      · subst hne
        exact Or.inr (by rw [hempty, List.nil_append])
      · exact Or.inl (splitLines_of_isPlain hl hne)
    | cons m ms =>
      have hcut : splitLines (['\n'].intercalate (l :: m :: ms)) =
          l :: splitLines (['\n'].intercalate (m :: ms)) := by
        rw [List.intercalate_cons_cons, List.append_assoc]
        exact splitLines_of_cutLine (cutLine_plain_newline hl _)
      have hrest := ih fun k hk => h k (List.mem_cons_of_mem _ hk)
      rw [hcut]
      exact hrest.imp (congrArg (l :: ·)) (congrArg (l :: ·))

end Text

namespace Dump

open Text

/-! ### Trees that can be printed -/

/-- The text can be the tag of a leaf in quotes: it stays on its line, it does not hold quotes of
both forms, and none stands at either end. -/
def IsQuotable (tag : List Char) : Prop :=
  IsPlain tag ∧ ('"' ∉ tag ∨ '\'' ∉ tag) ∧ (∀ c ∈ tag.head?, isQuote c = false) ∧
    ∀ c ∈ tag.getLast?, isQuote c = false

instance (tag : List Char) : Decidable (IsQuotable tag) :=
  @instDecidableAnd _ _ _ <| @instDecidableAnd _ _ _ <|
    @instDecidableAnd _ _ (Option.decidableForallMem _) (Option.decidableForallMem _)

/-- The text can be the tag of a leaf. -/
def IsLeafTag (tag : List Char) : Prop :=
  isWord tag = true ∨ IsQuotable tag

instance (tag : List Char) : Decidable (IsLeafTag tag) :=
  inferInstanceAs (Decidable (_ ∨ _))

/-- An element that can be printed: its tag can be written, the text of a token stays on its line,
and the offsets are within the digit limit. -/
def IsPrintableElement : Element → Prop
  | .node tag => isWord tag.toList = true
  | .leaf l => IsLeafTag l.tag.toList ∧ IsPlain l.text.toList ∧
      (Numeral.decimal l.start).length ≤ Numeral.digitLimit ∧
      (Numeral.decimal l.stop).length ≤ Numeral.digitLimit

instance : DecidablePred IsPrintableElement
  | .node _ => inferInstanceAs (Decidable (_ = _))
  | .leaf _ => inferInstanceAs (Decidable (_ ∧ _ ∧ _ ∧ _))

/-- All elements of the tree can be printed. -/
def IsPrintable (t : Tree) : Prop :=
  ∀ x ∈ t.outline, IsPrintableElement x.2

instance (t : Tree) : Decidable (IsPrintable t) :=
  inferInstanceAs (Decidable (∀ x ∈ t.outline, IsPrintableElement x.2))

/-- The class of a text's ends decides whether anything is dropped from it. -/
lemma stripBy_of_ends {p : Char → Bool} {s : List Char} (hhead : ∀ c ∈ s.head?, p c = false)
    (hlast : ∀ c ∈ s.getLast?, p c = false) : stripBy p s = s := by
  have hdrop : ∀ t : List Char, (∀ c ∈ t.head?, p c = false) → t.dropWhile p = t := by
    intro t ht
    cases t with
    | nil => rfl
    | cons c t => exact List.dropWhile_cons_of_neg (by simp [ht c rfl])
  rw [stripBy, hdrop s hhead, dropEndBy, hdrop s.reverse (by rwa [List.head?_reverse]),
    List.reverse_reverse]

/-- The tag of a leaf is read as it is, without quotes of its own at its ends. -/
lemma IsLeafTag.stripBy_isQuote {tag : List Char} (h : IsLeafTag tag) :
    stripBy isQuote tag = tag :=
  h.elim stripBy_isQuote_of_isWord fun h => stripBy_of_ends h.2.2.1 h.2.2.2

/-- The tag of a leaf stays on its line. -/
lemma IsLeafTag.isPlain {tag : List Char} (h : IsLeafTag tag) : IsPlain tag :=
  h.elim isPlain_of_isWord fun h => h.1

/-- The tag of a leaf can be written in some way. -/
lemma IsLeafTag.exists_fits {tag : List Char} (h : IsLeafTag tag) :
    ∃ s : Spelling, s.Fits tag := by
  rcases h with hword | ⟨-, hdouble | hsingle, -⟩
  · exact ⟨.word, hword⟩
  · exact ⟨.double, hdouble⟩
  · exact ⟨.single, hsingle⟩

/-! ### Printings -/

/-- The lines that can be printed for an element at a depth. The number of the element may be any
numeral, a node line may go on in any way, and the tag of a leaf may be written in any way that
fits it. -/
inductive IsLineOf (w : ℕ) : ℕ × Element → List Char → Prop where
  /-- The line of a node. -/
  | node (depth : ℕ) (tag : String) (index suffix : List Char) (hi : IsNumeral index)
      (hs : IsPlain suffix) : IsLineOf w (depth, .node tag)
        (nodeChars (spaces w depth) index tag.toList suffix)
  /-- The line of a token. -/
  | leaf (depth : ℕ) (l : Leaf) (index : List Char) (s : Spelling) (hi : IsNumeral index)
      (hs : s.Fits l.tag.toList) : IsLineOf w (depth, .leaf l)
        (leafChars (spaces w depth) index (s.write l.tag.toList) (Numeral.decimal l.start)
          (Numeral.decimal l.stop) l.text.toList)

/-- A line that shows no element: it is neither that of a node nor that of a token. -/
def IsStray (line : List Char) : Prop :=
  IsPlain line ∧ nodeLine? line = none ∧ leafLine? line = none

instance (line : List Char) : Decidable (IsStray line) :=
  inferInstanceAs (Decidable (_ ∧ _ ∧ _))

/-- The lines that can be printed for an outline: one for each element in order, and others that
show no element anywhere between them. -/
inductive IsPrinting (w : ℕ) : List (ℕ × Element) → List (List Char) → Prop where
  /-- There is nothing more to print. -/
  | done : IsPrinting w [] []
  /-- A line that shows no element. -/
  | stray {xs : List (ℕ × Element)} {lines : List (List Char)} (line : List Char)
      (h : IsStray line) (rest : IsPrinting w xs lines) : IsPrinting w xs (line :: lines)
  /-- The line of the next element. -/
  | element {xs : List (ℕ × Element)} {lines : List (List Char)} (x : ℕ × Element)
      (line : List Char) (h : IsLineOf w x line) (rest : IsPrinting w xs lines) :
      IsPrinting w (x :: xs) (line :: lines)

/-- The text of some lines. The last one has no line feed behind it; a text that ends in one has an
empty line at its end. -/
def textOf (lines : List (List Char)) : String :=
  String.ofList (['\n'].intercalate lines)

/-- An element that can be printed has a line. -/
lemma exists_isLineOf {w : ℕ} {x : ℕ × Element} (h : IsPrintableElement x.2) :
    ∃ line, IsLineOf w x line := by
  obtain ⟨depth, e⟩ := x
  cases e with
  | node tag => exact ⟨_, .node depth tag _ [] (isNumeral_decimal 0) isPlain_nil⟩
  | leaf l =>
    obtain ⟨s, hs⟩ := h.1.exists_fits
    exact ⟨_, .leaf depth l _ s (isNumeral_decimal 0) hs⟩

/-- Elements that can be printed have a printing. -/
lemma exists_isPrinting {w : ℕ} {xs : List (ℕ × Element)} (h : ∀ x ∈ xs, IsPrintableElement x.2) :
    ∃ lines, IsPrinting w xs lines := by
  induction xs with
  | nil => exact ⟨[], .done⟩
  | cons x xs ih =>
    obtain ⟨line, hline⟩ := exists_isLineOf (w := w) (h x List.mem_cons_self)
    obtain ⟨lines, hlines⟩ := ih fun y hy => h y (List.mem_cons_of_mem _ hy)
    exact ⟨line :: lines, .element x line hline hlines⟩

/-- The line of an element shows the element at its depth. -/
lemma IsLineOf.shows {w : ℕ} {x : ℕ × Element} {line : List Char} (h : IsLineOf w x line)
    (hx : IsPrintableElement x.2) : Shows w [line] [x] := by
  cases h with
  | node depth tag index suffix hi hs =>
    have hshows := Shows.node w depth hi hx hs
    rwa [String.ofList_toList] at hshows
  | leaf depth l index s hi hs =>
    obtain ⟨htag, htext, hstart, hstop⟩ := hx
    have hshows := Shows.leaf w depth hi hs htag.isPlain hstart hstop htext
    rwa [htag.stripBy_isQuote, String.ofList_toList, String.ofList_toList] at hshows

/-- The lines of a printing hold no separators. -/
lemma IsPrinting.isPlain {w : ℕ} {xs : List (ℕ × Element)} {lines : List (List Char)}
    (h : IsPrinting w xs lines) (hx : ∀ x ∈ xs, IsPrintableElement x.2) :
    ∀ l ∈ lines, IsPlain l := by
  induction h with
  | done => simp
  | stray line hline rest ih => exact List.forall_mem_cons.2 ⟨hline.1, ih hx⟩
  | element x line hline rest ih =>
    rw [List.forall_mem_cons] at hx ⊢
    exact ⟨(hline.shows hx.1).plain line List.mem_cons_self, ih hx.2⟩

/-- Lines that show no element have no entries. -/
lemma entries_cons_of_isStray {line : List Char} (h : IsStray line) (lines : List (List Char)) :
    entries (line :: lines) = entries lines := by
  have hread : readLine line = .ok none := by rw [readLine, h.2.1, h.2.2]
  rw [entries, hread]
  rfl

/-- **A printing shows the outline that it prints.** -/
theorem entries_of_isPrinting {w : ℕ} {xs : List (ℕ × Element)} {lines : List (List Char)}
    (h : IsPrinting w xs lines) (hx : ∀ x ∈ xs, IsPrintableElement x.2) :
    entries lines = .ok (indented w xs) := by
  induction h with
  | done => rfl
  | stray line hline rest ih => rw [entries_cons_of_isStray hline, ih hx]
  | element x line hline rest ih =>
    rw [List.forall_mem_cons] at hx
    rw [← List.singleton_append, entries_append, (hline.shows hx.1).entries_eq, ih hx.2]
    rfl

/-- The entries of plain lines are those of their text. -/
lemma entries_splitLines_textOf {lines : List (List Char)} (h : ∀ l ∈ lines, IsPlain l) :
    entries (splitLines (textOf lines).toList) = entries lines := by
  have hblank : entries [[]] = .ok [] := entries_cons_of_isStray (by decide) []
  rw [textOf, String.toList_ofList]
  rcases splitLines_intercalate h with hcut | hcut
  · rw [hcut]
  · have hlines := congrArg entries hcut
    rw [entries_append, hblank] at hlines
    rw [← hlines]
    cases entries (splitLines (['\n'].intercalate lines)) with
    | error e => rfl
    | ok es => simp [bind, Except.bind, pure, Except.pure]

/-- **Every printing of a tree is parsed as the tree.** Node tags are words; leaf tags are words or
can stand in quotes; texts stay on their lines but may otherwise be anything, and offsets respect
the digit limit. Such a tree can be printed, and however its elements are numbered, its leaf tags
are quoted and its node lines go on, and whatever lines stand between that show no element, it is
read back from the text.

**Proof sketch.** The text is cut into the lines of the printing, up to an empty line at its end.
Each line shows its element at its depth or shows nothing (`entries_of_isPrinting`), so the entries
are those of the tree's outline, which `parse_of_entries` assembles. -/
theorem parse_printing {w : ℕ} (hw : 1 ≤ w) {root : Node} (hroot : IsPrintable root.toTree) :
    (∃ lines, IsPrinting w root.toTree.outline lines) ∧
      ∀ lines, IsPrinting w root.toTree.outline lines → parse (textOf lines) w = .ok root := by
  refine ⟨exists_isPrinting hroot, fun lines hlines => parse_of_entries hw ?_⟩
  rw [entries_splitLines_textOf (hlines.isPlain hroot), entries_of_isPrinting hlines hroot]

/-- A tree with a quote in a tag, a text that looks like the line of a node, and a text that is
empty. -/
def looseRoot : Node :=
  ⟨"kRoot", [.leaf ⟨"a'b", "x\") Node @0 (tag: kOther)", 2, 5⟩, .node "kEmpty" [],
    .leaf ⟨"module", "", 6, 7⟩]⟩

/-- A printing of the tree, three blanks to a level, with a title, an empty line and a comment. -/
def looseLines : List (List Char) := [
  "Parse Tree:".toList,
  "Node @7 (tag: kRoot) \x7b".toList,
  [],
  "   Leaf @007 (#\"a'b\" @2-5: \"x\") Node @0 (tag: kOther)\")".toList,
  "   Node @1 (tag: kEmpty), unfinished".toList,
  "         Node without a number".toList,
  "   Leaf @0 (#'module' @6-7: \"\")".toList,
  "\x7d".toList,
  []]

/-- The loose lines are a printing of their tree. -/
theorem parse_looseLines : 1 ≤ 3 ∧ IsPrintable looseRoot.toTree ∧
    IsPrinting 3 looseRoot.toTree.outline looseLines ∧
    parse (textOf looseLines) 3 = .ok looseRoot := by
  have hroot : IsPrintable looseRoot.toTree := by decide +kernel
  have hdigit : ∀ n < 10, Numeral.decimal n = [Text.digitChar n] := fun n hn => by
    rw [Numeral.decimal, if_pos hn]
  have hfirst : IsLineOf 3 (1, .leaf ⟨"a'b", "x\") Node @0 (tag: kOther)", 2, 5⟩)
      looseLines[3] := by
    have hline := IsLineOf.leaf (w := 3) 1 ⟨"a'b", "x\") Node @0 (tag: kOther)", 2, 5⟩
      "007".toList .double (by decide) (by decide)
    rwa [hdigit 2 (by decide), hdigit 5 (by decide)] at hline
  have hlast : IsLineOf 3 (1, .leaf ⟨"module", "", 6, 7⟩) looseLines[6] := by
    have hline := IsLineOf.leaf (w := 3) 1 ⟨"module", "", 6, 7⟩ "0".toList .single (by decide)
      (by decide)
    rwa [hdigit 6 (by decide), hdigit 7 (by decide)] at hline
  have hlines : IsPrinting 3 looseRoot.toTree.outline looseLines :=
    .stray _ (by decide) <|
    .element _ _ (.node 0 "kRoot" "7".toList " \x7b".toList (by decide) (by decide)) <|
    .stray _ (by decide) <|
    .element _ _ hfirst <|
    .element _ _ (.node 1 "kEmpty" "1".toList ", unfinished".toList (by decide) (by decide)) <|
    .stray _ (by decide) <|
    .element _ _ hlast <|
    .stray _ (by decide) <|
    .stray _ (by decide) .done
  exact ⟨by decide, hroot, hlines, (parse_printing (by decide) hroot).2 _ hlines⟩

end Dump

end FlopCensus
