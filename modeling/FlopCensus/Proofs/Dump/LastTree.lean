import FlopCensus.Proofs.Dump.Assembly
import FlopCensus.Proofs.Dump.Entry
import FlopCensus.Proofs.Text.Line
import Mathlib.Data.List.Basic
import Mathlib.Tactic.Common

set_option autoImplicit false
set_option relaxedAutoImplicit false

/-!
# What a dump means

Any text can be read as a dump, for lines that show no element are passed over. Each line that shows
one has a level, computed from its indentation and from how many nodes the lines before left open.
The tree of the dump consists of the lines from the last node of level zero on, up to the next leaf
of level zero.

## Main definitions

* `FlopCensus.Dump.recognised` — the entries of the lines that show an element.
* `FlopCensus.Dump.OffsetsFit` — the offsets of a text are within the digit limit.
* `FlopCensus.Dump.IsLastTree` — the part of the levelled entries that makes the tree.

## Main results

* `FlopCensus.Dump.parse_eq_lastTree` — exactly the texts with a node have a tree, and its outline
  is that part of the entries.

## Design

The outline that the assembly has built so far is described from the entries seen so far
(`Describes`). There are three cases: no node was seen, the last tree is still open, or a leaf of
level zero has closed it. A step leads from each case to the one that the new entry calls for.
-/

namespace FlopCensus.Dump

/-! ### Recognised lines -/

/-- The token of a leaf line, with the values of its numerals as offsets. -/
def LeafLine.leaf (l : LeafLine) : Leaf where
  tag := String.ofList (Text.stripBy isQuote l.tag)
  text := String.ofList l.text
  start := Numeral.valueOf 10 (Numeral.digitValues l.start)
  stop := Numeral.valueOf 10 (Numeral.digitValues l.stop)

/-- The entry of a line of either kind. -/
def shown? (line : List Char) : Option Entry :=
  match nodeLine? line with
  | some (indent, tag) => some ⟨indent, .node (String.ofList tag)⟩
  | none => (leafLine? line).map fun l => ⟨l.indent, .leaf l.leaf⟩

/-- The entries of the lines of a text, lines of neither kind being passed over. -/
def recognised (text : String) : List Entry :=
  (Text.splitLines text.toList).filterMap shown?

/-- The offsets in the leaf lines of a text have no more digits than the limit allows. -/
def OffsetsFit (text : String) : Prop :=
  ∀ line ∈ Text.splitLines text.toList, ∀ l ∈ leafLine? line,
    l.start.length ≤ Numeral.digitLimit ∧ l.stop.length ≤ Numeral.digitLimit

instance (text : String) : Decidable (OffsetsFit text) :=
  inferInstanceAs (Decidable (∀ line ∈ Text.splitLines text.toList, ∀ l ∈ leafLine? line,
    l.start.length ≤ Numeral.digitLimit ∧ l.stop.length ≤ Numeral.digitLimit))

/-- The offsets of a leaf line are numerals. -/
lemma isNumeral_of_leafLine? {s : List Char} {l : LeafLine} (h : leafLine? s = some l) :
    IsNumeral l.start ∧ IsNumeral l.stop := by
  simp only [leafLine?, Option.bind_eq_bind, Option.bind_eq_some_iff] at h
  obtain ⟨_, _, _, _, _, _, _, _, _, _, start, hstart, _, _, stop, hstop, _, _, _, _, hl⟩ := h
  obtain rfl := Option.some.inj hl
  exact ⟨(of_run?_isDigit hstart).2, (of_run?_isDigit hstop).2⟩

/-- The offsets of a leaf line that respects the limit can be read. -/
lemma token_of_leafLine? {s : List Char} {l : LeafLine} (h : leafLine? s = some l)
    (hstart : l.start.length ≤ Numeral.digitLimit) (hstop : l.stop.length ≤ Numeral.digitLimit) :
    l.token = .ok l.leaf := by
  obtain ⟨hfirst, hlast⟩ := isNumeral_of_leafLine? h
  rw [LeafLine.token, offset_of_isNumeral hfirst hstart, offset_of_isNumeral hlast hstop]
  rfl

/-- Lines whose offsets respect the limit are all read. -/
lemma entries_eq_filterMap {lines : List (List Char)}
    (h : ∀ line ∈ lines, ∀ l ∈ leafLine? line,
      l.start.length ≤ Numeral.digitLimit ∧ l.stop.length ≤ Numeral.digitLimit) :
    entries lines = .ok (lines.filterMap shown?) := by
  induction lines with
  | nil => rfl
  | cons line lines ih =>
    have hrest := ih fun m hm => h m (List.mem_cons_of_mem _ hm)
    have hread : readLine line = .ok (shown? line) := by
      rw [readLine, shown?]
      cases nodeLine? line with
      | some found => rfl
      | none =>
        cases hl : leafLine? line with
        | none => rfl
        | some l =>
          obtain ⟨hstart, hstop⟩ := h line List.mem_cons_self l (Option.mem_def.2 hl)
          simp only [token_of_leafLine? hl hstart hstop]
          rfl
    rw [entries, hread, List.filterMap_cons]
    cases shown? line with
    | none => exact hrest
    | some e =>
      simp only [bind, Except.bind, hrest]
      rfl

/-! ### The last tree -/

/-- `outline` is the part of the levelled entries from the last node of level zero up to the next
leaf of level zero, or to the end if there is none. -/
def IsLastTree (levels outline : List (ℕ × Element)) : Prop :=
  ∃ before tag inner after, levels = before ++ (0, .node tag) :: inner ++ after ∧
    outline = (0, .node tag) :: inner ∧
    (∀ x ∈ inner, x.1 ≠ 0) ∧ (∀ x ∈ after, x.1 = 0 → x.2.isNode = false) ∧
    (after = [] ∨ ∃ token rest, after = (0, .leaf token) :: rest)

/-- What the entries seen so far say about the view of the assembly. -/
inductive Describes : List (ℕ × Element) → View → Prop where
  /-- No node was seen. -/
  | empty (seen : List (ℕ × Element)) (h : ∀ x ∈ seen, x.2.isNode = false) :
      Describes seen ⟨0, []⟩
  /-- The last tree goes on. -/
  | unclosed (before : List (ℕ × Element)) (tag : String) (inner : List (ℕ × Element))
      (h : ∀ x ∈ inner, x.1 ≠ 0) (opened : ℕ) :
      Describes (before ++ (0, .node tag) :: inner) ⟨opened, (0, .node tag) :: inner⟩
  /-- A leaf of level zero has closed the last tree. -/
  | closed (before : List (ℕ × Element)) (tag : String) (inner : List (ℕ × Element))
      (h : ∀ x ∈ inner, x.1 ≠ 0) (token : Leaf) (rest : List (ℕ × Element))
      (hrest : ∀ x ∈ rest, x.2.isNode = false) :
      Describes (before ++ (0, .node tag) :: inner ++ (0, .leaf token) :: rest)
        ⟨0, (0, .node tag) :: inner⟩

/-- **One more entry keeps the description.** -/
theorem Describes.add {seen : List (ℕ × Element)} {v : View} (h : Describes seen v) {level : ℕ}
    (hlevel : level ≤ v.opened) (e : Element) :
    Describes (seen ++ [(level, e)]) (v.add level e) := by
  -- a node of level zero starts the last tree anew, whatever was seen before
  have hroot : ∀ tag (u : View), Describes (seen ++ [(0, .node tag)]) (u.add 0 (.node tag)) :=
    fun tag u => .unclosed seen tag [] (by simp) 1
  cases h with
  | empty seen h =>
    obtain rfl : level = 0 := Nat.le_zero.1 hlevel
    cases e with
    | node tag => exact hroot tag _
    | leaf token =>
      exact .empty _ (List.forall_mem_append.2 ⟨h, List.forall_mem_singleton.2 rfl⟩)
  | unclosed before tag inner h opened =>
    rcases Nat.eq_zero_or_pos level with rfl | hpos
    · cases e with
      | node tag' => exact hroot tag' _
      | leaf token => exact .closed before tag inner h token [] (by simp)
    · have hinner : ∀ x ∈ inner ++ [(level, e)], x.1 ≠ 0 :=
        List.forall_mem_append.2 ⟨h, List.forall_mem_singleton.2 (Nat.ne_of_gt hpos)⟩
      rw [View.add, if_neg (Nat.ne_of_gt hpos), List.append_assoc]
      exact .unclosed before tag (inner ++ [(level, e)]) hinner _
  | closed before tag inner h token rest hrest =>
    obtain rfl : level = 0 := Nat.le_zero.1 hlevel
    cases e with
    | node tag' => exact hroot tag' _
    | leaf token' =>
      have hrest' : ∀ x ∈ rest ++ [(0, Element.leaf token')], x.2.isNode = false :=
        List.forall_mem_append.2 ⟨hrest, List.forall_mem_singleton.2 rfl⟩
      rw [List.append_assoc]
      exact .closed before tag inner h token (rest ++ [(0, .leaf token')]) hrest'

/-- **A run keeps the description.** -/
theorem Describes.addAll (w : ℕ) (es : List Entry) {seen : List (ℕ × Element)} {v : View}
    (h : Describes seen v) :
    Describes (seen ++ levelled w v.opened es) (v.addAll (levelled w v.opened es)) := by
  induction es generalizing seen v with
  | nil =>
    rw [levelled, List.append_nil]
    exact h
  | cons e es ih =>
    have hstep := h.add (Nat.min_le_right (e.indent / w) v.opened) e.element
    have hrun := ih hstep
    rw [List.append_assoc] at hrun
    exact hrun

/-- The levels change nothing about the elements. -/
lemma map_snd_levelled (w opened : ℕ) (es : List Entry) :
    (levelled w opened es).map Prod.snd = es.map Entry.element := by
  induction es generalizing opened with
  | nil => rfl
  | cons e es ih => rw [levelled, List.map_cons, List.map_cons, ih]

/-- The entries hold a node exactly if the levelled ones do. -/
lemma forall_levelled_isNode {w opened : ℕ} {es : List Entry} :
    (∀ x ∈ levelled w opened es, x.2.isNode = false) ↔ ∀ e ∈ es, e.element.isNode = false := by
  have hiff := @List.forall_mem_map _ _ Prod.snd (levelled w opened es)
    (fun e => e.isNode = false)
  rw [map_snd_levelled, List.forall_mem_map] at hiff
  exact hiff.symm

/-- An outline is empty exactly if no node was seen, and otherwise the last tree. -/
lemma Describes.outline {seen : List (ℕ × Element)} {v : View} (h : Describes seen v) :
    v.outline = [] ∧ (∀ x ∈ seen, x.2.isNode = false) ∨
      v.outline ≠ [] ∧ (∃ x ∈ seen, x.2.isNode = true) ∧ IsLastTree seen v.outline := by
  cases h with
  | empty seen h => exact Or.inl ⟨rfl, h⟩
  | unclosed before tag inner h opened =>
    refine Or.inr ⟨List.cons_ne_nil _ _, ⟨(0, .node tag), by simp, rfl⟩, ?_⟩
    exact ⟨before, tag, inner, [], by simp, rfl, h, by simp, Or.inl rfl⟩
  | closed before tag inner h token rest hrest =>
    refine Or.inr ⟨List.cons_ne_nil _ _, ⟨(0, .node tag), by simp, rfl⟩, ?_⟩
    refine ⟨before, tag, inner, (0, .leaf token) :: rest, rfl, rfl, h, fun x hx _ => ?_,
      Or.inr ⟨token, rest, rfl⟩⟩
    rcases List.mem_cons.1 hx with rfl | hx
    · rfl
    · exact hrest x hx

/-- **What a dump means.** Let the lines of a text that show an element be levelled: the level of a
line is that of its indentation, but at most the number of nodes left open before it, which is one
more than the level behind a node and the level itself behind a leaf. There is no tree exactly if
none of the lines is a node. Otherwise the elements of the tree in document order, with their
depths, are the lines from the last node of level zero up to the next leaf of level zero.

**Proof sketch.** The run of the assembly is seen through its outline (`view_foldl_addEntry`), which
the levelled entries describe throughout (`Describes.addAll`). -/
theorem parse_eq_lastTree {text : String} {w : ℕ} (hw : 1 ≤ w) (h : OffsetsFit text) :
    (parse text w = .error .noNodes ↔ ∀ e ∈ recognised text, e.element.isNode = false) ∧
      ((∃ e ∈ recognised text, e.element.isNode = true) → ∃ root, parse text w = .ok root ∧
        IsLastTree (levelled w 0 (recognised text)) root.toTree.outline) := by
  have hrun := Describes.addAll w (recognised text) (.empty [] (by simp))
  rw [List.nil_append] at hrun
  have hparse := parse_eq_bind hw text
  rw [entries_eq_filterMap h] at hparse
  have hresult := result_foldl_addEntry w (recognised text)
  rw [recognised] at hresult
  simp only [Except.bind] at hparse
  generalize (((Text.splitLines text.toList).filterMap shown?).foldl (Progress.addEntry w)
    .initial).result = found at hparse hresult
  rw [← recognised] at hresult
  -- a tree has an outline that is not empty, so there is one exactly if a node was seen
  rcases hrun.outline with ⟨hnil, hleaves⟩ | ⟨hne, ⟨x, hx, hnode⟩, hlast⟩
  · have hall := forall_levelled_isNode.1 hleaves
    cases found with
    | none =>
      refine ⟨⟨fun _ => hall, fun _ => hparse⟩, ?_⟩
      rintro ⟨e, he, hnode⟩
      rw [hall e he] at hnode
      cases hnode
    | some root =>
      rw [hnil, Option.map_some, Option.getD_some, Node.toTree, Tree.outline_node] at hresult
      cases hresult
  · cases found with
    | none => exact absurd hresult.symm hne
    | some root =>
      rw [Option.map_some, Option.getD_some] at hresult
      refine ⟨⟨fun herror => ?_, fun hall => ?_⟩, fun _ => ⟨root, hparse, hresult ▸ hlast⟩⟩
      · rw [hparse] at herror
        cases herror
      · rw [forall_levelled_isNode.2 hall x hx] at hnode
        cases hnode

/-- Texts that are given by their characters consist of them. -/
lemma map_toList_map_ofList (lines : List (List Char)) :
    (lines.map String.ofList).map String.toList = lines := by
  rw [List.map_map]
  exact (List.map_congr_left fun l _ => String.toList_ofList).trans (List.map_id lines)

/-- Lines of a dump in which a leaf comes first, a root follows another, indentation jumps, and the
last tree is followed by a leaf. -/
def strayLines : List String := [
  "Leaf @0 (#'x' @0-1: \"x\")",
  "Node @0 (tag: kOld)",
  "Node @1 (tag: kNew)",
  "      Leaf @0 (#y @1-2: \"y\")",
  "Leaf @2 (#z @2-3: \"z\")"]

/-- The dump that consists of the stray lines. -/
def strayDump : String :=
  String.ofList ((strayLines.map String.toList).flatMap (· ++ ['\n']))

/-- The last tree of the stray dump. -/
theorem parse_strayDump : OffsetsFit strayDump ∧ ∃ root, parse strayDump 2 = .ok root ∧
    IsLastTree [(0, .leaf ⟨"x", "x", 0, 1⟩), (0, .node "kOld"), (0, .node "kNew"),
      (1, .leaf ⟨"y", "y", 1, 2⟩), (0, .leaf ⟨"z", "z", 2, 3⟩)] root.toTree.outline := by
  obtain ⟨lines, htexts, hplain, hoffsets, hshown⟩ : ∃ lines, strayLines.map String.toList = lines ∧
      ((∀ l ∈ lines, Text.IsPlain l) ∧ ∀ l ∈ lines, l ≠ []) ∧
      (∀ line ∈ lines, ∀ l ∈ leafLine? line,
        l.start.length ≤ Numeral.digitLimit ∧ l.stop.length ≤ Numeral.digitLimit) ∧
      lines.filterMap shown? = [⟨0, .leaf ⟨"x", "x", 0, 1⟩⟩, ⟨0, .node "kOld"⟩,
        ⟨0, .node "kNew"⟩, ⟨6, .leaf ⟨"y", "y", 1, 2⟩⟩, ⟨0, .leaf ⟨"z", "z", 2, 3⟩⟩] :=
    ⟨_, map_toList_map_ofList [_, _, _, _, _], by decide +kernel⟩
  have hlines : Text.splitLines strayDump.toList = lines := by
    rw [strayDump, String.toList_ofList, htexts]
    exact Text.splitLines_joined_of_isPlain hplain.1 hplain.2
  have hfit : OffsetsFit strayDump := by
    rw [OffsetsFit, hlines]
    exact hoffsets
  have hmain := parse_eq_lastTree (w := 2) (by decide) hfit
  rw [recognised, hlines, hshown] at hmain
  obtain ⟨root, hroot, hlast⟩ := hmain.2 (by decide)
  exact ⟨hfit, root, hroot, hlast⟩

end FlopCensus.Dump
