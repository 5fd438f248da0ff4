import FlopCensus.Proofs.Dump.Printed
import FlopCensus.Proofs.Log
import FlopCensus.Slang.Printer
import Mathlib.Data.Int.Notation
import Mathlib.Data.List.Basic
import Mathlib.Tactic.Common

set_option autoImplicit false
set_option relaxedAutoImplicit false

/-!
# The translation of slang trees

Printing a slang tree as a dump and parsing the dump amounts to a translation of trees, which is
defined here by recursion on the tree, without any text in between. What a dimension becomes depends
on the kinds of the nodes above it.

## Main definitions

* `FlopCensus.Slang.HangsOffDeclarator` — where a dimension belongs to a declared name.
* `FlopCensus.Slang.translated`, `FlopCensus.Slang.translation` — the translation.
* `FlopCensus.Slang.Printable` — what a tree needs so that its lines stay lines of a dump.

## Main results

* `FlopCensus.Slang.shows_treeLines` — the lines of a tree show the outline of its translation.
* `FlopCensus.Slang.treeLines_isOk_iff` — a tree can be printed if its offsets can be written.
* `FlopCensus.Slang.parse_render` — the dump of a tree is parsed as its translation.

## Design

The printer passes a flag down the tree. The translation is given all kinds above a node instead,
innermost first, so that its rule for dimensions can be read off without following the flag.
-/

namespace FlopCensus.Slang

open Text Dump

/-! ### Dimensions -/

/-- Among the kinds above a node, innermost first, there is a declarator, and no type stands between
it and the node. -/
def HangsOffDeclarator (above : List String) : Prop :=
  ∃ between outer, above = between ++ declaratorKind :: outer ∧
    ∀ kind ∈ between, endsWith kind "Type" = false

/-- The flag that the printer passes down below the given kinds. -/
def flagBelow : List String → Bool
  | [] => false
  | kind :: outer => declaredBelow kind (flagBelow outer)

/-- **The flag tells whether a node hangs off a declarator.** -/
theorem flagBelow_iff (above : List String) :
    flagBelow above = true ↔ HangsOffDeclarator above := by
  induction above with
  | nil =>
    refine ⟨fun h => absurd h (by decide), ?_⟩
    rintro ⟨between, outer, h, -⟩
    simp at h
  | cons kind above ih =>
    have hstep : flagBelow (kind :: above) = true ↔
        kind = declaratorKind ∨ HangsOffDeclarator above ∧ endsWith kind "Type" = false := by
      rw [flagBelow, declaredBelow, Bool.or_eq_true, Bool.and_eq_true, ih, beq_iff_eq,
        Bool.not_eq_true']
    rw [hstep]
    constructor
    · rintro (rfl | ⟨⟨between, outer, rfl, hbetween⟩, hkind⟩)
      · exact ⟨[], above, rfl, by simp⟩
      · refine ⟨kind :: between, outer, rfl, fun k hk => ?_⟩
        rcases List.mem_cons.1 hk with rfl | hk
        · exact hkind
        · exact hbetween k hk
    · rintro ⟨between, outer, h, hbetween⟩
      cases between with
      | nil => exact Or.inl (List.cons.inj h).1
      | cons k between =>
        obtain ⟨rfl, rfl⟩ := List.cons.inj h
        exact Or.inr ⟨⟨between, outer, rfl, fun k' hk' => hbetween k' (List.mem_cons_of_mem _ hk')⟩,
          hbetween kind List.mem_cons_self⟩

instance (above : List String) : Decidable (HangsOffDeclarator above) :=
  decidable_of_iff _ (flagBelow_iff above)

/-! ### The translation -/

/-- The tag of a node below the given kinds. -/
def translatedTag (above : List String) (kind : String) : String :=
  if kind = dimensionKind then
    if HangsOffDeclarator above then "kUnpackedDimensions" else "kPackedDimensions"
  else (nodeTags.lookup kind).getD kind

/-- The tag of a token: that of its kind, or its text in which double quotes have become single ones
and which has no quotes at its ends. -/
def bareTag (t : Token) : String :=
  match tokenTags.lookup t.kind with
  | some tag => tag
  | none => String.ofList (stripBy isQuote (t.text.toList.map fun c => if c = '"' then '\'' else c))

/-- The token as a leaf. -/
def translatedToken (t : Token) : Leaf where
  tag := bareTag t
  text := String.ofList (t.text.toList.flatMap fun c => if c = '\n' then ['\\', 'n'] else [c])
  start := t.offset.toNat
  stop := t.offset.toNat + t.text.utf8ByteSize

/-- The token is there: it has a text, and the parser did not make it up. -/
def Token.IsShown (t : Token) : Prop :=
  t.text ≠ "" ∧ t.missing = false

instance (t : Token) : Decidable t.IsShown :=
  inferInstanceAs (Decidable (_ ∧ _))

mutual

/-- What a part of a tree becomes, given the kinds above it, innermost first. Nothing is left of an
absent part or of a token that is not there. -/
def translated (above : List String) : Tree → List FlopCensus.Tree
  | .absent => []
  | .token t => if t.IsShown then [.leaf (translatedToken t)] else []
  | .node kind children =>
    [.node (translatedTag above kind)
      (translatedParts (kind :: above) (assignmentKinds.contains kind) children)]

/-- What the parts of a node become. In an assignment the first part that is not absent gets a node
of its own. -/
def translatedParts (above : List String) (assigns : Bool) : List Tree → List FlopCensus.Tree
  | [] => []
  | .absent :: rest => translatedParts above assigns rest
  | part :: rest =>
    (if assigns then [.node "kLPValue" (translated above part)] else translated above part) ++
      translatedParts above false rest

end

/-- The translation of a tree whose root is a node. -/
def translation (kind : String) (children : List Tree) : FlopCensus.Node :=
  ⟨translatedTag [] kind, translatedParts [kind] (assignmentKinds.contains kind) children⟩

/-! ### Printable trees -/

mutual

/-- The kinds of the nodes of a tree. -/
def kinds : Tree → List String
  | .absent => []
  | .token _ => []
  | .node kind children => kind :: kindsAll children

/-- The kinds of the nodes of several trees. -/
def kindsAll : List Tree → List String
  | [] => []
  | t :: rest => kinds t ++ kindsAll rest

end

mutual

/-- The tokens of a tree. -/
def tokens : Tree → List Token
  | .absent => []
  | .token t => [t]
  | .node _ children => tokensAll children

/-- The tokens of several trees. -/
def tokensAll : List Tree → List Token
  | [] => []
  | t :: rest => tokens t ++ tokensAll rest

end

/-- A token that stays on its line: it does not start before the first byte, and its text holds no
separator of lines except line feeds, and none at all if the text is the tag. -/
structure Token.IsPrintable (t : Token) : Prop where
  offset_nonneg : 0 ≤ t.offset
  only_newlines : OnlyNewlines t.text.toList
  plain_of_untagged : tokenTags.lookup t.kind = none → IsPlain t.text.toList

/-- All kinds are words, and all tokens stay on their lines. -/
structure Printable (ks : List String) (ts : List Token) : Prop where
  isWord_of_mem : ∀ kind ∈ ks, isWord kind.toList = true
  isPrintable_of_mem : ∀ t ∈ ts, t.IsPrintable

instance (t : Token) : Decidable t.IsPrintable :=
  decidable_of_iff (0 ≤ t.offset ∧ OnlyNewlines t.text.toList ∧
      (tokenTags.lookup t.kind = none → IsPlain t.text.toList))
    ⟨fun h => ⟨h.1, h.2.1, h.2.2⟩,
      fun h => ⟨h.offset_nonneg, h.only_newlines, h.plain_of_untagged⟩⟩

instance (ks : List String) (ts : List Token) : Decidable (Printable ks ts) :=
  decidable_of_iff ((∀ kind ∈ ks, isWord kind.toList = true) ∧ ∀ t ∈ ts, t.IsPrintable)
    ⟨fun h => ⟨h.1, h.2⟩, fun h => ⟨h.isWord_of_mem, h.isPrintable_of_mem⟩⟩

/-- What is printable together is printable in parts. -/
lemma printable_append {ks ls : List String} {ts us : List Token} :
    Printable (ks ++ ls) (ts ++ us) ↔ Printable ks ts ∧ Printable ls us := by
  constructor
  · rintro ⟨hk, ht⟩
    exact ⟨⟨fun k h => hk k (List.mem_append_left _ h), fun t h => ht t (List.mem_append_left _ h)⟩,
      ⟨fun k h => hk k (List.mem_append_right _ h), fun t h => ht t (List.mem_append_right _ h)⟩⟩
  · rintro ⟨⟨hk, ht⟩, ⟨hl, hu⟩⟩
    exact ⟨fun k h => (List.mem_append.1 h).elim (hk k) (hl k),
      fun t h => (List.mem_append.1 h).elim (ht t) (hu t)⟩

/-- A printable node has a word as its kind and printable parts. -/
lemma Printable.of_node {kind : String} {children : List Tree}
    (h : Printable (kinds (.node kind children)) (tokens (.node kind children))) :
    isWord kind.toList = true ∧ Printable (kindsAll children) (tokensAll children) := by
  rw [kinds, tokens] at h
  exact ⟨h.isWord_of_mem kind List.mem_cons_self,
    ⟨fun k hk => h.isWord_of_mem k (List.mem_cons_of_mem _ hk), h.isPrintable_of_mem⟩⟩

/-! ### Single lines -/

/-- The tag of a node depends on the flag as the translation depends on the kinds above. -/
lemma nodeTag_eq_translatedTag (above : List String) (kind : String) :
    nodeTag kind (flagBelow above) = translatedTag above kind := by
  rw [nodeTag, translatedTag]
  by_cases hk : kind = dimensionKind
  · rw [if_pos (by simpa using hk), if_pos hk]
    by_cases hf : flagBelow above = true
    · rw [if_pos hf, if_pos ((flagBelow_iff above).1 hf)]
    · rw [if_neg hf, if_neg fun hd => hf ((flagBelow_iff above).2 hd)]
  · rw [if_neg (by simpa using hk), if_neg hk]

/-- What a table gives for a key is one of its entries. -/
lemma mem_of_lookup {table : List (String × String)} {key tag : String}
    (h : table.lookup key = some tag) : (key, tag) ∈ table := by
  obtain ⟨l, r, rfl, -⟩ := List.lookup_eq_some_iff.1 h
  simp

/-- The tags of the tables are words. -/
lemma isWord_of_lookup {table : List (String × String)} (h : table = nodeTags ∨ table = tokenTags)
    {key tag : String} (hl : table.lookup key = some tag) : isWord tag.toList = true := by
  have words : ∀ p ∈ nodeTags ++ tokenTags, isWord p.2.toList = true := by
    simp only [nodeTags, tokenTags, List.cons_append, List.nil_append, List.forall_mem_cons,
      List.not_mem_nil, IsEmpty.forall_iff, implies_true, and_true]
    and_intros
    all_goals exact isWord_ofList (by decide)
  refine words (key, tag) (List.mem_append.2 ?_)
  rcases h with rfl | rfl
  · exact Or.inl (mem_of_lookup hl)
  · exact Or.inr (mem_of_lookup hl)

/-- The tag of a node is a word if its kind is. -/
lemma isWord_translatedTag {kind : String} (above : List String)
    (h : isWord kind.toList = true) : isWord (translatedTag above kind).toList = true := by
  rw [translatedTag]
  split
  · split <;> decide
  · cases hl : nodeTags.lookup kind with
    | none => exact h
    | some tag => exact isWord_of_lookup (Or.inl rfl) hl

/-- Indentation is written with the blanks of the depth. -/
lemma toList_indent (w depth : ℕ) : (indent w depth).toList = spaces w depth := by
  rw [indent, String.toList_ofList, spaces, ← Int.natCast_mul, Int.toNat_natCast]

/-- The line that opens a node, from its parts. -/
lemma toList_nodeLine (w depth index : ℕ) (tag : String) : (nodeLine w depth index tag).toList =
    nodeChars (spaces w depth) (Numeral.decimal index) tag.toList " \x7b".toList := by
  simp only [nodeLine, Numeral.natText, String.toList_append, String.toList_ofList, toList_indent,
    nodeChars, List.append_assoc]
  rfl

/-- The line that closes a node, from its parts. -/
lemma toList_closingLine (w depth : ℕ) :
    (closingLine w depth).toList = spaces w depth ++ "\x7d".toList := by
  rw [closingLine, String.toList_append, toList_indent]

/-- The spelling of the tag of a token, and the tag without quotes around it. -/
def tagParts (t : Token) : Spelling × List Char :=
  match tokenTags.lookup t.kind with
  | some tag => (.word, tag.toList)
  | none => (.double, t.text.toList.map fun c => if c == '"' then '\'' else c)

/-- The tag of a token is written in its spelling. -/
lemma toList_leafTag (t : Token) : (leafTag t).toList = (tagParts t).1.write (tagParts t).2 := by
  rw [leafTag, tagParts]
  cases tokenTags.lookup t.kind with
  | some tag => rfl
  | none =>
    simp only [String.toList_append, String.toList_ofList, Spelling.write]
    rfl

/-- The tag of a token fits its spelling. -/
lemma fits_tagParts (t : Token) : (tagParts t).1.Fits (tagParts t).2 := by
  rw [tagParts]
  cases hl : tokenTags.lookup t.kind with
  | some tag => exact isWord_of_lookup (Or.inr rfl) hl
  | none =>
    intro hmem
    obtain ⟨c, -, hc⟩ := List.mem_map.1 hmem
    split at hc
    · exact absurd hc (by decide)
    · rename_i hne
      rw [hc] at hne
      exact hne rfl

/-- The tag that is read for a token. -/
lemma ofList_stripBy_tagParts (t : Token) :
    String.ofList (stripBy isQuote (tagParts t).2) = bareTag t := by
  rw [tagParts, bareTag]
  cases hl : tokenTags.lookup t.kind with
  | some tag =>
    simp only [stripBy_isQuote_of_isWord (isWord_of_lookup (Or.inr rfl) hl), String.ofList_toList]
  | none => simp only [beq_iff_eq]

/-- The tag of a printable token stays on its line. -/
lemma isPlain_tagParts {t : Token} (h : t.IsPrintable) : IsPlain (tagParts t).2 := by
  have hplain := h.plain_of_untagged
  rw [tagParts]
  cases hl : tokenTags.lookup t.kind with
  | some tag => exact isPlain_of_isWord (isWord_of_lookup (Or.inr rfl) hl)
  | none =>
    intro c hc
    obtain ⟨d, hd, rfl⟩ := List.mem_map.1 hc
    split
    · decide
    · exact hplain hl d hd

/-- The text of a printable token stays on its line. -/
lemma isPlain_leafText {t : Token} (h : t.IsPrintable) : IsPlain (leafText t).toList := by
  intro c hc
  rw [leafText, String.toList_ofList, List.mem_flatMap] at hc
  obtain ⟨d, hd, hc⟩ := hc
  by_cases hn : d = '\n'
  · rw [if_pos (by simpa using hn)] at hc
    rcases List.mem_cons.1 hc with rfl | hc
    · decide
    · rw [List.mem_singleton.1 hc]
      decide
  · rw [if_neg (by simpa using hn), List.mem_singleton] at hc
    rw [hc]
    by_contra hbreak
    exact hn (h.only_newlines d hd (by simpa using hbreak))

/-- The text of a token as it is translated. -/
lemma text_translatedToken (t : Token) : (translatedToken t).text = leafText t := by
  rw [translatedToken, leafText]
  simp only [beq_iff_eq]

/-! ### Numbers that can be written -/

/-- The offsets of a token can be written. -/
def Token.OffsetsFit (t : Token) : Prop :=
  (Numeral.decimal t.offset.natAbs).length ≤ Numeral.digitLimit ∧
    (Numeral.decimal (t.offset + t.text.utf8ByteSize).natAbs).length ≤ Numeral.digitLimit

instance (t : Token) : Decidable t.OffsetsFit :=
  inferInstanceAs (Decidable (_ ∧ _))

/-- The line of a token that is there. -/
def tokenLine (width : ℤ) (depth index : ℕ) (t : Token) : String :=
  indent width depth ++ "Leaf @" ++ Numeral.natText index ++ " (#" ++ leafTag t ++ " @" ++
    Numeral.intText t.offset ++ "-" ++ Numeral.intText (t.offset + t.text.utf8ByteSize) ++ ": \"" ++
    leafText t ++ "\")"

/-- A token that is not there has no line. -/
lemma tokenLines_of_not_isShown {width : ℤ} {depth index : ℕ} {t : Token} (h : ¬ t.IsShown) :
    tokenLines width depth index t = .ok [] := by
  have hcond : (t.text == "" || t.missing) = true := by
    by_contra hc
    rw [Bool.not_eq_true, Bool.or_eq_false_iff, beq_eq_false_iff_ne] at hc
    exact h hc
  rw [tokenLines, if_pos hcond]
  rfl

/-- A token that is there has its line, if its offsets can be written. -/
lemma tokenLines_eq_ok_iff {width : ℤ} {depth index : ℕ} {t : Token} (h : t.IsShown)
    {lines : List String} : tokenLines width depth index t = .ok lines ↔
      t.OffsetsFit ∧ lines = [tokenLine width depth index t] := by
  have hcond : ¬ (t.text == "" || t.missing) = true := by
    rw [Bool.not_eq_true, Bool.or_eq_false_iff, beq_eq_false_iff_ne]
    exact h
  rw [tokenLines, if_neg hcond, bind_eq_ok]
  constructor
  · rintro ⟨start, hstart, hrest⟩
    obtain ⟨stop, hstop, hlines⟩ := bind_eq_ok.1 hrest
    obtain ⟨hfirst, rfl⟩ := Numeral.write_eq_ok_iff.1 hstart
    obtain ⟨hlast, rfl⟩ := Numeral.write_eq_ok_iff.1 hstop
    exact ⟨⟨hfirst, hlast⟩, (Except.ok.inj hlines).symm⟩
  · rintro ⟨⟨hfirst, hlast⟩, rfl⟩
    exact ⟨_, Numeral.write_eq_ok_iff.2 ⟨hfirst, rfl⟩,
      bind_eq_ok.2 ⟨_, Numeral.write_eq_ok_iff.2 ⟨hlast, rfl⟩, rfl⟩⟩

/-- The text of a number that is not negative. -/
lemma toList_intText {i : ℤ} (h : 0 ≤ i) :
    (Numeral.intText i).toList = Numeral.decimal i.natAbs := by
  rw [Numeral.intText, if_neg (Int.not_lt.2 h), Numeral.natText, String.toList_ofList]

/-- The line of a token, from its parts. -/
lemma toList_tokenLine (w depth index : ℕ) (t : Token) : (tokenLine w depth index t).toList =
    leafChars (spaces w depth) (Numeral.decimal index) ((tagParts t).1.write (tagParts t).2)
      (Numeral.intText t.offset).toList (Numeral.intText (t.offset + t.text.utf8ByteSize)).toList
      (leafText t).toList := by
  simp only [tokenLine, Numeral.natText, String.toList_append, String.toList_ofList, toList_indent,
    toList_leafTag, leafChars, leafHead, List.append_assoc]

/-- **The lines of a token show its translation.** -/
lemma shows_tokenLines {w depth index : ℕ} {t : Token} (h : t.IsPrintable) {lines : List String}
    (hl : tokenLines w depth index t = .ok lines) : Shows w (lines.map String.toList)
      (Tree.outlineAll depth (if t.IsShown then [.leaf (translatedToken t)] else [])) := by
  by_cases hs : t.IsShown
  · obtain ⟨⟨hfirst, hlast⟩, rfl⟩ := (tokenLines_eq_ok_iff hs).1 hl
    have hstart := h.offset_nonneg
    have hstop : 0 ≤ t.offset + t.text.utf8ByteSize := by omega
    have hshows := Shows.leaf w depth (isNumeral_decimal index)
      (fits_tagParts t) (isPlain_tagParts h) hfirst hlast (isPlain_leafText h)
    have hleaf : (⟨bareTag t, leafText t, t.offset.natAbs,
        (t.offset + t.text.utf8ByteSize).natAbs⟩ : Leaf) = translatedToken t := by
      have hoffset : t.offset.natAbs = t.offset.toNat := by omega
      have hend : (t.offset + t.text.utf8ByteSize).natAbs =
          t.offset.toNat + t.text.utf8ByteSize := by omega
      rw [hoffset, hend, ← text_translatedToken]
      rfl
    rw [ofList_stripBy_tagParts, String.ofList_toList, hleaf] at hshows
    rw [List.map_singleton, toList_tokenLine, toList_intText hstart, toList_intText hstop,
      if_pos hs]
    simpa only [Tree.outlineAll, Tree.outlineFrom, List.append_nil] using hshows
  · rw [tokenLines_of_not_isShown hs] at hl
    obtain rfl := Except.ok.inj hl
    rw [if_neg hs, Tree.outlineAll]
    exact Shows.nil

/-! ### The lines of a tree -/

/-- Absent parts have no lines and do not count. -/
lemma partLines_absent (width : ℤ) (depth index : ℕ) (declared wrap : Bool) (rest : List Tree) :
    partLines width depth index declared wrap (.absent :: rest) =
      partLines width depth index declared wrap rest := by
  rw [partLines]

/-- The lines of a part that is there, and of those behind it. -/
lemma partLines_cons {width : ℤ} {depth index : ℕ} {declared wrap : Bool} {part : Tree}
    {rest : List Tree} (h : part ≠ .absent) {lines : List String} :
    partLines width depth index declared wrap (part :: rest) = .ok lines ↔
      ∃ inner ls, treeLines width (if wrap then depth + 1 else depth) (if wrap then 0 else index)
          declared part = .ok inner ∧
        partLines width depth (index + 1) declared false rest = .ok ls ∧
        lines = (if wrap then nodeLine width depth 0 "kLPValue" :: inner ++
          [closingLine width depth] else inner) ++ ls := by
  rw [partLines]
  · cases wrap with
    | false =>
      simp only [Bool.false_eq_true, if_false]
      rw [bind_eq_ok]
      refine exists_congr fun inner => ?_
      rw [bind_eq_ok, ← exists_and_left]
      refine exists_congr fun ls => and_congr_right fun _ => and_congr_right fun _ => ?_
      exact ⟨fun h => (Except.ok.inj h).symm, fun h => congrArg Except.ok h.symm⟩
    | true =>
      simp only [if_true]
      rw [bind_eq_ok]
      constructor
      · rintro ⟨inner, hinner, hrest⟩
        obtain ⟨wrapped, hwrapped, hrest⟩ := bind_eq_ok.1 hrest
        obtain ⟨ls, hls, hlines⟩ := bind_eq_ok.1 hrest
        obtain rfl := Except.ok.inj hwrapped
        exact ⟨inner, ls, hinner, hls, (Except.ok.inj hlines).symm⟩
      · rintro ⟨inner, ls, hinner, hls, rfl⟩
        exact ⟨inner, hinner, bind_eq_ok.2 ⟨_, rfl, bind_eq_ok.2 ⟨ls, hls, rfl⟩⟩⟩
  · exact h

/-- The translation of a part that is there, and of those behind it. -/
lemma translatedParts_cons (above : List String) (assigns : Bool) {part : Tree}
    (h : part ≠ .absent) (rest : List Tree) : translatedParts above assigns (part :: rest) =
      (if assigns then [.node "kLPValue" (translated above part)] else translated above part) ++
        translatedParts above false rest := by
  rw [translatedParts]
  exact h

/-- The lines around those of a node show the node. -/
lemma shows_braced {w depth index : ℕ} {tag : String} (ht : isWord tag.toList = true)
    {inner : List String} {children : List FlopCensus.Tree}
    (h : Shows w (inner.map String.toList) (Tree.outlineAll (depth + 1) children)) :
    Shows w ((nodeLine w depth index tag :: inner ++ [closingLine w depth]).map String.toList)
      (Tree.outlineAll depth [.node tag children]) := by
  have hopen := Shows.node w depth (isNumeral_decimal index) ht
    (by decide : IsPlain " \x7b".toList)
  have hlines := hopen.append (h.append (Shows.brace w depth))
  rw [String.ofList_toList] at hlines
  simpa only [List.map_append, List.map_cons, List.map_nil, toList_nodeLine, toList_closingLine,
    Tree.outlineAll, Tree.outlineFrom, List.append_nil, List.singleton_append, List.cons_append,
    List.nil_append] using hlines

mutual

/-- **The lines of a tree show the outline of its translation.** -/
theorem shows_treeLines {w : ℕ} (above : List String) (t : Tree) {depth index : ℕ}
    (h : Printable (kinds t) (tokens t)) {lines : List String}
    (hl : treeLines w depth index (flagBelow above) t = .ok lines) :
    Shows w (lines.map String.toList) (Tree.outlineAll depth (translated above t)) := by
  match t with
  | .absent =>
    rw [treeLines] at hl
    obtain rfl := Except.ok.inj hl
    rw [translated, Tree.outlineAll]
    exact Shows.nil
  | .token t =>
    rw [treeLines] at hl
    rw [translated]
    exact shows_tokenLines (h.isPrintable_of_mem t (by rw [tokens]; exact List.mem_cons_self)) hl
  | .node kind children =>
    obtain ⟨hkind, hparts⟩ := h.of_node
    rw [treeLines, bind_eq_ok] at hl
    obtain ⟨inner, hinner, hlines⟩ := hl
    obtain rfl := Except.ok.inj hlines
    rw [translated, nodeTag_eq_translatedTag]
    exact shows_braced (isWord_translatedTag above hkind)
      (shows_partLines (kind :: above) children hparts hinner)

/-- The lines of the parts of a node show the outline of their translations. -/
theorem shows_partLines {w : ℕ} (above : List String) (ts : List Tree) {depth index : ℕ}
    {assigns : Bool} (h : Printable (kindsAll ts) (tokensAll ts)) {lines : List String}
    (hl : partLines w depth index (flagBelow above) assigns ts = .ok lines) :
    Shows w (lines.map String.toList)
      (Tree.outlineAll depth (translatedParts above assigns ts)) := by
  match ts with
  | [] =>
    rw [partLines] at hl
    obtain rfl := Except.ok.inj hl
    rw [translatedParts, Tree.outlineAll]
    exact Shows.nil
  | part :: rest =>
    rw [kindsAll, tokensAll, printable_append] at h
    by_cases hpart : part = .absent
    · subst hpart
      rw [partLines_absent] at hl
      rw [translatedParts]
      exact shows_partLines above rest h.2 hl
    · obtain ⟨inner, ls, hinner, hls, rfl⟩ := (partLines_cons hpart).1 hl
      have hrest := shows_partLines above rest h.2 hls
      rw [translatedParts_cons above assigns hpart, Tree.outlineAll_append, List.map_append]
      refine Shows.append ?_ hrest
      cases assigns with
      | false => exact shows_treeLines above part h.1 hinner
      | true => exact shows_braced (by decide) (shows_treeLines above part h.1 hinner)

end

/-! ### What can be printed -/

/-- A token can be printed if its offsets can be written, or are not needed. -/
lemma tokenLines_isOk_iff {width : ℤ} {depth index : ℕ} {t : Token} :
    (∃ lines, tokenLines width depth index t = .ok lines) ↔ (t.IsShown → t.OffsetsFit) := by
  by_cases hs : t.IsShown
  · simp only [tokenLines_eq_ok_iff hs, hs, true_imp_iff]
    exact ⟨fun ⟨_, h, _⟩ => h, fun h => ⟨_, h, rfl⟩⟩
  · exact ⟨fun _ h => absurd h hs, fun _ => ⟨[], tokenLines_of_not_isShown hs⟩⟩

mutual

/-- **A tree can be printed if its offsets can be written**, those of its tokens that are there. -/
theorem treeLines_isOk_iff (width : ℤ) (depth index : ℕ) (declared : Bool) (t : Tree) :
    (∃ lines, treeLines width depth index declared t = .ok lines) ↔
      ∀ tok ∈ tokens t, tok.IsShown → tok.OffsetsFit := by
  match t with
  | .absent =>
    rw [treeLines, tokens]
    exact ⟨fun _ tok h => absurd h (by simp), fun _ => ⟨[], rfl⟩⟩
  | .token t =>
    rw [treeLines, tokens, tokenLines_isOk_iff]
    simp only [List.mem_singleton, forall_eq]
  | .node kind children =>
    rw [tokens, ← partLines_isOk_iff width (depth + 1) 0 (declaredBelow kind declared)
      (assignmentKinds.contains kind) children]
    simp only [treeLines, bind_eq_ok]
    constructor
    · rintro ⟨lines, inner, hinner, -⟩
      exact ⟨inner, hinner⟩
    · rintro ⟨inner, hinner⟩
      exact ⟨_, inner, hinner, rfl⟩

/-- The parts of a node can be printed if their offsets can be written. -/
theorem partLines_isOk_iff (width : ℤ) (depth index : ℕ) (declared assigns : Bool)
    (ts : List Tree) : (∃ lines, partLines width depth index declared assigns ts = .ok lines) ↔
      ∀ tok ∈ tokensAll ts, tok.IsShown → tok.OffsetsFit := by
  match ts with
  | [] =>
    rw [partLines, tokensAll]
    exact ⟨fun _ tok h => absurd h (by simp), fun _ => ⟨[], rfl⟩⟩
  | part :: rest =>
    rw [tokensAll, List.forall_mem_append]
    by_cases hpart : part = .absent
    · subst hpart
      rw [partLines_absent, partLines_isOk_iff width depth index declared assigns rest, tokens]
      simp
    · rw [← treeLines_isOk_iff width (if assigns then depth + 1 else depth)
          (if assigns then 0 else index) declared part,
        ← partLines_isOk_iff width depth (index + 1) declared false rest]
      simp only [partLines_cons hpart]
      constructor
      · rintro ⟨lines, inner, ls, hinner, hls, -⟩
        exact ⟨⟨inner, hinner⟩, ⟨ls, hls⟩⟩
      · rintro ⟨⟨inner, hinner⟩, ⟨ls, hls⟩⟩
        exact ⟨_, inner, ls, hinner, hls, rfl⟩

end

/-! ### The dump of a tree -/

/-- Lines joined by line feeds, with one more at the end, are closed by line feeds. -/
lemma toList_intercalate_newline (first : String) (lines : List String) :
    ("\n".intercalate (first :: lines) ++ "\n").toList =
      ((first :: lines).map String.toList).flatMap (· ++ ['\n']) := by
  rw [toList_intercalate_append, List.flatMap_map]
  rfl

/-- The dump of a node consists of a title and the lines of the node. -/
lemma render_eq_ok_iff {width : ℤ} {kind : String} {children : List Tree} {dump : String} :
    render width (.node kind children) = .ok dump ↔
      ∃ lines, treeLines width 0 0 false (.node kind children) = .ok lines ∧
        dump = "\n".intercalate ("Parse Tree:" :: lines) ++ "\n" := by
  rw [render, rootLines, bind_eq_ok]
  refine exists_congr fun lines => and_congr_right fun _ => ?_
  exact ⟨fun h => (Except.ok.inj h).symm, fun h => congrArg Except.ok h.symm⟩

/-- **The dump of a slang tree is parsed as the translation of the tree.** The dump can be written
if and only if the offsets of all tokens that are there can.

**Proof sketch.** By induction on the tree its lines show the outline of its translation; the flag
that the printer passes down is the one below the kinds above a node. The title shows nothing, and
a text whose lines show the outline of a tree is parsed as that tree. -/
theorem parse_render {w : ℕ} (hw : 1 ≤ w) {kind : String} {children : List Tree}
    (h : Printable (kinds (.node kind children)) (tokens (.node kind children))) :
    ((∃ dump, render w (.node kind children) = .ok dump) ↔
        ∀ t ∈ tokens (.node kind children), t.IsShown → t.OffsetsFit) ∧
      ∀ dump, render w (.node kind children) = .ok dump →
        parse dump w = .ok (translation kind children) := by
  constructor
  · rw [← treeLines_isOk_iff w 0 0 false]
    simp only [render_eq_ok_iff]
    constructor
    · rintro ⟨dump, lines, hlines, -⟩
      exact ⟨lines, hlines⟩
    · rintro ⟨lines, hlines⟩
      exact ⟨_, lines, hlines, rfl⟩
  · intro dump hdump
    obtain ⟨lines, hlines, rfl⟩ := render_eq_ok_iff.1 hdump
    have hshows := Shows.title.append (shows_treeLines [] (.node kind children) h hlines)
    refine parse_of_shows hw (toList_intercalate_newline _ _) ?_
    rw [translated] at hshows
    rw [Tree.outline, translation, Node.toTree]
    simpa only [Tree.outlineAll, List.append_nil, List.nil_append, List.singleton_append,
      List.map_cons] using hshows

/-- A declared name with a dimension, an assignment of a string that looks like a line of a dump,
and a semicolon that is not there. -/
def declarationParts : List Tree := [
  .node "Declarator" [
    .token ⟨"Identifier", "q", 0, false⟩,
    .node "VariableDimension" [.token ⟨"OpenBracket", "[", 1, false⟩]],
  .node "AssignmentExpression" [
    .absent,
    .token ⟨"Identifier", "q", 4, false⟩,
    .token ⟨"StringLiteral", "\"\")\nNode @0 (tag: k)\"", 6, false⟩],
  .token ⟨"Semicolon", ";", 28, true⟩]

/-- The dump of the declaration is parsed as its translation. -/
theorem parse_render_declaration :
    Printable (kinds (.node "CompilationUnit" declarationParts))
        (tokens (.node "CompilationUnit" declarationParts)) ∧
      ∃ dump, render 2 (.node "CompilationUnit" declarationParts) = .ok dump ∧
        parse dump 2 = .ok ⟨"kDescriptionList", [
          .node "kRegisterVariable" [
            .leaf ⟨"SymbolIdentifier", "q", 0, 1⟩,
            .node "kUnpackedDimensions" [.leaf ⟨"[", "[", 1, 2⟩]],
          .node "kBlockingAssignmentStatement" [
            .node "kLPValue" [.leaf ⟨"SymbolIdentifier", "q", 4, 5⟩],
            .leaf ⟨"TK_StringLiteral", "\"\")\\nNode @0 (tag: k)\"", 6, 27⟩]]⟩ := by
  have hprintable : Printable (kinds (.node "CompilationUnit" declarationParts))
      (tokens (.node "CompilationUnit" declarationParts)) := by decide +kernel
  have hmain := parse_render (w := 2) (by decide) hprintable
  obtain ⟨dump, hdump⟩ := hmain.1.2 (by decide +kernel)
  exact ⟨hprintable, dump, hdump, hmain.2 dump hdump⟩

end FlopCensus.Slang
