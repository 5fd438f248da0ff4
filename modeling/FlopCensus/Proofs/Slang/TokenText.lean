import FlopCensus.Proofs.Dump.Shape
import FlopCensus.Proofs.Slang.Translation
import Mathlib.Data.Int.Notation
import Mathlib.Data.List.Basic
import Mathlib.Tactic.Common

set_option autoImplicit false
set_option relaxedAutoImplicit false

/-!
# What the text of a token can do to a dump

The text of a token is printed as it stands, line feeds apart, and dumps are cut at other characters
too. A string literal may therefore end its line early, and what is left of it stands on lines of
its own. It does no harm exactly if its own line still closes a leaf and the other lines say
nothing.

## Main definitions

* `FlopCensus.Slang.Context` — a slang tree with a hole.
* `FlopCensus.Slang.Contained` — a text that says nothing beyond its leaf.
* `FlopCensus.Slang.Harmless` — a text that changes no dump beyond its leaf.

## Main results

* `FlopCensus.Slang.contained_of_only_newlines` — a text without other separators is contained.
* `FlopCensus.Slang.harmless_iff_contained` — the harmless texts are the contained ones.
* `FlopCensus.Slang.not_sameShape_module` — a string literal that removes a module.

## Design

A text that is not contained is put at the bottom of a tower of nodes, next to another token. If the
tower is deep enough, the lines that the text adds all belong further up, so that the other token
cannot be at its depth any more.
-/

namespace FlopCensus.Slang

open Text Dump

/-! ### Trees with a hole -/

/-- A tree in which one part is left open. -/
inductive Context where
  /-- The open part. -/
  | hole
  /-- A node, of which one part holds the open one. -/
  | node (kind : String) (before : List Tree) (inside : Context) (after : List Tree)

/-- The tree with the open part filled in. -/
def Context.fill : Context → Tree → Tree
  | .hole, t => t
  | .node kind before inside after, t => .node kind (before ++ inside.fill t :: after)

/-- A string literal. -/
def literal (text : String) (offset : ℤ) (missing : Bool) : Token :=
  ⟨"StringLiteral", text, offset, missing⟩

/-- A token is not absent. -/
lemma token_ne_absent (t : Token) : Tree.token t ≠ .absent := nofun

/-- A part with a token in it is not absent. -/
lemma Context.fill_token_ne_absent (c : Context) (t : Token) : c.fill (.token t) ≠ .absent := by
  cases c with
  | hole => exact token_ne_absent t
  | node kind before inside after => nofun

/-- The lines are equal but for those of a token, which is one in some and another one in the
others. -/
def TokenApart (width : ℤ) (s t : Token) (ls ms : List String) : Prop :=
  ∃ before depth index l m after, tokenLines width depth index s = .ok l ∧
    tokenLines width depth index t = .ok m ∧ ls = before ++ (l ++ after) ∧
    ms = before ++ (m ++ after)

/-- The same lines may stand in front and behind. -/
lemma TokenApart.between {width : ℤ} {s t : Token} {ls ms : List String}
    (h : TokenApart width s t ls ms) (front back : List String) :
    TokenApart width s t (front ++ (ls ++ back)) (front ++ (ms ++ back)) := by
  obtain ⟨before, depth, index, l, m, after, hl, hm, rfl, rfl⟩ := h
  exact ⟨front ++ before, depth, index, l, m, after ++ back, hl, hm, by simp, by simp⟩

/-- The lines of the parts of a node, two of which are apart in a token. -/
lemma partLines_apart {width : ℤ} {s t : Token} {p q : Tree} (hp : p ≠ .absent) (hq : q ≠ .absent)
    {declared : Bool} (h : ∀ {depth index ls ms}, treeLines width depth index declared p = .ok ls →
      treeLines width depth index declared q = .ok ms → TokenApart width s t ls ms)
    (before after : List Tree) {depth index : ℕ} {wrap : Bool} {ls ms : List String}
    (hls : partLines width depth index declared wrap (before ++ p :: after) = .ok ls)
    (hms : partLines width depth index declared wrap (before ++ q :: after) = .ok ms) :
    TokenApart width s t ls ms := by
  induction before generalizing index wrap ls ms with
  | nil =>
    obtain ⟨inner, rest, hinner, hrest, rfl⟩ := (partLines_cons hp).1 hls
    obtain ⟨inner', rest', hinner', hrest', rfl⟩ := (partLines_cons hq).1 hms
    obtain rfl : rest = rest' := Except.ok.inj (hrest.symm.trans hrest')
    have hapart := h hinner hinner'
    cases wrap with
    | false => exact hapart.between [] rest
    | true =>
      have := hapart.between [nodeLine width depth 0 "kLPValue"] ([closingLine width depth] ++ rest)
      simpa using this
  | cons b before ih =>
    -- a part that is absent has no lines
    by_cases hb : b = .absent
    · subst hb
      rw [List.cons_append, partLines_absent] at hls hms
      exact ih hls hms
    · obtain ⟨inner, rest, hinner, hrest, rfl⟩ := (partLines_cons hb).1 hls
      obtain ⟨inner', rest', hinner', hrest', rfl⟩ := (partLines_cons hb).1 hms
      obtain rfl : inner = inner' := Except.ok.inj (hinner.symm.trans hinner')
      have := (ih hrest hrest').between (if wrap then nodeLine width depth 0 "kLPValue" :: inner ++
        [closingLine width depth] else inner) []
      simpa using this

/-- **Trees that are apart in a token have lines that are apart in that token.** -/
theorem treeLines_fill {width : ℤ} {s t : Token} (c : Context) {depth index : ℕ} {declared : Bool}
    {ls ms : List String} (hls : treeLines width depth index declared (c.fill (.token s)) = .ok ls)
    (hms : treeLines width depth index declared (c.fill (.token t)) = .ok ms) :
    TokenApart width s t ls ms := by
  induction c generalizing depth index declared ls ms with
  | hole =>
    rw [Context.fill, treeLines] at hls hms
    exact ⟨[], depth, index, ls, ms, [], hls, hms, by simp, by simp⟩
  | node kind before inside after ih =>
    rw [Context.fill, treeLines, bind_eq_ok] at hls hms
    obtain ⟨body, hbody, hlines⟩ := hls
    obtain ⟨body', hbody', hlines'⟩ := hms
    obtain rfl := Except.ok.inj hlines
    obtain rfl := Except.ok.inj hlines'
    have hapart := partLines_apart (inside.fill_token_ne_absent s) (inside.fill_token_ne_absent t)
      ih before after hbody hbody'
    exact hapart.between [nodeLine width depth index (nodeTag kind declared)]
      [closingLine width depth]

/-! ### Printed lines end in a line -/

/-- The line that opens a node does not end in a separator. -/
lemma endsInLine_nodeLine (width : ℤ) (depth index : ℕ) (tag : String) :
    EndsInLine (nodeLine width depth index tag).toList := by
  rw [nodeLine, String.toList_append]
  exact EndsInLine.append ⟨") ".toList, '\x7b', by decide, rfl⟩ _

/-- The line that closes a node does not end in a separator. -/
lemma endsInLine_closingLine (width : ℤ) (depth : ℕ) :
    EndsInLine (closingLine width depth).toList := by
  rw [closingLine, String.toList_append]
  exact EndsInLine.append ⟨[], '\x7d', by decide, rfl⟩ _

/-- The lines of a token do not end in a separator. -/
lemma endsInLine_tokenLines {width : ℤ} {depth index : ℕ} {t : Token} {lines : List String}
    (h : tokenLines width depth index t = .ok lines) : ∀ l ∈ lines, EndsInLine l.toList := by
  intro l hl
  by_cases hs : t.IsShown
  · obtain ⟨-, rfl⟩ := (tokenLines_eq_ok_iff hs).1 h
    rw [List.mem_singleton.1 hl, tokenLine, String.toList_append]
    exact EndsInLine.append ⟨['"'], ')', by decide, rfl⟩ _
  · rw [tokenLines_of_not_isShown hs] at h
    obtain rfl := Except.ok.inj h
    cases hl

/-- Lines around others do not end in a separator if the others do not. -/
lemma endsInLine_braced {width : ℤ} {depth index : ℕ} {tag : String} {inner : List String}
    (h : ∀ l ∈ inner, EndsInLine l.toList) :
    ∀ l ∈ nodeLine width depth index tag :: inner ++ [closingLine width depth],
      EndsInLine l.toList := by
  refine List.forall_mem_append.2 ⟨List.forall_mem_cons.2 ⟨?_, h⟩, ?_⟩
  · exact endsInLine_nodeLine width depth index tag
  · exact List.forall_mem_singleton.2 (endsInLine_closingLine width depth)

mutual

/-- **No line of a tree ends in a separator**, whatever the texts of its tokens are. -/
theorem endsInLine_treeLines {width : ℤ} (t : Tree) {depth index : ℕ} {declared : Bool}
    {lines : List String} (h : treeLines width depth index declared t = .ok lines) :
    ∀ l ∈ lines, EndsInLine l.toList := by
  match t with
  | .absent =>
    rw [treeLines] at h
    obtain rfl := Except.ok.inj h
    exact fun l hl => absurd hl List.not_mem_nil
  | .token t =>
    rw [treeLines] at h
    exact endsInLine_tokenLines h
  | .node kind children =>
    rw [treeLines, bind_eq_ok] at h
    obtain ⟨inner, hinner, hlines⟩ := h
    obtain rfl := Except.ok.inj hlines
    exact endsInLine_braced (endsInLine_partLines children hinner)

/-- No line of the parts of a node ends in a separator. -/
theorem endsInLine_partLines {width : ℤ} (ts : List Tree) {depth index : ℕ} {declared wrap : Bool}
    {lines : List String} (h : partLines width depth index declared wrap ts = .ok lines) :
    ∀ l ∈ lines, EndsInLine l.toList := by
  match ts with
  | [] =>
    rw [partLines] at h
    obtain rfl := Except.ok.inj h
    exact fun l hl => absurd hl List.not_mem_nil
  | part :: rest =>
    by_cases hpart : part = .absent
    · subst hpart
      rw [partLines_absent] at h
      exact endsInLine_partLines rest h
    · obtain ⟨inner, ls, hinner, hls, rfl⟩ := (partLines_cons hpart).1 h
      have hfirst := endsInLine_treeLines part hinner
      have hrest := endsInLine_partLines rest hls
      intro l hl
      rcases List.mem_append.1 hl with hl | hl
      · cases wrap with
        | false => exact hfirst l hl
        | true => exact endsInLine_braced hfirst l hl
      · exact hrest l hl

end

/-- The lines that a dump is cut into are those that its printed lines are cut into. -/
lemma splitLines_dump {width : ℤ} {t : Tree} {lines : List String}
    (h : treeLines width 0 0 false t = .ok lines) :
    splitLines ("\n".intercalate ("Parse Tree:" :: lines) ++ "\n").toList =
      "Parse Tree:".toList :: (lines.map String.toList).flatMap splitLines := by
  have hends : ∀ l ∈ ("Parse Tree:" :: lines).map String.toList, EndsInLine l := by
    intro l hl
    obtain ⟨m, hm, rfl⟩ := List.mem_map.1 hl
    rcases List.mem_cons.1 hm with rfl | hm
    · exact ⟨"Parse Tree".toList, ':', by decide, rfl⟩
    · exact endsInLine_treeLines t h m hm
  rw [toList_intercalate_newline, splitLines_joined hends, List.map_cons, List.flatMap_cons,
    splitLines_of_isPlain (by decide) (by decide), List.singleton_append]

/-! ### Contained texts -/

/-- The pieces that the end of a leaf line is cut into, from the text of its token on. -/
def textPieces (text : String) : List (List Char) :=
  splitLines ((text.toList.flatMap fun c => if c = '\n' then ['\\', 'n'] else [c]) ++
    "\")".toList)

/-- The text says nothing beyond its leaf: what is left of it on the first line still closes the
leaf, and the other lines say nothing about the tree. -/
def Contained (text : String) : Prop :=
  ∃ first more, textPieces text = first :: more ∧ leafText? first ≠ none ∧
    ∀ line ∈ more, readLine line = .ok none

instance (text : String) : Decidable (Contained text) :=
  match h : textPieces text with
  | [] => isFalse fun ⟨_, _, hpieces, _⟩ => List.cons_ne_nil _ _ (hpieces.symm.trans h)
  | first :: more =>
    decidable_of_iff (leafText? first ≠ none ∧ ∀ line ∈ more, readLine line = .ok none)
      ⟨fun hc => ⟨first, more, h, hc⟩, fun ⟨_, _, hpieces, hc⟩ => by
        obtain ⟨rfl, rfl⟩ := List.cons.inj (h.symm.trans hpieces)
        exact hc⟩

/-- There is a first piece. -/
lemma exists_textPieces (text : String) : ∃ first more, textPieces text = first :: more := by
  have hne : textPieces text ≠ [] := splitLines_ne_nil (by simp)
  exact List.exists_cons_of_ne_nil hne

/-- **A text that holds no separators except line feeds is contained.** -/
theorem contained_of_only_newlines {text : String} (h : OnlyNewlines text.toList) :
    Contained text := by
  refine ⟨_, [], splitLines_of_isPlain ?_ (by simp), ?_, by simp⟩
  · refine isPlain_append.2 ⟨fun c hc => ?_, by decide⟩
    obtain ⟨d, hd, hc⟩ := List.mem_flatMap.1 hc
    split at hc
    · simp only [List.mem_cons, List.not_mem_nil, or_false] at hc
      rcases hc with rfl | rfl <;> decide
    · rename_i hn
      rw [List.mem_singleton.1 hc]
      by_contra hbreak
      exact hn (h d hd (by simpa using hbreak))
  · rw [leafText?_append]
    simp

/-- The end of a leaf line stands behind its head. -/
lemma leafHead_append (blanks index tag start stop rest : List Char) :
    leafHead blanks index tag start stop rest =
      leafHead blanks index tag start stop [] ++ rest := by
  simp only [leafHead, List.append_assoc, List.append_nil]

/-- A written number stays on its line. -/
lemma isPlain_intText (i : ℤ) : IsPlain (Numeral.intText i).toList := by
  have hdigits : IsPlain (Numeral.natText i.natAbs).toList := by
    rw [Numeral.natText, String.toList_ofList]
    exact (isNumeral_decimal _).isPlain
  rw [Numeral.intText]
  split
  · rw [String.toList_append]
    exact isPlain_append.2 ⟨by decide, hdigits⟩
  · exact hdigits

section Literal

variable (w depth index : ℕ) (text : String) (offset : ℤ) (missing : Bool)

/-- The line of a string literal up to its text, and then the text. -/
def literalHead (rest : List Char) : List Char :=
  leafHead (spaces w depth) (Numeral.decimal index) "TK_StringLiteral".toList
    (Numeral.intText offset).toList (Numeral.intText (offset + text.utf8ByteSize)).toList rest

/-- The line of a string literal is its head, its text and the end. -/
lemma toList_tokenLine_literal :
    (tokenLine w depth index (literal text offset missing)).toList =
      literalHead w depth index text offset ((text.toList.flatMap fun c =>
        if c = '\n' then ['\\', 'n'] else [c]) ++ "\")".toList) := by
  rw [toList_tokenLine, leafChars, leafText, String.toList_ofList]
  simp only [beq_iff_eq]
  rfl

/-- The head of the line stays on its line. -/
lemma isPlain_literalHead : IsPlain (literalHead w depth index text offset []) := by
  simp [literalHead, leafHead, (isNumeral_decimal _).isPlain, isPlain_intText, isLineBreak]

/-- The line of a string literal is cut into the pieces of its text, the head being in front of the
first one. -/
lemma splitLines_tokenLine_literal {first : List Char} {more : List (List Char)}
    (h : textPieces text = first :: more) :
    splitLines (tokenLine w depth index (literal text offset missing)).toList =
      literalHead w depth index text offset first :: more := by
  have hpieces := splitLines_plain_append (isPlain_literalHead w depth index text offset) h
  rw [toList_tokenLine_literal, literalHead, leafHead_append]
  rw [literalHead] at hpieces
  rw [hpieces, ← leafHead_append, literalHead]

variable {w depth index text offset missing}

/-- The tag of string literals is a word. -/
lemma isWord_literalTag : isWord "TK_StringLiteral".toList = true :=
  isWord_ofList (by decide)

/-- The first line of a string literal is a leaf if its end closes one. -/
lemma readLine_literalHead (hoffset : 0 ≤ offset)
    (hfit : (literal text offset missing).OffsetsFit) (first : List Char) :
    readLine (literalHead w depth index text offset first) =
      .ok ((leafText? first).map fun t => ⟨w * depth, .leaf ⟨"TK_StringLiteral", String.ofList t,
        offset.natAbs, (offset + text.utf8ByteSize).natAbs⟩⟩) := by
  have hstop : 0 ≤ offset + text.utf8ByteSize := by omega
  have hleaf := leafLine?_leafHead (s := .word) (isBlank_of_mem_spaces w depth)
    (isNumeral_decimal index) isWord_literalTag (isNumeral_decimal offset.natAbs)
    (isNumeral_decimal (offset + text.utf8ByteSize).natAbs) first
  rw [literalHead, toList_intText hoffset, toList_intText hstop, readLine,
    nodeLine?_leafHead (isBlank_of_mem_spaces w depth)]
  rw [Spelling.write] at hleaf
  rw [hleaf]
  obtain ⟨hfirst, hlast⟩ : (Numeral.decimal offset.natAbs).length ≤ Numeral.digitLimit ∧
      (Numeral.decimal (offset + text.utf8ByteSize).natAbs).length ≤ Numeral.digitLimit := hfit
  have htag : stripBy isQuote "TK_StringLiteral".toList = "TK_StringLiteral".toList :=
    stripBy_isQuote_of_isWord isWord_literalTag
  cases leafText? first with
  | none => rfl
  | some t =>
    simp only [Option.map_some, LeafLine.token, offset_decimal hfirst, offset_decimal hlast,
      length_spaces, htag, String.ofList_toList]
    rfl

/-- The first line of a string literal that starts before the first byte is no leaf. -/
lemma readLine_literalHead_of_neg (hoffset : offset < 0) (first : List Char) :
    readLine (literalHead w depth index text offset first) = .ok none := by
  have hstart : ∃ digits, (Numeral.intText offset).toList = '-' :: digits := by
    refine ⟨(Numeral.natText offset.natAbs).toList, ?_⟩
    rw [Numeral.intText, if_pos hoffset, String.toList_append]
    rfl
  obtain ⟨digits, hdigits⟩ := hstart
  have hleaf := leafLine?_upTo_start (s := .word) (isBlank_of_mem_spaces w depth)
    (isNumeral_decimal index) isWord_literalTag ('-' :: digits)
  rw [Spelling.write] at hleaf
  rw [literalHead, hdigits, readLine, nodeLine?_leafHead (isBlank_of_mem_spaces w depth),
    leafHead, hleaf]
  rfl

/-- Lines that say nothing have no entries. -/
lemma entries_eq_nil_iff {lines : List (List Char)} :
    entries lines = .ok [] ↔ ∀ line ∈ lines, readLine line = .ok none := by
  induction lines with
  | nil => exact ⟨fun _ l hl => absurd hl List.not_mem_nil, fun _ => rfl⟩
  | cons line lines ih =>
    rw [List.forall_mem_cons, ← ih, entries]
    cases readLine line with
    | error e => simp [bind, Except.bind]
    | ok found =>
      cases found with
      | none => simp [bind, Except.bind]
      | some e =>
        cases entries lines <;> simp [bind, Except.bind, pure, Except.pure]

/-- **Contained texts say the same but for the text and the bytes of their leaf.** -/
theorem sayAlike_of_contained {text' : String} (h : Contained text) (h' : Contained text')
    (hfit : (literal text offset missing).OffsetsFit)
    (hfit' : (literal text' offset missing).OffsetsFit) :
    SayAlike (splitLines (tokenLine w depth index (literal text offset missing)).toList)
      (splitLines (tokenLine w depth index (literal text' offset missing)).toList) := by
  obtain ⟨first, more, hpieces, hleaf, hmore⟩ := h
  obtain ⟨first', more', hpieces', hleaf', hmore'⟩ := h'
  rw [splitLines_tokenLine_literal _ _ _ _ _ _ hpieces,
    splitLines_tokenLine_literal _ _ _ _ _ _ hpieces']
  -- a negative offset is written with a sign, and then the line says nothing
  rcases Int.lt_or_le offset 0 with hneg | hoffset
  · refine Or.inl ⟨[], ?_, ?_⟩
    · exact entries_eq_nil_iff.2
        (List.forall_mem_cons.2 ⟨readLine_literalHead_of_neg hneg _, hmore⟩)
    · exact entries_eq_nil_iff.2
        (List.forall_mem_cons.2 ⟨readLine_literalHead_of_neg hneg _, hmore'⟩)
  · obtain ⟨t, ht⟩ := Option.ne_none_iff_exists'.1 hleaf
    obtain ⟨t', ht'⟩ := Option.ne_none_iff_exists'.1 hleaf'
    refine Or.inr ⟨w * depth, ⟨"TK_StringLiteral", String.ofList t, offset.natAbs,
      (offset + text.utf8ByteSize).natAbs⟩, ⟨"TK_StringLiteral", String.ofList t', offset.natAbs,
      (offset + text'.utf8ByteSize).natAbs⟩, rfl, ?_, ?_⟩
    · rw [entries, readLine_literalHead hoffset hfit, ht, entries_eq_nil_iff.2 hmore]
      rfl
    · rw [entries, readLine_literalHead hoffset hfit', ht', entries_eq_nil_iff.2 hmore']
      rfl

end Literal

/-! ### Harmless texts -/

/-- Wherever a string literal with the text stands, and whatever the other tokens are, the dump is
parsed as for a contained text: as the same tree but for the text and the bytes of that leaf. -/
def Harmless (w : ℕ) (text : String) : Prop :=
  ∀ (c : Context) (offset : ℤ) (missing : Bool) (other : String), other ≠ "" → Contained other →
    ∀ dump dump', render w (c.fill (.token (literal text offset missing))) = .ok dump →
      render w (c.fill (.token (literal other offset missing))) = .ok dump' →
      SameShape (parse dump w) (parse dump' w)

/-- An outcome has its own shape. -/
lemma sameShape_refl (outcome : Except Dump.Error Node) : SameShape outcome outcome := by
  cases outcome with
  | error e => exact rfl
  | ok root => exact .refl _

/-- String literals of contained texts say the same, if they are there at all. -/
lemma sayAlike_tokenLines {w depth index : ℕ} {text other : String} {offset : ℤ} {missing : Bool}
    (hne : text ≠ "") (hne' : other ≠ "") (h : Contained text) (h' : Contained other)
    {l m : List String} (hl : tokenLines w depth index (literal text offset missing) = .ok l)
    (hm : tokenLines w depth index (literal other offset missing) = .ok m) :
    SayAlike ((l.map String.toList).flatMap splitLines)
      ((m.map String.toList).flatMap splitLines) := by
  cases missing with
  | true =>
    rw [tokenLines_of_not_isShown fun hs => Bool.noConfusion hs.2] at hl hm
    obtain rfl := Except.ok.inj hl
    obtain rfl := Except.ok.inj hm
    exact Or.inl ⟨[], rfl, rfl⟩
  | false =>
    obtain ⟨hfit, rfl⟩ := (tokenLines_eq_ok_iff ⟨hne, rfl⟩).1 hl
    obtain ⟨hfit', rfl⟩ := (tokenLines_eq_ok_iff ⟨hne', rfl⟩).1 hm
    simp only [List.map_singleton, List.flatMap_singleton]
    exact sayAlike_of_contained h h' hfit hfit'

/-- A contained text is harmless. -/
lemma Contained.harmless {w : ℕ} (hw : 1 ≤ w) {text : String} (hne : text ≠ "")
    (h : Contained text) : Harmless w text := by
  intro c offset missing other hne' h' dump dump' hdump hdump'
  cases c with
  | hole =>
    -- a token at the top is printed as a node without parts, whatever its text
    obtain rfl : dump = dump' := Except.ok.inj (hdump.symm.trans hdump')
    exact sameShape_refl _
  | node kind before inside after =>
    rw [Context.fill] at hdump hdump'
    obtain ⟨ls, hls, rfl⟩ := render_eq_ok_iff.1 hdump
    obtain ⟨ms, hms, rfl⟩ := render_eq_ok_iff.1 hdump'
    obtain ⟨front, depth, index, l, m, back, hl, hm, rfl, rfl⟩ :=
      treeLines_fill (.node kind before inside after) hls hms
    have hcut := splitLines_dump hls
    have hcut' := splitLines_dump hms
    simp only [List.map_append, List.flatMap_append, ← List.cons_append] at hcut hcut'
    exact parse_sameShape hw hcut hcut' (sayAlike_tokenLines hne hne' h h' hl hm)

/-! ### Towers -/

/-- A token that stands next to the hole of a tower. -/
def neighbour : Token := ⟨"Identifier", "x", 0, false⟩

/-- The leaf of that token. -/
def neighbourLeaf : Leaf := ⟨"SymbolIdentifier", "x", 0, 1⟩

/-- A tower of nodes with a hole at the bottom, next to another token. -/
def towerContext : ℕ → Context
  | 0 => .node "Block" [] .hole [.token neighbour]
  | n + 1 => .node "Block" [] (towerContext n) []

/-- The nodes of a tower of the given height, the topmost at the given depth. -/
def storeys (depth : ℕ) : ℕ → List (ℕ × Element)
  | 0 => []
  | n + 1 => (depth, .node "Block") :: storeys (depth + 1) n

/-- A tower of nodes with a forest at the bottom. -/
def tower (bottom : List FlopCensus.Tree) : ℕ → Node
  | 0 => ⟨"Block", bottom⟩
  | n + 1 => ⟨"Block", [(tower bottom n).toTree]⟩

/-- The outline of a tower. -/
lemma outlineFrom_tower (bottom : List FlopCensus.Tree) (n depth : ℕ) :
    Tree.outlineFrom depth (tower bottom n).toTree =
      storeys depth (n + 1) ++ Tree.outlineAll (depth + n + 1) bottom := by
  induction n generalizing depth with
  | zero => rw [tower, Node.toTree, Tree.outlineFrom, storeys, storeys, List.singleton_append]
  | succ n ih =>
    have hbottom : depth + 1 + n + 1 = depth + (n + 1) + 1 := by omega
    rw [tower, Node.toTree, Tree.outlineFrom, Tree.outlineAll, Tree.outlineAll, List.append_nil, ih,
      hbottom]
    rfl

/-- The nodes of a tower lie above its bottom. -/
lemma lt_of_mem_storeys {depth n : ℕ} : ∀ x ∈ storeys depth n, x.1 < depth + n := by
  induction n generalizing depth with
  | zero =>
    intro x hx
    cases hx
  | succ n ih =>
    intro x hx
    rcases List.mem_cons.1 hx with rfl | hx
    · exact Nat.lt_add_of_pos_right (Nat.succ_pos n)
    · have := ih x hx
      omega

/-- Two leaves at the bottom of a tower are all that is there. -/
lemma countLevel_outline_tower (n : ℕ) (a b : Leaf) :
    countLevel (n + 1) (tower [.leaf a, .leaf b] n).toTree.outline = 2 := by
  have hbottom : Tree.outlineAll (0 + n + 1) [.leaf a, .leaf b] =
      [(n + 1, .leaf a), (n + 1, .leaf b)] := by
    rw [Nat.zero_add]
    rfl
  have hstoreys : countLevel (n + 1) (storeys 0 (n + 1)) = 0 :=
    countLevel_eq_zero fun x hx => by simpa using lt_of_mem_storeys x hx
  rw [Tree.outline, outlineFrom_tower, countLevel_append, hstoreys, hbottom]
  simp [countLevel]

/-- The line of the token next to the hole shows a leaf. -/
lemma tokenLines_neighbour (w depth index : ℕ) : ∃ lines,
    tokenLines w depth index neighbour = .ok lines ∧
      Shows w (lines.map String.toList) [(depth, .leaf neighbourLeaf)] := by
  have hlines : tokenLines w depth index neighbour = .ok [tokenLine w depth index neighbour] :=
    (tokenLines_eq_ok_iff (by decide)).2 ⟨⟨Numeral.length_decimal_le_limit (by decide),
      Numeral.length_decimal_le_limit (by decide)⟩, rfl⟩
  exact ⟨_, hlines, shows_tokenLines (by decide) hlines⟩

/-- The opening line of a node shows it. -/
lemma shows_openingLine (w depth index : ℕ) {tag : String} (h : isWord tag.toList = true) :
    Shows w [(nodeLine w depth index tag).toList] [(depth, .node tag)] := by
  have hopen := Shows.node w depth (isNumeral_decimal index) h (by decide : IsPlain " \x7b".toList)
  rw [String.ofList_toList] at hopen
  rw [toList_nodeLine]
  exact hopen

/-- The kind of storeys is a word. -/
lemma isWord_block : isWord "Block".toList = true :=
  isWord_ofList (by decide)

/-- The kind of storeys is dumped as it is. -/
lemma nodeTag_block (declared : Bool) : nodeTag "Block" declared = "Block" := rfl

/-- The closing line of a node shows nothing. -/
lemma shows_closingLine (w depth : ℕ) : Shows w [(closingLine w depth).toList] [] := by
  rw [toList_closingLine]
  exact Shows.brace w depth

/-- The lines of a node that is no assignment stand around those of its parts. -/
lemma treeLines_node {w depth index : ℕ} {declared : Bool} {kind : String} {part : Tree}
    {rest : List Tree} (hkind : assignmentKinds.contains kind = false) (hpart : part ≠ .absent)
    {inner ls : List String}
    (hinner : treeLines w (depth + 1) 0 (declaredBelow kind declared) part = .ok inner)
    (hrest : partLines w (depth + 1) 1 (declaredBelow kind declared) false rest = .ok ls) :
    treeLines w depth index declared (.node kind (part :: rest)) =
      .ok (nodeLine w depth index (nodeTag kind declared) :: (inner ++ ls) ++
        [closingLine w depth]) := by
  rw [treeLines, bind_eq_ok, hkind]
  exact ⟨inner ++ ls, (partLines_cons hpart).2 ⟨inner, ls, hinner, hrest, rfl⟩, rfl⟩

/-- The lines of a token that is there. -/
lemma treeLines_token {w : ℕ} {t : Token} (hs : t.IsShown) (hfit : t.OffsetsFit) (depth index : ℕ)
    (declared : Bool) :
    treeLines w depth index declared (.token t) = .ok [tokenLine w depth index t] := by
  rw [treeLines, tokenLines_eq_ok_iff hs]
  exact ⟨hfit, rfl⟩

/-- If some lines of a node show nothing but one part of an outline and others the rest, its dump
can be written, and its entries are those of the outline around those of the line in between. -/
lemma render_around {w : ℕ} {kind line : String} {children : List Tree} {front back : List String}
    {above below : List (ℕ × Element)}
    (hlines : treeLines w 0 0 false (.node kind children) = .ok (front ++ line :: back))
    (hfront : Shows w (front.map String.toList) above)
    (hback : Shows w (back.map String.toList) below) :
    ∃ dump, render w (.node kind children) = .ok dump ∧
      entries (splitLines dump.toList) = (entries (splitLines line.toList)).map fun es =>
        indented w above ++ (es ++ indented w below) := by
  have hcut := splitLines_dump hlines
  refine ⟨_, render_eq_ok_iff.2 ⟨_, hlines, rfl⟩, ?_⟩
  have htitle := Shows.title.append hfront
  rw [List.map_append, List.map_cons, List.flatMap_append, List.flatMap_cons,
    flatMap_splitLines_of_isPlain hfront.plain hfront.nonempty,
    flatMap_splitLines_of_isPlain hback.plain hback.nonempty] at hcut
  rw [hcut, ← List.cons_append, entries_append, entries_append, hback.entries_eq]
  rw [List.singleton_append, List.nil_append] at htitle
  rw [htitle.entries_eq]
  cases entries (splitLines line.toList) <;> rfl

/-- **The lines of a tower**: its nodes, then the token in the hole, then the token next to it. -/
theorem treeLines_tower {w : ℕ} {t : Token} (hs : t.IsShown) (hfit : t.OffsetsFit)
    (n depth index : ℕ) (declared : Bool) : ∃ front back,
      treeLines w depth index declared ((towerContext n).fill (.token t)) =
        .ok (front ++ (tokenLine w (depth + n + 1) 0 t :: back)) ∧
      Shows w (front.map String.toList) (storeys depth (n + 1)) ∧
      Shows w (back.map String.toList)
        [(depth + n + 1, .leaf neighbourLeaf)] := by
  induction n generalizing depth index declared with
  | zero =>
    obtain ⟨lines, hlines, hshows⟩ := tokenLines_neighbour w (depth + 1) 1
    refine ⟨[nodeLine w depth index "Block"], lines ++ [closingLine w depth], ?_,
      shows_openingLine w depth index isWord_block, ?_⟩
    · have hrest : partLines w (depth + 1) 1 (declaredBelow "Block" declared) false
          [.token neighbour] = .ok lines :=
        (partLines_cons (token_ne_absent neighbour)).2 ⟨lines, [], hlines, rfl, by simp⟩
      rw [towerContext, Context.fill, Context.fill, List.nil_append, treeLines_node (by decide)
        (token_ne_absent t) (treeLines_token hs hfit _ _ _) hrest, nodeTag_block]
      simp
    · rw [List.map_append]
      exact hshows.append (shows_closingLine w depth)
  | succ n ih =>
    obtain ⟨front, back, hlines, hfront, hback⟩ :=
      ih (depth + 1) 0 (declaredBelow "Block" declared)
    have hbottom : depth + 1 + n + 1 = depth + (n + 1) + 1 := by omega
    rw [hbottom] at hlines hback
    refine ⟨nodeLine w depth index "Block" :: front, back ++ [closingLine w depth], ?_,
      (shows_openingLine w depth index isWord_block).append hfront, ?_⟩
    · have hrest : partLines w (depth + 1) 1 (declaredBelow "Block" declared) false [] = .ok [] :=
        rfl
      rw [towerContext, Context.fill, List.nil_append,
        treeLines_node (by decide) (Context.fill_token_ne_absent _ t) hlines hrest,
        nodeTag_block]
      simp
    · rw [List.map_append]
      simpa using hback.append (shows_closingLine w depth)

/-- The dump of a tower can be written, and its entries are its nodes, what the lines of the token
in the hole say, and the token next to it. -/
lemma render_tower {w n : ℕ} {t : Token} (hs : t.IsShown) (hfit : t.OffsetsFit) :
    ∃ dump, render w ((towerContext n).fill (.token t)) = .ok dump ∧
      entries (splitLines dump.toList) =
        (entries (splitLines (tokenLine w (n + 1) 0 t).toList)).map fun es =>
          indented w (storeys 0 (n + 1)) ++
            (es ++ indented w [(n + 1, .leaf neighbourLeaf)]) := by
  obtain ⟨front, back, hlines, hfront, hback⟩ := treeLines_tower hs hfit n 0 0 false
  rw [Nat.zero_add] at hlines hback
  obtain ⟨kind, children, hnode⟩ :
      ∃ kind children, (towerContext n).fill (.token t) = .node kind children := by
    cases n <;> exact ⟨_, _, rfl⟩
  rw [hnode] at hlines ⊢
  exact render_around hlines hfront hback

/-- A bound for the levels of some entries. -/
lemma exists_bound (w : ℕ) (es : List Entry) : ∃ n, ∀ e ∈ es, e.indent / w < n := by
  induction es with
  | nil => exact ⟨0, by simp⟩
  | cons e es ih =>
    obtain ⟨n, hn⟩ := ih
    refine ⟨max n (e.indent / w + 1), fun f hf => ?_⟩
    rcases List.mem_cons.1 hf with rfl | hf
    · omega
    · have := hn f hf
      omega

/-- What the lines of a string literal at the first byte say: the leaf, if the first of them closes
one, and what the others say. -/
lemma entries_literal {w depth index : ℕ} {text : String}
    (hfit : (literal text 0 false).OffsetsFit) {first : List Char} {more : List (List Char)}
    (h : textPieces text = first :: more) :
    entries (splitLines (tokenLine w depth index (literal text 0 false)).toList) =
      (entries more).map fun es => ((leafText? first).map fun t => (⟨w * depth, .leaf
        ⟨"TK_StringLiteral", String.ofList t, 0, text.utf8ByteSize⟩⟩ : Entry)).toList ++ es := by
  rw [splitLines_tokenLine_literal w depth index text 0 false h, entries,
    readLine_literalHead (Int.le_refl 0) hfit, Int.zero_add, Int.natAbs_natCast, Int.natAbs_zero]
  cases leafText? first with
  | none =>
    simp only [Option.map_none, Option.toList_none, List.nil_append, bind, Except.bind]
    cases entries more <;> rfl
  | some t =>
    simp only [Option.map_some, Option.toList_some, bind, Except.bind]
    cases entries more <;> rfl

/-- In a deep tower, a string literal keeps the token next to it in its place only if its lines say
one leaf.

**Proof sketch.** The nodes of the tower are further up. If lines behind the first say anything,
they are further up too, and so is the token behind them, which leaves at most the leaf itself at
the bottom. If they do not, there are two elements at the bottom only if the first line is a
leaf. -/
lemma countLevel_tower {w n : ℕ} (hw : 1 ≤ w) {found : Option Entry} {es : List Entry}
    (hbound : ∀ e ∈ es, e.indent / w < n) (last : Entry)
    (h : 2 ≤ countLevel (n + 1) (levelled w 0 (indented w (storeys 0 (n + 1)) ++
      (found.toList ++ es ++ [last])))) : found ≠ none ∧ es = [] := by
  have hstoreys : ∀ e ∈ indented w (storeys 0 (n + 1)), e.indent / w < n + 1 := by
    intro e he
    obtain ⟨x, hx, rfl⟩ := List.mem_map.1 he
    have := lt_of_mem_storeys x hx
    rw [Nat.mul_div_cancel_left _ (by omega)]
    omega
  have hlow : ∀ e ∈ es, e.indent / w < n + 1 := by
    intro e he
    have := hbound e he
    omega
  have hfound : found.toList.length ≤ 1 := by
    cases found <;> simp
  simp only [levelled_append, openedAfter_append, countLevel_append,
    countLevel_levelled_eq_zero hstoreys, countLevel_levelled_eq_zero hlow, Nat.zero_add,
    Nat.add_zero] at h
  -- two at the bottom can only be the leaf and the last entry, one each
  generalize openedAfter w 0 (indented w (storeys 0 (n + 1))) = opened at h
  have hleaf := countLevel_levelled_le w (n + 1) opened found.toList
  generalize openedAfter w opened found.toList = opened' at h
  have hlast := countLevel_levelled_le w (n + 1) (openedAfter w opened' es) [last]
  rw [List.length_singleton] at hlast
  constructor
  · rintro rfl
    rw [Option.toList_none] at hleaf h
    rw [List.length_nil] at hleaf
    omega
  · by_contra hne
    have hopened : openedAfter w opened' es < n + 1 := by
      refine openedAfter_lt hne fun e he => ?_
      have := hbound e he
      omega
    rw [countLevel_levelled_singleton hopened] at h
    omega

/-- A bound for the levels of the entries that some lines say. -/
lemma exists_bound_entries (w : ℕ) (lines : List (List Char)) :
    ∃ n, ∀ es, entries lines = .ok es → ∀ e ∈ es, e.indent / w < n := by
  cases hlines : entries lines with
  | error e => exact ⟨0, nofun⟩
  | ok es =>
    obtain ⟨n, hn⟩ := exists_bound w es
    refine ⟨n, fun fs hfs => ?_⟩
    obtain rfl := Except.ok.inj hfs
    exact hn

/-- The offsets of a string literal at the first byte can be written if its size can. -/
lemma offsetsFit_literal {text : String}
    (hsize : (Numeral.decimal text.utf8ByteSize).length ≤ Numeral.digitLimit) :
    (literal text 0 false).OffsetsFit := by
  have hzero : (Numeral.decimal (0 : ℤ).natAbs).length ≤ Numeral.digitLimit :=
    Numeral.length_decimal_le_limit (by decide)
  refine ⟨hzero, ?_⟩
  rw [literal, Int.zero_add, Int.natAbs_natCast]
  exact hsize

/-- With a plain text, a tower is parsed as it is, with two leaves at the bottom. -/
lemma parse_tower_plain {w : ℕ} (hw : 1 ≤ w) (n : ℕ) :
    ∃ dump, render w ((towerContext n).fill (.token (literal "x" 0 false))) = .ok dump ∧
      parse dump w = .ok (tower [.leaf ⟨"TK_StringLiteral", "x", 0, 1⟩,
        .leaf neighbourLeaf] n) := by
  have hfit : (literal "x" 0 false).OffsetsFit :=
    offsetsFit_literal (Numeral.length_decimal_le_limit (by decide))
  have hpieces : textPieces "x" = ["x\")".toList] :=
    splitLines_of_isPlain (by decide) (by decide)
  obtain ⟨dump, hdump, hentries⟩ := render_tower (w := w) (n := n) (by decide) hfit
  refine ⟨dump, hdump, parse_of_entries hw ?_⟩
  rw [hentries, entries_literal hfit hpieces, Tree.outline, outlineFrom_tower, indented_append,
    Nat.zero_add]
  rfl

/-- A harmless text is contained.

**Proof sketch.** Put the text into a tower that is higher than all that its lines say. Its tree has
as many elements on each level as that of a plain text, hence two at the bottom, and
`countLevel_tower` tells what they are. -/
lemma Harmless.contained {w : ℕ} (hw : 1 ≤ w) {text : String} (hne : text ≠ "")
    (hsize : (Numeral.decimal text.utf8ByteSize).length ≤ Numeral.digitLimit)
    (h : Harmless w text) : Contained text := by
  obtain ⟨first, more, hpieces⟩ := exists_textPieces text
  obtain ⟨n, hn⟩ := exists_bound_entries w more
  have hfit := offsetsFit_literal hsize
  obtain ⟨dump, hdump, hentries⟩ := render_tower (w := w) (n := n) ⟨hne, rfl⟩ hfit
  obtain ⟨dump', hdump', hother⟩ := parse_tower_plain hw n
  have hshape := h (towerContext n) 0 false "x" (by decide)
    (contained_of_only_newlines (by decide)) dump dump' hdump hdump'
  rw [hother] at hshape
  obtain ⟨found, hfound, hline⟩ : ∃ found : Option Entry, (leafText? first = none → found = none) ∧
      entries (splitLines (tokenLine w (n + 1) 0 (literal text 0 false)).toList) =
        (entries more).map fun es => found.toList ++ es :=
    ⟨_, Option.map_eq_none_iff.2, entries_literal hfit hpieces⟩
  cases hmore : entries more with
  | error e =>
    rw [hline, hmore] at hentries
    rw [parse_eq_error hw hentries] at hshape
    exact hshape.elim
  | ok es =>
    have hall : entries (splitLines dump.toList) = .ok (indented w (storeys 0 (n + 1)) ++
        (found.toList ++ es ++ [⟨w * (n + 1), .leaf neighbourLeaf⟩])) := by
      rw [hentries, hline, hmore]
      rfl
    rcases parse_eq_of_entries hw hall with ⟨hparse, -⟩ | ⟨root, hparse, houtline⟩
    · rw [hparse] at hshape
      exact hshape.elim
    · rw [hparse] at hshape
      -- two elements at the bottom of the plain tree, and so of this one
      have hcount := ApartInLeaf.countLevel_eq hshape (n + 1)
      rw [countLevel_outline_tower, ← houtline] at hcount
      have hlevels := hcount.ge.trans (countLevel_le_of_sublist (sublist_addAll _ _))
      obtain ⟨hsome, rfl⟩ := countLevel_tower hw (hn es hmore) _ hlevels
      exact ⟨first, more, hpieces, fun hnone => hsome (hfound hnone), entries_eq_nil_iff.1 hmore⟩

/-- **The harmless texts are the contained ones.** -/
theorem harmless_iff_contained {w : ℕ} (hw : 1 ≤ w) {text : String} (hne : text ≠ "")
    (hsize : (Numeral.decimal text.utf8ByteSize).length ≤ Numeral.digitLimit) :
    Harmless w text ↔ Contained text :=
  ⟨fun h => h.contained hw hne hsize, fun h => h.harmless hw hne⟩

/-- A string that goes on behind a backslash and a line end of two characters does harm. -/
theorem not_harmless_continued : (2 : ℕ) ≥ 1 ∧ "\"a\\\r\nb\"" ≠ "" ∧
    (Numeral.decimal "\"a\\\r\nb\"".utf8ByteSize).length ≤ Numeral.digitLimit ∧
    ¬ Harmless 2 "\"a\\\r\nb\"" := by
  have hsize : (Numeral.decimal "\"a\\\r\nb\"".utf8ByteSize).length ≤ Numeral.digitLimit :=
    Numeral.length_decimal_le_limit (by decide)
  have hnot : ¬ Contained "\"a\\\r\nb\"" := by decide +kernel
  refine ⟨by decide, by decide, hsize, fun h => hnot ?_⟩
  exact (harmless_iff_contained (by decide) (by decide) hsize).1 h

/-- A module with a string in it. -/
def moduleWith (text : String) : Tree :=
  .node "CompilationUnit" [.node "ModuleDeclaration" [.token (literal text 0 false)]]

/-- The dump of the module can be written, and its entries are the two nodes and what the lines of
the string say. -/
lemma render_moduleWith (w : ℕ) {text : String} (hne : text ≠ "")
    (hfit : (literal text 0 false).OffsetsFit) :
    ∃ dump, render w (moduleWith text) = .ok dump ∧ entries (splitLines dump.toList) =
      (entries (splitLines (tokenLine w 2 0 (literal text 0 false)).toList)).map fun es =>
        indented w [(0, .node "kDescriptionList"), (1, .node "kModuleDeclaration")] ++ es := by
  have hnone : ∀ depth index declared, partLines w depth index declared false [] = .ok [] :=
    fun _ _ _ => rfl
  have htoken := treeLines_token (w := w) ⟨hne, rfl⟩ hfit 2 0
    (declaredBelow "ModuleDeclaration" (declaredBelow "CompilationUnit" false))
  have hinner : treeLines w 1 0 (declaredBelow "CompilationUnit" false)
      (.node "ModuleDeclaration" [.token (literal text 0 false)]) =
        .ok [nodeLine w 1 0 "kModuleDeclaration", tokenLine w 2 0 (literal text 0 false),
          closingLine w 1] :=
    treeLines_node (by decide) (token_ne_absent _) htoken (hnone _ _ _)
  have hlines : treeLines w 0 0 false (moduleWith text) =
      .ok ([nodeLine w 0 0 "kDescriptionList", nodeLine w 1 0 "kModuleDeclaration"] ++
        tokenLine w 2 0 (literal text 0 false) :: [closingLine w 1, closingLine w 0]) :=
    treeLines_node (by decide : assignmentKinds.contains "CompilationUnit" = false)
      (by intro h; cases h) hinner (hnone _ _ _)
  have hroot : isWord "kDescriptionList".toList = true := isWord_ofList (by decide)
  have hmodule : isWord "kModuleDeclaration".toList = true := isWord_ofList (by decide)
  have hfront := (shows_openingLine w 0 0 hroot).append (shows_openingLine w 1 0 hmodule)
  have hback := (shows_closingLine w 1).append (shows_closingLine w 0)
  obtain ⟨dump, hdump, hentries⟩ := render_around hlines hfront hback
  refine ⟨dump, hdump, ?_⟩
  rw [hentries]
  cases entries (splitLines (tokenLine w 2 0 (literal text 0 false)).toList) with
  | error e => rfl
  | ok es => simp [Except.map, indented]

/-- **A string literal can remove a module**: the tree is a node that its text spells, while a
harmless text keeps the module. -/
theorem not_sameShape_module : ∃ dump root dump' root',
    render 2 (moduleWith "\"\u2028Node @0 (tag: k)\"") = .ok dump ∧
      parse dump 2 = .ok root ∧ root.toTree.outline = [(0, .node "k")] ∧
      render 2 (moduleWith "\"x\"") = .ok dump' ∧
      parse dump' 2 = .ok root' ∧ (1, .node "kModuleDeclaration") ∈ root'.toTree.outline ∧
      ¬ SameShape (parse dump 2) (parse dump' 2) := by
  have hfit : (literal "\"\u2028Node @0 (tag: k)\"" 0 false).OffsetsFit :=
    ⟨Numeral.length_decimal_le_limit (by decide), Numeral.length_decimal_le_limit (by decide)⟩
  have hfit' : (literal "\"x\"" 0 false).OffsetsFit :=
    ⟨Numeral.length_decimal_le_limit (by decide), Numeral.length_decimal_le_limit (by decide)⟩
  obtain ⟨dump, hdump, hentries⟩ := render_moduleWith 2 (by decide) hfit
  obtain ⟨dump', hdump', hentries'⟩ := render_moduleWith 2 (by decide) hfit'
  -- the end of its own line does not close the leaf, and the other line is a node
  have hstray : textPieces "\"\u2028Node @0 (tag: k)\"" =
        [['"'], "Node @0 (tag: k)\"\")".toList] ∧ leafText? ['"'] = none ∧
      entries ["Node @0 (tag: k)\"\")".toList] = .ok [⟨0, .node "k"⟩] := by decide +kernel
  have hplain : textPieces "\"x\"" = ["\"x\"\")".toList] ∧
      leafText? "\"x\"\")".toList = some "\"x\"".toList := by decide +kernel
  rw [entries_literal hfit hstray.1, hstray.2.1, hstray.2.2] at hentries
  rw [entries_literal hfit' hplain.1, hplain.2] at hentries'
  obtain ⟨-, hempty⟩ | ⟨root, hroot, houtline⟩ := parse_eq_of_entries (w := 2) (by decide) hentries
  · cases hempty
  obtain ⟨-, hempty⟩ | ⟨root', hroot', houtline'⟩ :=
    parse_eq_of_entries (w := 2) (by decide) hentries'
  · cases hempty
  have hmem : (1, .node "kModuleDeclaration") ∈ root'.toTree.outline := by
    rw [← houtline']
    exact List.mem_cons_of_mem _ List.mem_cons_self
  refine ⟨dump, root, dump', root', hdump, hroot, houtline.symm, hdump', hroot', hmem, fun h => ?_⟩
  have hshape : SameShape (.ok root) (.ok root') := hroot ▸ hroot' ▸ h
  have hdepth := List.mem_map_of_mem (f := Prod.fst) hmem
  rw [← ApartInLeaf.map_fst hshape, ← houtline] at hdepth
  cases hdepth with
  | tail _ hnone => cases hnone

end FlopCensus.Slang
