import FlopCensus.Proofs.Dump.Outline
import Mathlib.Data.List.Basic
import Mathlib.Tactic.Common

set_option autoImplicit false
set_option relaxedAutoImplicit false

/-!
# Dumps of the same shape

Two dumps that agree up to what one leaf says of its text and bytes are parsed as trees that agree
up to that leaf, since the level of an entry depends only on indentations and on which entries are
nodes. Conversely, where the levels of a run stay small, so do the depths in the tree.

## Main definitions

* `FlopCensus.Dump.ApartInLeaf` — outlines that differ at most in the text and bytes of one leaf.
* `FlopCensus.Dump.SameShape` — outcomes of parsing that are alike in this sense.
* `FlopCensus.Dump.openedAfter` — the number of nodes that entries leave open.
* `FlopCensus.Dump.countLevel` — the number of entries at a level.

## Main results

* `FlopCensus.Dump.parse_sameShape` — texts whose lines differ in what one leaf says are parsed as
  trees of the same shape.
* `FlopCensus.Dump.sublist_addAll` — no element is in a tree that is not in the levelled entries.
* `FlopCensus.Dump.openedAfter_lt` — entries of small indentation leave few nodes open.
-/

namespace FlopCensus.Dump

/-! ### Outlines apart in one leaf -/

/-- The outlines are equal, or differ in the text and the bytes of one leaf, which has the same
depth and tag in both. -/
inductive ApartInLeaf : List (ℕ × Element) → List (ℕ × Element) → Prop where
  /-- The outlines are equal. -/
  | refl (xs : List (ℕ × Element)) : ApartInLeaf xs xs
  /-- One leaf is another one of the same tag. -/
  | leaf (before : List (ℕ × Element)) (depth : ℕ) {a b : Leaf} (h : a.tag = b.tag)
      (after : List (ℕ × Element)) :
      ApartInLeaf (before ++ (depth, .leaf a) :: after) (before ++ (depth, .leaf b) :: after)

/-- Two outcomes of parsing are the same error, or trees that are apart in one leaf. -/
def SameShape : Except Error Node → Except Error Node → Prop
  | .ok m, .ok n => ApartInLeaf m.toTree.outline n.toTree.outline
  | .error e, .error f => e = f
  | _, _ => False

namespace ApartInLeaf

variable {xs ys : List (ℕ × Element)}

/-- The same elements may be appended. -/
lemma append (h : ApartInLeaf xs ys) (zs : List (ℕ × Element)) :
    ApartInLeaf (xs ++ zs) (ys ++ zs) := by
  cases h with
  | refl xs => exact .refl _
  | leaf before depth h after =>
    simp only [List.append_assoc, List.cons_append]
    exact .leaf before depth h (after ++ zs)

/-- Both outlines are empty, or none is. -/
lemma eq_nil_iff (h : ApartInLeaf xs ys) : xs = [] ↔ ys = [] := by
  cases h with
  | refl xs => rfl
  | leaf before depth h after => simp

/-- The depths are the same. -/
lemma map_fst (h : ApartInLeaf xs ys) : xs.map Prod.fst = ys.map Prod.fst := by
  cases h with
  | refl xs => rfl
  | leaf before depth h after => simp

/-- The same element may be added at the same level. -/
lemma add {v u : View} (h : ApartInLeaf v.outline u.outline) (level : ℕ) (e : Element) :
    ApartInLeaf (v.add level e).outline (u.add level e).outline := by
  rw [View.add, View.add]
  by_cases hlevel : level = 0
  · simp only [if_pos hlevel]
    cases e with
    | node tag => exact .refl _
    | leaf token => exact h
  · simp only [if_neg hlevel]
    exact h.append _

/-- The same elements may be added, one after another. -/
lemma addAll {v u : View} (h : ApartInLeaf v.outline u.outline) (zs : List (ℕ × Element)) :
    ApartInLeaf (v.addAll zs).outline (u.addAll zs).outline := by
  induction zs generalizing v u with
  | nil => exact h
  | cons z zs ih => exact ih (h.add z.1 z.2)

/-- Elements that are apart in one leaf may be added to an outline. -/
lemma addAll_of_leaf (v : View) (before : List (ℕ × Element)) (level : ℕ) {a b : Leaf}
    (h : a.tag = b.tag) (after : List (ℕ × Element)) :
    ApartInLeaf (v.addAll (before ++ (level, .leaf a) :: after)).outline
      (v.addAll (before ++ (level, .leaf b) :: after)).outline := by
  have hleaf : ∀ u : View,
      ApartInLeaf (u.add level (.leaf a)).outline (u.add level (.leaf b)).outline := by
    intro u
    rw [View.add, View.add]
    by_cases hlevel : level = 0
    · simp only [if_pos hlevel]
      exact .refl _
    · simp only [if_neg hlevel]
      exact .leaf u.outline level h []
  rw [View.addAll, View.addAll, List.foldl_append, List.foldl_append]
  exact (hleaf _).addAll after

end ApartInLeaf

/-! ### Levels of entries in parts -/

/-- The number of nodes that are open behind some entries. -/
def openedAfter (w : ℕ) : ℕ → List Entry → ℕ
  | opened, [] => opened
  | opened, e :: es =>
    let level := min (e.indent / w) opened
    openedAfter w (if e.element.isNode then level + 1 else level) es

/-- Entries are levelled one part after the other. -/
lemma levelled_append (w opened : ℕ) (es fs : List Entry) :
    levelled w opened (es ++ fs) =
      levelled w opened es ++ levelled w (openedAfter w opened es) fs := by
  induction es generalizing opened with
  | nil => rfl
  | cons e es ih => rw [List.cons_append, levelled, levelled, openedAfter, ih, List.cons_append]

/-- The number of open nodes behind two parts. -/
lemma openedAfter_append (w opened : ℕ) (es fs : List Entry) :
    openedAfter w opened (es ++ fs) = openedAfter w (openedAfter w opened es) fs := by
  induction es generalizing opened with
  | nil => rfl
  | cons e es ih => rw [List.cons_append, openedAfter, openedAfter, ih]

/-- No entry gets a level beyond that of its indentation. -/
lemma exists_of_mem_levelled {w opened : ℕ} {es : List Entry} :
    ∀ x ∈ levelled w opened es, ∃ e ∈ es, x.1 ≤ e.indent / w := by
  induction es generalizing opened with
  | nil =>
    intro x hx
    cases hx
  | cons e es ih =>
    intro x hx
    rw [levelled] at hx
    rcases List.mem_cons.1 hx with rfl | hx
    · exact ⟨e, List.mem_cons_self, Nat.min_le_left _ _⟩
    · obtain ⟨f, hf, hle⟩ := ih x hx
      exact ⟨f, List.mem_cons_of_mem _ hf, hle⟩

/-- The number of entries at a level. -/
def countLevel (level : ℕ) (xs : List (ℕ × Element)) : ℕ :=
  (xs.map Prod.fst).count level

/-- The entries at a level are counted part by part. -/
lemma countLevel_append (level : ℕ) (xs ys : List (ℕ × Element)) :
    countLevel level (xs ++ ys) = countLevel level xs + countLevel level ys := by
  rw [countLevel, List.map_append, List.count_append]
  rfl

/-- Fewer entries have fewer at a level. -/
lemma countLevel_le_of_sublist {level : ℕ} {xs ys : List (ℕ × Element)} (h : List.Sublist xs ys) :
    countLevel level xs ≤ countLevel level ys :=
  (h.map Prod.fst).count_le level

/-- Outlines that are apart in one leaf have as many elements at a level. -/
lemma ApartInLeaf.countLevel_eq {xs ys : List (ℕ × Element)} (h : ApartInLeaf xs ys) (level : ℕ) :
    countLevel level xs = countLevel level ys := by
  rw [countLevel, countLevel, h.map_fst]

/-- Entries further up are not counted. -/
lemma countLevel_eq_zero {level : ℕ} {xs : List (ℕ × Element)} (h : ∀ x ∈ xs, x.1 < level) :
    countLevel level xs = 0 := by
  refine List.count_eq_zero_of_not_mem fun hmem => ?_
  obtain ⟨x, hx, rfl⟩ := List.mem_map.1 hmem
  exact Nat.lt_irrefl _ (h x hx)

/-- There are no more entries at a level than entries. -/
lemma countLevel_levelled_le (w level opened : ℕ) (es : List Entry) :
    countLevel level (levelled w opened es) ≤ es.length := by
  have hlength : (levelled w opened es).length = es.length := by
    induction es generalizing opened with
    | nil => rfl
    | cons e es ih => rw [levelled, List.length_cons, ih, List.length_cons]
  have hcount := List.count_le_length (a := level) (l := (levelled w opened es).map Prod.fst)
  rwa [List.length_map, hlength] at hcount

/-- Entries of small indentation stay further up. -/
lemma countLevel_levelled_eq_zero {w level : ℕ} {es : List Entry}
    (h : ∀ e ∈ es, e.indent / w < level) (opened : ℕ) :
    countLevel level (levelled w opened es) = 0 := by
  refine countLevel_eq_zero fun x hx => ?_
  obtain ⟨e, he, hle⟩ := exists_of_mem_levelled x hx
  exact Nat.lt_of_le_of_lt hle (h e he)

/-- An entry behind few open nodes stays further up. -/
lemma countLevel_levelled_singleton {w level opened : ℕ} (h : opened < level) (e : Entry) :
    countLevel level (levelled w opened [e]) = 0 := by
  refine countLevel_eq_zero fun x hx => ?_
  rw [levelled, levelled, List.mem_singleton] at hx
  rw [hx]
  exact Nat.lt_of_le_of_lt (Nat.min_le_right _ _) h

/-- **Entries of small indentation leave few nodes open**, whatever was open before. -/
theorem openedAfter_lt {w opened bound : ℕ} {es : List Entry} (hne : es ≠ [])
    (h : ∀ e ∈ es, e.indent / w + 1 < bound) : openedAfter w opened es < bound := by
  -- the last entry decides
  obtain ⟨fs, e, rfl⟩ := es.eq_nil_or_concat'.resolve_left hne
  have he := h e (List.mem_append_right _ List.mem_cons_self)
  have hlevel : min (e.indent / w) (openedAfter w opened fs) ≤ e.indent / w := Nat.min_le_left _ _
  rw [openedAfter_append, openedAfter, openedAfter]
  split
  · omega
  · omega

/-- **The elements of a tree are among the levelled entries**, in the same order. -/
theorem sublist_addAll (v : View) (xs : List (ℕ × Element)) :
    List.Sublist (v.addAll xs).outline (v.outline ++ xs) := by
  induction xs generalizing v with
  | nil =>
    rw [List.append_nil]
    exact List.Sublist.refl _
  | cons x xs ih =>
    have hstep : List.Sublist (v.add x.1 x.2).outline (v.outline ++ [x]) := by
      obtain ⟨level, e⟩ := x
      rw [View.add]
      by_cases hlevel : level = 0
      · subst hlevel
        cases e with
        | node tag => exact List.sublist_append_right _ _
        | leaf token => exact List.sublist_append_left _ _
      · simp only [if_neg hlevel]
        exact List.Sublist.refl _
    have hrest := hstep.append_right xs
    rw [List.append_assoc, List.singleton_append] at hrest
    exact (ih (v.add x.1 x.2)).trans hrest

/-! ### Parsing -/

/-- A dump with a line that cannot be read is refused for that reason. -/
lemma parse_eq_error {w : ℕ} (hw : 1 ≤ w) {text : String} {e : Error}
    (h : entries (Text.splitLines text.toList) = .error e) : parse text w = .error e := by
  rw [parse_eq_bind hw, h]
  rfl

/-- The outcome of a run as an outline. -/
lemma parse_eq_of_entries {w : ℕ} (hw : 1 ≤ w) {text : String} {es : List Entry}
    (h : entries (Text.splitLines text.toList) = .ok es) :
    parse text w = .error .noNodes ∧ (View.addAll ⟨0, []⟩ (levelled w 0 es)).outline = [] ∨
      ∃ root, parse text w = .ok root ∧
        (View.addAll ⟨0, []⟩ (levelled w 0 es)).outline = root.toTree.outline := by
  have hresult := result_foldl_addEntry w es
  rw [parse_eq_bind hw, h]
  simp only [Except.bind]
  generalize (es.foldl (Progress.addEntry w) .initial).result = found at hresult
  cases found with
  | none => exact Or.inl ⟨rfl, hresult.symm⟩
  | some root => exact Or.inr ⟨root, rfl, hresult.symm⟩

/-- The outline of a tree is not empty. -/
lemma outline_toTree_ne_nil (root : Node) : root.toTree.outline ≠ [] := by
  rw [Node.toTree, Tree.outline_node]
  exact List.cons_ne_nil _ _

/-- Runs whose outlines are apart in one leaf have outcomes of the same shape. -/
lemma sameShape_of_entries {w : ℕ} (hw : 1 ≤ w) {s t : String} {es fs : List Entry}
    (hs : entries (Text.splitLines s.toList) = .ok es)
    (ht : entries (Text.splitLines t.toList) = .ok fs)
    (h : ApartInLeaf (View.addAll ⟨0, []⟩ (levelled w 0 es)).outline
      (View.addAll ⟨0, []⟩ (levelled w 0 fs)).outline) : SameShape (parse s w) (parse t w) := by
  rcases parse_eq_of_entries hw hs with ⟨hm, hnil⟩ | ⟨m, hm, houtline⟩
  · rcases parse_eq_of_entries hw ht with ⟨hn, -⟩ | ⟨n, hn, hother⟩
    · rw [hm, hn]
      exact rfl
    · exact absurd (hother ▸ h.eq_nil_iff.1 hnil) (outline_toTree_ne_nil n)
  · rcases parse_eq_of_entries hw ht with ⟨hn, hnil⟩ | ⟨n, hn, hother⟩
    · exact absurd (houtline ▸ h.eq_nil_iff.2 hnil) (outline_toTree_ne_nil m)
    · rw [hm, hn]
      rw [houtline, hother] at h
      exact h

/-- What some lines say about the tree is the same as what others say, or a leaf with the same tag
in the same place. -/
def SayAlike (ls ms : List (List Char)) : Prop :=
  (∃ es, entries ls = .ok es ∧ entries ms = .ok es) ∨
    ∃ indent, ∃ a b : Leaf, a.tag = b.tag ∧ entries ls = .ok [⟨indent, .leaf a⟩] ∧
      entries ms = .ok [⟨indent, .leaf b⟩]

/-- The entries of lines that can be read, among those of the lines around them. -/
lemma entries_between (before after : List (List Char)) {ls : List (List Char)} {es : List Entry}
    (h : entries ls = .ok es) :
    entries (before ++ (ls ++ after)) =
      (do let bs ← entries before; let cs ← entries after; return bs ++ (es ++ cs)) := by
  rw [entries_append, entries_append, h]
  cases entries before with
  | error e => rfl
  | ok bs => cases entries after <;> rfl

/-- **Texts whose lines differ in what one leaf says are parsed as trees of the same shape**, or
refused for the same reason.

**Proof sketch.** If lines that both texts have cannot be read, the first of them decides. Otherwise
the entries differ at most in one leaf. The levels do not depend on it, and adding entries at the
same levels keeps outlines apart in one leaf. -/
theorem parse_sameShape {w : ℕ} (hw : 1 ≤ w) {s t : String} {before ls ms after : List (List Char)}
    (hs : Text.splitLines s.toList = before ++ (ls ++ after))
    (ht : Text.splitLines t.toList = before ++ (ms ++ after)) (h : SayAlike ls ms) :
    SameShape (parse s w) (parse t w) := by
  -- the entries of both texts, or the reason why they cannot be read
  obtain ⟨es, fs, hes, hfs, hleaf⟩ : ∃ es fs, entries ls = .ok es ∧ entries ms = .ok fs ∧
      (es = fs ∨ ∃ indent, ∃ a b : Leaf, a.tag = b.tag ∧ es = [⟨indent, .leaf a⟩] ∧
        fs = [⟨indent, .leaf b⟩]) := by
    rcases h with ⟨es, hes, hfs⟩ | ⟨indent, a, b, htag, hes, hfs⟩
    · exact ⟨es, es, hes, hfs, Or.inl rfl⟩
    · exact ⟨_, _, hes, hfs, Or.inr ⟨indent, a, b, htag, rfl, rfl⟩⟩
  have hread := entries_between before after hes
  have hread' := entries_between before after hfs
  rw [← hs] at hread
  rw [← ht] at hread'
  cases hb : entries before with
  | error e =>
    rw [hb] at hread hread'
    rw [parse_eq_error hw hread, parse_eq_error hw hread']
    exact rfl
  | ok bs =>
    cases ha : entries after with
    | error e =>
      rw [hb, ha] at hread hread'
      rw [parse_eq_error hw hread, parse_eq_error hw hread']
      exact rfl
    | ok cs =>
      rw [hb, ha] at hread hread'
      refine sameShape_of_entries hw hread hread' ?_
      rcases hleaf with rfl | ⟨indent, a, b, htag, rfl, rfl⟩
      · exact .refl _
      · have hlevels := levelled_append w 0 bs
        rw [hlevels, hlevels]
        exact .addAll_of_leaf ⟨0, []⟩ _ _ htag _

end FlopCensus.Dump
