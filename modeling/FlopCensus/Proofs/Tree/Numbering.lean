import FlopCensus.Proofs.Tree.Traversal
import Mathlib.Data.List.Nodup
import Mathlib.Data.List.Range
import Mathlib.Tactic.Common

set_option autoImplicit false
set_option relaxedAutoImplicit false

/-!
# Elements by their numbers

The elements of a tree are numbered in document order. The elements at or below one of them form a
segment of these numbers, so a search below an element is a search in a segment. Unlike the nodes
that a search finds, which may be equal in different places, their numbers tell them apart.

## Main definitions

* `FlopCensus.Tree.part?` — the subtree below the element with a number.
* `FlopCensus.Tree.numbers` — the numbers of the elements at or below an element.
* `FlopCensus.Tree.nodesBelow`, `FlopCensus.Tree.tokensBelow` — searches by number.

## Main results

* `FlopCensus.Tree.filterMap_part?_numbers` — the numbers below an element are those of its subtree.
* `FlopCensus.Tree.filterMap_nodeAt?_nodesBelow`, `FlopCensus.Tree.filterMap_tokenAt?_tokensBelow` —
  what is found by number is what the searches of the subtree find.
-/

namespace FlopCensus

namespace Tree

/-- The subtree below the element with a number. -/
def part? (t : Tree) (i : ℕ) : Option Tree :=
  t.elements[i]?

/-- The interior node with a number. -/
def nodeAt? (t : Tree) (i : ℕ) : Option Node :=
  (t.part? i).bind node?

/-- The token with a number. -/
def tokenAt? (t : Tree) (i : ℕ) : Option Leaf :=
  (t.part? i).bind leaf?

/-- The numbers of the elements at or below the element with a number. -/
def numbers (t : Tree) (i : ℕ) : List ℕ :=
  List.range' i ((t.part? i).elim 0 (·.elements.length))

/-- The numbers of the interior nodes at or below an element that satisfy a condition. -/
def nodesBelow (t : Tree) (p : Node → Bool) (i : ℕ) : List ℕ :=
  (t.numbers i).filter fun k => (t.nodeAt? k).any p

/-- The numbers of the tokens at or below an element that satisfy a condition. -/
def tokensBelow (t : Tree) (p : Leaf → Bool) (i : ℕ) : List ℕ :=
  (t.numbers i).filter fun k => (t.tokenAt? k).any p

/-- The first element is the tree itself. -/
lemma part?_zero (t : Tree) : t.part? 0 = some t := by
  cases t with
  | leaf token => rw [part?, elements_leaf]; rfl
  | node tag children => rw [part?, elements_node]; rfl

/-- What a walk still visits from an element on begins with the elements of its subtree. -/
lemma drop_walk {pending : List Tree} {i : ℕ} {s : Tree} (h : (walk pending)[i]? = some s) :
    ∃ rest, (walk pending).drop i = s.elements ++ rest := by
  fun_induction walk pending generalizing i with
  | case1 => simp at h
  | case2 token pending ih =>
    cases i with
    | zero =>
      obtain rfl : Tree.leaf token = s := by simpa using h
      exact ⟨walk pending, by rw [elements_leaf]; rfl⟩
    | succ i => exact ih (by simpa using h)
  | case3 tag children pending ih =>
    cases i with
    | zero =>
      obtain rfl : Tree.node tag children = s := by simpa using h
      refine ⟨walk pending, ?_⟩
      rw [List.drop_zero, walk_eq_preorderAll, walk_eq_preorderAll, preorderAll_append,
        elements_eq_preorder, preorder, List.cons_append]
    | succ i => exact ih (by simpa using h)

/-- The elements of a subtree are numbered onwards from its top. -/
lemma part?_add {t s : Tree} {i n : ℕ} (h : t.part? i = some s) (hn : n < s.elements.length) :
    t.part? (i + n) = s.part? n := by
  have hwalk : (walk [t])[i]? = some s := h
  obtain ⟨rest, hrest⟩ := drop_walk hwalk
  rw [part?, elements, ← List.getElem?_drop, hrest, List.getElem?_append_left hn, part?]

/-- **The elements of a subtree form a segment of the elements of the tree.** -/
theorem filterMap_part?_numbers {t s : Tree} {i : ℕ} (h : t.part? i = some s) :
    (t.numbers i).filterMap t.part? = s.elements := by
  have hmap : (t.numbers i).map t.part? = s.elements.map some := by
    rw [numbers, h]
    refine List.ext_getElem (by simp) fun n hn hn' => ?_
    rw [List.length_map] at hn'
    simp only [List.getElem_map, List.getElem_range', Nat.one_mul, part?_add h hn']
    exact List.getElem?_eq_getElem hn'
  calc (t.numbers i).filterMap t.part? = ((t.numbers i).map t.part?).filterMap id := by
        rw [List.filterMap_map, Function.id_comp]
    _ = s.elements := by rw [hmap, List.filterMap_map, Function.id_comp, List.filterMap_some]

/-- Selecting by what a number stands for selects among what the numbers stand for. -/
lemma filterMap_filter_any {α β : Type} (g : α → Option β) (p : β → Bool) (l : List α) :
    (l.filter fun a => (g a).any p).filterMap g = (l.filterMap g).filter p := by
  induction l with
  | nil => rfl
  | cons a l ih =>
    cases hg : g a with
    | none => simp [hg, ih]
    | some b => by_cases hp : p b = true <;> simp [hg, hp, ih]

/-- The interior nodes of a subtree, by their numbers. -/
theorem filterMap_nodeAt?_nodesBelow {t s : Tree} {i : ℕ} (h : t.part? i = some s)
    (p : Node → Bool) :
    (t.nodesBelow p i).filterMap t.nodeAt? = (s.elements.filterMap node?).filter p := by
  rw [nodesBelow, filterMap_filter_any, ← filterMap_part?_numbers h, List.filterMap_filterMap]
  rfl

/-- The tokens of a subtree, by their numbers. -/
theorem filterMap_tokenAt?_tokensBelow {t s : Tree} {i : ℕ} (h : t.part? i = some s)
    (p : Leaf → Bool) :
    (t.tokensBelow p i).filterMap t.tokenAt? = s.leaves.filter p := by
  rw [tokensBelow, filterMap_filter_any, leaves, ← filterMap_part?_numbers h,
    List.filterMap_filterMap]
  rfl

/-- The node with a number is the top of its subtree. -/
lemma part?_of_nodeAt? {t : Tree} {i : ℕ} {n : Node} (h : t.nodeAt? i = some n) :
    t.part? i = some n.toTree := by
  obtain ⟨s, hs, hn⟩ := Option.bind_eq_some_iff.1 h
  cases s with
  | leaf token => simp [node?] at hn
  | node tag children =>
    obtain rfl : Node.mk tag children = n := by simpa [node?] using hn
    exact hs

/-- A number stands for a token or for an interior node. -/
lemma nodeAt?_of_tokenAt? {t : Tree} {i : ℕ} {l : Leaf} (h : t.tokenAt? i = some l) :
    t.nodeAt? i = none := by
  obtain ⟨s, hs, hl⟩ := Option.bind_eq_some_iff.1 h
  cases s with
  | leaf token => rw [nodeAt?, hs]; rfl
  | node tag children => simp [leaf?] at hl

/-- The nodes with a tag below a node that satisfy a condition, by their numbers. -/
lemma filterMap_nodeAt?_tagged {t : Tree} {i : ℕ} {n : Node} (h : t.nodeAt? i = some n)
    (tag : String) (p : Node → Bool) :
    (t.nodesBelow (fun m => m.tag == tag && p m) i).filterMap t.nodeAt? =
      (n.nodesTagged tag).filter p := by
  rw [filterMap_nodeAt?_nodesBelow (part?_of_nodeAt? h), Node.nodesTagged, nodesTagged,
    List.filter_filter]
  simp only [Bool.and_comm]

/-- The numbers that a search finds stand for nodes that satisfy its condition. -/
lemma mem_nodesBelow {t : Tree} {p : Node → Bool} {i k : ℕ} :
    k ∈ t.nodesBelow p i ↔ k ∈ t.numbers i ∧ ∃ n, t.nodeAt? k = some n ∧ p n = true := by
  rw [nodesBelow, List.mem_filter, Option.any_eq_true]

/-- The numbers that a search finds stand for tokens that satisfy its condition. -/
lemma mem_tokensBelow {t : Tree} {p : Leaf → Bool} {i k : ℕ} :
    k ∈ t.tokensBelow p i ↔ k ∈ t.numbers i ∧ ∃ l, t.tokenAt? k = some l ∧ p l = true := by
  rw [tokensBelow, List.mem_filter, Option.any_eq_true]

/-- A number is found once. -/
lemma nodup_nodesBelow (t : Tree) (p : Node → Bool) (i : ℕ) : (t.nodesBelow p i).Nodup :=
  List.Nodup.filter _ (List.nodup_range' 1)

/-- A number is found once. -/
lemma nodup_tokensBelow (t : Tree) (p : Leaf → Bool) (i : ℕ) : (t.tokensBelow p i).Nodup :=
  List.Nodup.filter _ (List.nodup_range' 1)

/-- The elements at or below an element have no smaller numbers. -/
lemma le_of_mem_numbers {t : Tree} {i k : ℕ} (h : k ∈ t.numbers i) : i ≤ k :=
  (List.mem_range'_1.1 h).1

/-- If two elements enclose a third one, the one that comes first encloses the other. -/
lemma mem_numbers_of_le {t : Tree} {i j k : ℕ} (hi : k ∈ t.numbers i) (hj : k ∈ t.numbers j)
    (hij : i ≤ j) : j ∈ t.numbers i := by
  have hlt := (List.mem_range'_1.1 hi).2
  exact List.mem_range'_1.2 ⟨hij, Nat.lt_of_le_of_lt (le_of_mem_numbers hj) hlt⟩

/-- All elements are at or below the first one. -/
lemma mem_numbers_zero {t s : Tree} {k : ℕ} (h : t.part? k = some s) : k ∈ t.numbers 0 := by
  rw [numbers, part?_zero, List.mem_range'_1]
  exact ⟨Nat.zero_le k, by simpa using (List.getElem?_eq_some_iff.1 h).1⟩

/-- What is below an element is below every element above it. -/
lemma mem_numbers_trans {t : Tree} {i j k : ℕ} (hj : j ∈ t.numbers i) (hk : k ∈ t.numbers j) :
    k ∈ t.numbers i := by
  obtain ⟨hij, hj⟩ := List.mem_range'_1.1 hj
  obtain ⟨hjk, hk⟩ := List.mem_range'_1.1 hk
  cases hi : t.part? i with
  | none =>
    rw [hi, Option.elim_none] at hj
    omega
  | some s =>
    obtain ⟨n, rfl⟩ := Nat.exists_eq_add_of_le hij
    rw [hi, Option.elim_some] at hj
    have hn : n < s.elements.length := by omega
    obtain ⟨rest, hrest⟩ := drop_walk (List.getElem?_eq_getElem hn)
    have hlength := congrArg List.length hrest
    rw [List.length_drop, List.length_append, ← elements] at hlength
    rw [part?_add hi hn, part?, List.getElem?_eq_getElem hn, Option.elim_some] at hk
    rw [numbers, hi, Option.elim_some, List.mem_range'_1]
    omega

end Tree

end FlopCensus
