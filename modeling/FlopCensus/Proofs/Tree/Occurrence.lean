import FlopCensus.Proofs.Tree.Traversal
import Mathlib.Data.List.Nodup
import Mathlib.Tactic.Common

set_option autoImplicit false
set_option relaxedAutoImplicit false

/-!
# The occurrences in a tree

Equal subtrees may occur in several places, so an occurrence is told by its address, the way down to
it from the top. A traversal that keeps the pending trees on a stack visits each occurrence once,
in document order, and the occurrences in a subtree come one after another.

## Main definitions

* `FlopCensus.Tree.turn`, `FlopCensus.Tree.turns` — the loop of a traversal, turn by turn.
* `FlopCensus.Tree.at?` — the subtree at an address.
* `FlopCensus.Tree.addresses` — the addresses in a tree, in document order.
* `FlopCensus.Tree.fringe` — the tokens from left to right, by recursion on the tree.

## Main results

* `FlopCensus.Tree.turns_eq` — a number of turns visits as many elements, and leaves the others.
* `FlopCensus.Tree.map_at?_addresses` — the elements of a tree are those at its addresses.
* `FlopCensus.Tree.exists_addresses_eq` — the occurrences in a subtree form a segment.
* `FlopCensus.Tree.traversal_law` — what a traversal visits, and what the searches find.

## Design

The stack of the loop has its top at the end, as a stack in an array has. `FlopCensus.Tree.walk` has
it in front, so the pending trees of the two are the reverse of each other.
-/

namespace FlopCensus.Tree

/-- What holds of a node once it holds of all its children holds of every tree. -/
@[elab_as_elim]
lemma induction {P : Tree → Prop} (leaf : ∀ token, P (.leaf token))
    (node : ∀ tag children, (∀ c ∈ children, P c) → P (.node tag children)) (t : Tree) : P t :=
  Tree.rec (motive_1 := P) (motive_2 := fun ts => ∀ t ∈ ts, P t) leaf node (by simp)
    (fun _ _ hhead htail => List.forall_mem_cons.2 ⟨hhead, htail⟩) t

/-- The trees right below the top of a tree. -/
def children : Tree → List Tree
  | .leaf _ => []
  | .node _ children => children

/-! ### The loop of a traversal -/

/-- One turn: the last of the pending trees is visited, and the trees below it take its place, the
first of them last. -/
def turn (pending : List Tree) : Option (Tree × List Tree) :=
  pending.getLast?.map fun t => (t, pending.dropLast ++ t.children.reverse)

/-- What a number of turns visit, and what they leave pending. There is no turn when no tree is
pending. -/
def turns : ℕ → List Tree → List Tree × List Tree
  | 0, pending => ([], pending)
  | n + 1, pending =>
    match turn pending with
    | none => ([], pending)
    | some (t, rest) => (t :: (turns n rest).1, (turns n rest).2)

/-- The last of the pending trees is visited. -/
lemma turn_concat (pending : List Tree) (t : Tree) :
    turn (pending ++ [t]) = some (t, pending ++ t.children.reverse) := by
  simp [turn]

/-- The walk visits a tree and puts the trees below it in front of the others. -/
lemma walk_cons (t : Tree) (pending : List Tree) :
    walk (t :: pending) = t :: walk (t.children ++ pending) := by
  cases t with
  | leaf token => rw [walk, children, List.nil_append]
  | node tag children => rw [walk, Tree.children]

/-- The walk visits something as long as a tree is pending. -/
lemma walk_eq_nil_iff {pending : List Tree} : walk pending = [] ↔ pending = [] := by
  cases pending with
  | nil => simp [walk]
  | cons t pending => simp [walk_cons]

/-- **One turn makes the first step of the walk.** -/
theorem walk_reverse_concat (pending : List Tree) (t : Tree) :
    walk (pending ++ [t]).reverse = t :: walk (pending ++ t.children.reverse).reverse := by
  rw [List.reverse_append, List.reverse_singleton, List.singleton_append, walk_cons,
    List.reverse_append, List.reverse_reverse]

/-- **A number of turns visits as many elements of the walk**, and the walk over what they leave
pending visits the others. -/
theorem turns_eq (n : ℕ) (pending : List Tree) :
    (turns n pending).1 = (walk pending.reverse).take n ∧
      walk (turns n pending).2.reverse = (walk pending.reverse).drop n := by
  induction n generalizing pending with
  | zero => simp [turns]
  | succ n ih =>
    rcases pending.eq_nil_or_concat' with rfl | ⟨others, t, rfl⟩
    · simp [turns, turn, walk]
    · obtain ⟨hvisited, hleft⟩ := ih (others ++ t.children.reverse)
      rw [turns, turn_concat, walk_reverse_concat]
      exact ⟨congrArg (t :: ·) hvisited, hleft⟩

/-- The walk visits as many elements as there are. -/
lemma length_walk (pending : List Tree) : (walk pending).length = sizeAll pending := by
  fun_induction walk pending with
  | case1 => rfl
  | case2 token pending ih =>
    rw [List.length_cons, ih, sizeAll, size]
    omega
  | case3 tag children pending ih =>
    rw [List.length_cons, ih, sizeAll, size, sizeAll_append]
    omega

/-- The loop over a tree ends after one turn for each element. -/
lemma turns_singleton (n : ℕ) (t : Tree) :
    (turns n [t]).1 = t.preorder.take n ∧ ((turns n [t]).2 = [] ↔ t.size ≤ n) := by
  obtain ⟨hvisited, hleft⟩ := turns_eq n [t]
  rw [List.reverse_singleton] at hvisited hleft
  have hlength : (walk [t]).length = t.size := by
    rw [length_walk, sizeAll, sizeAll, Nat.add_zero]
  refine ⟨by rw [hvisited, ← elements_eq_preorder, elements], ?_⟩
  rw [← List.reverse_eq_nil_iff, ← walk_eq_nil_iff, hleft, List.drop_eq_nil_iff, hlength]

/-! ### Addresses -/

/-- The subtree at an address, which tells the numbers of the children on the way down. -/
def at? (t : Tree) : List ℕ → Option Tree
  | [] => some t
  | i :: a => t.children[i]?.bind (·.at? a)

mutual

/-- The addresses in a tree, in document order. -/
def addresses : Tree → List (List ℕ)
  | .leaf _ => [[]]
  | .node _ children => [] :: addressesAll children

/-- The addresses in a forest, in document order, each with the number of its tree in front. -/
def addressesAll : List Tree → List (List ℕ)
  | [] => []
  | t :: rest => (addresses t).map (0 :: ·) ++ (addressesAll rest).map (List.modifyHead (· + 1))

end

/-- The way down to an address behind another one. -/
lemma at?_append (t : Tree) (a b : List ℕ) : t.at? (a ++ b) = (t.at? a).bind (·.at? b) := by
  induction a generalizing t with
  | nil => rfl
  | cons i a ih =>
    rw [List.cons_append, at?, at?, Option.bind_assoc]
    exact congrArg _ (funext fun c => ih c)

/-- The addresses in a forest are those in its trees. -/
lemma mem_addressesAll {ts : List Tree} {a : List ℕ} :
    a ∈ addressesAll ts ↔ ∃ i b t, a = i :: b ∧ ts[i]? = some t ∧ b ∈ t.addresses := by
  induction ts generalizing a with
  | nil => simp [addressesAll]
  | cons t ts ih =>
    rw [addressesAll, List.mem_append, List.mem_map, List.mem_map]
    constructor
    · rintro (⟨b, hb, rfl⟩ | ⟨a, ha, rfl⟩)
      · exact ⟨0, b, t, rfl, rfl, hb⟩
      · obtain ⟨i, b, s, rfl, hs, hb⟩ := ih.1 ha
        exact ⟨i + 1, b, s, rfl, hs, hb⟩
    · rintro ⟨_ | i, b, s, rfl, hs, hb⟩
      · exact .inl ⟨b, Option.some.inj hs ▸ hb, rfl⟩
      · exact .inr ⟨i :: b, ih.2 ⟨i, b, s, rfl, hs, hb⟩, rfl⟩

/-- **The addresses in a tree are those that lead to a subtree.** -/
theorem mem_addresses_iff {t : Tree} {a : List ℕ} : a ∈ t.addresses ↔ (t.at? a).isSome = true := by
  induction t using Tree.induction generalizing a with
  | leaf token => cases a <;> simp [addresses, at?, children]
  | node tag children ih =>
    cases a with
    | nil => simp [addresses, at?]
    | cons i a =>
      rw [addresses, List.mem_cons, or_iff_right (List.cons_ne_nil i a), mem_addressesAll, at?,
        Tree.children]
      cases hc : children[i]? with
      | none => simp [hc]
      | some c => simp [hc, ih c (List.mem_of_getElem? hc)]

mutual

/-- No address is listed twice. -/
lemma nodup_addresses (t : Tree) : t.addresses.Nodup := by
  cases t with
  | leaf token => exact List.nodup_singleton []
  | node tag children =>
    rw [addresses, List.nodup_cons]
    refine ⟨fun h => ?_, nodup_addressesAll children⟩
    obtain ⟨i, b, _, hnil, _⟩ := mem_addressesAll.1 h
    cases hnil

/-- No address is listed twice. -/
lemma nodup_addressesAll (ts : List Tree) : (addressesAll ts).Nodup := by
  cases ts with
  | nil => exact List.nodup_nil
  | cons t ts =>
    have hshift : Function.Injective (List.modifyHead (· + 1) : List ℕ → List ℕ) := by
      rintro (_ | ⟨i, a⟩) (_ | ⟨j, b⟩) h <;> simp_all
    rw [addressesAll, List.nodup_append]
    refine ⟨(nodup_addresses t).map List.cons_injective, (nodup_addressesAll ts).map hshift, ?_⟩
    rintro _ hfirst _ hrest rfl
    obtain ⟨a, _, rfl⟩ := List.mem_map.1 hfirst
    obtain ⟨b, hb, heq⟩ := List.mem_map.1 hrest
    obtain ⟨i, b, _, rfl, _⟩ := mem_addressesAll.1 hb
    cases heq

end

/-! ### Elements by their addresses -/

/-- The subtree at an address in a forest, the first number telling the tree. -/
def atAll? (ts : List Tree) : List ℕ → Option Tree
  | [] => none
  | i :: a => ts[i]?.bind (·.at? a)

/-- One more tree in front shifts the addresses of the others. -/
lemma atAll?_modifyHead (t : Tree) (ts : List Tree) (a : List ℕ) :
    atAll? (t :: ts) (a.modifyHead (· + 1)) = atAll? ts a := by
  cases a <;> rfl

/-- An address in a forest leads to the same subtree below a node. -/
lemma at?_node (tag : String) (children : List Tree) {a : List ℕ}
    (h : a ∈ addressesAll children) : (Tree.node tag children).at? a = atAll? children a := by
  obtain ⟨i, b, _, rfl, _⟩ := mem_addressesAll.1 h
  rfl

mutual

/-- **The elements of a tree are the subtrees at its addresses.** -/
theorem map_at?_addresses (t : Tree) : t.addresses.map t.at? = t.preorder.map some := by
  cases t with
  | leaf token => rfl
  | node tag children =>
    rw [addresses, preorder, List.map_cons, List.map_cons, ← map_atAll?_addressesAll children]
    exact congrArg _ (List.map_congr_left fun a ha => at?_node tag children ha)

/-- The elements of a forest are the subtrees at its addresses. -/
theorem map_atAll?_addressesAll (ts : List Tree) :
    (addressesAll ts).map (atAll? ts) = (preorderAll ts).map some := by
  cases ts with
  | nil => rfl
  | cons t ts =>
    rw [addressesAll, preorderAll, List.map_append, List.map_append, List.map_map, List.map_map,
      ← map_at?_addresses t, ← map_atAll?_addressesAll ts]
    exact congrArg _ (List.map_congr_left fun a _ => atAll?_modifyHead t ts a)

end

/-- What is selected from the elements of a tree is what is selected at its addresses. -/
lemma filterMap_elements {β : Type} (t : Tree) (g : Tree → Option β) :
    t.elements.filterMap g = t.addresses.filterMap fun a => (t.at? a).bind g := by
  calc t.elements.filterMap g = (t.preorder.map some).filterMap (·.bind g) := by
        rw [elements_eq_preorder, List.filterMap_map]
        rfl
    _ = t.addresses.filterMap fun a => (t.at? a).bind g := by
        rw [← map_at?_addresses, List.filterMap_map]
        rfl

/-! ### Segments -/

/-- The occurrences in a tree of a forest come one after another. -/
lemma exists_addressesAll_eq {ts : List Tree} {i : ℕ} {t : Tree} (h : ts[i]? = some t) :
    ∃ before after, addressesAll ts = before ++ t.addresses.map (i :: ·) ++ after := by
  induction ts generalizing i with
  | nil => simp at h
  | cons s ts ih =>
    cases i with
    | zero =>
      obtain rfl : s = t := by simpa using h
      exact ⟨[], (addressesAll ts).map (List.modifyHead (· + 1)), rfl⟩
    | succ i =>
      obtain ⟨before, after, hsplit⟩ := ih (by simpa using h)
      refine ⟨s.addresses.map (0 :: ·) ++ before.map (List.modifyHead (· + 1)),
        after.map (List.modifyHead (· + 1)), ?_⟩
      rw [addressesAll, hsplit, List.map_append, List.map_append, List.map_map, List.append_assoc,
        List.append_assoc, List.append_assoc]
      rfl

/-- **The occurrences in a subtree come one after another**: their addresses form a segment. -/
theorem exists_addresses_eq {t s : Tree} {a : List ℕ} (h : t.at? a = some s) :
    ∃ before after, t.addresses = before ++ s.addresses.map (a ++ ·) ++ after := by
  induction a generalizing t with
  | nil =>
    obtain rfl : t = s := by simpa [at?] using h
    exact ⟨[], [], by simp⟩
  | cons i a ih =>
    obtain ⟨c, hc, hs⟩ := Option.bind_eq_some_iff.1 h
    obtain ⟨before, after, hsplit⟩ := ih hs
    cases t with
    | leaf token => simp [children] at hc
    | node tag children =>
      rw [Tree.children] at hc
      obtain ⟨front, back, hforest⟩ := exists_addressesAll_eq hc
      refine ⟨[] :: (front ++ before.map (i :: ·)), after.map (i :: ·) ++ back, ?_⟩
      rw [addresses, hforest, hsplit]
      simp [List.map_map, Function.comp_def]

/-- The token at an address. -/
def token? (t : Tree) (a : List ℕ) : Option Leaf :=
  (t.at? a).bind leaf?

/-- The tokens that are found are those at the addresses in the tree. -/
lemma leaves_eq_filterMap (t : Tree) : t.leaves = t.addresses.filterMap t.token? :=
  filterMap_elements t leaf?

/-- The tokens of a subtree are those at the addresses behind its own. -/
lemma filterMap_token?_map {t s : Tree} {a : List ℕ} (h : t.at? a = some s) :
    (s.addresses.map (a ++ ·)).filterMap t.token? = s.leaves := by
  rw [leaves_eq_filterMap, List.filterMap_map]
  refine List.filterMap_congr fun b _ => ?_
  rw [Function.comp_apply, token?, at?_append, h, Option.bind_some, token?]

/-! ### The tokens from left to right -/

mutual

/-- The tokens of a tree from left to right. -/
def fringe : Tree → List Leaf
  | .leaf token => [token]
  | .node _ children => fringeAll children

/-- The tokens of a forest from left to right. -/
def fringeAll : List Tree → List Leaf
  | [] => []
  | t :: rest => fringe t ++ fringeAll rest

end

mutual

/-- The tokens that are found are those of the fringe. -/
lemma leaves_eq_fringe (t : Tree) : t.leaves = t.fringe := by
  cases t with
  | leaf token => rw [leaves_leaf, fringe]
  | node tag children => rw [leaves_node, fringe, flatMap_leaves_eq_fringeAll children]

/-- The tokens that are found in the trees of a forest are those of its fringe. -/
lemma flatMap_leaves_eq_fringeAll (ts : List Tree) : ts.flatMap leaves = fringeAll ts := by
  cases ts with
  | nil => rfl
  | cons t ts =>
    rw [List.flatMap_cons, fringeAll, leaves_eq_fringe t, flatMap_leaves_eq_fringeAll ts]

end

/-! ### Traversals and searches -/

/-- The first node with a tag is where a search along the elements stops. -/
lemma firstTagged?_eq_findSome? (t : Tree) (tag : String) :
    t.firstTagged? tag = t.elements.findSome? fun s => s.node?.filter (·.tag == tag) := by
  rw [firstTagged?, nodesTagged, List.filter_filterMap, List.head?_filterMap]

/-- **A traversal visits each occurrence in a tree once, in document order.** The loop over a stack
of pending trees ends after one turn for each element, and up to then it has visited the first of
the elements that recursion on the tree lists: the tree itself, and then those of its children from
left to right. These are the subtrees at the addresses in the tree, of which each is listed once.
The searches select from them: the interior nodes with a tag, the first one of them, at which a
search along the elements stops, and the tokens from left to right. The occurrences in a subtree are
listed one after another, and so its tokens are a segment of those of the tree.

**Proof sketch.** The elements that were visited and those of the walk over the pending trees make
up the same list after each turn (`turns_eq`). An address below a node is the number of a child and
an address in it, so the laws about addresses follow by recursion on the tree or on the address. -/
theorem traversal_law (t : Tree) :
    (∀ n, (turns n [t]).1 = t.preorder.take n ∧ ((turns n [t]).2 = [] ↔ t.size ≤ n)) ∧
    t.elements = t.preorder ∧
    (t.addresses.Nodup ∧ (∀ a, a ∈ t.addresses ↔ (t.at? a).isSome = true) ∧
      t.elements.map some = t.addresses.map t.at?) ∧
    (∀ tag, t.nodesTagged tag = (t.preorder.filterMap node?).filter (·.tag == tag) ∧
      t.firstTagged? tag = (t.preorder.findSome? fun s => s.node?.filter (·.tag == tag)) ∧
      t.firstTagged? tag = (t.nodesTagged tag).head?) ∧
    t.leaves = t.fringe ∧
    ∀ a s, t.at? a = some s → ∃ before after,
      t.addresses = before ++ s.addresses.map (a ++ ·) ++ after ∧
      t.leaves = before.filterMap t.token? ++ s.leaves ++ after.filterMap t.token? := by
  refine ⟨fun n => turns_singleton n t, elements_eq_preorder t, ⟨nodup_addresses t,
    fun a => mem_addresses_iff, ?_⟩, fun tag => ⟨?_, ?_, rfl⟩, leaves_eq_fringe t,
    fun a s h => ?_⟩
  · rw [elements_eq_preorder, map_at?_addresses]
  · rw [nodesTagged, elements_eq_preorder]
  · rw [firstTagged?_eq_findSome?, elements_eq_preorder]
  · obtain ⟨before, after, hsplit⟩ := exists_addresses_eq h
    refine ⟨before, after, hsplit, ?_⟩
    rw [leaves_eq_filterMap t, hsplit, List.filterMap_append, List.filterMap_append,
      filterMap_token?_map h]

end FlopCensus.Tree
