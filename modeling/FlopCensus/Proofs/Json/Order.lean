import FlopCensus.Proofs.Json.Writing
import Mathlib.Data.List.Perm.Basic
import Mathlib.Data.String.Basic
import Mathlib.Tactic.Common

set_option autoImplicit false
set_option relaxedAutoImplicit false

/-!
# The order of members

Sorting brings the members of every object into the order of their names. If the names in each
object are distinct, there is only one such order, so that two values become the same if and only if
they differ at most in the order of members, at whatever depth.

## Main definitions

* `FlopCensus.Json.Value.Reordered` — values that differ at most in the order of members.

## Main results

* `FlopCensus.Json.Value.IsPlain.sorted` — a plain value is plain when sorted.
* `FlopCensus.Json.Value.sorted_eq_iff` — which values are the same when sorted.
-/

namespace FlopCensus.Json.Value

mutual

/-- The two values differ at most in the order of members. -/
inductive Reordered : Value → Value → Prop
  | null : Reordered .null .null
  | bool (b : Bool) : Reordered (.bool b) (.bool b)
  | int (i : Int) : Reordered (.int i) (.int i)
  | real (x : Float) : Reordered (.real x) (.real x)
  | text (s : String) : Reordered (.text s) (.text s)
  | array {items others : List Value} (h : List.Forall₂ Reordered items others) :
      Reordered (.array items) (.array others)
  | object {members between others : List (String × Value)}
      (h : List.Forall₂ ReorderedMember members between) (order : between.Perm others) :
      Reordered (.object members) (.object others)

/-- The two members have the same name, and values that differ at most in the order of members. -/
inductive ReorderedMember : String × Value → String × Value → Prop
  | intro (name : String) {v w : Value} (h : Reordered v w) : ReorderedMember (name, v) (name, w)

end

/-! ### Relations between lists -/

/-- Relations that agree on the elements of two lists agree on the lists. -/
lemma forall₂_congr_of_mem {α β : Type} {R S : α → β → Prop} {xs : List α} {ys : List β}
    (h : ∀ x ∈ xs, ∀ y ∈ ys, (R x y ↔ S x y)) : List.Forall₂ R xs ys ↔ List.Forall₂ S xs ys := by
  rw [List.forall₂_iff_zip, List.forall₂_iff_zip]
  refine and_congr_right fun _ => forall₂_congr fun x y => imp_congr_right fun hmem => ?_
  obtain ⟨hx, hy⟩ := List.of_mem_zip hmem
  exact h x hx y hy

/-- Two lists have the same images if their elements do. -/
lemma map_eq_map_iff_forall₂ {α β γ : Type} {f : α → γ} {g : β → γ} {xs : List α} {ys : List β} :
    xs.map f = ys.map g ↔ List.Forall₂ (fun x y => f x = g y) xs ys := by
  rw [← List.forall₂_eq_eq_eq, List.forall₂_map_left_iff, List.forall₂_map_right_iff]

/-! ### Sorting -/

/-- A member with its value sorted. -/
def sortedMember (m : String × Value) : String × Value :=
  (m.1, m.2.sorted)

/-- Items are sorted one by one. -/
lemma sortedItems_eq_map (items : List Value) : sortedItems items = items.map sorted := by
  induction items with
  | nil => rfl
  | cons v items ih => rw [sortedItems, ih, List.map_cons]

/-- A member is put between the others. -/
lemma insertMember_perm (m : String × Value) (members : List (String × Value)) :
    (insertMember m members).Perm (m :: members) := by
  induction members with
  | nil => exact .refl _
  | cons n members ih =>
    rw [insertMember]
    split
    · exact .refl _
    · exact (ih.cons n).trans (.swap m n members)

/-- No member is lost and none is new. -/
lemma sortedMembers_perm (members : List (String × Value)) :
    (sortedMembers members).Perm (members.map sortedMember) := by
  induction members with
  | nil => exact .refl _
  | cons m members ih =>
    rw [sortedMembers, List.map_cons]
    exact (insertMember_perm _ _).trans (ih.cons _)

/-- The names of members stay when their values are sorted. -/
lemma map_fst_sortedMember (members : List (String × Value)) :
    (members.map sortedMember).map Prod.fst = members.map Prod.fst := by
  rw [List.map_map]
  rfl

/-- The members are in the order of their names. -/
def IsOrdered (members : List (String × Value)) : Prop :=
  members.Pairwise fun m n => m.1 < n.1

/-- A member of a new name is put where it keeps the order. -/
lemma IsOrdered.insertMember {m : String × Value} {members : List (String × Value)}
    (h : IsOrdered members) (hne : ∀ n ∈ members, m.1 ≠ n.1) :
    IsOrdered (insertMember m members) := by
  induction members with
  | nil => exact List.pairwise_singleton _ _
  | cons n members ih =>
    obtain ⟨hfirst, hrest⟩ := List.pairwise_cons.1 h
    rw [Value.insertMember]
    split
    · rename_i hlt
      -- the new member comes first
      refine List.Pairwise.cons (fun k hk => ?_) h
      rcases List.mem_cons.1 hk with rfl | hk
      · exact hlt
      · exact hlt.trans (hfirst k hk)
    · rename_i hle
      -- the new member comes later, so the first one stays in front
      have hlt : n.1 < m.1 := lt_of_le_of_ne (not_lt.1 hle) (hne n List.mem_cons_self).symm
      have hothers := ih hrest fun k hk => hne k (List.mem_cons_of_mem _ hk)
      refine List.Pairwise.cons (fun k hk => ?_) hothers
      rcases List.mem_cons.1 ((insertMember_perm m members).mem_iff.1 hk) with rfl | hk
      · exact hlt
      · exact hfirst k hk

/-- Members of distinct names come into order. -/
lemma isOrdered_sortedMembers {members : List (String × Value)}
    (names : (members.map Prod.fst).Nodup) : IsOrdered (sortedMembers members) := by
  induction members with
  | nil => exact .nil
  | cons m members ih =>
    obtain ⟨hnew, hrest⟩ := List.nodup_cons.1 names
    rw [sortedMembers]
    refine (ih hrest).insertMember fun n hn hname => hnew ?_
    rw [← map_fst_sortedMember, hname]
    exact List.mem_map_of_mem ((sortedMembers_perm members).mem_iff.1 hn)

/-- Members of distinct names are the same when sorted if and only if they are the same, each with
its value sorted, in any order. -/
lemma sortedMembers_eq_iff {members others : List (String × Value)}
    (names : (members.map Prod.fst).Nodup) (names' : (others.map Prod.fst).Nodup) :
    sortedMembers members = sortedMembers others ↔
      (members.map sortedMember).Perm (others.map sortedMember) := by
  have hmembers := sortedMembers_perm members
  have hothers := sortedMembers_perm others
  constructor
  · intro h
    rw [h] at hmembers
    exact hmembers.symm.trans hothers
  · intro h
    refine List.Perm.eq_of_pairwise (fun m n _ _ hlt hgt => ?_) (isOrdered_sortedMembers names)
      (isOrdered_sortedMembers names') (hmembers.trans (h.trans hothers.symm))
    exact absurd (hlt.trans hgt) (lt_irrefl m.1)

/-- **A plain value is plain when sorted.** -/
theorem IsPlain.sorted {v : Value} (h : v.IsPlain) : v.sorted.IsPlain := by
  induction h with
  | null => exact .null
  | bool b => exact .bool b
  | int h => exact .int h
  | text s => exact .text s
  | array _ ih =>
    rw [Value.sorted, sortedItems_eq_map]
    exact .array (List.forall_mem_map.2 ih)
  | @object members names _ ih =>
    have hperm := sortedMembers_perm members
    rw [Value.sorted]
    refine .object ?_ fun m hm => ?_
    · rwa [(hperm.map Prod.fst).nodup_iff, map_fst_sortedMember]
    · obtain ⟨n, hn, rfl⟩ := List.mem_map.1 (hperm.mem_iff.1 hm)
      exact ih n hn

/-! ### Values that are the same when sorted -/

/-- Which arrays differ at most in the order of members. -/
lemma reordered_array_iff {items others : List Value} :
    Reordered (.array items) (.array others) ↔ List.Forall₂ Reordered items others := by
  constructor
  · intro h
    cases h with
    | array h => exact h
  · exact .array

/-- Which objects differ at most in the order of members. -/
lemma reordered_object_iff {members others : List (String × Value)} :
    Reordered (.object members) (.object others) ↔
      ∃ between, List.Forall₂ ReorderedMember members between ∧ between.Perm others := by
  constructor
  · intro h
    cases h with
    | object h order => exact ⟨_, h, order⟩
  · rintro ⟨between, h, order⟩
    exact .object h order

/-- Which members differ at most in the order of members in them. -/
lemma reorderedMember_iff {m n : String × Value} :
    ReorderedMember m n ↔ m.1 = n.1 ∧ Reordered m.2 n.2 := by
  constructor
  · rintro ⟨name, h⟩
    exact ⟨rfl, h⟩
  · obtain ⟨name, v⟩ := m
    rintro ⟨rfl, h⟩
    exact .intro _ h

/-- Members with values in any order, told by what lies between. -/
lemma perm_map_sortedMember_iff {members others : List (String × Value)} :
    (members.map sortedMember).Perm (others.map sortedMember) ↔
      ∃ between, List.Forall₂ (fun m n => sortedMember m = sortedMember n) members between ∧
        between.Perm others := by
  have hcomp := congrFun (congrFun (List.eq_map_comp_perm sortedMember) (members.map sortedMember))
    others
  simp only [Relation.Comp, map_eq_map_iff_forall₂] at hcomp
  rw [← hcomp]

/-- **Two plain values are the same when sorted if and only if they differ at most in the order of
members.**

**Proof sketch.** By induction on the first value. Items are compared one by one. Sorted members are
the same if and only if there is an order of the members of the second object in which each has the
name and the sorted value of the member of the first one in its place. -/
theorem sorted_eq_iff {v w : Value} (hv : v.IsPlain) (hw : w.IsPlain) :
    v.sorted = w.sorted ↔ Reordered v w := by
  induction hv generalizing w with
  | null | bool | int | text =>
    constructor
    · intro h
      cases hw <;> simp only [sorted] at h <;> cases h
      all_goals constructor
    · rintro ⟨⟩
      rfl
  | @array items _ ih =>
    cases hw with
    | @array others hothers =>
      have hitems : List.Forall₂ (fun v w => v.sorted = w.sorted) items others ↔
          List.Forall₂ Reordered items others :=
        forall₂_congr_of_mem fun v hv w hw => ih v hv (hothers w hw)
      rw [sorted, sorted, array.injEq, sortedItems_eq_map, sortedItems_eq_map,
        map_eq_map_iff_forall₂, hitems, reordered_array_iff]
    | null | bool | int | text | object =>
      exact iff_of_false (by simp [sorted]) (by rintro ⟨⟩)
  | @object members names _ ih =>
    cases hw with
    | @object others names' hothers =>
      -- the members of the other object are met in each order that they can have
      have hmembers : ∀ between, between.Perm others →
          (List.Forall₂ (fun m n => sortedMember m = sortedMember n) members between ↔
            List.Forall₂ ReorderedMember members between) := by
        intro between order
        refine forall₂_congr_of_mem fun m hm n hn => ?_
        rw [sortedMember, sortedMember, Prod.mk.injEq, reorderedMember_iff,
          ih m hm (hothers n (order.mem_iff.1 hn))]
      rw [sorted, sorted, object.injEq, sortedMembers_eq_iff names names',
        perm_map_sortedMember_iff, reordered_object_iff]
      exact exists_congr fun between => and_congr_left fun order => hmembers between order
    | null | bool | int | text | array =>
      exact iff_of_false (by simp [sorted]) (by rintro ⟨⟩)

end FlopCensus.Json.Value
