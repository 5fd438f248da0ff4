import FlopCensus.Proofs.Inventory.Grouping
import Mathlib.Data.List.Basic
import Mathlib.Tactic.Common

set_option autoImplicit false
set_option relaxedAutoImplicit false

/-!
# Merged inventories

Inventories are merged part by part or all at once, with the same outcome. The views of the outcome
are had from the views of the parts: the totals and the counts are added up, and the groups of a
module are joined. So the views of a design with many files can be had from those of its files,
without going back to the registers.

## Main definitions

* `FlopCensus.Inventory.addCounts` — counts by classification, added up.
* `FlopCensus.Inventory.joinGroups` — groups by module, joined.

## Main results

* `FlopCensus.Inventory.merge_append`, `FlopCensus.Inventory.merge_map_merge` — merging in steps.
* `FlopCensus.Inventory.byType_merge`, `FlopCensus.Inventory.byModule_merge` — the views of a merge.
* `FlopCensus.Inventory.ofModule_merge` — restricting a merge to a module.
* `FlopCensus.Inventory.merge_is_homomorphism` — merging respects all views.
-/

namespace FlopCensus.Inventory

/-! ### Merging in steps -/

/-- Merging goes through the parts one by one. -/
lemma merge_cons (inv : Inventory) (parts : List Inventory) :
    merge (inv :: parts) = inv.append (merge parts) := rfl

/-- Merging some parts and merging the others comes to merging all of them. -/
theorem merge_append (parts others : List Inventory) :
    merge (parts ++ others) = (merge parts).append (merge others) := by
  simp [merge, append]

/-- **Merging merges** comes to merging everything at once. -/
theorem merge_map_merge (groups : List (List Inventory)) :
    merge (groups.map merge) = merge groups.flatten := by
  induction groups with
  | nil => rfl
  | cons parts groups ih =>
    rw [List.map_cons, merge_cons, ih, List.flatten_cons, merge_append]

/-- Nothing comes before an inventory. -/
@[simp] lemma empty_append (inv : Inventory) : empty.append inv = inv := rfl

/-- An inventory that is the only part is the merge. -/
lemma merge_singleton (inv : Inventory) : merge [inv] = inv := by
  simp [merge]

/-- Nothing among the parts changes nothing. -/
lemma merge_append_empty (before behind : List Inventory) :
    merge (before ++ empty :: behind) = merge (before ++ behind) := by
  rw [merge_append, merge_cons, empty_append, merge_append]

/-! ### Totals -/

/-- The registers of a merge are as many as those of its parts. -/
lemma totalRegisters_merge (parts : List Inventory) :
    (merge parts).totalRegisters = (parts.map totalRegisters).foldr (· + ·) 0 := by
  induction parts with
  | nil => rfl
  | cons inv parts ih =>
    rw [List.map_cons, List.foldr_cons, ← ih, merge_cons]
    exact List.length_append

/-- The bits of two inventories side by side. -/
lemma totalBits_append (a b : Inventory) : (a.append b).totalBits = a.totalBits + b.totalBits := by
  have hsum : ∀ rs : List Register, ((rs ++ b.registers).map (·.width)).foldr (· + ·) 0 =
      (rs.map (·.width)).foldr (· + ·) 0 + b.totalBits := by
    intro rs
    induction rs with
    | nil => exact (Int.zero_add _).symm
    | cons r rs ih =>
      rw [List.cons_append, List.map_cons, List.foldr_cons, ih, List.map_cons, List.foldr_cons,
        Int.add_assoc]
  exact hsum a.registers

/-- The bits of a merge are as many as those of its parts. -/
lemma totalBits_merge (parts : List Inventory) :
    (merge parts).totalBits = (parts.map totalBits).foldr (· + ·) 0 := by
  induction parts with
  | nil => rfl
  | cons inv parts ih =>
    rw [List.map_cons, List.foldr_cons, ← ih, merge_cons, totalBits_append]

/-! ### Counts by classification -/

/-- Counts by classification, added up: the known classifications in their order, then the others
in order of first occurrence, each with the sum of its counts. -/
def addCounts (counts : List (Ledger Classification Nat)) : Ledger Classification Nat :=
  let present := distinct (counts.flatMap (·.map Prod.fst))
  (Classification.known.filter (present.contains ·) ++
    present.filter fun c => !Classification.known.contains c).map fun c =>
      (c, (counts.map fun l => (l.lookup c).getD 0).foldr (· + ·) 0)

/-- What an inventory counts for a classification. -/
lemma lookup_byType (inv : Inventory) (c : Classification) :
    (inv.byType.lookup c).getD 0 = inv.registers.countP fun r => r.classification = c := by
  rw [byType, Ledger.lookup_map]
  split
  · rfl
  · rename_i habsent
    refine (List.countP_eq_zero.2 fun r hr hclass => habsent ?_).symm
    exact mem_kinds.2 ⟨r, hr, by simpa using hclass⟩

/-- The registers of a merge with some property are those of its parts. -/
lemma countP_merge (p : Register → Bool) (parts : List Inventory) :
    (merge parts).registers.countP p =
      (parts.map fun inv => inv.registers.countP p).foldr (· + ·) 0 := by
  induction parts with
  | nil => rfl
  | cons inv parts ih =>
    rw [List.map_cons, List.foldr_cons, ← ih, merge_cons]
    exact List.countP_append

/-- The classifications of a merge are those of its parts. -/
lemma kinds_merge (parts : List Inventory) :
    (merge parts).kinds =
      let present := distinct (parts.flatMap kinds)
      Classification.known.filter (present.contains ·) ++
        present.filter fun c => !Classification.known.contains c := by
  have hknown : ∀ c, c ∈ (merge parts).registers.map (·.classification) ↔
      c ∈ parts.flatMap kinds := by
    intro c
    simp only [merge, List.map_flatMap, List.mem_flatMap, List.mem_map, mem_kinds]
  -- the known classifications are put in front part by part, which leaves the others in order
  have hothers : ∀ inv : Inventory, inv.kinds.filter (fun c => !Classification.known.contains c) =
      distinct ((inv.registers.map (·.classification)).filter
        fun c => !Classification.known.contains c) := by
    intro inv
    have hfront : (Classification.known.filter fun c =>
        (distinct (inv.registers.map (·.classification))).contains c).filter
          (fun c => !Classification.known.contains c) = [] :=
      List.filter_eq_nil_iff.2 fun c hc => by simp [(List.mem_filter.1 hc).1]
    rw [kinds, List.filter_append, hfront, List.nil_append, List.filter_filter, distinct_filter]
    simp
  rw [kinds]
  refine congrArg₂ _ (List.filter_congr fun c _ => ?_) ?_
  · rw [Bool.eq_iff_iff]
    simpa using hknown c
  · rw [← distinct_filter, ← distinct_filter, List.filter_flatMap]
    simp only [hothers, distinct_flatMap_distinct]
    simp only [merge, List.map_flatMap, List.filter_flatMap]

/-- **The counts of a merge are the sums of the counts of its parts.** -/
theorem byType_merge (parts : List Inventory) :
    (merge parts).byType = addCounts (parts.map byType) := by
  rw [byType, addCounts, kinds_merge]
  simp only [List.flatMap_map, map_fst_byType, List.map_map, Function.comp_def, lookup_byType,
    countP_merge]

/-! ### Groups by module -/

/-- Groups by module, joined: the modules in order of first occurrence, each with its groups side by
side. -/
def joinGroups (groups : List (Ledger String (List Register))) : Ledger String (List Register) :=
  (distinct (groups.flatMap (·.map Prod.fst))).map fun m =>
    (m, groups.flatMap fun l => (l.lookup m).getD [])

/-- The group of a module. -/
lemma lookup_byModule (inv : Inventory) (m : String) :
    (inv.byModule.lookup m).getD [] = inv.registers.filter fun r => r.module = m := by
  rw [byModule, Ledger.lookup_map]
  split
  · rfl
  · rename_i habsent
    refine (List.filter_eq_nil_iff.2 fun r hr howner => habsent ?_).symm
    exact mem_distinct.2 (List.mem_map.2 ⟨r, hr, by simpa using howner⟩)

/-- **The groups of a merge are the groups of its parts, joined.** -/
theorem byModule_merge (parts : List Inventory) :
    (merge parts).byModule = joinGroups (parts.map byModule) := by
  have hnames : distinct ((merge parts).registers.map (·.module)) =
      distinct (parts.flatMap fun inv => distinct (inv.registers.map (·.module))) := by
    rw [distinct_flatMap_distinct, merge, List.map_flatMap]
  have hgroup : ∀ m, (merge parts).registers.filter (fun r => r.module = m) =
      parts.flatMap fun inv => inv.registers.filter fun r => r.module = m := by
    intro m
    rw [merge, List.filter_flatMap]
  rw [byModule, joinGroups, hnames]
  simp only [List.flatMap_map, map_fst_byModule, lookup_byModule, hgroup]

/-! ### Restriction -/

/-- **Restricting a merge** comes to merging the restrictions of its parts. -/
theorem ofModule_merge (parts : List Inventory) (name : String) :
    (merge parts).ofModule name = merge (parts.map (·.ofModule name)) := by
  simp [merge, ofModule, List.filter_flatMap, List.flatMap_map]

/-- Restricting twice to the same module changes nothing. -/
lemma ofModule_ofModule (inv : Inventory) (name : String) :
    (inv.ofModule name).ofModule name = inv.ofModule name := by
  simp [ofModule]

/-- **Merging respects all views.** Merging merges comes to merging everything at once, and nothing
among the parts changes nothing. The totals of a merge are the sums of those of its parts, its
counts by classification are their counts added up, its groups by module are their groups joined,
and its restriction to a module is the merge of their restrictions, which can be restricted again
without effect. -/
theorem merge_is_homomorphism :
    (∀ groups : List (List Inventory), merge (groups.map merge) = merge groups.flatten) ∧
    (∀ before behind, merge (before ++ empty :: behind) = merge (before ++ behind)) ∧
    (∀ inv, merge [inv] = inv) ∧
    (∀ parts : List Inventory,
      (merge parts).totalRegisters = (parts.map totalRegisters).foldr (· + ·) 0 ∧
      (merge parts).totalBits = (parts.map totalBits).foldr (· + ·) 0 ∧
      (merge parts).byType = addCounts (parts.map byType) ∧
      (merge parts).byModule = joinGroups (parts.map byModule) ∧
      ∀ name, (merge parts).ofModule name = merge (parts.map (·.ofModule name))) ∧
    ∀ (inv : Inventory) (name : String), (inv.ofModule name).ofModule name = inv.ofModule name :=
  ⟨merge_map_merge, merge_append_empty, merge_singleton,
    fun parts => ⟨totalRegisters_merge parts, totalBits_merge parts, byType_merge parts,
      byModule_merge parts, ofModule_merge parts⟩,
    ofModule_ofModule⟩

end FlopCensus.Inventory
