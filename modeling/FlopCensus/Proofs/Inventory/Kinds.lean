import FlopCensus.Inventory.Basic
import Mathlib.Data.Finset.Card
import Mathlib.Tactic.Common

set_option autoImplicit false
set_option relaxedAutoImplicit false

/-!
# The classifications that occur

A view of an inventory has an entry for each classification that occurs in it, and no other.

## Main results

* `FlopCensus.Inventory.mem_distinct`, `FlopCensus.Inventory.nodup_distinct` — the keys of a list.
* `FlopCensus.Inventory.mem_kinds`, `FlopCensus.Inventory.nodup_kinds` — the classifications.
* `FlopCensus.Inventory.length_byType` — the number of entries.
-/

namespace FlopCensus

/-- The name tells the classification. -/
lemma Classification.name_injective : Function.Injective Classification.name := by
  rintro ⟨c⟩ ⟨d⟩ rfl
  rfl

namespace Inventory

section Distinct

variable {α : Type} [DecidableEq α]

/-- The keys of a list are its elements. -/
@[simp]
lemma mem_distinct {a : α} {xs : List α} : a ∈ distinct xs ↔ a ∈ xs := by
  induction xs with
  | nil => simp [distinct]
  | cons x xs ih =>
    by_cases h : a = x
    · simp [distinct, h]
    · simp [distinct, h, ih]

/-- No key is there twice. -/
lemma nodup_distinct (xs : List α) : (distinct xs).Nodup := by
  induction xs with
  | nil => exact List.nodup_nil
  | cons x xs ih =>
    rw [distinct, List.nodup_cons]
    exact ⟨by simp, ih.filter _⟩

end Distinct

/-- **The classifications in the summary** are those of the registers. -/
theorem mem_kinds {inv : Inventory} {c : Classification} :
    c ∈ inv.kinds ↔ ∃ r ∈ inv.registers, r.classification = c := by
  rw [← List.mem_map, kinds, List.mem_append, List.mem_filter, List.mem_filter]
  by_cases h : c ∈ Classification.known <;> simp [h]

/-- No classification is there twice. -/
theorem nodup_kinds (inv : Inventory) : inv.kinds.Nodup := by
  have hknown : Classification.known.Nodup := by decide
  rw [kinds]
  refine (hknown.filter _).append ((nodup_distinct _).filter _) fun c hc hother => ?_
  have hmem := (List.mem_filter.1 hc).1
  simp [hmem] at hother

/-- There is an entry for each classification that occurs. -/
theorem length_byType (inv : Inventory) :
    inv.byType.length = (inv.registers.map (·.classification)).toFinset.card := by
  have hset : inv.kinds.toFinset = (inv.registers.map (·.classification)).toFinset := by
    ext c
    rw [List.mem_toFinset, List.mem_toFinset, mem_kinds, List.mem_map]
  rw [byType, List.length_map, ← hset, List.toFinset_card_of_nodup inv.nodup_kinds]

end Inventory

end FlopCensus
