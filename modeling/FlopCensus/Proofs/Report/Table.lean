import FlopCensus.Proofs.Numeral.Reading
import FlopCensus.Report.Table
import Mathlib.Data.List.Basic
import Mathlib.Tactic.Common

set_option autoImplicit false
set_option relaxedAutoImplicit false

/-!
# The texts in a table

A table shows each register and each module as a row of texts. It exists as soon as the integers in
it can be written.

## Main definitions

* `FlopCensus.Register.texts`, `FlopCensus.ModuleSummary.texts` — the texts of a row.
* `FlopCensus.Register.names`, `FlopCensus.ModuleSummary.names` — those that are not numbers.
* `FlopCensus.Register.IsWritable`, `FlopCensus.ModuleSummary.IsWritable`,
  `FlopCensus.Inventory.IsWritable` — the integers can be written.

## Main results

* `FlopCensus.Report.registerTable_of_isWritable`, `FlopCensus.Report.moduleTable_of_isWritable` —
  the rows of the two tables.
-/

namespace FlopCensus

open Numeral

/-- The texts that a table shows of a register. -/
def Register.texts (r : Register) : List String :=
  [r.name, r.module, r.classification.name, intText r.width, r.clock.getD "", r.reset.getD "",
    r.file, intText r.line]

/-- The texts among these that are not numbers. -/
def Register.names (r : Register) : List String :=
  [r.name, r.module, r.classification.name, r.clock.getD "", r.reset.getD "", r.file]

/-- The integers of a register can be written. -/
structure Register.IsWritable (r : Register) : Prop where
  /-- The number of bits. -/
  width : Numeral.IsWritable r.width
  /-- The line. -/
  line : Numeral.IsWritable r.line

/-- The texts that a table shows of a module. -/
def ModuleSummary.texts (m : ModuleSummary) : List String :=
  [m.name, intText m.registerCount, m.file, intText m.line]

/-- The texts among these that are not numbers. -/
def ModuleSummary.names (m : ModuleSummary) : List String :=
  [m.name, m.file]

/-- The integers of a module can be written. -/
structure ModuleSummary.IsWritable (m : ModuleSummary) : Prop where
  /-- The number of registers. -/
  count : Numeral.IsWritable m.registerCount
  /-- The line. -/
  line : Numeral.IsWritable m.line

/-- The integers of an inventory can be written, the number of bits included. -/
structure Inventory.IsWritable (inv : Inventory) : Prop where
  /-- Those of the registers. -/
  registers : ∀ r ∈ inv.registers, r.IsWritable
  /-- Those of the modules. -/
  modules : ∀ m ∈ inv.modules, m.IsWritable
  /-- The number of bits in all registers. -/
  bits : Numeral.IsWritable inv.totalBits

/-- What is true of numbers is true of the texts of a register if it is of its names. -/
lemma Register.forall_mem_texts_iff {P : String → Prop} (hnumber : ∀ i : ℤ, P (intText i))
    (r : Register) : (∀ s ∈ r.texts, P s) ↔ ∀ s ∈ r.names, P s := by
  simp [texts, names, hnumber]

/-- What is true of numbers is true of the texts of a module if it is of its names. -/
lemma ModuleSummary.forall_mem_texts_iff {P : String → Prop} (hnumber : ∀ i : ℤ, P (intText i))
    (m : ModuleSummary) : (∀ s ∈ m.texts, P s) ↔ ∀ s ∈ m.names, P s := by
  simp [texts, names, hnumber]

/-- Numbers of a few digits can be written. -/
lemma Register.isWritable_of_lt {r : Register} (hwidth : r.width.natAbs < 10 ^ 6)
    (hline : r.line.natAbs < 10 ^ 6) : r.IsWritable :=
  ⟨length_decimal_le_limit hwidth, length_decimal_le_limit hline⟩

namespace Report

/-- A computation that succeeds for each element of a list gives the list of its values. -/
lemma mapM_eq_ok {ε α β : Type} {f : α → Except ε β} {g : α → β} {xs : List α}
    (h : ∀ x ∈ xs, f x = .ok (g x)) : xs.mapM f = .ok (xs.map g) := by
  induction xs with
  | nil => rfl
  | cons x xs ih =>
    rw [List.mapM_cons, h x List.mem_cons_self, ih fun y hy => h y (List.mem_cons_of_mem _ hy)]
    rfl

/-- **The table of registers** has the texts of each register, if its integers can be written. -/
theorem registerTable_of_isWritable {registers : List Register}
    (h : ∀ r ∈ registers, r.IsWritable) :
    registerTable registers = .ok ⟨registerHeadings, registers.map Register.texts⟩ := by
  have hcells : ∀ r ∈ registers, registerCells r = .ok r.texts := fun r hr => by
    rw [registerCells, (h r hr).width.write_eq, (h r hr).line.write_eq]
    rfl
  rw [registerTable, mapM_eq_ok hcells]
  rfl

/-- **The table of modules** has the texts of each module, if its integers can be written. -/
theorem moduleTable_of_isWritable {modules : List ModuleSummary}
    (h : ∀ m ∈ modules, m.IsWritable) :
    moduleTable modules = .ok ⟨moduleHeadings, modules.map ModuleSummary.texts⟩ := by
  have hcells : ∀ m ∈ modules, moduleCells m = .ok m.texts := fun m hm => by
    rw [moduleCells, (h m hm).count.write_eq, (h m hm).line.write_eq]
    rfl
  rw [moduleTable, mapM_eq_ok hcells]
  rfl

end Report

end FlopCensus
