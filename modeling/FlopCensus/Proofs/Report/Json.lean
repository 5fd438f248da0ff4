import FlopCensus.Proofs.Inventory.Grouping
import FlopCensus.Proofs.Json.Writing
import FlopCensus.Proofs.Report.Table
import FlopCensus.Report.Json
import Mathlib.Tactic.Common

set_option autoImplicit false
set_option relaxedAutoImplicit false

/-!
# Reports in JSON read back

A report is the record of an inventory, from which the members of the sections that are not asked
for are left out. Whatever the layout, it is read back as exactly this value, with its members in
their order.

## Main definitions

* `FlopCensus.Json.Value.without` — an object without the members of some names.
* `FlopCensus.Report.Json.leftOut` — the names of the members that a report leaves out.

## Main results

* `FlopCensus.Report.Json.isPlain_ofInventory` — the value of an inventory can be written.
* `FlopCensus.Report.Json.ofInventory_eq_without` — sections that are not asked for.
* `FlopCensus.Report.Json.read_report` — a report reads back.
-/

namespace FlopCensus

namespace Json.Value

/-- An object without the members of some names. -/
def without (names : List String) : Value → Value
  | .object members => .object (members.filter fun m => !names.contains m.1)
  | v => v

/-- A value can still be written without some of its members. -/
lemma IsPlain.without {v : Value} (h : v.IsPlain) (names : List String) :
    (v.without names).IsPlain := by
  cases h with
  | object distinct h =>
    refine .object (distinct.sublist (List.filter_sublist.map _)) fun m hm => ?_
    exact h m (List.mem_of_mem_filter hm)
  | null => exact .null
  | bool b => exact .bool b
  | int h => exact .int h
  | text s => exact .text s
  | array h => exact .array h

end Json.Value

namespace Report.Json

open FlopCensus.Json (Value Layout SpellsPadded read read_of_spells write_of_isPlain)

/-! ### Entries -/

/-- A member that is there only if its text is has its own name. -/
lemma isPlain_optional {name : String} {text : Option String} :
    ∀ m ∈ optional name text, m.2.IsPlain := by
  cases text with
  | none => exact List.forall_mem_nil _
  | some s => exact List.forall_mem_singleton.2 (.text s)

/-- A register can be written if its integers can. -/
lemma isPlain_ofRegister {r : Register} (h : r.IsWritable) : (ofRegister r).IsPlain := by
  refine .object ?_ ?_
  · cases r.clock <;> cases r.reset <;> simp [optional]
  · simp only [List.forall_mem_append, List.forall_mem_cons]
    exact ⟨⟨⟨.text _, .int h.width, .int h.line, .text _, .text _, .text _, List.forall_mem_nil _⟩,
      isPlain_optional⟩, isPlain_optional⟩

/-- A module can be written if its integers can. -/
lemma isPlain_ofModule {m : ModuleSummary} (h : m.IsWritable) : (ofModule m).IsPlain := by
  refine .object (by simp) ?_
  simp only [List.forall_mem_cons]
  exact ⟨.text _, .text _, .int h.line, .int h.count, List.forall_mem_nil _⟩

/-- A failure can be written. -/
lemma isPlain_ofFailure (f : FileFailure) : (ofFailure f).IsPlain := by
  refine .object (by simp) ?_
  simp only [List.forall_mem_cons]
  exact ⟨.text _, .text _, List.forall_mem_nil _⟩

/-- Entries that can be written one by one. -/
lemma isPlain_map {α : Type} {f : α → Value} {xs : List α} (h : ∀ x ∈ xs, (f x).IsPlain) :
    (Value.array (xs.map f)).IsPlain :=
  .array (List.forall_mem_map.2 h)

/-! ### Views -/

/-- The counts can be written if the number of registers can. -/
lemma isPlain_byType {inv : Inventory} (htotal : Numeral.IsWritable inv.totalRegisters) :
    (Value.object (inv.byType.map fun (c, n) => (c.name, .int n))).IsPlain := by
  refine .object ?_ ?_
  · have hnames : (inv.byType.map fun (c, n) => (c.name, Value.int n)).map Prod.fst =
        inv.kinds.map Classification.name := by
      rw [← Inventory.map_fst_byType, List.map_map, List.map_map]
      rfl
    rw [hnames]
    exact inv.nodup_kinds.map Classification.name_injective
  · refine List.forall_mem_map.2 fun (c, n) hmem => .int ?_
    obtain ⟨-, rfl⟩ := Inventory.mem_byType_iff.1 hmem
    exact (Numeral.length_decimal_mono List.countP_le_length).trans htotal

/-- The groups can be written if the registers can. -/
lemma isPlain_byModule {inv : Inventory} (h : ∀ r ∈ inv.registers, r.IsWritable) :
    (Value.object (inv.byModule.map fun (m, rs) => (m, ofRegisters rs))).IsPlain := by
  refine .object ?_ ?_
  · have hnames : (inv.byModule.map fun (m, rs) => (m, ofRegisters rs)).map Prod.fst =
        inv.byModule.map Prod.fst := by
      rw [List.map_map]
      rfl
    rw [hnames, Inventory.map_fst_byModule]
    exact Inventory.nodup_distinct _
  · refine List.forall_mem_map.2 fun (m, rs) hmem => isPlain_map fun r hr => ?_
    obtain ⟨-, rfl⟩ := Inventory.mem_byModule_iff.1 hmem
    exact isPlain_ofRegister (h r (List.mem_of_mem_filter hr))

/-! ### Reports -/

/-- The names of the members that a report leaves out. -/
def leftOut (sections : Sections) : List String :=
  (if sections.registers then [] else ["registers", "byModule"]) ++
    if sections.modules then [] else ["modules"]

/-- **Sections that are not asked for** are left out of the record of the whole inventory. -/
theorem ofInventory_eq_without (inv : Inventory) (sections : Sections) :
    ofInventory inv sections = (ofInventory inv {}).without (leftOut sections) := by
  obtain ⟨_ | _, _ | _⟩ := sections <;>
    simp [ofInventory, members, Json.Value.without, leftOut]

/-- **The record of an inventory can be written** if its integers can. -/
theorem isPlain_ofInventory {inv : Inventory} (h : inv.IsWritable)
    (htotal : Numeral.IsWritable inv.totalRegisters) : (ofInventory inv {}).IsPlain := by
  have hregisters : (ofRegisters inv.registers).IsPlain :=
    isPlain_map fun r hr => isPlain_ofRegister (h.registers r hr)
  have hmodules : (ofModules inv.modules).IsPlain :=
    isPlain_map fun m hm => isPlain_ofModule (h.modules m hm)
  have hfailures : (Value.array (inv.failures.map ofFailure)).IsPlain :=
    isPlain_map fun f _ => isPlain_ofFailure f
  refine .object (by simp [members]) ?_
  simp only [members, if_true, List.forall_mem_append, List.forall_mem_cons]
  exact ⟨⟨⟨⟨⟨⟨hregisters, List.forall_mem_nil _⟩, .int htotal, isPlain_byType htotal,
    List.forall_mem_nil _⟩, isPlain_byModule h.registers, List.forall_mem_nil _⟩,
    .int h.bits, List.forall_mem_nil _⟩, hmodules, List.forall_mem_nil _⟩,
    hfailures, List.forall_mem_nil _⟩

/-- **A report in JSON reads back.** If the integers of an inventory can be written, there is a
report with any indentation and any choice of sections. It spells the record of the inventory
without the members that are left out, with all others in their order, and no other value. This does
not depend on the indentation. -/
theorem read_report {inv : Inventory} (h : inv.IsWritable)
    (htotal : Numeral.IsWritable inv.totalRegisters) (indent : Option Int) (sections : Sections) :
    let expected := (ofInventory inv {}).without (leftOut sections)
    ∃ text, report (.ofIndent indent) inv sections = .ok text ∧
      (∀ v, SpellsPadded v text.toList ↔ v = expected) ∧ read text = some expected := by
  intro expected
  have hplain : expected.IsPlain := (isPlain_ofInventory h htotal).without (leftOut sections)
  obtain ⟨text, htext, hspells⟩ := write_of_isPlain hplain (.ofIndent indent)
  have hunique : ∀ v, SpellsPadded v text.toList ↔ v = expected := by
    intro v
    constructor
    · exact fun hv => hv.unique hspells
    · rintro rfl
      exact hspells
  refine ⟨text, ?_, hunique, read_of_spells hspells⟩
  rw [report, ofInventory_eq_without, htext]

/-- An inventory whose texts have to be escaped, with a register of a kind of its own. -/
def escapedInventory : Inventory where
  registers := [{
    name := "\"q\\"
    width := 8
    line := -1
    module := "\t𝕞"
    file := ""
    classification := ⟨"é\x7f"⟩
    reset := some "\n" }]
  failures := [{ file := "a/b", reason := "\x00" }]

/-- The report on this inventory without its registers, with no blanks in front of its lines. -/
theorem read_report_escaped :
    escapedInventory.IsWritable ∧ Numeral.IsWritable escapedInventory.totalRegisters ∧
      ∃ text, report (.ofIndent (some (-1))) escapedInventory { registers := false } = .ok text ∧
        read text = some (.object [("totalRegisters", .int 1),
          ("byType", .object [("é\x7f", .int 1)]), ("totalBits", .int 8), ("modules", .array []),
          ("failures", .array [.object [("file", .text "a/b"), ("reason", .text "\x00")]])]) := by
  have hregister : ∀ r ∈ escapedInventory.registers, r.IsWritable :=
    List.forall_mem_singleton.2 (Register.isWritable_of_lt (by decide) (by decide))
  have htotal : Numeral.IsWritable escapedInventory.totalRegisters :=
    Numeral.length_decimal_le_limit (by decide)
  have h : escapedInventory.IsWritable :=
    ⟨hregister, List.forall_mem_nil _, Numeral.length_decimal_le_limit (by decide)⟩
  obtain ⟨text, htext, -, hread⟩ := read_report h htotal (some (-1)) { registers := false }
  exact ⟨h, htotal, text, htext, hread⟩

end Report.Json

end FlopCensus
