import FlopCensus.Design.Analysis
import FlopCensus.Proofs.Design.Extraction
import FlopCensus.Proofs.Design.Width
import FlopCensus.Proofs.Inventory.Merging
import Mathlib.Data.List.Basic
import Mathlib.Tactic.Common

set_option autoImplicit false
set_option relaxedAutoImplicit false

/-!
# The books of an inventory

The registers of a module are counted for its summary when they are extracted, and kept in a list
of their own when they are classified. Both books agree, module by module, in every inventory that
dumps give and that merging and restriction make of such inventories; and every register in it has
got a role.

## Main definitions

* `FlopCensus.Register.IsSettled` — a register with a role, and only the signals that go with it.
* `FlopCensus.Inventory.registerCounts` — the sum of the counts of some summaries.
* `FlopCensus.Inventory.Consistent` — the registers are settled and the books agree.
* `FlopCensus.Inventory.Obtained` — the inventories of dumps, and what is made of them.

## Main results

* `FlopCensus.Design.consistent_inventoryOf` — the inventory of a tree is consistent.
* `FlopCensus.Inventory.Consistent.merge`, `FlopCensus.Inventory.Consistent.ofModule` — consistent
  inventories can be merged and restricted.
* `FlopCensus.Inventory.Obtained.books_agree` — what this says of the inventories of dumps.

## Design

The books are compared for all modules whose name satisfies a condition. This covers one name as
well as all of them, and restriction only strengthens the condition.
-/

namespace FlopCensus

/-- A register with a role: it lies on a line and has a bit, a latch has no clock, and a reset comes
with a clock. -/
structure Register.IsSettled (r : Register) : Prop where
  /-- There is at least one bit. -/
  width : 1 ≤ r.width
  /-- Lines are counted from one. -/
  line : 1 ≤ r.line
  /-- The role is known. -/
  role : r.classification = .flipFlop ∨ r.classification = .latch
  /-- No edge drives a latch. -/
  latch : r.classification = .latch → r.clock = none ∧ r.reset = none
  /-- The reset is the second signal, so that there is a first one. -/
  reset : r.reset.isSome → r.clock.isSome

namespace Inventory

/-- The sum of the counts of some summaries. -/
def registerCounts (modules : List ModuleSummary) : Int :=
  (modules.map (·.registerCount)).foldr (· + ·) 0

@[simp] lemma registerCounts_nil : registerCounts [] = 0 := rfl

@[simp] lemma registerCounts_cons (m : ModuleSummary) (ms : List ModuleSummary) :
    registerCounts (m :: ms) = m.registerCount + registerCounts ms := rfl

@[simp] lemma registerCounts_append (ms ns : List ModuleSummary) :
    registerCounts (ms ++ ns) = registerCounts ms + registerCounts ns := by
  induction ms with
  | nil => simp
  | cons m ms ih => rw [List.cons_append, registerCounts_cons, ih, registerCounts_cons]; omega

/-- The registers are settled, and the summaries of the modules whose names satisfy a condition
count the registers of these modules. -/
structure Consistent (inv : Inventory) : Prop where
  /-- Each register has a role. -/
  settled : ∀ r ∈ inv.registers, r.IsSettled
  /-- The books agree. -/
  counts : ∀ p : String → Bool, registerCounts (inv.modules.filter fun m => p m.name) =
    inv.registers.countP fun r => p r.module

/-- Nothing is consistent. -/
lemma consistent_empty : Consistent .empty where
  settled := by simp [empty]
  counts := by simp [empty]

/-- Consistent inventories side by side are consistent. -/
lemma Consistent.append {a b : Inventory} (ha : a.Consistent) (hb : b.Consistent) :
    (a.append b).Consistent where
  settled r hr := by
    rcases List.mem_append.1 hr with hr | hr
    · exact ha.settled r hr
    · exact hb.settled r hr
  counts p := by
    simp [Inventory.append, ha.counts, hb.counts]

/-- **Consistent inventories can be merged.** -/
theorem Consistent.merge {parts : List Inventory} (h : ∀ inv ∈ parts, inv.Consistent) :
    (merge parts).Consistent := by
  induction parts with
  | nil => exact consistent_empty
  | cons inv parts ih =>
    rw [merge_cons]
    exact (h inv List.mem_cons_self).append (ih fun i hi => h i (List.mem_cons_of_mem _ hi))

/-- **Consistent inventories can be restricted**: a module and its registers go together. -/
theorem Consistent.ofModule {inv : Inventory} (h : inv.Consistent) (name : String) :
    (inv.ofModule name).Consistent where
  settled r hr := h.settled r (List.mem_of_mem_filter hr)
  counts p := by
    have hboth := h.counts fun n => p n && decide (n = name)
    simpa [Inventory.ofModule, List.filter_filter, List.countP_filter] using hboth

/-- The inventories of dumps, and those that merging and restriction make of them. -/
inductive Obtained : Inventory → Prop
  | dump {dump : String} {source : List UInt8} {file : String} {inv : Inventory}
      (analyzed : (Design.analyzeDump dump source file).value = .ok inv) : Obtained inv
  | merge {parts : List Inventory} (obtained : ∀ inv ∈ parts, Obtained inv) :
      Obtained (merge parts)
  | ofModule {inv : Inventory} (name : String) (obtained : Obtained inv) :
      Obtained (inv.ofModule name)

end Inventory

namespace Design

/-! ### The registers of a tree -/

/-- The lines of a file are counted from one. -/
lemma one_le_lineAt (source : List UInt8) (offset : Int) : 1 ≤ lineAt source offset := by
  rw [lineAt]
  omega

/-- What is extracted from a module is declared by an identifier, with at least one bit. -/
lemma exists_of_mem_registersOf {p : Place} {module : Node} {r : Register}
    (hr : r ∈ registersOf p module) : ∃ width name, 1 ≤ width ∧ r = p.register width name := by
  simp only [registersOf, List.mem_append, List.mem_flatMap, value_ofData, value_ofPort] at hr
  rcases hr with ⟨d, -, hr⟩ | ⟨port, -, hr⟩
  all_goals
    split at hr
    · obtain ⟨name, -, rfl⟩ := List.mem_map.1 hr
      exact ⟨_, name, one_le_declaredWidth _, rfl⟩
    · simp at hr

/-- Roles leave a register in its module. -/
@[simp] lemma module_roleIn (blocks : List Node) (r : Register) :
    (roleIn blocks r).module = r.module := by
  rw [roleIn]
  split
  · rfl
  · split
    · rfl
    · split <;> rfl

/-- A register without a role is clocked by a block, or becomes a latch or a flip-flop without
signals. -/
lemma roleIn_cases {r : Register} (blocks : List Node) (h : r.classification = .potential) :
    (∃ b, roleIn blocks r = { r with
        classification := .flipFlop
        clock := (edgeSignals b)[0]?
        reset := (edgeSignals b)[1]? }) ∨
      roleIn blocks r = { r with classification := .latch } ∨
      roleIn blocks r = { r with classification := .flipFlop } := by
  rw [roleIn, if_neg (not_not_intro h)]
  cases clockingBlock? blocks r.name with
  | some b => exact .inl ⟨b, rfl⟩
  | none =>
    simp only
    split
    · exact .inr (.inl rfl)
    · exact .inr (.inr rfl)

/-- **The blocks of its module settle a register.** -/
theorem isSettled_roleIn (blocks : List Node) (p : Place) (name : Leaf) {width : Nat}
    (hwidth : 1 ≤ width) : (roleIn blocks (p.register width name)).IsSettled := by
  have hbits : (1 : Int) ≤ width := by omega
  have hline : (1 : Int) ≤ lineAt p.source name.start := by
    have := one_le_lineAt p.source name.start
    omega
  obtain ⟨b, hrole⟩ | hrole | hrole := roleIn_cases blocks (r := p.register width name) rfl
  · rw [hrole]
    refine ⟨hbits, hline, .inl rfl, fun hlatch => ?_, fun hreset => ?_⟩
    · exact absurd hlatch (by decide : Classification.flipFlop ≠ .latch)
    · -- a second signal has a first one before it
      cases hsignals : edgeSignals b with
      | nil => simp [hsignals] at hreset
      | cons clock rest => rfl
  · rw [hrole]
    exact ⟨hbits, hline, .inr rfl, fun _ => ⟨rfl, rfl⟩, by simp [Place.register]⟩
  · rw [hrole]
    exact ⟨hbits, hline, .inl rfl, fun _ => ⟨rfl, rfl⟩, by simp [Place.register]⟩

/-- The extraction of a module counts the registers it has found, all of them its own. -/
lemma extraction_cases {tree : Node} {source : List UInt8} {file : String} {e : Extraction}
    (he : e ∈ (extract tree source file).value) :
    e.summary.registerCount = e.registers.length ∧
      ∃ p : Place, p.module = e.summary.name ∧ e.registers = registersOf p e.node := by
  rw [value_extract, List.mem_filterMap] at he
  obtain ⟨m, -, hm⟩ := he
  rw [value_extractModule] at hm
  cases hname : moduleName? m with
  | none => simp [hname, Except.toOption] at hm
  | some name =>
    simp only [hname, Except.toOption, Option.some.injEq] at hm
    subst hm
    exact ⟨rfl, ⟨source, file, name⟩, rfl, rfl⟩

/-- The inventory of one extraction is consistent. -/
lemma consistent_extraction {p : Place} {e : Extraction} (blocks : List Node)
    (hcount : e.summary.registerCount = e.registers.length) (hmodule : p.module = e.summary.name)
    (hregisters : e.registers = registersOf p e.node) : Inventory.Consistent {
      registers := e.registers.map (roleIn blocks)
      modules := [e.summary]
      failures := [] } where
  settled s hs := by
    obtain ⟨r, hr, rfl⟩ := List.mem_map.1 hs
    rw [hregisters] at hr
    obtain ⟨width, name, hwidth, rfl⟩ := exists_of_mem_registersOf hr
    exact isSettled_roleIn blocks p name hwidth
  counts condition := by
    have hown : ∀ r ∈ e.registers, r.module = e.summary.name := by
      intro r hr
      rw [hregisters] at hr
      obtain ⟨width, name, -, rfl⟩ := exists_of_mem_registersOf hr
      exact hmodule
    have hall : (e.registers.map (roleIn blocks)).countP (fun r => condition r.module) =
        e.registers.countP fun _ => condition e.summary.name := by
      rw [List.countP_map]
      exact List.countP_congr fun r hr => by simp [hown r hr]
    rw [hall]
    cases hname : condition e.summary.name <;> simp [hname, hcount]

/-- **The inventory of a tree is consistent.** -/
theorem consistent_inventoryOf (tree : Node) (source : List UInt8) (file : String) :
    (inventoryOf tree source file).value.Consistent := by
  -- the extractions of the tree are merged, one inventory for each
  have hmerge : (inventoryOf tree source file).value =
      Inventory.merge ((extract tree source file).value.map fun e =>
        ⟨e.registers.map (roleIn (e.node.nodesTagged alwaysStatement)), [e.summary], []⟩) := by
    rw [value_inventoryOf]
    simp [Inventory.merge, List.flatMap_map, ← List.map_eq_flatMap]
  rw [hmerge]
  refine Inventory.Consistent.merge fun inv hinv => ?_
  obtain ⟨e, he, rfl⟩ := List.mem_map.1 hinv
  obtain ⟨hcount, p, hmodule, hregisters⟩ := extraction_cases he
  exact consistent_extraction _ hcount hmodule hregisters

/-- The inventory of a dump is consistent. -/
lemma consistent_of_analyzeDump {dump : String} {source : List UInt8} {file : String}
    {inv : Inventory} (h : (analyzeDump dump source file).value = .ok inv) : inv.Consistent := by
  rw [analyzeDump] at h
  cases htree : Dump.parseStandard dump with
  | error e => simp [htree] at h
  | ok tree =>
    simp only [htree, Logged.value_bind, Logged.value_pure, Except.ok.injEq] at h
    rw [← h]
    exact consistent_inventoryOf tree source file

/-- What a dump yields, by its characters. -/
lemma value_analyzeDump_of_toList {dump file : String} {chars : List Char}
    (h : dump.toList = chars) {source : List UInt8} {inv : Inventory}
    (hread : ((Text.splitLines chars).foldlM (Dump.readInto Dump.standardWidth)
      .initial).toOption.bind (fun p => p.result.map fun tree =>
        (inventoryOf tree source file).value) = some inv) :
    (analyzeDump dump source file).value = .ok inv := by
  rw [analyzeDump, Dump.parseStandard, Dump.parse, h]
  cases hlines : (Text.splitLines chars).foldlM (Dump.readInto Dump.standardWidth) .initial with
  | error e =>
    rw [hlines] at hread
    cases hread
  | ok p =>
    rw [hlines] at hread
    obtain ⟨tree, htree, rfl⟩ := Option.map_eq_some_iff.1 hread
    simp only [bind, Except.bind, htree]
    rfl

end Design

namespace Inventory

/-- What dumps give is consistent, and stays so. -/
theorem Obtained.consistent {inv : Inventory} (h : Obtained inv) : inv.Consistent := by
  induction h with
  | dump analyzed => exact Design.consistent_of_analyzeDump analyzed
  | merge _ ih => exact .merge ih
  | ofModule name _ ih => exact ih.ofModule name

/-- **The books of an inventory agree.** In every inventory that merging and restriction make of
those of dumps, each register is settled, the summaries of a name count the registers of the modules
with this name, and hence all summaries count all registers. -/
theorem Obtained.books_agree {inv : Inventory} (h : Obtained inv) :
    (∀ r ∈ inv.registers, r.IsSettled) ∧
      (∀ name, registerCounts (inv.modules.filter fun m => m.name = name) =
        inv.registers.countP fun r => r.module = name) ∧
      registerCounts inv.modules = inv.totalRegisters := by
  have hinv := h.consistent
  refine ⟨hinv.settled, fun name => hinv.counts fun n => decide (n = name), ?_⟩
  have hall := hinv.counts fun _ => true
  simpa [totalRegisters] using hall

/-- The dump of a module with a register. -/
def registerDump : String :=
  "Node @0 (tag: kModuleDeclaration) \x7b\n  Node @0 (tag: kModuleHeader) \x7b\n" ++
    "    Leaf @0 (#SymbolIdentifier @7-8: \"m\")\n  Node @1 (tag: kDataDeclaration) \x7b\n" ++
    "    Leaf @0 (#reg @11-14: \"reg\")\n    Node @1 (tag: kRegisterVariable) \x7b\n" ++
    "      Leaf @0 (#SymbolIdentifier @15-16: \"q\")\n"

/-- The inventory of this dump. -/
def registerInventory : Inventory where
  registers := [⟨"q", 1, 1, "m", "a.sv", .flipFlop, none, none⟩]
  modules := [⟨"m", "a.sv", 1, 1⟩]

/-- The dump yields this inventory. -/
lemma value_analyzeDump_registerDump :
    (Design.analyzeDump registerDump [] "a.sv").value = .ok registerInventory := by
  -- the characters are written out first, since evaluating them is what takes long
  obtain ⟨chars, hchars, hread⟩ : ∃ chars, registerDump.toList = chars ∧
      ((Text.splitLines chars).foldlM (Dump.readInto Dump.standardWidth)
        .initial).toOption.bind (fun p => p.result.map fun tree =>
          (Design.inventoryOf tree [] "a.sv").value) = some registerInventory := by
    refine ⟨?chars, ?text, ?read⟩
    case text =>
      unfold registerDump
      rewrite [String.toList_append, String.toList_append, String.toList_append,
        String.toList_ofList, String.toList_ofList, String.toList_ofList, String.toList_ofList]
      exact rfl
    case read => decide +kernel
  exact Design.value_analyzeDump_of_toList hchars hread

/-- The module is in two files, and both summaries count a register of it. -/
theorem books_agree_twice :
    Obtained ((merge [registerInventory, registerInventory]).ofModule "m") ∧
      registerCounts [⟨"m", "a.sv", 1, 1⟩, ⟨"m", "a.sv", 1, 1⟩] = 2 := by
  have hmerge : Obtained (merge [registerInventory, registerInventory]) :=
    .merge fun inv hinv => by
      have heq : inv = registerInventory := by simpa using hinv
      exact heq ▸ .dump value_analyzeDump_registerDump
  have hobtained := hmerge.ofModule "m"
  obtain ⟨-, hcounts, -⟩ := hobtained.books_agree
  exact ⟨hobtained, hcounts "m"⟩

end Inventory

end FlopCensus
