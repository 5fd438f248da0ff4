import FlopCensus.Design.Blocks
import Mathlib.Data.List.Basic
import Mathlib.Tactic.Common

set_option autoImplicit false
set_option relaxedAutoImplicit false

/-!
# The role of a register

The blocks of a module are scanned into lists of assigned names, which are then looked up for each
register. Without these lists, the role of a register depends on which blocks assign it: the first
edge-triggered one makes it a flip-flop and gives it a clock and a reset; without such a block it is
a latch if any block assigns it.

## Main definitions

* `FlopCensus.Design.assignedIn` — the names that a block assigns.
* `FlopCensus.Design.clockingBlock?` — the first edge-triggered block that assigns a name.
* `FlopCensus.Design.roleIn` — a register with the role that some blocks give it.

## Main results

* `FlopCensus.Design.value_scan` — the lists that the scan makes of the blocks.
* `FlopCensus.Design.value_classifyModule` — the registers of a module get these roles.
-/

namespace FlopCensus.Design

/-- The names that a block assigns. -/
def assignedIn (block : Node) : List String :=
  (assignedSignals block).value

/-- The first edge-triggered block that assigns a name. -/
def clockingBlock? (blocks : List Node) (name : String) : Option Node :=
  blocks.find? fun b => isEdgeTriggered b && (assignedIn b).contains name

/-- A register with the role that some blocks give it, unless its role is known already. -/
def roleIn (blocks : List Node) (r : Register) : Register :=
  if r.classification ≠ .potential then r
  else
    match clockingBlock? blocks r.name with
    | some b =>
      { r with
        classification := .flipFlop
        clock := (edgeSignals b)[0]?
        reset := (edgeSignals b)[1]? }
    | none =>
      if blocks.any fun b => (assignedIn b).contains r.name then { r with classification := .latch }
      else { r with classification := .flipFlop }

/-- The names that edge-triggered blocks assign, each with the clock and the reset of its block. -/
def edgesOf (blocks : List Node) : List (String × Edge) :=
  (blocks.filter isEdgeTriggered).flatMap fun b =>
    (assignedIn b).map (·, Edge.ofSignals (edgeSignals b))

/-- The names among the targets of some assignments are those that one of them assigns. -/
lemma mem_value_targets {nodes : List Node} {name : String} :
    name ∈ (targets nodes).value ↔ ∃ a ∈ nodes, assignmentTarget a = .ok name := by
  induction nodes with
  | nil => simp [targets]
  | cons a nodes ih =>
    rw [targets, List.exists_mem_cons_iff, ← ih]
    cases assignmentTarget a with
    | ok target => simp [eq_comm]
    | error e => simp

/-- A block assigns the names that one of its assignments assigns. -/
lemma mem_assignedIn {block : Node} {name : String} :
    name ∈ assignedIn block ↔ ∃ a ∈ assignments block, assignmentTarget a = .ok name :=
  mem_value_targets

/-! ### The scan -/

/-- The scan of further blocks adds what they assign. -/
lemma value_scanFrom (s : BlockSignals) (blocks : List Node) : (scanFrom s blocks).value = {
    clocked := s.clocked ++ (blocks.filter isEdgeTriggered).flatMap assignedIn
    latched := s.latched ++ (blocks.filter fun b => !isEdgeTriggered b).flatMap assignedIn
    edges := s.edges ++ edgesOf blocks } := by
  induction blocks generalizing s with
  | nil => simp [scanFrom, edgesOf]
  | cons b blocks ih =>
    rw [scanFrom, Logged.value_bind, ih, BlockSignals.addBlock]
    by_cases hb : isEdgeTriggered b = true
    · simp [hb, edgesOf, assignedIn]
    · simp [hb, edgesOf, assignedIn]

/-- **What the scan makes of the blocks of a module.** -/
theorem value_scan (blocks : List Node) : (scan blocks).value = {
    clocked := (blocks.filter isEdgeTriggered).flatMap assignedIn
    latched := (blocks.filter fun b => !isEdgeTriggered b).flatMap assignedIn
    edges := edgesOf blocks } := by
  rw [scan, value_scanFrom]
  rfl

/-! ### Looking up a name -/

/-- The entry of a name among the names of one block. -/
lemma find?_map_edge (names : List String) (edge : Edge) (name : String) :
    (names.map (·, edge)).find? (·.1 == name) =
      if names.contains name then some (name, edge) else none := by
  induction names with
  | nil => rfl
  | cons n names ih =>
    rw [List.map_cons, List.find?_cons, List.contains_cons]
    by_cases hn : n = name
    · subst hn
      simp
    · have hne : (name == n) = false := by
        rw [beq_eq_false_iff_ne]
        exact fun h => hn h.symm
      rw [beq_eq_false_iff_ne.2 hn, ih, hne, Bool.false_or]

/-- **The entry of a name comes from the first edge-triggered block that assigns it.** -/
theorem find?_edgesOf (blocks : List Node) (name : String) :
    (edgesOf blocks).find? (·.1 == name) =
      (clockingBlock? blocks name).map fun b => (name, Edge.ofSignals (edgeSignals b)) := by
  induction blocks with
  | nil => rfl
  | cons b blocks ih =>
    rw [clockingBlock?, List.find?_cons, ← clockingBlock?]
    by_cases hb : isEdgeTriggered b = true
    · rw [edgesOf, List.filter_cons_of_pos hb, List.flatMap_cons, List.find?_append, find?_map_edge,
        ← edgesOf, ih, hb, Bool.true_and]
      by_cases hname : (assignedIn b).contains name = true
      · simp only [hname, if_true]
        rfl
      · simp only [hname]
        rfl
    · rw [edgesOf, List.filter_cons_of_neg hb, ← edgesOf, ih]
      rw [Bool.not_eq_true] at hb
      rw [hb, Bool.false_and]

/-- A name is clocked exactly if an edge-triggered block assigns it. -/
lemma mem_clocked_iff (blocks : List Node) (name : String) :
    name ∈ (blocks.filter isEdgeTriggered).flatMap assignedIn ↔
      (clockingBlock? blocks name).isSome = true := by
  simp only [clockingBlock?, List.find?_isSome, List.mem_flatMap, List.mem_filter, Bool.and_eq_true,
    List.contains_iff_mem, and_assoc]

/-- A name that no edge-triggered block assigns is latched exactly if any block assigns it. -/
lemma mem_latched_iff {blocks : List Node} {name : String}
    (h : clockingBlock? blocks name = none) :
    name ∈ (blocks.filter fun b => !isEdgeTriggered b).flatMap assignedIn ↔
      (blocks.any fun b => (assignedIn b).contains name) = true := by
  simp only [List.mem_flatMap, List.mem_filter, List.any_eq_true, List.contains_iff_mem, and_assoc]
  refine exists_congr fun b => and_congr_right fun hb => ?_
  rw [clockingBlock?, List.find?_eq_none] at h
  have hnot := h b hb
  simp only [Bool.and_eq_true, List.contains_iff_mem, not_and] at hnot
  constructor
  · rintro ⟨-, hmem⟩
    exact hmem
  · intro hmem
    refine ⟨?_, hmem⟩
    by_contra hedge
    exact hnot (by simpa using hedge) hmem

/-- **A register gets the role that the blocks give it.** -/
theorem classifyOne_scan (blocks : List Node) (r : Register) :
    classifyOne (scan blocks).value r = roleIn blocks r := by
  rw [value_scan, classifyOne, roleIn]
  by_cases hknown : r.classification ≠ .potential
  · rw [if_pos hknown, if_pos hknown]
  · rw [if_neg hknown, if_neg hknown]
    simp only [List.contains_iff_mem, mem_clocked_iff, BlockSignals.edgeOf, find?_edgesOf]
    cases hclock : clockingBlock? blocks r.name with
    | some b => rfl
    | none =>
      simp only [Option.isSome_none, Bool.false_eq_true, if_false, mem_latched_iff hclock]

/-- **The registers of a module get the roles that its blocks give them.** -/
theorem value_classifyModule (module : Node) (registers : List Register) :
    (classifyModule module registers).value =
      registers.map (roleIn (module.nodesTagged alwaysStatement)) := by
  rw [classifyModule, Logged.value_bind, Logged.value_pure, classify]
  exact List.map_congr_left fun r _ => classifyOne_scan _ r

end FlopCensus.Design
