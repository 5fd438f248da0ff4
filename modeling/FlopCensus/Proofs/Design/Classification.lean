import FlopCensus.Proofs.Design.Bookkeeping
import FlopCensus.Proofs.Tree.Traversal
import Mathlib.Data.List.Basic
import Mathlib.Data.List.Forall2
import Mathlib.Tactic.Common

set_option autoImplicit false
set_option relaxedAutoImplicit false

/-!
# The law of classification

What becomes of a register is told by the blocks that assign its name: the first edge-triggered one
among them, or else whether there is any. The lists of names that the scan gathers do not occur in
the law, nor does the order of the blocks, except where it decides which of several edge-triggered
ones gives the clock and the reset.

## Main definitions

* `FlopCensus.Design.Assigns` — a block assigns a name.
* `FlopCensus.Design.Becomes` — what some blocks make of a register.
* `FlopCensus.Register.withoutSignals` — a register but for its clock and its reset.

## Main results

* `FlopCensus.Design.becomes_iff` — the relation determines what becomes of a register.
* `FlopCensus.Design.classifyModule_law` — the registers of a module become what its blocks make of
  them, once and for all, and in any order of the blocks but for clocks and resets.
-/

namespace FlopCensus

/-- A register but for its clock and its reset. -/
def Register.withoutSignals (r : Register) : Register :=
  { r with clock := none, reset := none }

namespace Design

/-- A block assigns a name: the name is the target of an assignment in it, of whichever kind. -/
def Assigns (block : Node) (name : String) : Prop :=
  ∃ tag ∈ assignmentTags, ∃ a ∈ block.nodesTagged tag, assignmentTarget a = .ok name

/-- What some blocks, in this order, make of a register. -/
inductive Becomes (blocks : List Node) (r : Register) : Register → Prop
  /-- A role that is known stays. -/
  | known (role : r.classification ≠ .potential) : Becomes blocks r r
  /-- The first edge-triggered block that assigns the name gives the clock and the reset. -/
  | clocked {earlier later : List Node} {block : Node} (role : r.classification = .potential)
      (blocks_eq : blocks = earlier ++ block :: later) (edge : isEdgeTriggered block = true)
      (assigns : Assigns block r.name)
      (none_earlier : ∀ b ∈ earlier, isEdgeTriggered b = true → ¬Assigns b r.name) :
      Becomes blocks r
        { r with
          classification := .flipFlop
          clock := (edgeSignals block)[0]?
          reset := (edgeSignals block)[1]? }
  /-- Only level-sensitive blocks assign the name. -/
  | latched {block : Node} (role : r.classification = .potential) (mem : block ∈ blocks)
      (level : isEdgeTriggered block = false) (assigns : Assigns block r.name)
      (none_clocked : ∀ b ∈ blocks, isEdgeTriggered b = true → ¬Assigns b r.name) :
      Becomes blocks r { r with classification := .latch }
  /-- No block assigns the name. -/
  | unassigned (role : r.classification = .potential)
      (none_assigns : ∀ b ∈ blocks, ¬Assigns b r.name) :
      Becomes blocks r { r with classification := .flipFlop }

/-! ### What becomes of a register -/

/-- The names that are gathered from a block are those that it assigns. -/
lemma contains_assignedIn_iff {block : Node} {name : String} :
    (assignedIn block).contains name = true ↔ Assigns block name := by
  rw [List.contains_iff_mem, mem_assignedIn, Assigns, assignments]
  constructor
  · rintro ⟨a, ha, htarget⟩
    obtain ⟨tag, htag, hnode⟩ := List.mem_flatMap.1 ha
    exact ⟨tag, htag, a, hnode, htarget⟩
  · rintro ⟨tag, htag, a, hnode, htarget⟩
    exact ⟨a, List.mem_flatMap.2 ⟨tag, htag, hnode⟩, htarget⟩

section Blocks

variable {blocks : List Node} {r : Register}

/-- Without an edge-triggered block that assigns the name, none is found. -/
lemma clockingBlock?_eq_none {name : String}
    (h : ∀ b ∈ blocks, isEdgeTriggered b = true → ¬Assigns b name) :
    clockingBlock? blocks name = none := by
  refine List.find?_eq_none.2 fun b hb hfound => ?_
  rw [Bool.and_eq_true, contains_assignedIn_iff] at hfound
  exact h b hb hfound.1 hfound.2

/-- The block that is found is the first edge-triggered one that assigns the name. -/
lemma clockingBlock?_eq_some_iff {name : String} {block : Node} :
    clockingBlock? blocks name = some block ↔
      (isEdgeTriggered block = true ∧ Assigns block name) ∧ ∃ earlier later,
        blocks = earlier ++ block :: later ∧
          ∀ b ∈ earlier, isEdgeTriggered b = true → ¬Assigns b name := by
  simp only [clockingBlock?, List.find?_eq_some_iff_append, Bool.and_eq_true,
    contains_assignedIn_iff, Bool.not_eq_true', ← Bool.not_eq_true, not_and]

/-- The relation allows the computed role only. -/
lemma Becomes.eq_roleIn {s : Register} (h : Becomes blocks r s) : s = roleIn blocks r := by
  cases h with
  | known role => rw [roleIn, if_pos role]
  | clocked role hblocks edge assigns hnone =>
    have hfound := clockingBlock?_eq_some_iff.2 ⟨⟨edge, assigns⟩, _, _, hblocks, hnone⟩
    rw [roleIn, if_neg (not_not_intro role), hfound]
  | latched role mem level assigns hnone =>
    have hany : (blocks.any fun b => (assignedIn b).contains r.name) = true :=
      List.any_eq_true.2 ⟨_, mem, contains_assignedIn_iff.2 assigns⟩
    simp only [roleIn, if_neg (not_not_intro role), clockingBlock?_eq_none hnone, if_pos hany]
  | unassigned role hnone =>
    have hany : ¬(blocks.any fun b => (assignedIn b).contains r.name) = true := by
      rw [List.any_eq_true]
      rintro ⟨b, hb, hassigns⟩
      exact hnone b hb (contains_assignedIn_iff.1 hassigns)
    have hclock := clockingBlock?_eq_none fun b hb _ => hnone b hb
    simp only [roleIn, if_neg (not_not_intro role), hclock, if_neg hany]

/-- The relation allows the computed role. -/
lemma becomes_roleIn : Becomes blocks r (roleIn blocks r) := by
  by_cases role : r.classification = .potential
  · rw [roleIn, if_neg (not_not_intro role)]
    cases hclock : clockingBlock? blocks r.name with
    | some b =>
      obtain ⟨⟨edge, assigns⟩, earlier, later, hblocks, hnone⟩ :=
        clockingBlock?_eq_some_iff.1 hclock
      exact .clocked role hblocks edge assigns hnone
    | none =>
      have hnone : ∀ b ∈ blocks, isEdgeTriggered b = true → ¬Assigns b r.name := by
        intro b hb edge assigns
        refine List.find?_eq_none.1 hclock b hb ?_
        rw [edge, contains_assignedIn_iff.2 assigns]
        rfl
      dsimp only
      split_ifs with hany
      · obtain ⟨b, hb, hassigns⟩ := List.any_eq_true.1 hany
        have assigns := contains_assignedIn_iff.1 hassigns
        -- a block that assigns the name is not edge-triggered, or it would have been found
        have level : isEdgeTriggered b = false :=
          Bool.eq_false_iff.2 fun edge => hnone b hb edge assigns
        exact .latched role hb level assigns hnone
      · refine .unassigned role fun b hb assigns => hany ?_
        exact List.any_eq_true.2 ⟨b, hb, contains_assignedIn_iff.2 assigns⟩
  · rw [roleIn, if_pos role]
    exact .known role

/-- **What becomes of a register**: the relation says it all, and it agrees with the role that is
computed. -/
theorem becomes_iff {s : Register} : Becomes blocks r s ↔ s = roleIn blocks r := by
  constructor
  · exact Becomes.eq_roleIn
  · rintro rfl
    exact becomes_roleIn

/-- What has become of a register has a role. -/
lemma classification_roleIn_ne : (roleIn blocks r).classification ≠ .potential := by
  by_cases role : r.classification = .potential
  · have hflip : Classification.flipFlop ≠ .potential := by decide
    have hlatch : Classification.latch ≠ .potential := by decide
    obtain ⟨b, h⟩ | h | h := roleIn_cases blocks role
    · rwa [h]
    · rwa [h]
    · rwa [h]
  · rwa [roleIn, if_pos role]

/-- What has become of a register stays. -/
lemma roleIn_roleIn (others : List Node) : roleIn others (roleIn blocks r) = roleIn blocks r := by
  rw [roleIn, if_pos classification_roleIn_ne]

/-- The order of the blocks matters for the clock and the reset only. -/
lemma withoutSignals_roleIn_of_perm {others : List Node} (h : others.Perm blocks) :
    (roleIn others r).withoutSignals = (roleIn blocks r).withoutSignals := by
  -- whether there is such a block does not depend on the order, only which one comes first
  have hany : (others.any fun b => (assignedIn b).contains r.name) =
      blocks.any fun b => (assignedIn b).contains r.name := h.any_eq
  have hclock : (clockingBlock? others r.name).isSome = (clockingBlock? blocks r.name).isSome := by
    rw [clockingBlock?, clockingBlock?, List.isSome_find?, List.isSome_find?, h.any_eq]
  by_cases role : r.classification = .potential
  · rw [roleIn, roleIn, if_neg (not_not_intro role), if_neg (not_not_intro role), hany]
    cases hother : clockingBlock? others r.name with
    | some b =>
      rw [hother, Option.isSome_some] at hclock
      obtain ⟨c, hfound⟩ := Option.isSome_iff_exists.1 hclock.symm
      rw [hfound]
      rfl
    | none =>
      rw [hother, Option.isSome_none] at hclock
      rw [Option.isNone_iff_eq_none.1 (Option.isSome_eq_false_iff.1 hclock.symm)]
  · rw [roleIn, roleIn, if_pos role, if_pos role]

end Blocks

/-! ### The registers of a module -/

/-- The parts of a node in another order hold the same nodes in another order. -/
lemma nodesTagged_perm_of_children {tag wanted : String} (hne : tag ≠ wanted)
    {children others : List Tree} (h : others.Perm children) :
    ((⟨tag, others⟩ : Node).nodesTagged wanted).Perm
      ((⟨tag, children⟩ : Node).nodesTagged wanted) := by
  have hbelow : ∀ ts, (⟨tag, ts⟩ : Node).nodesTagged wanted =
      ts.flatMap (Tree.nodesTagged · wanted) := by
    intro ts
    rw [Node.nodesTagged, Node.toTree, Tree.nodesTagged_node, if_neg hne, List.nil_append]
  rw [hbelow, hbelow]
  exact h.flatMap_right _

/-- What is extracted from a module has no role yet, and no signals. -/
lemma of_mem_registers_extractModule {module : Node} {source : List UInt8} {file : String}
    {e : Extraction} (he : (extractModule module source file).value = .ok e) {r : Register}
    (hr : r ∈ e.registers) : r.classification = .potential ∧ r.clock = none ∧ r.reset = none := by
  rw [value_extractModule] at he
  cases hname : moduleName? module with
  | none => simp [hname] at he
  | some name =>
    simp only [hname, Except.ok.injEq] at he
    subst he
    obtain ⟨width, x, -, rfl⟩ := exists_of_mem_registersOf hr
    exact ⟨rfl, rfl, rfl⟩

/-- **The law of classification.** Each register of a module becomes what the blocks of the module
make of it. What has become of them stays, whatever further blocks there are. The same blocks in
another order make the same of them, but for clocks and resets. What is extracted has neither a role
nor signals, so that only a clocked register gets any.

**Proof sketch.** The lists that the scan gathers are looked up for one name at a time, which gives
the role by the first edge-triggered block that assigns the name (`value_classifyModule`), and the
relation agrees with this role case by case (`becomes_iff`). That a block of some kind assigns the
name does not depend on the order of the blocks, only which of them comes first does. -/
theorem classifyModule_law (module : Node) (registers : List Register) :
    List.Forall₂ (Becomes (module.nodesTagged alwaysStatement)) registers
        (classifyModule module registers).value ∧
      (∀ again : Node, (classifyModule again (classifyModule module registers).value).value =
        (classifyModule module registers).value) ∧
      (∀ other : Node,
        (other.nodesTagged alwaysStatement).Perm (module.nodesTagged alwaysStatement) →
          (classifyModule other registers).value.map Register.withoutSignals =
            (classifyModule module registers).value.map Register.withoutSignals) ∧
      ∀ source file e, (extractModule module source file).value = .ok e →
        ∀ r ∈ e.registers, r.classification = .potential ∧ r.clock = none ∧ r.reset = none := by
  simp only [value_classifyModule]
  refine ⟨?_, fun again => ?_, fun other horder => ?_, fun source file e he r hr => ?_⟩
  · rw [List.forall₂_map_right_iff]
    exact List.forall₂_same.2 fun r _ => becomes_iff.2 rfl
  · rw [List.map_map]
    exact List.map_congr_left fun r _ => roleIn_roleIn _
  · rw [List.map_map, List.map_map]
    exact List.map_congr_left fun r _ => withoutSignals_roleIn_of_perm horder
  · exact of_mem_registers_extractModule he hr

/-- A block that waits for an edge of each of some signals and assigns `q`. -/
def edgeBlock (signals : List String) : Tree :=
  .node alwaysStatement [
    .node eventExpression (signals.flatMap fun s =>
      [.leaf ⟨"posedge", "posedge", 0, 0⟩, .leaf ⟨identifier, s, 0, 0⟩]),
    .node "kNonblockingAssignmentStatement" [.node leftValue [.leaf ⟨identifier, "q", 0, 0⟩]]]

/-- A block without an event control that assigns `q` and `l`. -/
def levelBlock : Tree :=
  .node alwaysStatement (["q", "l"].map fun name =>
    .node "kBlockingAssignmentStatement" [.node leftValue [.leaf ⟨identifier, name, 0, 0⟩]])

/-- A register without a role. -/
def openRegister (name : String) : Register where
  name := name
  width := 1
  line := 1
  module := "m"
  file := "a.sv"

/-- Two clocks for one register, and a latch: with the blocks in another order only the clock and
the reset differ. -/
theorem classifyModule_law_twoClocks :
    let blocks := [levelBlock, edgeBlock ["clk", "rst"], edgeBlock ["ck"]]
    let others := [edgeBlock ["ck"], edgeBlock ["clk", "rst"], levelBlock]
    let registers := ["q", "l", "n"].map openRegister
    (classifyModule ⟨moduleDeclaration, blocks⟩ registers).value.map
        (fun r => (r.name, r.classification.name, r.clock, r.reset)) =
          [("q", "flip_flop", some "clk", some "rst"), ("l", "latch", none, none),
            ("n", "flip_flop", none, none)] ∧
      (classifyModule ⟨moduleDeclaration, others⟩ registers).value.map Register.withoutSignals =
        (classifyModule ⟨moduleDeclaration, blocks⟩ registers).value.map
          Register.withoutSignals := by
  intro blocks others registers
  have horder : others.Perm blocks := List.reverse_perm blocks
  have hne : moduleDeclaration ≠ alwaysStatement := by decide
  obtain ⟨-, -, hlaw, -⟩ := classifyModule_law ⟨moduleDeclaration, blocks⟩ registers
  exact ⟨by decide +kernel, hlaw _ (nodesTagged_perm_of_children hne horder)⟩

end Design

end FlopCensus
