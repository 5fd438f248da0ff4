import FlopCensus.Design.Extraction

set_option autoImplicit false
set_option relaxedAutoImplicit false

/-!
# Procedural blocks

The `always` blocks of a module decide what its declared storage is. A block with `posedge` or
`negedge` in its event control is edge-triggered and what it assigns is a flip-flop; what any other
block assigns is a latch. An element that no block assigns counts as a flip-flop.

Only the first identifier on the left of an assignment is assigned: `{a, b} <= …` assigns `a` alone.

## Main definitions

* `FlopCensus.Design.TargetError`: why an assignment has no target.
* `FlopCensus.Design.assignmentTarget`: the name that an assignment assigns.
* `FlopCensus.Design.BlockSignals`: the names assigned in the blocks of a module.
* `FlopCensus.Design.scan`: the signals of a list of blocks.
* `FlopCensus.Design.classify`: the registers with their roles.
-/

namespace FlopCensus.Design

/-- The tag of `always` blocks. -/
def alwaysStatement : String := "kAlwaysStatement"

/-- The tag of the terms of an event control. -/
def eventExpression : String := "kEventExpression"

/-- The tag of the left side of an assignment. -/
def leftValue : String := "kLPValue"

/-- The tags of assignments, in the order in which they are looked for. -/
def assignmentTags : List String :=
  ["kNetVariableAssignment", "kBlockingAssignmentStatement", "kNonblockingAssignmentStatement"]

/-- The words that name an edge. -/
def edgeWords : List String := ["posedge", "negedge"]

/-- Why an assignment has no target. -/
inductive TargetError where
  /-- There is no left side. -/
  | noLeftSide (tag : String)
  /-- The left side holds no identifier. -/
  | noIdentifier (tag : String)
deriving Repr, DecidableEq

/-- The wording of an error. -/
def TargetError.message : TargetError → String
  | .noLeftSide tag => tag ++ " has no left-hand side"
  | .noIdentifier tag => tag ++ " left-hand side has no identifier"

/-- The name that an assignment assigns: the first identifier of its left side. -/
def assignmentTarget (assignment : Node) : Except TargetError String :=
  match assignment.firstTagged? leftValue with
  | none => .error (.noLeftSide assignment.tag)
  | some left =>
    match left.leaves.find? isIdentifier with
    | some name => .ok name.text
    | none => .error (.noIdentifier assignment.tag)

/-- The token names an edge. -/
def isEdgeWord (l : Leaf) : Bool :=
  edgeWords.contains l.text

/-- The first identifier behind each edge word. `armed` tells that an edge word is still without
one. -/
def signalsAfterEdge : Bool → List Leaf → List String
  | _, [] => []
  | armed, l :: rest =>
    if isEdgeWord l then signalsAfterEdge true rest
    else if armed && isIdentifier l then l.text :: signalsAfterEdge false rest
    else signalsAfterEdge armed rest

/-- The signals whose edges a block waits for. -/
def edgeSignals (block : Node) : List String :=
  (block.nodesTagged eventExpression).flatMap fun event => signalsAfterEdge false event.leaves

/-- The event control of the block names an edge. -/
def isEdgeTriggered (block : Node) : Bool :=
  (block.nodesTagged eventExpression).any fun event => event.leaves.any isEdgeWord

/-- The targets of some assignments; those without one are passed over. -/
def targets : List Node → Logged (List String)
  | [] => return []
  | a :: rest => do
    match assignmentTarget a with
    | .ok name => return name :: (← targets rest)
    | .error e =>
      Logged.tell .debug .classification ("Ignoring assignment: " ++ e.message)
      targets rest

/-- The assignments of a block, one kind after another. -/
def assignments (block : Node) : List Node :=
  assignmentTags.flatMap block.nodesTagged

/-- The names that a block assigns. -/
def assignedSignals (block : Node) : Logged (List String) :=
  targets (assignments block)

/-- The clock and the reset of an edge-triggered block. -/
structure Edge where
  /-- The first signal of the event control. -/
  clock : Option String := none
  /-- The second signal of the event control. -/
  reset : Option String := none
deriving Repr, DecidableEq

/-- The clock and the reset among the signals of an event control. -/
def Edge.ofSignals (signals : List String) : Edge :=
  ⟨signals[0]?, signals[1]?⟩

/-- The names assigned in the blocks of a module. -/
structure BlockSignals where
  /-- The names assigned in edge-triggered blocks. -/
  clocked : List String := []
  /-- The names assigned in other blocks. -/
  latched : List String := []
  /-- The clock and reset of each clocked name, an earlier entry going before a later one. -/
  edges : List (String × Edge) := []
deriving Repr

namespace BlockSignals

/-- The clock and reset of a name. -/
def edgeOf (s : BlockSignals) (name : String) : Edge :=
  match s.edges.find? (·.1 == name) with
  | some (_, edge) => edge
  | none => {}

/-- Adds the names that a block assigns; the first block that assigns a name gives its edge. -/
def addBlock (s : BlockSignals) (block : Node) (assigned : List String) : BlockSignals :=
  if isEdgeTriggered block then
    let edge := Edge.ofSignals (edgeSignals block)
    { s with
      clocked := s.clocked ++ assigned
      edges := s.edges ++ assigned.map (·, edge) }
  else { s with latched := s.latched ++ assigned }

/-- The names with an edge, each with the one that counts, in order of first occurrence. -/
def edgeTable (s : BlockSignals) : List (String × Edge) :=
  (Inventory.distinct (s.edges.map (·.1))).map fun name => (name, s.edgeOf name)

end BlockSignals

/-- The signals of further blocks. -/
def scanFrom (s : BlockSignals) : List Node → Logged BlockSignals
  | [] => return s
  | block :: rest => do
    let assigned ← assignedSignals block
    scanFrom (s.addBlock block assigned) rest

/-- The signals of a list of blocks. -/
def scan (blocks : List Node) : Logged BlockSignals :=
  scanFrom {} blocks

/-- A register with its role, unless that is known already. -/
def classifyOne (s : BlockSignals) (r : Register) : Register :=
  if r.classification ≠ .potential then r
  else if s.clocked.contains r.name then
    let edge := s.edgeOf r.name
    { r with classification := .flipFlop, clock := edge.clock, reset := edge.reset }
  else if s.latched.contains r.name then { r with classification := .latch }
  else { r with classification := .flipFlop }

/-- The registers with their roles. -/
def classify (s : BlockSignals) (registers : List Register) : List Register :=
  registers.map (classifyOne s)

/-- The registers of a module with the roles that its blocks give them. -/
def classifyModule (module : Node) (registers : List Register) : Logged (List Register) := do
  let signals ← scan (module.nodesTagged alwaysStatement)
  return classify signals registers

end FlopCensus.Design
