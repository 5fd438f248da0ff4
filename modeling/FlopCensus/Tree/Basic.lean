import FlopCensus.Numeral.Integer

set_option autoImplicit false
set_option relaxedAutoImplicit false

/-!
# Parse trees

The concrete syntax tree of a source file: interior nodes with a tag and ordered children, and
leaves, which are the tokens of the file with their text and the bytes they span.

## Main definitions

* `FlopCensus.Leaf`, `FlopCensus.Tree`: tokens and trees.
* `FlopCensus.Node`: an interior node, seen as its tag and children.
* `FlopCensus.Tree.preorder`: the subtrees in document order, by recursion on the tree.
* `FlopCensus.Tree.elements`: the same sequence, produced with an explicit stack.
* `FlopCensus.Tree.outline`: the tree as a list of elements with their depths.
-/

namespace FlopCensus

/-- A token: its tag, its text, and the byte offsets where it starts and stops. -/
structure Leaf where
  /-- The kind of the token. -/
  tag : String
  /-- The token as written in the source. -/
  text : String
  /-- The offset of the first byte. -/
  start : Nat
  /-- The offset behind the last byte. -/
  stop : Nat
deriving Repr, DecidableEq

/-- A parse tree. -/
inductive Tree where
  /-- A token. -/
  | leaf (token : Leaf)
  /-- An interior node with its children from left to right. -/
  | node (tag : String) (children : List Tree)
deriving Repr

/-- An interior node. -/
structure Node where
  /-- The kind of the node. -/
  tag : String
  /-- The subtrees from left to right. -/
  children : List Tree

/-- The tree of an interior node. -/
def Node.toTree (n : Node) : Tree :=
  .node n.tag n.children

/-- The node and the number of its children, in words. -/
def Node.describe (n : Node) : String :=
  n.tag ++ " (" ++ Numeral.natText n.children.length ++ " children)"

namespace Tree

/-- The tree as an interior node, if it is one. -/
def node? : Tree → Option Node
  | .leaf _ => none
  | .node tag children => some ⟨tag, children⟩

/-- The tree as a token, if it is one. -/
def leaf? : Tree → Option Leaf
  | .leaf token => some token
  | .node _ _ => none

mutual

/-- The number of elements of a tree. -/
def size : Tree → Nat
  | .leaf _ => 1
  | .node _ children => 1 + sizeAll children

/-- The number of elements of a forest. -/
def sizeAll : List Tree → Nat
  | [] => 0
  | t :: rest => size t + sizeAll rest

end

mutual

/-- A tree and everything below it, in document order. -/
def preorder : Tree → List Tree
  | .leaf token => [.leaf token]
  | .node tag children => .node tag children :: preorderAll children

/-- The elements of a forest, in document order. -/
def preorderAll : List Tree → List Tree
  | [] => []
  | t :: rest => preorder t ++ preorderAll rest

end

/-- The size of two forests side by side is the sum of their sizes. -/
theorem sizeAll_append (xs ys : List Tree) : sizeAll (xs ++ ys) = sizeAll xs + sizeAll ys := by
  induction xs with
  | nil => simp [sizeAll]
  | cons t rest ih => simp [sizeAll, ih, Nat.add_assoc]

/-- Visits pending trees from the front of a stack, a node being replaced by its children. -/
def walk : List Tree → List Tree
  | [] => []
  | .leaf token :: pending => .leaf token :: walk pending
  | .node tag children :: pending => .node tag children :: walk (children ++ pending)
termination_by pending => sizeAll pending
decreasing_by
  · simp only [sizeAll, size]; omega
  · simp only [sizeAll, size, sizeAll_append]; omega

/-- A tree and everything below it, in document order. -/
def elements (t : Tree) : List Tree :=
  walk [t]

/-- The tokens of a tree from left to right. -/
def leaves (t : Tree) : List Leaf :=
  t.elements.filterMap leaf?

/-- The interior nodes of a tree with the given tag, the tree itself included. -/
def nodesTagged (t : Tree) (tag : String) : List Node :=
  (t.elements.filterMap node?).filter (·.tag == tag)

/-- The first interior node with the given tag. -/
def firstTagged? (t : Tree) (tag : String) : Option Node :=
  (t.nodesTagged tag).head?

end Tree

/-- An element of a tree without what is below it. -/
inductive Element where
  /-- A token. -/
  | leaf (token : Leaf)
  /-- The tag of an interior node. -/
  | node (tag : String)
deriving Repr, DecidableEq

namespace Tree

/-- The element at the top of a tree. -/
def top : Tree → Element
  | .leaf token => .leaf token
  | .node tag _ => .node tag

mutual

/-- The elements of a tree with their depths, its top being at the given depth. -/
def outlineFrom (depth : Nat) : Tree → List (Nat × Element)
  | .leaf token => [(depth, .leaf token)]
  | .node tag children => (depth, .node tag) :: outlineAll (depth + 1) children

/-- The elements of a forest with their depths. -/
def outlineAll (depth : Nat) : List Tree → List (Nat × Element)
  | [] => []
  | t :: rest => outlineFrom depth t ++ outlineAll depth rest

end

/-- The elements of a tree with their depths, in document order. -/
def outline (t : Tree) : List (Nat × Element) :=
  outlineFrom 0 t

/-- What a search for a tag finds, elements being numbered in document order of the whole tree. -/
structure Findings where
  /-- The interior nodes with the tag. -/
  tagged : List (Nat × Node)
  /-- The tokens. -/
  leaves : List Nat

/-- Searches the part of a tree below the element with number `start`. -/
def search? (t : Tree) (tag : String) (start : Nat) : Option Findings := do
  let part ← t.elements[start]?
  let numbered := part.elements.zipIdx start
  return {
    tagged := numbered.filterMap fun (e, i) => (e.node?.filter (·.tag == tag)).map (i, ·)
    leaves := numbered.filterMap fun (e, i) => e.leaf?.map fun _ => i }

end Tree

namespace Node

/-- The tokens below a node. -/
def leaves (n : Node) : List Leaf :=
  n.toTree.leaves

/-- The interior nodes with a tag at or below a node. -/
def nodesTagged (n : Node) (tag : String) : List Node :=
  n.toTree.nodesTagged tag

/-- The first interior node with a tag at or below a node. -/
def firstTagged? (n : Node) (tag : String) : Option Node :=
  n.toTree.firstTagged? tag

end Node

end FlopCensus
