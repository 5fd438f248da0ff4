import FlopCensus.Dump.Entry
import FlopCensus.Text.Lines

set_option autoImplicit false
set_option relaxedAutoImplicit false

/-!
# Reading a tree dump

The indentation of an entry alone tells which node it belongs to, so no grammar is needed: the
nodes that are still open form a stack, and an entry first closes those at its own level or deeper.
An entry indented deeper than the stack is tall goes to the innermost open node. An entry at the
outermost level finds no open node: a node becomes the new root, and a leaf is dropped.

## Main definitions

* `FlopCensus.Dump.Progress`: the finished root and the open nodes.
* `FlopCensus.Dump.Progress.add`: one more entry.
* `FlopCensus.Dump.parse`: the tree of a dump.
-/

namespace FlopCensus.Dump

/-- A node whose children are still being read. -/
structure OpenNode where
  /-- The tag of the node. -/
  tag : String
  /-- The children read so far, the last one first. -/
  before : List Tree

/-- The state between two entries. -/
structure Progress where
  /-- The last tree that was closed. -/
  root : Option Node
  /-- The open nodes, innermost first. -/
  stack : List OpenNode

/-- The node with the children read so far. -/
def OpenNode.close (o : OpenNode) : Node :=
  ⟨o.tag, o.before.reverse⟩

/-- The open node with one more child. -/
def OpenNode.push (o : OpenNode) (child : Tree) : OpenNode :=
  { o with before := child :: o.before }

namespace Progress

/-- Before the first entry. -/
def initial : Progress :=
  ⟨none, []⟩

/-- Closes the given number of open nodes, innermost first. -/
def close : Nat → Progress → Progress
  | 0, p => p
  | _ + 1, ⟨root, []⟩ => ⟨root, []⟩
  -- an outermost node takes the place of the tree before it
  | n + 1, ⟨_, [o]⟩ => close n ⟨some o.close, []⟩
  | n + 1, ⟨root, inner :: outer :: rest⟩ =>
    close n ⟨root, outer.push inner.close.toTree :: rest⟩

/-- Closes nodes until no more than `depth` are open. -/
def closeTo (depth : Nat) (p : Progress) : Progress :=
  p.close (p.stack.length - depth)

/-- Adds an element at a depth, which is at most the number of open nodes. -/
def add (p : Progress) (depth : Nat) (e : Element) : Progress :=
  let p := p.closeTo depth
  match e, p.stack with
  | .node tag, stack => { p with stack := ⟨tag, []⟩ :: stack }
  -- a leaf outside all nodes belongs to no tree
  | .leaf _, [] => p
  | .leaf token, o :: rest => { p with stack := o.push (.leaf token) :: rest }

/-- The tree, if there was any node. -/
def result (p : Progress) : Option Node :=
  (p.closeTo 0).root

end Progress

/-- The number of nodes that stay open before an entry: its level, but no more than are open. A
negative level, from a negative width, counts down from the innermost open node. -/
def depthOf (width : Int) (indent opened : Nat) : Except Error Nat :=
  if width == 0 then .error .zeroIndentWidth
  else
    let level := Int.fdiv indent width
    if level < 0 then .ok (opened - level.natAbs)
    else .ok (min level.toNat opened)

/-- Reads one line. -/
def readInto (width : Int) (p : Progress) (line : List Char) : Except Error Progress := do
  match ← readLine line with
  | none => return p
  | some entry => return p.add (← depthOf width entry.indent p.stack.length) entry.element

/-- The tree of a dump whose levels are `width` blanks wide. -/
def parse (text : String) (width : Int) : Except Error Node := do
  let p ← (Text.splitLines text.toList).foldlM (readInto width) .initial
  match p.result with
  | some root => return root
  | none => throw .noNodes

/-- The width of a level in the dumps of the syntax tools. -/
def standardWidth : Int := 2

/-- The tree of a dump as the syntax tools print it. -/
def parseStandard (text : String) : Except Error Node :=
  parse text standardWidth

end FlopCensus.Dump
