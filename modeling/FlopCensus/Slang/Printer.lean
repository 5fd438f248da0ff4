import FlopCensus.Numeral.Integer
import FlopCensus.Slang.Basic
import FlopCensus.Text.Utf8

set_option autoImplicit false
set_option relaxedAutoImplicit false

/-!
# Dumping syntax trees of slang

A syntax tree is printed in the format of tree dumps. The first part of an assignment is wrapped in
a node for the left side. A token without a tag of its own is tagged by its text in quotes.

The depth of the stack is not modelled: a tree is printed however deep it is, also one for which a
recursive printer with a bounded stack would give up.

## Main definitions

* `FlopCensus.Slang.leafTag`, `FlopCensus.Slang.leafText`: how a token is written.
* `FlopCensus.Slang.treeLines`: the lines of a tree.
* `FlopCensus.Slang.render`: the dump of a tree.
-/

namespace FlopCensus.Slang

/-- The blanks in front of a line. -/
def indent (width : Int) (depth : Nat) : String :=
  String.ofList (List.replicate (width * depth).toNat ' ')

/-- The line that opens a node. -/
def nodeLine (width : Int) (depth index : Nat) (tag : String) : String :=
  indent width depth ++ "Node @" ++ Numeral.natText index ++ " (tag: " ++ tag ++ ") \x7b"

/-- The line that closes a node. -/
def closingLine (width : Int) (depth : Nat) : String :=
  indent width depth ++ "\x7d"

/-- The tag of a token: that of its kind, or its text in quotes, in which a quote of the same form
becomes one of the other. -/
def leafTag (t : Token) : String :=
  match tokenTags.lookup t.kind with
  | some tag => tag
  | none =>
    "\"" ++ String.ofList (t.text.toList.map fun c => if c == '"' then '\'' else c) ++ "\""

/-- The text of a token, a line feed being written as an escape. -/
def leafText (t : Token) : String :=
  String.ofList (t.text.toList.flatMap fun c => if c == '\n' then ['\\', 'n'] else [c])

/-- The line of a token; none for a token that is empty or made up. -/
def tokenLines (width : Int) (depth index : Nat) (t : Token) : Except Numeral.Error (List String) :=
  if t.text == "" || t.missing then return []
  else do
    let start ← Numeral.write t.offset
    let stop ← Numeral.write (t.offset + t.text.utf8ByteSize)
    return [indent width depth ++ "Leaf @" ++ Numeral.natText index ++ " (#" ++ leafTag t ++ " @" ++
      start ++ "-" ++ stop ++ ": \"" ++ leafText t ++ "\")"]

mutual

/-- The lines of a tree that is part number `index` of a node. -/
def treeLines (width : Int) (depth index : Nat) (declared : Bool) :
    Tree → Except Numeral.Error (List String)
  | .absent => return []
  | .token t => tokenLines width depth index t
  | .node kind children => do
    let body ← partLines width (depth + 1) 0 (declaredBelow kind declared)
      (assignmentKinds.contains kind) children
    return nodeLine width depth index (nodeTag kind declared) :: body ++ [closingLine width depth]

/-- The lines of the parts of a node, of which the next is number `index`. If `wrap` holds, the next
part that is there is the left side of an assignment. -/
def partLines (width : Int) (depth index : Nat) (declared wrap : Bool) :
    List Tree → Except Numeral.Error (List String)
  | [] => return []
  | .absent :: rest => partLines width depth index declared wrap rest
  | part :: rest => do
    let lines ←
      if wrap then do
        let inner ← treeLines width (depth + 1) 0 declared part
        pure (nodeLine width depth 0 "kLPValue" :: inner ++ [closingLine width depth])
      else treeLines width depth index declared part
    return lines ++ (← partLines width depth (index + 1) declared false rest)

end

/-- The lines of a whole tree. A root that is no node is printed as a node without parts. -/
def rootLines (width : Int) : Tree → Except Numeral.Error (List String)
  | .node kind children => treeLines width 0 0 false (.node kind children)
  | root => treeLines width 0 0 false (.node root.kind [])

/-- The dump of a tree whose levels are `width` blanks wide. -/
def render (width : Int) (root : Tree) : Except Numeral.Error String := do
  return "\n".intercalate ("Parse Tree:" :: (← rootLines width root)) ++ "\n"

end FlopCensus.Slang
