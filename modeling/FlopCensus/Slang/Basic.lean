import FlopCensus.Text.Search

set_option autoImplicit false
set_option relaxedAutoImplicit false

/-!
# Syntax trees of slang

The trees of the slang front end differ from the dumped ones in their kinds and in two points of
structure: a dimension does not say whether it is packed, and the left side of an assignment has no
node of its own.

## Main definitions

* `FlopCensus.Slang.Token`, `FlopCensus.Slang.Tree`: tokens and trees.
* `FlopCensus.Slang.nodeTags`, `FlopCensus.Slang.tokenTags`: the tags that kinds are dumped as.
-/

namespace FlopCensus.Slang

/-- A token. -/
structure Token where
  /-- The kind by name. -/
  kind : String
  /-- The text as it stands in the source. -/
  text : String
  /-- The offset of the first byte. -/
  offset : Int := 0
  /-- The parser made the token up. -/
  missing : Bool := false
deriving Repr, DecidableEq

/-- A syntax tree, in which optional parts may be absent. -/
inductive Tree where
  /-- An optional part that is not there. -/
  | absent
  /-- A token. -/
  | token (t : Token)
  /-- A node with its parts. -/
  | node (kind : String) (children : List Tree)
deriving Repr

/-- The kind of a tree by name. -/
def Tree.kind : Tree → String
  | .absent => "None"
  | .token t => t.kind
  | .node kind _ => kind

/-- The tags of nodes whose kind has a counterpart in dumps. -/
def nodeTags : List (String × String) := [
  ("CompilationUnit", "kDescriptionList"),
  ("ModuleDeclaration", "kModuleDeclaration"),
  ("ModuleHeader", "kModuleHeader"),
  ("AnsiPortList", "kPortDeclarationList"),
  ("ImplicitAnsiPort", "kPortDeclaration"),
  ("ExplicitAnsiPort", "kPortDeclaration"),
  ("PortDeclaration", "kModulePortDeclaration"),
  ("DataDeclaration", "kDataDeclaration"),
  ("NetDeclaration", "kNetDeclaration"),
  ("Declarator", "kRegisterVariable"),
  ("AlwaysBlock", "kAlwaysStatement"),
  ("AlwaysFFBlock", "kAlwaysStatement"),
  ("AlwaysCombBlock", "kAlwaysStatement"),
  ("AlwaysLatchBlock", "kAlwaysStatement"),
  ("SignalEventExpression", "kEventExpression"),
  ("AssignmentExpression", "kBlockingAssignmentStatement"),
  ("NonblockingAssignmentExpression", "kNonblockingAssignmentStatement"),
  ("ContinuousAssign", "kContinuousAssignmentStatement")]

/-- The tags of tokens whose kind has a counterpart in dumps. -/
def tokenTags : List (String × String) := [
  ("Identifier", "SymbolIdentifier"),
  ("SystemIdentifier", "SystemTFIdentifier"),
  ("IntegerLiteral", "TK_DecNumber"),
  ("IntegerBase", "TK_NumberBase"),
  ("UnbasedUnsizedLiteral", "TK_UnBasedNumber"),
  ("RealLiteral", "TK_RealTime"),
  ("TimeLiteral", "TK_TimeLiteral"),
  ("StringLiteral", "TK_StringLiteral")]

/-- The kinds of assignments. -/
def assignmentKinds : List String :=
  ["AssignmentExpression", "NonblockingAssignmentExpression"]

/-- The kind of a dimension, packed or not. -/
def dimensionKind : String := "VariableDimension"

/-- The kind of a declared name with its own dimensions. -/
def declaratorKind : String := "Declarator"

/-- The tag of a node. A dimension is unpacked when it hangs off a declarator. -/
def nodeTag (kind : String) (declared : Bool) : String :=
  if kind == dimensionKind then (if declared then "kUnpackedDimensions" else "kPackedDimensions")
  else (nodeTags.lookup kind).getD kind

/-- What is below a node hangs off a declarator: the node is one, or it hangs off one itself and is
no type, for the dimensions of a type are packed. -/
def declaredBelow (kind : String) (declared : Bool) : Bool :=
  kind == declaratorKind || (declared && !Text.endsWith kind "Type")

end FlopCensus.Slang
