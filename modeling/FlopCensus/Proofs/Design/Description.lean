import FlopCensus.Design.Width
import FlopCensus.Inventory.Basic
import FlopCensus.Proofs.Dump.Listing
import Mathlib.Data.List.Basic
import Mathlib.Tactic.Common

set_option autoImplicit false
set_option relaxedAutoImplicit false

/-!
# Descriptions of designs

A description says what a design consists of: modules with their ports, and in their bodies data
declarations and `always` blocks in any order. From it one gets the dump that a syntax tool prints
of the design, and, without any dump, the inventory that an analysis ought to find.

## Main definitions

* `FlopCensus.Description.Module` — modules, made of `Port`, `Data` and `Block`.
* `FlopCensus.Description.Module.listing` — the part of the dump that shows a module.
* `FlopCensus.Description.dump` — the dump of a list of modules.
* `FlopCensus.Description.Module.stored` — the variables of a module that store a value.
* `FlopCensus.Description.inventory` — the inventory of a list of modules.

## Design

Every token has bytes of its own, which nothing relates to those of other tokens. Where a construct
has several fixed tokens, `marks` gives their bytes by position.
-/

namespace FlopCensus.Description

open Text Dump

/-! ### Tokens -/

/-- The words that no name is. -/
def reservedWords : List String :=
  ["module", "wire", "reg", "logic", "input", "output", "inout", "posedge", "negedge"]

/-- A name: a text on one line that is no reserved word. -/
structure Name where
  /-- The name. -/
  text : String
  /-- The name stays on its line. -/
  isPlain : IsPlain text.toList
  /-- The name is no reserved word. -/
  not_reserved : text ∉ reservedWords

/-- A name in a source. -/
structure Ident where
  /-- The name. -/
  name : Name
  /-- The bytes of the name. -/
  span : Span

/-- A natural number in a source. -/
structure Natural where
  /-- The number. -/
  value : ℕ
  /-- The number can be written. -/
  fits : (Numeral.decimal value).length ≤ Numeral.digitLimit
  /-- The bytes of the number. -/
  span : Span

/-- The text can stand between two quotes: it holds no such quote, stays on its line, and has no
quotes at its ends. -/
def FitsBetween (quote : Char) (s : List Char) : Prop :=
  quote ∉ s ∧ IsPlain s ∧ stripBy isQuote s = s

instance (quote : Char) (s : List Char) : Decidable (FitsBetween quote s) :=
  inferInstanceAs (Decidable (_ ∧ _ ∧ _))

/-- A text that is given by its characters can stand between quotes if they can. -/
lemma FitsBetween.ofList {quote : Char} {s : List Char} (h : FitsBetween quote s) :
    FitsBetween quote (String.ofList s).toList := by
  rwa [String.toList_ofList]

/-- The tag of a word of the language, which is the word in double quotes. -/
def wordTag (text : String)
    (h : FitsBetween '"' text.toList := by exact FitsBetween.ofList (by decide)) : Tag :=
  ⟨.double, text, h.1, h.2.1, h.2.2⟩

/-- The tag of a sign of the language, which is the sign in single quotes. -/
def signTag (text : String)
    (h : FitsBetween '\'' text.toList := by exact FitsBetween.ofList (by decide)) : Tag :=
  ⟨.single, text, h.1, h.2.1, h.2.2⟩

/-- The tag of a class of tokens, which is written without quotes. -/
def classTag (text : String)
    (h : isWord text.toList = true := by exact isWord_ofList (by decide)) : Tag :=
  ⟨.word, text, h, isPlain_of_isWord h, stripBy_isQuote_of_isWord h⟩

/-- The label of a node. -/
def label (name : String)
    (h : isWord name.toList = true := by exact isWord_ofList (by decide)) : Label :=
  ⟨name, h⟩

/-- A token that is its own tag. -/
def fixed (index : ℕ) (tag : Tag) (span : Span) : Listing :=
  .leaf index tag ⟨tag.name, tag.isPlain⟩ span

/-- An identifier. -/
def Ident.listing (index : ℕ) (x : Ident) : Listing :=
  .leaf index (classTag "SymbolIdentifier") ⟨x.name.text, x.name.isPlain⟩ x.span

/-- An identifier that stands for a value. -/
def Ident.reference (index : ℕ) (x : Ident) : Listing :=
  .node index (label "kReference") [x.listing 0]

/-- The digits of a number stay on their line. -/
lemma isPlain_natText (n : ℕ) : IsPlain (Numeral.natText n).toList := by
  rw [Numeral.natText, String.toList_ofList]
  exact (isNumeral_decimal n).isPlain

/-- A number. -/
def Natural.listing (index : ℕ) (n : Natural) : Listing :=
  .leaf index (classTag "TK_DecNumber") ⟨Numeral.natText n.value, isPlain_natText n.value⟩ n.span

/-! ### Lists of parts -/

section Lists

variable {α : Type} (sep : ℕ → Listing) (item : ℕ → α → Listing)

/-- Parts one after another, numbered from the given number on. -/
def numbered : ℕ → List α → List Listing
  | _, [] => []
  | i, a :: as => item i a :: numbered (i + 1) as

/-- Further parts of a list with separators. -/
def separatedFrom : ℕ → List α → List Listing
  | _, [] => []
  | i, a :: as => sep i :: item (i + 1) a :: separatedFrom (i + 2) as

/-- The parts of a list with separators between them. -/
def separated : List α → List Listing
  | [] => []
  | a :: as => item 0 a :: separatedFrom sep item 1 as

end Lists

/-! ### Declarations -/

/-- A literal range. -/
structure Range where
  /-- The bound on the left. -/
  msb : Natural
  /-- The bound on the right. -/
  lsb : Natural
  /-- The bytes of the fixed tokens. -/
  marks : ℕ → Span

/-- The number of bits of a range. -/
def Range.width (r : Range) : ℕ :=
  ((r.msb.value : ℤ) - r.lsb.value).natAbs + 1

/-- The parts of the packed dimensions that consist of a range. -/
def Range.parts (r : Range) : List Listing := [
  .node 0 (label "kDeclarationDimensions") [
    .node 0 (label "kDimensionRange") [
      fixed 0 (signTag "[") (r.marks 0),
      r.msb.listing 1,
      fixed 2 (signTag ":") (r.marks 2),
      r.lsb.listing 3,
      fixed 4 (signTag "]") (r.marks 4)]]]

/-- The packed dimensions that consist of a range. -/
def Range.listing (index : ℕ) (r : Range) : Listing :=
  .node index (label "kPackedDimensions") r.parts

/-- The number of bits of a declaration with or without a range. -/
def widthOf : Option Range → ℕ
  | none => 1
  | some r => r.width

/-- A kind that stores a value. -/
inductive Storage where
  | reg
  | logic
deriving Repr, DecidableEq

/-- The word for the kind. -/
def Storage.tag : Storage → Tag
  | .reg => wordTag "reg"
  | .logic => wordTag "logic"

/-- The kind of a port. -/
inductive Kind where
  /-- A net. -/
  | wire
  /-- A kind that stores a value. -/
  | storage (s : Storage)
deriving Repr, DecidableEq

/-- The word for the kind. -/
def Kind.tag : Kind → Tag
  | .wire => wordTag "wire"
  | .storage s => s.tag

/-- The parts of a data type, of which both are optional. -/
def typeParts (kind : Option (Kind × Span)) (range : Option Range) : List Listing :=
  (kind.map fun k => .node 1 (label "kDataTypePrimitive") [fixed 0 k.1.tag k.2]).toList ++
    (range.map (Range.listing 3)).toList

/-- The direction of a port. -/
inductive Direction where
  | input
  | output
  | inout
deriving Repr, DecidableEq

/-- The word for the direction. -/
def Direction.tag : Direction → Tag
  | .input => wordTag "input"
  | .output => wordTag "output"
  | .inout => wordTag "inout"

/-- A port. -/
structure Port where
  /-- The direction. -/
  direction : Direction
  /-- The bytes of the direction. -/
  directionSpan : Span
  /-- The kind with its bytes, if there is one. -/
  kind : Option (Kind × Span)
  /-- The range, if there is one. -/
  range : Option Range
  /-- The name. -/
  name : Ident

/-- The data type of a port, which is printed only if it has any parts. -/
def Port.dataType (p : Port) : List Listing :=
  match typeParts p.kind p.range with
  | [] => []
  | t :: ts => [.node 2 (label "kDataType") (t :: ts)]

/-- The parts of a port. -/
def Port.parts (p : Port) : List Listing :=
  fixed 0 p.direction.tag p.directionSpan ::
    (p.dataType ++ [.node 3 (label "kUnqualifiedId") [p.name.listing 0]])

/-- A port declaration. -/
def Port.listing (index : ℕ) (p : Port) : Listing :=
  .node index (label "kPortDeclaration") p.parts

/-- The bits of a port that stores a value: an output of such a kind. -/
def Port.stored (p : Port) : List (Ident × ℕ) :=
  match p.direction, p.kind with
  | .output, some (.storage _, _) => [(p.name, widthOf p.range)]
  | _, _ => []

/-- A data declaration. -/
structure Data where
  /-- The kind. -/
  kind : Storage
  /-- The range, if there is one. -/
  range : Option Range
  /-- The variables. -/
  names : List Ident
  /-- The bytes of the commas. -/
  commas : ℕ → Span
  /-- The bytes of the other fixed tokens. -/
  marks : ℕ → Span

/-- A declared variable. -/
def variableListing (index : ℕ) (x : Ident) : Listing :=
  .node index (label "kRegisterVariable") [x.listing 0]

/-- A comma. -/
def comma (spans : ℕ → Span) (index : ℕ) : Listing :=
  fixed index (signTag ",") (spans index)

/-- The parts of a data declaration. -/
def Data.parts (d : Data) : List Listing := [
  .node 1 (label "kInstantiationType") [
    .node 0 (label "kDataType") (typeParts (some (.storage d.kind, d.marks 0)) d.range)],
  .node 2 (label "kGateInstanceRegisterVariableList")
    (separated (comma d.commas) variableListing d.names),
  fixed 3 (signTag ";") (d.marks 3)]

/-- A data declaration. -/
def Data.listing (index : ℕ) (d : Data) : Listing :=
  .node index (label "kDataDeclaration") d.parts

/-- The variables of a data declaration with their numbers of bits. -/
def Data.stored (d : Data) : List (Ident × ℕ) :=
  d.names.map fun x => (x, widthOf d.range)

/-! ### Blocks -/

/-- The edge that a block waits for. -/
inductive Edge where
  | posedge
  | negedge
deriving Repr, DecidableEq

/-- The word for the edge. -/
def Edge.tag : Edge → Tag
  | .posedge => wordTag "posedge"
  | .negedge => wordTag "negedge"

/-- A term of an event control: a signal, or an edge of a signal. -/
structure Event where
  /-- The edge with its bytes, if the term is one. -/
  edge : Option (Edge × Span)
  /-- The signal. -/
  signal : Ident

/-- The signal whose edge a term waits for. -/
def Event.waited (e : Event) : Option String :=
  e.edge.map fun _ => e.signal.name.text

/-- The parts of a term. -/
def Event.parts (e : Event) : List Listing :=
  (e.edge.map fun x => fixed 0 x.1.tag x.2).toList ++ [e.signal.reference 1]

/-- A term of an event control. -/
def Event.listing (index : ℕ) (e : Event) : Listing :=
  .node index (label "kEventExpression") e.parts

/-- A value: names and numbers under binary operations. The sign of an operation is its tag. -/
inductive Value where
  | name (x : Ident)
  | number (n : Natural)
  | binary (left : Value) (sign : Tag) (span : Span) (right : Value)

/-- A value. -/
def Value.listing (index : ℕ) : Value → Listing
  | .name x => x.reference index
  | .number n => n.listing index
  | .binary left sign span right =>
    .node index (label "kBinaryExpression") [left.listing 0, fixed 1 sign span, right.listing 2]

/-- An assignment, which may stand under a condition. -/
structure Assignment where
  /-- The condition, if there is one. -/
  condition : Option Value
  /-- The assignment is a blocking one. -/
  blocking : Bool
  /-- The assigned name. -/
  target : Ident
  /-- The assigned value. -/
  value : Value
  /-- The bytes of the fixed tokens. -/
  marks : ℕ → Span

/-- The label of the assignment without its condition. -/
def Assignment.label (a : Assignment) : Label :=
  if a.blocking then Description.label "kBlockingAssignmentStatement"
  else Description.label "kNonblockingAssignmentStatement"

/-- The parts of the assignment without its condition. -/
def Assignment.parts (a : Assignment) : List Listing := [
  .node 0 (Description.label "kLPValue") [a.target.reference 0],
  (if a.blocking then fixed 1 (signTag "=") (a.marks 1)
    else .leaf 1 (classTag "TK_LE") ⟨"<=", by decide⟩ (a.marks 1)),
  a.value.listing 2,
  fixed 3 (signTag ";") (a.marks 3)]

/-- The assignment without its condition. -/
def Assignment.bare (index : ℕ) (a : Assignment) : Listing :=
  .node index a.label a.parts

/-- An assignment, under its condition if there is one. -/
def Assignment.listing (index : ℕ) (a : Assignment) : Listing :=
  match a.condition with
  | none => a.bare index
  | some c =>
    .node index (Description.label "kConditionalStatement") [
      .node 0 (Description.label "kIfClause") [
        .node 0 (Description.label "kIfHeader") [
          fixed 0 (wordTag "if") (a.marks 4),
          .node 1 (Description.label "kParenGroup") [
            fixed 0 (signTag "(") (a.marks 5),
            c.listing 1,
            fixed 2 (signTag ")") (a.marks 6)]],
        .node 1 (Description.label "kIfBody") [a.bare 0]]]

/-- The word that opens a block. -/
inductive BlockWord where
  | always
  | alwaysFf
  | alwaysComb
  | alwaysLatch
deriving Repr, DecidableEq

/-- The word itself. -/
def BlockWord.tag : BlockWord → Tag
  | .always => wordTag "always"
  | .alwaysFf => wordTag "always_ff"
  | .alwaysComb => wordTag "always_comb"
  | .alwaysLatch => wordTag "always_latch"

/-- An `always` block. -/
structure Block where
  /-- The word that opens the block. -/
  word : BlockWord
  /-- The terms of the event control, if there is one. -/
  events : Option (List Event)
  /-- The assignments. -/
  assignments : List Assignment
  /-- The bytes of the words between the terms. -/
  separators : ℕ → Span
  /-- The bytes of the other fixed tokens. -/
  marks : ℕ → Span

/-- The body of a block: its only assignment, or all of them between `begin` and `end`. -/
def Block.body (b : Block) : Listing :=
  match b.assignments with
  | [a] => a.listing 1
  | as =>
    .node 1 (label "kSeqBlock") [
      .node 0 (label "kBegin") [fixed 0 (wordTag "begin") (b.marks 4)],
      .node 1 (label "kBlockItemStatementList") (numbered Assignment.listing 0 as),
      .node 2 (label "kEnd") [fixed 0 (wordTag "end") (b.marks 5)]]

/-- The word between two terms. -/
def orWord (spans : ℕ → Span) (index : ℕ) : Listing :=
  fixed index (wordTag "or") (spans index)

/-- An event control with the given terms. -/
def Block.control (b : Block) (events : List Event) : Listing :=
  .node 0 (label "kEventControl") [
    fixed 0 (signTag "@") (b.marks 1),
    .node 1 (label "kParenGroup") [
      fixed 0 (signTag "(") (b.marks 2),
      .node 1 (label "kEventExpressionList") (separated (orWord b.separators) Event.listing events),
      fixed 2 (signTag ")") (b.marks 3)]]

/-- The parts of a block. -/
def Block.parts (b : Block) : List Listing := [
  fixed 0 b.word.tag (b.marks 0),
  match b.events with
  | none => b.body
  | some events =>
    .node 1 (label "kProceduralTimingControlStatement") [b.control events, b.body]]

/-- A block. -/
def Block.listing (index : ℕ) (b : Block) : Listing :=
  .node index (label "kAlwaysStatement") b.parts

/-- The terms of the event control; none without an event control. -/
def Block.terms (b : Block) : List Event :=
  b.events.getD []

/-- The signals whose edges the block waits for. -/
def Block.edges (b : Block) : List String :=
  b.terms.filterMap Event.waited

/-- The block assigns the name. -/
def Block.assigns (b : Block) (name : String) : Bool :=
  b.assignments.any fun a => a.target.name.text = name

/-! ### Modules -/

/-- A part of the body of a module. -/
inductive Item where
  | data (d : Data)
  | block (b : Block)

/-- A part of the body of a module. -/
def Item.listing (index : ℕ) : Item → Listing
  | .data d => d.listing index
  | .block b => b.listing index

/-- The data declaration, if the part is one. -/
def Item.data? : Item → Option Data
  | .data d => some d
  | .block _ => none

/-- The block, if the part is one. -/
def Item.block? : Item → Option Block
  | .data _ => none
  | .block b => some b

/-- A module. -/
structure Module where
  /-- The bytes of the word that opens the module. -/
  opening : Span
  /-- The name. -/
  name : Ident
  /-- The ports. -/
  ports : List Port
  /-- The body. -/
  items : List Item
  /-- The bytes of the commas between the ports. -/
  commas : ℕ → Span
  /-- The bytes of the other fixed tokens. -/
  marks : ℕ → Span

/-- The parts of the header of a module. -/
def Module.headerParts (m : Module) : List Listing := [
  fixed 0 (wordTag "module") m.opening,
  m.name.listing 2,
  .node 5 (label "kParenGroup") [
    fixed 0 (signTag "(") (m.marks 0),
    .node 1 (label "kPortDeclarationList") (separated (comma m.commas) Port.listing m.ports),
    fixed 2 (signTag ")") (m.marks 1)],
  fixed 7 (signTag ";") (m.marks 2)]

/-- The parts of a module. -/
def Module.parts (m : Module) : List Listing := [
  .node 0 (label "kModuleHeader") m.headerParts,
  .node 1 (label "kModuleItemList") (numbered Item.listing 0 m.items),
  fixed 2 (wordTag "endmodule") (m.marks 3)]

/-- A module. -/
def Module.listing (index : ℕ) (m : Module) : Listing :=
  .node index (label "kModuleDeclaration") m.parts

/-- The dump of a list of modules, two blanks for each level. -/
def dump (modules : List Module) : String :=
  dumpOf 2 0 (label "kDescriptionList") (numbered Module.listing 0 modules)

/-- The data declarations of a module. -/
def Module.data (m : Module) : List Data :=
  m.items.filterMap Item.data?

/-- The blocks of a module. -/
def Module.blocks (m : Module) : List Block :=
  m.items.filterMap Item.block?

/-- The variables of a module that store a value, with their numbers of bits: those declared in its
body and then its outputs. -/
def Module.stored (m : Module) : List (Ident × ℕ) :=
  m.data.flatMap Data.stored ++ m.ports.flatMap Port.stored

/-! ### The inventory -/

/-- The line of a token: one more than there are line feeds before it. -/
def lineOf (source : List UInt8) (span : Span) : ℕ :=
  (source.take span.start).count 10 + 1

/-- The register of a variable. The first block that waits for an edge and assigns the variable
makes it a flip-flop, with the clock and the reset of that block. Without such a block, a variable
that is assigned at all is a latch, and any other one a flip-flop. -/
def Module.register (m : Module) (source : List UInt8) (file : String) (x : Ident × ℕ) : Register :=
  let name := x.1.name.text
  let declared : Register := {
    name
    width := x.2
    line := lineOf source x.1.span
    module := m.name.name.text
    file }
  match m.blocks.find? fun b => !b.edges.isEmpty && b.assigns name with
  | some b =>
    { declared with classification := .flipFlop, clock := b.edges[0]?, reset := b.edges[1]? }
  | none =>
    if m.blocks.any (·.assigns name) then { declared with classification := .latch }
    else { declared with classification := .flipFlop }

/-- The registers of a module. -/
def Module.registers (m : Module) (source : List UInt8) (file : String) : List Register :=
  m.stored.map (m.register source file)

/-- The summary of a module. -/
def Module.summary (m : Module) (source : List UInt8) (file : String) : ModuleSummary where
  name := m.name.name.text
  file := file
  line := lineOf source m.opening
  registerCount := m.stored.length

/-- The inventory of a list of modules. -/
def inventory (modules : List Module) (source : List UInt8) (file : String) : Inventory where
  registers := modules.flatMap (·.registers source file)
  modules := modules.map (·.summary source file)

end FlopCensus.Description
