import FlopCensus.Proofs.Design.Description
import FlopCensus.Proofs.Slang.Translation
import Mathlib.Data.List.Basic
import Mathlib.Tactic.Common

set_option autoImplicit false
set_option relaxedAutoImplicit false

/-!
# Syntax trees of described designs

The slang front end makes a syntax tree of a design that differs from the one a syntax tool dumps:
other nodes stand between the ones that matter, declared names have a node of their own also in
ports, the words between the terms of an event control are nested, and the semicolon stands behind
an assignment instead of in it. This tree is given here for every description. It has the tokens of
the description, at the same offsets.

## Main definitions

* `FlopCensus.Slang.Sketch` — syntax trees whose parts carry what makes them printable.
* `FlopCensus.Description.Sign`, `FlopCensus.Description.Word` — the signs and words at fixed places.
* `FlopCensus.Description.Module.sketch` — the part of the tree that shows a module, made of
  `Port.sketch`, `Data.sketch` and `Block.sketch`.
* `FlopCensus.Description.syntaxTree` — the syntax tree of a list of modules.

## Main results

* `FlopCensus.Slang.Sketch.printable_tree` — every sketch is a printable tree.
* `FlopCensus.Description.spelling_tokens_syntaxTree` — the tree has the tokens of the dumped one.
-/

namespace FlopCensus

namespace Slang

open Text Dump

/-! ### Sketches -/

/-- A syntax tree in which the kinds of nodes are words and each token stays on its line. -/
inductive Sketch where
  /-- An optional part that is not there. -/
  | absent
  /-- A token of a kind, at an offset. -/
  | token (kind : String) (text : LineText) (offset : ℕ)
  /-- A node with its parts. -/
  | node (kind : Label) (parts : List Sketch)

namespace Sketch

mutual

/-- The syntax tree of a sketch. -/
def tree : Sketch → Tree
  | .absent => .absent
  | .token kind text offset => .token ⟨kind, text.text, offset, false⟩
  | .node kind parts => .node kind.name (trees parts)

/-- The syntax trees of several sketches. -/
def trees : List Sketch → List Tree
  | [] => []
  | s :: rest => tree s :: trees rest

end

mutual

/-- **Every sketch is a printable tree.** -/
theorem printable_tree (s : Sketch) : Printable (kinds s.tree) (tokens s.tree) := by
  match s with
  | .absent =>
    rw [tree, kinds, tokens]
    exact ⟨by simp, by simp⟩
  | .token kind text offset =>
    rw [tree, kinds, tokens]
    refine ⟨by simp, ?_⟩
    have honly : OnlyNewlines text.text.toList :=
      fun c hc hbreak => absurd (text.isPlain c hc) (by simp [hbreak])
    simp only [List.mem_singleton, forall_eq]
    exact ⟨Int.natCast_nonneg offset, honly, fun _ => text.isPlain⟩
  | .node kind parts =>
    have hparts := printable_trees parts
    rw [tree, kinds, tokens]
    exact ⟨List.forall_mem_cons.2 ⟨kind.isWord_name, hparts.isWord_of_mem⟩,
      hparts.isPrintable_of_mem⟩

/-- Several sketches are printable trees. -/
theorem printable_trees (ss : List Sketch) :
    Printable (kindsAll (trees ss)) (tokensAll (trees ss)) := by
  match ss with
  | [] =>
    rw [trees, kindsAll, tokensAll]
    exact ⟨by simp, by simp⟩
  | s :: rest =>
    rw [trees, kindsAll, tokensAll]
    exact printable_append.2 ⟨printable_tree s, printable_trees rest⟩

end

/-- A word or sign of the language as a token of the given kind. -/
def fixed (kind : String) (tag : Tag) (span : Span) : Sketch :=
  .token kind ⟨tag.name, tag.isPlain⟩ span.start

section Lists

variable {α : Type} (sep : ℕ → Sketch) (item : α → Sketch)

/-- Further parts of a list with separators. -/
def separatedFrom : ℕ → List α → List Sketch
  | _, [] => []
  | i, a :: as => sep i :: item a :: separatedFrom (i + 2) as

/-- The parts of a list with separators between them. -/
def separated : List α → List Sketch
  | [] => []
  | a :: as => item a :: separatedFrom sep item 1 as

end Lists

end Sketch

end Slang

namespace Description

open Dump Slang

/-! ### Signs and words -/

/-- The signs that stand at fixed places. -/
inductive Sign where
  | openBracket
  | closeBracket
  | openParenthesis
  | closeParenthesis
  | colon
  | comma
  | semicolon
  | at
  | equals
  | lessThanEquals
deriving Repr, DecidableEq

/-- The sign. -/
@[simp]
def Sign.text : Sign → String
  | .openBracket => "["
  | .closeBracket => "]"
  | .openParenthesis => "("
  | .closeParenthesis => ")"
  | .colon => ":"
  | .comma => ","
  | .semicolon => ";"
  | .at => "@"
  | .equals => "="
  | .lessThanEquals => "<="

/-- The kind of the tokens that show the sign. -/
def Sign.kind : Sign → String
  | .openBracket => "OpenBracket"
  | .closeBracket => "CloseBracket"
  | .openParenthesis => "OpenParenthesis"
  | .closeParenthesis => "CloseParenthesis"
  | .colon => "Colon"
  | .comma => "Comma"
  | .semicolon => "Semicolon"
  | .at => "At"
  | .equals => "Equals"
  | .lessThanEquals => "LessThanEquals"

/-- No sign holds quotes or ends its line. -/
lemma Sign.fitsBetween (s : Sign) : FitsBetween '\'' s.text.toList := by
  cases s <;> decide

/-- The tag of the sign. -/
def Sign.tag (s : Sign) : Tag :=
  signTag s.text s.fitsBetween

/-- A sign as a token. -/
def Sign.sketch (s : Sign) (span : Span) : Sketch :=
  .fixed s.kind s.tag span

/-- The words that stand at fixed places. -/
inductive Word where
  | moduleStart
  | moduleEnd
  | blockStart
  | blockEnd
  | condition
  | alternative
deriving Repr, DecidableEq

/-- The word. -/
@[simp]
def Word.text : Word → String
  | .moduleStart => "module"
  | .moduleEnd => "endmodule"
  | .blockStart => "begin"
  | .blockEnd => "end"
  | .condition => "if"
  | .alternative => "or"

/-- The kind of the tokens that show the word. -/
def Word.kind : Word → String
  | .moduleStart => "ModuleKeyword"
  | .moduleEnd => "EndModuleKeyword"
  | .blockStart => "BeginKeyword"
  | .blockEnd => "EndKeyword"
  | .condition => "IfKeyword"
  | .alternative => "OrKeyword"

/-- No word holds quotes or ends its line. -/
lemma Word.fitsBetween (w : Word) : FitsBetween '"' w.text.toList := by
  cases w <;> decide

/-- The tag of the word. -/
def Word.tag (w : Word) : Tag :=
  wordTag w.text w.fitsBetween

/-- A word as a token. -/
def Word.sketch (w : Word) (span : Span) : Sketch :=
  .fixed w.kind w.tag span

/-! ### Names, numbers and ranges -/

/-- The text of a name, which stays on its line. -/
def Name.lineText (x : Name) : LineText :=
  ⟨x.text, x.isPlain⟩

/-- A name as a token. -/
def Ident.sketch (x : Ident) : Sketch :=
  .token "Identifier" x.name.lineText x.span.start

/-- A name that stands for a value. -/
def Ident.expression (x : Ident) : Sketch :=
  .node (label "IdentifierName") [x.sketch]

/-- The digits of a number, which stay on their line. -/
def digitsText (n : ℕ) : LineText :=
  ⟨Numeral.natText n, isPlain_natText n⟩

/-- A number. -/
def Natural.sketch (n : Natural) : Sketch :=
  .token "IntegerLiteral" (digitsText n.value) n.span.start

/-- The dimension that consists of a range. -/
def Range.sketch (r : Range) : Sketch :=
  .node (label "VariableDimension") [
    Sign.openBracket.sketch (r.marks 0),
    .node (label "RangeDimensionSpecifier") [
      .node (label "SimpleRangeSelect") [
        r.msb.sketch,
        Sign.colon.sketch (r.marks 2),
        r.lsb.sketch]],
    Sign.closeBracket.sketch (r.marks 4)]

/-- The dimensions of a type. -/
def dimensions (range : Option Range) : List Sketch :=
  (range.map Range.sketch).toList

/-- A comma. -/
def commaSketch (spans : ℕ → Span) (index : ℕ) : Sketch :=
  Sign.comma.sketch (spans index)

/-! ### Declarations -/

/-- The kind of the word for a storage. -/
def Storage.keyword : Storage → String
  | .reg => "RegKeyword"
  | .logic => "LogicKeyword"

/-- A type that names a storage. -/
def Storage.sketch (s : Storage) (span : Span) (range : Option Range) : Sketch :=
  .node (label "IntegerType") (.fixed s.keyword s.tag span :: dimensions range)

/-- A type that names no storage. -/
def implicitType (range : Option Range) : Sketch :=
  .node (label "ImplicitType") (dimensions range)

/-- The kind of the word for a direction. -/
def Direction.keyword : Direction → String
  | .input => "InputKeyword"
  | .output => "OutputKeyword"
  | .inout => "InOutKeyword"

/-- The direction and the type of a port. -/
def Port.header (p : Port) : Sketch :=
  let direction := Sketch.fixed p.direction.keyword p.direction.tag p.directionSpan
  match p.kind with
  | none => .node (label "VariablePortHeader") [direction, implicitType p.range]
  | some (.wire, span) =>
    .node (label "NetPortHeader") [
      direction,
      .fixed "WireKeyword" Kind.wire.tag span,
      implicitType p.range]
  | some (.storage s, span) =>
    .node (label "VariablePortHeader") [direction, s.sketch span p.range]

/-- A declared name. -/
def declarator (x : Ident) : Sketch :=
  .node (label "Declarator") [x.sketch]

/-- A port. -/
def Port.sketch (p : Port) : Sketch :=
  .node (label "ImplicitAnsiPort") [p.header, declarator p.name]

/-- A data declaration, which has no modifiers. -/
def Data.sketch (d : Data) : Sketch :=
  .node (label "DataDeclaration") [
    .absent,
    d.kind.sketch (d.marks 0) d.range,
    .node (label "SeparatedList") (Sketch.separated (commaSketch d.commas) declarator d.names),
    Sign.semicolon.sketch (d.marks 3)]

/-! ### Event controls -/

/-- The kind of the word for an edge. -/
def Edge.keyword : Edge → String
  | .posedge => "PosEdgeKeyword"
  | .negedge => "NegEdgeKeyword"

/-- A term of an event control. -/
def Event.sketch (e : Event) : Sketch :=
  .node (label "SignalEventExpression")
    ((e.edge.map fun x => .fixed x.1.keyword x.1.tag x.2).toList ++ [e.signal.expression])

/-- The word between two terms. -/
def orSketch (spans : ℕ → Span) (index : ℕ) : Sketch :=
  Word.alternative.sketch (spans index)

/-- A term, and further terms nested to the right. -/
def joined (spans : ℕ → Span) : ℕ → Event → List Event → Sketch
  | _, e, [] => e.sketch
  | i, e, e' :: rest =>
    .node (label "BinaryEventExpression")
      [e.sketch, orSketch spans i, joined spans (i + 2) e' rest]

/-- The terms of an event control, if there are any. -/
def joinedTerms (spans : ℕ → Span) : List Event → List Sketch
  | [] => []
  | e :: rest => [joined spans 1 e rest]

/-- An event control with the given terms. -/
def Block.controlSketch (b : Block) (events : List Event) : Sketch :=
  .node (label "EventControlWithExpression") [
    Sign.at.sketch (b.marks 1),
    .node (label "ParenthesizedEventExpression")
      (Sign.openParenthesis.sketch (b.marks 2) ::
        (joinedTerms b.separators events ++
          [Sign.closeParenthesis.sketch (b.marks 3)]))]

/-! ### Statements -/

/-- The kinds of binary operations and of their signs. -/
def operations : List (String × Label × String) := [
  ("+", label "AddExpression", "Plus"),
  ("-", label "SubtractExpression", "Minus"),
  ("*", label "MultiplyExpression", "Star"),
  ("/", label "DivideExpression", "Slash"),
  ("%", label "ModExpression", "Percent"),
  ("&", label "BinaryAndExpression", "And"),
  ("|", label "BinaryOrExpression", "Or"),
  ("^", label "BinaryXorExpression", "Xor"),
  ("&&", label "LogicalAndExpression", "DoubleAnd"),
  ("||", label "LogicalOrExpression", "DoubleOr"),
  ("==", label "EqualityExpression", "DoubleEquals"),
  ("!=", label "InequalityExpression", "ExclamationEquals"),
  ("<", label "LessThanExpression", "LessThan"),
  (">", label "GreaterThanExpression", "GreaterThan")]

/-- The kinds of a binary operation and of its sign. -/
def operation (sign : Tag) : Label × String :=
  (operations.lookup sign.name).getD (label "BinaryExpression", "Unknown")

/-- A value. -/
def Value.sketch : Value → Sketch
  | .name x => x.expression
  | .number n => n.sketch
  | .binary left sign span right =>
    .node (operation sign).1 [left.sketch, .fixed (operation sign).2 sign span, right.sketch]

/-- The kind of an assignment. -/
def Assignment.kind (a : Assignment) : Label :=
  if a.blocking then Description.label "AssignmentExpression"
  else Description.label "NonblockingAssignmentExpression"

/-- The sign of an assignment. -/
def Assignment.sign (a : Assignment) : Sketch :=
  if a.blocking then Sign.equals.sketch (a.marks 1)
  else Sign.lessThanEquals.sketch (a.marks 1)

/-- The assignment without its condition. -/
def Assignment.statement (a : Assignment) : Sketch :=
  .node (Description.label "ExpressionStatement") [
    .node a.kind [a.target.expression, a.sign, a.value.sketch],
    Sign.semicolon.sketch (a.marks 3)]

/-- An assignment, under its condition if there is one. -/
def Assignment.sketch (a : Assignment) : Sketch :=
  match a.condition with
  | none => a.statement
  | some c =>
    .node (Description.label "ConditionalStatement") [
      Word.condition.sketch (a.marks 4),
      Sign.openParenthesis.sketch (a.marks 5),
      .node (Description.label "ConditionalPredicate") [
        .node (Description.label "ConditionalPattern") [c.sketch]],
      Sign.closeParenthesis.sketch (a.marks 6),
      a.statement]

/-! ### Blocks and modules -/

/-- The kinds of a block and of the word that opens it. -/
def BlockWord.kinds : BlockWord → Label × String
  | .always => (label "AlwaysBlock", "AlwaysKeyword")
  | .alwaysFf => (label "AlwaysFFBlock", "AlwaysFFKeyword")
  | .alwaysComb => (label "AlwaysCombBlock", "AlwaysCombKeyword")
  | .alwaysLatch => (label "AlwaysLatchBlock", "AlwaysLatchKeyword")

/-- The body of a block. -/
def Block.bodySketch (b : Block) : Sketch :=
  match b.assignments with
  | [a] => a.sketch
  | as =>
    .node (label "SequentialBlockStatement")
      (Word.blockStart.sketch (b.marks 4) ::
        (as.map Assignment.sketch ++ [Word.blockEnd.sketch (b.marks 5)]))

/-- The statement of a block, under its event control if there is one. -/
def Block.statement (b : Block) : Sketch :=
  match b.events with
  | none => b.bodySketch
  | some events =>
    .node (label "TimingControlStatement") [b.controlSketch events, b.bodySketch]

/-- A block. -/
def Block.sketch (b : Block) : Sketch :=
  .node b.word.kinds.1 [.fixed b.word.kinds.2 b.word.tag (b.marks 0), b.statement]

/-- A part of the body of a module. -/
def Item.sketch : Item → Sketch
  | .data d => d.sketch
  | .block b => b.sketch

/-- The parts of the header of a module. -/
def Module.headerSketches (m : Module) : List Sketch := [
  Word.moduleStart.sketch m.opening,
  m.name.sketch,
  .node (label "AnsiPortList") [
    Sign.openParenthesis.sketch (m.marks 0),
    .node (label "SeparatedList") (Sketch.separated (commaSketch m.commas) Port.sketch m.ports),
    Sign.closeParenthesis.sketch (m.marks 1)],
  Sign.semicolon.sketch (m.marks 2)]

/-- A module. -/
def Module.sketch (m : Module) : Sketch :=
  .node (label "ModuleDeclaration")
    (.node (label "ModuleHeader") m.headerSketches ::
      (m.items.map Item.sketch ++ [Word.moduleEnd.sketch (m.marks 3)]))

/-- The modules of a source, and the empty token at its end. -/
def unitSketches (modules : List Module) (ending : ℕ) : List Sketch :=
  modules.map Module.sketch ++ [.token "EndOfFile" ⟨"", by decide⟩ ending]

/-- **The syntax tree of a list of modules.** -/
def syntaxTree (modules : List Module) (ending : ℕ) : Slang.Tree :=
  (Sketch.node (label "CompilationUnit") (unitSketches modules ending)).tree

end Description

/-! ### The tokens of both trees -/

/-- The text of a token and the offset of its first byte. -/
def Slang.Token.spelling (t : Slang.Token) : String × ℤ :=
  (t.text, t.offset)

/-- The text of a token and the offset of its first byte. -/
def Leaf.spelling (l : Leaf) : String × ℤ :=
  (l.text, l.start)

namespace Slang.Sketch

/-- The texts and offsets of the tokens of a sketch. -/
def words (s : Sketch) : List (String × ℤ) :=
  (tokens s.tree).map Token.spelling

@[simp] lemma words_absent : words .absent = [] := by
  rw [words, tree, tokens, List.map_nil]

@[simp] lemma words_token (kind : String) (text : Dump.LineText) (offset : ℕ) :
    words (.token kind text offset) = [(text.text, (offset : ℤ))] := by
  rw [words, tree, tokens]
  rfl

@[simp] lemma words_node (kind : Dump.Label) (parts : List Sketch) :
    words (.node kind parts) = parts.flatMap words := by
  have hparts : ∀ ss : List Sketch,
      (tokensAll (trees ss)).map Token.spelling = ss.flatMap words := by
    intro ss
    induction ss with
    | nil => rw [trees, tokensAll, List.map_nil, List.flatMap_nil]
    | cons s ss ih => rw [trees, tokensAll, List.map_append, ih, List.flatMap_cons, words]
  rw [words, tree, tokens, hparts]

end Slang.Sketch

namespace Dump.Listing

/-- The texts and offsets of the tokens of a listing. -/
def words (t : Listing) : List (String × ℤ) :=
  t.tree.leaves.map Leaf.spelling

@[simp] lemma words_leaf (index : ℕ) (tag : Tag) (text : LineText) (span : Span) :
    words (.leaf index tag text span) = [(text.text, (span.start : ℤ))] := by
  rw [words, leaves_tree_leaf]
  rfl

/-- The words of several listings. -/
lemma map_leavesOf (ts : List Listing) :
    (leavesOf ts).map Leaf.spelling = ts.flatMap words := by
  induction ts with
  | nil => rw [leavesOf_nil, List.map_nil, List.flatMap_nil]
  | cons t ts ih => rw [leavesOf_cons, List.map_append, ih, List.flatMap_cons, words]

@[simp] lemma words_node (index : ℕ) (label : Label) (parts : List Listing) :
    words (.node index label parts) = parts.flatMap words := by
  rw [words, leaves_tree_node, map_leavesOf]

end Dump.Listing

namespace Description

section Words

open Dump Slang

/-- Parts between separators have the same words in both trees if the separators and parts do. -/
lemma words_separated {α : Type} {sep : ℕ → Sketch} {item : α → Sketch} {sep' : ℕ → Listing}
    {item' : ℕ → α → Listing} (hsep : ∀ i, (sep i).words = (sep' i).words)
    (hitem : ∀ i a, (item a).words = (item' i a).words) (as : List α) :
    (Sketch.separated sep item as).flatMap Sketch.words =
      (separated sep' item' as).flatMap Listing.words := by
  have hfrom : ∀ i (bs : List α), (Sketch.separatedFrom sep item i bs).flatMap Sketch.words =
      (separatedFrom sep' item' i bs).flatMap Listing.words := by
    intro i bs
    induction bs generalizing i with
    | nil => rfl
    | cons b bs ih =>
      rw [Sketch.separatedFrom, separatedFrom]
      simp only [List.flatMap_cons, hsep, hitem (i + 1), ih]
  cases as with
  | nil => rfl
  | cons a as =>
    rw [Sketch.separated, separated, List.flatMap_cons, List.flatMap_cons, hitem 0, hfrom]

/-- Numbered parts have the same words in both trees if the parts do. -/
lemma words_numbered {α : Type} {item : α → Sketch} {item' : ℕ → α → Listing}
    (hitem : ∀ i a, (item a).words = (item' i a).words) (i : ℕ) (as : List α) :
    (as.map item).flatMap Sketch.words = (numbered item' i as).flatMap Listing.words := by
  induction as generalizing i with
  | nil => rfl
  | cons a as ih => rw [numbered, List.map_cons, List.flatMap_cons, List.flatMap_cons, hitem i, ih]

@[simp] lemma words_fixed (index : ℕ) (tag : Tag) (span : Span) :
    (fixed index tag span).words = [(tag.name, (span.start : ℤ))] :=
  Listing.words_leaf index tag _ span

@[simp] lemma words_fixedSketch (kind : String) (tag : Tag) (span : Span) :
    (Sketch.fixed kind tag span).words = [(tag.name, (span.start : ℤ))] :=
  Sketch.words_token kind _ span.start

@[simp] lemma name_signTag (text : String) (h : FitsBetween '\'' text.toList) :
    (signTag text h).name = text := rfl

@[simp] lemma name_wordTag (text : String) (h : FitsBetween '"' text.toList) :
    (wordTag text h).name = text := rfl

@[simp] lemma words_sign (s : Sign) (span : Span) :
    (s.sketch span).words = [(s.text, (span.start : ℤ))] :=
  words_fixedSketch s.kind s.tag span

@[simp] lemma words_word (w : Word) (span : Span) :
    (w.sketch span).words = [(w.text, (span.start : ℤ))] :=
  words_fixedSketch w.kind w.tag span

@[simp] lemma words_ident (index : ℕ) (x : Ident) :
    (x.listing index).words = [(x.name.text, (x.span.start : ℤ))] :=
  Listing.words_leaf index _ _ x.span

@[simp] lemma words_identSketch (x : Ident) :
    x.sketch.words = [(x.name.text, (x.span.start : ℤ))] :=
  Sketch.words_token _ x.name.lineText x.span.start

@[simp] lemma words_natural (index : ℕ) (n : Natural) :
    (n.listing index).words = [(Numeral.natText n.value, (n.span.start : ℤ))] :=
  Listing.words_leaf index _ _ n.span

@[simp] lemma words_naturalSketch (n : Natural) :
    n.sketch.words = [(Numeral.natText n.value, (n.span.start : ℤ))] :=
  Sketch.words_token _ (digitsText n.value) n.span.start

/-- Commas are the same words in both trees. -/
lemma words_comma (spans : ℕ → Span) (i : ℕ) :
    (commaSketch spans i).words = (comma spans i).words := by
  simp [commaSketch, comma]

lemma words_typeParts (kind : Option (Kind × Span)) (range : Option Range) :
    (typeParts kind range).flatMap Listing.words =
      (kind.map fun k => (k.1.tag.name, (k.2.start : ℤ))).toList ++
        (dimensions range).flatMap Sketch.words := by
  cases kind <;> cases range <;>
    simp [typeParts, dimensions, Range.listing, Range.parts, Range.sketch]

lemma words_port (index : ℕ) (p : Port) : p.sketch.words = (p.listing index).words := by
  have htype : p.dataType.flatMap Listing.words =
      (typeParts p.kind p.range).flatMap Listing.words := by
    rw [Port.dataType]
    cases typeParts p.kind p.range <;> simp
  have hheader : p.header.words = (p.direction.tag.name, (p.directionSpan.start : ℤ)) ::
      (typeParts p.kind p.range).flatMap Listing.words := by
    rw [words_typeParts, Port.header]
    rcases p.kind with _ | ⟨_ | s, span⟩ <;>
      simp [implicitType, Storage.sketch, Kind.tag]
  simp [Port.sketch, hheader, Port.listing, Port.parts, htype, declarator]

lemma words_data (index : ℕ) (d : Data) : d.sketch.words = (d.listing index).words := by
  have hnames : (Sketch.separated (commaSketch d.commas) declarator d.names).flatMap Sketch.words =
      (separated (comma d.commas) variableListing d.names).flatMap Listing.words := by
    refine words_separated (words_comma d.commas) (fun i x => ?_) d.names
    simp [declarator, variableListing]
  simp [Data.sketch, Storage.sketch, hnames, Data.listing, Data.parts, words_typeParts, Kind.tag]

lemma words_event (index : ℕ) (e : Event) : e.sketch.words = (e.listing index).words := by
  cases hedge : e.edge <;>
    simp [Event.sketch, Event.listing, Event.parts, hedge, Ident.expression, Ident.reference]

/-- Nested terms have the words of terms between separators. -/
lemma words_joined (spans : ℕ → Span) (i : ℕ) (e : Event) (events : List Event) :
    (joined spans i e events).words =
      e.sketch.words ++ (separatedFrom (orWord spans) Event.listing i events).flatMap
        Listing.words := by
  induction events generalizing i e with
  | nil => rw [joined, separatedFrom, List.flatMap_nil, List.append_nil]
  | cons e' events ih =>
    rw [joined, separatedFrom]
    simp [ih, orSketch, orWord, words_event (i + 1)]

lemma words_control (b : Block) (events : List Event) :
    (b.controlSketch events).words = (b.control events).words := by
  have hterms : (joinedTerms b.separators events).flatMap Sketch.words =
      (separated (orWord b.separators) Event.listing events).flatMap Listing.words := by
    cases events with
    | nil => rfl
    | cons e events =>
      rw [joinedTerms, separated, List.flatMap_singleton, words_joined, List.flatMap_cons,
        words_event 0]
  simp [Block.controlSketch, Block.control, hterms]

lemma words_value (index : ℕ) (v : Value) : v.sketch.words = (v.listing index).words := by
  induction v generalizing index with
  | name x => simp [Value.sketch, Value.listing, Ident.expression, Ident.reference]
  | number n => rw [Value.sketch, Value.listing, words_naturalSketch, words_natural]
  | binary left sign span right hleft hright =>
    simp [Value.sketch, Value.listing, hleft 0, hright 2]

lemma words_assignment (index : ℕ) (a : Assignment) : a.sketch.words = (a.listing index).words := by
  have hbare : ∀ i, a.statement.words = (a.bare i).words := by
    intro i
    cases hblocking : a.blocking <;>
      simp [Assignment.statement, Assignment.bare, Assignment.parts, Assignment.sign, hblocking,
        Ident.expression, Ident.reference, words_value 2]
  rw [Assignment.sketch, Assignment.listing]
  cases a.condition with
  | none => exact hbare index
  | some c => simp [words_value 1, hbare 0]

lemma words_block (index : ℕ) (b : Block) : b.sketch.words = (b.listing index).words := by
  have hbody : b.bodySketch.words = b.body.words := by
    rw [Block.bodySketch, Block.body]
    rcases b.assignments with _ | ⟨a, _ | ⟨a', as⟩⟩
    · simp [numbered]
    · exact words_assignment 1 a
    · simp [← words_numbered words_assignment 0]
  rw [Block.sketch, Block.statement, Block.listing, Block.parts]
  cases b.events with
  | none => simp [hbody]
  | some events => simp [hbody, words_control]

lemma words_item (index : ℕ) (x : Item) : x.sketch.words = (x.listing index).words := by
  cases x with
  | data d => exact words_data index d
  | block b => exact words_block index b

lemma words_module (index : ℕ) (m : Module) : m.sketch.words = (m.listing index).words := by
  have hports : (Sketch.separated (commaSketch m.commas) Port.sketch m.ports).flatMap Sketch.words =
      (separated (comma m.commas) Port.listing m.ports).flatMap Listing.words :=
    words_separated (words_comma m.commas) words_port m.ports
  simp [Module.sketch, Module.headerSketches, Module.listing, Module.parts, Module.headerParts,
    hports, words_numbered words_item 0]

/-- **The syntax tree has the tokens of the dumped tree** in the same order, with the same texts at
the same offsets, and an empty one behind them. -/
theorem spelling_tokens_syntaxTree (modules : List Module) (ending : ℕ) :
    (tokens (syntaxTree modules ending)).map Token.spelling =
      (Listing.leavesOf (numbered Module.listing 0 modules)).map Leaf.spelling ++
        [("", (ending : ℤ))] := by
  rw [syntaxTree, ← Sketch.words, Listing.map_leavesOf, Sketch.words_node, unitSketches,
    List.flatMap_append, words_numbered words_module 0, List.flatMap_singleton, Sketch.words_token]

end Words

end Description

end FlopCensus
