import FlopCensus.Text.Portions
import FlopCensus.Yaml.Tag
import FlopCensus.Yaml.Token

set_option autoImplicit false
set_option relaxedAutoImplicit false

/-!
# Node graphs of YAML

A document is a graph of nodes: an alias makes a node the child of a further one, even of one of its
own children. The nodes are numbered in the order in which they start.

## Main definitions

* `FlopCensus.Yaml.Node`, `FlopCensus.Yaml.Graph`: a node and a graph.
* `FlopCensus.Yaml.Composition`: a graph under construction.
* `FlopCensus.Yaml.Source`: a text with the fault of its file.
* `FlopCensus.Yaml.compose`: the graph of a text.
-/

namespace FlopCensus.Yaml

/-- What a node consists of. -/
inductive Content where
  | scalar (text : String)
  | sequence (items : List Nat)
  | mapping (entries : List (Nat × Nat))
deriving Repr, DecidableEq, Inhabited

/-- A node. -/
structure Node where
  /-- The type. -/
  tag : Tag
  /-- The parts. -/
  content : Content
deriving Repr, DecidableEq

/-- The nodes of a document by number. -/
abbrev Graph := Array Node

/-- What stands in front of a node. -/
structure Properties where
  anchor : Option String := none
  /-- The full name of the type; `!` stands for the usual type. -/
  tag : Option String := none

/-- A graph under construction. -/
structure Composition where
  /-- The nodes so far. -/
  graph : Graph := #[]
  /-- The nodes with anchors. -/
  anchors : List (String × Nat) := []
  /-- The meanings of handles. -/
  handles : List (String × String) := []

/-- A step of composing a graph. -/
abbrev Compose := StateT Composition (StateT Layout Scan)

/-- The greatest number of collections around a node. This is where the stack of the reader ends;
elsewhere in this library nothing is said about the depth of a stack. -/
def depthLimit : Nat := 489

namespace Compose

/-- The next token, should there be one. -/
def peek : Compose (Option Token) := fun s l => do
  let l ← l.settle
  return ((l.next?, s), l)

/-- The next token is one of a list. -/
def sees (ts : List Token) : Compose Bool := do
  return (← peek).any ts.contains

/-- Passes the next token. -/
def drop : Compose Unit := fun s l =>
  return (((), s), l.drop)

/-- Passes a token if it is the next one. -/
def skip (t : Token) : Compose Bool := do
  if ← sees [t] then
    drop
    return true
  else return false

/-- Passes a token that must be the next one. -/
def expect (t : Token) : Compose Unit := do
  if !(← skip t) then throw .malformed

/-- Adds a node. -/
def add (n : Node) : Compose Nat := do
  let s ← get
  set { s with graph := s.graph.push n }
  return s.graph.size

/-- A scalar without text and tag. -/
def empty : Compose Nat :=
  add ⟨Tag.ofText "", .scalar ""⟩

/-- Sets the parts of a node. -/
def fill (i : Nat) (content : Content) : Compose Unit :=
  modify fun s => { s with graph := s.graph.modify i fun n => { n with content } }

/-- Keeps the anchor of a node, which must be a new one. -/
def keepAnchor (p : Properties) (i : Nat) : Compose Unit := do
  match p.anchor with
  | none => return
  | some name =>
    let s ← get
    if s.anchors.any (·.1 == name) then throw .malformed
    set { s with anchors := (name, i) :: s.anchors }

/-- The anchor at this place, should there be one. -/
def anchor? : Compose (Option String) := do
  match ← peek with
  | some (.anchor name) =>
    drop
    return some name
  | _ => return none

/-- The full name of a tag. -/
def fullName (t : TagText) : Compose String := do
  match t.handle with
  | none => return t.suffix
  | some handle =>
    match (← get).handles.lookup handle with
    | some meaning => return meaning ++ t.suffix
    | none => throw .malformed

/-- The tag at this place, should there be one. -/
def tag? : Compose (Option TagText) := do
  match ← peek with
  | some (.tag t) =>
    drop
    return some t
  | _ => return none

/-- The anchor and the tag at this place, in either order. -/
def properties : Compose Properties := do
  let first ← anchor?
  let tag ← tag?
  let anchor ← if first.isNone && tag.isSome then anchor? else pure first
  return { anchor, tag := ← tag.mapM fullName }

/-- The type of a scalar. -/
def scalarTag (tag : Option String) (text : String) (plain : Bool) : Tag :=
  match tag with
  | none => if plain then Tag.ofText text else .str
  | some "!" => Tag.ofText text
  | some name => Tag.ofName name

/-- The type of a collection, given the usual one. -/
def collectionTag (tag : Option String) (usual : Tag) : Tag :=
  match tag with
  | none | some "!" => usual
  | some name => Tag.ofName name

/-- Where a node stands. -/
inductive Place where
  /-- Between brackets. -/
  | flow
  /-- In an indented collection. -/
  | block
  /-- Behind a key of an indented mapping, where a sequence needs no indentation. -/
  | afterKey
deriving DecidableEq

/-- A node that consists of an anchor or a tag alone. -/
def bare (p : Properties) : Compose Nat := do
  if p.anchor.isNone && p.tag.isNone then throw .malformed
  let i ← add ⟨scalarTag p.tag "" true, .scalar ""⟩
  keepAnchor p i
  return i

/-- A scalar. -/
def scalar (p : Properties) (text : String) (plain : Bool) : Compose Nat := do
  let i ← add ⟨scalarTag p.tag text plain, .scalar text⟩
  keepAnchor p i
  return i

/-- A collection, whose parts may refer to it. -/
def collection (p : Properties) (usual : Tag) (parts : Compose Content) : Compose Nat := do
  let i ← add ⟨collectionTag p.tag usual, .sequence []⟩
  keepAnchor p i
  fill i (← parts)
  return i

/-- A node, unless one of some tokens comes next, which leave it out. -/
def orEmpty (ends : List Token) (node : Compose Nat) : Compose Nat := do
  if ← sees ends then empty else node

/-- The rest of the entries behind an entry, if there is a rest. -/
def more {α : Type} (first : Bool) (close : Token) (entry : Compose α) (rest : Compose (List α)) :
    Compose (List α) := do
  if ← skip close then return []
  if !first then expect .comma
  if ← skip close then return []
  let a ← entry
  return a :: (← rest)

mutual

/-- The node at this place, with a number of collections around it. -/
def node (place : Place) (depth : Nat) : Nat → Compose Nat
  | 0 => throw .malformed
  | n + 1 => do
    if depth > depthLimit then throw .tooDeep
    let inside := depth + 1
    if let some (.alias name) ← peek then
      drop
      match (← get).anchors.lookup name with
      | some i => return i
      | none => throw .malformed
    else
      let p ← properties
      let inBlock := place != .flow
      match ← peek with
      | some (.scalar text plain) =>
        drop
        scalar p text plain
      | some .item =>
        if place == .afterKey then collection p .seq (return .sequence (← items false inside n))
        else bare p
      | some .openSequence =>
        drop
        collection p .seq (return .sequence (← flowItems true inside n))
      | some .openMapping =>
        drop
        collection p .map (return .mapping (← flowEntries true inside n))
      | some .blockSequence =>
        if !inBlock then bare p
        else
          drop
          collection p .seq (return .sequence (← items true inside n))
      | some .blockMapping =>
        if !inBlock then bare p
        else
          drop
          collection p .map (return .mapping (← entries inside n))
      | _ => bare p
termination_by structural n => n

/-- The items of an indented sequence, or of one that needs no indentation. -/
def items (indented : Bool) (depth : Nat) : Nat → Compose (List Nat)
  | 0 => throw .malformed
  | n + 1 => do
    if ← skip .item then
      let ends := [Token.item, .blockEnd] ++ if indented then [] else [.key, .value]
      let i ← orEmpty ends (node .block depth n)
      return i :: (← items indented depth n)
    else
      if indented then expect .blockEnd
      return []
termination_by structural n => n

/-- The entries of an indented mapping. -/
def entries (depth : Nat) : Nat → Compose (List (Nat × Nat))
  | 0 => throw .malformed
  | n + 1 => do
    let ends := [Token.key, .value, .blockEnd]
    if ← skip .blockEnd then return []
    expect .key
    let k ← orEmpty ends (node .afterKey depth n)
    let v ← if ← skip .value then orEmpty ends (node .afterKey depth n) else empty
    return (k, v) :: (← entries depth n)
termination_by structural n => n

/-- The items of a sequence between brackets. An item may be a single entry of a mapping. -/
def flowItems (first : Bool) (depth : Nat) : Nat → Compose (List Nat)
  | 0 => throw .malformed
  | n + 1 =>
    more first .closeSequence
      (do
        if ← skip .key then
          collection {} .map
            (return .mapping [← flowEntry [.comma, .closeSequence] (depth + 1) n])
        else node .flow depth n)
      (flowItems false depth n)
termination_by structural n => n

/-- The entries of a mapping between brackets. -/
def flowEntries (first : Bool) (depth : Nat) : Nat → Compose (List (Nat × Nat))
  | 0 => throw .malformed
  | n + 1 =>
    more first .closeMapping
      (do
        if ← skip .key then flowEntry [.comma, .closeMapping] depth n
        else
          let k ← node .flow depth n
          return (k, ← empty))
      (flowEntries false depth n)
termination_by structural n => n

/-- An entry between brackets behind the mark of its key. -/
def flowEntry (ends : List Token) (depth : Nat) : Nat → Compose (Nat × Nat)
  | 0 => throw .malformed
  | n + 1 => do
    let k ← orEmpty (.value :: ends) (node .flow depth n)
    let v ← if ← skip .value then orEmpty ends (node .flow depth n) else empty
    return (k, v)
termination_by structural n => n

end

/-- The directives in front of a document. -/
def directives (version : Bool) : Nat → Compose Unit
  | 0 => return
  | n + 1 => do
    match ← peek with
    | some (.directive d) =>
      drop
      match d with
      | .version major _ =>
        if version || major != 1 then throw .malformed
        directives true n
      | .tag handle meaning =>
        let s ← get
        if s.handles.any (·.1 == handle) then throw .malformed
        set { s with handles := s.handles ++ [(handle, meaning)] }
        directives version n
      | .other => directives version n
    | _ => return

/-- The meanings of the handles that every document knows. -/
def usualHandles : List (String × String) :=
  [("!", "!"), ("!!", Tag.namespaceText)]

/-- Passes the marks at the end of a document. -/
def endMarks : Nat → Compose Unit
  | 0 => return
  | n + 1 => do
    if ← skip .documentEnd then endMarks n

/-- The root of the only document, unless there is none; `size` bounds the number of tokens. The
directives of a further document are still read. -/
def document (size : Nat) : Compose (Option Nat) := do
  match ← peek with
  | none => return none
  | some t =>
    let isMarked := match t with
      | .directive _ | .documentStart => true
      | _ => false
    if isMarked then
      directives false size
      expect .documentStart
    modify fun s => { s with handles := s.handles ++ usualHandles }
    let bareDocument ← match ← peek with
      | none | some (.directive _) | some .documentStart | some .documentEnd => pure isMarked
      | _ => pure false
    let root ← if bareDocument then empty else node .block 0 size
    endMarks size
    if (← peek).isSome then
      directives false size
      throw .malformed
    return some root

end Compose

/-- A text with the fault of its file, which counts where the text ends. -/
structure Source where
  text : List Char
  fault : Option SyntaxError := none

/-- The part of a text in front of the portion with a character. -/
def Source.upTo (text : List Char) (index : Nat) (fault : SyntaxError) : Source :=
  ⟨text.take (Text.portionStart index), some fault⟩

/-- The text in some bytes: it ends in front of the portion with the first fault, which may be one
of the encoding or a character that is not printable. -/
def Source.ofBytes (bytes : List UInt8) : Source :=
  let (text, complete) := Text.decodeBlocks bytes
  let strange := text.findIdx fun c => !isPrintable c
  let isStrange := strange < text.length &&
    (complete || Text.portionStart strange < Text.portionStart text.length)
  if isStrange then .upTo text strange .malformed
  else if complete then ⟨text, none⟩
  else .upTo text text.length .undecodable

/-- The graph of a text with its root, unless the text holds no document. -/
def compose (s : Source) : Scan (Option (Graph × Nat)) := do
  let size := 8 * s.text.length + 16
  let ((root, c), _) ← (Compose.document size).run {} |>.run (.start s.text s.fault)
  return root.map (c.graph, ·)

end FlopCensus.Yaml
