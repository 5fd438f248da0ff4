import FlopCensus.Yaml.Graph
import FlopCensus.Yaml.Scalar

set_option autoImplicit false
set_option relaxedAutoImplicit false

/-!
# YAML documents

The value of a document is a scalar or a collection. Collections may be shared, even with their own
parts, so they lie in a table and a value names its place in it. The collections of a document are
filled breadth first, each after it has been entered into the table; of the values that are no
values of their types the first one in this order counts.

## Main definitions

* `FlopCensus.Yaml.Item`, `FlopCensus.Yaml.Collection`, `FlopCensus.Yaml.Document`: the values.
* `FlopCensus.Yaml.Graph.mergeInto`: carrying out the merge keys of a mapping.
* `FlopCensus.Yaml.read`: the document in a text.
* `FlopCensus.Yaml.Document.quote`: a value as a message shows it.
-/

namespace FlopCensus.Yaml

/-- A value in a document. -/
inductive Item where
  | scalar (s : Scalar)
  /-- The collection at a place of the table. -/
  | shared (place : Nat)
deriving Repr, Inhabited

/-- A collection. -/
inductive Collection where
  | list (items : List Item)
  | pairs (items : List (Item × Item))
  | mapping (entries : List (Scalar × Item))
  | set (members : List Scalar)
deriving Repr, Inhabited

/-- The value of a text. -/
structure Document where
  /-- The value. -/
  root : Item
  /-- The collections in it. -/
  collections : Array Collection := #[]
deriving Repr

/-- Why a text has no value. -/
inductive Error where
  | syntaxError (e : SyntaxError)
  | value (e : ValueError)
deriving Repr, DecidableEq

/-- The wording of an error. -/
def Error.message : Error → String
  | .syntaxError e => e.message
  | .value e => e.message

/-! ### Merge keys -/

namespace Graph

/-- The parts of a node. -/
def content (g : Graph) (i : Nat) : Content :=
  (g[i]?.map (·.content)).getD (.scalar "")

/-- The type of a node. -/
def tag (g : Graph) (i : Nat) : Tag :=
  (g[i]?.map (·.tag)).getD .foreign

/-- The entries of a mapping. -/
def entries (g : Graph) (i : Nat) : List (Nat × Nat) :=
  match g.content i with
  | .mapping es => es
  | _ => []

/-- The node is a mapping. -/
def isMapping (g : Graph) (i : Nat) : Bool :=
  match g.content i with
  | .mapping _ => true
  | _ => false

/-- The graph with the entries of a mapping set. -/
def setEntries (g : Graph) (i : Nat) (es : List (Nat × Nat)) : Graph :=
  g.modify i fun n => { n with content := .mapping es }

/-- The graph with the type of a node set. -/
def setTag (g : Graph) (i : Nat) (tag : Tag) : Graph :=
  g.modify i fun n => { n with tag }

mutual

/-- Carries out the merge keys of mapping `i` from its entry number `at'` on; `merged` holds the
entries that go to the front in the end. -/
def mergeFrom (i at' : Nat) (merged : List (Nat × Nat)) :
    Nat → Graph → Except ValueError Graph
  | 0, _ => throw .malformed
  | n + 1, g => do
    let es := g.entries i
    match es[at']? with
    | none => return if merged.isEmpty then g else g.setEntries i (merged ++ es)
    | some (k, v) =>
      match g.tag k with
      | .merge =>
        let g := g.setEntries i (es.eraseIdx at')
        match g.content v with
        | .mapping _ =>
          let g ← mergeFrom v 0 [] n g
          mergeFrom i at' (merged ++ g.entries v) n g
        | .sequence parts =>
          let (g, found) ← mergeParts parts n g
          mergeFrom i at' (merged ++ found) n g
        | .scalar _ => throw .malformed
      | .value => mergeFrom i (at' + 1) merged n (g.setTag k .str)
      | _ => mergeFrom i (at' + 1) merged n g

/-- The entries of several mappings, those of the last one first. -/
def mergeParts (parts : List Nat) : Nat → Graph → Except ValueError (Graph × List (Nat × Nat))
  | 0, _ => throw .malformed
  | n + 1, g => do
    match parts with
    | [] => return (g, [])
    | v :: parts =>
      if !g.isMapping v then throw .malformed
      let g ← mergeFrom v 0 [] n g
      let found := g.entries v
      let (g, later) ← mergeParts parts n g
      return (g, later ++ found)

end

/-- A bound on the steps that merging takes. -/
def mergeBound (g : Graph) : Nat :=
  let entries := g.foldl (fun count n => count + match n.content with
    | .mapping es => es.length + 1
    | .sequence items => items.length + 1
    | .scalar _ => 1) 0
  (entries + 1) * (entries + 1)

/-- Carries out the merge keys of a mapping: the entries of the mappings merged into it come before
its own, which therefore win. -/
def mergeInto (g : Graph) (i : Nat) : Except ValueError Graph :=
  mergeFrom i 0 [] g.mergeBound g

/-- The text of a node; a mapping has that of its value key, and none if that leads back to it. -/
def text (g : Graph) : Nat → Nat → Except ValueError String
  | 0, _ => throw .endless
  | n + 1, i =>
    match g.content i with
    | .scalar s => return s
    | .sequence _ => throw .malformed
    | .mapping es =>
      match es.find? fun (k, _) => g.tag k == .value with
      | some (_, v) => g.text n v
      | none => throw .malformed

end Graph

/-! ### Values of nodes -/

/-- Values under construction. -/
structure Construction where
  /-- The nodes. -/
  graph : Graph
  /-- The values of the nodes so far. -/
  made : Array (Option Item)
  /-- The collections of the nodes so far. -/
  collections : Array Collection
  /-- The collections that are still to be filled. -/
  waiting : List Nat := []

/-- A step of construction. -/
abbrev Construct := StateT Construction (Except ValueError)

namespace Construct

/-- The collection of a type before it is filled. -/
def unfilled? : Tag → Option Collection
  | .seq => some (.list [])
  | .map => some (.mapping [])
  | .set => some (.set [])
  | .omap | .pairs => some (.pairs [])
  | _ => none

/-- Keeps the value of a node. -/
def keep (i : Nat) (v : Item) : Construct Item := do
  modify fun s => { s with made := s.made.setIfInBounds i (some v) }
  return v

/-- The scalar of a node. -/
def scalar (i : Nat) (tag : Tag) : Construct Scalar := do
  let g := (← get).graph
  match tag with
  | .merge | .value | .foreign => throw .malformed
  | _ =>
    let text ← (g.text (g.size + 1) i : Except ValueError String)
    if tag == .timestamp && g.isMapping i then throw .timestampText
    Scalar.read tag text

/-- The value of a node. A collection is filled later. -/
def value (i : Nat) : Construct Item := do
  let s ← get
  match s.made[i]? with
  | some (some v) => return v
  | _ =>
    match unfilled? (s.graph.tag i) with
    | some c =>
      set { s with
        collections := s.collections.setIfInBounds i c
        waiting := s.waiting ++ [i] }
      keep i (.shared i)
    | none =>
      let v ← scalar i (s.graph.tag i)
      keep i (.scalar v)

/-- The scalar that is a key; a collection is no key. -/
def key (i : Nat) : Construct Scalar := do
  match ← value i with
  | .scalar s => return s
  | .shared _ => throw .malformed

/-- A key of a mapping. What is no number is told apart by where it comes from. -/
structure Key where
  scalar : Scalar
  /-- The node that the key comes from, if it is no number that each node makes anew. -/
  origin : Option Nat

/-- The keys are the same. -/
def Key.same (a b : Key) : Bool :=
  a.scalar.same b.scalar && a.origin == b.origin

/-- The key of a node. -/
def keyOf (i : Nat) (k : Scalar) : Construct Key := do
  let g := (← get).graph
  let isFresh := k.isNaN && match g.text (g.size + 1) i with
    | .ok text => !Scalar.isSharedNaN text
    | .error _ => false
  return ⟨k, if isFresh then some i else none⟩

/-- Entries with one more; the last entry of a key counts, in the place of the first. -/
def putEntry (k : Key) (v : Item) : List (Key × Item) → List (Key × Item)
  | [] => [(k, v)]
  | (k', v') :: rest => if k'.same k then (k', v) :: rest else (k', v') :: putEntry k v rest

/-- The entries of a mapping. -/
def mapping (i : Nat) : Construct (List (Scalar × Item)) := do
  let s ← get
  if !s.graph.isMapping i then throw .malformed
  let g ← (s.graph.mergeInto i : Except ValueError Graph)
  set { s with graph := g }
  let entries ← (g.entries i).foldlM (fun done (k, v) => do
    let scalar ← key k
    let v ← value v
    return putEntry (← keyOf k scalar) v done) []
  return entries.map fun (k, v) => (k.scalar, v)

/-- The items of a sequence. -/
def sequence (i : Nat) : Construct (List Nat) := do
  match (← get).graph.content i with
  | .sequence items => return items
  | _ => throw .malformed

/-- The only entry of a mapping, as two values. -/
def pair (i : Nat) : Construct (Item × Item) := do
  match (← get).graph.content i with
  | .mapping [(k, v)] =>
    let k ← value k
    let v ← value v
    return (k, v)
  | _ => throw .malformed

/-- Fills a collection. -/
def fill (i : Nat) : Construct Unit := do
  let c : Collection ← match (← get).graph.tag i with
    | .seq => do
      let items ← (← sequence i).mapM value
      pure (.list items)
    | .map => do
      let es ← mapping i
      pure (.mapping es)
    | .set => do
      let es ← mapping i
      pure (.set (es.map (·.1)))
    | _ => do
      let items ← (← sequence i).mapM pair
      pure (.pairs items)
  modify fun s => { s with collections := s.collections.setIfInBounds i c }

/-- Fills the collections that wait. -/
def fillAll : Nat → Construct Unit
  | 0 => return
  | n + 1 => do
    let s ← get
    match s.waiting with
    | [] => return
    | i :: rest =>
      set { s with waiting := rest }
      fill i
      fillAll n

end Construct

/-- The document of a graph. -/
def Document.ofGraph (g : Graph) (root : Nat) : Except ValueError Document := do
  let start : Construction := {
    graph := g
    made := Array.replicate g.size none
    collections := Array.replicate g.size (.list []) }
  let make : Construct Item := do
    let v ← Construct.value root
    Construct.fillAll g.size
    return v
  let (root, s) ← make.run start
  return { root, collections := s.collections }

/-- The document in a text; a text without one stands for nothing. -/
def read (s : Source) : Except Error Document := do
  match ← (compose s).mapError .syntaxError with
  | none => return { root := .scalar .null }
  | some (g, root) => (Document.ofGraph g root).mapError .value

namespace Document

/-- The collection of a value. -/
def collection? (d : Document) : Item → Option Collection
  | .scalar _ => none
  | .shared i => d.collections[i]?

/-- The scalar of a value. -/
def scalar? : Item → Option Scalar
  | .scalar s => some s
  | .shared _ => none

/-- The entries of a value that is a mapping. -/
def mapping? (d : Document) (v : Item) : Option (List (Scalar × Item)) :=
  match d.collection? v with
  | some (.mapping es) => some es
  | _ => none

/-- The value counts as nothing. -/
def isVoid (d : Document) : Item → Bool
  | .scalar s => s.isVoid
  | .shared i =>
    match d.collections[i]? with
    | some (.list items) => items.isEmpty
    | some (.pairs items) => items.isEmpty
    | some (.mapping es) => es.isEmpty
    | some (.set ms) => ms.isEmpty
    | none => true

/-- Texts with commas between them. -/
def listed (opening closing : String) (parts : List String) : String :=
  opening ++ ", ".intercalate parts ++ closing

/-- What stands for a collection inside itself. -/
def again : Collection → String
  | .list _ | .pairs _ => "[...]"
  | .mapping _ | .set _ => "\x7b...\x7d"

/-- A value as a message shows it, given the places of the collections around it. -/
def quoteIn (d : Document) : Nat → List Nat → Item → Except Numeral.Error String
  | _, _, .scalar s => s.quote
  | 0, _, .shared _ => return ""
  | n + 1, around, .shared i =>
    match d.collections[i]? with
    | none => return ""
    | some c =>
      if around.contains i then return again c
      else
        let inner := d.quoteIn n (i :: around)
        match c with
        | .list items => do return listed "[" "]" (← items.mapM inner)
        | .pairs items => do
          return listed "[" "]" (← items.mapM fun (a, b) =>
            return listed "(" ")" [← inner a, ← inner b])
        | .mapping es => do
          return listed "\x7b" "\x7d" (← es.mapM fun (k, v) =>
            return (← k.quote) ++ ": " ++ (← inner v))
        | .set [] => return "set()"
        | .set ms => do return listed "\x7b" "\x7d" (← ms.mapM Scalar.quote)

/-- A value as a message shows it. -/
def quote (d : Document) (v : Item) : Except Numeral.Error String :=
  d.quoteIn (d.collections.size + 1) [] v

end Document

end FlopCensus.Yaml
