import FlopCensus.Yaml.ScalarText

set_option autoImplicit false
set_option relaxedAutoImplicit false

/-!
# Tokens of YAML

The layout of a text tells where its collections start and end. A token stream says so in words:
indented collections open and close like bracketed ones, and every key is marked. Whether a scalar
is a key is only seen at the colon behind it, so the places where a key may have started are kept
until then, one for each level of brackets.

Tokens are read when they are asked for, and no further than it takes to be sure of the next one, so
that of several faults in a text the first one on the way counts.

## Main definitions

* `FlopCensus.Yaml.Token`: a token.
* `FlopCensus.Yaml.Layout`: the tokens of the text read so far, with what its layout says.
* `FlopCensus.Yaml.Layout.start`: the layout at the start of a text.
* `FlopCensus.Yaml.Layout.settle`: reading up to the next token.
-/

namespace FlopCensus.Yaml

/-- A token. -/
inductive Token where
  | directive (d : Directive)
  | documentStart
  | documentEnd
  /-- An indented sequence starts. -/
  | blockSequence
  /-- An indented mapping starts. -/
  | blockMapping
  /-- An indented collection ends. -/
  | blockEnd
  | openSequence
  | closeSequence
  | openMapping
  | closeMapping
  | comma
  /-- An item of a sequence follows. -/
  | item
  /-- A key follows. -/
  | key
  /-- The value of a key follows. -/
  | value
  | alias (name : String)
  | anchor (name : String)
  | tag (t : TagText)
  | scalar (text : String) (plain : Bool)
deriving Repr, DecidableEq

/-- A place where a key may have started. -/
structure PossibleKey where
  /-- The level of brackets around the place. -/
  level : Nat
  /-- The number of tokens before the place. -/
  position : Nat
  /-- The layout asks for a key at the place. -/
  required : Bool
  /-- The place itself. -/
  place : Cursor

/-- The tokens of the text read so far, with what its layout says. -/
structure Layout where
  /-- The text that is left. -/
  cursor : Cursor
  /-- What is wrong with the file behind the text. -/
  fault : Option SyntaxError := none
  /-- The tokens so far. -/
  tokens : Array Token := #[]
  /-- The number of tokens that are dealt with. -/
  taken : Nat := 0
  /-- The end of the text is reached. -/
  ended : Bool := false
  /-- No more tokens are read than this. -/
  steps : Nat
  /-- The column of the innermost indented collection, or one less than none. -/
  indent : Int := -1
  /-- The columns of the indented collections around it, innermost first. -/
  outer : List Int := []
  /-- The number of open brackets. -/
  level : Nat := 0
  /-- A key may start here. -/
  allowsKey : Bool := true
  /-- The places where a key may have started. -/
  keys : List PossibleKey := []

/-- The greatest number of characters in a key that is not marked. -/
def keyLimit : Nat := 1024

namespace Layout

/-- Goes on only if the layout allows it. -/
def require (condition : Bool) : Scan Unit :=
  if condition then return () else throw .malformed

/-- The text is inside brackets. -/
def inFlow (l : Layout) : Bool :=
  l.level > 0

/-- One more token. -/
def push (l : Layout) (t : Token) : Layout :=
  { l with tokens := l.tokens.push t }

/-- One more token, which takes some characters. -/
def take (l : Layout) (t : Token) (width : Nat) : Layout :=
  { l.push t with cursor := l.cursor.skip width }

/-- Blanks, comments and line ends up to the next token. -/
def skipToToken (l : Layout) : Nat → Layout
  | 0 => l
  | n + 1 =>
    let c := l.cursor.skipBlanks.skipComment
    match c.lineBreak? with
    | none => { l with cursor := c }
    | some (_, c) =>
      skipToToken { l with cursor := c, allowsKey := l.allowsKey || !l.inFlow } n

/-- Gives up the places where a key can no longer have started: a key stands on one line and is not
too long. -/
def dropStaleKeys (l : Layout) : Scan Layout := do
  let isStale := fun (k : PossibleKey) =>
    k.place.line != l.cursor.line || l.cursor.index - k.place.index > keyLimit
  require (!l.keys.any fun k => isStale k && k.required)
  return { l with keys := l.keys.filter fun k => !isStale k }

/-- Closes the indented collections that reach further to the right than a column. -/
def closeTo (column : Int) : Nat → Layout → Layout
  | 0, l => l
  | n + 1, l =>
    if l.inFlow || l.indent ≤ column then l
    else closeTo column n { l.push .blockEnd with
      indent := l.outer.headD (-1), outer := l.outer.drop 1 }

/-- Closes the indented collections that reach further to the right than a column. -/
def dedent (l : Layout) (column : Int) : Layout :=
  l.closeTo column l.outer.length

/-- The place of the current level where a key may have started. -/
def key? (l : Layout) : Option PossibleKey :=
  l.keys.find? (·.level == l.level)

/-- The layout without the place of the current level where a key may have started. -/
def forgetKey (l : Layout) : Layout :=
  { l with keys := l.keys.filter (·.level != l.level) }

/-- Gives up the place of the current level where a key may have started. -/
def dropKey (l : Layout) : Scan Layout := do
  require (!l.key?.any (·.required))
  return l.forgetKey

/-- Keeps this place as one where a key may start. -/
def offerKey (l : Layout) : Scan Layout := do
  if l.allowsKey then
    let required := !l.inFlow && l.indent == (l.cursor.column : Int)
    let l ← l.dropKey
    return { l with keys := ⟨l.level, l.tokens.size, required, l.cursor⟩ :: l.keys }
  else return l

/-- The layout with a new indented collection, if the column is further to the right than the
innermost one. -/
def indentTo (l : Layout) (column : Nat) : Option Layout :=
  if l.indent < (column : Int) then some { l with indent := column, outer := l.indent :: l.outer }
  else none

/-- Opens an indented collection here, if one starts here. -/
def openBlock (l : Layout) (start : Token) : Scan Layout := do
  if l.inFlow then return l
  require l.allowsKey
  match l.indentTo l.cursor.column with
  | some l => return l.push start
  | none => return l

/-- Ends the indented collections in front of a directive or a mark of a document. -/
def closeDocument (l : Layout) : Scan Layout := do
  let l ← (l.dedent (-1)).dropKey
  return { l with allowsKey := false }

/-- A mark of a document. -/
def documentMark (l : Layout) (t : Token) : Scan Layout := do
  return (← l.closeDocument).take t 3

/-- An opening bracket. -/
def openBracket (l : Layout) (t : Token) : Scan Layout := do
  let l ← l.offerKey
  return { l.take t 1 with level := l.level + 1, allowsKey := true }

/-- A closing bracket. -/
def closeBracket (l : Layout) (t : Token) : Scan Layout := do
  let l ← l.dropKey
  require l.inFlow
  return { l.take t 1 with level := l.level - 1, allowsKey := false }

/-- A comma between brackets. -/
def flowEntry (l : Layout) : Scan Layout := do
  return (← { l with allowsKey := true }.dropKey).take .comma 1

/-- The mark of an item. -/
def blockItem (l : Layout) : Scan Layout := do
  let l ← l.openBlock .blockSequence
  return (← { l with allowsKey := true }.dropKey).take .item 1

/-- The mark of a key. -/
def markedKey (l : Layout) : Scan Layout := do
  let l ← l.openBlock .blockMapping
  return (← { l with allowsKey := !l.inFlow }.dropKey).take .key 1

/-- The mark of a value. If a key may have started before it, one has. -/
def valueMark (l : Layout) : Scan Layout := do
  match l.key? with
  | some k =>
    let l := l.forgetKey
    let l := { l with tokens := l.tokens.insertIdxIfInBounds k.position .key, allowsKey := false }
    let opened := if l.inFlow then none else l.indentTo k.place.column
    match opened with
    | some l =>
      let l := { l with tokens := l.tokens.insertIdxIfInBounds k.position .blockMapping }
      return l.take .value 1
    | none => return l.take .value 1
  | none =>
    let l ← l.openBlock .blockMapping
    return (← { l with allowsKey := !l.inFlow }.dropKey).take .value 1

/-- A token that a key may start with. -/
def keyStart {α : Type} (l : Layout) (read : Cursor → Scan (α × Cursor)) (token : α → Token) :
    Scan Layout := do
  let l ← l.offerKey
  let (a, c) ← read l.cursor
  return { l.push (token a) with cursor := c, allowsKey := false }

/-- A plain scalar. -/
def plain (l : Layout) : Scan Layout := do
  let l ← l.offerKey
  let (p, c) := readPlain l.inFlow (l.indent + 1).toNat l.cursor
  return { l.push (.scalar (String.ofList p.text) true) with cursor := c, allowsKey := p.crossed }

/-- A scalar as a block. -/
def block (l : Layout) (folded : Bool) : Scan Layout := do
  let l ← { l with allowsKey := true }.dropKey
  let (text, c) ← readBlock folded (l.indent + 1).toNat l.cursor
  return { l.push (.scalar text false) with cursor := c }

/-- A directive. -/
def directive (l : Layout) : Scan Layout := do
  let l ← l.closeDocument
  let (d, c) ← readDirective l.cursor
  return { l.push (.directive d) with cursor := c }

/-- The characters that have a meaning of their own at the start of a token. -/
def indicators : List Char :=
  "-?:,[]\x7b\x7d#&*!|>'\"%@`".toList

/-- A plain scalar starts here. -/
def seesPlain (l : Layout) : Bool :=
  match l.cursor.next with
  | none => false
  | some ch =>
    (!isGap (some ch) && !indicators.contains ch) ||
      (!isGap l.cursor.second && (ch == '-' || (!l.inFlow && (ch == '?' || ch == ':'))))

/-- The token that starts with a character. -/
def token (l : Layout) (ch : Char) : Scan Layout :=
  let c := l.cursor
  let atStart := c.column == 0
  let gapAfter := isGap c.second
  if ch == '%' && atStart then l.directive
  else if atStart && c.seesMark "---" then l.documentMark .documentStart
  else if atStart && c.seesMark "..." then l.documentMark .documentEnd
  else if ch == '[' then l.openBracket .openSequence
  else if ch == '\x7b' then l.openBracket .openMapping
  else if ch == ']' then l.closeBracket .closeSequence
  else if ch == '\x7d' then l.closeBracket .closeMapping
  else if ch == ',' then l.flowEntry
  else if ch == '-' && gapAfter then l.blockItem
  else if ch == '?' && (l.inFlow || gapAfter) then l.markedKey
  else if ch == ':' && (l.inFlow || gapAfter) then l.valueMark
  else if ch == '*' then l.keyStart readName .alias
  else if ch == '&' then l.keyStart readName .anchor
  else if ch == '!' then l.keyStart readTag .tag
  else if ch == '|' && !l.inFlow then l.block false
  else if ch == '>' && !l.inFlow then l.block true
  else if ch == '\'' then l.keyStart (readQuoted false) fun text => .scalar text false
  else if ch == '"' then l.keyStart (readQuoted true) fun text => .scalar text false
  else if l.seesPlain then l.plain
  else throw .malformed

/-- Behind the last character that can be read the fault of the file counts. -/
def meetFault (l : Layout) : Scan Layout :=
  match l.fault with
  | some e => if l.cursor.rest.isEmpty then throw e else return l
  | none => return l

/-- The layout with the tokens of one more step. -/
def read (l : Layout) : Scan Layout := do
  let l ← (l.skipToToken (l.cursor.bound + 1)).meetFault
  let l ← l.dropStaleKeys
  let l := l.dedent l.cursor.column
  match l.cursor.next with
  | none => return { ← l.closeDocument with ended := true, keys := [] }
  | some ch =>
    match l.token ch with
    | .error .cutOff => throw (l.fault.getD .malformed)
    | .error e => throw e
    | .ok l => l.meetFault

/-- There is a next token, and what follows cannot change it. -/
def isSettled (l : Layout) : Bool :=
  l.taken < l.tokens.size && !l.keys.any (·.position == l.taken)

/-- Reads on until the next token is certain. -/
def settleIn : Nat → Layout → Scan Layout
  | 0, _ => throw .malformed
  | n + 1, l => do
    if l.ended then return l
    let l ← if l.taken < l.tokens.size then l.dropStaleKeys else pure l
    if l.isSettled then return { l with steps := n + 1 }
    else settleIn n (← l.read)

/-- Reads on until the next token is certain. -/
def settle (l : Layout) : Scan Layout :=
  settleIn l.steps l

/-- The next token; there is none at the end of the text. -/
def next? (l : Layout) : Option Token :=
  l.tokens[l.taken]?

/-- The layout behind the next token. -/
def drop (l : Layout) : Layout :=
  { l with taken := l.taken + 1 }

/-- The layout at the start of a text. A byte order mark may stand in front. -/
def start (text : List Char) (fault : Option SyntaxError) : Layout :=
  let start := Cursor.start text
  { cursor := if start.sees '\ufeff' then start.advance else start
    fault
    steps := text.length + 2 }

end Layout

end FlopCensus.Yaml
