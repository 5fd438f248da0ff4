import FlopCensus.Shell.Editor.Basic
import FlopCensus.Shell.Program.Basic

set_option autoImplicit false
set_option relaxedAutoImplicit false

/-!
# Written scripts of edits

An instruction is written with its addresses, an exclamation mark for the other lines, and a letter
for the action with what it needs. Instructions stand on lines of their own or between semicolons.

## Main definitions

* `FlopCensus.Shell.Editor.Fault`: what can be wrong, and the wording.
* `FlopCensus.Shell.Editor.read`: a script from its text.
-/

namespace FlopCensus.Shell.Editor

open Text (Regular)

/-- What is wrong with the text of a script. -/
inductive Fault where
  | unknownCommand (c : Char)
  | missingCommand
  | extraCharacters
  | openSubstitution
  | openTranslation
  | openAddress
  | openBlock
  | closedBlock
  | comma
  | manyNegations
  | labelAddress
  | commentAddress
  | oneAddress
  | lineZero
  | distanceFirst
  | unknownOption
  | manyOptions (c : Char)
  | manyNumbers
  | zeroNumber
  | missingFile
  | noFiles
  | missingText
  | noLabel
  | lengths
  | noGroup (n : Nat)
  | pattern (f : Regular.Fault)
deriving DecidableEq

/-- The wording of a fault. -/
def Fault.message : Fault → String
  | .unknownCommand c => "unknown command: `" ++ c.toString ++ "'"
  | .missingCommand => "missing command"
  | .extraCharacters => "extra characters after command"
  | .openSubstitution => "unterminated `s' command"
  | .openTranslation => "unterminated `y' command"
  | .openAddress => "unterminated address regex"
  | .openBlock => "unmatched `\x7b'"
  | .closedBlock => "unexpected `\x7d'"
  | .comma => "unexpected `,'"
  | .manyNegations => "multiple `!'s"
  | .labelAddress => ": doesn't want any addresses"
  | .commentAddress => "comments don't accept any addresses"
  | .oneAddress => "command only uses one address"
  | .lineZero => "invalid usage of line address 0"
  | .distanceFirst => "invalid usage of +N or ~N as first address"
  | .unknownOption => "unknown option to `s'"
  | .manyOptions c => "multiple `" ++ c.toString ++ "' options to `s' command"
  | .manyNumbers => "multiple number options to `s' command"
  | .zeroNumber => "number option to `s' command may not be zero"
  | .missingFile => "missing filename in r/R/w/W commands"
  | .noFiles => "e/r/w commands disabled in sandbox mode"
  | .missingText => "expected \\ after `a', `c' or `i'"
  | .noLabel => "\":\" lacks a label"
  | .lengths => "strings for `y' command are different lengths"
  | .noGroup n => "invalid reference \\" ++ Numeral.natText n ++ " on `s' command's RHS"
  | .pattern f => f.message

/-- The way in which a script is written. -/
structure Dialect where
  /-- Expressions are written with few backslashes. -/
  extended : Bool := false
  /-- The script may not work on files. -/
  confined : Bool := false

/-- How far a script has been read. -/
structure Progress where
  rest : List Char
  /-- What stands behind the beginnings of the blocks that are open. -/
  blocks : List (List Char) := []

/-- A step of reading. What is wrong comes with the text that had not been read. -/
abbrev Reading := StateT Progress (Except (Fault × List Char))

/-- The text that has not been read. -/
def left : Reading (List Char) :=
  return (← get).rest

/-- Goes on behind some text. -/
def goTo (rest : List Char) : Reading Unit :=
  modify fun p => { p with rest }

/-- What is wrong here. -/
def fault {α : Type} (f : Fault) : Reading α := do
  throw (f, ← left)

/-- Passes over characters of a class. -/
def skip (f : Char → Bool) : Reading Unit := do
  goTo ((← left).dropWhile f)

/-- White space that is no line end. -/
def isGap (c : Char) : Bool :=
  c == ' ' || ('\t' ≤ c && c ≤ '\r' && c != '\n')

/-- The next character, which is taken. -/
def next? : Reading (Option Char) := do
  match ← left with
  | [] => return none
  | c :: rest =>
    goTo rest
    return some c

/-- The digits that come next. -/
def digits : Reading (List Char) := do
  let ds := (← left).takeWhile (·.isDigit)
  goTo ((← left).drop ds.length)
  return ds

/-- The number that comes next. -/
def number? : Reading (Option Nat) := do
  return Program.digits? (← digits)

/-! ### Text between delimiters -/

/-- A set in brackets with what follows it, the opening bracket having been read. -/
def bracketText (s : List Char) : Option (List Char × List Char) :=
  let (front, s) := match s with
    | '^' :: ']' :: s => (['^', ']'], s)
    | '^' :: s => (['^'], s)
    | ']' :: s => ([']'], s)
    | s => ([], s)
  (go (s.length + 1) s).map fun (inner, rest) => (front ++ inner, rest)
where
  /-- The members up to the closing bracket. -/
  go : Nat → List Char → Option (List Char × List Char)
    | 0, _ => none
    | n + 1, s =>
      match s with
      | [] | '\n' :: _ => none
      | ']' :: rest => some ([']'], rest)
      | '[' :: mark :: rest =>
        if mark == ':' || mark == '.' || mark == '=' then
          let name := rest.takeWhile (· != mark)
          match rest.drop name.length with
          | _ :: ']' :: rest =>
            (go n rest).map fun (inner, rest) =>
              ('[' :: mark :: name ++ mark :: ']' :: inner, rest)
          | _ => (go n (mark :: rest)).map fun (inner, rest) => ('[' :: inner, rest)
        else (go n (mark :: rest)).map fun (inner, rest) => ('[' :: inner, rest)
      | '\\' :: 'n' :: rest => (go n rest).map fun (inner, rest) => ('\n' :: inner, rest)
      | c :: rest => (go n rest).map fun (inner, rest) => (c :: inner, rest)

/-- The text up to a delimiter, and what follows that. In the text of an expression brackets are
passed as a whole. -/
def delimited (delimiter : Char) (ofPattern : Bool) :
    Nat → List Char → Except (List Char) (List Char × List Char)
  | 0, s => .error s
  | n + 1, s =>
    let more := fun (front rest : List Char) =>
      (delimited delimiter ofPattern n rest).map fun (text, rest) => (front ++ text, rest)
    match s with
    | [] => .error []
    | c :: rest =>
      if c == '\n' then .error s
      else if c == delimiter then .ok ([], rest)
      else if c == '\\' then
        match rest with
        | [] => .error []
        | c :: rest =>
          if c == delimiter then
            more (if !ofPattern && c == '&' then ['\\', c] else [c]) rest
          else if c == 'n' && ofPattern then more ['\n'] rest
          else more ['\\', c] rest
      else if c == '[' && ofPattern then
        match bracketText rest with
        | some (inner, rest) => more ('[' :: inner) rest
        | none => .error []
      else more [c] rest

/-- Reads text up to a delimiter. -/
def readDelimited (delimiter : Char) (ofPattern : Bool) (f : Fault) : Reading (List Char) := do
  let s ← left
  match delimited delimiter ofPattern (s.length + 1) s with
  | .ok (text, rest) =>
    goTo rest
    return text
  | .error rest => throw (f, rest)

/-- The character that an escape stands for, and what follows it. -/
def escaped? (s : List Char) : Option (Char × List Char) :=
  let coded := fun (base most : Nat) (rest : List Char) =>
    let ds := (rest.take most).takeWhile fun c => (Numeral.digitIn base c).isSome
    if ds.isEmpty then none
    else
      let n := Numeral.valueOf base (ds.filterMap (Numeral.digitIn base))
      some (Char.ofNat (n % 256), rest.drop ds.length)
  match s with
  | 'a' :: rest => some ('\x07', rest)
  | 'f' :: rest => some ('\x0c', rest)
  | 'r' :: rest => some ('\r', rest)
  | 't' :: rest => some ('\t', rest)
  | 'v' :: rest => some ('\x0b', rest)
  | 'd' :: rest => coded 10 3 rest
  | 'o' :: rest => coded 8 3 rest
  | 'x' :: rest => coded 16 2 rest
  | 'c' :: c :: rest => some (Char.ofNat (c.toUpper.toNat ^^^ 64), rest)
  | ['c'] => some ('\\', [])
  | _ => none

/-- The text of an expression with escapes for characters carried out. A sign that is written so keeps
its meaning. -/
def unescapePattern : Nat → List Char → List Char
  | 0, s => s
  | n + 1, s =>
    match s with
    | '\\' :: rest =>
      match escaped? rest, rest with
      | some (c, rest), _ => c :: unescapePattern n rest
      | none, c :: rest => '\\' :: c :: unescapePattern n rest
      | none, [] => ['\\']
    | c :: rest => c :: unescapePattern n rest
    | [] => []

/-- The pattern of a text; an empty text stands for the last pattern. -/
def patternOf (extended : Bool) (manner : Text.Manner) (text : List Char) : Reading Pattern := do
  if text.isEmpty then return { manner }
  match Regular.read { extended } (unescapePattern (text.length + 1) text) with
  | .ok (r, _) => return { expression := some r, manner }
  | .error f => fault (.pattern f)

/-- The number of groups in an expression. -/
def groupCount : Regular → Nat
  | .group n a => max n (groupCount a)
  | .seq a b | .alt a b => max (groupCount a) (groupCount b)
  | .times _ _ a => groupCount a
  | _ => 0

/-! ### Addresses -/

/-- The letters behind the pattern of an address. -/
def addressManner : Nat → Text.Manner → Reading Text.Manner
  | 0, m => return m
  | n + 1, m => do
    match ← left with
    | 'I' :: rest =>
      goTo rest
      addressManner n { m with foldCase := true }
    | 'M' :: rest =>
      goTo rest
      addressManner n { m with byLine := true }
    | _ => return m

/-- A pattern between delimiters. -/
def addressPattern (extended : Bool) (delimiter : Char) : Reading Pattern := do
  let text ← readDelimited delimiter true .openAddress
  let manner ← addressManner (← left).length {}
  patternOf extended manner text

/-- The address that comes next. -/
def address? (extended : Bool) : Reading (Option Address) := do
  match ← left with
  | '/' :: rest =>
    goTo rest
    return some (.pattern (← addressPattern extended '/'))
  | '\\' :: c :: rest =>
    goTo rest
    return some (.pattern (← addressPattern extended c))
  | ['\\'] =>
    goTo []
    fault .openAddress
  | '$' :: rest =>
    goTo rest
    return some .last
  | c :: rest =>
    if c.isDigit then
      let n := (← number?).getD 0
      match ← left with
      | '~' :: more =>
        goTo more
        return some (.step n ((← number?).getD 0))
      | _ => return some (if n == 0 then .start else .line n)
    else if c == '+' || c == '~' then
      goTo rest
      let _ ← digits
      fault .distanceFirst
    else return none
  | [] => return none

/-- The limit behind a comma. -/
def limit? (extended : Bool) : Reading (Option Limit) := do
  match ← left with
  | '+' :: rest =>
    goTo rest
    return some (.further ((← number?).getD 0))
  | '~' :: rest =>
    goTo rest
    return some (.multiple ((← number?).getD 0))
  | _ =>
    match ← address? extended with
    | some (.line n) => return some (.line n)
    | some .start => return some (.line 0)
    | some (.step n _) => return some (.line n)
    | some .last => return some .last
    | some (.pattern p) => return some (.pattern p)
    | none => return none

/-- The selector of an instruction. -/
def selector (extended : Bool) : Reading Selector := do
  let first ← address? extended
  let isPattern := fun (l : Option Limit) =>
    match l with
    | some (.pattern _) => true
    | _ => false
  let isStart := match first with
    | some .start => true
    | _ => false
  let limit ←
    if first.isNone then pure none
    else do
      skip isGap
      match ← left with
      | ',' :: rest =>
        goTo rest
        skip isGap
        match ← limit? extended with
        | some l => pure (some l)
        | none =>
          let _ ← next?
          fault .comma
      | _ => pure none
  if isStart && !isPattern limit then
    let _ ← next?
    fault .lineZero
  skip isGap
  match ← left with
  | '!' :: rest =>
    goTo rest
    skip isGap
    if (← left).head? == some '!' then
      let _ ← next?
      fault .manyNegations
    return { first, limit, negated := true }
  | _ => return { first, limit }

/-! ### Actions -/

/-- Passes over the end of an instruction. -/
def endOfCommand : Reading Unit := do
  skip isGap
  match ← left with
  | [] => return
  | c :: rest =>
    if c == '\n' || c == ';' then goTo rest
    else if c == '#' || c == '\x7d' then return
    else
      goTo rest
      fault .extraCharacters

/-- The text of an instruction up to a line end without a backslash. -/
def textLines : Nat → List Char → List Char × List Char
  | 0, s => ([], s)
  | n + 1, s =>
    match s with
    | [] => ([], [])
    | '\n' :: rest => ([], rest)
    | '\\' :: rest =>
      match escaped? rest, rest with
      | some (c, rest), _ =>
        let (more, rest) := textLines n rest
        (c :: more, rest)
      | none, 'n' :: rest =>
        let (more, rest) := textLines n rest
        ('\n' :: more, rest)
      | none, c :: rest =>
        let (more, rest) := textLines n rest
        (c :: more, rest)
      | none, [] => ([], [])
    | c :: rest =>
      let (more, rest) := textLines n rest
      (c :: more, rest)

/-- The text that is written in front of, behind or in place of a line. -/
def readText : Reading (List Char) := do
  skip isGap
  match ← left with
  | [] => fault .missingText
  | '\\' :: rest =>
    let behind := rest.dropWhile isGap
    match behind with
    | '\n' :: rest => goTo rest
    | [] => goTo []
    | _ => goTo rest
    let s ← left
    if s.isEmpty then return []
    let (text, rest) := textLines (s.length + 1) s
    goTo rest
    return text ++ ['\n']
  | s =>
    let (text, rest) := textLines (s.length + 1) s
    goTo rest
    return text ++ ['\n']

/-- The file name of an instruction. -/
def readPath (d : Dialect) : Reading (List Char) := do
  if d.confined then fault .noFiles
  skip isGap
  let path := (← left).takeWhile (· != '\n')
  if path.isEmpty then fault .missingFile
  goTo ((← left).drop (path.length + 1))
  return path

/-- A label. -/
def readLabel : Reading String := do
  skip isGap
  let name := (← left).takeWhile fun c => !([';', '\x7d', '#', '\n'].contains c) && !isGap c
  goTo ((← left).drop name.length)
  return String.ofList name

/-- The parts of a replacement. -/
def pieces : Nat → List Char → List Piece
  | 0, _ => []
  | n + 1, s =>
    match s with
    | [] => []
    | '&' :: rest => .group 0 :: pieces n rest
    | '\\' :: rest =>
      match escaped? rest, rest with
      | some (c, rest), _ => .text [c] :: pieces n rest
      | none, 'n' :: rest => .text ['\n'] :: pieces n rest
      | none, 'U' :: rest => .case .upper :: pieces n rest
      | none, 'L' :: rest => .case .lower :: pieces n rest
      | none, 'E' :: rest => .case .none :: pieces n rest
      | none, 'u' :: rest => .case .upperNext :: pieces n rest
      | none, 'l' :: rest => .case .lowerNext :: pieces n rest
      | none, c :: rest =>
        (if c.isDigit then .group (c.toNat - 48) else .text [c]) :: pieces n rest
      | none, [] => [.text ['\\']]
    | c :: rest => .text [c] :: pieces n rest

/-- The options of a replacement. -/
structure Flags where
  all : Bool := false
  nth : Option Nat := none
  prints : Bool := false
  evaluates : Bool := false
  manner : Text.Manner := {}
  target : Option (List Char) := none

/-- Reads the options of a replacement. -/
def readFlags (d : Dialect) : Nat → Flags → Reading Flags
  | 0, f => return f
  | n + 1, f => do
    match ← left with
    | [] => return f
    | c :: rest =>
      let again := fun (f : Flags) => do
        goTo rest
        readFlags d n f
      match c with
      | '#' | '\x7d' => return f
      | '\n' | ';' =>
        goTo rest
        return f
      | 'i' | 'I' => again { f with manner := { f.manner with foldCase := true } }
      | 'm' | 'M' => again { f with manner := { f.manner with byLine := true } }
      | 'e' =>
        if d.confined then
          goTo rest
          fault .noFiles
        again { f with evaluates := true }
      | 'p' =>
        if f.prints then
          goTo rest
          fault (.manyOptions 'p')
        again { f with prints := true }
      | 'g' =>
        if f.all then
          goTo rest
          fault (.manyOptions 'g')
        again { f with all := true }
      | 'w' =>
        goTo rest
        return { f with target := some (← readPath d) }
      | c =>
        if c.isDigit then
          let k := (← number?).getD 0
          if f.nth.isSome then fault .manyNumbers
          if k == 0 then fault .zeroNumber
          readFlags d n { f with nth := some k }
        else if isGap c then again f
        else
          goTo rest
          fault .unknownOption

/-- The greatest group that a replacement asks for. -/
def greatestGroup (ps : List Piece) : Nat :=
  ps.foldl (fun n p =>
    match p with
    | .group k => max n k
    | _ => n) 0

/-- A replacement. -/
def readSubstitution (d : Dialect) : Reading Action := do
  match ← next? with
  | none => fault .openSubstitution
  | some delimiter =>
    let text ← readDelimited delimiter true .openSubstitution
    let replacement ← readDelimited delimiter false .openSubstitution
    let flags ← readFlags d ((← left).length + 1) {}
    let pattern ← patternOf d.extended flags.manner text
    let ps := pieces (replacement.length + 1) replacement
    if let some r := pattern.expression then
      if groupCount r < greatestGroup ps then fault (.noGroup (greatestGroup ps))
    return .substitute
      { pattern, replacement := ps, all := flags.all, nth := flags.nth.getD 1,
        prints := flags.prints, target := flags.target }

/-- The characters of a list for a translation. -/
def listed : Nat → List Char → List Char
  | 0, _ => []
  | n + 1, s =>
    match s with
    | '\\' :: 'n' :: rest => '\n' :: listed n rest
    | '\\' :: rest =>
      match escaped? rest, rest with
      | some (c, rest), _ => c :: listed n rest
      | none, c :: rest => c :: listed n rest
      | none, [] => ['\\']
    | c :: rest => c :: listed n rest
    | [] => []

/-- A translation of characters. -/
def readTranslation : Reading Action := do
  match ← next? with
  | none => fault .openTranslation
  | some delimiter =>
    let source ← readDelimited delimiter false .openTranslation
    let target ← readDelimited delimiter false .openTranslation
    let (a, b) := (listed (source.length + 1) source, listed (target.length + 1) target)
    if a.length != b.length then fault .lengths
    endOfCommand
    return .translate (a.zip b)

/-- A status behind an instruction. -/
def readStatus : Reading Nat := do
  skip isGap
  let n := (← number?).getD 0
  endOfCommand
  return n

/-- The action of an instruction. -/
def action (d : Dialect) (s : Selector) : Reading Action := do
  let plain := fun (a : Action) => do
    endOfCommand
    return a
  let single := fun (a : Reading Action) => do
    if s.limit.isSome then fault .oneAddress
    a
  match ← next? with
  | none => fault .missingCommand
  | some c =>
    match c with
    | '\x7b' =>
      modify fun p => { p with blocks := p.rest :: p.blocks }
      return .block
    | '\x7d' =>
      if (← get).blocks.isEmpty then fault .closedBlock
      modify fun p => { p with blocks := p.blocks.drop 1 }
      plain .close
    | '#' =>
      if s.first.isSome then fault .commentAddress
      goTo (((← left).dropWhile (· != '\n')).drop 1)
      return .nothing
    | ':' =>
      if s.first.isSome then fault .labelAddress
      let name ← readLabel
      if name == "" then fault .noLabel
      return .label name
    | 's' => readSubstitution d
    | 'y' => readTranslation
    | 'a' => return .append (← readText)
    | 'i' => return .insert (← readText)
    | 'c' => return .change (← readText)
    | 'b' => return .jump .always (← readLabel)
    | 't' => return .jump .afterReplacement (← readLabel)
    | 'T' => return .jump .withoutReplacement (← readLabel)
    | 'r' => return .read (← readPath d)
    | 'R' => return .readLine (← readPath d)
    | 'w' => return .write (← readPath d)
    | 'W' => return .writeFirst (← readPath d)
    | 'q' => single (return .quit (← readStatus))
    | 'Q' => single (return .quitSilently (← readStatus))
    | 'l' =>
      skip isGap
      let width ← number?
      plain (.spell width)
    | 'p' => plain .print
    | 'P' => plain .printFirst
    | 'd' => plain .delete
    | 'D' => plain .deleteFirst
    | 'n' => plain .next
    | 'N' => plain .nextMore
    | 'h' => plain .hold
    | 'H' => plain .holdMore
    | 'g' => plain .get
    | 'G' => plain .getMore
    | 'x' => plain .exchange
    | '=' => plain .number
    | 'z' => plain .clear
    | 'F' => plain .fileName
    | 'e' | 'v' =>
      if c == 'e' && d.confined then fault .noFiles
      skip fun c => c != '\n' && c != ';'
      plain .nothing
    | c => fault (.unknownCommand c)

/-- The instructions of a script. -/
def instructions (d : Dialect) : Nat → Array Instruction → Reading Script
  | 0, done => return done
  | n + 1, done => do
    skip fun c => isGap c || c == ';' || c == '\n'
    if (← left).isEmpty then
      if let rest :: _ := (← get).blocks then throw (.openBlock, rest)
      return done
    let s ← selector d.extended
    skip isGap
    let a ← action d s
    instructions d n (done.push { selector := s, action := a })

/-- A script from its text, or what is wrong with the text that is left. -/
def read (d : Dialect) (s : List Char) : Except (Fault × List Char) Script := do
  let (script, _) ← (instructions d (s.length + 1) #[]).run { rest := s }
  return script

end FlopCensus.Shell.Editor
