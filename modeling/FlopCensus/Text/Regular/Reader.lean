import FlopCensus.Text.Regular

set_option autoImplicit false
set_option relaxedAutoImplicit false

/-!
# Written regular expressions

Expressions are written in a basic form, in which most operators have a backslash in front of them,
or in an extended one, in which a backslash takes their meaning away.

## Main definitions

* `FlopCensus.Text.Regular.Dialect`: the forms.
* `FlopCensus.Text.Regular.Fault`: what can be wrong, and the wording.
* `FlopCensus.Text.Regular.read`: an expression from its text.
-/

namespace FlopCensus.Text.Regular

/-- How expressions are written. -/
structure Dialect where
  /-- Operators have no backslash in front of them. -/
  extended : Bool := false
  /-- An operator that has nothing to repeat is passed over, and signs without a partner stand for
  themselves. -/
  lenient : Bool := false

/-- What is wrong with the text of an expression. -/
inductive Fault where
  | openBracket
  | nothingInBracket
  | className
  | misplacedClass
  | symbolName
  | rangeEnd
  | openGroup
  | closedGroup
  | nothingToRepeat
  | openBraces
  | braces
  | tooManyTimes
  | noGroup
  | lastBackslash
deriving Repr, DecidableEq

/-- The wording of a fault. -/
def Fault.message : Fault → String
  | .openBracket => "Unmatched [, [^, [:, [., or [="
  | .nothingInBracket => "Invalid regular expression"
  | .className => "Invalid character class name"
  | .misplacedClass => "character class syntax is [[:space:]], not [:space:]"
  | .symbolName => "Invalid collation character"
  | .rangeEnd => "Invalid range end"
  | .openGroup => "Unmatched ( or \\("
  | .closedGroup => "Unmatched ) or \\)"
  | .nothingToRepeat => "Invalid preceding regular expression"
  | .openBraces => "Unmatched \\\x7b"
  | .braces => "Invalid content of \\\x7b\\\x7d"
  | .tooManyTimes => "Regular expression too big"
  | .noGroup => "Invalid back reference"
  | .lastBackslash => "Trailing backslash"

/-! ### Signs -/

/-- A sign of a written expression. -/
inductive Sign where
  | char (c : Char)
  | set (s : CharSet)
  | bracket
  | opening
  | closing
  | bar
  | star
  | plus
  | question
  | braces
  | caret
  | dollar
  | edge (e : Edge)
  | again (n : Nat)
  | finish
deriving Repr, DecidableEq

/-- The operators that are written with a backslash in the basic form. -/
def switched? (c : Char) : Option Sign :=
  match c with
  | '(' => some .opening
  | ')' => some .closing
  | '|' => some .bar
  | '+' => some .plus
  | '?' => some .question
  | '\x7b' => some .braces
  | _ => none

/-- What letters stand for behind a backslash. -/
def letter? (c : Char) : Option Sign :=
  let space : CharSet := { classes := [.space] }
  match c with
  | 'w' => some (.set .word)
  | 'W' => some (.set { CharSet.word with negated := true })
  | 's' => some (.set space)
  | 'S' => some (.set { space with negated := true })
  | 'b' => some (.edge .wordEdge)
  | 'B' => some (.edge .noWordEdge)
  | '<' => some (.edge .wordStart)
  | '>' => some (.edge .wordEnd)
  | '\x60' => some (.edge .textStart)
  | '\'' => some (.edge .textEnd)
  | c => if '1' ≤ c && c ≤ '9' then some (.again (c.toNat - 48)) else none

/-- Any character. -/
def anyChar : CharSet :=
  { negated := true }

/-- The next sign, and what follows it. -/
def sign (d : Dialect) : List Char → Except Fault (Sign × List Char)
  | [] => return (.finish, [])
  | ['\\'] => throw .lastBackslash
  | '\\' :: c :: rest =>
    let own := if d.extended then none else switched? c
    return ((own <|> letter? c).getD (.char c), rest)
  | c :: rest =>
    let own := if d.extended then switched? c else none
    match own, c with
    | some s, _ => return (s, rest)
    | none, '.' => return (.set anyChar, rest)
    | none, '*' => return (.star, rest)
    | none, '[' => return (.bracket, rest)
    | none, '^' => return (.caret, rest)
    | none, '$' => return (.dollar, rest)
    | none, c => return (.char c, rest)

/-! ### Brackets -/

/-- A member of a set. -/
inductive Member where
  | char (c : Char)
  | named (k : CharClass)
deriving Repr, DecidableEq

/-- The greatest length of a name in brackets. -/
def nameLimit : Nat := 31

/-- The name in front of a mark and a bracket, and what follows them. -/
def named (mark : Char) : Nat → List Char → Except Fault (List Char × List Char)
  | 0, _ => throw .openBracket
  | n + 1, s =>
    match s with
    | [] => throw .openBracket
    | c :: rest =>
      if c == mark && rest.head? == some ']' then return ([], rest.drop 1)
      else do
        let (name, rest) ← named mark n rest
        return (c :: name, rest)

/-- The next member of a set, and what follows it. -/
def member (s : List Char) : Except Fault (Member × List Char) := do
  match s with
  | '[' :: ':' :: rest =>
    let (name, rest) ← named ':' nameLimit rest
    match CharClass.ofName? (String.ofList name) with
    | some k => return (.named k, rest)
    | none => throw .className
  | '[' :: mark :: rest =>
    if mark == '.' || mark == '=' then
      match ← named mark nameLimit rest with
      | ([c], rest) => return (.char c, rest)
      | _ => throw .symbolName
    else return (.char '[', mark :: rest)
  | c :: rest => return (.char c, rest)
  | [] => throw .openBracket

/-- The members of a set up to the closing bracket, and what follows it. -/
def members (set : CharSet) : Nat → Bool → List Char → Except Fault (CharSet × List Char)
  | 0, _, _ => throw .openBracket
  | n + 1, first, s => do
    match s with
    | [] => throw .openBracket
    | c :: rest =>
      if c == ']' && !first then return (set, rest)
      else if c == '-' && !first && rest.head?.any fun d => d != ']' && d != '-' then
        throw .rangeEnd
      else
        let (a, rest) ← member s
        match rest with
        | '-' :: more =>
          if more.head? == some ']' || more.isEmpty then members (add set a) n false rest
          else
            match a, ← member more with
            | .char a, (.char b, rest) =>
              if b < a then throw .rangeEnd
              else members { set with ranges := set.ranges ++ [(a, b)] } n false rest
            | _, _ => throw .rangeEnd
        | _ => members (add set a) n false rest
where
  /-- The set with one more member. -/
  add (set : CharSet) : Member → CharSet
    | .char c => { set with ranges := set.ranges ++ [(c, c)] }
    | .named k => { set with classes := set.classes ++ [k] }

/-- The brackets hold the name of a class that stands in no brackets of its own. -/
def isMisplaced (inner : List Char) : Bool :=
  let plain := fun (c : Char) => c != '[' && c != '-'
  inner.length > 2 && inner.head? == some ':' && inner.getLast? == some ':' && inner.all plain &&
    inner.any (· != ':')

/-- The set between brackets, and what follows them. -/
def bracketed (s : List Char) : Except Fault (CharSet × List Char) := do
  let (negated, inner) := match s with
    | '^' :: rest => (true, rest)
    | rest => (false, rest)
  if inner.isEmpty then throw .nothingInBracket
  let (set, rest) ← members { negated } (inner.length + 1) true inner
  if isMisplaced (inner.take (inner.length - rest.length - 1)) then throw .misplacedClass
  return (set, rest)

/-! ### Repetitions -/

/-- The greatest number of repetitions. -/
def timesLimit : Nat := 32767

/-- The number of some digits; none without digits. -/
def count? (s : List Char) : Option Nat :=
  if s.isEmpty then none else some (s.foldl (fun n c => 10 * n + (c.toNat - 48)) 0)

/-- The bounds between braces, and what follows them. -/
def bounds (d : Dialect) (s : List Char) : Except Fault ((Nat × Option Nat) × List Char) := do
  let close := if d.extended then ['\x7d'] else ['\\', '\x7d']
  let isMark := fun (s : List Char) => s.head? == some ',' || close.isPrefixOf s
  let rec skip : List Char → List Char
    | [] => []
    | c :: rest => if isMark (c :: rest) then c :: rest else skip rest
  let number := fun (s : List Char) (behind : List Char) => s.take (s.length - behind.length)
  let behind := skip s
  let least := number s behind
  let (most, behind) := match behind with
    | ',' :: more =>
      let behind := skip more
      (number more behind, behind)
    | behind => (least, behind)
  let fault := if behind.isEmpty then Fault.openBraces else .braces
  let bounded := most.length > 0
  let fits := close.isPrefixOf behind && least.all (·.isDigit) && most.all (·.isDigit) &&
    !(least.isEmpty && number s (skip s) == most && (skip s).head? != some ',')
  if !fits then throw fault
  let first := (count? least).getD 0
  let last := if bounded then count? most else none
  if last.any (· < first) then throw .braces
  if (last.getD first) > timesLimit then throw .tooManyTimes
  return ((first, last), behind.drop close.length)

/-! ### Expressions -/

/-- How far a text has been read. -/
structure Progress where
  rest : List Char
  /-- The number of groups that were opened. -/
  opened : Nat := 0
  /-- The groups that were closed. -/
  closed : List Nat := []
  /-- The operators that had nothing to repeat. -/
  idle : List String := []

/-- A step of reading. -/
abbrev Reading := StateT Progress (Except Fault)

/-- The next sign, which stays. -/
def peek (d : Dialect) : Reading (Sign × List Char) := do
  sign d (← get).rest

/-- Goes on behind some text. -/
def goTo (rest : List Char) : Reading Unit :=
  modify fun p => { p with rest }

/-- The repetition that a sign stands for, and what follows it; none in lenient form if braces hold
no bounds. -/
def repetition? (d : Dialect) (s : Sign) (rest : List Char) :
    Except Fault (Option ((Nat × Option Nat) × List Char)) := do
  match s with
  | .star => return some ((0, none), rest)
  | .plus => return some ((1, none), rest)
  | .question => return some ((0, some 1), rest)
  | .braces =>
    if d.lenient && d.extended then
      match bounds d rest with
      | .ok found => return some found
      | .error .openBraces => return none
      | .error .braces => do
        let inner := rest.takeWhile (· != '\x7d')
        if inner.all fun c => c.isDigit || c == ',' then throw .braces else return none
      | .error e => throw e
    else return some (← bounds d rest)
  | _ => return none

/-- The expression with the repetitions that follow it. In the strict basic form only one star or
pair of braces may follow. -/
def repeated (d : Dialect) : Nat → Bool → Regular → Reading Regular
  | 0, _, r => return r
  | n + 1, twice, r => do
    let (s, rest) ← peek d
    match ← repetition? d s rest with
    | none => return r
    | some ((least, most), rest) =>
      if twice && !d.extended && !d.lenient && (s == .star || s == .braces) then
        throw .nothingToRepeat
      goTo rest
      repeated d n true (.times least most r)

/-- What an operator is called where it has nothing to repeat. -/
def idleName (s : Sign) : String :=
  match s with
  | .star => "*"
  | .plus => "+"
  | .question => "?"
  | _ => "\x7b...\x7d"

mutual

/-- Alternatives, up to a closing parenthesis inside `depth` groups or to the end. -/
def alternatives (d : Dialect) (depth : Nat) : Nat → Reading Regular
  | 0 => throw .openGroup
  | n + 1 => do
    let a ← sequence d depth true n
    match ← peek d with
    | (.bar, rest) =>
      goTo rest
      return .alt a (← alternatives d depth n)
    | _ => return a

/-- Expressions one after the other; `first` says that none stands in front. -/
def sequence (d : Dialect) (depth : Nat) (first : Bool) : Nat → Reading Regular
  | 0 => throw .openGroup
  | n + 1 => do
    let (s, rest) ← peek d
    let follow := fun (r : Regular) (rest : List Char) => do
      goTo rest
      let r ← repeated d (rest.length + 1) false r
      return Regular.seq r (← sequence d depth false n)
    let edge := fun (e : Edge) => do
      goTo rest
      let (next, behind) ← peek d
      let isIdle := d.extended && d.lenient && (← repetition? d next behind).isSome
      if isIdle then modify fun p => { p with idle := p.idle ++ [idleName next] }
      let r ← if isIdle then repeated d (rest.length + 1) false (.edge e) else pure (.edge e)
      return Regular.seq r (← sequence d depth false n)
    let own := fun (c : Char) => follow (.char (.one c)) rest
    match s with
    | .finish | .bar => return .empty
    | .closing =>
      if depth > 0 then return .empty
      else if d.extended && d.lenient then own ')'
      else throw .closedGroup
    | .opening =>
      let number := (← get).opened + 1
      modify fun p => { p with rest, opened := number }
      let inner ← alternatives d (depth + 1) n
      match ← peek d with
      | (.closing, rest) =>
        modify fun p => { p with closed := number :: p.closed }
        follow (.group number inner) rest
      | _ => throw .openGroup
    | .char c => own c
    | .set set => follow (.char set) rest
    | .bracket =>
      let (set, rest) ← bracketed rest
      follow (.char set) rest
    | .again k =>
      if !(← get).closed.contains k then throw .noGroup
      follow (.again k) rest
    | .edge e => edge e
    | .caret => if d.extended || first then edge .lineStart else own '^'
    | .dollar =>
      let isLast ← match ← (sign d rest : Except Fault _) with
        | (.finish, _) | (.bar, _) | (.closing, _) => pure true
        | _ => pure false
      if d.extended || isLast then edge .lineEnd else own '$'
    | s =>
      if !d.extended then
        match s with
        | .braces => if d.lenient then own '\x7b' else throw .nothingToRepeat
        | .plus => own '+'
        | .question => own '?'
        | _ => own '*'
      else if d.lenient then
        match ← repetition? d s rest with
        | none => own '\x7b'
        | some (_, rest) =>
          modify fun p => { p with rest, idle := p.idle ++ [idleName s] }
          sequence d depth first n
      else
        if s == .braces then
          let _ ← (bounds d rest : Except Fault _)
        throw .nothingToRepeat

end

/-- An expression from its text, with the operators that had nothing to repeat. -/
def read (d : Dialect) (s : List Char) : Except Fault (Regular × List String) := do
  let (r, p) ← (alternatives d 0 (3 * s.length + 8)).run { rest := s }
  if p.rest.isEmpty then return (r, p.idle) else throw .closedGroup

end FlopCensus.Text.Regular
