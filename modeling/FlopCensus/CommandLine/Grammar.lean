import FlopCensus.Text.Digit
import FlopCensus.Text.Quoted
import FlopCensus.Text.Search

set_option autoImplicit false
set_option relaxedAutoImplicit false

/-!
# Arguments of a command line

A grammar lists options and says what stands between them. An option may be written by any beginning
of its name that no other option shares; a value can follow `=` or be the next argument; and options
of one letter can share a hyphen. Behind `--` there are no options. Where a value is joined to its
option, `--` only keeps its place.

Arguments that fit nowhere are handed back.

## Main definitions

* `FlopCensus.CommandLine.Opt`, `FlopCensus.CommandLine.Grammar`: options and grammars.
* `FlopCensus.CommandLine.Fault`: what is wrong with arguments, and the wording.
* `FlopCensus.CommandLine.Role`: what an argument is taken for.
* `FlopCensus.CommandLine.Grammar.read`: the values that arguments give.
-/

namespace FlopCensus.CommandLine

/-- What an option does to the values. -/
inductive Effect (α : Type) where
  /-- It asks for help. -/
  | help
  /-- It has no argument. -/
  | toggle (set : α → α)
  /-- It has an argument, which may be refused. `blank` is done where `--` keeps its place. -/
  | value (set : String → Except String (α → α)) (blank : α → α)

/-- An option. -/
structure Opt (α : Type) where
  /-- The ways to write it. -/
  names : List String
  /-- What it does. -/
  effect : Effect α
  /-- The names of the options it cannot stand beside. -/
  excludes : List (List String) := []

/-- The names of an option in messages. -/
def label (names : List String) : String :=
  "/".intercalate names

/-- What stands between options. -/
inductive Operand where
  /-- Nothing. -/
  | none
  /-- One argument. -/
  | one (name : String)
  /-- A command, to which everything behind it belongs. -/
  | command (name : String)
deriving Repr, DecidableEq

/-- A grammar of arguments. -/
structure Grammar (α : Type) where
  options : List (Opt α)
  operand : Operand

/-- What is wrong with arguments, a request for help included. -/
inductive Fault where
  /-- Help is asked for. -/
  | help
  /-- An option or operand is used in a wrong way. -/
  | argument (name : String) (text : String)
  /-- A beginning belongs to several options. -/
  | ambiguous (given : String) (candidates : List String)
  /-- An operand is missing. -/
  | missing (name : String)
  /-- Some arguments fit nowhere. -/
  | unrecognized (texts : List String)
deriving Repr, DecidableEq

/-- The wording of a fault. -/
def Fault.message : Fault → String
  | .help => ""
  | .argument name text => "argument " ++ name ++ ": " ++ text
  | .ambiguous given candidates =>
    "ambiguous option: " ++ given ++ " could match " ++ ", ".intercalate candidates
  | .missing name => "the following arguments are required: " ++ name
  | .unrecognized texts => "unrecognized arguments: " ++ " ".intercalate texts

/-- A value has to be one of several. -/
def chooseFrom (choices : List String) (s : String) : Except String String :=
  if choices.contains s then .ok s
  else
    .error ("invalid choice: " ++ Text.quote s ++ " (choose from " ++
      ", ".intercalate (choices.map Text.quote) ++ ")")

/-! ### Roles -/

/-- An option as it is written. -/
structure Written (α : Type) where
  option : Opt α
  /-- The name by which it is written. -/
  name : String
  /-- The text that follows in the same argument. -/
  text : Option String := none

/-- What an argument is taken for. -/
inductive Role (α : Type) where
  | plain
  /-- The end of the options. -/
  | dashes
  /-- An option. -/
  | option (w : Written α)
  /-- An option that is not known. -/
  | unknown

/-- The argument is taken for an option. -/
def Role.isOption {α : Type} : Role α → Bool
  | .option _ | .unknown => true
  | _ => false

namespace Grammar

variable {α : Type}

/-- The options by their names, in order. -/
def named (g : Grammar α) : List (String × Opt α) :=
  g.options.flatMap fun o => o.names.map fun n => (n, o)

/-- The option of a name. -/
def find? (g : Grammar α) (name : String) : Option (Opt α) :=
  (g.named.find? (·.1 == name)).map (·.2)

/-- The part of a text in front of the first `=`, and the part behind it. -/
def cutAtEquals (s : String) : String × Option String :=
  let front := s.toList.takeWhile (· != '=')
  match s.toList.drop front.length with
  | [] => (s, none)
  | _ :: rest => (String.ofList front, some (String.ofList rest))

/-- The options that an argument can be a shorter way to write. -/
def abbreviated (g : Grammar α) (s : String) : List (Written α) :=
  match s.toList with
  | '-' :: '-' :: _ =>
    let (front, text) := cutAtEquals s
    (g.named.filter fun (n, _) => Text.opensWith n front).map fun (n, o) =>
      { option := o, name := n, text }
  | '-' :: c :: rest =>
    g.named.filterMap fun (n, o) =>
      if n == String.ofList ['-', c] then
        some { option := o, name := n, text := some (String.ofList rest) }
      else if Text.opensWith n s then some { option := o, name := n }
      else none
  | _ => []

/-- The argument is a negative number, in the digits of any script; one line break may follow. -/
def isNegativeNumber (s : String) : Bool :=
  match s.toList with
  | '-' :: body =>
    let whole := body.takeWhile Text.isDigit
    match body.drop whole.length with
    | [] | ['\n'] => !whole.isEmpty
    | '.' :: places =>
      let digits := places.takeWhile Text.isDigit
      let rest := places.drop digits.length
      !digits.isEmpty && (rest.isEmpty || rest == ['\n'])
    | _ => false
  | _ => false

/-- What an argument is taken for. -/
def roleOf (g : Grammar α) (s : String) : Except Fault (Role α) :=
  match s.toList with
  | '-' :: _ :: _ =>
    match g.find? s with
    | some o => .ok (.option { option := o, name := s })
    | none =>
      let (front, text) := cutAtEquals s
      match text, g.find? front with
      | some t, some o =>
        .ok (.option { option := o, name := front, text := some t })
      | _, _ =>
        match g.abbreviated s with
        | [w] => .ok (.option w)
        | [] => .ok (if isNegativeNumber s || s.toList.contains ' ' then .plain else .unknown)
        | ws => .error (.ambiguous s (ws.map (·.name)))
  | _ => .ok .plain

/-- What the arguments are taken for. Those behind `--` are plain. -/
def roles (g : Grammar α) : List String → Except Fault (List (String × Role α))
  | [] => .ok []
  | s :: rest =>
    if s == "--" then .ok ((s, .dashes) :: rest.map fun t => (t, .plain))
    else do
      let role ← g.roleOf s
      return (s, role) :: (← g.roles rest)

/-! ### Reading -/

/-- What has been read. -/
structure Progress (α : Type) where
  values : α
  /-- The options that were written, by their names. -/
  seen : List (List String) := []
  /-- The arguments of the operand. -/
  operand : Option (List String) := none
  /-- The arguments that fit nowhere. -/
  extras : List String := []

/-- Carries an option out. -/
def apply (p : Progress α) (o : Opt α) (argument : Option String) : Except Fault (Progress α) := do
  let set ← match o.effect, argument with
    | .help, _ => throw .help
    | .toggle set, _ => pure set
    | .value set blank, some s =>
      if s == "--" then pure blank
      else
        match set s with
        | .ok set => pure set
        | .error text => throw (.argument (label o.names) text)
    | .value .., none => throw (.argument (label o.names) "expected one argument")
  match o.excludes.find? p.seen.contains with
  | some other =>
    throw (.argument (label o.names) ("not allowed with argument " ++ label other))
  | none => return { p with values := set p.values, seen := o.names :: p.seen }

/-- The option has an argument. -/
def hasArgument (o : Opt α) : Bool :=
  match o.effect with
  | .value .. => true
  | _ => false

/-- What an argument with options asks for. -/
structure Reading (α : Type) where
  /-- The options with their arguments, in order. -/
  options : List (Opt α × Option String)
  /-- The next argument belongs to the last option. -/
  takesNext : Bool := false

/-- The options in one argument. `next` is the argument behind it, if that can be a value. The text
behind an option of one letter that has no argument starts with the letter of another option. -/
def readWritten (g : Grammar α) (next : Option String) :
    Nat → Written α → List (Opt α × Option String) → Except Fault (Reading α)
  | 0, _, done => .ok { options := done }
  | n + 1, w, done =>
    let fault := fun (text : String) => Except.error (Fault.argument (label w.option.names) text)
    match w.text with
    | none =>
      if hasArgument w.option then
        match next with
        | some s => .ok { options := done ++ [(w.option, some s)], takesNext := true }
        | none => fault "expected one argument"
      else .ok { options := done ++ [(w.option, none)] }
    | some text =>
      if hasArgument w.option then .ok { options := done ++ [(w.option, some text)] }
      else
        let ignored := fault ("ignored explicit argument " ++ Text.quote text)
        match text.toList with
        | [] => ignored
        | c :: rest =>
          let name := String.ofList ['-', c]
          match if Text.opensWith w.name "--" then none else g.find? name with
          | none => ignored
          | some o =>
            let text := if rest.isEmpty then none else some (String.ofList rest)
            g.readWritten next n { option := o, name, text } (done ++ [(w.option, none)])

/-- The arguments of the operand at the front, and what follows them. -/
def takeOperand (g : Grammar α) (p : Progress α) (items : List (String × Role α)) :
    Progress α × List (String × Role α) :=
  match g.operand, p.operand with
  | .none, _ | _, some _ => (p, items)
  | .one _, none =>
    match items with
    | (_, .dashes) :: (s, .plain) :: rest => ({ p with operand := some [s] }, rest)
    | (s, .plain) :: (_, .dashes) :: rest => ({ p with operand := some [s] }, rest)
    | (s, .plain) :: rest => ({ p with operand := some [s] }, rest)
    | _ => (p, items)
  | .command _, none =>
    match items with
    | (_, .dashes) :: (_, .plain) :: _ | (_, .plain) :: _ =>
      ({ p with operand := some (items.map (·.1)) }, [])
    | _ => (p, items)

/-- Reads the arguments from left to right. -/
def readItems (g : Grammar α) : Nat → Progress α → List (String × Role α) →
    Except Fault (Progress α)
  | 0, p, _ => .ok p
  | n + 1, p, items =>
    match items with
    | (_, .unknown) :: rest =>
      g.readItems n { p with extras := p.extras ++ (items.take 1).map (·.1) } rest
    | (s, .option w) :: rest => do
      let next := match rest with
        | (t, .plain) :: _ => some t
        | _ => none
      let r ← g.readWritten next (s.length + 1) w []
      let p ← r.options.foldlM (fun p (o, argument) => apply p o argument) p
      g.readItems n p (if r.takesNext then rest.drop 1 else rest)
    | items =>
      let front := items.takeWhile fun (_, role) => !role.isOption
      let (q, rest) := g.takeOperand p items
      if front.length == items.length then .ok { q with extras := q.extras ++ rest.map (·.1) }
      else if rest.length < items.length then g.readItems n q rest
      else
        g.readItems n { p with extras := p.extras ++ front.map (·.1) } (items.drop front.length)

/-- The values that arguments give, with the operand and what fits nowhere. -/
def read (g : Grammar α) (values : α) (arguments : List String) : Except Fault (Progress α) := do
  let items ← g.roles arguments
  let p ← g.readItems (2 * items.length + 2) { values } items
  match g.operand, p.operand with
  | .one name, none => throw (.missing name)
  | _, _ => return p

end Grammar

end FlopCensus.CommandLine
