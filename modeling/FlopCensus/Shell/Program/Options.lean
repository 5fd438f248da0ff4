import FlopCensus.Shell.Machine

set_option autoImplicit false
set_option relaxedAutoImplicit false

/-!
# Options of programs

An option is a letter behind a hyphen or a name behind two. Letters can stand side by side, the value
of a letter is what follows it or the next argument, and a name can be cut short as long as it is
clear.

## Main definitions

* `FlopCensus.Shell.Options`: the options that a program knows.
* `FlopCensus.Shell.Arguments`: what it was given.
* `FlopCensus.Shell.Options.read`: the one by the other.
-/

namespace FlopCensus.Shell

/-- What follows an option. -/
inductive Operand where
  | nothing
  | value
  /-- A value that can be left out, and is part of the same argument. -/
  | attached
deriving Repr, DecidableEq

/-- The options that a program knows. -/
structure Options where
  /-- The letters; a value follows one with a colon behind it, and can be left out if there are two
  colons. -/
  letters : String := ""
  /-- The names with the options that they stand for, colons as above being behind those that are no
  letters. -/
  names : List (String × String) := []
  /-- The first argument that is no option ends the options. -/
  inOrder : Bool := false
  /-- The status if there is something wrong. -/
  failure : Nat := 1
  /-- How the program is called, which some say in front of the hint. -/
  usage : Option String := none

/-- What a program was given. -/
structure Arguments where
  /-- The options with their values. -/
  given : List (String × List Char) := []
  operands : List (List Char) := []

namespace Arguments

/-- The option is given. -/
def has (a : Arguments) (option : String) : Bool :=
  a.given.any (·.1 == option)

/-- The values of an option. -/
def values (a : Arguments) (option : String) : List (List Char) :=
  (a.given.filter (·.1 == option)).map (·.2)

/-- The value of an option that is given last. -/
def value? (a : Arguments) (option : String) : Option (List Char) :=
  (a.values option).getLast?

/-- The one of some options that is given last. -/
def last? (a : Arguments) (options : List String) : Option String :=
  ((a.given.filter fun (o, _) => options.contains o).getLast?).map (·.1)

end Arguments

namespace Options

/-- A text in straight quotes. -/
def quoted (s : List Char) : List Char :=
  '\'' :: s ++ ['\'']

/-- What colons say. -/
def operandOf (colons : List Char) : Operand :=
  match colons.takeWhile (· == ':') with
  | [] => .nothing
  | [_] => .value
  | _ => .attached

/-- What follows a letter, if it is one of them. -/
def letterIn (c : Char) : List Char → Option Operand
  | [] => none
  | d :: rest => if c == d && c != ':' then some (operandOf rest) else letterIn c rest

/-- What follows a letter, if it is an option. -/
def letter? (o : Options) (c : Char) : Option Operand :=
  letterIn c o.letters.toList

/-- What an option that a name stands for is called, and what follows it. -/
def target (o : Options) (text : String) : String × Operand :=
  match text.toList with
  | [c] => (text, (o.letter? c).getD .nothing)
  | s =>
    let name := s.takeWhile (· != ':')
    (String.ofList name, operandOf (s.drop name.length))

/-- The name that a text begins or is. -/
def named (o : Options) (text : List Char) : Except (List Char) (String × String) :=
  let fits := o.names.filter fun (n, _) => text.isPrefixOf n.toList
  match fits.find? fun (n, _) => n.toList == text with
  | some found => .ok found
  | none =>
    match fits with
    | [] => .error ("unrecognized option ".toList ++ quoted ('-' :: '-' :: text))
    | (n, t) :: rest =>
      if rest.all fun (_, t') => t' == t then .ok (n, t)
      else
        let shown := fits.flatMap fun (n, _) => ' ' :: quoted ('-' :: '-' :: n.toList)
        .error ("option ".toList ++ quoted ('-' :: '-' :: text) ++
          " is ambiguous; possibilities:".toList ++ shown)

/-- Reads letters behind a hyphen, `left` being the arguments behind them. -/
def readLetters (o : Options) (a : Arguments) (left : List (List Char)) :
    List Char → Except (List Char) (Arguments × List (List Char))
  | [] => .ok (a, left)
  | c :: cs =>
    let give := fun (value : List Char) =>
      { a with given := a.given ++ [(c.toString, value)] }
    match o.letter? c with
    | none => .error ("invalid option -- ".toList ++ quoted [c])
    | some .nothing => readLetters o (give []) left cs
    | some .attached => .ok (give cs, left)
    | some .value =>
      match cs, left with
      | [], v :: left => .ok (give v, left)
      | [], [] => .error ("option requires an argument -- ".toList ++ quoted [c])
      | v, left => .ok (give v, left)

/-- Reads a name behind two hyphens. -/
def readName (o : Options) (a : Arguments) (left : List (List Char)) (text : List Char) :
    Except (List Char) (Arguments × List (List Char)) := do
  let name := text.takeWhile (· != '=')
  let value := text.drop (name.length + 1)
  let hasValue := name.length < text.length
  let (full, t) ← o.named name
  let (option, operand) := o.target t
  let shown := quoted ('-' :: '-' :: full.toList)
  let give := fun (value : List Char) => { a with given := a.given ++ [(option, value)] }
  match operand, left with
  | .nothing, left =>
    if hasValue then .error ("option ".toList ++ shown ++ " doesn't allow an argument".toList)
    else return (give [], left)
  | .value, left =>
    if hasValue then return (give value, left)
    else
      match left with
      | v :: left => return (give v, left)
      | [] => .error ("option ".toList ++ shown ++ " requires an argument".toList)
  | .attached, left => return (give value, left)

/-- Tells options and operands apart. -/
def readAll (o : Options) : Nat → Arguments → List (List Char) → Except (List Char) Arguments
  | 0, a, _ => .ok a
  | _, a, [] => .ok a
  | n + 1, a, w :: ws =>
    match w with
    | ['-', '-'] => .ok { a with operands := a.operands ++ ws }
    | '-' :: '-' :: text => do
      let (a, left) ← o.readName a ws text
      readAll o n a left
    | '-' :: c :: cs => do
      let (a, left) ← o.readLetters a ws (c :: cs)
      readAll o n a left
    | _ =>
      if o.inOrder then .ok { a with operands := a.operands ++ w :: ws }
      else readAll o n { a with operands := a.operands ++ [w] } ws

/-- The options and operands among some words, or what is wrong with them. -/
def read (o : Options) (ws : List (List Char)) : Except (List Char) Arguments :=
  o.readAll (ws.length + 1) {} ws

end Options

end FlopCensus.Shell
