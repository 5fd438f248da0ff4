import FlopCensus.Shell.Machine

set_option autoImplicit false
set_option relaxedAutoImplicit false

/-!
# Conditions

What the command `test` says of its arguments. The same word can be an operator or an operand; which
one it is depends on the words behind it.

## Main definitions

* `FlopCensus.Shell.Condition.holds`: the truth of a condition.
-/

namespace FlopCensus.Shell.Condition

/-- A word in its role. -/
inductive Token where
  | stop
  | operand
  | unary
  | binary
  | not
  | both
  | either
  | opening
  | closing
deriving Repr, DecidableEq

/-- The operators with one operand behind them. -/
def unaryWords : List String :=
  ["-r", "-w", "-x", "-e", "-f", "-d", "-c", "-b", "-p", "-u", "-g", "-k", "-s", "-t", "-z", "-n",
    "-h", "-O", "-G", "-L", "-S"]

/-- The operators between two operands. -/
def binaryWords : List String :=
  ["=", "!=", "<", ">", "-eq", "-ne", "-ge", "-gt", "-le", "-lt", "-nt", "-ot", "-ef"]

/-- The role of a word as an operator. -/
def operator? (s : List Char) : Option Token :=
  let w := String.ofList s
  if unaryWords.contains w then some .unary
  else if binaryWords.contains w then some .binary
  else
    match w with
    | "!" => some .not
    | "-a" => some .both
    | "-o" => some .either
    | "(" => some .opening
    | ")" => some .closing
    | _ => none

/-- A unary operator at this place is an operand. -/
def isOperand : List (List Char) → Bool
  | _ :: next :: third :: _ => operator? next == some .binary && third != [')']
  | _ => true

/-- An operator with something behind it that is no operator. -/
def isUnaryHere : List (List Char) → Bool
  | [_] => false
  | [_, _] => true
  | ws => !isOperand ws

/-- The role of the word at this place. -/
def token (ws : List (List Char)) : Token :=
  match ws with
  | [] => .stop
  | w :: rest =>
    match operator? w with
    | none => .operand
    | some .unary => if isUnaryHere ws then .unary else .operand
    | some .opening => if rest.isEmpty then .operand else .opening
    | some t => t

/-- A truth, with the words from the last one that was used. -/
abbrev Step := Except (List Char) (Bool × List (List Char))

/-- The number that a word stands for. -/
def number (s : List Char) : Except (List Char) Int :=
  let blank := fun (c : Char) => c == ' ' || c == '\t' || c == '\n'
  let body := (s.dropWhile blank).reverse.dropWhile blank |>.reverse
  let (negative, ds) := match body with
    | '-' :: ds => (true, ds)
    | '+' :: ds => (false, ds)
    | ds => (false, ds)
  if ds.isEmpty || !ds.all (·.isDigit) then .error ("Illegal number: ".toList ++ s)
  else
    let n := Int.ofNat (ds.foldl (fun n c => 10 * n + (c.toNat - 48)) 0)
    .ok (if negative then -n else n)

/-- The file at a path is a link. -/
def isLink (fs : FileSystem) (path : String) : Bool :=
  match fs.root.at? (fs.ownPlace path) with
  | some (.link _) => true
  | _ => false

/-- The truth of a unary operator. -/
def unary (fs : FileSystem) (op : String) (s : List Char) : Bool :=
  let path := pathOf s
  match op with
  | "-z" => s.isEmpty
  | "-n" => !s.isEmpty
  | "-f" => fs.isFile path
  | "-d" => fs.isDirectory path
  | "-x" => fs.isExecutable path || fs.isDirectory path
  | "-s" =>
    match fs.find path with
    | .ok (.regular content _) => !content.isEmpty
    | .ok _ => true
    | _ => false
  | "-h" | "-L" => isLink fs path
  | "-e" | "-r" | "-w" | "-O" | "-G" => fs.holds path
  | _ => false

/-- The truth of a binary operator. -/
def binary (fs : FileSystem) (op : String) (a b : List Char) : Except (List Char) Bool := do
  match op with
  | "=" => return a == b
  | "!=" => return a != b
  | "<" => return decide (a < b)
  | ">" => return decide (b < a)
  | "-ef" => return match fs.locate (pathOf a), fs.locate (pathOf b) with
      | .ok p, .ok q => p == q
      | _, _ => false
  | "-nt" => return fs.holds (pathOf a) && !fs.holds (pathOf b)
  | "-ot" => return fs.holds (pathOf b) && !fs.holds (pathOf a)
  | _ =>
    let a ← number a
    let b ← number b
    return match op with
      | "-eq" => a == b
      | "-ne" => a != b
      | "-ge" => decide (a ≥ b)
      | "-gt" => decide (a > b)
      | "-le" => decide (a ≤ b)
      | _ => decide (a < b)

/-- What is expected where the words end. -/
def missing {α : Type} (op : List Char) : Except (List Char) α :=
  .error (op ++ ": argument expected".toList)

mutual

/-- Conditions of which one has to hold; `t` is the role of the first word. -/
def either (fs : FileSystem) : Nat → Token → List (List Char) → Step
  | 0, _, ws => return (false, ws)
  | n + 1, t, ws => do
    let (a, ws) ← both fs n t ws
    if token (ws.drop 1) == .either then
      let ws := ws.drop 2
      let (b, ws) ← either fs n (token ws) ws
      return (a || b, ws)
    else return (a, ws)

/-- Conditions that all have to hold. -/
def both (fs : FileSystem) : Nat → Token → List (List Char) → Step
  | 0, _, ws => return (false, ws)
  | n + 1, t, ws => do
    let (a, ws) ← negated fs n t ws
    if token (ws.drop 1) == .both then
      let ws := ws.drop 2
      let (b, ws) ← both fs n (token ws) ws
      return (a && b, ws)
    else return (a, ws)

/-- A condition that may be negated. -/
def negated (fs : FileSystem) : Nat → Token → List (List Char) → Step
  | 0, _, ws => return (false, ws)
  | n + 1, t, ws => do
    if t == .not then
      let rest := ws.drop 1
      if rest.isEmpty then return (true, ws)
      let (a, ws) ← negated fs n (token rest) rest
      return (!a, ws)
    else primary fs n t ws

/-- A condition without `!`, `-a` and `-o`. -/
def primary (fs : FileSystem) : Nat → Token → List (List Char) → Step
  | 0, _, ws => return (false, ws)
  | n + 1, t, ws => do
    match t, ws with
    | .stop, _ => return (false, ws)
    | .opening, _ :: rest =>
      if token rest == .closing then return (false, rest)
      let (a, ws) ← either fs n (token rest) rest
      if token (ws.drop 1) == .closing then return (a, ws.drop 1)
      else .error "closing paren expected".toList
    | .unary, op :: rest =>
      match rest with
      | [] => missing op
      | s :: _ => return (unary fs (String.ofList op) s, rest)
    | _, a :: rest =>
      if token rest == .binary then
        match rest with
        | op :: b :: more => return (← binary fs (String.ofList op) a b, b :: more)
        | op :: _ => missing op
        | [] => return (!a.isEmpty, ws)
      else return (!a.isEmpty, ws)
    | _, [] => return (false, ws)

end

/-- The truth of a condition, or what is wrong with it. -/
def holds (fs : FileSystem) (ws : List (List Char)) : Except (List Char) Bool := do
  let finish := fun (t : Token) (ws : List (List Char)) => do
    let (a, left) ← either fs (8 * ws.length + 16) t ws
    match left with
    | w :: _ :: _ => .error (w ++ ": unexpected operator".toList)
    | _ => return a
  match ws with
  | [] => return false
  | [_, op, _] =>
    if operator? op == some .binary then finish .operand ws else special finish ws
  | [_, _, _, _] => special finish ws
  | _ => finish (token ws) ws
where
  /-- Three or four words, of which parentheses or a negation may be the outer ones. -/
  special (finish : Token → List (List Char) → Except (List Char) Bool) (ws : List (List Char)) :
      Except (List Char) Bool := do
    if ws.head? == some ['('] && ws.getLast? == some [')'] then
      let inner := (ws.drop 1).dropLast
      finish (token inner) inner
    else if ws.head? == some ['!'] then
      let inner := ws.drop 1
      return !(← finish (token inner) inner)
    else finish (token ws) ws

end FlopCensus.Shell.Condition
