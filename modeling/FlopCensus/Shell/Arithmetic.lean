set_option autoImplicit false
set_option relaxedAutoImplicit false

/-!
# Arithmetic in shell scripts

Expressions over whole numbers with the operators of C. Values are kept between -2^63 and 2^63 - 1
by wrapping around.

## Main definitions

* `FlopCensus.Shell.Arithmetic.Expression`: expressions.
* `FlopCensus.Shell.Arithmetic.read`: an expression from its text.
* `FlopCensus.Shell.Arithmetic.evaluate`: the value of an expression, with the variables it sets.
-/

namespace FlopCensus.Shell.Arithmetic

/-- An operator between two operands that are both evaluated. -/
inductive Operator where
  | add | sub | mul | div | rem
  | shiftLeft | shiftRight
  | less | atMost | greater | atLeast | equal | different
  | bitAnd | bitXor | bitOr
deriving Repr, DecidableEq

/-- An operator in front of its operand. -/
inductive Sign where
  | plus | minus | bitNot | not
deriving Repr, DecidableEq

/-- An expression. -/
inductive Expression where
  | number (n : Int)
  | name (x : String)
  | signed (s : Sign) (e : Expression)
  | binary (op : Operator) (a b : Expression)
  | both (a b : Expression)
  | either (a b : Expression)
  | choice (condition yes no : Expression)
  /-- Sets a variable, perhaps with its old value as the first operand of an operator. -/
  | assign (x : String) (op : Option Operator) (e : Expression)
deriving Repr

/-- Why an expression has no value. -/
inductive Problem where
  | divisionByZero
  /-- An operand is missing. -/
  | noOperand
  /-- Something follows the expression. -/
  | noEnd
  /-- A parenthesis is not closed. -/
  | openParenthesis
  /-- A choice has no second branch. -/
  | noColon
  /-- The value of a variable is no number. -/
  | noNumber (text : List Char)
deriving Repr, DecidableEq

/-- The operators by their text, those of a level binding more tightly than those of the levels
before. -/
def levels : List (List (String × Operator)) := [
  [("|", .bitOr)],
  [("^", .bitXor)],
  [("&", .bitAnd)],
  [("==", .equal), ("!=", .different)],
  [("<=", .atMost), (">=", .atLeast), ("<", .less), (">", .greater)],
  [("<<", .shiftLeft), (">>", .shiftRight)],
  [("+", .add), ("-", .sub)],
  [("*", .mul), ("/", .div), ("%", .rem)]]

/-- The operators that an assignment can carry. -/
def assignments : List (String × Operator) :=
  [("<<", .shiftLeft), (">>", .shiftRight), ("+", .add), ("-", .sub), ("*", .mul), ("/", .div),
    ("%", .rem), ("&", .bitAnd), ("^", .bitXor), ("|", .bitOr)]

/-- What follows blanks. -/
def skip (s : List Char) : List Char :=
  s.dropWhile " \t\n".toList.contains

/-- What follows a mark at this place. -/
def behind? (mark : String) (s : List Char) : Option (List Char) :=
  if mark.toList.isPrefixOf (skip s) then some ((skip s).drop mark.length) else none

/-- A longer operator stands at this place, `mark` being only its beginning. -/
def isLonger (mark : String) (rest : List Char) : Bool :=
  match mark, rest with
  | "|", '|' :: _ | "&", '&' :: _ | "<", '<' :: _ | ">", '>' :: _ => true
  | "==", _ | "!=", _ | "<=", _ | ">=", _ => false
  | _, '=' :: next => next.head? != some '='
  | _, _ => false

/-- The operator at this place, and what follows it. -/
def operator? (ops : List (String × Operator)) (s : List Char) : Option (Operator × List Char) :=
  ops.findSome? fun (mark, op) =>
    (behind? mark s).bind fun rest => if isLonger mark rest then none else some (op, rest)

/-- A character of names. -/
def isNameChar (c : Char) : Bool :=
  c.isAlphanum || c == '_'

/-- The value of a digit in bases up to sixteen. -/
def digit (c : Char) : Nat :=
  if c.isDigit then c.toNat - 48 else c.toLower.toNat - 87

/-- The number that letters and digits stand for: with `0x` in base sixteen, with `0` in base eight.
-/
def numberOf? (s : List Char) : Option Int :=
  let value := fun (base : Nat) (ds : List Char) =>
    if !ds.isEmpty && ds.all fun c => (c.isDigit || c.isAlpha) && digit c < base then
      some (Int.ofNat (ds.foldl (fun n c => n * base + digit c) 0))
    else none
  match s with
  | '0' :: 'x' :: ds | '0' :: 'X' :: ds => value 16 ds
  | '0' :: d :: ds => value 8 (d :: ds)
  | ds => value 10 ds

/-- The assignment that follows a name, and what follows it. -/
def assignment? (s : List Char) : Option (Option Operator × List Char) :=
  match behind? "=" s with
  | some ('=' :: _) => none
  | some rest => some (none, rest)
  | none => assignments.findSome? fun (mark, op) =>
      (behind? (mark ++ "=") s).map fun rest => (some op, rest)

/-- A step of reading an expression. -/
abbrev Reader := Except Problem

mutual

/-- A choice, or an expression without one. -/
def readChoice : Nat → List Char → Reader (Expression × List Char)
  | 0, _ => throw .noOperand
  | n + 1, s => do
    let (condition, s) ← readEither n s
    match behind? "?" s with
    | none => return (condition, s)
    | some s =>
      let (yes, s) ← readChoice n s
      match behind? ":" s with
      | none => throw .noColon
      | some s =>
        let (no, s) ← readChoice n s
        return (.choice condition yes no, s)

/-- Operands of which one has to hold. -/
def readEither : Nat → List Char → Reader (Expression × List Char)
  | 0, _ => throw .noOperand
  | n + 1, s => do
    let (a, s) ← readBoth n s
    match behind? "||" s with
    | none => return (a, s)
    | some s =>
      let (b, s) ← readEither n s
      return (.either a b, s)

/-- Operands that all have to hold. -/
def readBoth : Nat → List Char → Reader (Expression × List Char)
  | 0, _ => throw .noOperand
  | n + 1, s => do
    let (a, s) ← readLevel levels n s
    match behind? "&&" s with
    | none => return (a, s)
    | some s =>
      let (b, s) ← readBoth n s
      return (.both a b, s)

/-- Operands joined by the operators of some levels. -/
def readLevel (ops : List (List (String × Operator))) : Nat → List Char →
    Reader (Expression × List Char)
  | 0, _ => throw .noOperand
  | n + 1, s => do
    match ops with
    | [] => readOperand n s
    | level :: tighter =>
      let (a, s) ← readLevel tighter n s
      readMore level tighter a n s

/-- The operands that follow a first one. -/
def readMore (level : List (String × Operator)) (tighter : List (List (String × Operator)))
    (a : Expression) : Nat → List Char → Reader (Expression × List Char)
  | 0, _ => throw .noOperand
  | n + 1, s => do
    match operator? level s with
    | none => return (a, s)
    | some (op, s) =>
      let (b, s) ← readLevel tighter n s
      readMore level tighter (.binary op a b) n s

/-- An operand. -/
def readOperand : Nat → List Char → Reader (Expression × List Char)
  | 0, _ => throw .noOperand
  | n + 1, s => do
    let signed := fun (sign : Sign) (s : List Char) => do
      let (e, s) ← readOperand n s
      return (.signed sign e, s)
    match skip s with
    | '+' :: s => signed .plus s
    | '-' :: s => signed .minus s
    | '~' :: s => signed .bitNot s
    | '!' :: s => signed .not s
    | '(' :: s =>
      let (e, s) ← readChoice n s
      match behind? ")" s with
      | some s => return (e, s)
      | none => throw .openParenthesis
    | s =>
      let run := s.takeWhile isNameChar
      let rest := s.drop run.length
      match run with
      | [] => throw .noOperand
      | c :: _ =>
        if c.isDigit then
          match numberOf? run with
          | some value => return (.number value, rest)
          | none => throw .noEnd
        else
          match assignment? rest with
          | none => return (.name (String.ofList run), rest)
          | some (op, rest) =>
            let (e, rest) ← readChoice n rest
            return (.assign (String.ofList run) op e, rest)

end

/-- An expression from its text. An empty text is zero. -/
def read (s : List Char) : Reader Expression := do
  if (skip s).isEmpty then return .number 0
  else
    let (e, rest) ← readChoice (16 * s.length + 64) s
    if (skip rest).isEmpty then return e else throw .noEnd

/-- The count of values. -/
def wordSize : Nat := 0x10000000000000000

/-- A value between -2^63 and 2^63 - 1. -/
def wrap (n : Int) : Int :=
  Int.bmod n wordSize

/-- A truth as a number. -/
def truth (b : Bool) : Int :=
  if b then 1 else 0

/-- The value of an operator. -/
def Operator.apply (op : Operator) (a b : Int) : Except Problem Int :=
  let bits := fun (f : Nat → Nat → Nat) => wrap (f (a % wordSize).toNat (b % wordSize).toNat : Int)
  match op with
  | .add => .ok (wrap (a + b))
  | .sub => .ok (wrap (a - b))
  | .mul => .ok (wrap (a * b))
  | .div => if b = 0 then .error .divisionByZero else .ok (wrap (a.tdiv b))
  | .rem => if b = 0 then .error .divisionByZero else .ok (a.tmod b)
  | .shiftLeft => .ok (wrap (a * Nat.pow 2 (b % 64).toNat))
  | .shiftRight => .ok (a / Nat.pow 2 (b % 64).toNat)
  | .less => .ok (truth (a < b))
  | .atMost => .ok (truth (a ≤ b))
  | .greater => .ok (truth (a > b))
  | .atLeast => .ok (truth (a ≥ b))
  | .equal => .ok (truth (a == b))
  | .different => .ok (truth (a != b))
  | .bitAnd => .ok (bits Nat.land)
  | .bitXor => .ok (bits Nat.xor)
  | .bitOr => .ok (bits Nat.lor)

/-- The value of a sign. -/
def Sign.apply (s : Sign) (a : Int) : Int :=
  match s with
  | .plus => a
  | .minus => wrap (-a)
  | .bitNot => -a - 1
  | .not => truth (a == 0)

/-- The number that the value of a variable stands for. -/
def valueOf? (text : List Char) : Option Int :=
  match skip text with
  | [] => some 0
  | '-' :: rest => (numberOf? rest).map fun n => -n
  | '+' :: rest => numberOf? rest
  | rest => numberOf? rest

/-- A step of evaluating, with the variables that were set. -/
abbrev Evaluation := StateT (List (String × Int)) (Except Problem)

/-- The value of an expression; `look` has the values of variables before it. -/
def evaluate (look : String → List Char) : Expression → Evaluation Int
  | .number n => return wrap n
  | .name x => valueNow x
  | .signed s e => return s.apply (← evaluate look e)
  | .binary op a b => do
    let a ← evaluate look a
    let b ← evaluate look b
    op.apply a b
  | .both a b => do
    if (← evaluate look a) == 0 then return 0
    return truth ((← evaluate look b) != 0)
  | .either a b => do
    if (← evaluate look a) != 0 then return 1
    return truth ((← evaluate look b) != 0)
  | .choice condition yes no => do
    if (← evaluate look condition) != 0 then evaluate look yes else evaluate look no
  | .assign x op e => do
    let value ← match op with
      | none => evaluate look e
      | some op => do
        let old ← valueNow x
        op.apply old (← evaluate look e)
    modify ((x, value) :: ·)
    return value
where
  /-- The present value of a variable. -/
  valueNow (x : String) : Evaluation Int := do
    match (← get).lookup x with
    | some value => return value
    | none =>
      match valueOf? (look x) with
      | some value => return wrap value
      | none => throw (.noNumber (look x))

/-- A problem with an expression in words. -/
def Problem.message (p : Problem) (expression : List Char) : List Char :=
  let shown := fun (what : String) =>
    "arithmetic expression: ".toList ++ what.toList ++ ": \"".toList ++ expression ++ ['"']
  match p with
  | .divisionByZero => shown "division by zero"
  | .noOperand => shown "expecting primary"
  | .noEnd => shown "expecting EOF"
  | .openParenthesis => shown "expecting ')'"
  | .noColon => shown "expecting ':'"
  | .noNumber text => "Illegal number: ".toList ++ text

end FlopCensus.Shell.Arithmetic
