import FlopCensus.Shell.Program.Basic
import FlopCensus.Text.Regular.Reader

set_option autoImplicit false
set_option relaxedAutoImplicit false

/-!
# Calculation with words

The words of an expression are operands and operators. A value is a text, which can be a whole
number; a part whose value is not needed is read but not worked out.

## Main definitions

* `FlopCensus.Shell.Calculation.evaluate`: the value of an expression.
* `FlopCensus.Shell.Program.expr`: the program.
-/

namespace FlopCensus.Shell.Calculation

/-- What is wrong with an expression. -/
inductive Fault where
  | missingBehind (w : List Char)
  | unexpected (w : List Char)
  | notClosed (w : List Char)
  | closing
  | noInteger
  | division
  | pattern (f : Text.Regular.Fault)

/-- The wording of a fault. -/
def Fault.message : Fault → List Char
  | .missingBehind w => "syntax error: missing argument after ".toList ++ Program.curly w
  | .unexpected w => "syntax error: unexpected argument ".toList ++ Program.curly w
  | .notClosed w => "syntax error: expecting ')' after ".toList ++ Program.curly w
  | .closing => "syntax error: unexpected ')'".toList
  | .noInteger => "non-integer argument".toList
  | .division => "division by zero".toList
  | .pattern f => f.message.toList

/-- The words that are left, and the one in front of them. -/
structure Progress where
  before : List Char := []
  left : List (List Char)

/-- A step of the evaluation. -/
abbrev Reading := StateT Progress (Except Fault)

/-- The next word is taken if it is one of some. -/
def next? (words : List String) : Reading (Option String) := do
  let p ← get
  match p.left with
  | [] => return none
  | w :: rest =>
    let text := String.ofList w
    if words.contains text then
      set { before := w, left := rest : Progress }
      return some text
    else return none

/-- The number that a text is. -/
def integer? (s : List Char) : Option Int :=
  match s with
  | '-' :: ds => (Program.digits? ds).map fun n => -Int.ofNat n
  | ds => (Program.digits? ds).map Int.ofNat

/-- The text of a number. -/
def ofInt (n : Int) : List Char :=
  (Numeral.intText n).toList

/-- The value is empty or zero. -/
def isNull (s : List Char) : Bool :=
  s.isEmpty || (s != ['-'] &&
    (match s with
      | '-' :: ds => ds
      | ds => ds).all (· == '0'))

/-- What a pattern finds at the start of a text: its first group, or the length. -/
def matched (text pattern : List Char) : Except Fault (List Char) :=
  let cs := Text.characters text
  match Text.Regular.read {} (Text.characters pattern) with
  | .error f => .error (.pattern f)
  | .ok (r, _) =>
    let hasGroup := Text.occurs ['\\', '('] pattern
    let found := (Text.Regular.ends {} r.refersBack r { before := none, rest := cs }).head?
    match found with
    | none => .ok (if hasGroup then [] else ['0'])
    | some spot =>
      if hasGroup then .ok (Text.spelling ((spot.groups.lookup 1).getD []))
      else .ok (Numeral.decimal spot.passed)

/-- The value of two numbers by an operator. -/
def arithmetic (op : String) (a b : List Char) : Except Fault (List Char) :=
  match integer? a, integer? b with
  | some m, some n =>
    match op with
    | "+" => .ok (ofInt (m + n))
    | "-" => .ok (ofInt (m - n))
    | "*" => .ok (ofInt (m * n))
    | _ =>
      if n == 0 then .error .division
      else .ok (ofInt (if op == "/" then m.tdiv n else m.tmod n))
  | _, _ => .error .noInteger

/-- The truth of a comparison. -/
def compared (op : String) (a b : List Char) : List Char :=
  let order := match integer? a, integer? b with
    | some m, some n => compare m n
    | _, _ => if a == b then .eq else if Program.byteOrder a b then .lt else .gt
  let holds : Bool := match op with
    | "<" => order == .lt
    | "<=" => order != .gt
    | ">" => order == .gt
    | ">=" => order != .lt
    | "!=" => order != .eq
    | _ => order == .eq
  if holds then ['1'] else ['0']

/-- The operators by strength, the weakest first. -/
def levels : List (List String) :=
  [["|"], ["&"], ["<", "<=", "=", "==", "!=", ">=", ">"], ["+", "-"], ["*", "/", "%"], [":"]]

/-- The value of a function of some values. -/
def call (f : String) (values : List (List Char)) : Except Fault (List Char) := do
  match f, values.map Text.characters with
  | "length", [s] => return Numeral.decimal s.length
  | "index", [s, set] =>
    return Numeral.decimal (((s.findIdx? set.contains).map (· + 1)).getD 0)
  | "match", _ => matched (values.head?.getD []) ((values[1]?).getD [])
  | "substr", s :: _ =>
    match (values[1]?).bind integer?, (values[2]?).bind integer? with
    | some start, some count =>
      if start ≤ 0 || count ≤ 0 then return []
      else return Text.spelling ((s.drop (start.toNat - 1)).take count.toNat)
    | _, _ => return []
  | _, _ => return []

/-- The functions with the number of their values. -/
def functions : List (String × Nat) :=
  [("length", 1), ("match", 2), ("index", 2), ("substr", 3)]

mutual

/-- A value with the operators of some levels and all stronger ones. -/
def level (needed : Bool) (ops : List (List String)) : Nat → Reading (List Char)
  | 0 => return []
  | n + 1 => do
    match ops with
    | [] => primary needed n
    | own :: stronger =>
      let first ← level needed stronger n
      further needed own stronger first n

/-- The operators of one level behind a value. -/
def further (needed : Bool) (own : List String) (stronger : List (List String))
    (a : List Char) : Nat → Reading (List Char)
  | 0 => return a
  | n + 1 => do
    match ← next? own with
    | none => return a
    | some op =>
      let goes := match op with
        | "|" => needed && isNull a
        | "&" => needed && !isNull a
        | _ => needed
      let b ← level goes stronger n
      let value ← if !needed then pure a else
        match op with
        | "|" => pure (if !isNull a then a else if isNull b then ['0'] else b)
        | "&" => pure (if isNull a || isNull b then ['0'] else a)
        | ":" => (matched a b : Except Fault _)
        | "+" | "-" | "*" | "/" | "%" => (arithmetic op a b : Except Fault _)
        | op => pure (compared op a b)
      further needed own stronger value n

/-- A word, a function or an expression in parentheses. -/
def primary (needed : Bool) : Nat → Reading (List Char)
  | 0 => return []
  | n + 1 => do
    let p ← get
    match p.left with
    | [] => throw (.missingBehind p.before)
    | w :: rest =>
      set { before := w, left := rest : Progress }
      match String.ofList w, rest with
      | "(", _ =>
        let value ← level needed levels n
        match ← next? [")"] with
        | some _ => return value
        | none =>
          match (← get).left with
          | [] => throw (.notClosed (← get).before)
          | w :: _ => throw (.notClosed w)
      | ")", _ => throw .closing
      | "+", v :: rest =>
        set { before := v, left := rest : Progress }
        return v
      | "+", [] => throw (.missingBehind w)
      | text, _ =>
        match functions.lookup text with
        | none => return w
        | some count =>
          let values ← arguments needed count n
          if needed then (call text values : Except Fault _) else return []

/-- The values of a function. -/
def arguments (needed : Bool) : Nat → Nat → Reading (List (List Char))
  | 0, _ => return []
  | _, 0 => return []
  | count + 1, n + 1 => do
    let v ← level needed [] n
    return v :: (← arguments needed count n)
termination_by structural _ n => n

end

/-- The value of an expression. -/
def evaluate (ws : List (List Char)) : Except Fault (List Char) := do
  let (value, p) ← (level true levels (16 * ws.length + 64)).run { left := ws }
  match p.left with
  | [] => return value
  | w :: _ => throw (.unexpected w)

end FlopCensus.Shell.Calculation

namespace FlopCensus.Shell.Program

/-- Writes the value of an expression. -/
def expr : Program := fun name ws => do
  let ws := if ws.head? == some ['-', '-'] then ws.drop 1 else ws
  if ws.isEmpty then misuse name "missing operand".toList 2
  else
    match Calculation.evaluate ws with
    | .error f => giveUp name f.message 2
    | .ok value =>
      say value
      return if Calculation.isNull value then 1 else 0

end FlopCensus.Shell.Program
