import FlopCensus.Shell.Printf
import FlopCensus.Shell.Program.Basic

set_option autoImplicit false
set_option relaxedAutoImplicit false

/-!
# Sequences of numbers

The numbers of a sequence are decimals, and are added exactly. They are written with as many places
as the first one and the step have.

## Main definitions

* `FlopCensus.Shell.Decimal`: a decimal.
* `FlopCensus.Shell.Decimal.sequence`: decimals from one to another.
* `FlopCensus.Shell.Program.seq`: the program.
-/

namespace FlopCensus.Shell

/-- The number `value / 10 ^ places`. -/
structure Decimal where
  value : Int
  places : Nat
  /-- A sign is written in front of a zero. -/
  negative : Bool := false
  /-- Beyond all numbers. -/
  endless : Bool := false
deriving Repr, DecidableEq

namespace Decimal

/-- The number times a power of ten that has at least as many places. -/
def scaled (d : Decimal) (places : Nat) : Int :=
  d.value * Nat.pow 10 (places - d.places)

/-- An exponent behind its letter; without a letter it is zero. -/
def exponent? (s : List Char) : Option Int :=
  match s with
  | [] => some 0
  | e :: rest =>
    if e.toLower != 'e' then none
    else
      match rest with
      | '-' :: ds => (Program.digits? ds).map fun n => -Int.ofNat n
      | '+' :: ds => (Program.digits? ds).map Int.ofNat
      | ds => (Program.digits? ds).map Int.ofNat

/-- A number without a sign. -/
def unsigned? (s : List Char) : Option Decimal :=
  match s with
  | '0' :: 'x' :: ds | '0' :: 'X' :: ds =>
    match ds.mapM (Numeral.digitIn 16) with
    | some (n :: ns) => some { value := Numeral.valueOf 16 (n :: ns), places := 0 }
    | _ => none
  | s => do
    let whole := s.takeWhile (·.isDigit)
    let rest := s.drop whole.length
    let places := if rest.head? == some '.' then (rest.drop 1).takeWhile (·.isDigit) else []
    let rest := if rest.head? == some '.' then rest.drop (places.length + 1) else rest
    if whole.isEmpty && places.isEmpty then none
    let e ← exponent? rest
    let n : Nat := (whole ++ places).foldl (fun n c => 10 * n + (c.toNat - 48)) 0
    let shift := e - places.length
    if shift.natAbs > 5000 then none
    return if shift ≥ 0 then { value := n * Nat.pow 10 shift.toNat, places := 0 }
      else { value := n, places := shift.natAbs }

/-- A number from its text. -/
def read? (s : List Char) : Option Decimal :=
  let s := s.dropWhile fun c => c == ' ' || ('\t' ≤ c && c ≤ '\r')
  let (negative, s) := match s with
    | '-' :: rest => (true, rest)
    | '+' :: rest => (false, rest)
    | rest => (false, rest)
  let size? :=
    if ["inf", "infinity"].contains (String.ofList (s.map Char.toLower)) then
      some { value := 1, places := 0, endless := true }
    else unsigned? s
  size?.map fun d => { d with value := if negative then -d.value else d.value, negative }

/-- The text of a number with some places. -/
def write (places : Nat) (d : Decimal) : List Char :=
  let n := d.scaled places
  (if n < 0 || (n == 0 && d.negative) then ['-'] else []) ++ Printf.pointed places n.natAbs

/-- The numbers from the first to the last by a step. -/
def sequence (first step last : Decimal) : List Decimal :=
  let places := max (max first.places step.places) last.places
  let (a, s, b) := (first.scaled places, step.scaled places, last.scaled places)
  let count :=
    if s > 0 then (b - a) / s + 1 else if s < 0 then (a - b) / (-s) + 1 else 0
  (List.range count.toNat).map fun i =>
    { value := a + s * Int.ofNat i, places, negative := first.negative && i == 0 }

end Decimal

namespace Program

/-- A format for a number, cut at the conversion. -/
structure NumberFormat where
  front : List Char
  layout : Printf.Layout
  letter : Char
  back : List Char

/-- The text up to a percent sign that is no text itself, and what follows that sign. -/
def upToPercent : Nat → List Char → List Char × Option (List Char)
  | 0, s => (s, none)
  | _, [] => ([], none)
  | n + 1, '%' :: '%' :: rest =>
    let (front, behind) := upToPercent n rest
    ('%' :: front, behind)
  | _, '%' :: rest => ([], some rest)
  | n + 1, c :: rest =>
    let (front, behind) := upToPercent n rest
    (c :: front, behind)

/-- A format from its text. -/
def numberFormat (s : List Char) : Except (List Char) NumberFormat :=
  let about := fun (text : String) => .error ("format ".toList ++ curly s ++ text.toList)
  match upToPercent (s.length + 1) s with
  | (_, none) => about " has no % directive"
  | (front, some behind) =>
    let (layout, rest, _) := Printf.layout .program behind { arguments := [] }
    match rest with
    | [] => about " ends in %"
    | letter :: rest =>
      if !"aAeEfFgG".toList.contains letter then
        about (" has unknown %" ++ letter.toString ++ " directive")
      else
        match upToPercent (rest.length + 1) rest with
        | (back, none) => .ok { front, layout, letter, back }
        | _ => about " has too many % directives"

/-- Text that is a negative number and no option. -/
def isNegative (w : List Char) : Bool :=
  match w with
  | '-' :: c :: _ => c.isDigit || c == '.'
  | _ => false

/-- Writes a sequence of numbers. -/
def seq : Program := fun name ws => do
  -- a negative number ends the options
  let options := ws.takeWhile fun w => !isNegative w
  let ws := if options.contains ['-', '-'] then ws
    else options ++ (if options.length < ws.length then [['-', '-']] else []) ++
      ws.drop options.length
  withOptions
    { letters := "wf:s:", inOrder := true
      names := [("equal-width", "w"), ("format", "f"), ("separator", "s")] }
    (fun name a => do
      let a := { a with operands := a.operands.erase ['-', '-'] }
      let isNaN := fun (w : List Char) =>
        ["nan", "-nan", "+nan"].contains (String.ofList (w.map Char.toLower))
      let bad := a.operands.find? fun w => (Decimal.read? w).isNone
      match bad, a.operands, a.operands.filterMap Decimal.read? with
      | _, [], _ => noOperand name
      | _, _ :: _ :: _ :: w :: _, _ => extraOperand name w
      | some w, _, _ =>
        if isNaN w then
          misuse name ("invalid ".toList ++ curly "not-a-number".toList ++ " argument: ".toList ++
            curly w)
        else misuse name ("invalid floating point argument: ".toList ++ curly w)
      | none, texts, ds =>
        let one : Decimal := { value := 1, places := 0 }
        let (first, step, last) := match ds with
          | [last] => (one, one, last)
          | [first, last] => (first, one, last)
          | first :: step :: last :: _ => (first, step, last)
          | [] => (one, one, one)
        if step.value == 0 then
          misuse name ("invalid Zero increment value: ".toList ++
            curly ((texts[1]?).getD []))
        else if a.has "w" && a.has "f" then
          misuse name ("format string may not be specified when printing equal width " ++
            "strings").toList
        else
          let places := max first.places step.places
          match (a.value? "f").mapM numberFormat with
          | .error text => giveUp name text
          | .ok format =>
            let numbers := if last.endless || first.endless then [] else
              first.sequence step last
            let shown := fun (d : Decimal) =>
              match format with
              | some f =>
                let x := Numeral.nearest d.value.natAbs (-(d.places : Int))
                f.front ++ f.layout.writeReal f.letter (if d.value < 0 then -x else x) ++ f.back
              | none => ({ d with value := d.value / Nat.pow 10 (d.places - min d.places places),
                                  places := min d.places places }).write places
            let width := max (first.write places).length
              (({ last with value := last.scaled places, places }).write places).length
            let padded := fun (s : List Char) =>
              if !a.has "w" then s
              else
                let sign := s.takeWhile (· == '-')
                sign ++ List.replicate (width - s.length) '0' ++ s.drop sign.length
            let texts := numbers.map fun d => padded (shown d)
            let separator := (a.value? "s").getD ['\n']
            if !texts.isEmpty then write 1 (separator.intercalate texts ++ ['\n'])
            if last.endless && last.value > 0 && step.value > 0 then throw .endless
            return 0) name ws

end Program

end FlopCensus.Shell
