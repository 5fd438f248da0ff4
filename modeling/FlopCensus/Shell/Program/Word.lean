import FlopCensus.Shell.Condition
import FlopCensus.Shell.Printf
import FlopCensus.Shell.Program.Basic

set_option autoImplicit false
set_option relaxedAutoImplicit false

/-!
# Words

The programs that work on their arguments alone.

## Main definitions

* `FlopCensus.Shell.Program.basename`, `FlopCensus.Shell.Program.dirname`: the parts of paths.
* `FlopCensus.Shell.Program.echo`, `FlopCensus.Shell.Program.printf`: output.
* `FlopCensus.Shell.Program.test`: conditions.
* `FlopCensus.Shell.Program.sleep`, `FlopCensus.Shell.Program.yes`: time.
* `FlopCensus.Shell.Program.printenv`, `FlopCensus.Shell.Program.uname`,
  `FlopCensus.Shell.Program.whoRuns`: the surroundings.
-/

namespace FlopCensus.Shell.Program

/-! ### Paths -/

/-- A path without slashes at its end. -/
def dropSlashes (s : List Char) : List Char :=
  (s.reverse.dropWhile (· == '/')).reverse

/-- The last component of a path without an ending. -/
def baseOf (path ending : List Char) : List Char :=
  let body := dropSlashes path
  let base := (body.reverse.takeWhile (· != '/')).reverse
  let base := if body.isEmpty && !path.isEmpty then ['/'] else base
  if ending.isSuffixOf base && ending != base then base.take (base.length - ending.length)
  else base

/-- Writes the last component of paths. -/
def basename : Program := withOptions
    { letters := "as:z", inOrder := true
      names := [("multiple", "a"), ("suffix", "s"), ("zero", "z")] } fun name a => do
  let ending := if a.has "z" then ['\x00'] else ['\n']
  match a.operands with
  | [] => noOperand name
  | path :: rest =>
    if a.has "a" || a.has "s" then
      for p in path :: rest do write 1 (baseOf p ((a.value? "s").getD []) ++ ending)
      return 0
    else
      match rest with
      | _ :: w :: _ => extraOperand name w
      | rest =>
        write 1 (baseOf path (rest.head?.getD []) ++ ending)
        return 0

/-- Writes paths without their last component. -/
def dirname : Program := withOptions { letters := "z", names := [("zero", "z")] } fun name a => do
  if a.operands.isEmpty then noOperand name
  else
    for path in a.operands do
      let body := dropSlashes path
      let above := body.reverse.dropWhile (· != '/') |>.reverse
      say (if above.isEmpty then (if body.isEmpty && !path.isEmpty then ['/'] else ['.'])
        else if (dropSlashes above).isEmpty then ['/'] else dropSlashes above)
    return 0

/-! ### Time -/

/-- A time in microseconds: a decimal number, perhaps with the letter of a unit. -/
def duration? (s : List Char) : Option Nat :=
  let (body, unit) := match s.getLast? with
    | some 's' => (s.dropLast, 1)
    | some 'm' => (s.dropLast, 60)
    | some 'h' => (s.dropLast, 3600)
    | some 'd' => (s.dropLast, 86400)
    | _ => (s, 1)
  let whole := body.takeWhile (·.isDigit)
  let value := fun (places : List Char) =>
    some (unit * Numeral.valueOf 10 ((whole ++ (places ++ List.replicate 6 '0').take 6).filterMap
      (Numeral.digitIn 10)))
  match body.drop whole.length with
  | [] => if whole.isEmpty then none else value []
  | '.' :: places =>
    if places.all (·.isDigit) && !(whole.isEmpty && places.isEmpty) then value places else none
  | _ => none

/-- Lets time pass. -/
def sleep : Program := withOptions {} fun name a => do
  if a.operands.isEmpty then noOperand name
  else
    let isEndless := fun (w : List Char) => ["inf", "infinity"].contains (String.ofList w)
    let bad := a.operands.filter fun w => (duration? w).isNone && !isEndless w
    for w in bad do tell name ("invalid time interval ".toList ++ curly w)
    if !bad.isEmpty then
      hint name
      return 1
    if a.operands.any isEndless then throw .endless
    pass ((a.operands.filterMap duration?).foldl (· + ·) 0)
    return 0

/-- Writes a line for ever. -/
def yes : Program := fun _ ws => do
  let ws := if ws.head? == some ['-', '-'] then ws.drop 1 else ws
  let line := [' '].intercalate (if ws.isEmpty then [['y']] else ws) ++ ['\n']
  write 1 (List.replicate 100000 line).flatten
  throw .endless

/-! ### Output -/

/-- Writes words. -/
def echo : Program := fun _ ws => do
  write 1 (Printf.echo .program ws)
  return 0

/-- Writes a format with arguments. -/
def printf : Program := fun name ws => do
  match if ws.head? == some ['-', '-'] then ws.drop 1 else ws with
  | [] => noOperand name
  | format :: arguments =>
    let (text, faults) := Printf.print .program format arguments
    for f in faults do tell name (f.message .program)
    write 1 text
    if faults.isEmpty then
      if !format.contains '%' then
        if let some w := arguments.head? then
          tell name ("warning: ignoring excess arguments, starting with ".toList ++ curly w)
      return 0
    else return 1

/-! ### Conditions and surroundings -/

/-- Decides a condition. -/
def test : Program := fun name ws => do
  let bracketed := (name.reverse.takeWhile (· != '/')) == ['[']
  if bracketed && ws.getLast? != some [']'] then
    return ← giveUp name ("missing ".toList ++ curly [']']) 2
  match Condition.holds (← get).files (if bracketed then ws.dropLast else ws) with
  | .ok true => return 0
  | .ok false => return 1
  | .error text =>
    let mark := "Illegal number: ".toList
    giveUp name (
      if mark.isPrefixOf text then "invalid integer ".toList ++ curly (text.drop mark.length)
      else text) 2

/-- Writes variables. -/
def printenv : Program := withOptions { letters := "0", inOrder := true, failure := 2 }
    fun _ a => do
  let bindings := environment (← ask id)
  if a.operands.isEmpty then
    for (n, v) in bindings do say (n.toList ++ '=' :: v)
    return 0
  let mut complete := true
  for w in a.operands do
    match bindings.lookup (String.ofList w) with
    | some v => say v
    | none => complete := false
  return statusOf complete

/-- Writes where the programs of some names are. -/
def which : Program := withOptions { letters := "as" } fun _ a => do
  let files := (← get).files
  let path := ((environment (← ask id)).lookup "PATH").getD []
  let mut complete := true
  for w in a.operands do
    let candidates :=
      if w.contains '/' then [w]
      else (Text.splitOnChar ':' path).map fun d => d ++ '/' :: w
    match candidates.filter fun p => files.isExecutable (pathOf p) with
    | [] => complete := false
    | found => for p in if a.has "a" then found else found.take 1 do say p
  return statusOf (complete && !a.operands.isEmpty)

/-- The name of the system and of its parts. -/
def uname : Program := withOptions
    { letters := "asnrvmpio"
      names := [("all", "a"), ("kernel-name", "s"), ("machine", "m"),
        ("operating-system", "o")] } fun name a => do
  match a.operands with
  | w :: _ => extraOperand name w
  | [] =>
    let parts := [("s", "Linux"), ("m", "x86_64"), ("o", "GNU/Linux")]
    let shown := parts.filter fun (o, _) =>
      a.has o || a.has "a" || (o == "s" && a.given.isEmpty)
    say ([' '].intercalate (shown.map fun (_, text) => text.toList))
    return 0

/-- Writes who runs the program. -/
def whoRuns : Program := withOptions
    { letters := "ugGnr"
      names := [("user", "u"), ("group", "g"), ("groups", "G"), ("name", "n"), ("real", "r")] }
    fun _ a => do
  let one := a.has "u" || a.has "g" || a.has "G"
  say (if !one then "uid=0(root) gid=0(root) groups=0(root)".toList
    else if a.has "n" then "root".toList else ['0'])
  return 0

end FlopCensus.Shell.Program
