import FlopCensus.Shell.Condition
import FlopCensus.Shell.Parser
import FlopCensus.Shell.Printf
import FlopCensus.Shell.Signal

set_option autoImplicit false
set_option relaxedAutoImplicit false

/-!
# Commands of the shell itself

## Main definitions

* `FlopCensus.Shell.Builtin`: such a command; it gets its arguments and answers its status.
* `FlopCensus.Shell.builtins`: those that run no further command.
* `FlopCensus.Shell.raise`: a signal to the shell.
-/

namespace FlopCensus.Shell

/-- A command of the shell. -/
abbrev Builtin := List (List Char) → Run Nat

/-- A message of a command of the shell; the command fails. -/
def refuse (command : String) (text : List Char) : Run Nat := do
  complain (command.toList ++ ": ".toList ++ text)
  return 2

/-- A message of a command of the shell that ends the shell. -/
def refuseAndEnd {α : Type} (command : String) (text : List Char) : Run α := do
  let status ← refuse command text
  throw (.exit status)

/-- A whole number without a sign. -/
def count? (s : List Char) : Option Nat :=
  if !s.isEmpty && s.all (·.isDigit) then
    some (s.foldl (fun n c => 10 * n + (c.toNat - 48)) 0)
  else none

/-- A count that an argument gives. -/
def countOf (command : String) (s : List Char) : Run Nat := do
  match count? s with
  | some n => return n
  | none => refuseAndEnd command ("Illegal number: ".toList ++ s)

/-- The name and the value in an argument such as `name=value`. -/
def definition (s : List Char) : List Char × Option (List Char) :=
  let name := s.takeWhile (· != '=')
  (name, if name.length < s.length then some (s.drop (name.length + 1)) else none)

/-! ### Output and conditions -/

/-- Writes words. -/
def echo : Builtin := fun ws => do
  write 1 (Printf.echo .shell ws)
  return 0

/-- Writes a format with arguments. -/
def printf : Builtin := fun ws => do
  match if ws.head? == some ['-', '-'] then ws.drop 1 else ws with
  | [] => refuse "printf" "usage: printf format [arg ...]".toList
  | format :: arguments =>
    if format.head? == some '-' && format.length > 1 && ws.head? == some format then
      refuse "printf" ("Illegal option ".toList ++ format.take 2)
    else
      let (text, faults) := Printf.print .shell format arguments
      for f in faults do complain ("printf: ".toList ++ f.message .shell)
      write 1 text
      return match faults.getLast? with
        | some (.badDirective _) => 2
        | some _ => 1
        | none => 0

/-- A condition. -/
def condition (command : String) (ws : List (List Char)) : Run Nat := do
  match Condition.holds (← get).files ws with
  | .ok true => return 0
  | .ok false => return 1
  | .error text => refuse command text

/-- A condition between brackets. -/
def bracket : Builtin := fun ws =>
  if ws.getLast? == some [']'] then condition "[" ws.dropLast
  else refuse "[" "missing ]".toList

/-! ### Directories -/

/-- Changes the working directory. -/
def changeDirectory : Builtin := fun ws => do
  let arguments := ws.filter fun w => !(["-L", "-P", "--"].contains (String.ofList w))
  let back := arguments.head? == some ['-']
  let target ← match arguments with
    | [] => valueOf "HOME"
    | w :: _ => if back then valueOf "OLDPWD" else pure w
  if target.isEmpty then return 0
  let old ← ask (·.directory)
  let path := Files.absolute old (pathOf target)
  let files := (← get).files
  match files.locate path with
  | .ok place =>
    if files.isDirectory path then
      modify fun m => { m with files := { m.files with working := place } }
      alter ({ · with directory := path })
      assign "OLDPWD" (Text.octets old)
      assign "PWD" (Text.octets path)
      if back then say (Text.octets path)
      return 0
    else refuse "cd" ("can't cd to ".toList ++ target)
  | .error _ => refuse "cd" ("can't cd to ".toList ++ target)

/-- Writes the working directory. -/
def workingDirectory : Builtin := fun ws => do
  let path ← if ws.contains ['-', 'P'] then pure (← get).files.workingPath else ask (·.directory)
  say (Text.octets path)
  return 0

/-! ### Variables and arguments -/

/-- Sets or takes away an option that has a letter. -/
def setOption (on : Bool) (c : Char) : Run Unit := do
  if "aefhnuvxCImE".toList.contains c then
    alter fun s =>
      let others := s.options.filter (· != c)
      { s with options := if on then c :: others else others }
  else refuseAndEnd "set" ("Illegal option ".toList ++ [if on then '-' else '+', c])

/-- The letters of the options that have names. -/
def optionNames : List (String × Char) :=
  [("errexit", 'e'), ("noglob", 'f'), ("nounset", 'u'), ("xtrace", 'x'), ("verbose", 'v'),
    ("allexport", 'a'), ("noclobber", 'C')]

/-- Sets options and arguments. -/
def setArguments : Builtin
  | [] => return 0
  | w :: ws => do
    match w with
    | ['-', '-'] =>
      alter ({ · with arguments := ws })
      return 0
    | [sign, 'o'] =>
      if sign != '-' && sign != '+' then
        alter ({ · with arguments := w :: ws })
        return 0
      match ws with
      | [] => return 0
      | name :: rest =>
        match optionNames.lookup (String.ofList name) with
        | some c =>
          setOption (sign == '-') c
          setArguments rest
        | none => refuseAndEnd "set" ("Illegal option ".toList ++ [sign, 'o', ' '] ++ name)
    | sign :: c :: cs =>
      if sign == '-' || sign == '+' then
        for c in c :: cs do setOption (sign == '-') c
        setArguments ws
      else
        alter ({ · with arguments := w :: ws })
        return 0
    | _ =>
      alter ({ · with arguments := w :: ws })
      return 0
termination_by ws => ws.length

/-- Takes the first arguments away. -/
def shift : Builtin := fun ws => do
  let n ← match ws with
    | [] => pure 1
    | w :: _ => countOf "shift" w
  if n > (← ask (·.arguments)).length then refuseAndEnd "shift" "can't shift that many".toList
  alter fun s => { s with arguments := s.arguments.drop n }
  return 0

/-- Changes what is known of variables, and sets those with a value. -/
def declare (command : String) (change : Variable → Variable) : Builtin := fun ws => do
  for w in ws.filter fun w => !(["-p", "--"].contains (String.ofList w)) do
    let (name, value) := definition w
    if !isName name then refuseAndEnd command (name ++ ": bad variable name".toList)
    let name := String.ofList name
    if let some v := value then assign name v
    let old := ((← ask (·.bindings)).lookup name).getD { value := [] }
    alter fun s => { s with bindings := setKey name (change old) s.bindings }
  return 0

/-- Takes variables or functions away. -/
def unset : Builtin := fun ws => do
  let functions := ws.contains ['-', 'f']
  for w in ws.filter (·.head? != some '-') do
    let name := String.ofList w
    alter fun s =>
      if functions then { s with functions := s.functions.filter (·.1 != name) }
      else { s with bindings := s.bindings.filter (·.1 != name) }
  return 0

/-- Takes variables for the function that is being run. -/
def takeLocal : Builtin := fun ws => do
  if (← ask (·.depth)) == 0 then refuseAndEnd "local" "not in a function".toList
  for w in ws do
    let (name, value) := definition w
    let name := String.ofList name
    alter fun s => { s with saved := (name, s.bindings.lookup name) :: s.saved }
    if let some v := value then assign name v
  return 0

/-- Gives the variables back that were taken since `count` of them were. -/
def giveBack (count : Nat) : Run Unit :=
  alter fun s =>
    let taken := s.saved.take (s.saved.length - count)
    { s with
      saved := s.saved.drop taken.length
      bindings := taken.foldl (fun vs (name, old) =>
        match old with
        | some v => setKey name v vs
        | none => vs.filter (·.1 != name)) s.bindings }

/-- A line in which a backslash protects the character behind it: the characters with a flag for the
protected ones, and whether the line has an end. -/
def protectedLine : Nat → List Char → Run (List (Char × Bool) × Bool)
  | _, [] => return ([], false)
  | _, ['\n'] => return ([], true)
  | n + 1, ['\\', '\n'] => do protectedLine n (← nextLine)
  | n, '\\' :: c :: rest => do
    let (more, ended) ← protectedLine n rest
    return ((c, true) :: more, ended)
  | n, c :: rest => do
    let (more, ended) ← protectedLine n rest
    return ((c, false) :: more, ended)
termination_by n s => (n, s.length)

/-- Reads a line into variables. -/
def read : Builtin := fun ws => do
  let raw := ws.contains ['-', 'r']
  let names := ws.filter (·.head? != some '-')
  let line ← nextLine
  let (chars, ended) ←
    if raw then
      pure ((line.filter (· != '\n')).map fun c => (c, false), line.getLast? == some '\n')
    else protectedLine 1000 line
  let ifs ← separators
  let isBlank := fun (c : Char × Bool) => !c.2 && ifs.contains c.1 && " \t\n".toList.contains c.1
  let isEnd := fun (c : Char × Bool) => !c.2 && ifs.contains c.1
  let mut rest := chars.dropWhile isBlank
  let mut left := names.length
  for name in names do
    left := left - 1
    let name := String.ofList name
    if left == 0 then
      assign name ((rest.reverse.dropWhile isBlank).reverse.map (·.1))
    else
      let field := rest.takeWhile fun c => !isEnd c
      let behind := (rest.drop field.length).dropWhile isBlank
      let behind := match behind with
        | c :: more => if isEnd c then more.dropWhile isBlank else behind
        | [] => []
      assign name (field.map (·.1))
      rest := behind
  return if ended then 0 else 1

/-! ### Signals -/

/-- Gives signals a script. -/
def trap : Builtin := fun ws => do
  match ws with
  | [] => return 0
  | [_] => return 0
  | script :: signals =>
    for s in signals do
      match trapName? s with
      | none =>
        complain ("trap: ".toList ++ s ++ ": bad trap".toList)
        throw (.exit 2)
      | some name =>
        alter fun st => { st with traps :=
          if script == ['-'] then st.traps.filter (·.1 != name) else setKey name script st.traps }
    return 0

/-- A signal to the shell. -/
def raise (script : List Char → Run Nat) (n : Nat) : Run Unit := do
  let name := (signalNames[n - 1]?).getD ""
  match (← ask (·.traps)).lookup name with
  | some text =>
    if n == 9 then throw (.signal n)
    if isStopping n then throw .endless
    if !text.isEmpty then
      let status ← ask (·.status)
      let _ ← script text
      alter ({ · with status })
  | none =>
    if isStopping n then throw .endless
    if !isHarmless n then throw (.signal n)

/-- The signal that the arguments name, and what is left of them. -/
def signalOf (ws : List (List Char)) : Except (List Char) (Nat × List (List Char)) :=
  match ws with
  | ['-', 's'] :: name :: rest =>
    match signalNumber? name with
    | some n => .ok (n, rest)
    | none => .error ("invalid signal number or name: ".toList ++ name)
  | ['-', '-'] :: rest => .ok (15, rest)
  | ('-' :: name) :: rest =>
    match signalNumber? name with
    | some n => .ok (n, rest)
    | none => .error ("Illegal option ".toList ++ ['-'] ++ name.take 1)
  | rest => .ok (15, rest)

/-- Sends a signal. -/
def kill (script : List Char → Run Nat) : Builtin := fun ws => do
  match ws with
  | [['-', 'l']] =>
    for name in "0" :: signalNames do say name.toList
    return 0
  | ['-', 'l'] :: w :: _ =>
    match count? w with
    | none => refuse "kill" ("Illegal number: ".toList ++ w)
    | some n =>
      let n := if n > 128 then n - 128 else n
      say ((signalNames[n - 1]?).getD (toString n)).toList
      return 0
  | _ =>
    match signalOf ws with
    | .error text => refuse "kill" text
    | .ok (_, []) =>
      refuse "kill" ("Usage: kill [-s sigspec | -signum | -sigspec] [pid | job]... or\n" ++
        "kill -l [exitstatus]").toList
    | .ok (n, targets) =>
      let mut status := 0
      for t in targets do
        match count? t with
        | none => status ← refuse "kill" ("Illegal number: ".toList ++ t)
        | some p =>
          if p == processNumber || p == 0 then raise script n
          else
            complain "kill: No such process\n".toList
            status := 1
      return status

/-- The commands of the shell that run no further command. -/
def builtins (script : List Char → Run Nat) : List (String × Builtin) := [
  ("echo", echo), ("printf", printf), ("test", condition "test"), ("[", bracket),
  (":", fun _ => return 0), ("true", fun _ => return 0), ("false", fun _ => return 1),
  ("cd", changeDirectory), ("chdir", changeDirectory), ("pwd", workingDirectory),
  ("set", setArguments), ("shift", shift),
  ("export", declare "export" ({ · with exported := true })),
  ("readonly", declare "readonly" ({ · with constant := true })),
  ("unset", unset), ("local", takeLocal), ("read", read), ("trap", trap), ("kill", kill script),
  ("umask", fun ws => do
    if ws.isEmpty then say "0022".toList
    return 0),
  ("wait", fun _ => return 0), ("hash", fun _ => return 0), ("jobs", fun _ => return 0),
  ("ulimit", fun _ => return 0), ("alias", fun _ => return 0), ("unalias", fun _ => return 0)]

/-- The commands whose failure ends the shell, and whose assignments last. -/
def specialNames : List String :=
  [":", ".", "break", "continue", "eval", "exec", "exit", "export", "readonly", "return", "set",
    "shift", "times", "trap", "unset"]

end FlopCensus.Shell
