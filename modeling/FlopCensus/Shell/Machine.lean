import FlopCensus.Files.Edit
import FlopCensus.Numeral.Integer
import FlopCensus.Shell.Syntax
import FlopCensus.Text.Octets

set_option autoImplicit false
set_option relaxedAutoImplicit false

/-!
# What commands act on

Commands run one after the other, each until it ends, and time passes only while one of them
sleeps. What they write into a stream is kept until it is read. Texts are byte sequences throughout,
a character standing for a byte.

## Main definitions

* `FlopCensus.Shell.Machine`: files, streams, the time that has passed, and the state of the shell.
* `FlopCensus.Shell.Run`: a step of a run.
* `FlopCensus.Shell.write`, `FlopCensus.Shell.readAll`, `FlopCensus.Shell.nextLine`: streams.
-/

namespace FlopCensus.Shell

/-- The other end of a stream. -/
inductive StreamEnd where
  /-- Written text is kept. -/
  | sink (n : Nat)
  /-- Text can be read, that of a file or of another command. -/
  | source (n : Nat) (ofFile : Bool := false)
  /-- Written text is put at the end of a file. -/
  | file (path : String)
  /-- Written text is lost, and there is none to read. -/
  | nothing
deriving Repr, DecidableEq

/-- A variable. -/
structure Variable where
  value : List Char
  /-- Programs that are run get the variable. -/
  exported : Bool := false
  /-- The value cannot change. -/
  constant : Bool := false

/-- The state of a shell. -/
structure State where
  /-- The name by which the shell was called. -/
  name : List Char := []
  arguments : List (List Char) := []
  bindings : List (String × Variable) := []
  functions : List (String × Command) := []
  ends : List (Nat × StreamEnd) := []
  /-- The status of the last command. -/
  status : Nat := 0
  /-- The line of the command that is being run. -/
  line : Nat := 1
  /-- The number of functions that are being run. -/
  depth : Nat := 0
  /-- The number of loops that are being run. -/
  loops : Nat := 0
  /-- The options that are set, by their letters. -/
  options : List Char := []
  /-- A failure of the command that is being run has no consequence. -/
  checked : Bool := false
  /-- The scripts for signals, those for the end of the shell having the name `EXIT`. -/
  traps : List (String × List Char) := []
  /-- The working directory as it was reached. -/
  directory : String := "/"
  /-- The variables that functions have taken for themselves, as they were before. -/
  saved : List (String × Option Variable) := []

/-- Everything that commands act on. -/
structure Machine where
  files : FileSystem
  /-- What was written into the streams, the last character first. -/
  sinks : Array (List Char) := #[]
  /-- What can still be read from the streams. -/
  sources : Array (List Char) := #[]
  /-- The time that has passed, in microseconds. -/
  elapsed : Nat := 0
  /-- The time until which commands run that nobody waits for. -/
  horizon : Nat := 0
  /-- The time at which everything ends. -/
  deadline : Option Nat := none
  shell : State := {}

/-- What ends a command early. -/
inductive Stop where
  /-- The shell ends with a status. -/
  | exit (status : Nat)
  /-- The shell is ended by a signal. -/
  | signal (number : Nat)
  /-- Some loops end. -/
  | leave (levels : Nat)
  /-- Some loops but the last end, which goes on with its next round. -/
  | next (levels : Nat)
  /-- The function ends. -/
  | back
  /-- No end is reached. -/
  | endless
deriving Repr, DecidableEq

/-- A step of a run. -/
abbrev Run := ExceptT Stop (StateM Machine)

/-- A part of the shell's state. -/
def ask {α : Type} (f : State → α) : Run α :=
  return f (← get).shell

/-- Changes the shell's state. -/
def alter (f : State → State) : Run Unit :=
  modify fun m => { m with shell := f m.shell }

/-- The entries with one of them set. -/
def setKey {κ α : Type} [DecidableEq κ] (key : κ) (a : α) : List (κ × α) → List (κ × α)
  | [] => [(key, a)]
  | (k, b) :: rest => if k = key then (k, a) :: rest else (k, b) :: setKey key a rest

/-! ### Streams -/

/-- A new stream that keeps what is written. -/
def newSink : Run Nat := do
  let m ← get
  set { m with sinks := m.sinks.push [] }
  return m.sinks.size

/-- A new stream with some text to read. -/
def newSource (text : List Char) : Run Nat := do
  let m ← get
  set { m with sources := m.sources.push text }
  return m.sources.size

/-- What was written into a stream. -/
def written (n : Nat) : Run (List Char) :=
  return ((← get).sinks[n]?.getD []).reverse

/-- The file with some text at its end. -/
def appendTo (fs : FileSystem) (path : String) (text : List Char) : FileSystem :=
  let bytes := Text.bytesOfOctets text
  match fs.find path with
  | .ok (.regular old executable) => fs.put path (.regular (old ++ bytes) executable)
  | _ => fs.put path (.regular bytes false)

/-- Writes text into a stream. -/
def write (stream : Nat) (text : List Char) : Run Unit := do
  match (← ask (·.ends)).lookup stream with
  | some (.sink n) => modify fun m => { m with sinks := m.sinks.modify n (text.reverse ++ ·) }
  | some (.file path) => modify fun m => { m with files := appendTo m.files path text }
  | _ => return

/-- Writes a line into the output stream. -/
def say (text : List Char) : Run Unit :=
  write 1 (text ++ ['\n'])

/-- Writes a line into the error stream. -/
def protest (text : List Char) : Run Unit :=
  write 2 (text ++ ['\n'])

/-- Writes a line of the shell itself into the error stream. -/
def complain (text : List Char) : Run Unit := do
  let s ← ask id
  protest (s.name ++ ": ".toList ++ Numeral.decimal s.line ++ ": ".toList ++ text)

/-- Reads a part of the input stream; `f` tells it from what is left. -/
def readBy (f : List Char → List Char × List Char) : Run (List Char) := do
  match (← ask (·.ends)).lookup 0 with
  | some (.source n _) =>
    let m ← get
    let (front, rest) := f (m.sources[n]?.getD [])
    set { m with sources := m.sources.modify n fun _ => rest }
    return front
  | _ => return []

/-- Gives text back to the input stream. -/
def unread (text : List Char) : Run Unit := do
  if let some (.source n _) := (← ask (·.ends)).lookup 0 then
    modify fun m => { m with sources := m.sources.modify n (text ++ ·) }

/-- The input stream is that of a file. -/
def readsFile : Run Bool := do
  match (← ask (·.ends)).lookup 0 with
  | some (.source _ ofFile) => return ofFile
  | _ => return false

/-- The stream that a name for a stream stands for. -/
def streamOf? (path : String) : Option Nat :=
  match path with
  | "/dev/stdin" | "/dev/fd/0" => some 0
  | "/dev/stdout" | "/dev/fd/1" => some 1
  | "/dev/stderr" | "/dev/fd/2" => some 2
  | _ => none

/-- Reads the input stream to its end. -/
def readAll : Run (List Char) :=
  readBy fun s => (s, [])

/-- Reads a line of the input stream with its end. -/
def nextLine : Run (List Char) :=
  readBy fun s =>
    let line := s.takeWhile (· != '\n')
    (s.take (line.length + 1), s.drop (line.length + 1))

/-- Lets time pass. -/
def pass (microseconds : Nat) : Run Unit := do
  let m ← get
  let elapsed := m.elapsed + microseconds
  if m.deadline.any (· ≤ elapsed) then throw .endless
  set { m with elapsed }

/-! ### Variables -/

/-- The value of a variable. -/
def value? (name : String) : Run (Option (List Char)) :=
  return ((← ask (·.bindings)).lookup name).map (·.value)

/-- The value of a variable, an unset one being empty. -/
def valueOf (name : String) : Run (List Char) :=
  return (← value? name).getD []

/-- The characters at which values are split. -/
def separators : Run (List Char) :=
  return (← value? "IFS").getD [' ', '\t', '\n']

/-- Ends the shell with a message. -/
def fail {α : Type} (text : List Char) : Run α := do
  complain text
  throw (.exit 2)

/-- Sets a variable. -/
def assign (name : String) (value : List Char) : Run Unit := do
  let old := ((← ask (·.bindings)).lookup name).getD { value := [] }
  if old.constant then fail (name.toList ++ ": is read only".toList)
  let exported := old.exported || (← ask (·.options)).contains 'a'
  alter fun s => { s with bindings := setKey name { old with value, exported } s.bindings }

/-- The variables that programs get. -/
def environment (s : State) : List (String × List Char) :=
  (s.bindings.filter (·.2.exported)).map fun (n, v) => (n, v.value)

/-- The text of a file name. -/
def pathOf (s : List Char) : String :=
  Text.ofOctets s

/-- The number by which the shell is known as a process. -/
def processNumber : Nat := 4242

end FlopCensus.Shell
