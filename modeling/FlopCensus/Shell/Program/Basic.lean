import FlopCensus.Shell.Program.Options

set_option autoImplicit false
set_option relaxedAutoImplicit false

/-!
# What programs have in common

Programs work on the streams and files of a `Machine`. They write what is wrong into the error
stream, under their name, and answer with a status.

## Main definitions

* `FlopCensus.Shell.Program`: a program; it gets its name and arguments and answers its status.
* `FlopCensus.Shell.Program.withOptions`: a program with options.
* `FlopCensus.Shell.Program.inputs`: the inputs that a program is to work on.
-/

namespace FlopCensus.Shell

/-- A program. -/
abbrev Program := List Char → List (List Char) → Run Nat

namespace Program

/-! ### Messages and arguments -/

/-- A message of a program. -/
def tell (name : List Char) (text : List Char) : Run Unit :=
  protest (name ++ ": ".toList ++ text)

/-- A text in curly quotes. -/
def curly (s : List Char) : List Char :=
  Text.octets "‘" ++ s ++ Text.octets "’"

/-- A text in straight quotes. -/
def quoted (s : List Char) : List Char :=
  Options.quoted s

/-- A file name, in quotes if it has characters with a meaning in scripts. -/
def shownName (s : List Char) : List Char :=
  if s.isEmpty || s.any " \t\n'\"\\$&|;<>()*?[]!#~`=".toList.contains then quoted s else s

/-- Where help is found. -/
def hint (name : List Char) : Run Unit :=
  protest ("Try '".toList ++ name ++ " --help' for more information.".toList)

/-- A complaint about the arguments, and the status. -/
def misuse (name : List Char) (text : List Char) (status : Nat := 1) : Run Nat := do
  tell name text
  hint name
  return status

/-- A complaint, and the status. -/
def giveUp (name : List Char) (text : List Char) (status : Nat := 1) : Run Nat := do
  tell name text
  return status

/-- Arguments are missing. -/
def noOperand (name : List Char) : Run Nat :=
  misuse name "missing operand".toList

/-- There is an argument too many. -/
def extraOperand (name w : List Char) : Run Nat :=
  misuse name ("extra operand ".toList ++ curly w)

/-- Something is missing behind an operand. -/
def noOperandAfter (name w : List Char) : Run Nat :=
  misuse name ("missing operand after ".toList ++ curly w)

/-- A program with options. -/
def withOptions (o : Options) (f : List Char → Arguments → Run Nat) : Program := fun name ws => do
  match o.read ws with
  | .ok a => f name a
  | .error text =>
    tell name text
    if let some usage := o.usage then protest usage.toList
    hint name
    return o.failure

/-! ### Input -/

/-- A cause in words. -/
def causeText (c : Files.Cause) : List Char :=
  c.text.toList

/-- The content of a file, or the input stream for `-`. -/
def contentOf (path : List Char) : Run (Except Files.Cause (List Char)) := do
  if path == ['-'] || path == "/dev/stdin".toList then return .ok (← readAll)
  match (← get).files.read (pathOf path) with
  | .ok bytes => return .ok (Text.octetsOfBytes bytes)
  | .error e => return .error e.cause

/-- The lines of a text without their ends. -/
def linesOf (s : List Char) : List (List Char) :=
  let parts := Text.splitOnChar '\n' s
  if parts.getLast? == some [] then parts.dropLast else parts

/-- Lines with their ends. -/
def cutLines (s : List Char) : List (List Char) :=
  let parts := Text.splitOnChar '\n' s
  (parts.dropLast.map (· ++ ['\n'])) ++ (parts.getLast?.filter (!·.isEmpty)).toList

/-- The inputs that are named, or the input stream, with a message for each that cannot be read. -/
def inputs (name : List Char) (operands : List (List Char))
    (message : List Char → Files.Cause → List Char) :
    Run (List (List Char × List Char) × Bool) := do
  let mut found := #[]
  let mut complete := true
  for path in if operands.isEmpty then [['-']] else operands do
    match ← contentOf path with
    | .ok s => found := found.push (path, s)
    | .error c =>
      tell name (message path c)
      complete := false
  return (found.toList, complete)

/-- The usual message for a file that cannot be read. -/
def plainMessage (path : List Char) (c : Files.Cause) : List Char :=
  shownName path ++ ": ".toList ++ causeText c

/-- The status of a program that did all or not. -/
def statusOf (complete : Bool) : Nat :=
  if complete then 0 else 1

/-- Works on each input as it is named. -/
def eachInput (name : List Char) (operands : List (List Char)) (f : List Char → Run Unit) :
    Run Nat := do
  let mut complete := true
  for path in if operands.isEmpty then [['-']] else operands do
    match ← contentOf path with
    | .ok s => f s
    | .error c =>
      tell name (plainMessage path c)
      complete := false
  return statusOf complete

/-! ### Text -/

/-- A text with blanks in front up to a width. -/
def alignRight (width : Nat) (s : List Char) : List Char :=
  List.replicate (width - s.length) ' ' ++ s

/-- A text with blanks behind it up to a width. -/
def alignLeft (width : Nat) (s : List Char) : List Char :=
  s ++ List.replicate (width - s.length) ' '

/-- The order of bytes. -/
def byteOrder (a b : List Char) : Bool :=
  decide (String.ofList a ≤ String.ofList b)

/-- The number of some digits. -/
def digits? (s : List Char) : Option Nat :=
  if !s.isEmpty && s.all (·.isDigit) then
    some (s.foldl (fun n c => 10 * n + (c.toNat - 48)) 0)
  else none

/-- The number that letters behind a number multiply it by. -/
def multiple? (s : List Char) : Option Nat :=
  match String.ofList s with
  | "" => some 1
  | "b" => some 512
  | "kB" | "KB" => some 1000
  | "k" | "K" | "KiB" => some 1024
  | "MB" => some 1000000
  | "m" | "M" | "MiB" => some 0x100000
  | "GB" => some 1000000000
  | "G" | "GiB" => some 0x40000000
  | "TB" => some 1000000000000
  | "T" | "TiB" => some 0x10000000000
  | _ => none

/-- A number with a letter for a multiple. -/
def size? (s : List Char) : Option Nat := do
  let ds := s.takeWhile (·.isDigit)
  return (← digits? ds) * (← multiple? (s.drop ds.length))

end Program

end FlopCensus.Shell
