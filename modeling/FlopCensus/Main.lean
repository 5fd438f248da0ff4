import FlopCensus.CommandLine.Run
import FlopCensus.Shell.Installation

set_option autoImplicit false
set_option relaxedAutoImplicit false

/-!
# The program

Reads the surroundings once, runs on them, and writes what there is to say. The surroundings are the
files below the working directory, those that arguments name, the settings in the home directory and
the variables that matter. Commands are scripts among these files.

## Main definitions

* `FlopCensus.Surroundings.fileAt`: what is found at a path.
* `FlopCensus.Surroundings.host`: the surroundings of a run.
* `main`: the program.
-/

namespace FlopCensus.Surroundings

/-- The greatest depth of directories that are read. -/
def depth : Nat := 24

/-- What is found at a path without links above its last component; what cannot be read is left
out. A script counts as a file that can be run. -/
def fileAt : Nat → String → IO (Option File)
  | 0, _ => return none
  | n + 1, path => do
    let place ← IO.FS.realPath path
    if place.toString != path then return some (.link place.toString)
    match (← place.metadata).type with
    | .dir =>
      let mut entries := []
      for e in ← place.readDir do
        let found ← try fileAt n e.path.toString catch _ => pure none
        if let some f := found then entries := entries ++ [(e.fileName, f)]
      return some (.directory true entries)
    | .file =>
      let content := (← IO.FS.readBinFile place).toList
      return some (.regular content (content.take 2 == Text.utf8Bytes "#!"))
    | _ => return none

/-- The file system with what is found at a path. -/
def read (files : FileSystem) (path : String) : IO FileSystem := do
  try
    let place := (← IO.FS.realPath path).toString
    match ← fileAt depth place with
    | some f => return files.put place f
    | none => return files
  catch _ => return files

/-- The variables that matter. -/
def variableNames : List String :=
  ["HOME", "PATH", Settings.toolVariable, Settings.levelVariable]

/-- The surroundings of a run with some arguments. -/
def host (arguments : List String) : IO Host := do
  let here := (← IO.currentDir).toString
  let values ← variableNames.filterMapM fun name => do
    return (← IO.getEnv name).map (name, ·)
  let start : FileSystem := {
    root := .directory true []
    working := (Files.components here).reverse }
  let home := (values.lookup "HOME").getD "/root"
  let mut files ← read start here
  for path in Files.join home Settings.fileName :: arguments do
    if !files.holds path then files ← read files path
  return { files := Shell.installed files, environment := values }

/-- A record as a line. -/
def line (r : Log.Record) : String :=
  r.level.name ++ " - " ++ r.message

end FlopCensus.Surroundings

open FlopCensus in
/-- The program. -/
def main (arguments : List String) : IO UInt32 := do
  let outcome := (CommandLine.run (← Surroundings.host arguments) arguments).outcome
  for r in outcome.log do IO.eprintln (Surroundings.line r)
  match outcome.value with
  | .error crash =>
    IO.eprintln crash.message
    return 1
  | .ok ending =>
    IO.print ending.stdout
    IO.eprint ending.stderr
    match ending.exit with
    | .status n => return n.toUInt32
    | .message text =>
      IO.eprintln text
      return 1
