import FlopCensus.Command.Call
import FlopCensus.Host
import FlopCensus.Log
import FlopCensus.Shell.Run
import FlopCensus.Text.Lines
import FlopCensus.Tool.Output

set_option autoImplicit false
set_option relaxedAutoImplicit false

/-!
# Running commands

A command runs in its directory with an empty input stream. What it writes is read as UTF-8, with
U+FFFD for what is not, and with plain line ends.

What the command itself does is left to `FlopCensus.Shell.perform`, which knows scripts and a few
programs. Here it is only started, at the first of its paths where that can be done, and its streams
and its end are looked at.

## Main definitions

* `FlopCensus.Host.run`: the output of a command, and the host as the command leaves it.
-/

namespace FlopCensus

open Command

namespace Command

/-- The greatest number of tasks inside each other. -/
def nesting : Nat := 5000

/-- The time that a command takes at the least, in microseconds. -/
def leastTime : Nat := 1000

/-- The text of what a command wrote. -/
def outputText (s : List Char) : String :=
  String.ofList (Text.unifyNewlines (Text.decodeLossy (Text.bytesOfOctets s)))

/-- The error for a file that cannot be run or a directory that cannot be entered. -/
def errorOf (command path : String) (c : Files.Cause) : Error :=
  match c with
  | .notFound => .notFound command
  | .denied => .denied command
  | c => .file ⟨c, path⟩

/-- What runs a command: nothing but its own streams is open. -/
def machineFor (h : Host) (deadline : Nat) : Shell.Machine where
  files := h.files
  sinks := #[[], []]
  elapsed := leastTime
  deadline := some deadline
  shell := {
    ends := [(0, .nothing), (1, .sink 0), (2, .sink 1)]
    bindings := h.environment.reverse.foldl (fun vs (name, value) =>
      Shell.setKey name { value := Text.octets value, exported := true } vs) [] }

/-- Tries the paths of a command one after the other. The first failure counts that is not due to a
missing file, or else the last one. -/
def tryAll (words : List (List Char)) (kept : Option Files.Cause) (last : Files.Cause) :
    List String → Shell.Run Shell.Outcome
  | [] => return .failed (kept.getD last)
  | path :: rest => do
    match ← Shell.perform nesting (.program path words) with
    | .failed c =>
      let passed := c == .notFound || c == .notDirectory
      tryAll words (if passed then kept else kept <|> some c) c rest
    | outcome => return outcome

end Command

namespace Host

/-- The paths that a command may have. -/
def pathsOf (h : Host) (command : String) : List String :=
  if Files.hasDirectory command then [command] else h.searchPath.map (Files.join · command)

/-- The host with its working directory changed for a call. -/
def enter (h : Host) (directory : Option String) : Except Files.Error Host :=
  match directory with
  | none => .ok h
  | some path =>
    match h.files.locate path with
    | .error c => .error ⟨c, path⟩
    | .ok place =>
      if h.files.isDirectory path then .ok { h with files := { h.files with working := place } }
      else .error ⟨.notDirectory, path⟩

/-- What a call has for an outcome, and the host afterwards. -/
def outcome (h : Host) (c : Call) (limit : Numeral.Number) : Except Error ToolOutput × Host :=
  let texts := c.command :: c.arguments ++ c.directory.toList
  if texts.any (·.toList.contains '\x00') then (.error (.file ⟨.nullByte, c.command⟩), h)
  else
    match h.enter c.directory with
    | .error e => (.error (errorOf c.command e.path e.cause), h)
    | .ok inside =>
      let deadline := Command.deadline limit
      let words := (c.command :: c.arguments).map Text.octets
      let start := machineFor inside (deadline.toOption.getD leastTime)
      let (result, m) := (tryAll words none .notFound (inside.pathsOf c.command)).run.run start
      let after := { h with files := m.files.backTo h.files }
      let late : Except Error ToolOutput :=
        match deadline with
        | .error e => .error (.limit e)
        | .ok _ => .error (.timedOut (limit.write.toOption.getD "") c.command)
      -- a call that ends with its deadline is late
      let finished := fun (code : Int) =>
        if (deadline.toOption.getD 0) ≤ max m.elapsed m.horizon then late
        else
          .ok {
            exitCode := code
            stdout := outputText ((m.sinks[0]?.getD []).reverse)
            stderr := outputText ((m.sinks[1]?.getD []).reverse) }
      match result with
      -- nothing was run, and the host is as before
      | .ok (.failed cause) => (.error (errorOf c.command c.command cause), h)
      | .ok (.status n) => (finished n, after)
      | .ok (.signal n) => (finished (-n), after)
      | .error _ => (late, after)

/-- Runs a command. The output is that of a process of its own; a status other than zero is no
error. -/
def run (h : Host) (c : Call) (usual : Numeral.Number) :
    Logged (Except Error ToolOutput × Host) := do
  Logged.tell .info .command ("Executing: " ++ " ".intercalate (c.command :: c.arguments))
  let (result, h) := h.outcome c (c.limit.getD usual)
  if let .ok o := result then
    Logged.tell .debug .command
      (c.command ++ " finished in 0.000s with exit code " ++ Numeral.intText o.exitCode)
  return (result, h)

end Host

end FlopCensus
