import FlopCensus.Host
import FlopCensus.Inventory.Basic
import FlopCensus.Log

set_option autoImplicit false
set_option relaxedAutoImplicit false

/-!
# Looking commands up

A command is looked up in the directories of the search path, and then in further directories. A
name with a slash is not looked up but taken as a path.

## Main definitions

* `FlopCensus.Host.which`: the file of a command on the search path.
* `FlopCensus.Host.findCommand`: the same with further directories.
-/

namespace FlopCensus

namespace Host

/-- The file of a command on the search path. -/
def which (h : Host) (command : String) : Option String :=
  if Files.hasDirectory command then
    if h.files.isExecutable command then some command else none
  else if h.lookup? "PATH" == some "" then none
  else
    ((Inventory.distinct h.searchPath).map (Files.join · command)).find? h.files.isExecutable

/-- The file of a command on the search path or in one of the further directories. -/
def findCommand (h : Host) (command : String) (directories : List String) :
    Logged (Option String) :=
  match h.which command with
  | some found => return some found
  | none =>
    let candidates := directories.map fun d => Files.join (h.expandHome d) command
    match candidates.find? h.files.isExecutable with
    | none => return none
    | some found => do
      Logged.tell .info .command ("Found " ++ command ++ " at: " ++ found)
      return some found

end Host

end FlopCensus
