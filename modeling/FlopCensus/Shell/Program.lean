import FlopCensus.Shell.Program.Calculation
import FlopCensus.Shell.Program.Directory
import FlopCensus.Shell.Program.Edit
import FlopCensus.Shell.Program.Fields
import FlopCensus.Shell.Program.Layout
import FlopCensus.Shell.Program.Order
import FlopCensus.Shell.Program.Search
import FlopCensus.Shell.Program.Sequence
import FlopCensus.Shell.Program.Translation
import FlopCensus.Shell.Program.Word

set_option autoImplicit false
set_option relaxedAutoImplicit false

/-!
# Programs

The programs that scripts use most. They serve runs with scripted tools only, as the shell does
(see `FlopCensus.Shell.perform`), and no result of the library is about them.

## Main definitions

* `FlopCensus.Shell.programs`: the programs by name.
-/

namespace FlopCensus.Shell

/-- The programs that work on files and directories. -/
def filePrograms : List (String × Program) := [
  ("ls", .ls), ("mkdir", .mkdir), ("rmdir", .rmdir), ("touch", .touch), ("rm", .rm),
  ("cp", .copy), ("mv", .move), ("ln", .link), ("chmod", .chmod), ("readlink", .readlink),
  ("realpath", .realpath)]

/-- The programs that work on text. -/
def textPrograms : List (String × Program) := [
  ("cat", .cat), ("head", .head), ("tail", .tail), ("wc", .wc), ("tee", .tee), ("nl", .nl),
  ("tac", .tac), ("rev", .rev), ("fold", .fold), ("expand", .expand), ("paste", .paste),
  ("cut", .cut), ("sort", .sort), ("uniq", .uniq), ("comm", .comm), ("tr", .tr), ("grep", .grep),
  ("egrep", .grepWith "-E"), ("fgrep", .grepWith "-F"), ("sed", .sed)]

/-- The programs that work on their arguments alone. -/
def wordPrograms : List (String × Program) := [
  ("seq", .seq), ("expr", .expr), ("basename", .basename), ("dirname", .dirname),
  ("sleep", .sleep), ("yes", .yes), ("echo", .echo), ("printf", .printf), ("test", .test),
  ("[", .test), ("printenv", .printenv), ("which", .which), ("uname", .uname), ("id", .whoRuns),
  ("true", fun _ _ => return 0), ("false", fun _ _ => return 1),
  ("pwd", fun _ _ => do
    say (Text.octets (← get).files.workingPath)
    return 0),
  ("whoami", fun _ _ => do
    say "root".toList
    return 0)]

/-- The programs by name. -/
def programs : List (String × Program) :=
  filePrograms ++ textPrograms ++ wordPrograms

end FlopCensus.Shell
