import FlopCensus.Files.Edit
import FlopCensus.Shell.Run

set_option autoImplicit false
set_option relaxedAutoImplicit false

/-!
# Installed programs

A file system in which scripts can be run has the programs in their usual place. A program that is
known here is a file that holds a mark and its name. Runs without scripted tools have no use for
them.

## Main definitions

* `FlopCensus.Shell.programFile`: the file of a program.
* `FlopCensus.Shell.installed`: a file system with the programs in it.
-/

namespace FlopCensus.Shell

/-- The file of a program that is known here. -/
def programFile (name : String) : File :=
  .regular (Text.bytesOfOctets (programMark ++ name.toList)) true

/-- The names in the directory of programs, with the programs that they stand for. -/
def installedNames : List (String × String) :=
  ("sh", "sh") :: ("dash", "sh") :: ("env", "env") ::
    programs.map fun (name, _) => (name, name)

/-- The file system with the programs, and with the file that loses what is written to it. -/
def installed (files : FileSystem) : FileSystem :=
  let files := installedNames.foldl
    (fun files (name, program) => files.put ("/usr/bin/" ++ name) (programFile program)) files
  let files := if files.holds "/bin" then files else files.putLink "/bin" "usr/bin"
  files.put "/dev/null" (.regular [] false)

end FlopCensus.Shell
