import FlopCensus.Files.Basic

set_option autoImplicit false
set_option relaxedAutoImplicit false

/-!
# The host

What the program finds around itself: files, and variables of the environment.

## Main definitions

* `FlopCensus.Host`: files and variables.
* `FlopCensus.Host.home`, `FlopCensus.Host.searchPath`: two variables with a meaning of their own.
-/

namespace FlopCensus

/-- The surroundings of a run. -/
structure Host where
  /-- The files. -/
  files : FileSystem
  /-- The variables of the environment. -/
  environment : List (String × String) := []

namespace Host

/-- The value of a variable. -/
def lookup? (h : Host) (name : String) : Option String :=
  h.environment.lookup name

/-- The value of a variable that is set to anything but the empty text. -/
def filled? (h : Host) (name : String) : Option String :=
  (h.lookup? name).filter (· != "")

/-- The home directory. -/
def home (h : Host) : String :=
  (h.lookup? "HOME").getD "/root"

/-- The path with `~` in first place written out. -/
def expandHome (h : Host) (path : String) : String :=
  Files.expandHome h.home path

/-- The directories in which commands are looked up. -/
def searchPath (h : Host) : List String :=
  match h.lookup? "PATH" with
  | none => ["/bin", "/usr/bin"]
  | some path => (Text.splitOnChar ':' path.toList).map String.ofList

end Host

end FlopCensus
