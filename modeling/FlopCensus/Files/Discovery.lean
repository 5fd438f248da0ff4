import FlopCensus.Files.Basic
import FlopCensus.Log
import FlopCensus.Text.Glob

set_option autoImplicit false
set_option relaxedAutoImplicit false

/-!
# Finding source files

The source files below a directory are its regular files, and links to such, whose name has one of
the wanted endings and fits the wanted pattern. Directories are visited depth-first, the entries of
each in the order of their names; links to directories are not visited. Directories are listed and
links are followed by the paths that they have been reached by, which may be too long.

Two things are left out. The depth of the stack is not modelled, so directories are visited however
deep they are nested. And a directory whose entries can be listed can also be passed through (see
`FlopCensus.File`), so a link in it is never refused for want of a permission.

## Main definitions

* `FlopCensus.Files.Selection`: the names that are wanted.
* `FlopCensus.Files.ofEntry`, `FlopCensus.Files.walk`: the source files at an entry, and those below
  a directory.
* `FlopCensus.Files.discover`: the source files below a path.
-/

namespace FlopCensus.Files

/-- The names that are wanted. -/
structure Selection where
  /-- The endings of the names. -/
  extensions : List String
  /-- A pattern for the whole name; an empty one asks for nothing. -/
  pattern : Option String := none
deriving Repr

/-- The name is wanted. -/
def Selection.admits (s : Selection) (name : String) : Bool :=
  (s.extensions.any fun e => Text.endsWith name e) &&
    match s.pattern with
    | none => true
    | some p => p == "" || Text.globMatches p name

/-- A directory cannot be listed. -/
def unreadable (e : Error) : Attempt Error (List String) := do
  Attempt.tell .warning .analysis ("Cannot read directory " ++ e.path ++ ": " ++ e.message)
  return []

/-- The path leads to a regular file, links being followed. One that leads nowhere does not, and any
other failure to follow it goes to the caller. -/
def leadsToFile (fs : FileSystem) (path : String) : Except Error Bool :=
  match fs.find path with
  | .ok (.regular ..) => .ok true
  | .ok _ => .ok false
  | .error .notFound => .ok false
  | .error cause => .error ⟨cause, path⟩

/-- The path of a link, if it counts as a source file. -/
def ofLink (fs : FileSystem) (s : Selection) (name path : String) :
    Attempt Error (List String) := do
  -- a link is followed before its name is looked at
  if (← (leadsToFile fs path : Except Error Bool)) && s.admits name then return [path]
  else return []

/-- Results by name, one after the other in the order of the names. -/
def inOrder (results : List (String × Attempt Error (List String))) : Attempt Error (List String) :=
  (results.mergeSort fun a b => !(b.1 < a.1)).foldlM (fun found r => return found ++ (← r.2)) []

/-- The source files below a directory with a path, given those of each entry. -/
def ofDirectory (path : String) (readable : Bool)
    (results : List (String × Attempt Error (List String))) : Attempt Error (List String) :=
  if path.utf8ByteSize ≥ pathLimit then unreadable ⟨.nameTooLong, path⟩
  else if readable then inOrder results
  else unreadable ⟨.denied, path⟩

mutual

/-- The source files at an entry called `name`, which has the path `path`. -/
def ofEntry (fs : FileSystem) (s : Selection) (name path : String) :
    File → Attempt Error (List String)
  | .regular .. => return if s.admits name then [path] else []
  | .link _ => ofLink fs s name path
  | .directory readable es => ofDirectory path readable (ofEntries fs s path es)

/-- The source files at each entry of the directory with the path `path`. -/
def ofEntries (fs : FileSystem) (s : Selection) (path : String) :
    List (String × File) → List (String × Attempt Error (List String))
  | [] => []
  | (name, f) :: rest => (name, ofEntry fs s name (join path name) f) :: ofEntries fs s path rest

end

/-- The source files below a file, which has the path `path`. -/
def walk (fs : FileSystem) (s : Selection) (path : String) : File → Attempt Error (List String)
  | .directory readable es => ofDirectory path readable (ofEntries fs s path es)
  | _ => unreadable ⟨.notDirectory, path⟩

/-- The source files below a path. -/
def discover (fs : FileSystem) (s : Selection) (path : String) : Attempt Error (List String) :=
  match fs.find path with
  | .error .nullByte => throw ⟨.nullByte, path⟩
  | .error cause => unreadable ⟨cause, path⟩
  | .ok f => walk fs s path f

end FlopCensus.Files
