import FlopCensus.Files.Path
import FlopCensus.Numeral.Integer
import FlopCensus.Text.Quoted
import FlopCensus.Text.Utf8

set_option autoImplicit false
set_option relaxedAutoImplicit false

/-!
# A file system

A file system is a tree of directories with regular files and symbolic links. Looking a path up
follows the links on the way, of which at most `linkLimit` are followed; the place that is found is
the list of names that leads to it from the root without links.

A directory has one permission, that to list its entries. Whether it may be passed through on the
way to an entry is not modelled apart from that: a directory that can be listed but not be passed
through, where looking up an entry or following a link fails, has no counterpart here.

## Main definitions

* `FlopCensus.File`, `FlopCensus.FileSystem`: files, and a tree with a working directory.
* `FlopCensus.Files.Cause`, `FlopCensus.Files.Error`: why a file cannot be reached, and the wording.
* `FlopCensus.FileSystem.locate`: the place of a path.
* `FlopCensus.FileSystem.read`, `FlopCensus.FileSystem.isFile`, `FlopCensus.FileSystem.isDirectory`:
  what is found at a path.
-/

namespace FlopCensus

/-- A file of any kind. -/
inductive File where
  /-- A regular file. -/
  | regular (content : List UInt8) (executable : Bool)
  /-- A symbolic link. -/
  | link (target : String)
  /-- A directory with its entries by name; `readable` is the permission to list them. -/
  | directory (readable : Bool) (entries : List (String × File))
deriving Inhabited

namespace Files

/-- Why a file cannot be reached. -/
inductive Cause where
  | notFound
  | notExecutable
  | denied
  | notDirectory
  | isDirectory
  | nameTooLong
  | tooManyLinks
  /-- The path holds a character that no path can hold. -/
  | nullByte
deriving Repr, DecidableEq

/-- The number of a cause. -/
def Cause.number : Cause → Nat
  | .notFound => 2
  | .notExecutable => 8
  | .denied => 13
  | .notDirectory => 20
  | .isDirectory => 21
  | .nameTooLong => 36
  | .tooManyLinks => 40
  | .nullByte => 0

/-- A cause in words. -/
def Cause.text : Cause → String
  | .notFound => "No such file or directory"
  | .notExecutable => "Exec format error"
  | .denied => "Permission denied"
  | .notDirectory => "Not a directory"
  | .isDirectory => "Is a directory"
  | .nameTooLong => "File name too long"
  | .tooManyLinks => "Too many levels of symbolic links"
  | .nullByte => "embedded null byte"

/-- A path that cannot be reached, as it was written. -/
structure Error where
  /-- Why it cannot be reached. -/
  cause : Cause
  /-- The path. -/
  path : String
deriving Repr, DecidableEq

/-- The wording of an error. -/
def Error.message (e : Error) : String :=
  match e.cause with
  | .nullByte => e.cause.text
  | cause =>
    "[Errno " ++ Numeral.natText cause.number ++ "] " ++ cause.text ++ ": " ++ Text.quote e.path

/-- The greatest number of links that are followed on the way to a file. -/
def linkLimit : Nat := 40

/-- The greatest number of bytes in the name of a file. -/
def nameLimit : Nat := 255

/-- The number of bytes from which on a path is too long. -/
def pathLimit : Nat := 4096

/-- A place without links: the names from the root, the last one first. -/
abbrev Place := List String

end Files

namespace File

open Files

/-- The entries of a directory; other files have none. -/
def entries : File → List (String × File)
  | .directory _ es => es
  | _ => []

/-- The entry with a name. -/
def entry? (f : File) (name : String) : Option File :=
  f.entries.lookup name

/-- The file behind some names. -/
def descend (f : File) : List String → Option File
  | [] => some f
  | name :: rest => (f.entry? name).bind fun g => g.descend rest

/-- The file at a place, this file being the root. -/
def at? (f : File) (place : Place) : Option File :=
  f.descend place.reverse

/-- The place that is reached from another by a list of components. At a link, `follow` goes on from
the place where the target of the link starts, with the components of the target first. -/
def locateBy (root : File) (follow : Place → List String → Except Cause Place) (place : Place) :
    List String → Except Cause Place
  | [] => .ok place
  | name :: rest =>
    match root.at? place with
    | some (.directory _ es) =>
      if name == "." then locateBy root follow place rest
      else if name == ".." then locateBy root follow (place.drop 1) rest
      else if name.utf8ByteSize > nameLimit then .error .nameTooLong
      else
        match es.lookup name with
        | none => .error .notFound
        | some (.link target) =>
          follow (if isAbsolute target then [] else place) (components target ++ rest)
        | some _ => locateBy root follow (name :: place) rest
    | _ => .error .notDirectory

/-- The place that is reached from another by a list of components, with at most `links` links being
followed. A link at the end is followed. -/
def locateFrom (root : File) : Nat → Place → List String → Except Cause Place
  | 0 => locateBy root fun _ _ => .error .tooManyLinks
  | links + 1 => locateBy root (locateFrom root links)

end File

/-- A tree of files with a working directory. -/
structure FileSystem where
  /-- The directory at the top. -/
  root : File
  /-- The place of the working directory. -/
  working : Files.Place := []
  /-- The places that directories were moved from and to, the last move first. -/
  moves : List (Files.Place × Files.Place) := []

namespace FileSystem

open Files

/-- The path of the working directory. -/
def workingPath (fs : FileSystem) : String :=
  "/" ++ "/".intercalate fs.working.reverse

/-- The place of a path. -/
def locate (fs : FileSystem) (path : String) : Except Cause Place :=
  if path.toList.contains '\x00' then .error .nullByte
  else if path == "" then .error .notFound
  else if path.utf8ByteSize ≥ pathLimit then .error .nameTooLong
  else
    fs.root.locateFrom linkLimit (if isAbsolute path then [] else fs.working) (components path)

/-- The file at a path, links being followed. -/
def find (fs : FileSystem) (path : String) : Except Cause File := do
  match fs.root.at? (← fs.locate path) with
  | some f => return f
  | none => throw .notFound

/-- There is a file at the path. -/
def holds (fs : FileSystem) (path : String) : Bool :=
  (fs.find path).toOption.isSome

/-- The file at a path is a regular one. -/
def isFile (fs : FileSystem) (path : String) : Bool :=
  match fs.find path with
  | .ok (.regular ..) => true
  | _ => false

/-- The file at a path is a directory. -/
def isDirectory (fs : FileSystem) (path : String) : Bool :=
  match fs.find path with
  | .ok (.directory ..) => true
  | _ => false

/-- The file at a path is a regular one that can be run. -/
def isExecutable (fs : FileSystem) (path : String) : Bool :=
  match fs.find path with
  | .ok (.regular _ executable) => executable
  | _ => false

/-- The content of the regular file at a path. -/
def read (fs : FileSystem) (path : String) : Except Files.Error (List UInt8) :=
  match fs.find path with
  | .ok (.regular content _) => .ok content
  | .ok _ => .error ⟨.isDirectory, path⟩
  | .error cause => .error ⟨cause, path⟩

end FileSystem

end FlopCensus
