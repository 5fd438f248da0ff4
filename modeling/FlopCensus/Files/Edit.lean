import FlopCensus.Files.Basic

set_option autoImplicit false
set_option relaxedAutoImplicit false

/-!
# Changing a file system

## Main definitions

* `FlopCensus.FileSystem.put`: a file at a path, with the directories above it.
* `FlopCensus.FileSystem.erase`: a path without its file.
* `FlopCensus.FileSystem.move`, `FlopCensus.FileSystem.backTo`: working directories move with the
  directories that they are in, those of other processes as well.
-/

namespace FlopCensus

namespace File

/-- The entries with one of them set. -/
def setEntry (name : String) (f : File) : List (String × File) → List (String × File)
  | [] => [(name, f)]
  | (n, g) :: rest => if n == name then (n, f) :: rest else (n, g) :: setEntry name f rest

/-- The file with `new` behind some names. What is missing on the way becomes a directory. -/
def putAt (f new : File) : List String → File
  | [] => new
  | name :: rest =>
    let inner := (f.entry? name).getD (.directory true [])
    match f with
    | .directory readable es => .directory readable (setEntry name (putAt inner new rest) es)
    | _ => .directory true [(name, putAt inner new rest)]

/-- The file without what is behind some names. -/
def eraseAt (f : File) : List String → File
  | [] => f
  | [name] =>
    match f with
    | .directory readable es => .directory readable (es.filter (·.1 != name))
    | other => other
  | name :: rest =>
    match f with
    | .directory readable es =>
      match es.lookup name with
      | some inner => .directory readable (setEntry name (eraseAt inner rest) es)
      | none => .directory readable es
    | other => other

end File

namespace FileSystem

open Files

/-- The place where a path is to be written: that of the file it leads to, or else the one that its
components name below the deepest directory that is there. -/
def placeFor (fs : FileSystem) (path : String) : Place :=
  let start := if isAbsolute path then [] else fs.working
  (components path).foldl (fun place name =>
    match fs.root.locateFrom linkLimit place [name] with
    | .ok found => found
    | .error _ =>
      if name == "." then place else if name == ".." then place.drop 1 else name :: place)
    start

/-- The file system with a file at a path, links being followed. -/
def put (fs : FileSystem) (path : String) (f : File) : FileSystem :=
  { fs with root := fs.root.putAt f (fs.placeFor path).reverse }

/-- The file system with a directory at a path, unless there is one. -/
def putDirectory (fs : FileSystem) (path : String) : FileSystem :=
  if fs.isDirectory path then fs else fs.put path (.directory true [])

/-- The place of the last component itself, a link there not being followed. -/
def ownPlace (fs : FileSystem) (path : String) : Place :=
  let start := if isAbsolute path then [] else fs.working
  match (components path).reverse with
  | [] => start
  | name :: above =>
    match fs.root.locateFrom linkLimit start above.reverse with
    | .ok place => name :: place
    | .error _ => (components path).reverse ++ start

/-- The file system with a link at a path. -/
def putLink (fs : FileSystem) (path target : String) : FileSystem :=
  { fs with root := fs.root.putAt (.link target) (fs.ownPlace path).reverse }

/-- The file system without the file at a path; a link goes itself. -/
def erase (fs : FileSystem) (path : String) : FileSystem :=
  { fs with root := fs.root.eraseAt (fs.ownPlace path).reverse }

/-- Where a place is after a directory has moved. -/
def placeAfter (place : Place) (moved : Place × Place) : Place :=
  if moved.1.isSuffixOf place then place.take (place.length - moved.1.length) ++ moved.2
  else place

/-- The file system with a file taken from one path to another. -/
def move (fs : FileSystem) (path target : String) (f : File) : FileSystem :=
  let moved := (fs.ownPlace path, fs.ownPlace target)
  let cleared := (fs.erase path).erase target
  { root := cleared.root.putAt f moved.2.reverse
    working := placeAfter fs.working moved
    moves := moved :: fs.moves }

/-- The file system as it is now for a process whose working directory was that of `before`. -/
def backTo (fs before : FileSystem) : FileSystem :=
  let since := fs.moves.take (fs.moves.length - before.moves.length)
  { fs with working := since.reverse.foldl placeAfter before.working }

end FileSystem

end FlopCensus
