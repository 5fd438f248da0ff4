import FlopCensus.Text.Search

set_option autoImplicit false
set_option relaxedAutoImplicit false

/-!
# Paths

A path is a text. Its components are the pieces between slashes, of which empty ones do not count;
a slash at the end asks for a directory, which the component `.` does as well.

## Main definitions

* `FlopCensus.Files.components`: the components of a path.
* `FlopCensus.Files.join`: a path below another.
* `FlopCensus.Files.absolute`: a path made absolute and free of `.` and `..`, by its text alone.
* `FlopCensus.Files.expandHome`: a path with `~` written out.
-/

namespace FlopCensus.Files

/-- The path starts at the root. -/
def isAbsolute (path : String) : Bool :=
  Text.opensWith path "/"

/-- The components of a path, a slash at the end counting as `.`. -/
def components (path : String) : List String :=
  let names := ((Text.splitOnChar '/' path.toList).filter (!·.isEmpty)).map String.ofList
  if Text.endsWith path "/" then names ++ ["."] else names

/-- The path `name` as seen from `directory`. -/
def join (directory name : String) : String :=
  if isAbsolute name then name
  else if directory == "" || Text.endsWith directory "/" then directory ++ name
  else directory ++ "/" ++ name

/-- The file name at the end of a path has something in front of it. -/
def hasDirectory (path : String) : Bool :=
  path.toList.contains '/'

/-- Components with `.` and `..` carried out, the innermost one first. -/
def normalize (done : List String) : List String → List String
  | [] => done
  | "." :: rest => normalize done rest
  | ".." :: rest => normalize (done.drop 1) rest
  | name :: rest => normalize (name :: done) rest

/-- The slashes at the front of a normalized absolute path: two stay two, and more become one. -/
def lead (path : String) : String :=
  match path.toList with
  | '/' :: '/' :: '/' :: _ => "/"
  | '/' :: '/' :: _ => "//"
  | _ => "/"

/-- A path made absolute and free of `.` and `..`, by its text alone. -/
def absolute (directory path : String) : String :=
  let whole := join directory path
  lead whole ++ "/".intercalate (normalize [] (components whole)).reverse

/-- A path with `~` in first place written out as the home directory. The homes of other users than
the administrator are not known. -/
def expandHome (home path : String) : String :=
  let expand := fun (home : String) (rest : List Char) =>
    let whole := String.ofList ((home.toList.reverse.dropWhile (· == '/')).reverse ++ rest)
    if whole == "" then "/" else whole
  match path.toList with
  | ['~'] => expand home []
  | '~' :: '/' :: rest => expand home ('/' :: rest)
  | ['~', 'r', 'o', 'o', 't'] => "/root"
  | '~' :: 'r' :: 'o' :: 'o' :: 't' :: '/' :: rest => expand "/root" ('/' :: rest)
  | _ => path

end FlopCensus.Files
