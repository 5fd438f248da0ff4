import FlopCensus.Shell.Builtin
import FlopCensus.Shell.Expansion
import FlopCensus.Shell.Program

set_option autoImplicit false
set_option relaxedAutoImplicit false

/-!
# Redirections

## Main definitions

* `FlopCensus.Shell.openEnd`: a file opened for a stream.
* `FlopCensus.Shell.redirect`: the streams of a command redirected.
-/

namespace FlopCensus.Shell

/-- Why a stream cannot be redirected. -/
inductive EndError where
  /-- A file cannot be read. -/
  | cannotOpen (path : List Char) (c : Files.Cause)
  /-- A file cannot be written. -/
  | cannotCreate (path : List Char) (c : Files.Cause)
  /-- A stream is not open. -/
  | notOpen (stream : List Char)

/-- The wording of an error. -/
def EndError.message : EndError → List Char
  | .cannotOpen path c =>
    "cannot open ".toList ++ path ++ ": ".toList ++ match c with
      | .notFound | .notDirectory => "No such file".toList
      | c => c.text.toList
  | .cannotCreate path c =>
    "cannot create ".toList ++ path ++ ": ".toList ++ match c with
      | .notFound | .notDirectory => "Directory nonexistent".toList
      | c => c.text.toList
  | .notOpen stream => stream ++ ": Bad file descriptor".toList

/-- The other end of a file that is written. -/
def outputEnd (append : Bool) (text : List Char) : Run (Except EndError StreamEnd) := do
  let path := pathOf text
  let files := (← get).files
  let place := "/" ++ "/".intercalate (files.placeFor path).reverse
  match files.find path with
  | .ok (.directory ..) => return .error (.cannotCreate text .isDirectory)
  | .ok (.regular _ executable) =>
    if !append then set { ← get with files := files.put path (.regular [] executable) }
    return .ok (.file place)
  | .ok (.link _) => return .error (.cannotCreate text .notFound)
  | .error .notFound =>
    match Program.hasParent files path with
    | .ok _ =>
      if path == "" || Text.endsWith path "/" then
        return .error (.cannotCreate text (if path == "" then .notFound else .isDirectory))
      else
        set { ← get with files := files.put path (.regular [] false) }
        return .ok (.file place)
    | .error c => return .error (.cannotCreate text c)
  | .error c => return .error (.cannotCreate text c)

/-- The other end of a file. -/
def openEnd (mode : Mode) (text : List Char) : Run (Except EndError StreamEnd) := do
  let path := pathOf text
  if path == "/dev/null" then return .ok .nothing
  if let some n := streamOf? path then
    match (← ask (·.ends)).lookup n with
    | some p => return .ok p
    | none => return .error (.cannotOpen text .notFound)
  match mode with
  | .write => outputEnd false text
  | .append => outputEnd true text
  | .read =>
    match (← get).files.find path with
    | .ok (.regular content _) =>
      return .ok (.source (← newSource (Text.octetsOfBytes content)) true)
    | .ok _ => return .ok .nothing
    | .error c => return .error (.cannotOpen text c)

/-- Sets the other end of a stream. -/
def connect (stream : Nat) (p : StreamEnd) : Run Unit :=
  alter fun s => { s with ends := setKey stream p s.ends }

/-- Redirects one stream. -/
def redirectOne (substitute : Substitute) (r : Redirect) : Run (Except EndError Unit) := do
  match r with
  | .file stream mode w =>
    match ← openEnd mode (← textOfWord substitute w) with
    | .ok p => return .ok (← connect stream p)
    | .error e => return .error e
  | .duplicate stream w =>
    let other ← textOfWord substitute w
    if other == ['-'] then
      alter fun s => { s with ends := s.ends.filter (·.1 != stream) }
      return .ok ()
    match (count? other).bind ((← ask (·.ends)).lookup ·) with
    | some p => return .ok (← connect stream p)
    | none =>
      if (count? other).isSome then return .error (.notOpen other)
      else fail "Syntax error: Bad fd number".toList
  | .text stream body =>
    let source ← newSource (← textOfWord substitute body)
    return .ok (← connect stream (.source source))

/-- Redirects streams, up to the first one that cannot be. -/
def redirect (substitute : Substitute) : List Redirect → Run Bool
  | [] => return true
  | r :: rs => do
    match ← redirectOne substitute r with
    | .ok _ => redirect substitute rs
    | .error e =>
      complain e.message
      alter ({ · with status := 2 })
      return false

end FlopCensus.Shell
