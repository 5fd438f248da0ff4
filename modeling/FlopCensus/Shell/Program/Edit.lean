import FlopCensus.Shell.Editor.Reader
import FlopCensus.Shell.Editor.Run

set_option autoImplicit false
set_option relaxedAutoImplicit false

/-!
# Editing of streams

## Main definitions

* `FlopCensus.Shell.Program.sed`: carries a script of edits out on inputs.
-/

namespace FlopCensus.Shell.Program

/-- A part of a script, and where it is from. -/
structure Fragment where
  /-- The file that holds the part; none for an argument. -/
  file : Option (List Char)
  text : List Char

/-- Where something is wrong in a script, `left` of it not having been read. -/
def placeIn (fragments : List Fragment) (f : Editor.Fault) (left : Nat) : List Char :=
  let total := fragments.foldl (fun n f => n + f.text.length + 1) 0
  let isLast := fun (i : Nat) => i + 1 == fragments.length
  let rec find (i start : Nat) : List Fragment → List Char
    | [] => []
    | g :: more =>
      let read := total - 1 - left
      if read ≤ start + g.text.length || isLast i then
        match g.file with
        | some path =>
          let lines := (g.text.take (read - start)).count '\n'
          "file ".toList ++ path ++ " line ".toList ++ Numeral.decimal (lines + 1)
        | none =>
          let number := (fragments.take (i + 1)).countP (·.file.isNone)
          let place := if f == .openBlock then 0 else min (read - start) g.text.length
          "-e expression #".toList ++ Numeral.decimal number ++ ", char ".toList ++
            Numeral.decimal place
      else find (i + 1) (start + g.text.length + 1) more
  find 0 0 fragments

/-- How the program is called. -/
def sedUsage : List String := [
  "Usage: sed [OPTION]... \x7bscript-only-if-no-other-script\x7d [input-file]...",
  "",
  "  -n, --quiet, --silent",
  "                 suppress automatic printing of pattern space",
  "      --debug",
  "                 annotate program execution",
  "  -e script, --expression=script",
  "                 add the script to the commands to be executed",
  "  -f script-file, --file=script-file",
  "                 add the contents of script-file to the commands to be executed",
  "  --follow-symlinks",
  "                 follow symlinks when processing in place",
  "  -i[SUFFIX], --in-place[=SUFFIX]",
  "                 edit files in place (makes backup if SUFFIX supplied)",
  "  -l N, --line-length=N",
  "                 specify the desired line-wrap length for the `l' command",
  "  --posix",
  "                 disable all extensions.",
  "  -E, -r, --regexp-extended",
  "                 use extended regular expressions in the script",
  "                 (for portability use POSIX -E).",
  "  -s, --separate",
  "                 consider files as separate rather than as a single,",
  "                 continuous long stream.",
  "      --sandbox",
  "                 operate in sandbox mode (disable e/r/w commands).",
  "  -u, --unbuffered",
  "                 load minimal amounts of data from the input files and flush",
  "                 the output buffers more often",
  "  -z, --null-data",
  "                 separate lines by NUL characters",
  "      --help     display this help and exit",
  "      --version  output version information and exit",
  "",
  "If no -e, --expression, -f, or --file option is given, then the first",
  "non-option argument is taken as the sed script to interpret.  All",
  "remaining arguments are names of input files; if no input files are",
  "specified, then the standard input is read."]

/-- The options. -/
def sedOptions : Options where
  letters := "bsnrzuEe:f:l:i::V:"
  names := [("binary", "b"), ("regexp-extended", "E"), ("debug", "debug"), ("in-place", "i"),
    ("expression", "e"), ("file", "f"), ("line-length", "l"), ("null-data", "z"),
    ("zero-terminated", "z"), ("quiet", "n"), ("posix", "posix"), ("silent", "n"),
    ("sandbox", "sandbox"), ("separate", "s"), ("unbuffered", "u"), ("version", "version"),
    ("help", "help"), ("follow-symlinks", "follow-symlinks")]

/-- The lines of a text. -/
def editedLines (separator : Char) (file s : List Char) : List Editor.Line :=
  let parts := Text.splitOnChar separator s
  (parts.dropLast.map fun l => { text := Text.characters l, file }) ++
    ((parts.getLast?.filter (!·.isEmpty)).map fun l =>
      ({ text := Text.characters l, ended := false, file } : Editor.Line)).toList

/-- The text of lines. -/
def editedText (separator : Char) (lines : List Editor.Line) : List Char :=
  lines.flatMap fun l => Text.spelling l.text ++ if l.ended then [separator] else []

/-- An input of the editor: its path, and what it holds unless it cannot be read. -/
abbrev Input := List Char × Except Files.Cause (List Char)

/-- The inputs that are named; none is read behind a directory. -/
def editorInputs : List (List Char) → Run (List Input)
  | [] => return []
  | path :: rest => do
    let s ← contentOf path
    match s with
    | .error .isDirectory => return [(path, s)]
    | s => return (path, s) :: (← editorInputs rest)

/-- The status with which a run ended early. -/
def haltStatus (name : List Char) (h : Editor.Halt) : Run Nat :=
  match h with
  | .status n => return n
  | .noPattern => giveUp name "-e expression #1, char 0: no previous regular expression".toList

/-- Edits inputs as one text. A run that ends early does not look at the inputs that are left. The
result is the status if all ends here, and else whether all inputs could be read. -/
def editTogether (name : List Char) (settings : Editor.Settings) (script : Editor.Script)
    (unended : Editor.Unended) (found : List Input) :
    Run ((Nat ⊕ Bool) × Editor.Unended) := do
  let separator := settings.separator
  let own := found.map fun (path, s) =>
    match s with
    | .ok s => editedLines separator path s
    | .error _ => []
  let lines := own.flatten
  let lines := lines.zipIdx.map fun (l, i) =>
    if i + 1 < lines.length then { l with ended := true } else l
  let o ← Editor.edit settings script unended false lines
  let read := lines.length - o.left.length
  let mut place := 0
  let mut complete := true
  for ((path, s), ls) in found.zip own do
    place := place + ls.length
    if o.halt.isNone || place < read then
      match s with
      | .ok _ => pure ()
      | .error .isDirectory =>
        let status ← giveUp name
          ("read error on ".toList ++ path ++ ": Is a directory".toList) 4
        return (.inl status, o.unended)
      | .error c =>
        tell name ("can't read ".toList ++ path ++ ": ".toList ++ causeText c)
        complete := false
  match o.halt with
  | some h =>
    if (found.map (·.1)) == [['-']] && (← readsFile) then
      unread (editedText separator o.left)
    return (.inl (← haltStatus name h), o.unended)
  | none => return (.inr complete, o.unended)

/-- Edits groups of inputs, each as one text. -/
def editGroups (name : List Char) (settings : Editor.Settings) (script : Editor.Script) :
    List (List Input) → Editor.Unended → Nat → Run Nat
  | [], _, status => return status
  | g :: more, unended, status => do
    match ← editTogether name settings script unended g with
    | (.inl status, _) => return status
    | (.inr complete, unended) =>
      editGroups name settings script more unended (if complete then status else 2)

/-- Edits files in their place. -/
def editInPlace (name : List Char) (settings : Editor.Settings) (script : Editor.Script)
    (ending : List Char) : List (List Char) → Editor.Unended → Nat → Run Nat
  | [], _, status => return status
  | path :: rest, unended, status => do
    match (← get).files.find (pathOf path) with
    | .error c =>
      tell name ("can't read ".toList ++ path ++ ": ".toList ++ causeText c)
      editInPlace name settings script ending rest unended 2
    | .ok (.regular bytes executable) =>
      let s := Text.octetsOfBytes bytes
      let o ← Editor.edit settings script { unended with output := false } true
        (editedLines settings.separator path s)
      if !ending.isEmpty then
        let copy := if ending.contains '*' then
            ending.flatMap fun c => if c == '*' then path else [c]
          else path ++ ending
        if let .error c := ← store false copy s then
          return ← giveUp name
            ("cannot rename ".toList ++ path ++ ": ".toList ++ causeText c) 4
        modify fun m => { m with
          files := m.files.put (pathOf copy) (.regular bytes executable) }
      modify fun m => { m with
        files := m.files.put (pathOf path) (.regular (Text.bytesOfOctets o.text) executable) }
      match o.halt with
      | some h => haltStatus name h
      | none => editInPlace name settings script ending rest o.unended status
    | .ok _ =>
      giveUp name ("couldn't edit ".toList ++ path ++ ": not a regular file".toList) 4

/-- The parts of the script that the options give, or the status if one cannot be read. -/
def fragmentsOf (name : List Char) : List (String × List Char) → Run (Except Nat (List Fragment))
  | [] => return .ok []
  | (o, v) :: more => do
    if o == "e" then
      return (← fragmentsOf name more).map ({ file := none, text := v } :: ·)
    else
      match ← contentOf v with
      | .ok s =>
        let text := if s.getLast? == some '\n' then s.dropLast else s
        return (← fragmentsOf name more).map ({ file := some v, text } :: ·)
      | .error c =>
        return .error (← giveUp name
          ("couldn't open file ".toList ++ v ++ ": ".toList ++ causeText c) 4)

/-- A label that a script jumps to and does not have. -/
def missingLabel? (script : Editor.Script) : Option String :=
  script.toList.findSome? fun i =>
    match i.action with
    | .jump _ label => if label == "" || (script.place? label).isSome then none else some label
    | _ => none

/-- Makes the files empty that a script writes; the result is the status if one cannot be made. -/
def openTargets (name : List Char) : List (List Char) → Run (Option Nat)
  | [] => return none
  | path :: more => do
    if (streamOf? (pathOf path)).isNone then
      if let .error c := ← store false path [] then
        return some (← giveUp name
          ("couldn't open file ".toList ++ path ++ ": ".toList ++ causeText c) 4)
    openTargets name more

/-- Carries a script of edits out on inputs. -/
def sed : Program := fun name ws => do
  let usage : Run Nat := do
    for line in sedUsage do protest line.toList
    return 1
  match sedOptions.read ws with
  | .error text =>
    tell name text
    usage
  | .ok a =>
    if a.has "help" then
      for line in sedUsage do say line.toList
      return 0
    let given := a.given.filter fun (o, _) => o == "e" || o == "f"
    let (given, paths) := match given, a.operands with
      | [], w :: paths => ([("e", w)], paths)
      | given, paths => (given, paths)
    if given.isEmpty then return ← usage
    match ← fragmentsOf name given with
    | .error status => return status
    | .ok fragments =>
      let text := ['\n'].intercalate (fragments.map (·.text))
      let dialect : Editor.Dialect :=
        { extended := a.has "E" || a.has "r", confined := a.has "sandbox" }
      match Editor.read dialect (Text.characters text) with
      | .error (f, left) =>
        if f == .pattern .misplacedClass then giveUp name f.message.toList 4
        else
          let place := placeIn fragments f (Text.spelling left).length
          giveUp name (place ++ ": ".toList ++ f.message.toList)
      | .ok script =>
        if let some label := missingLabel? script then
          return ← giveUp name ("can't find label for jump to \x60" ++ label ++ "'").toList 4
        if let some status := ← openTargets name script.targets then return status
        let settings : Editor.Settings :=
          { quiet := a.has "n" || text.take 2 == ['#', 'n']
            separator := if a.has "z" then '\x00' else '\n'
            width := ((a.value? "l").map fun w =>
              (digits? (w.takeWhile (·.isDigit))).getD 0).getD 70 }
        match a.value? "i" with
        | some ending =>
          if paths.isEmpty then giveUp name "no input files".toList 4
          else editInPlace name settings script ending paths {} 0
        | none =>
          let found ← editorInputs (if paths.isEmpty then [['-']] else paths)
          let groups := if a.has "s" then found.map fun f => [f] else [found]
          editGroups name settings script groups {} 0

end FlopCensus.Shell.Program
