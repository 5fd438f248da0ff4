import FlopCensus.Shell.Program.Basic
import FlopCensus.Text.Glob
import FlopCensus.Text.Regular.Reader

set_option autoImplicit false
set_option relaxedAutoImplicit false

/-!
# Search for lines

Lines in which an expression occurs are written, perhaps with those around them.

## Main definitions

* `FlopCensus.Shell.Program.Query`: what is looked for.
* `FlopCensus.Shell.Program.Query.next?`: the next part of a line for which an expression stands.
* `FlopCensus.Shell.Program.grep`: the program.
-/

namespace FlopCensus.Shell.Program

open Text (Regular)

/-- What is looked for in lines. -/
structure Query where
  expressions : List Regular
  manner : Text.Manner := {}
  /-- The part of a line stands between characters that belong to no word. -/
  words : Bool := false
  /-- The part of a line is the whole line. -/
  whole : Bool := false
  /-- The lines without such a part are looked for. -/
  inverted : Bool := false

/-- The longest part of a line from a place on for which an expression stands. -/
def Query.endFrom (q : Query) (before : Option Char) (s : List Char) (r : Regular) : Option Nat :=
  let inWord := fun (c : Option Char) => c.any Text.CharSet.word.lists
  if (q.whole && before.isSome) || (q.words && inWord before) then none
  else
    let spots := r.ends q.manner r.refersBack { before, rest := s }
    (spots.find? fun t =>
      !(q.whole && !t.rest.isEmpty) && !(q.words && inWord t.rest.head?)).map (·.passed)

/-- A part of a line: what stands in front, the part, and what stands behind. -/
structure Part where
  skipped : List Char
  text : List Char
  rest : List Char

/-- The next part of a line that is looked for. -/
def Query.next? (q : Query) (before : Option Char) (skipped : List Char) :
    List Char → Option Part
  | [] => attempt []
  | c :: rest =>
    match attempt (c :: rest) with
    | some p => some p
    | none => q.next? (some c) (c :: skipped) rest
where
  /-- The longest part from here on. -/
  attempt (s : List Char) : Option Part :=
    let found := q.expressions.filterMap (q.endFrom before s)
    (found.max?).map fun n =>
      { skipped := skipped.reverse, text := s.take n, rest := s.drop n }

/-- All parts of a line that are looked for, with the number of characters in front of each. -/
def Query.parts (q : Query) : Nat → Nat → Option Char → List Char → List (Nat × List Char)
  | 0, _, _, _ => []
  | n + 1, passed, before, s =>
    match q.next? before [] s with
    | none => []
    | some p =>
      let start := passed + p.skipped.length
      let last := ((p.skipped ++ p.text).getLast?).or before
      match p.text, p.rest with
      | [], [] => []
      | [], c :: rest => q.parts n (start + 1) (some c) rest
      | text, rest => (start, text) :: q.parts n (start + text.length) last rest

/-- The line is one that is looked for. -/
def Query.selects (q : Query) (line : List Char) : Bool :=
  (q.next? none [] line).isSome != q.inverted

/-! ### Inputs -/

/-- A file that is searched. -/
structure Searched where
  path : List Char
  content : Except Files.Cause (List Char)

mutual

/-- The files in a file tree. -/
def filesIn (path : List Char) : File → List (List Char × List UInt8)
  | .regular content _ => [(path, content)]
  | .directory _ es => filesInEntries path es
  | .link _ => []

/-- The files in the entries of a directory. -/
def filesInEntries (path : List Char) : List (String × File) → List (List Char × List UInt8)
  | [] => []
  | (n, f) :: es =>
    let own := Text.octets n
    let below := if path.isEmpty then own
      else if path.getLast? == some '/' then path ++ own else path ++ '/' :: own
    filesIn below f ++ filesInEntries path es

end

/-- The last component of a path. -/
def fileName (path : List Char) : String :=
  pathOf (path.reverse.takeWhile (· != '/')).reverse

/-- The files that are to be searched. -/
def searchedFiles (a : Arguments) (paths : List (List Char)) : Run (List Searched) := do
  let deep := a.has "r" || a.has "R"
  let files := (← get).files
  let matchesAny := fun (option : String) (path : List Char) =>
    (a.values option).any fun g => Text.globMatches (pathOf g) (fileName path)
  let admits := fun (path : List Char) =>
    !matchesAny "exclude" path && (!a.has "include" || matchesAny "include" path)
  let ofTree := fun (path : List Char) (f : File) =>
    ((filesIn path f).filter fun (p, _) => admits p).map fun (p, bytes) =>
      ({ path := p, content := .ok (Text.octetsOfBytes bytes) } : Searched)
  if deep && paths.isEmpty then
    match files.find "." with
    | .ok f => return ofTree [] f
    | .error c => return [{ path := ['.'], content := .error c }]
  let mut found := []
  for path in if paths.isEmpty then [['-']] else paths do
    match if deep then files.find (pathOf path) else .error .notFound with
    | .ok (.directory readable es) =>
      found := found ++ ofTree path (.directory readable es)
    | _ => found := found ++ [{ path, content := ← contentOf path }]
  return found

/-- The text holds bytes that are no text. -/
def isBinary (s : List Char) : Bool :=
  s.contains '\x00'

/-- The line has bytes that spell no characters. -/
def hasStray (line : List Char) : Bool :=
  (Text.characters line).any Text.isStray

/-! ### Output -/

/-- What is written of a file. -/
structure Shown where
  label : Option (List Char)
  numbered : Bool
  offsets : Bool
  /-- Text that is no text is written as it is. -/
  binaryToo : Bool
  aligned : Bool

/-- What stands in front of a line. -/
def Shown.lead (w : Shown) (mark : Char) (number offset : Nat) : List Char :=
  let parts :=
    w.label.toList ++
    (if w.numbered then
      [if w.aligned then alignRight 2 (Numeral.decimal number) else Numeral.decimal number]
      else []) ++
    (if w.offsets then [Numeral.decimal offset] else [])
  let text := parts.flatMap (· ++ [mark])
  if w.aligned && !parts.isEmpty then text ++ ['\t'] else text

/-- A line of a file. -/
structure Numbered where
  line : List Char
  number : Nat
  offset : Nat
  selected : Bool

/-- The lines of a text with numbers and places, of which at most `limit` are selected. -/
def numberedLines (q : Query) (limit : Option Nat) (s : List Char) : List Numbered :=
  ((linesOf s).foldl (fun (state : List Numbered × Nat × Nat × Nat) line =>
    let (done, number, offset, count) := state
    let selected := limit.all (count < ·) && q.selects (Text.characters line)
    ({ line, number, offset, selected } :: done, number + 1, offset + line.length + 1,
      if selected then count + 1 else count)) ([], 1, 0, 0)).1.reverse

/-- The lines that are written: the selected ones with those around them. -/
def withContext (before after : Nat) (lines : List Numbered) : List Numbered :=
  let reached := fun (distance : Nat) (xs : List Numbered) =>
    ((xs.foldl (fun (state : List Bool × Option Nat) x =>
      let (done, gap) := state
      let gap := if x.selected then some 0 else gap.map (· + 1)
      (gap.any (· ≤ distance) :: done, gap)) ([], none)).1).reverse
  let behind := reached after lines
  let inFront := (reached before lines.reverse).reverse
  ((lines.zip (behind.zip inFront)).filter fun (_, b, f) => b || f).map (·.1)

/-- Writes the lines of a file, and tells whether there was one that is no text. -/
def showLines (q : Query) (w : Shown) (a : Arguments) (context : Option (Nat × Nat))
    (lines : List Numbered) : Run Bool := do
  let (before, after) := context.getD (0, 0)
  let mut last : Option Nat := none
  let mut stray := false
  for x in withContext before after lines do
    if !w.binaryToo && hasStray x.line then
      stray := true
      continue
    if context.isSome && !a.has "no-group-separator" && last.any (· + 1 < x.number) then
      say ((a.value? "group-separator").getD ['-', '-'])
    last := some x.number
    if a.has "o" then
      if !q.inverted && x.selected then
        let cs := Text.characters x.line
        for (start, text) in q.parts (cs.length + 1) 0 none cs do
          let offset := x.offset + (Text.spelling (cs.take start)).length
          say (w.lead ':' x.number offset ++ Text.spelling text)
    else
      say (w.lead (if x.selected then ':' else '-') x.number x.offset ++ x.line)
  return stray

/-! ### The program -/

/-- The names and letters of the options. -/
def grepOptions : Options where
  letters := "EFGPe:f:iyvwxcLlm:oqsbHhnTZaIrRA:B:C:zUd:D:0123456789V"
  names := [("extended-regexp", "E"), ("fixed-strings", "F"), ("basic-regexp", "G"),
    ("perl-regexp", "P"), ("regexp", "e"), ("file", "f"), ("ignore-case", "i"),
    ("no-ignore-case", "no-ignore-case"), ("invert-match", "v"), ("word-regexp", "w"),
    ("line-regexp", "x"), ("count", "c"), ("files-without-match", "L"),
    ("files-with-matches", "l"), ("max-count", "m"), ("only-matching", "o"), ("quiet", "q"),
    ("silent", "q"), ("no-messages", "s"), ("byte-offset", "b"), ("with-filename", "H"),
    ("no-filename", "h"), ("line-number", "n"), ("initial-tab", "T"), ("null", "Z"),
    ("text", "a"), ("recursive", "r"), ("dereference-recursive", "R"), ("after-context", "A"),
    ("before-context", "B"), ("context", "C"), ("null-data", "z"), ("color", "color::"),
    ("colour", "color::"), ("include", "include:"), ("exclude", "exclude:"),
    ("exclude-dir", "exclude-dir:"), ("label", "label:"), ("line-buffered", "line-buffered"),
    ("group-separator", "group-separator:"), ("no-group-separator", "no-group-separator")]
  failure := 2
  usage := some "Usage: grep [OPTION]... PATTERNS [FILE]..."

/-- The number of lines around the selected ones, before and after; nothing without an option for
it, and the text that is no number. -/
def contextOf (a : Arguments) : Except (List Char) (Option (Nat × Nat)) := do
  let number := fun (o : String) => (a.value? o).mapM fun v =>
    match digits? v with
    | some n => (.ok n : Except (List Char) Nat)
    | none => .error (v ++ ": invalid context length argument".toList)
  let digits := (a.given.filter fun (o, _) => o.all Char.isDigit).flatMap fun (o, _) => o.toList
  let around := (← number "C") <|> digits? digits
  let before := (← number "B") <|> around
  let after := (← number "A") <|> around
  return if before.isNone && after.isNone then none else some (before.getD 0, after.getD 0)

/-- What the arguments look for, with the operators that are passed over. -/
def queryOf (a : Arguments) (patterns : List (List Char)) :
    Except Regular.Fault (Query × List String) := do
  let kind := (a.last? ["E", "F", "G", "P"]).getD "G"
  let extended := kind == "E" || kind == "P"
  let read ← patterns.mapM fun p =>
    let cs := Text.characters p
    if kind == "F" then return (Regular.literal cs, []) else
      Regular.read { extended, lenient := true } cs
  return ({
    expressions := read.map (·.1)
    manner := { foldCase := a.last? ["i", "y", "no-ignore-case"] == some "i" }
    words := a.has "w"
    whole := a.has "x"
    inverted := a.has "v" }, read.flatMap (·.2))

/-- The patterns among the arguments, and the paths. -/
def patternsOf (name : List Char) (a : Arguments) :
    Run (Option (List (List Char) × List (List Char)) × Bool) := do
  let given := a.given.filter fun (o, _) => o == "e" || o == "f"
  match given, a.operands with
  | [], [] =>
    protest "Usage: grep [OPTION]... PATTERNS [FILE]...".toList
    hint name
    return (none, false)
  | [], p :: paths => return (some (Text.splitOnChar '\n' p, paths), true)
  | given, paths =>
    let mut patterns := []
    for (o, v) in given do
      if o == "e" then patterns := patterns ++ Text.splitOnChar '\n' v
      else
        match ← contentOf v with
        | .ok s => patterns := patterns ++ linesOf s
        | .error c =>
          tell name (v ++ ": ".toList ++ causeText c)
          return (none, false)
    return (some (patterns, paths), true)

/-- Searches one file: whether a line is selected. -/
def searchFile (name : List Char) (a : Arguments) (q : Query) (context : Option (Nat × Nat))
    (limit : Option Nat) (w : Shown) (shown s : List Char) : Run Bool := do
  let binary := isBinary s && !w.binaryToo && !a.has "z"
  if binary && a.has "I" then return false
  let lines := numberedLines q limit s
  let count := lines.countP (·.selected)
  let any := count > 0
  let ending := if a.has "Z" then ['\x00'] else ['\n']
  if a.has "q" then return any
  else if a.has "L" then
    if !any then write 1 (shown ++ ending)
  else if a.has "l" then
    if any then write 1 (shown ++ ending)
  else if a.has "c" then
    say (w.lead ':' 0 0 ++ Numeral.decimal count)
  else
    let stray ← if binary then pure true else showLines q w a context lines
    if stray && any then tell name (shown ++ ": binary file matches".toList)
  return any

/-- Writes the lines in which an expression occurs. -/
def grep : Program := withOptions grepOptions fun name a => do
  let (found, _) ← patternsOf name a
  match found with
  | none => return 2
  | some (patterns, paths) =>
    let kinds := (a.given.filter fun (o, _) => ["E", "F", "G", "P"].contains o).map (·.1)
    if kinds.eraseDups.length > 1 then
      return ← giveUp name "conflicting matchers specified".toList 2
    match queryOf a patterns, contextOf a, (a.value? "m").mapM digits? with
    | _, .error text, _ => giveUp name text 2
    | _, _, none => giveUp name "invalid max count".toList 2
    | .error f, _, _ => giveUp name f.message.toList 2
    | .ok (q, idle), .ok context, some limit =>
      for op in idle do
        tell name ("warning: ".toList ++ op.toList ++ " at start of expression".toList)
      if limit == some 0 then return 1
      let all ← searchedFiles a paths
      let deep := (a.has "r" || a.has "R") &&
        (paths.isEmpty || paths.any fun p => all.any fun f => f.path != p)
      let usual := paths.length > 1 || deep
      let labelled := match a.last? ["H", "h"] with
        | some o => o == "H"
        | none => usual
      let mut any := false
      let mut complete := true
      for f in all do
        let shown :=
          if f.path == ['-'] then (a.value? "label").getD "(standard input)".toList else f.path
        match f.content with
        | .error c =>
          if !a.has "s" then tell name (f.path ++ ": ".toList ++ causeText c)
          complete := false
        | .ok s =>
          let w : Shown :=
            { label := if labelled then some shown else none
              numbered := a.has "n" && !a.has "c"
              offsets := a.has "b" && !a.has "c"
              binaryToo := a.has "a"
              aligned := a.has "T" }
          if ← searchFile name a q context limit w shown s then
            any := true
            if a.has "q" then return 0
      return if any && (complete || a.has "q") then 0 else if complete then 1 else 2

/-- The same search with an option in front of the arguments. -/
def grepWith (option : String) : Program := fun _ ws =>
  grep "grep".toList (option.toList :: ws)

end FlopCensus.Shell.Program
