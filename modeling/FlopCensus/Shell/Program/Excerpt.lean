import FlopCensus.Shell.Program.Basic

set_option autoImplicit false
set_option relaxedAutoImplicit false

/-!
# Parts and counts of inputs

## Main definitions

* `FlopCensus.Shell.Program.head`, `FlopCensus.Shell.Program.tail`: the first and the last lines.
* `FlopCensus.Shell.Program.wc`: the number of lines, words, characters and bytes.
* `FlopCensus.Shell.Program.tee`: the input, into files as well.
-/

namespace FlopCensus.Shell.Program

/-! ### Beginnings and ends -/

/-- A count of lines or bytes. -/
structure Count where
  inBytes : Bool := false
  amount : Nat := 10
  /-- The character in front of the number. -/
  sign : Option Char := none

/-- A count that is written with a sign or without one. -/
def amount? (s : List Char) : Option (Nat × Option Char) :=
  match s with
  | '+' :: ds => (size? ds).map (·, some '+')
  | '-' :: ds => (size? ds).map (·, some '-')
  | ds => (size? ds).map (·, none)

/-- Arguments of which the first one may be a hyphen with a count of lines, and letters. -/
def spellCount (ws : List (List Char)) : List (List Char) :=
  match ws with
  | ('-' :: cs) :: rest =>
    let ds := cs.takeWhile (·.isDigit)
    let letters := cs.drop ds.length
    if ds.isEmpty || !letters.all "qvz".toList.contains then ws
    else ['-', 'n'] :: ds :: (if letters.isEmpty then rest else ('-' :: letters) :: rest)
  | ws => ws

/-- The options of programs that write parts of inputs. -/
def excerptOptions : Options where
  letters := "qvzfFn:c:s:"
  names := [("lines", "n"), ("bytes", "c"), ("quiet", "q"), ("silent", "q"), ("verbose", "v"),
    ("zero-terminated", "z")]

/-- The parts of a text that count, with their ends. -/
def piecesOf (zero : Bool) (s : List Char) : List (List Char) :=
  if zero then
    let swap := fun (c : Char) => if c == '\x00' then '\n' else if c == '\n' then '\x00' else c
    (cutLines (s.map swap)).map (·.map swap)
  else cutLines s

/-- Writes a part of files, with a headline where there are several. Of the input stream what
stands behind `extent` stays unread. -/
def excerpt (cut : Count → {α : Type} → List α → List α) (extent : Count → Nat → Nat → Nat) :
    Program := fun name ws =>
  withOptions excerptOptions (fun name a => do
    let inBytes := a.last? ["n", "c"] == some "c"
    let asked := (a.value? (if inBytes then "c" else "n")).getD ['1', '0']
    match amount? asked with
    | none =>
      let unit := if inBytes then "bytes" else "lines"
      giveUp name (("invalid number of " ++ unit ++ ": ").toList ++ curly asked)
    | some (amount, sign) =>
      let count : Count := { inBytes, amount, sign }
      let message := fun (path : List Char) (c : Files.Cause) =>
        match c with
        | .isDirectory => "error reading ".toList ++ quoted path ++ ": ".toList ++ causeText c
        | c => "cannot open ".toList ++ quoted path ++ " for reading: ".toList ++ causeText c
      let mut first := true
      let mut complete := true
      for path in if a.operands.isEmpty then [['-']] else a.operands do
        let content ← contentOf path
        let headline : Run Unit := do
          let quiet := a.last? ["q", "v"] == some "q"
          if (a.operands.length > 1 && !quiet) || a.last? ["q", "v"] == some "v" then
            if !first then say []
            say ("==> ".toList ++ (if path == ['-'] then "standard input".toList else path) ++
              " <==".toList)
        match content with
        | .error c =>
          if c == .isDirectory then
            headline
            first := false
          tell name (message path c)
          complete := false
        | .ok s =>
          headline
          first := false
          let part := if inBytes then cut count s else (cut count (piecesOf (a.has "z") s)).flatten
          if path == ['-'] then unread (s.drop (extent count part.length s.length))
          write 1 part
      return statusOf complete) name (spellCount ws)

/-- The size of the blocks in which lines are read. -/
def blockSize : Nat := 8192

/-- The first of some things, or all but the last. -/
def firstOf (n : Count) {α : Type} (xs : List α) : List α :=
  if n.sign == some '-' then xs.take (xs.length - n.amount) else xs.take n.amount

/-- The last of some things, or those from a place on. -/
def lastOf (n : Count) {α : Type} (xs : List α) : List α :=
  if n.sign == some '+' then xs.drop (n.amount - 1) else xs.drop (xs.length - n.amount)

/-- Writes the beginning of files. -/
def head : Program := excerpt firstOf fun n part all =>
  if n.sign == some '-' then all
  else if n.inBytes then part
  else (part + blockSize - 1) / blockSize * blockSize

/-- Writes the end of files. -/
def tail : Program := excerpt lastOf fun _ _ all => all

/-! ### Counting -/

/-- The number of words in a text. -/
def wordCount (s : List Char) : Nat :=
  (s.foldl (fun (n, inside) c =>
    if c == ' ' || ('\t' ≤ c && c ≤ '\r') then (n, false)
    else (if inside then n else n + 1, true)) (0, false)).1

/-- The column behind a character in some column. -/
def columnAfter (column : Nat) (c : Char) : Nat :=
  if c == '\t' then (column / 8 + 1) * 8
  else if c == '\r' || c == '\x0c' then 0
  else if ' ' ≤ c && c != '\x7f' && !Text.isStray c then column + 1
  else column

/-- The greatest width of a line. -/
def widest (s : List Char) : Nat :=
  (linesOf s).foldl (fun n line =>
    max n ((Text.characters line).foldl (fun (best, column) c =>
      let next := columnAfter column c
      (max best next, next)) (0, 0)).1) 0

/-- Counts lines, words, characters and bytes. -/
def wc : Program := withOptions
    { letters := "lwcmL"
      names := [("lines", "l"), ("words", "w"), ("bytes", "c"), ("chars", "m"),
        ("max-line-length", "L")] } fun name a => do
  let stream := a.operands.isEmpty
  let fromFile ← readsFile
  let files := (← get).files
  let isDirectory := fun (path : List Char) => files.isDirectory (pathOf path)
  let mut found := []
  let mut complete := true
  for path in if stream then [['-']] else a.operands do
    match ← contentOf path with
    | .ok s => found := found ++ [(path, s)]
    | .error c =>
      tell name (plainMessage path c)
      complete := false
      if c == .isDirectory then found := found ++ [(path, [])]
  let all := a.given.isEmpty
  let asked := fun (o : String) (usual : Bool) => a.has o || (all && usual)
  let counts := fun (s : List Char) =>
    (if asked "l" true then [s.count '\n'] else []) ++
    (if asked "w" true then [wordCount s] else []) ++
    (if asked "m" false then [(Text.characters s).countP fun c => !Text.isStray c] else []) ++
    (if asked "c" true then [s.length] else []) ++
    (if asked "L" false then [widest s] else [])
  let kinds := (counts []).length
  let total := found.foldl (fun n (_, s) => n + s.length) 0
  let isStream := a.operands.contains ['-'] || stream
  let width :=
    if kinds == 1 && a.operands.length ≤ 1 then 1
    else if (isStream && !fromFile) || a.operands.any isDirectory then 7
    else (Numeral.decimal total).length
  let row := fun (ns : List Nat) (label : List Char) =>
    [' '].intercalate (ns.map fun n => alignRight width (Numeral.decimal n)) ++
      if label.isEmpty then [] else ' ' :: label
  for (path, s) in found do
    say (row (counts s) (if stream then [] else path))
  if a.operands.length > 1 then
    let isWidest := fun (i : Nat) => a.has "L" && i + 1 == kinds
    let sums := (List.range kinds).map fun i =>
      found.foldl (fun n (_, s) =>
        let k := (counts s)[i]?.getD 0
        if isWidest i then max n k else n + k) 0
    say (row sums "total".toList)
  return statusOf complete

/-! ### Copies of the input -/

/-- The directory of a path is there. -/
def hasParent (files : FileSystem) (path : String) : Except Files.Cause Unit := do
  let start := if Files.isAbsolute path then [] else files.working
  let place ← files.root.locateFrom Files.linkLimit start (Files.components path).dropLast
  match files.root.at? place with
  | some (.directory ..) => return
  | _ => throw .notDirectory

/-- Writes text into a file, or behind what it holds. -/
def store (append : Bool) (path : List Char) (s : List Char) : Run (Except Files.Cause Unit) := do
  let text := pathOf path
  if let some n := streamOf? text then
    write n s
    return .ok ()
  let files := (← get).files
  if text == "/dev/null" then return .ok ()
  match if files.isDirectory text then .error .isDirectory else hasParent files text with
  | .ok _ =>
    let executable := files.isExecutable text
    let files := if append then files else files.put text (.regular [] executable)
    set { ← get with files := appendTo files text s }
    return .ok ()
  | .error c => return .error c

/-- Writes the input stream into files as well. -/
def tee : Program := withOptions
    { letters := "aip", names := [("append", "a"), ("ignore-interrupts", "i")] } fun name a => do
  let s ← readAll
  write 1 s
  let mut complete := true
  for w in a.operands do
    if let .error c := ← store (a.has "a") w s then
      tell name (plainMessage w c)
      complete := false
  return statusOf complete

end FlopCensus.Shell.Program
