import FlopCensus.Shell.Program.Basic

set_option autoImplicit false
set_option relaxedAutoImplicit false

/-!
# Laying lines out

The programs that write lines in another order, with other marks or other breaks.

## Main definitions

* `FlopCensus.Shell.Program.cat`, `FlopCensus.Shell.Program.nl`: files in sequence, with numbers.
* `FlopCensus.Shell.Program.tac`, `FlopCensus.Shell.Program.rev`: backwards.
* `FlopCensus.Shell.Program.fold`, `FlopCensus.Shell.Program.expand`: columns.
* `FlopCensus.Shell.Program.paste`: files side by side.
-/

namespace FlopCensus.Shell.Program

/-! ### In sequence -/

/-- A character so that it can be seen. -/
def visible (tabs : Bool) (c : Char) : List Char :=
  let plain := fun (n : Nat) =>
    if n < 32 then ['^', Char.ofNat (n + 64)] else if n == 127 then ['^', '?'] else [Char.ofNat n]
  if c == '\n' || (c == '\t' && !tabs) then [c]
  else if c < '\x80' then plain c.toNat
  else 'M' :: '-' :: plain (c.toNat - 128)

/-- The options of `cat`, those that stand for several being spelled out. -/
def catOptions (a : Arguments) : List String :=
  a.given.flatMap fun (o, _) =>
    match o with
    | "A" => ["v", "E", "T"]
    | "e" => ["v", "E"]
    | "t" => ["v", "T"]
    | o => [o]

/-- Lines with marks and numbers; `number` is that of the next line, and `blank` says that the line
in front was empty. -/
def marked (options : List String) : Nat → Bool → List (List Char) → List (List Char)
  | _, _, [] => []
  | number, blank, line :: rest =>
    let isEmpty := line == ['\n']
    if isEmpty && blank && options.contains "s" then marked options number true rest
    else
      let counts := if options.contains "b" then !isEmpty else options.contains "n"
      let lead := if counts then alignRight 6 (Numeral.decimal number) ++ ['\t'] else []
      let body := (line.filter (· != '\n')).flatMap fun c =>
        if options.contains "v" then visible (options.contains "T") c
        else if c == '\t' && options.contains "T" then ['^', 'I'] else [c]
      let ending :=
        if line.getLast? == some '\n' then (if options.contains "E" then ['$', '\n'] else ['\n'])
        else []
      (lead ++ body ++ ending) ::
        marked options (if counts then number + 1 else number) isEmpty rest

/-- Writes files one after the other. -/
def cat : Program := withOptions
    { letters := "nbsEvTAetu"
      names := [("number", "n"), ("number-nonblank", "b"), ("squeeze-blank", "s"),
        ("show-ends", "E"), ("show-tabs", "T"), ("show-all", "A"), ("show-nonprinting", "v")] }
    fun name a => do
  let options := (catOptions a).filter (· != "u")
  if options.isEmpty then eachInput name a.operands (write 1)
  else
    let (found, complete) ← inputs name a.operands plainMessage
    let text := (found.map (·.2)).flatten
    write 1 (marked options 1 false (cutLines text)).flatten
    return statusOf complete

/-- A number in a column. -/
def numberIn (format : List Char) (width : Nat) (n : Int) : List Char :=
  let sign := if n < 0 then ['-'] else []
  let digits := Numeral.decimal n.natAbs
  match format with
  | ['l', 'n'] => alignLeft width (sign ++ digits)
  | ['r', 'z'] => sign ++ List.replicate (width - sign.length - digits.length) '0' ++ digits
  | _ => alignRight width (sign ++ digits)

/-- Numbers the lines of files. -/
def nl : Program := withOptions
    { letters := "b:w:s:v:i:n:h:f:d:l:p"
      names := [("body-numbering", "b"), ("number-width", "w"), ("number-separator", "s"),
        ("starting-line-number", "v"), ("line-increment", "i"), ("number-format", "n")] }
    fun name a => do
  let (found, complete) ← inputs name a.operands plainMessage
  let number := fun (option : String) (usual : Int) =>
    match a.value? option with
    | some ('-' :: ds) => -Int.ofNat ((digits? ds).getD 0)
    | some ds => Int.ofNat ((digits? ds).getD usual.natAbs)
    | none => usual
  let style := (a.value? "b").getD ['t']
  let width := (number "w" 6).natAbs
  let separator := (a.value? "s").getD ['\t']
  let mut next := number "v" 1
  for line in linesOf (found.map (·.2)).flatten do
    if style == ['a'] || (style == ['t'] && !line.isEmpty) then
      say (numberIn ((a.value? "n").getD []) width next ++ separator ++ line)
      next := next + number "i" 1
    else say (List.replicate (width + separator.length) ' ' ++ line)
  return statusOf complete

/-! ### Backwards -/

/-- Writes the lines of files from the last one to the first. -/
def tac : Program := withOptions
    { letters := "brs:", names := [("before", "b"), ("regex", "r"), ("separator", "s")] }
    fun name a => do
  let mut complete := true
  for path in if a.operands.isEmpty then [['-']] else a.operands do
    match ← contentOf path with
    | .ok s => write 1 (cutLines s).reverse.flatten
    | .error c =>
      tell name <| match c with
        | .isDirectory => path ++ ": read error: Is a directory".toList
        | c => "failed to open ".toList ++ quoted path ++ " for reading: ".toList ++ causeText c
      complete := false
  return statusOf complete

/-- Writes each line from its last character to its first. -/
def rev : Program := withOptions {} fun name a => do
  let mut complete := true
  for path in if a.operands.isEmpty then [['-']] else a.operands do
    match ← contentOf path with
    | .ok s =>
      for line in cutLines s do
        let body := line.filter (· != '\n')
        write 1 (Text.spelling (Text.characters body).reverse ++ line.drop body.length)
    | .error c =>
      tell name ("cannot open ".toList ++ path ++ ": ".toList ++ causeText c)
      complete := false
  return statusOf complete

/-! ### Columns -/

/-- The column behind a character, or the number of characters up to it. -/
def foldColumn (byBytes : Bool) (column : Nat) (c : Char) : Nat :=
  if byBytes then column + 1
  else if c == '\t' then (column / 8 + 1) * 8
  else if c == '\x08' then column - 1
  else if c == '\r' then 0
  else column + 1

/-- The column behind some characters at the start of a line. -/
def columnOf (byBytes : Bool) (s : List Char) : Nat :=
  s.foldl (foldColumn byBytes) 0

/-- Characters with breaks in them, `line` being the present line from its last character on. -/
def broken (byBytes atBlanks : Bool) (width : Nat) : Nat → List Char → List Char → List Char
  | 0, line, rest => line.reverse ++ rest
  | _, line, [] => line.reverse
  | n + 1, line, c :: rest =>
    if c == '\n' then line.reverse ++ '\n' :: broken byBytes atBlanks width n [] rest
    else if foldColumn byBytes (columnOf byBytes line.reverse) c ≤ width || line.isEmpty then
      broken byBytes atBlanks width n (c :: line) rest
    else
      let isBlank := fun (c : Char) => c == ' ' || c == '\t'
      let word := line.takeWhile fun c => !isBlank c
      if atBlanks && word.length < line.length then
        (line.drop word.length).reverse ++ '\n' ::
          broken byBytes atBlanks width n word (c :: rest)
      else line.reverse ++ '\n' :: broken byBytes atBlanks width n [] (c :: rest)

/-- Breaks lines that are too long. -/
def fold : Program := fun name ws =>
  let isWidth := fun (w : List Char) =>
    w.head? == some '-' && w.length > 1 && (w.drop 1).all (·.isDigit)
  let ws := ws.map fun w => if isWidth w then '-' :: 'w' :: w.drop 1 else w
  withOptions
    { letters := "bsw:", names := [("bytes", "b"), ("spaces", "s"), ("width", "w")] }
    (fun name a => do
      let asked := (a.value? "w").getD ['8', '0']
      let invalid := "invalid number of columns: ".toList ++ curly asked
      match digits? asked with
      | none => giveUp name invalid
      | some 0 => giveUp name (invalid ++ ": Numerical result out of range".toList)
      | some width =>
        eachInput name a.operands fun s =>
          write 1 (broken (a.has "b") (a.has "s") width (3 * s.length + 1) [] s)) name ws

/-- A line with blanks in place of its tabs. -/
def untabbed (initial : Bool) (stop : Nat) (line : List Char) : List Char :=
  let step := fun (state : List Char × Nat × Bool) (c : Char) =>
    let (done, column, leading) := state
    let open' := leading || !initial
    if c == '\t' && open' then
      let gap := stop - column % stop
      (List.replicate gap ' ' ++ done, column + gap, leading)
    else (c :: done, column + 1, leading && c == ' ')
  (line.foldl step ([], 0, true)).1.reverse

/-- Writes blanks in place of tabs. -/
def expand : Program := withOptions
    { letters := "it:", names := [("initial", "i"), ("tabs", "t")] } fun name a => do
  let stop := ((a.value? "t").bind digits?).getD 8
  eachInput name a.operands fun s =>
    write 1 ((cutLines s).flatMap (untabbed (a.has "i") (max stop 1)))

/-! ### Side by side -/

/-- The delimiters in a text, in which a backslash can introduce some; nothing stands for `\0`. -/
def delimiters : List Char → List (List Char)
  | [] => []
  | '\\' :: c :: rest =>
    let own := match c with
      | '0' => []
      | 'n' => ['\n']
      | 't' => ['\t']
      | 'b' => ['\x08']
      | 'f' => ['\x0c']
      | 'r' => ['\r']
      | 'v' => ['\x0b']
      | c => [c]
    own :: delimiters rest
  | c :: rest => [c] :: delimiters rest

/-- Texts with delimiters between them, which are used in turn. -/
def joinedBy (ds : List (List Char)) (texts : List (List Char)) : List Char :=
  (texts.zipIdx.map fun (t, i) =>
    (if i == 0 || ds.isEmpty then [] else (ds[(i - 1) % ds.length]?).getD []) ++ t).flatten

/-- Lines side by side, up to the longest of the columns. -/
def sideBySide (ds : List (List Char)) (columns : List (List (List Char))) : List (List Char) :=
  let columns := columns.map List.toArray
  let height := columns.foldl (fun n c => max n c.size) 0
  (List.range height).map fun i => joinedBy ds (columns.map fun column => (column[i]?).getD [])

/-- Deals lines out to several columns in turn. -/
def dealt (lines : List (List Char)) (count turn : Nat) : List (List Char) :=
  (lines.zipIdx.filter fun (_, i) => i % count == turn).map (·.1)

/-- Writes the lines of files side by side. -/
def paste : Program := withOptions
    { letters := "sd:z", names := [("serial", "s"), ("delimiters", "d")] } fun name a => do
  let ds := delimiters ((a.value? "d").getD ['\t'])
  let paths := if a.operands.isEmpty then [['-']] else a.operands
  let streams := paths.count ['-']
  let mut columns := #[]
  let mut complete := true
  let mut turn := 0
  let mut shared : List (List Char) := []
  for path in paths do
    if path == ['-'] && turn > 0 then
      columns := columns.push (if a.has "s" then [] else dealt shared streams turn)
      turn := turn + 1
    else
      match ← contentOf path with
      | .ok s =>
        let lines := linesOf s
        if path == ['-'] && streams > 1 && !a.has "s" then
          shared := lines
          columns := columns.push (dealt lines streams 0)
        else columns := columns.push lines
        if path == ['-'] then turn := turn + 1
      | .error c =>
        tell name (plainMessage path c)
        complete := false
  if !complete && !a.has "s" then return 1
  for line in
      if a.has "s" then columns.toList.map (joinedBy ds) else sideBySide ds columns.toList do
    say line
  return statusOf complete

end FlopCensus.Shell.Program
