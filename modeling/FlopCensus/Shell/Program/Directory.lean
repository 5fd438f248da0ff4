import FlopCensus.Shell.Condition
import FlopCensus.Shell.Program.Excerpt

set_option autoImplicit false
set_option relaxedAutoImplicit false

/-!
# Files and directories

The programs that make, copy, move and remove files.

## Main definitions

* `FlopCensus.Shell.Program.change`: a change of the file system for each of some operands.
* `FlopCensus.Shell.Program.copy`, `FlopCensus.Shell.Program.move`, `FlopCensus.Shell.Program.link`:
  programs with a destination.
-/

namespace FlopCensus.Shell.Program

/-- Changes the file system for each operand, or says why not. -/
def change (name : List Char) (operands : List (List Char))
    (f : FileSystem → List Char → Except (List Char) FileSystem) : Run Nat := do
  let mut complete := true
  for w in operands do
    match f (← get).files w with
    | .ok files => set { ← get with files }
    | .error text =>
      tell name text
      complete := false
  return statusOf complete

/-- A complaint about a file. -/
def about (doing : String) (shown : List Char) (why : String) : List Char :=
  doing.toList ++ ' ' :: shown ++ ": ".toList ++ why.toList

/-- The file at a path itself, a link there not being followed. -/
def ownFile? (files : FileSystem) (path : String) : Option File :=
  if path == "" then none else files.root.at? (files.ownPlace path)

/-- The file at a path is there, be it a link that leads nowhere. -/
def isThere (files : FileSystem) (path : String) : Bool :=
  (ownFile? files path).isSome

/-- The last component of a path. -/
def lastName (w : List Char) : List Char :=
  let body := (w.reverse.dropWhile (· == '/')).reverse
  (body.reverse.takeWhile (· != '/')).reverse

/-- A path in a directory. -/
def below (directory name : List Char) : List Char :=
  if directory.getLast? == some '/' then directory ++ name else directory ++ '/' :: name

/-! ### Making and removing -/

/-- Makes a directory with those above it, telling which. -/
def makeAll (name : List Char) (verbose : Bool) (w : List Char) : Run Bool := do
  let parts := Text.splitOnChar '/' w
  let paths := (List.range parts.length).map fun i => ['/'].intercalate (parts.take (i + 1))
  for path in paths.filter (!·.isEmpty) do
    let files := (← get).files
    if !files.isDirectory (pathOf path) then
      if isThere files (pathOf path) then
        let why := if path == w then "File exists" else "Not a directory"
        tell name (about "cannot create directory" (curly path) why)
        return false
      if verbose then say (name ++ ": created directory ".toList ++ quoted path)
      modify fun m => { m with files := m.files.putDirectory (pathOf path) }
  return true

/-- Makes directories. -/
def mkdir : Program := withOptions
    { letters := "pvm:", names := [("parents", "p"), ("verbose", "v"), ("mode", "m")] }
    fun name a => do
  if a.operands.isEmpty then noOperand name
  else
    let mut complete := true
    for w in a.operands do
      let path := pathOf w
      let files := (← get).files
      let refuse := fun (why : String) => about "cannot create directory" (curly w) why
      if a.has "p" && !w.isEmpty then
        if !(← makeAll name (a.has "v") w) then complete := false
      else
        match if isThere files path then some "File exists" else
          match hasParent files path with
          | .ok _ => if w.isEmpty then some Files.Cause.notFound.text else none
          | .error c => some c.text with
        | some why =>
          tell name (refuse why)
          complete := false
        | none =>
          modify fun m => { m with files := m.files.putDirectory path }
          if a.has "v" then say (name ++ ": created directory ".toList ++ quoted w)
    return statusOf complete

/-- Makes empty files. -/
def touch : Program := withOptions
    { letters := "acmhfd:r:t:"
      names := [("no-create", "c"), ("date", "d"), ("reference", "r")] } fun name a => do
  if a.operands.isEmpty then misuse name "missing file operand".toList
  else change name a.operands fun files w =>
    let path := pathOf w
    let refuse := fun (why : String) => .error (about "cannot touch" (quoted w) why)
    if files.holds path then .ok files
    else if w.isEmpty then refuse Files.Cause.notFound.text
    else
      match hasParent files path with
      | .ok _ => .ok (if a.has "c" then files else files.put path (.regular [] false))
      | .error c => refuse c.text

mutual

/-- The paths in a file tree, what a directory holds in front of the directory itself, and whether
each is a directory. -/
def inside (path : List Char) : File → List (List Char × Bool)
  | .directory _ es => insideEntries path es ++ [(path, true)]
  | _ => [(path, false)]

/-- The paths in the entries of a directory. -/
def insideEntries (path : List Char) : List (String × File) → List (List Char × Bool)
  | [] => []
  | (n, f) :: es => inside (below path (Text.octets n)) f ++ insideEntries path es

end

/-- Takes files away. -/
def rm : Program := withOptions
    { letters := "frRdviI"
      names := [("force", "f"), ("recursive", "r"), ("dir", "d"), ("verbose", "v")] }
    fun name a => do
  if a.operands.isEmpty && !a.has "f" then noOperand name
  else
    let deep := a.has "r" || a.has "R"
    let mut complete := true
    for w in a.operands do
      let path := pathOf w
      let files := (← get).files
      let refuse := fun (why : String) => some (about "cannot remove" (quoted w) why)
      let cause := match files.find path with
        | .error c => c
        | .ok _ => .notFound
      let blocked : Option (List Char) :=
        if deep && [['.'], ['.', '.']].contains (lastName w) then
          some ("refusing to remove '.' or '..' directory: skipping ".toList ++ quoted w)
        else
          match ownFile? files path with
          | none => if a.has "f" then none else refuse cause.text
          | some (.directory _ es) =>
            if deep then none
            else if !a.has "d" then refuse "Is a directory"
            else if es.isEmpty then none
            else refuse "Directory not empty"
          | some _ => none
      match blocked, ownFile? files path with
      | some text, _ =>
        tell name text
        complete := false
      | none, some f =>
        if a.has "v" then
          for (p, isDirectory) in inside w f do
            say ((if isDirectory then "removed directory " else "removed ").toList ++ quoted p)
        set { ← get with files := files.erase path }
      | none, none => pure ()
    return statusOf complete

/-- Takes empty directories away. -/
def rmdir : Program := withOptions
    { letters := "pv"
      names := [("parents", "p"), ("verbose", "v"), ("ignore-fail-on-non-empty", "i")] }
    fun name a => do
  if a.operands.isEmpty then noOperand name
  else
    let mut complete := true
    for w in a.operands do
      let parts := Text.splitOnChar '/' w
      let paths :=
        if a.has "p" then
          (List.range parts.length).reverse.map fun i => ['/'].intercalate (parts.take (i + 1))
        else [w]
      for path in paths do
        let files := (← get).files
        if a.has "v" then say (name ++ ": removing directory, ".toList ++ quoted path)
        let why : Option String := match ownFile? files (pathOf path) with
          | some (.directory _ []) => none
          | some (.directory ..) => some "Directory not empty"
          | some _ => some Files.Cause.notDirectory.text
          | none => match files.find (pathOf path) with
            | .error c => some c.text
            | .ok _ => some Files.Cause.notFound.text
        match why with
        | none => set { ← get with files := files.erase (pathOf path) }
        | some why =>
          if !(a.has "i" && why == "Directory not empty") then
            tell name (about "failed to remove" (quoted path) why)
            complete := false
          break
    return statusOf complete

/-! ### Copying and moving -/

/-- The operands of a program with a destination, and the destination. -/
def withDestination (name : List Char) (a : Arguments)
    (f : List (List Char) → List Char → Run Nat) : Run Nat :=
  match a.value? "t", a.operands with
  | some directory, ws => f ws directory
  | none, [] => misuse name "missing file operand".toList
  | none, [w] => misuse name ("missing destination file operand after ".toList ++ quoted w)
  | none, ws => f ws.dropLast (ws.getLast?.getD [])

/-- Brings each of some files to a destination: a directory or, for one file, a path. -/
def bring (name : List Char) (sources : List (List Char)) (destination : List Char)
    (plain : Bool) (f : List Char → List Char → Run Bool) : Run Nat := do
  let files := (← get).files
  let target := pathOf destination
  let isDirectory := files.isDirectory target && !plain
  if sources.length > 1 && !isDirectory then
    let why := match files.find target with
      | .ok _ => "Not a directory"
      | .error c => c.text
    return ← giveUp name (about "target" (quoted destination) why)
  let mut complete := true
  for w in sources do
    if !(← f w (if isDirectory then below destination (lastName w) else destination)) then
      complete := false
  return statusOf complete

/-- The place of a path. -/
def placeOf (files : FileSystem) (w : List Char) : Files.Place :=
  files.placeFor (pathOf w)

/-- Copies files. -/
def copy : Program := withOptions
    { letters := "rRafpvnidPLHTt:u"
      names := [("recursive", "r"), ("archive", "a"), ("force", "f"), ("verbose", "v"),
        ("no-clobber", "n"), ("target-directory", "t"), ("no-target-directory", "T")] }
    fun name a => withDestination name a fun sources destination =>
      bring name sources destination (a.has "T") fun w target => do
  let files := (← get).files
  let deep := a.has "r" || a.has "R" || a.has "a"
  let refuse := fun (text : List Char) => do
    tell name text
    return false
  let found := if deep then (ownFile? files (pathOf w)).elim (files.find (pathOf w)) .ok
    else files.find (pathOf w)
  match found with
  | .error c => refuse (about "cannot stat" (quoted w) c.text)
  | .ok f =>
    let old := files.find (pathOf target)
    match f, old, hasParent files (pathOf target) with
    | .directory _ es, _, _ =>
      if !deep then refuse ("-r not specified; omitting directory ".toList ++ quoted w)
      -- places have their last name in front, so the target lies below the source
      else if (placeOf files w).isSuffixOf (placeOf files target) then
        refuse ("cannot copy a directory, ".toList ++ quoted w ++ ", into itself, ".toList ++
          quoted target)
      else
        match old with
        | .ok (.directory ..) =>
          let files := es.foldl (fun files (n, g) =>
            files.put (Files.join (pathOf target) n) g) files
          set { ← get with files }
          return true
        | .ok _ =>
          refuse ("cannot overwrite non-directory ".toList ++ quoted target ++
            " with directory ".toList ++ quoted w)
        | .error _ =>
          set { ← get with files := files.put (pathOf target) f }
          return true
    | _, .ok (.directory ..), _ =>
      refuse ("cannot overwrite directory ".toList ++ quoted target ++
        " with non-directory".toList)
    | _, _, .error c => refuse (about "cannot create regular file" (quoted target) c.text)
    | _, _, _ =>
      if placeOf files w == placeOf files target then
        refuse (quoted w ++ " and ".toList ++ quoted target ++ " are the same file".toList)
      else
        if !(a.has "n" && old.toOption.isSome) then
          if a.has "v" then say (quoted w ++ " -> ".toList ++ quoted target)
          set { ← get with files := files.put (pathOf target) f }
        return true

/-- Moves files. -/
def move : Program := withOptions
    { letters := "fvniTt:u"
      names := [("force", "f"), ("verbose", "v"), ("no-clobber", "n"), ("target-directory", "t"),
        ("no-target-directory", "T")] }
    fun name a => withDestination name a fun sources destination =>
      bring name sources destination (a.has "T") fun w target => do
  let files := (← get).files
  let refuse := fun (text : List Char) => do
    tell name text
    return false
  match ownFile? files (pathOf w) with
  | none =>
    let why := match files.find (pathOf w) with
      | .error c => c.text
      | .ok _ => Files.Cause.notFound.text
    refuse (about "cannot stat" (quoted w) why)
  | some f =>
    let cannot := fun (why : List Char) =>
      refuse ("cannot move ".toList ++ quoted w ++ " to ".toList ++ quoted target ++ why)
    match f, ownFile? files (pathOf target), hasParent files (pathOf target) with
    | _, _, .error c => cannot (": ".toList ++ causeText c)
    | .directory .., some (.regular ..), _ | .directory .., some (.link _), _ =>
      refuse ("cannot overwrite non-directory ".toList ++ quoted target ++
        " with directory ".toList ++ quoted w)
    | .directory .., some (.directory _ (_ :: _)), _ => cannot ": Directory not empty".toList
    | .directory .., _, _ =>
      if (placeOf files w).isSuffixOf (placeOf files target) then
        refuse ("cannot move ".toList ++ quoted w ++ " to a subdirectory of itself, ".toList ++
          quoted target)
      else finish files w target f
    | _, some (.directory ..), _ =>
      refuse ("cannot overwrite directory ".toList ++ quoted target ++
        " with non-directory".toList)
    | _, old, _ =>
      if files.ownPlace (pathOf w) == files.ownPlace (pathOf target) then
        refuse (quoted w ++ " and ".toList ++ quoted target ++ " are the same file".toList)
      else if a.has "n" && old.isSome then return true
      else
        if a.has "v" then say ("renamed ".toList ++ quoted w ++ " -> ".toList ++ quoted target)
        finish files w target f
where
  /-- Puts the file to its new place. -/
  finish (files : FileSystem) (w target : List Char) (f : File) : Run Bool := do
    set { ← get with files := files.move (pathOf w) (pathOf target) f }
    return true

/-- Makes links. A link that is none by name is a copy. -/
def link : Program := withOptions
    { letters := "sfnvrTt:"
      names := [("symbolic", "s"), ("force", "f"), ("verbose", "v"), ("target-directory", "t"),
        ("no-dereference", "n")] }
    fun name a => do
  let (sources, destination) := match a.value? "t", a.operands with
    | some directory, ws => (ws, directory)
    | none, [w] => ([w], ['.'])
    | none, ws => (ws.dropLast, ws.getLast?.getD [])
  if sources.isEmpty then misuse name "missing file operand".toList
  else bring name sources destination (a.has "T") fun w target => do
    let files := (← get).files
    let path := pathOf target
    let refuse := fun (text : List Char) => do
      tell name text
      return false
    let kind := if a.has "s" then "symbolic link " else "hard link "
    let failed := fun (why : String) =>
      refuse (("failed to create " ++ kind).toList ++ quoted target ++ ": ".toList ++ why.toList)
    let clear := fun (files : FileSystem) => if a.has "f" then files.erase path else files
    if !a.has "s" then
      match files.find (pathOf w) with
      | .error c => return ← refuse (about "failed to access" (quoted w) c.text)
      | .ok (.directory ..) =>
        return ← refuse (w ++ ": hard link not allowed for directory".toList)
      | .ok _ => pure ()
    match hasParent files path with
    | .error c => failed c.text
    | .ok _ =>
      if isThere files path && !a.has "f" then failed "File exists"
      else
        let made :=
          match if a.has "s" then none else (files.find (pathOf w)).toOption with
          | some f => (clear files).put path f
          | none => (clear files).putLink path (pathOf w)
        if a.has "v" then
          say (quoted target ++ (if a.has "s" then " -> " else " => ").toList ++ quoted w)
        set { ← get with files := made }
        return true

/-! ### Modes and names -/

/-- What one clause of a mode makes of whether owner, group and others can run a file. -/
def clauseApplied (isDirectory : Bool) (bits : List Bool) (clause : List Char) :
    Option (List Bool) :=
  let who := clause.takeWhile "ugoa".toList.contains
  match clause.drop who.length with
  | op :: what =>
    if !"+-=".toList.contains op || !what.all "rwxXst".toList.contains then none
    else
      let chosen := "ugo".toList.map fun c => who.isEmpty || who.contains 'a' || who.contains c
      let runs := what.contains 'x' || (what.contains 'X' && (isDirectory || bits.any id))
      some ((bits.zip chosen).map fun (bit, isChosen) =>
        if !isChosen then bit
        else if op == '+' then bit || runs
        else if op == '-' then bit && !runs
        else runs)
  | [] => none

/-- A file with a mode can be run, having been one that can be or not. -/
def modeApplied (isDirectory : Bool) (mode : List Char) (before : Bool) : Option Bool :=
  if mode.all (·.isDigit) then
    if mode.isEmpty || mode.length > 5 || mode.any (· > '7') then none
    else some ((mode.reverse.take 3).any fun c => c.toNat % 2 == 1)
  else do
    let bits ← (Text.splitOnChar ',' mode).foldlM (clauseApplied isDirectory)
      [before, before, before]
    return bits.any id

/-- Changes who may do what with files. -/
def chmod : Program := fun name ws => do
  let spelled := fun (w : List Char) =>
    w.length > 1 && w.head? == some '-' && (w.drop 1).all "rwxXst".toList.contains
  let (modes, ws) := match ws.find? spelled with
    | some m => ([m], ws.erase m)
    | none => ([], ws)
  withOptions
    { letters := "Rvcf", names := [("recursive", "R"), ("verbose", "v"), ("quiet", "f")] }
    (fun name a =>
      match modes ++ a.operands with
      | [] => noOperand name
      | [mode] => noOperandAfter name mode
      | mode :: paths =>
        if (modeApplied false mode false).isNone then
          misuse name ("invalid mode: ".toList ++ curly mode)
        else change name paths fun files w =>
          match files.find (pathOf w) with
          | .error c => .error (about "cannot access" (quoted w) c.text)
          | .ok (.regular content before) =>
            .ok (files.put (pathOf w)
              (.regular content ((modeApplied false mode before).getD before)))
          | .ok _ => .ok files) name ws

/-- The path of a file without links, the last component of which may be missing. -/
def canonical (files : FileSystem) (strict : Bool) (w : List Char) :
    Except Files.Cause (List Char) := do
  let shown := fun (place : Files.Place) => Text.octets ("/" ++ "/".intercalate place.reverse)
  match files.locate (pathOf w) with
  | .ok place => return shown place
  | .error c =>
    if c != .notFound || strict then throw c
    let _ ← hasParent files (pathOf w)
    return shown (placeOf files w)

/-- Writes where links lead. -/
def readlink : Program := withOptions
    { letters := "femnqsvz"
      names := [("canonicalize", "f"), ("canonicalize-existing", "e"),
        ("canonicalize-missing", "m"), ("no-newline", "n")] } fun name a => do
  if a.operands.isEmpty then noOperand name
  else
    let files := (← get).files
    let mut complete := true
    for w in a.operands do
      let found : Option (List Char) :=
        if a.has "f" || a.has "e" || a.has "m" then (canonical files (a.has "e") w).toOption
        else
          match ownFile? files (pathOf w) with
          | some (.link target) => some (Text.octets target)
          | _ => none
      match found with
      | some path => write 1 (path ++ if a.has "n" then [] else ['\n'])
      | none => complete := false
    return statusOf complete

/-- Writes paths without links. -/
def realpath : Program := withOptions
    { letters := "emqsz", names := [("canonicalize-existing", "e"), ("quiet", "q")] }
    fun name a => do
  if a.operands.isEmpty then noOperand name
  else
    let files := (← get).files
    let mut complete := true
    for w in a.operands do
      match canonical files (a.has "e") w with
      | .ok path => say path
      | .error c =>
        if !a.has "q" then tell name (plainMessage w c)
        complete := false
    return statusOf complete

/-! ### Listing -/

/-- The letter behind a name that says what it is. -/
def mark (a : Arguments) (f : File) : List Char :=
  match f with
  | .directory .. => if a.has "F" || a.has "p" then ['/'] else []
  | .link _ => if a.has "F" then ['@'] else []
  | .regular _ true => if a.has "F" then ['*'] else []
  | .regular _ false => []

/-- The size by which a file is listed. -/
def sizeOf (f : File) : Nat :=
  match f with
  | .regular content _ => content.length
  | .link target => target.utf8ByteSize
  | .directory .. => 4096

/-- The entries in a directory that a listing shows. -/
def listed (a : Arguments) (f : File) : List (List Char × File) :=
  let all := f.entries.map fun (n, g) => (Text.octets n, g)
  let shown :=
    if a.has "a" then (['.'], f) :: (['.', '.'], f) :: all
    else if a.has "A" then all
    else all.filter fun (n, _) => n.head? != some '.'
  let sorted := shown.mergeSort fun x y => byteOrder x.1 y.1
  let sorted :=
    if a.has "S" then sorted.mergeSort fun x y => decide (sizeOf y.2 ≤ sizeOf x.2) else sorted
  if a.has "r" then sorted.reverse else sorted

/-- Writes the names of files. -/
def showNames (a : Arguments) (entries : List (List Char × File)) : Run Unit := do
  let names := entries.map fun (n, f) =>
    (if a.has "Q" then '"' :: n ++ ['"'] else n) ++ mark a f
  if a.has "m" then
    if !names.isEmpty then say (", ".toList.intercalate names)
  else for n in names do say n

/-- The directories below one, with the entries of each. -/
def deepEntries (a : Arguments) : Nat → List Char × File → List (List Char × File)
  | 0, d => [d]
  | n + 1, (path, f) =>
    (path, f) :: (listed a f).flatMap fun (name, g) =>
      match g with
      | .directory .. =>
        if name == ['.'] || name == ['.', '.'] then []
        else deepEntries a n (below path name, g)
      | _ => []

/-- The greatest depth of directories that are listed. -/
def depthLimit : Nat := 200

/-- Lists directories. -/
def ls : Program := withOptions
    { letters := "1aAdrpFQmRSUtXxChLHnNqbB"
      names := [("all", "a"), ("almost-all", "A"), ("directory", "d"), ("reverse", "r"),
        ("recursive", "R"), ("classify", "F"), ("quote-name", "Q")], failure := 2 } fun name a => do
  let files := (← get).files
  let paths := if a.operands.isEmpty then [['.']] else a.operands
  let mut status := 0
  let mut plain := []
  let mut directories := []
  let sorted := paths.mergeSort byteOrder
  for path in if a.has "r" then sorted.reverse else sorted do
    match files.find (pathOf path) with
    | .error c =>
      match ownFile? files (pathOf path) with
      | some f => plain := plain ++ [(path, f)]
      | none =>
        tell name (about "cannot access" (quoted path) c.text)
        status := 2
    | .ok (.directory _ es) =>
      let f := File.directory true es
      if a.has "d" then plain := plain ++ [(path, f)]
      else if a.has "R" then directories := directories ++ deepEntries a depthLimit (path, f)
      else directories := directories ++ [(path, f)]
    | .ok f => plain := plain ++ [(path, f)]
  showNames a plain
  let mut first := plain.isEmpty
  for (path, f) in directories do
    if paths.length > 1 || a.has "R" then
      if !first then say []
      say (path ++ [':'])
    first := false
    showNames a (listed a f)
  return status

end FlopCensus.Shell.Program
