import FlopCensus.Numeral.Real
import FlopCensus.Shell.Program.Excerpt

set_option autoImplicit false
set_option relaxedAutoImplicit false

/-!
# Lines in order

Lines are compared by keys, which are parts of them, and each key in its own way. Lines that are
the same by all keys are compared as a whole unless they count as one.

## Main definitions

* `FlopCensus.Shell.Program.SortKey`: a key, with the way in which it is compared.
* `FlopCensus.Shell.Program.sort`: lines in order.
* `FlopCensus.Shell.Program.uniq`: lines without repetitions.
* `FlopCensus.Shell.Program.comm`: what two inputs have in common.
-/

namespace FlopCensus.Shell.Program

/-! ### Comparisons -/

/-- The order of byte sequences. -/
def byteCompare : List Char → List Char → Ordering
  | [], [] => .eq
  | [], _ => .lt
  | _, [] => .gt
  | a :: s, b :: t => if a == b then byteCompare s t else if a < b then .lt else .gt

/-- A number in front of a text as a fraction with a power of ten below it. -/
structure Leading where
  negative : Bool := false
  digits : List Char := []
  places : List Char := []
  /-- What follows the number. -/
  rest : List Char := []

/-- The number in front of a text. -/
def leading (s : List Char) : Leading :=
  let (negative, s) := match s with
    | '-' :: s => (true, s)
    | s => (false, s)
  let digits := s.takeWhile (·.isDigit)
  match s.drop digits.length with
  | '.' :: rest =>
    let places := rest.takeWhile (·.isDigit)
    { negative, digits, places, rest := rest.drop places.length }
  | rest => { negative, digits, rest }

/-- The number times a power of ten. -/
def Leading.scaled (n : Leading) (places : Nat) : Int :=
  let ds := n.digits ++ n.places ++ List.replicate (places - n.places.length) '0'
  let value := Int.ofNat (ds.foldl (fun n c => 10 * n + (c.toNat - 48)) 0)
  if n.negative then -value else value

/-- The order of the numbers in front of texts. -/
def numericCompare (s t : List Char) : Ordering :=
  let (m, n) := (leading s, leading t)
  let places := max m.places.length n.places.length
  compare (m.scaled places) (n.scaled places)

/-- The order by the letter for a power of a thousand, and then by the number. -/
def humanCompare (s t : List Char) : Ordering :=
  let rank := fun (n : Leading) =>
    let power := match n.rest.head? with
      | some c => if c == 'k' then 1 else (("KMGTPEZY".toList.idxOf? c).map (· + 1)).getD 0
      | none => 0
    let size := Int.ofNat (if n.scaled n.places.length == 0 then 0 else power)
    if n.negative then -size else size
  (compare (rank (leading s)) (rank (leading t))).then (numericCompare s t)

/-- The real number in front of a text. -/
def realIn (s : List Char) : Option Float :=
  let lengths := (List.range (min s.length 40 + 1)).reverse
  lengths.findSome? fun n =>
    let front := s.take n
    if front.any fun c => c == '_' || c == ' ' then none
    else Numeral.readReal (String.ofList front)

/-- The order of the real numbers in front of texts: no number, what is no number by name, and
numbers. -/
def realCompare (s t : List Char) : Ordering :=
  let rank := fun (x : Option Float) =>
    match x with
    | none => 0
    | some x => if x.isNaN then 1 else 2
  let (x, y) := (realIn s, realIn t)
  match x, y with
  | some x', some y' =>
    if x' < y' then .lt else if y' < x' then .gt else compare (rank x) (rank y)
  | _, _ => compare (rank x) (rank y)

/-- The names of months. -/
def months : List String :=
  ["JAN", "FEB", "MAR", "APR", "MAY", "JUN", "JUL", "AUG", "SEP", "OCT", "NOV", "DEC"]

/-- The number of the month in front of a text. -/
def monthOf (s : List Char) : Nat :=
  let name := String.ofList ((s.take 3).map Char.toUpper)
  ((months.idxOf? name).map (· + 1)).getD 0

/-- The weight of a character in a version. -/
def versionWeight (c : Option Char) : Int :=
  match c with
  | none => -1
  | some c =>
    if c.isDigit then 0
    else if c.isAlpha then c.toNat
    else if c == '~' then -2
    else c.toNat + 256

/-- The order of versions, in which digits form numbers. -/
def versionCompare : Nat → List Char → List Char → Ordering
  | 0, _, _ => .eq
  | n + 1, s, t =>
    let isText := fun (s : List Char) => s.head?.any fun c => !c.isDigit
    if s.isEmpty && t.isEmpty then .eq
    else if isText s || isText t then
      let order := compare (versionWeight s.head?) (versionWeight t.head?)
      if order != .eq then order else versionCompare n (s.drop 1) (t.drop 1)
    else
      let number := fun (s : List Char) => (s.takeWhile (·.isDigit)).dropWhile (· == '0')
      let behind := fun (s : List Char) => s.dropWhile (·.isDigit)
      let (a, b) := (number s, number t)
      let order := (compare a.length b.length).then (byteCompare a b)
      if order != .eq then order else versionCompare n (behind s) (behind t)

/-! ### Keys -/

/-- A key. -/
structure SortKey where
  /-- The first field, counted from zero, and the character in it. -/
  first : Nat := 0
  firstChar : Nat := 0
  /-- The last field and the number of characters of it; none for the end of the line. -/
  last : Option Nat := none
  lastChar : Nat := 0
  /-- Blanks at the start and at the end of the key do not count. -/
  skipsFirst : Bool := false
  skipsLast : Bool := false
  /-- The letters for the way of comparison. -/
  ways : List Char := []
deriving Repr, DecidableEq

/-- Blanks between fields. -/
def isGap (c : Char) : Bool :=
  c == ' ' || c == '\t' || c == '\n'

/-- What is left behind some fields. -/
def behindFields (tab : Option Char) : Nat → List Char → List Char
  | 0, s => s
  | n + 1, s =>
    match tab with
    | some c => behindFields tab n ((s.dropWhile (· != c)).drop 1)
    | none => behindFields tab n ((s.dropWhile isGap).dropWhile fun c => !isGap c)

/-- What is left behind the last field of a key. -/
def behindLast (tab : Option Char) (k : SortKey) (last : Nat) (s : List Char) : List Char :=
  let rest :=
    if k.lastChar == 0 then
      match tab with
      | some c => (behindFields tab last s).dropWhile (· != c)
      | none => behindFields tab (last + 1) s
    else behindFields tab last s
  let rest := if k.lastChar != 0 && k.skipsLast then rest.dropWhile isGap else rest
  rest.drop k.lastChar

/-- The part of a line that a key stands for. -/
def SortKey.part (tab : Option Char) (k : SortKey) (line : List Char) : List Char :=
  let start := behindFields tab k.first line
  let start := (if k.skipsFirst then start.dropWhile isGap else start).drop k.firstChar
  match k.last with
  | none => start
  | some last => start.take (start.length - (behindLast tab k last line).length)

/-- The order of two parts of lines. -/
def SortKey.compare (k : SortKey) (s t : List Char) : Ordering :=
  let has := k.ways.contains
  let trim := fun (s : List Char) => s.dropWhile isGap
  let shown := fun (s : List Char) =>
    let s := if has 'd' then s.filter fun c => c.isAlphanum || c == ' ' || c == '\t' else s
    let s := if has 'i' then s.filter fun c => ' ' ≤ c && c ≤ '~' else s
    if has 'f' then s.map Char.toUpper else s
  let order :=
    if has 'n' then numericCompare (trim s) (trim t)
    else if has 'g' then realCompare (trim s) (trim t)
    else if has 'h' then humanCompare (trim s) (trim t)
    else if has 'M' then Ord.compare (monthOf (trim s)) (monthOf (trim t))
    else if has 'V' then versionCompare (s.length + t.length + 1) s t
    else byteCompare (shown s) (shown t)
  if has 'r' then order.swap else order

/-- The order of two lines by some keys. -/
def keysCompare (tab : Option Char) (ks : List SortKey) (s t : List Char) : Ordering :=
  ks.foldl (fun order k =>
    if order != .eq then order else k.compare (k.part tab s) (k.part tab t)) .eq

/-- A count at the start of a text, and what follows it. -/
def fieldCount (context : String) (s : List Char) : Except (List Char) (Nat × List Char) :=
  let ds := s.takeWhile (·.isDigit)
  match digits? ds with
  | some n => .ok (n, s.drop ds.length)
  | none => .error (context.toList ++ ": invalid count at start of ".toList ++ curly s)

/-- The letters of a key: those for its way of comparison, and whether blanks are skipped. -/
def keyLetters (s : List Char) : List Char × Bool × List Char :=
  let ls := s.takeWhile "bdfgiMhnRrV".toList.contains
  (ls.filter (· != 'b'), ls.contains 'b', s.drop ls.length)

/-- A key from its text. -/
def readKey (text : List Char) : Except (List Char) SortKey := do
  let bad := fun (why : String) =>
    why.toList ++ ": invalid field specification ".toList ++ curly text
  let (first, s) ← fieldCount "invalid number at field start" text
  if first == 0 then throw (bad "field number is zero")
  let (firstChar, s) ← match s with
    | '.' :: rest => do
      let (n, rest) ← fieldCount "invalid number after '.'" rest
      if n == 0 then throw (bad "character offset is zero")
      pure (n - 1, rest)
    | rest => pure (0, rest)
  let (ways, skipsFirst, s) := keyLetters s
  let k : SortKey := { first := first - 1, firstChar, skipsFirst, ways }
  match s with
  | [] => return k
  | ',' :: s =>
    let (last, s) ← fieldCount "invalid number after ','" s
    if last == 0 then throw (bad "field number is zero")
    let (lastChar, s) ← match s with
      | '.' :: rest => fieldCount "invalid number after '.'" rest
      | rest => pure (0, rest)
    let (more, skipsLast, s) := keyLetters s
    if !s.isEmpty then throw (bad "stray character in field spec")
    return { k with last := some (last - 1), lastChar, ways := k.ways ++ more, skipsLast }
  | _ => throw (bad "stray character in field spec")

/-- Letters that cannot stand side by side. -/
def clash? (ways : List Char) : Option (List Char) :=
  let order := "dfghiMnRV".toList.filter ways.contains
  let kinds := "nghM".toList.filter ways.contains
  let texts := if ways.any "VRdi".toList.contains then 1 else 0
  if kinds.length + texts > 1 then
    some ("options ".toList ++ quoted ('-' :: order) ++ " are incompatible".toList)
  else none

/-! ### Sorting -/

/-- How lines are sorted. -/
structure SortOrder where
  keys : List SortKey
  tab : Option Char := none
  unique : Bool := false
  stable : Bool := false
  reverse : Bool := false

/-- The order of two lines. -/
def SortOrder.compare (o : SortOrder) (s t : List Char) : Ordering :=
  let order := keysCompare o.tab o.keys s t
  if order != .eq || o.unique || o.stable then order
  else if o.reverse then (byteCompare s t).swap
  else byteCompare s t

/-- Lines of which neighbours that are the same have been made one. -/
def withoutRepeats {α : Type} (same : α → α → Bool) (xs : List α) : List α :=
  (xs.foldl (fun kept x => if kept.head?.any (same · x) then kept else x :: kept) []).reverse

/-- The lines of several sorted inputs. -/
def mergeLines (le : List Char → List Char → Bool) (inputs : List (List (List Char))) :
    List (List Char) :=
  inputs.foldl (fun all lines => List.merge all lines le) []

/-- The first line that is out of order, with its number. -/
def disorder? (o : SortOrder) : Nat → List (List Char) → Option (Nat × List Char)
  | n, a :: b :: rest =>
    let order := o.compare a b
    if order == .gt || (o.unique && order == .eq) then some (n + 1, b)
    else disorder? o (n + 1) (b :: rest)
  | _, _ => none

/-- The keys that the options ask for; those without letters get the general ones. -/
def sortKeys (a : Arguments) : Except (List Char) (List SortKey) := do
  let general := (a.given.filter fun (o, _) =>
    ["d", "f", "g", "h", "i", "M", "n", "R", "V", "r"].contains o).flatMap (·.1.toList)
  let general := match (a.value? "sort").map String.ofList with
    | some "numeric" => 'n' :: general
    | some "general-numeric" => 'g' :: general
    | some "human-numeric" => 'h' :: general
    | some "month" => 'M' :: general
    | some "version" => 'V' :: general
    | _ => general
  let keys ← (a.values "k").mapM readKey
  let keys := keys.map fun k =>
    if k.ways.isEmpty && !k.skipsFirst && !k.skipsLast then
      { k with ways := general, skipsFirst := a.has "b", skipsLast := a.has "b" }
    else k
  let keys :=
    if keys.isEmpty then [{ ways := general, skipsFirst := a.has "b" }] else keys
  match keys.findSome? fun k => clash? k.ways with
  | some text => throw text
  | none => return keys

/-- The character between fields. -/
def sortTab (a : Arguments) : Except (List Char) (Option Char) :=
  match a.value? "t" with
  | none => .ok none
  | some [] => .error "empty tab".toList
  | some [c] => .ok (some c)
  | some ['\\', '0'] => .ok (some '\x00')
  | some w => .error ("multi-character tab ".toList ++ curly w)

/-- Sorts lines. -/
def sort : Program := withOptions
    { letters := "bdfghiMnrRVcCk:mo:sS:t:T:uz"
      names := [("key", "k"), ("field-separator", "t"), ("numeric-sort", "n"), ("reverse", "r"),
        ("unique", "u"), ("ignore-case", "f"), ("ignore-leading-blanks", "b"),
        ("check", "check::"), ("output", "o"), ("stable", "s"), ("merge", "m"),
        ("general-numeric-sort", "g"), ("human-numeric-sort", "h"), ("month-sort", "M"),
        ("version-sort", "V"), ("dictionary-order", "d"), ("ignore-nonprinting", "i"),
        ("random-sort", "R"), ("zero-terminated", "z"), ("parallel", "parallel:"),
        ("buffer-size", "S"), ("temporary-directory", "T"), ("sort", "sort:")]
      failure := 2 } fun name a => do
  match (do return (← sortKeys a, ← sortTab a) : Except (List Char) _) with
  | .error text => giveUp name text 2
  | .ok (keys, tab) =>
    let o : SortOrder :=
      { keys, tab, unique := a.has "u", stable := a.has "s", reverse := a.has "r" }
    let quietly := a.has "C" || ["quiet", "silent"].contains
      (String.ofList ((a.value? "check").getD []))
    let checks := a.has "c" || a.has "check" || quietly
    let (found, complete) ← inputs name a.operands fun path c =>
      match c with
      | .isDirectory => "read failed: ".toList ++ path ++ ": ".toList ++ causeText c
      | c =>
        (if checks then "open failed: " else "cannot read: ").toList ++ path ++ ": ".toList ++
          causeText c
    if !complete then return 2
    if checks then
      for (path, s) in found do
        if let some (n, line) := disorder? o 1 (linesOf s) then
          if !quietly then
            tell name (path ++ ':' :: Numeral.decimal n ++ ": disorder: ".toList ++ line)
          return 1
      return 0
    let le := fun (s t : List Char) => o.compare s t != .gt
    let lines := found.map fun (_, s) => linesOf s
    let sorted := if a.has "m" then mergeLines le lines else lines.flatten.mergeSort le
    let sorted :=
      if o.unique then withoutRepeats (fun s t => o.compare s t == .eq) sorted else sorted
    let text := (sorted.map (· ++ ['\n'])).flatten
    match a.value? "o" with
    | none =>
      write 1 text
      return 0
    | some path =>
      match ← store false path text with
      | .ok _ => return 0
      | .error c =>
        giveUp name ("open failed: ".toList ++ path ++ ": ".toList ++ causeText c) 2

/-! ### Repetitions -/

/-- Lines with those in front that are the same by some test, in groups. -/
def groupsOf (same : List Char → List Char → Bool) (lines : List (List Char)) :
    List (List (List Char)) :=
  (lines.foldl (fun groups line =>
    match groups with
    | (first :: more) :: rest =>
      if same (((first :: more).getLast?).getD first) line then (line :: first :: more) :: rest
      else [line] :: (first :: more) :: rest
    | rest => [line] :: rest) []).reverse.map List.reverse

/-- The part of a line by which repetitions are found. -/
def comparedPart (fold : Bool) (fields chars : Nat) (width : Option Nat) (line : List Char) :
    List Char :=
  let rest := (behindFields none fields line).drop chars
  let rest := match width with
    | some n => rest.take n
    | none => rest
  if fold then rest.map Char.toLower else rest

/-- Writes lines without repetitions. -/
def uniq : Program := fun name ws =>
  -- `-3` is an old way of writing `-f 3`
  let isCount := fun (w : List Char) =>
    w.head? == some '-' && w.length > 1 && (w.drop 1).all (·.isDigit)
  let ws := ws.map fun w => if isCount w then '-' :: 'f' :: w.drop 1 else w
  withOptions
    { letters := "cdDuif:s:w:z"
      names := [("count", "c"), ("repeated", "d"), ("unique", "u"), ("ignore-case", "i"),
        ("skip-fields", "f"), ("skip-chars", "s"), ("check-chars", "w"),
        ("all-repeated", "all-repeated::"), ("group", "group::"), ("zero-terminated", "z")] }
    (fun name a => do
      let wrong := [("f", "number of fields to skip"), ("s", "number of bytes to skip"),
        ("w", "number of bytes to compare")].findSome? fun (o, what) =>
          match a.value? o with
          | some v =>
            if (digits? v).isSome then none
            else some (v ++ ": invalid ".toList ++ what.toList)
          | none => none
      let all := a.has "D" || a.has "all-repeated"
      match wrong, a.operands with
      | some text, _ => giveUp name text
      | none, _ :: _ :: w :: _ => extraOperand name w
      | none, paths =>
        if all && a.has "c" then
          misuse name "printing all duplicated lines and repeat counts is meaningless".toList
        else
          match ← contentOf (paths.head?.getD ['-']) with
          | .error c => giveUp name (plainMessage (paths.head?.getD []) c)
          | .ok s =>
            let number := fun (o : String) => (a.value? o).bind digits?
            let key := comparedPart (a.has "i") ((number "f").getD 0) ((number "s").getD 0)
              (number "w")
            let groups := groupsOf (fun s t => key s == key t) (linesOf s)
            let kept := groups.filter fun g =>
              let repeated := g.length > 1
              !((a.has "d" || all) && !repeated) && !(a.has "u" && repeated)
            let style := String.ofList
              (((a.value? "group").filter (!·.isEmpty) <|> a.value? "all-repeated").getD
                "separate".toList)
            let spread := a.has "group" || (a.has "all-repeated" && style != "none" &&
              a.value? "all-repeated" != some [])
            let leads := ["prepend", "both"].contains style
            let blocks := kept.map fun g =>
              if a.has "c" then
                [alignRight 7 (Numeral.decimal g.length) ++ ' ' :: g.head?.getD []]
              else if all || a.has "group" then g
              else g.take 1
            let lines :=
              if spread then
                (if leads && !blocks.isEmpty then [[]] else []) ++ [[]].intercalate blocks ++
                  (if ["append", "both"].contains style && !blocks.isEmpty then [[]] else [])
              else blocks.flatten
            let text := (lines.map (· ++ ['\n'])).flatten
            match paths with
            | [_, out] =>
              match ← store false out text with
              | .ok _ => return 0
              | .error c => giveUp name (plainMessage out c)
            | _ =>
              write 1 text
              return 0) name ws

/-! ### What is common -/

/-- A line of a comparison: in which inputs it is, and the line. -/
inductive Shared where
  | left (line : List Char)
  | right (line : List Char)
  | both (line : List Char)

/-- The lines of two inputs, side by side. -/
def compareLines : Nat → List (List Char) → List (List Char) → List Shared
  | 0, _, _ => []
  | _, [], [] => []
  | n + 1, a :: s, [] => .left a :: compareLines n s []
  | n + 1, [], b :: t => .right b :: compareLines n [] t
  | n + 1, a :: s, b :: t =>
    match byteCompare a b with
    | .eq => .both a :: compareLines n s t
    | .lt => .left a :: compareLines n s (b :: t)
    | .gt => .right b :: compareLines n (a :: s) t

/-- The lines are in order. -/
def inOrder : List (List Char) → Bool
  | a :: b :: rest => byteCompare a b != .gt && inOrder (b :: rest)
  | _ => true

/-- Writes what two sorted inputs have in common. -/
def comm : Program := withOptions
    { letters := "123z"
      names := [("output-delimiter", "output-delimiter:"), ("nocheck-order", "nocheck-order"),
        ("check-order", "check-order"), ("total", "total"), ("zero-terminated", "z")] }
    fun name a => do
  match a.operands with
  | [] => noOperand name
  | [w] => noOperandAfter name w
  | _ :: _ :: w :: _ => extraOperand name w
  | [p, q] =>
    match ← contentOf p, ← contentOf q with
    | .error c, _ => giveUp name (plainMessage p c)
    | _, .error c => giveUp name (plainMessage q c)
    | .ok s, .ok t =>
      let mark := (a.value? "output-delimiter").getD ['\t']
      let shared := compareLines (s.length + t.length + 1) (linesOf s) (linesOf t)
      let second := if a.has "1" then [] else mark
      let third := second ++ if a.has "2" then [] else mark
      let count := fun (f : Shared → Bool) => Numeral.decimal (shared.countP f)
      for x in shared do
        match x with
        | .left line => if !a.has "1" then say line
        | .right line => if !a.has "2" then say (second ++ line)
        | .both line => if !a.has "3" then say (third ++ line)
      if a.has "total" then
        say (mark.intercalate
          [count (· matches .left _), count (· matches .right _), count (· matches .both _),
            "total".toList])
      let faults := if a.has "nocheck-order" then [] else
        [(inOrder (linesOf s), '1'), (inOrder (linesOf t), '2')].filter fun x => !x.1
      for (_, n) in faults do
        tell name ("file ".toList ++ n :: " is not in sorted order".toList)
      if !faults.isEmpty then tell name "input is not in sorted order".toList
      return statusOf faults.isEmpty

end FlopCensus.Shell.Program
