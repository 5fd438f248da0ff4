import FlopCensus.Shell.Program.Basic

set_option autoImplicit false
set_option relaxedAutoImplicit false

/-!
# Parts of lines

Bytes or fields of each line are chosen by a list of ranges.

## Main definitions

* `FlopCensus.Shell.Program.PlaceRanges`: a list of ranges.
* `FlopCensus.Shell.Program.cut`: the program.
-/

namespace FlopCensus.Shell.Program

/-- Ranges of places that are counted from one; one without an end goes on for ever. -/
abbrev PlaceRanges := List (Nat × Option Nat)

/-- The ranges with those that overlap made one, in increasing order. -/
def united (rs : PlaceRanges) : PlaceRanges :=
  let sorted := rs.mergeSort fun a b => a.1 ≤ b.1
  (sorted.foldl (fun done r =>
    match done with
    | (first, last) :: more =>
      if last.all (r.1 ≤ ·) then
        let last := match last, r.2 with
          | some m, some n => some (max m n)
          | _, _ => none
        (first, last) :: more
      else r :: done
    | [] => [r]) []).reverse

/-- The ranges of the places that are in none. -/
def uncovered (next : Nat) : PlaceRanges → PlaceRanges
  | [] => [(next, none)]
  | (first, last) :: rest =>
    let gap := if next < first then [(next, some (first - 1))] else []
    match last with
    | none => gap
    | some n => gap ++ uncovered (n + 1) rest

/-- What is wrong with a list of ranges. -/
inductive RangeFault where
  | fromZero
  | noEnds
  | decreasing
  | twoHyphens
  | noNumber (text : List Char)
  | tooLarge (text : List Char)
deriving Repr, DecidableEq

/-- The wording of a fault. -/
def RangeFault.message (ofFields : Bool) : RangeFault → List Char
  | .fromZero =>
    (if ofFields then "fields are numbered from 1"
      else "byte/character positions are numbered from 1").toList
  | .noEnds => "invalid range with no endpoint: -".toList
  | .decreasing => "invalid decreasing range".toList
  | .twoHyphens =>
    (if ofFields then "invalid field range" else "invalid byte or character range").toList
  | .noNumber text =>
    (if ofFields then "invalid field value " else "invalid byte/character position ").toList ++
      curly text
  | .tooLarge text =>
    (if ofFields then "field number " else "byte/character offset ").toList ++ curly text ++
      " is too large".toList

/-- The greatest number of a place. -/
def placeLimit : Nat := 0xffffffffffffffff

/-- A number in a range; nothing stands for no digits. -/
def place? (s : List Char) : Except RangeFault (Option Nat) :=
  let ds := s.takeWhile (·.isDigit)
  let n := ds.foldl (fun n c => 10 * n + (c.toNat - 48)) 0
  if ds.length < s.length then .error (.noNumber (s.drop ds.length))
  else if n ≥ placeLimit then .error (.tooLarge ds)
  else .ok (if ds.isEmpty then none else some n)

/-- One range of a list. -/
def range? (s : List Char) : Except RangeFault (Nat × Option Nat) := do
  match Text.splitOnChar '-' s with
  | [single] =>
    match ← place? single with
    | some (n + 1) => return (n + 1, some (n + 1))
    | _ => throw .fromZero
  | [first, last] =>
    match ← place? first, ← place? last with
    | none, none => throw .noEnds
    | some 0, _ => throw .fromZero
    | first, some n =>
      if n < first.getD 1 then throw .decreasing else return (first.getD 1, some n)
    | some n, none => return (n, none)
  | _ => throw .twoHyphens

/-- A list of ranges between commas or blanks. -/
def ranges? (s : List Char) : Except RangeFault PlaceRanges := do
  let s := s.map fun c => if c == ' ' || c == '\t' then ',' else c
  return united (← (Text.splitOnChar ',' s).mapM range?)

/-- The pieces of a list that the ranges choose. -/
def chosenRuns {α : Type} (rs : PlaceRanges) (xs : List α) : List (List α) :=
  (rs.map fun (first, last) =>
    let from' := xs.drop (first - 1)
    match last with
    | some n => from'.take (n + 1 - first)
    | none => from').filter (!·.isEmpty)

/-- The chosen part of a line; nothing if the line is passed over. -/
def cutLine (a : Arguments) (ofFields : Bool) (rs : PlaceRanges) (line : List Char) :
    Option (List Char) :=
  let glue := a.value? "output-delimiter"
  if !ofFields then some ((glue.getD []).intercalate (chosenRuns rs line))
  else
    let mark := ((a.value? "d").getD ['\t']).head?.getD '\x00'
    let fields := Text.splitOnChar mark line
    if fields.length == 1 then (if a.has "s" then none else some line)
    else some ((glue.getD [mark]).intercalate (chosenRuns rs fields).flatten)

/-- Writes parts of lines. -/
def cut : Program := withOptions
    { letters := "b:c:d:f:nsz"
      names := [("bytes", "b"), ("characters", "c"), ("delimiter", "d"), ("fields", "f"),
        ("only-delimited", "s"), ("complement", "complement"),
        ("output-delimiter", "output-delimiter:"), ("zero-terminated", "z")] } fun name a => do
  let lists := a.given.filter fun (o, _) => ["b", "c", "f"].contains o
  let ofFields := lists.head?.any (·.1 == "f")
  match lists with
  | [] => misuse name "you must specify a list of bytes, characters, or fields".toList
  | _ :: _ :: _ => misuse name "only one list may be specified".toList
  | [(_, text)] =>
    if (a.values "d").any (·.length > 1) then
      misuse name "the delimiter must be a single character".toList
    else if a.has "d" && !ofFields then
      misuse name "an input delimiter may be specified only when operating on fields".toList
    else if a.has "s" && !ofFields then
      misuse name ("suppressing non-delimited lines makes sense\n\tonly when operating on " ++
        "fields").toList
    else
      match ranges? text with
      | .error e => misuse name (e.message ofFields)
      | .ok rs =>
        let rs := if a.has "complement" then uncovered 1 rs else rs
        eachInput name a.operands fun s => do
          for line in linesOf s do
            if let some part := cutLine a ofFields rs line then say part

end FlopCensus.Shell.Program
