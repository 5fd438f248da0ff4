import FlopCensus.Shell.Program.Basic
import FlopCensus.Text.CharClass

set_option autoImplicit false
set_option relaxedAutoImplicit false

/-!
# Translation of characters

Sets of bytes are written with ranges, named classes, escapes and repetitions. A byte of the first
set is replaced by the one at the same place in the second, of which the last stands for all that
are missing.

## Main definitions

* `FlopCensus.Shell.Alphabet`: a written set.
* `FlopCensus.Shell.Alphabet.read`: a set from its text.
* `FlopCensus.Shell.Program.tr`: the program.
-/

namespace FlopCensus.Shell

/-- A part of a written set. -/
inductive AlphabetPart where
  | char (c : Char)
  | range (first last : Char)
  | named (k : Text.CharClass)
  /-- A byte several times, or as often as is needed to fill the set up. -/
  | repeated (c : Char) (count : Option Nat)
deriving Repr, DecidableEq

/-- A written set. -/
abbrev Alphabet := List AlphabetPart

namespace Alphabet

/-- All bytes. -/
def bytes : List Char :=
  (List.range 256).map Char.ofNat

/-- The bytes of a class. -/
def ofClass (k : Text.CharClass) : List Char :=
  bytes.filter fun c => c < '\x80' && k.holds c

/-- A character of a text, which a backslash can introduce: whether it did, and what follows. -/
def unescaped : List Char → Option ((Char × Bool) × List Char)
  | [] => none
  | '\\' :: c :: rest =>
    let plain := fun (d : Char) => some ((d, true), rest)
    match c with
    | 'a' => plain '\x07'
    | 'b' => plain '\x08'
    | 'f' => plain '\x0c'
    | 'n' => plain '\n'
    | 'r' => plain '\r'
    | 't' => plain '\t'
    | 'v' => plain '\x0b'
    | c =>
      if '0' ≤ c && c ≤ '7' then
        let isOctal := fun (c : Char) => '0' ≤ c && c ≤ '7'
        let most := if c ≤ '3' then 3 else 2
        let ds := ((c :: rest).take most).takeWhile isOctal
        let n := ds.foldl (fun n d => 8 * n + (d.toNat - 48)) 0
        some ((Char.ofNat n, true), (c :: rest).drop ds.length)
      else plain c
  | c :: rest => some ((c, false), rest)

/-- The characters of a text with whether a backslash introduced them. -/
def unescapeAll : Nat → List Char → List (Char × Bool)
  | 0, _ => []
  | n + 1, s =>
    match unescaped s with
    | none => []
    | some (c, rest) => c :: unescapeAll n rest

/-- What stands in front of two closing characters, and what follows them. -/
def upTo (mark : Char) : List (Char × Bool) → Option (List Char × List (Char × Bool))
  | [] => none
  | (c, escaped) :: rest =>
    if c == mark && !escaped && rest.head? == some (']', false) then some ([], rest.drop 1)
    else (upTo mark rest).map fun (s, rest) => (c :: s, rest)

/-- A count of repetitions; it is octal behind a zero. -/
def count? (s : List Char) : Option (Option Nat) :=
  let base := if s.head? == some '0' then 8 else 10
  let inBase := fun (c : Char) => c.isDigit && c.toNat - 48 < base
  if !s.all inBase then none
  else
    let n := s.foldl (fun n c => base * n + (c.toNat - 48)) 0
    some (if n == 0 then none else some n)

/-- Reads the parts of a set. -/
def readParts : Nat → List (Char × Bool) → Except (List Char) Alphabet
  | 0, _ => .ok []
  | _, [] => .ok []
  | n + 1, (c, escaped) :: rest => do
    let opens := c == '[' && !escaped
    let named? := match rest with
      | (mark, false) :: more =>
        if opens && (mark == ':' || mark == '=') then (upTo mark more).map (mark, ·) else none
      | _ => none
    match named? with
    | some (':', name, rest) =>
      match Text.CharClass.ofName? (String.ofList name) with
      | some k => return .named k :: (← readParts n rest)
      | none => throw ("invalid character class ".toList ++ Program.curly name)
    | some (_, name, rest) =>
      match name with
      | [d] => return .char d :: (← readParts n rest)
      | _ => throw (name ++ ": equivalence class operand must be a single character".toList)
    | none =>
      let repeated? := match rest with
        | (d, _) :: ('*', false) :: more =>
          let count := more.takeWhile fun x => x != (']', false)
          if opens && count.length < more.length then some (d, count, more.drop (count.length + 1))
          else none
        | _ => none
      match repeated?, rest with
      | some (d, count, more), _ =>
        match count? (count.map (·.1)) with
        | some count => return .repeated d count :: (← readParts n more)
        | none =>
          throw ("invalid repeat count ".toList ++ Program.curly (count.map (·.1)) ++
            " in [c*n] construct".toList)
      | none, ('-', false) :: (d, _) :: more =>
        if d < c then
          throw ("range-endpoints of ".toList ++ Program.quoted [c, '-', d] ++
            " are in reverse collating sequence order".toList)
        return .range c d :: (← readParts n more)
      | none, rest => return .char c :: (← readParts n rest)

/-- A set from its text. -/
def read (s : List Char) : Except (List Char) Alphabet :=
  let cs := unescapeAll (s.length + 1) s
  readParts (cs.length + 1) cs

/-- The bytes of a part; what fills the set up comes `missing` times. -/
def partBytes (missing : Nat) : AlphabetPart → List Char
  | .char c => [c]
  | .range a b => (List.range (b.toNat + 1 - a.toNat)).map fun i => Char.ofNat (a.toNat + i)
  | .named k => ofClass k
  | .repeated c count => List.replicate (count.getD missing) c

/-- The bytes of a set in order; where a part fills up, it is to have `size` of them. -/
def toList (size : Nat) (a : Alphabet) : List Char :=
  let fixed := (a.map fun p => (partBytes 0 p).length).foldl (· + ·) 0
  a.flatMap (partBytes (size - fixed))

/-- The bytes that are not in a set. -/
def others (s : List Char) : List Char :=
  bytes.filter fun c => !s.contains c

/-- The part is a class. -/
def isNamed : AlphabetPart → Bool
  | .named _ => true
  | _ => false

/-- The part is upper or lower case. -/
def isCase : AlphabetPart → Bool
  | .named .upper | .named .lower => true
  | _ => false

/-- The places at which a set has classes of one case, with the classes. -/
def casePlaces (size : Nat) (a : Alphabet) : List Nat :=
  (a.foldl (fun (place, found) p =>
    (place + (toList size [p]).length, if isCase p then found ++ [place] else found))
    (0, ([] : List Nat))).2

/-- What is wrong with a second set, the first one having been expanded to `size` bytes. -/
def fault? (complement : Bool) (truncate : Bool) (a b : Alphabet) (size : Nat) :
    Option String :=
  let target := toList size b
  let fills := fun (p : AlphabetPart) =>
    match p with
    | .repeated _ none => true
    | _ => false
  if (b.filter fills).length > 1 then
    some "only one [c*] repeat construct may appear in string2"
  else if b.any fun p => isNamed p && !isCase p then
    some ("when translating, the only character classes that may appear in\nstring2 are " ++
      "'upper' and 'lower'")
  else if !complement && (casePlaces size b).any fun i => !(casePlaces size a).contains i then
    some "misaligned [:upper:] and/or [:lower:] construct"
  else if target.length < size && !truncate && b.getLast?.any isNamed then
    some ("when translating with string1 longer than string2,\nthe latter string must not end " ++
      "with a character class")
  else if target.isEmpty && size > 0 && !truncate then
    some "when not truncating set1, string2 must be non-empty"
  else if complement && a.any isNamed &&
      !(target.all (some · == target.head?) && (!truncate || target.length == size)) then
    some ("when translating with complemented character classes,\nstring2 must map all " ++
      "characters in the domain to one")
  else none

end Alphabet

namespace Program

/-- A text without repetitions of the characters of a set. -/
def squeezed (isMember : Char → Bool) (s : List Char) : List Char :=
  (s.foldl (fun kept c => if kept.head? == some c && isMember c then kept else c :: kept)
    []).reverse

/-- A set as a test that is fast. -/
def tester (s : List Char) : Char → Bool :=
  let table := (Alphabet.bytes.map s.contains).toArray
  fun c => table[c.toNat]?.getD false

/-- The replacement of bytes; of several for one byte the last one counts. -/
def replacer (pairs : List (Char × Char)) : Char → Char :=
  let table := (Alphabet.bytes.map fun c => (pairs.reverse.lookup c).getD c).toArray
  fun c => table[c.toNat]?.getD c

/-- A complaint with the number of operands that are wanted. -/
def wants (name text why : List Char) : Run Nat := do
  tell name text
  protest why
  hint name
  return 1

/-- Replaces bytes. -/
def translate (a : Arguments) (first second : List Char) :
    Except (List Char) (List Char → List Char) := do
  let complement := a.has "c" || a.has "C"
  let a1 ← Alphabet.read first
  let a2 ← Alphabet.read second
  let hasRepeat := a1.any fun p =>
    match p with
    | .repeated _ none => true
    | _ => false
  if hasRepeat then throw "the [c*] repeat construct may not appear in string1".toList
  let own := Alphabet.toList 0 a1
  let source := if complement then Alphabet.others own else own
  let target := Alphabet.toList source.length a2
  match Alphabet.fault? complement (a.has "t") a1 a2 source.length with
  | some text => throw text.toList
  | none =>
    let source := if a.has "t" then source.take target.length else source
    let padded := target ++
      List.replicate (source.length - target.length) (target.getLast?.getD ' ')
    let change := replacer (source.zip padded)
    let isTarget := tester target
    return fun s =>
      let s := s.map change
      if a.has "s" then squeezed isTarget s else s

/-- Takes bytes away, or their repetitions. -/
def reduce (a : Arguments) (first : List Char) (second : Option (List Char)) :
    Except (List Char) (List Char → List Char) := do
  let own := Alphabet.toList 0 (← Alphabet.read first)
  let isFirst := tester (if a.has "c" || a.has "C" then Alphabet.others own else own)
  match a.has "d", second with
  | false, _ => return squeezed isFirst
  | true, none => return List.filter fun c => !isFirst c
  | true, some second =>
    let isSecond := tester (Alphabet.toList 0 (← Alphabet.read second))
    return fun s => squeezed isSecond (s.filter fun c => !isFirst c)

/-- Replaces or takes away bytes. -/
def tr : Program := withOptions
    { letters := "cCdst", inOrder := true
      names := [("complement", "c"), ("delete", "d"), ("squeeze-repeats", "s"),
        ("truncate-set1", "t")] } fun name a => do
  let isTwo := (a.has "d" && a.has "s") || !(a.has "d" || a.has "s")
  let run := fun (made : Except (List Char) (List Char → List Char)) (warned : List (List Char)) =>
    do
      for w in warned do
        let ends := (w.reverse.takeWhile (· == '\\')).length
        if ends % 2 == 1 then
          tell name "warning: an unescaped backslash at end of string is not portable".toList
      match made with
      | .error text => giveUp name text
      | .ok f =>
        write 1 (f (← readAll))
        return 0
  match a.operands with
  | [] => noOperand name
  | [w] =>
    if isTwo then
      wants name ("missing operand after ".toList ++ curly w)
        (if a.has "d" then "Two strings must be given when both deleting and squeezing repeats."
          else "Two strings must be given when translating.").toList
    else run (reduce a w none) [w]
  | [w, v] =>
    if a.has "d" && !a.has "s" then
      wants name ("extra operand ".toList ++ curly v)
        "Only one string may be given when deleting without squeezing repeats.".toList
    else run (if a.has "d" then reduce a w (some v) else translate a w v) [w, v]
  | _ :: v :: u :: _ =>
    if a.has "d" && !a.has "s" then
      wants name ("extra operand ".toList ++ curly v)
        "Only one string may be given when deleting without squeezing repeats.".toList
    else extraOperand name u

end Program

end FlopCensus.Shell
