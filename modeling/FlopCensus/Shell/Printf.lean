import FlopCensus.Numeral.Real
import FlopCensus.Text.Octets

set_option autoImplicit false
set_option relaxedAutoImplicit false

/-!
# Formatted output

A format is text with escapes, which a backslash introduces, and conversions, which a percent sign
does. It is used again until all arguments have been written.

The shell's own commands and the programs of the same names differ in some escapes and in the
wording of errors.

## Main definitions

* `FlopCensus.Shell.Printf.unescape`: a text with its escapes carried out.
* `FlopCensus.Shell.Printf.print`: a format with its arguments.
-/

namespace FlopCensus.Shell.Printf

/-- Who writes. -/
inductive Dialect where
  /-- A command of the shell. -/
  | shell
  /-- A program. -/
  | program
deriving Repr, DecidableEq

/-- What a backslash introduces. -/
inductive Escape where
  /-- Some characters. -/
  | chars (s : List Char)
  /-- The end of the output. -/
  | stop
deriving Repr, DecidableEq

/-- The character for a letter behind a backslash. -/
def letter? (c : Char) : Option Char :=
  match c with
  | '\\' => some '\\'
  | 'a' => some '\x07'
  | 'b' => some '\x08'
  | 'f' => some '\x0c'
  | 'n' => some '\n'
  | 'r' => some '\r'
  | 't' => some '\t'
  | 'v' => some '\x0b'
  | _ => none

/-- Up to `most` digits in front of a text in some base, and what follows them. -/
def digits (base most : Nat) (s : List Char) : List Char × List Char :=
  let run := (s.take most).takeWhile fun c => ((Numeral.digitIn base c)).isSome
  (run, s.drop run.length)

/-- The number of some digits. -/
def numberOf (base : Nat) (ds : List Char) : Nat :=
  Numeral.valueOf base (ds.filterMap (Numeral.digitIn base))

/-- The character with a number below 256. -/
def byte (n : Nat) : Char :=
  Char.ofNat (n % 256)

/-- What the text behind a backslash begins with, and what follows it. In an `argument` a zero can
stand in front of three octal digits, and `c` ends the output. -/
def escape (dialect : Dialect) (argument : Bool) (s : List Char) : Escape × List Char :=
  let coded := fun (base most : Nat) (c : Char) (rest : List Char) (write : Nat → List Char) =>
    match digits base most rest with
    | ([], _) => (Escape.chars ['\\', c], rest)
    | (ds, rest) => (Escape.chars (write (numberOf base ds)), rest)
  let unicode := fun (n : Nat) => Text.octets (Char.ofNat n).toString
  match s with
  | [] => (.chars ['\\'], [])
  | c :: rest =>
    match letter? c with
    | some d => (.chars [d], rest)
    | none =>
      if c == 'c' && (argument || dialect == .program) then (.stop, rest)
      else if argument && c == '0' then
        let (ds, rest) := digits 8 3 rest
        (.chars [byte (numberOf 8 ds)], rest)
      else if '0' ≤ c && c ≤ '7' then
        let (ds, rest) := digits 8 3 s
        (.chars [byte (numberOf 8 ds)], rest)
      else
        match dialect, c with
        | .shell, '"' | .shell, '\'' =>
          if argument then (.chars ['\\', c], rest) else (.chars [c], rest)
        | .program, '"' => (.chars ['"'], rest)
        | _, 'e' => (.chars ['\x1b'], rest)
        | .program, 'x' => coded 16 2 c rest fun n => [byte n]
        | .program, 'u' => coded 16 4 c rest unicode
        | .program, 'U' => coded 16 8 c rest unicode
        | _, _ => (.chars ['\\', c], rest)

/-- A text with its escapes carried out, and whether one of them ended the output. -/
def unescape (dialect : Dialect) (s : List Char) : List Char × Bool :=
  go (s.length + 1) s
where
  /-- The same with fuel. -/
  go : Nat → List Char → List Char × Bool
    | 0, _ => ([], false)
    | _, [] => ([], false)
    | n + 1, '\\' :: rest =>
      match escape dialect true rest with
      | (.stop, _) => ([], true)
      | (.chars cs, rest) =>
        let (more, stopped) := go n rest
        (cs ++ more, stopped)
    | n + 1, c :: rest =>
      let (more, stopped) := go n rest
      (c :: more, stopped)

/-- A conversion without the characters that say what is converted. -/
structure Layout where
  flags : List Char := []
  width : Nat := 0
  precision : Option Nat := none

/-- The layout puts the text in front of the blanks. -/
def Layout.isLeft (l : Layout) : Bool :=
  l.flags.contains '-'

/-- A text with blanks up to the width. -/
def Layout.pad (l : Layout) (s : List Char) : List Char :=
  let blanks := List.replicate (l.width - s.length) ' '
  if l.isLeft then s ++ blanks else blanks ++ s

/-- A sign and digits with blanks or zeros up to the width. -/
def Layout.padNumber (l : Layout) (sign digits : List Char) : List Char :=
  let digits := List.replicate (l.precision.getD 1 - digits.length) '0' ++ digits
  let zeros :=
    if l.flags.contains '0' && !l.isLeft && l.precision.isNone then
      List.replicate (l.width - sign.length - digits.length) '0'
    else []
  l.pad (sign ++ zeros ++ digits)

/-- Why an argument is no number. -/
inductive Fault where
  | noNumber (text : List Char)
  | rest (text : List Char)
  | badDirective (text : List Char)
deriving Repr, DecidableEq

/-- The wording of a fault. -/
def Fault.message (dialect : Dialect) (f : Fault) : List Char :=
  let curly := fun (s : List Char) => Text.octets "‘" ++ s ++ Text.octets "’"
  match dialect, f with
  | .shell, .noNumber s => s ++ ": expected numeric value".toList
  | .shell, .rest s => s ++ ": not completely converted".toList
  | .shell, .badDirective s => s ++ ": invalid directive".toList
  | .program, .noNumber s => curly s ++ ": expected a numeric value".toList
  | .program, .rest s => curly s ++ ": value not completely converted".toList
  | .program, .badDirective s => s ++ ": invalid conversion specification".toList

/-- What a format has written so far. -/
structure Progress where
  /-- The text, the last character first. -/
  text : List Char := []
  faults : List Fault := []
  arguments : List (List Char)
  /-- The output is at its end. -/
  stopped : Bool := false
  /-- An argument was asked for. -/
  asked : Bool := false

namespace Progress

/-- Writes some text. -/
def put (p : Progress) (s : List Char) : Progress :=
  { p with text := s.reverse ++ p.text }

/-- The next argument; there is none behind the last one. -/
def next (p : Progress) : Option (List Char) × Progress :=
  match p.arguments with
  | [] => (none, { p with asked := true })
  | a :: rest => (some a, { p with arguments := rest, asked := true })

/-- The next argument as a whole number. -/
def nextInt (dialect : Dialect) (p : Progress) : Int × Progress :=
  let (a, p) := p.next
  let text := a.getD ['0']
  match text with
  | '"' :: c :: _ | '\'' :: c :: _ => (c.toNat, p)
  | [] =>
    if dialect == .shell then (0, p)
    else (0, { p with faults := p.faults ++ [.noNumber []] })
  | _ =>
    let body := text.dropWhile fun c => c == ' ' || c == '\t' || c == '\n'
    let (negative, body) := match body with
      | '-' :: rest => (true, rest)
      | '+' :: rest => (false, rest)
      | rest => (false, rest)
    let (base, ds, rest) := match body with
      | '0' :: 'x' :: rest | '0' :: 'X' :: rest =>
        let (ds, after) := digits 16 rest.length rest
        if ds.isEmpty then (8, ['0'], 'x' :: rest) else (16, ds, after)
      | '0' :: rest =>
        let (ds, after) := digits 8 rest.length rest
        (8, '0' :: ds, after)
      | rest =>
        let (ds, after) := digits 10 rest.length rest
        (10, ds, after)
    let value := Int.ofNat (numberOf base ds)
    let value := if negative then -value else value
    if ds.isEmpty then (0, { p with faults := p.faults ++ [.noNumber text] })
    else if rest.isEmpty then (value, p)
    else (value, { p with faults := p.faults ++ [.rest text] })

/-- The longest front of a text that is a real number, and what follows it. -/
def realFront? (s : List Char) : Option (Float × List Char) :=
  let isPart := fun (c : Char) => c != '_' && c != ' ' && c != '\n' && c != '\t'
  let fronts := (List.range (s.takeWhile isPart).length).reverse
  fronts.findSome? fun n =>
    (Numeral.readReal (String.ofList (s.take (n + 1)))).map (·, s.drop (n + 1))

/-- The next argument as a real number. -/
def nextReal (dialect : Dialect) (p : Progress) : Float × Progress :=
  let (a, p) := p.next
  let text := a.getD ['0']
  let fault := fun (f : Fault) => { p with faults := p.faults ++ [f] }
  match text with
  | '"' :: c :: _ | '\'' :: c :: _ => (Float.ofNat c.toNat, p)
  | [] => (0, if dialect == .shell then p else fault (.noNumber []))
  | _ =>
    match realFront? (text.dropWhile fun c => c == ' ' || c == '\t' || c == '\n') with
    | some (x, []) => (x, p)
    | some (x, _) => (x, fault (.rest text))
    | none => (0, fault (.noNumber text))

end Progress

/-- The digits of a number in a base up to sixteen. -/
def digitsIn (base : Nat) (upper : Bool) (n : Nat) : List Char :=
  (Nat.toDigits base n).map fun c => if upper then c.toUpper else c

/-- The size of a real number as a fraction. -/
def sizeFraction (x : Float) : Nat × Nat :=
  let d := Numeral.decode (x.toBits.toNat % Numeral.signBit)
  let (num, den) := Numeral.powerFraction 2 d.exponent
  (d.mantissa * num, den)

/-- A fraction as a whole number, a half going to the even neighbour. -/
def rounded (num den : Nat) : Nat :=
  let whole := num / den
  let twice := 2 * (num % den)
  if twice > den || (twice == den && whole % 2 == 1) then whole + 1 else whole

/-- Digits with a point in front of the last `places`. -/
def pointed (places : Nat) (n : Nat) : List Char :=
  let ds := Numeral.decimal n
  let ds := List.replicate (places + 1 - ds.length) '0' ++ ds
  let split := ds.length - places
  ds.take split ++ if places == 0 then [] else '.' :: ds.drop split

/-- A fraction with a fixed count of places behind the point. -/
def fixedText (places : Nat) (num den : Nat) : List Char :=
  pointed places (rounded (num * Nat.pow 10 places) den)

/-- The first `places + 1` digits of a positive fraction, and the power of ten of the first. -/
def leadingDigits (places : Nat) (num den : Nat) : Nat × Int :=
  let power := Numeral.leadingPlace num den
  let (up, down) := Numeral.powerFraction 10 (places - power)
  let n := rounded (num * up) (den * down)
  if n ≥ Nat.pow 10 (places + 1) then (n / 10, power + 1) else (n, power)

/-- A fraction with one digit in front of the point, and a power of ten. -/
def scientificText (places : Nat) (num den : Nat) : List Char :=
  let (n, power) := if num == 0 then (0, 0) else leadingDigits places num den
  pointed places n ++ 'e' :: Numeral.exponentText power

/-- A fraction with some digits in the shorter of both forms. -/
def generalText (keepZeros : Bool) (precision : Nat) (num den : Nat) : List Char :=
  let digits := max precision 1
  let power := if num == 0 then 0 else (leadingDigits (digits - 1) num den).2
  let trim := fun (s : List Char) =>
    if keepZeros || !s.contains '.' then s
    else
      let body := Text.dropEndBy (· == '0') s
      if body.getLast? == some '.' then body.dropLast else body
  if -4 ≤ power && power < digits then
    trim (fixedText ((digits : Int) - 1 - power).toNat num den)
  else
    let text := scientificText (digits - 1) num den
    trim (text.takeWhile (· != 'e')) ++ text.dropWhile (· != 'e')

/-- A real number as a conversion writes it: the sign, and the rest. -/
def realText (l : Layout) (c : Char) (x : Float) : Bool × List Char :=
  let negative := x.toBits.toNat ≥ Numeral.signBit
  let precision := l.precision.getD 6
  let (num, den) := sizeFraction x
  let body :=
    if x.isNaN then "nan".toList
    else if x.isInf then "inf".toList
    else
      match c.toLower with
      | 'e' => scientificText precision num den
      | 'g' => generalText (l.flags.contains '#') precision num den
      | _ => fixedText precision num den
  (negative, if c.isUpper then body.map Char.toUpper else body)

/-- The sign of a number. -/
def signOf (l : Layout) (negative : Bool) : List Char :=
  if negative then ['-']
  else if l.flags.contains '+' then ['+']
  else if l.flags.contains ' ' then [' ']
  else []

/-- A real number as a conversion writes it. -/
def Layout.writeReal (l : Layout) (c : Char) (x : Float) : List Char :=
  let (negative, body) := realText l c x
  let flags := if x.isFinite then l.flags else l.flags.filter (· != '0')
  { l with precision := none, flags }.padNumber (signOf l negative) body

/-- Writes one conversion. -/
def convert (dialect : Dialect) (l : Layout) (c : Char) (p : Progress) : Option Progress :=
  let whole := fun (base : Nat) (upper : Bool) (lead : List Char) =>
    let (n, p) := p.nextInt dialect
    let n := (n % 0x10000000000000000).toNat
    let lead := if l.flags.contains '#' && n != 0 then lead else []
    some (p.put (l.padNumber lead (digitsIn base upper n)))
  let cut := fun (s : List Char) => l.pad (match l.precision with
    | some n => s.take n
    | none => s)
  match c with
  | '%' => some (p.put ['%'])
  | 's' =>
    let (a, p) := p.next
    some (p.put (cut (a.getD [])))
  | 'b' =>
    let (a, p) := p.next
    let (s, stopped) := unescape dialect (a.getD [])
    some { p.put (cut s) with stopped }
  | 'c' =>
    let (a, p) := p.next
    some (p.put (l.pad ((a.getD []).take 1)))
  | 'd' | 'i' =>
    let (n, p) := p.nextInt dialect
    some (p.put (l.padNumber (signOf l (n < 0)) (Numeral.decimal n.natAbs)))
  | 'u' => whole 10 false []
  | 'o' => whole 8 false ['0']
  | 'x' => whole 16 false ['0', 'x']
  | 'X' => whole 16 true ['0', 'X']
  | 'f' | 'F' | 'e' | 'E' | 'g' | 'G' =>
    let (x, p) := p.nextReal dialect
    some (p.put (l.writeReal c x))
  | _ => none

/-- A width or a precision, which an asterisk takes from the arguments. -/
def measure (dialect : Dialect) (s : List Char) (p : Progress) :
    Option Int × List Char × Progress :=
  match s with
  | '*' :: rest =>
    let (n, p) := p.nextInt dialect
    (some n, rest, p)
  | _ =>
    match digits 10 s.length s with
    | ([], rest) => (none, rest, p)
    | (ds, rest) => (some (numberOf 10 ds), rest, p)

/-- The layout of a conversion, and what follows it. -/
def layout (dialect : Dialect) (s : List Char) (p : Progress) : Layout × List Char × Progress :=
  let flags := s.takeWhile "-+ #0".toList.contains
  let (width, s, p) := measure dialect (s.drop flags.length) p
  let flags := if width.any (· < 0) then '-' :: flags else flags
  let width := (width.getD 0).natAbs
  match s with
  | '.' :: rest =>
    let (precision, s, p) := measure dialect rest p
    ({ flags, width, precision := some (precision.getD 0).toNat }, s, p)
  | _ => ({ flags, width }, s, p)

/-- Writes a format once. -/
def once (dialect : Dialect) : Nat → List Char → Progress → Progress
  | 0, _, p => p
  | _, [], p => p
  | n + 1, '\\' :: rest, p =>
    match escape dialect false rest with
    | (.stop, _) => { p with stopped := true }
    | (.chars cs, rest) => once dialect n rest (p.put cs)
  | n + 1, '%' :: rest, p =>
    let (l, behind, q) := layout dialect rest p
    let bad := fun (shown : List Char) =>
      { p with faults := p.faults ++ [.badDirective ('%' :: shown)], stopped := true }
    match behind with
    | [] => bad rest
    | c :: after =>
      match convert dialect l c q with
      | none => bad (rest.take (rest.length - after.length))
      | some p => if p.stopped then p else once dialect n after p
  | n + 1, c :: rest, p => once dialect n rest (p.put [c])

/-- Writes a format until all arguments have been written. -/
def again (dialect : Dialect) (format : List Char) : Nat → Progress → Progress
  | 0, p => p
  | n + 1, p =>
    let left := p.arguments.length
    let p := once dialect (format.length + 1) format p
    if p.stopped || p.arguments.isEmpty || p.arguments.length == left then p
    else again dialect format n p

/-- The text of a format with its arguments, and what is wrong with them. -/
def print (dialect : Dialect) (format : List Char) (arguments : List (List Char)) :
    List Char × List Fault :=
  let p := again dialect format (arguments.length + 1) { arguments }
  (p.text.reverse, p.faults)

/-- The words of an echo, and whether a line end follows. The shell carries escapes out always, the
program when it is told to. -/
def echo (dialect : Dialect) (words : List (List Char)) : List Char :=
  let isOption := fun (w : List Char) =>
    w.head? == some '-' && w.length > 1 && (w.drop 1).all fun c => c == 'n' || c == 'e' || c == 'E'
  let options := match dialect with
    | .shell => (words.take 1).filter (· == ['-', 'n'])
    | .program => words.takeWhile isOption
  let text := [' '].intercalate (words.drop options.length)
  let letters := options.flatten
  let escapes := dialect == .shell ||
    (letters.filter fun c => c == 'e' || c == 'E').getLast? == some 'e'
  let (text, stopped) := if escapes then unescape dialect text else (text, false)
  if stopped || letters.contains 'n' then text else text ++ ['\n']

end FlopCensus.Shell.Printf
