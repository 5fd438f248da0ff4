import FlopCensus.Numeral.Integer

set_option autoImplicit false
set_option relaxedAutoImplicit false

/-!
# Dates and moments

A timestamp is a day of the calendar, or a moment of it with seconds, a fraction and a distance to
universal time.

## Main definitions

* `FlopCensus.Yaml.Date`, `FlopCensus.Yaml.Moment`: a day and a moment.
* `FlopCensus.Yaml.Timestamp`: a timestamp as it is written.
* `FlopCensus.Yaml.Timestamp.read?`: reading one.
* `FlopCensus.Yaml.CalendarError`: why a written timestamp is none of the calendar.
-/

namespace FlopCensus.Yaml

open Numeral

/-- A day. -/
structure Date where
  year : Nat
  month : Nat
  day : Nat
deriving Repr, DecidableEq

/-- A moment. -/
structure Moment where
  date : Date
  hour : Nat
  minute : Nat
  second : Nat
  microsecond : Nat
  /-- The number of minutes that the clock is ahead of universal time. -/
  ahead : Option Int
deriving Repr, DecidableEq

/-- Why a written timestamp is none of the calendar. -/
inductive CalendarError where
  | year (n : Nat)
  | month
  | day
  | hour
  | minute
  | second
  /-- The clock is a day or more away from universal time, by this number of minutes. -/
  | offset (minutes : Int)
deriving Repr, DecidableEq

/-- A span of time in minutes, shown by its days and seconds. -/
def quoteSpan (minutes : Int) : String :=
  let days := Int.fdiv minutes 1440
  let seconds := Int.fmod minutes 1440 * 60
  let parts := (if days == 0 then [] else ["days=" ++ intText days]) ++
    (if seconds == 0 then [] else ["seconds=" ++ intText seconds])
  "datetime.timedelta(" ++ (if parts.isEmpty then "0" else ", ".intercalate parts) ++ ")"

/-- The wording of an error. -/
def CalendarError.message : CalendarError → String
  | .year n => "year " ++ natText n ++ " is out of range"
  | .month => "month must be in 1..12"
  | .day => "day is out of range for month"
  | .hour => "hour must be in 0..23"
  | .minute => "minute must be in 0..59"
  | .second => "second must be in 0..59"
  | .offset minutes =>
    "offset must be a timedelta strictly between -timedelta(hours=24) and " ++
      "timedelta(hours=24), not " ++
      quoteSpan minutes ++ "."

/-- The year has a leap day. -/
def isLeap (year : Nat) : Bool :=
  year % 4 == 0 && (year % 100 != 0 || year % 400 == 0)

/-- The number of days in a month. -/
def monthDays (year month : Nat) : Nat :=
  if month == 2 then (if isLeap year then 29 else 28)
  else if month == 4 || month == 6 || month == 9 || month == 11 then 30 else 31

/-- The day, if the calendar has it. -/
def Date.check (d : Date) : Except CalendarError Date := do
  if d.year == 0 || d.year > 9999 then throw (.year d.year)
  if d.month == 0 || d.month > 12 then throw .month
  if d.day == 0 || d.day > monthDays d.year d.month then throw .day
  return d

/-- The moment, if the calendar has it. -/
def Moment.check (m : Moment) : Except CalendarError Moment := do
  let _ ← m.date.check
  if m.hour > 23 then throw .hour
  if m.minute > 59 then throw .minute
  if m.second > 59 then throw .second
  return m

/-- The last digits of a number, with zeros in front. -/
def padded (width n : Nat) : String :=
  let digits := decimal n
  String.ofList (List.replicate (width - digits.length) '0' ++ digits)

/-- A day in the usual order. -/
def Date.text (d : Date) : String :=
  padded 4 d.year ++ "-" ++ padded 2 d.month ++ "-" ++ padded 2 d.day

/-- A day as a message shows it. -/
def Date.quote (d : Date) : String :=
  "datetime.date(" ++ ", ".intercalate ([d.year, d.month, d.day].map natText) ++ ")"

/-- A distance to universal time. -/
def offsetText (minutes : Int) : String :=
  (if minutes < 0 then "-" else "+") ++ padded 2 (minutes.natAbs / 60) ++ ":" ++
    padded 2 (minutes.natAbs % 60)

/-- A moment in the usual order. -/
def Moment.text (m : Moment) : String :=
  m.date.text ++ " " ++ padded 2 m.hour ++ ":" ++ padded 2 m.minute ++ ":" ++ padded 2 m.second ++
    (if m.microsecond == 0 then "" else "." ++ padded 6 m.microsecond) ++
    (m.ahead.map offsetText).getD ""

/-- A zone as a message shows it. -/
def quoteZone (minutes : Int) : String :=
  if minutes == 0 then "datetime.timezone.utc"
  else "datetime.timezone(" ++ quoteSpan minutes ++ ")"

/-- A moment as a message shows it: zeros at the end are left out. -/
def Moment.quote (m : Moment) : String :=
  let tail :=
    if m.microsecond != 0 then [m.second, m.microsecond]
    else if m.second != 0 then [m.second] else []
  let numbers := [m.date.year, m.date.month, m.date.day, m.hour, m.minute] ++ tail
  "datetime.datetime(" ++ ", ".intercalate (numbers.map natText) ++
    (m.ahead.elim "" fun z => ", tzinfo=" ++ quoteZone z) ++ ")"

/-- The days before a day since the start of the count of years. -/
def Date.number (d : Date) : Int :=
  let y := d.year - 1
  let months := (List.range (d.month - 1)).foldl (fun days m => days + monthDays d.year (m + 1)) 0
  ((y * 365 + y / 4 - y / 100 + y / 400 + months + d.day : Nat) : Int)

/-- The microseconds before a moment, by universal time if its distance is known. -/
def Moment.number (m : Moment) : Int :=
  let minutes := (m.date.number * 24 + m.hour) * 60 + m.minute - m.ahead.getD 0
  (minutes * 60 + m.second) * 1000000 + m.microsecond

/-- The zone of a written moment. -/
inductive Zone where
  | universal
  | offset (negative : Bool) (hours minutes : Nat)
deriving Repr, DecidableEq

/-- The time of day of a written moment. -/
structure DayTime where
  hour : Nat
  minute : Nat
  second : Nat
  /-- The digits behind the point. -/
  fraction : List Char
  zone : Option Zone
deriving Repr, DecidableEq

/-- A timestamp as it is written. -/
structure Timestamp where
  date : Date
  /-- Month and day have two digits. -/
  full : Bool
  time : Option DayTime
deriving Repr, DecidableEq

namespace Timestamp

/-- A number of at least `least` and at most `most` digits, and the rest. -/
def digits? (least most : Nat) (s : List Char) : Option (List Char × List Char) :=
  let run := (s.take most).takeWhile (·.isDigit)
  if run.length < least then none else some (run, s.drop run.length)

/-- The value of some digits. -/
def value (digits : List Char) : Nat :=
  valueOf 10 (digits.filterMap (digitIn 10))

/-- The rest behind a character. -/
def mark? (c : Char) : List Char → Option (List Char)
  | d :: rest => if d == c then some rest else none
  | [] => none

/-- The zone at the end of a written moment; nothing is also one. -/
def zone? (s : List Char) : Option (Option Zone) :=
  match s with
  | [] => some none
  | _ =>
    match s.dropWhile fun c => c == ' ' || c == '\t' with
    | ['Z'] => some (some .universal)
    | sign :: rest => do
      if sign != '+' && sign != '-' then none
      let (hours, rest) ← digits? 1 2 rest
      let minutes ←
        match rest with
        | [] => some []
        | ':' :: rest =>
          (digits? 2 2 rest).bind fun (m, rest) => if rest.isEmpty then some m else none
        | _ => none
      return some (.offset (sign == '-') (value hours) (value minutes))
    | [] => none

/-- The time of day behind a day. -/
def time? (s : List Char) : Option DayTime := do
  let s ← match s with
    | 'T' :: rest | 't' :: rest => some rest
    | c :: rest =>
      if c == ' ' || c == '\t' then some (rest.dropWhile fun c => c == ' ' || c == '\t') else none
    | [] => none
  let (hour, s) ← digits? 1 2 s
  let (minute, s) ← digits? 2 2 (← mark? ':' s)
  let (second, s) ← digits? 2 2 (← mark? ':' s)
  let (fraction, s) := match s with
    | '.' :: rest => (rest.takeWhile (·.isDigit), rest.dropWhile (·.isDigit))
    | rest => ([], rest)
  let zone ← zone? s
  return ⟨value hour, value minute, value second, fraction, zone⟩

/-- The timestamp that a text is. -/
def whole? (s : List Char) : Option Timestamp := do
  let (year, s) ← digits? 4 4 s
  let (month, s) ← digits? 1 2 (← mark? '-' s)
  let (day, s) ← digits? 1 2 (← mark? '-' s)
  let date := ⟨value year, value month, value day⟩
  let full := month.length == 2 && day.length == 2
  match s with
  | [] => return ⟨date, full, none⟩
  | s => return ⟨date, full, some (← time? s)⟩

/-- The timestamp that a text is. A line feed at its end does not count. -/
def read? (s : List Char) : Option Timestamp :=
  whole? (if s.getLast? == some '\n' then s.dropLast else s)

end Timestamp

/-- The number of minutes that a zone is ahead of universal time. -/
def Zone.ahead : Zone → Except CalendarError Int
  | .universal => return 0
  | .offset negative hours minutes =>
    let size : Int := (hours * 60 + minutes : Nat)
    let ahead := if negative then -size else size
    if size ≥ 1440 then throw (.offset ahead) else return ahead

/-- The moment of a day and a written time. -/
def DayTime.on (t : DayTime) (date : Date) : Except CalendarError Moment := do
  let ahead ← t.zone.mapM Zone.ahead
  let micro := (t.fraction.take 6 ++ List.replicate 6 '0').take 6
  let micro := if t.fraction.isEmpty then 0 else Timestamp.value micro
  Moment.check ⟨date, t.hour, t.minute, t.second, micro, ahead⟩

end FlopCensus.Yaml
