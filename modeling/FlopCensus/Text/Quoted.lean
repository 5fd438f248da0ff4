import FlopCensus.Text.Printable
import FlopCensus.Text.Surrogate

set_option autoImplicit false
set_option relaxedAutoImplicit false

/-!
# Quoted texts

Messages show a value from outside in quotes, so that blanks and controls in it can be seen. The
quote is `'`, or `"` for a text that holds `'` and no `"`. A backslash and the quote itself are
escaped, as are the characters that are not printable: by a letter for tabulator and line ends, and
by two, four or eight hexadecimal digits otherwise. The stand-in of half a surrogate pair is shown as
the half.

## Main definitions

* `FlopCensus.Text.quote`: a text in quotes.
* `FlopCensus.Text.quoteBytes`: a byte sequence in quotes, with the mark `b`.
-/

namespace FlopCensus.Text

/-- The digit of a value below sixteen, in lower case. -/
def hexDigit (d : Nat) : Char :=
  if d < 10 then Char.ofNat (48 + d) else Char.ofNat (87 + d)

/-- The last `width` hexadecimal digits of a number. -/
def hexDigits : Nat → Nat → List Char
  | 0, _ => []
  | width + 1, n => hexDigits width (n / 16) ++ [hexDigit (n % 16)]

/-- The quote for a text: `"` when only `'` occurs in it, `'` otherwise. -/
def quoteFor (s : List Char) : Char :=
  if s.contains '\'' && !s.contains '"' then '"' else '\''

/-- One character between the given quotes. -/
def quoteChar (q c : Char) : List Char :=
  if c == q || c == '\\' then ['\\', c]
  else if c == '\t' then ['\\', 't']
  else if c == '\n' then ['\\', 'n']
  else if c == '\r' then ['\\', 'r']
  else if isPrintable c then [c]
  else if let some n := surrogate? c then '\\' :: 'u' :: hexDigits 4 n
  else if c.toNat < 0x100 then '\\' :: 'x' :: hexDigits 2 c.toNat
  else if c.toNat < 0x10000 then '\\' :: 'u' :: hexDigits 4 c.toNat
  else '\\' :: 'U' :: hexDigits 8 c.toNat

/-- A text in quotes. -/
def quote (s : String) : String :=
  let q := quoteFor s.toList
  String.ofList (q :: s.toList.flatMap (quoteChar q) ++ [q])

/-- One byte between the given quotes: ASCII is shown as text, the rest by its digits. -/
def quoteByte (q : Char) (b : UInt8) : List Char :=
  if b.toNat < 0x7f then quoteChar q (Char.ofNat b.toNat)
  else '\\' :: 'x' :: hexDigits 2 b.toNat

/-- A byte sequence in quotes. -/
def quoteBytes (bytes : List UInt8) : String :=
  let q := quoteFor (bytes.map fun b => Char.ofNat b.toNat)
  String.ofList ('b' :: q :: bytes.flatMap (quoteByte q) ++ [q])

end FlopCensus.Text
