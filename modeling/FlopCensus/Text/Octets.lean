import FlopCensus.Text.Utf8

set_option autoImplicit false
set_option relaxedAutoImplicit false

/-!
# Bytes as characters

A text whose characters stand for bytes: the character with number `n` is the byte `n`. So bytes
that form no text can be worked on as a text is.

## Main definitions

* `FlopCensus.Text.octets`: the bytes of a text as characters.
* `FlopCensus.Text.ofOctets`: the text of such bytes.
* `FlopCensus.Text.characters`, `FlopCensus.Text.spelling`: the characters that such bytes spell, and
  back again, nothing being lost.
-/

namespace FlopCensus.Text

/-- Bytes as characters. -/
def octetsOfBytes (bytes : List UInt8) : List Char :=
  bytes.map fun b => Char.ofNat b.toNat

/-- Characters back as bytes. -/
def bytesOfOctets (s : List Char) : List UInt8 :=
  s.map fun c => UInt8.ofNat c.toNat

/-- The bytes of a text as characters. -/
def octets (s : String) : List Char :=
  octetsOfBytes (utf8Bytes s)

/-- The text of bytes that are given as characters. -/
def ofOctets (s : List Char) : String :=
  String.ofList (decodeLossy (bytesOfOctets s))

/-- The number in front of those that stand for stray bytes. -/
def strayBase : Nat := 0x10ff00

/-- A byte that belongs to no character, as a character that no text has. -/
def strayByte (b : UInt8) : Char :=
  Char.ofNat (strayBase + b.toNat)

/-- The character stands for a stray byte. -/
def isStray (c : Char) : Bool :=
  strayBase ≤ c.toNat

/-- The characters that bytes spell. -/
def charactersOfBytes : List UInt8 → List Char
  | [] => []
  | b :: s =>
    match lead? b.toNat with
    | none => strayByte b :: charactersOfBytes s
    | some l =>
      let next := follow l.bits l.low l.high l.count s
      match next.1 with
      | some n => Char.ofNat n :: charactersOfBytes next.2
      | none => strayByte b :: charactersOfBytes s
termination_by s => s.length
decreasing_by
  · simp
  · have := length_follow_le l.bits l.low l.high l.count s
    simp only [List.length_cons]
    omega
  · simp

/-- The characters that bytes spell which are given as characters. -/
def characters (s : List Char) : List Char :=
  charactersOfBytes (bytesOfOctets s)

/-- The bytes of characters, given as characters. -/
def spelling (s : List Char) : List Char :=
  s.flatMap fun c =>
    if c < '\x80' then [c]
    else if isStray c then [Char.ofNat (c.toNat - strayBase)]
    else octets c.toString

end FlopCensus.Text
