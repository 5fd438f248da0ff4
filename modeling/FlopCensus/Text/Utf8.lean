set_option autoImplicit false
set_option relaxedAutoImplicit false

/-!
# UTF-8

Bytes as text. Bytes that form no character are told apart by *maximal subparts*: the longest run
of bytes that begins a well-formed sequence, or else a single byte, counts as one failure.

## Main definitions

* `FlopCensus.Text.utf8Bytes`: the bytes of a text.
* `FlopCensus.Text.decodeParts`: the characters and failures of a byte sequence.
* `FlopCensus.Text.decodeStrict`: the text of a well-formed byte sequence.
* `FlopCensus.Text.decodeLossy`: a text in which U+FFFD stands for each failure.
-/

namespace FlopCensus.Text

/-- The bytes of a text. -/
def utf8Bytes (s : String) : List UInt8 :=
  s.toUTF8.toList

/-- What the first byte of a sequence tells. -/
structure Lead where
  /-- The bits that the byte gives to the character. -/
  bits : Nat
  /-- The number of bytes to follow. -/
  count : Nat
  /-- The least byte that may come next. -/
  low : Nat
  /-- The greatest byte that may come next. -/
  high : Nat

/-- The reading of a first byte. -/
def lead? (b : Nat) : Option Lead :=
  if b < 0x80 then some ⟨b, 0, 0x80, 0xbf⟩
  else if b < 0xc2 then none
  else if b < 0xe0 then some ⟨b - 0xc0, 1, 0x80, 0xbf⟩
  else if b == 0xe0 then some ⟨0, 2, 0xa0, 0xbf⟩
  else if b == 0xed then some ⟨0xd, 2, 0x80, 0x9f⟩
  else if b < 0xf0 then some ⟨b - 0xe0, 2, 0x80, 0xbf⟩
  else if b == 0xf0 then some ⟨0, 3, 0x90, 0xbf⟩
  else if b < 0xf4 then some ⟨b - 0xf0, 3, 0x80, 0xbf⟩
  else if b == 0xf4 then some ⟨4, 3, 0x80, 0x8f⟩
  else none

/-- Reads the following bytes of a sequence into `value`, of which `count` are missing. -/
def follow (value low high : Nat) : Nat → List UInt8 → Option Nat × List UInt8
  | 0, s => (some value, s)
  | _ + 1, [] => (none, [])
  | count + 1, b :: s =>
    if low ≤ b.toNat && b.toNat ≤ high then follow (value * 64 + (b.toNat - 0x80)) 0x80 0xbf count s
    else (none, b :: s)

/-- Reading on in a sequence takes bytes away. -/
theorem length_follow_le (value low high count : Nat) (s : List UInt8) :
    (follow value low high count s).2.length ≤ s.length := by
  fun_induction follow value low high count s with
  | case1 => simp
  | case2 => simp
  | case3 _ _ _ _ _ _ _ ih => simp only [List.length_cons]; omega
  | case4 => simp

/-- The characters of a byte sequence, nothing standing for each failure. -/
def decodeParts : List UInt8 → List (Option Char)
  | [] => []
  | b :: s =>
    match lead? b.toNat with
    | none => none :: decodeParts s
    | some l =>
      let next := follow l.bits l.low l.high l.count s
      next.1.map Char.ofNat :: decodeParts next.2
termination_by s => s.length
decreasing_by
  · simp
  · have := length_follow_le l.bits l.low l.high l.count s
    simp only [List.length_cons]
    omega

/-- The characters of a well-formed byte sequence. -/
def decodeStrict (bytes : List UInt8) : Option (List Char) :=
  (decodeParts bytes).mapM id

/-- The characters of a byte sequence with U+FFFD for each failure. -/
def decodeLossy (bytes : List UInt8) : List Char :=
  (decodeParts bytes).map (·.getD '\ufffd')

end FlopCensus.Text
