import FlopCensus.Text.Lines
import FlopCensus.Text.Utf8

set_option autoImplicit false
set_option relaxedAutoImplicit false

/-!
# Texts that are read in portions

A reader that asks for characters when it needs them meets a fault in a file only when it gets
there. Bytes are decoded in blocks, and characters are handed out in portions, the first two of them
at once. If a block cannot be decoded, none of its characters are there.

## Main definitions

* `FlopCensus.Text.portionStart`: the start of the portion with a character.
* `FlopCensus.Text.Decoding`: the characters of the blocks so far.
* `FlopCensus.Text.decodeBlocks`: the characters in front of the first block that is no UTF-8.
-/

namespace FlopCensus.Text

/-- The number of characters in a portion. -/
def portionSize : Nat := 4096

/-- The number of bytes in a block of usual size. -/
def blockSize : Nat := 8192

/-- The number of characters that are handed out before the portion with a character. -/
def portionStart (index : Nat) : Nat :=
  if index < 2 * portionSize then 0 else index / portionSize * portionSize

/-- The characters of the blocks so far. -/
structure Decoding where
  /-- The bytes that are still to be read. -/
  rest : List UInt8
  /-- The first bytes of a character that the next block completes. -/
  started : List UInt8 := []
  /-- The last block ends with a carriage return, which may be half a line end. -/
  pending : Bool := false
  /-- The characters, last first, with line ends written as line feeds. -/
  text : List Char := []
  /-- The number of the characters. -/
  size : Nat := 0
  /-- The numbers of bytes and of characters in the last block. -/
  density : Nat × Nat := (0, 0)

/-- The characters that some bytes hold, and the bytes at the end that begin a character. -/
def decodeBlock (bytes : List UInt8) : Option (List Char × List UInt8) :=
  match bytes with
  | [] => some ([], [])
  | b :: s =>
    match lead? b.toNat with
    | none => none
    | some l =>
      let next := follow l.bits l.low l.high l.count s
      match next.1 with
      | some n => (decodeBlock next.2).map fun (text, started) => (Char.ofNat n :: text, started)
      | none => if next.2.isEmpty then some ([], b :: s) else none
termination_by bytes.length
decreasing_by
  have := length_follow_le l.bits l.low l.high l.count s
  simp only [List.length_cons]
  omega

namespace Decoding

/-- The number of bytes in the next block: more than usual after a block of long characters, so that
a portion can be filled at once. -/
def nextSize (d : Decoding) : Nat :=
  let (bytes, chars) := d.density
  max blockSize (bytes * (portionSize - d.size % portionSize) / chars)

/-- Adds the characters of a block of a number of bytes. A carriage return at the end waits for what
follows it. -/
def add (d : Decoding) (bytes : Nat) (block : List Char) : Decoding :=
  let chars := if d.pending then '\r' :: block else block
  let pending := chars.getLast? == some '\r'
  let text := unifyNewlines (if pending then chars.dropLast else chars)
  { d with
    pending
    text := text.reverse ++ d.text
    size := d.size + text.length
    density := (bytes, text.length) }

/-- The characters at the end of the file. -/
def finish (d : Decoding) : List Char :=
  (if d.pending then '\n' :: d.text else d.text).reverse

/-- Decodes block by block. Answers the characters, and whether all bytes are decoded. -/
def run : Nat → Decoding → List Char × Bool
  | 0, d => (d.finish, true)
  | n + 1, d =>
    let block := d.rest.take d.nextSize
    if block.isEmpty then
      if d.started.isEmpty then (d.finish, true) else (d.text.reverse, false)
    else
      match decodeBlock (d.started ++ block) with
      | none => (d.text.reverse, false)
      | some (chars, started) =>
        ({ d with rest := d.rest.drop block.length, started }.add block.length chars).run n

end Decoding

/-- The characters in front of the first block that is no UTF-8, and whether there is no such
block. -/
def decodeBlocks (bytes : List UInt8) : List Char × Bool :=
  ({ rest := bytes } : Decoding).run (bytes.length + 1)

end FlopCensus.Text
