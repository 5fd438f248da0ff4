import FlopCensus.Text.Quoted

set_option autoImplicit false
set_option relaxedAutoImplicit false

/-!
# The MD5 digest

The message is padded by a single bit and zeros to eight bytes short of a multiple of sixty-four;
its length in bits follows in little-endian order. Each block of sixty-four bytes then changes a
state of four words in sixty-four steps.

## Main definitions

* `FlopCensus.Digest.md5`: the sixteen bytes of the digest.
* `FlopCensus.Digest.hex`: bytes in hexadecimal.
* `FlopCensus.Digest.md5Hex`: the digest in hexadecimal.
-/

namespace FlopCensus.Digest

/-- The four words that a block changes. -/
structure State where
  a : UInt32
  b : UInt32
  c : UInt32
  d : UInt32
deriving Repr, DecidableEq

/-- The state before the first block. -/
def State.initial : State :=
  ⟨0x67452301, 0xefcdab89, 0x98badcfe, 0x10325476⟩

/-- The constants of the sixty-four steps: the whole parts of `2 ^ 32 * |sin (i + 1)|`. -/
def sines : List UInt32 := [
  0xd76aa478, 0xe8c7b756, 0x242070db, 0xc1bdceee, 0xf57c0faf, 0x4787c62a, 0xa8304613, 0xfd469501,
  0x698098d8, 0x8b44f7af, 0xffff5bb1, 0x895cd7be, 0x6b901122, 0xfd987193, 0xa679438e, 0x49b40821,
  0xf61e2562, 0xc040b340, 0x265e5a51, 0xe9b6c7aa, 0xd62f105d, 0x02441453, 0xd8a1e681, 0xe7d3fbc8,
  0x21e1cde6, 0xc33707d6, 0xf4d50d87, 0x455a14ed, 0xa9e3e905, 0xfcefa3f8, 0x676f02d9, 0x8d2a4c8a,
  0xfffa3942, 0x8771f681, 0x6d9d6122, 0xfde5380c, 0xa4beea44, 0x4bdecfa9, 0xf6bb4b60, 0xbebfbc70,
  0x289b7ec6, 0xeaa127fa, 0xd4ef3085, 0x04881d05, 0xd9d4d039, 0xe6db99e5, 0x1fa27cf8, 0xc4ac5665,
  0xf4292244, 0x432aff97, 0xab9423a7, 0xfc93a039, 0x655b59c3, 0x8f0ccc92, 0xffeff47d, 0x85845dd1,
  0x6fa87e4f, 0xfe2ce6e0, 0xa3014314, 0x4e0811a1, 0xf7537e82, 0xbd3af235, 0x2ad7d2bb, 0xeb86d391]

/-- The rotations of a round of sixteen steps, four of them in turn. -/
def rotations : List (List UInt32) :=
  [[7, 12, 17, 22], [5, 9, 14, 20], [4, 11, 16, 23], [6, 10, 15, 21]]

/-- The mixing function of a round. -/
def mix (round : Nat) (s : State) : UInt32 :=
  match round with
  | 0 => (s.b &&& s.c) ||| (~~~s.b &&& s.d)
  | 1 => (s.d &&& s.b) ||| (~~~s.d &&& s.c)
  | 2 => s.b ^^^ s.c ^^^ s.d
  | _ => s.c ^^^ (s.b ||| ~~~s.d)

/-- The word of the block that a step takes. -/
def wordIndex (round i : Nat) : Nat :=
  match round with
  | 0 => i
  | 1 => (5 * i + 1) % 16
  | 2 => (3 * i + 5) % 16
  | _ => 7 * i % 16

/-- A word turned to the left. -/
def rotate (x n : UInt32) : UInt32 :=
  (x <<< n) ||| (x >>> (32 - n))

/-- Step `i` with its constant. -/
def step (block : List UInt32) (s : State) (i : Nat) (sine : UInt32) : State :=
  let round := i / 16
  let turn := ((rotations.getD round []).getD (i % 4) 0)
  let f := mix round s + s.a + sine + block.getD (wordIndex round i) 0
  ⟨s.d, s.b + rotate f turn, s.b, s.c⟩

/-- The state behind a block of sixteen words. -/
def compress (s : State) (block : List UInt32) : State :=
  let t := (sines.zipIdx).foldl (fun t (sine, i) => step block t i sine) s
  ⟨s.a + t.a, s.b + t.b, s.c + t.c, s.d + t.d⟩

/-- A number as little-endian bytes. -/
def littleEndian (n : Nat) : Nat → List UInt8
  | 0 => []
  | count + 1 => UInt8.ofNat (n % 256) :: littleEndian (n / 256) count

/-- The message with its padding. -/
def pad (message : List UInt8) : List UInt8 :=
  let zeros := (119 - message.length % 64) % 64
  message ++ 0x80 :: List.replicate zeros 0 ++ littleEndian (8 * message.length) 8

/-- Bytes as little-endian words. -/
def words : List UInt8 → List UInt32
  | a :: b :: c :: d :: rest =>
    (a.toUInt32 ||| (b.toUInt32 <<< 8) ||| (c.toUInt32 <<< 16) ||| (d.toUInt32 <<< 24)) ::
      words rest
  | _ => []

/-- The state behind all blocks. -/
def run (s : State) : List UInt32 → State
  | [] => s
  | w :: rest => run (compress s ((w :: rest).take 16)) (rest.drop 15)
termination_by ws => ws.length
decreasing_by simp only [List.length_drop, List.length_cons]; omega

/-- The digest of a message. -/
def md5 (message : List UInt8) : List UInt8 :=
  let s := run .initial (words (pad message))
  [s.a, s.b, s.c, s.d].flatMap fun w => littleEndian w.toNat 4

/-- Bytes in hexadecimal. -/
def hex (bytes : List UInt8) : String :=
  String.ofList (bytes.flatMap fun b => Text.hexDigits 2 b.toNat)

/-- The digest of a message in hexadecimal. -/
def md5Hex (message : List UInt8) : String :=
  hex (md5 message)

end FlopCensus.Digest
