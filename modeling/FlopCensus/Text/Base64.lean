set_option autoImplicit false
set_option relaxedAutoImplicit false

/-!
# Base 64

Bytes written six bits at a time. Characters outside the alphabet do not count, and what follows the
padding of a complete group is not read.

## Main definitions

* `FlopCensus.Text.decodeBase64`: the bytes that a text stands for.
-/

namespace FlopCensus.Text

/-- The six bits that a character stands for. -/
def base64Value? (c : Char) : Option Nat :=
  if c.isUpper then some (c.toNat - 65)
  else if c.isLower then some (c.toNat - 71)
  else if c.isDigit then some (c.toNat + 4)
  else if c == '+' then some 62
  else if c == '/' then some 63
  else none

/-- The bytes of the characters of one group, as far as they are complete. -/
def groupBytes : List Nat → List UInt8
  | [a, b] => [UInt8.ofNat (a * 4 + b / 16)]
  | [a, b, c] => [UInt8.ofNat (a * 4 + b / 16), UInt8.ofNat (b % 16 * 16 + c / 4)]
  | [a, b, c, d] =>
    [UInt8.ofNat (a * 4 + b / 16), UInt8.ofNat (b % 16 * 16 + c / 4), UInt8.ofNat (c % 4 * 64 + d)]
  | _ => []

/-- The bytes that a text stands for, `group` holding the values of an open group and `pads` the
number of padding characters right before. -/
def decodeGroups (group : List Nat) (pads : Nat) : List Char → Option (List UInt8)
  | [] => if group.isEmpty then some [] else none
  | '=' :: rest =>
    if 2 ≤ group.length && 4 ≤ group.length + pads + 1 then some (groupBytes group)
    else decodeGroups group (if 2 ≤ group.length then pads + 1 else pads) rest
  | c :: rest =>
    match base64Value? c with
    | none => decodeGroups group pads rest
    | some v =>
      let group := group ++ [v]
      if group.length == 4 then (decodeGroups [] 0 rest).map (groupBytes group ++ ·)
      else decodeGroups group 0 rest

/-- The bytes that a text stands for, unless its last group is incomplete. -/
def decodeBase64 (s : List Char) : Option (List UInt8) :=
  decodeGroups [] 0 s

end FlopCensus.Text
