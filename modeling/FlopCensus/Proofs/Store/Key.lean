import FlopCensus.Proofs.Json.Order
import FlopCensus.Store.Key
import Mathlib.Tactic.Common

set_option autoImplicit false
set_option relaxedAutoImplicit false

/-!
# What a key tells

The text that a key is a digest of tells the parameters up to the order of members, and since all
digests have the same length, the key can be parted into the tool and the digest, whatever the name
of the tool. So, unless the digest takes two such texts for one another, the key tells the tool and
the parameters.

## Main definitions

* `FlopCensus.Store.Separates` — a digest does not take the texts of two parameters for one another.

## Main results

* `FlopCensus.Text.utf8Bytes_injective` — the bytes of a text tell the text.
* `FlopCensus.Digest.length_md5Hex` — the length of a digest.
* `FlopCensus.Store.canonical_eq_iff` — the canonical text tells the parameters.
* `FlopCensus.Store.key_eq_iff` — the key tells the tool and the parameters.
-/

namespace FlopCensus

namespace Text

/-- The bytes that are still to be listed. -/
lemma toList_loop (bytes : ByteArray) (i : Nat) (done : List UInt8) :
    ByteArray.toList.loop bytes i done = done.reverse ++ bytes.data.toList.drop i := by
  fun_induction ByteArray.toList.loop bytes i done with
  | case1 i done h ih =>
    have hi : i < bytes.data.toList.length := h
    rw [ih, List.drop_eq_getElem_cons hi]
    simp [ByteArray.get!, h]
  | case2 i done h =>
    rw [List.drop_eq_nil_of_le (Nat.le_of_not_lt h), List.append_nil]

/-- **The bytes of a text tell the text.** -/
theorem utf8Bytes_injective {s t : String} (h : utf8Bytes s = utf8Bytes t) : s = t := by
  simp only [utf8Bytes, ByteArray.toList, toList_loop, List.reverse_nil, List.nil_append,
    List.drop_zero, String.toUTF8_eq_toByteArray] at h
  exact String.toByteArray_inj.1 (ByteArray.ext (Array.toList_inj.1 h))

/-- A number is written with as many hexadecimal digits as asked for. -/
lemma length_hexDigits (width n : Nat) : (hexDigits width n).length = width := by
  induction width generalizing n with
  | zero => rfl
  | succ width ih => rw [hexDigits, List.length_append, ih, List.length_singleton]

end Text

/-! ### The length of a digest -/

namespace Digest

/-- A number is written with as many bytes as asked for. -/
lemma length_littleEndian (n count : Nat) : (littleEndian n count).length = count := by
  induction count generalizing n with
  | zero => rfl
  | succ count ih => rw [littleEndian, List.length_cons, ih]

/-- A digest has the bytes of four words. -/
lemma length_md5 (message : List UInt8) : (md5 message).length = 16 := by
  simp only [md5, List.flatMap_cons, List.flatMap_nil, List.length_append, length_littleEndian,
    List.length_nil]

/-- Each byte is written with two digits. -/
lemma length_hex (bytes : List UInt8) : (hex bytes).toList.length = 2 * bytes.length := by
  rw [hex, String.toList_ofList]
  induction bytes with
  | nil => rfl
  | cons b bytes ih =>
    rw [List.flatMap_cons, List.length_append, Text.length_hexDigits, ih, List.length_cons]
    omega

/-- **All digests have the same length.** -/
theorem length_md5Hex (message : List UInt8) : (md5Hex message).toList.length = 32 := by
  rw [md5Hex, length_hex, length_md5]

end Digest

namespace Store

open Json (Value)

/-! ### Canonical texts -/

/-- **Plain parameters have a canonical text.** -/
theorem exists_canonical {params : Value} (h : params.IsPlain) :
    ∃ text, canonical params = .ok text := by
  obtain ⟨text, htext, -⟩ := Json.write_of_isPlain h.sorted .line
  exact ⟨text, htext⟩

/-- **The canonical text tells the parameters** up to the order of members. -/
theorem canonical_eq_iff {params params' : Value} (h : params.IsPlain) (h' : params'.IsPlain) :
    canonical params = canonical params' ↔ params.Reordered params' := by
  rw [← Value.sorted_eq_iff h h']
  constructor
  · exact Json.write_injective h.sorted h'.sorted
  · intro hsorted
    rw [canonical, hsorted, canonical]

/-! ### Keys -/

/-- A digest does not take the canonical texts of two parameters for one another. -/
def Separates (digest : List UInt8 → String) (params params' : Value) : Prop :=
  ∀ text text', canonical params = .ok text → canonical params' = .ok text' →
    digest (Text.utf8Bytes text) = digest (Text.utf8Bytes text') →
      Text.utf8Bytes text = Text.utf8Bytes text'

/-- The key of parameters that have a canonical text. -/
lemma keyWith_of_canonical {digest : List UInt8 → String} {tool text : String} {params : Value}
    (h : canonical params = .ok text) :
    keyWith digest tool params = .ok (tool ++ ":" ++ digest (Text.utf8Bytes text)) := by
  rw [keyWith, h]
  rfl

/-- A key is parted into the tool and the digest by the length of the digest.

The name of the tool may hold a colon, so that the first colon does not part them. -/
lemma eq_of_parts_eq {tool tool' digest digest' : String}
    (hlength : digest.toList.length = digest'.toList.length)
    (h : tool ++ ":" ++ digest = tool' ++ ":" ++ digest') : tool = tool' ∧ digest = digest' := by
  have hlist := congrArg String.toList h
  simp only [String.toList_append] at hlist
  obtain ⟨hhead, htail⟩ := List.append_inj' hlist hlength
  exact ⟨String.toList_inj.1 (List.append_cancel_right hhead), String.toList_inj.1 htail⟩

/-- **The key tells the tool and the parameters**, the latter up to the order of members, unless the
digest takes the two canonical texts for one another. All plain parameters have a key. -/
theorem key_eq_iff {tool tool' : String} {params params' : Value} (h : params.IsPlain)
    (h' : params'.IsPlain) (hdigest : Separates Digest.md5Hex params params') :
    ∃ k k', key tool params = .ok k ∧ key tool' params' = .ok k' ∧
      (k = k' ↔ tool = tool' ∧ params.Reordered params') := by
  obtain ⟨text, htext⟩ := exists_canonical h
  obtain ⟨text', htext'⟩ := exists_canonical h'
  refine ⟨_, _, keyWith_of_canonical htext, keyWith_of_canonical htext', ?_⟩
  rw [← canonical_eq_iff h h', htext, htext', Except.ok.injEq]
  constructor
  · intro hkey
    have hlength := (Digest.length_md5Hex (Text.utf8Bytes text)).trans
      (Digest.length_md5Hex (Text.utf8Bytes text')).symm
    obtain ⟨htool, hsame⟩ := eq_of_parts_eq hlength hkey
    exact ⟨htool, Text.utf8Bytes_injective (hdigest _ _ htext htext' hsame)⟩
  · rintro ⟨rfl, rfl⟩
    rfl

/-- Parameters with an object in an array, the names in both being out of order. -/
def nestedParams : Value :=
  .object [("b", .array [.object [("x", .int (-1)), ("\"", .null)]]), ("a", .text "é:")]

/-- The same in the order of the names. -/
def orderedParams : Value :=
  .object [("a", .text "é:"), ("b", .array [.object [("\"", .null), ("x", .int (-1))]])]

/-- The order of names does not change the key, a colon behind the name of the tool does. -/
theorem key_eq_iff_nested :
    nestedParams.IsPlain ∧ orderedParams.IsPlain ∧
      Separates Digest.md5Hex nestedParams orderedParams ∧
      (∃ k, key "analyze" nestedParams = .ok k ∧ key "analyze" orderedParams = .ok k) ∧
      ∃ k k', key "analyze" nestedParams = .ok k ∧ key "analyze:" orderedParams = .ok k' ∧
        k ≠ k' := by
  have h : nestedParams.IsPlain := by
    refine .object (by decide) (List.forall_mem_cons.2 ⟨.array ?_, ?_⟩)
    · refine List.forall_mem_singleton.2 (.object (by decide) ?_)
      exact List.forall_mem_cons.2
        ⟨.int (Numeral.length_decimal_le_limit (by decide)), List.forall_mem_singleton.2 .null⟩
    · exact List.forall_mem_singleton.2 (.text _)
  have hb : ¬"b" < "a" := by decide
  have hx : ¬"x" < "\"" := by decide
  -- sorted, the first parameters are the second ones
  have hsorted : nestedParams.sorted = orderedParams := by
    simp [nestedParams, orderedParams, Value.sorted, Value.sortedItems, Value.sortedMembers,
      Value.insertMember, hb, hx]
  have hordered : orderedParams.sorted = orderedParams := by
    have ha : "a" < "b" := by decide
    have hq : "\"" < "x" := by decide
    simp [orderedParams, Value.sorted, Value.sortedItems, Value.sortedMembers, Value.insertMember,
      ha, hq]
  have h' : orderedParams.IsPlain := hsorted ▸ h.sorted
  have hsame : nestedParams.Reordered orderedParams :=
    (Value.sorted_eq_iff h h').1 (hsorted.trans hordered.symm)
  have hdigest : Separates Digest.md5Hex nestedParams orderedParams := by
    intro text text' htext htext' _
    rw [(canonical_eq_iff h h').2 hsame, htext'] at htext
    rw [Except.ok.inj htext]
  obtain ⟨k, k', hk, hk', hequal⟩ :=
    @key_eq_iff "analyze" "analyze" _ _ h h' hdigest
  obtain ⟨l, l', hl, hl', hdifferent⟩ :=
    @key_eq_iff "analyze" "analyze:" _ _ h h' hdigest
  obtain rfl := hequal.2 ⟨rfl, hsame⟩
  refine ⟨h, h', hdigest, ⟨k, hk, hk'⟩, l, l', hl, hl', fun hll => ?_⟩
  exact absurd (hdifferent.1 hll).1 (by decide)

end Store

end FlopCensus
