import FlopCensus.Proofs.Store.Key
import FlopCensus.Survey.File
import Mathlib.Tactic.Common

set_option autoImplicit false
set_option relaxedAutoImplicit false

/-!
# The key of a file

A result is stored under a digest of a text that names the absolute path of the file and the source.
The text tells both, so that, unless the digest collides, results of two files have the same key
only if the two have the same absolute path.

## Main definitions

* `FlopCensus.Survey.keyText` — the text that a key is a digest of.
* `FlopCensus.Survey.fileKey` — the key of a file.

## Main results

* `FlopCensus.Survey.keyOf_eq` — every file has a key, which is made of its text.
* `FlopCensus.Survey.absolute_eq_of_fileKey_eq` — the key tells the absolute path.
-/

namespace FlopCensus

namespace Survey

/-- What the text of a key has in front of the absolute path. -/
def keyHead : List Char :=
  '\x7b' :: (Json.escapeText "file" ++ [':', ' '])

/-- What the text of a key has behind the absolute path. -/
def keyTail (tool : String) : List Char :=
  ',' :: ' ' :: (Json.escapeText "source" ++ ':' :: ' ' :: Json.escapeText tool) ++ ['\x7d']

/-- The text that the key of a file is a digest of. -/
def keyText (tool place : String) : String :=
  String.ofList (keyHead ++ (Json.escapeText place ++ keyTail tool))

/-- The parameters of a key are in the order of their names. -/
lemma sorted_params (tool place : String) :
    Json.Value.sorted (.object [("file", .text place), ("source", .text tool)]) =
      .object [("file", .text place), ("source", .text tool)] := by
  have hlt : "file" < "source" := by decide
  simp [Json.Value.sorted, Json.Value.sortedMembers, Json.Value.insertMember, hlt]

/-- The parameters of a key are written as its text. -/
lemma canonical_params (tool place : String) :
    Store.canonical (.object [("file", .text place), ("source", .text tool)]) =
      .ok (keyText tool place) := by
  rw [Store.canonical, sorted_params, Json.write, keyText, keyHead, keyTail]
  generalize hfile : Json.escapeText "file" = file
  generalize hsource : Json.escapeText "source" = source
  simp only [Json.writeAt, Json.writeMembers, hfile, hsource, pure_bind, Json.enclose,
    Json.Layout.lead, Json.Layout.separator]
  refine congrArg (fun text => Except.ok (String.ofList text)) ?_
  simp [List.intercalate, List.intersperse]

/-- The bytes that the key of a file is a digest of. -/
def keyBytes (tool : String) (fs : FileSystem) (path : String) : List UInt8 :=
  Text.utf8Bytes (keyText tool (Files.absolute fs.workingPath path))

/-- The key of a file. -/
def fileKey (digest : List UInt8 → String) (tool : String) (fs : FileSystem) (path : String) :
    String :=
  "analyze:" ++ digest (keyBytes tool fs path)

/-- **Every file has a key**, which is made of its absolute path and of the source. -/
theorem keyOf_eq (digest : List UInt8 → String) (fs : FileSystem) (tool path : String) :
    keyOf digest fs tool path = .ok (fileKey digest tool fs path) := by
  rw [keyOf, Store.keyWith, canonical_params]
  rfl

/-- **The text of a key tells the absolute path.** -/
theorem keyText_injective {tool place place' : String}
    (h : keyText tool place = keyText tool place') : place = place' := by
  unfold keyText at h
  generalize keyHead = head at h
  have hlist := congrArg String.toList h
  simp only [String.toList_ofList] at hlist
  exact (Json.escapeText_append_inj (List.append_cancel_left hlist)).1

/-- **Files with the same key have the same absolute path**, unless their keys collide. -/
theorem absolute_eq_of_fileKey_eq {digest : List UInt8 → String} {tool p q : String}
    {fs : FileSystem} (h : fileKey digest tool fs p = fileKey digest tool fs q)
    (hdigest : digest (keyBytes tool fs p) = digest (keyBytes tool fs q) →
      keyBytes tool fs p = keyBytes tool fs q) :
    Files.absolute fs.workingPath p = Files.absolute fs.workingPath q := by
  rw [fileKey, fileKey, String.append_right_inj] at h
  exact keyText_injective (Text.utf8Bytes_injective (hdigest h))

end Survey

end FlopCensus
