import FlopCensus.Design.Analysis
import FlopCensus.Dump.Document
import FlopCensus.Proofs.Text.Visible
import Mathlib.Data.Int.Notation
import Mathlib.Tactic.Common

set_option autoImplicit false
set_option relaxedAutoImplicit false

/-!
# Dumps whatever their line ends

A dump that is read from a file has its line ends in one form, and a dump that comes from a tool may
have them in any. The tree is the same, because the lines are, except for empty lines that come and
go where a carriage return meets a line feed; and empty lines say nothing about the tree.

## Main definitions

* `FlopCensus.Dump.parseBytes` — the tree of the dump that some bytes hold, as they are.

## Main results

* `FlopCensus.Dump.parse_congr` — a dump is known from its visible lines.
* `FlopCensus.Dump.parseFile_eq` — a dump in a file is that of its bytes.
* `FlopCensus.Dump.line_ends_are_alike` — no form of line ends makes a difference.
-/

namespace FlopCensus.Dump

open Text

/-! ### Empty lines -/

/-- An empty line says nothing about the tree. -/
lemma readInto_nil (width : ℤ) (p : Progress) : readInto width p [] = .ok p := rfl

/-- **Empty lines may be left out.** -/
theorem foldlM_readInto_visible (width : ℤ) (p : Progress) (lines : List (List Char)) :
    (lines.filter (· ≠ [])).foldlM (readInto width) p = lines.foldlM (readInto width) p := by
  induction lines generalizing p with
  | nil => rfl
  | cons l lines ih =>
    by_cases hl : l = []
    · subst hl
      rw [List.filter_cons_of_neg (by simp), List.foldlM_cons, readInto_nil, ih]
      rfl
    · rw [List.filter_cons_of_pos (by simpa using hl), List.foldlM_cons, List.foldlM_cons]
      exact congrArg _ (funext fun q => ih q)

/-- **A dump is known from its visible lines.** -/
theorem parse_congr {text text' : String}
    (h : visibleLines text.toList = visibleLines text'.toList) (width : ℤ) :
    parse text width = parse text' width := by
  rw [visibleLines, visibleLines] at h
  rw [parse, parse, ← foldlM_readInto_visible, h, foldlM_readInto_visible]

/-- A dump with its line ends in one form is the same dump. -/
lemma parse_unifyNewlines (text : String) (width : ℤ) :
    parse (String.ofList (unifyNewlines text.toList)) width = parse text width := by
  rw [parse, parse, String.toList_ofList, splitLines_unifyNewlines]

/-! ### Dumps in files -/

/-- The tree of the dump that some bytes hold, its line ends being left as they are. -/
def parseBytes (bytes : List UInt8) : Except FileError Node :=
  match decodeStrict bytes with
  | some text => (parseStandard (String.ofList text)).mapError .dump
  | none => .error (.text .undecodable)

/-- **A dump in a file is that of its bytes**, if the file can be read. -/
theorem parseFile_eq (fs : FileSystem) (path : String) :
    parseFile fs path = ((fs.read path).mapError fun e => .text (.file e)).bind parseBytes := by
  rw [parseFile, FileSystem.readText]
  cases fs.read path with
  | error e => rfl
  | ok bytes =>
    simp only [Except.mapError, bind, Except.bind, parseBytes, Files.textOf?]
    cases decodeStrict bytes with
    | none => rfl
    | some text =>
      have := parse_unifyNewlines (String.ofList text) standardWidth
      rw [String.toList_ofList] at this
      exact congrArg (Except.mapError _) this

/-! ### Dumps of tools -/

/-- A dump of the same visible lines gives the same inventory. -/
lemma analyzeDump_congr {dump dump' : String}
    (h : visibleLines dump.toList = visibleLines dump'.toList) (source : List UInt8)
    (file : String) :
    Design.analyzeDump dump source file = Design.analyzeDump dump' source file := by
  rw [Design.analyzeDump, Design.analyzeDump, parseStandard, parseStandard, parse_congr h]

/-- **No form of line ends makes a difference.** Writing all line ends of a dump in one form leaves
the outcome as it is, a dump in a file has the outcome of its bytes as they are, and the inventory
of a dump that is written line by line is the same for all line ends, which may be mixed.

**Proof sketch.** The lines of a text do not change when its line ends are written in one form
(`splitLines_unifyNewlines`). With line ends of its own choice a dump keeps its visible lines
(`visibleLines_written`), and these alone decide about the tree (`parse_congr`). -/
theorem line_ends_are_alike :
    (∀ (text : String) (width : ℤ),
      parse (String.ofList (unifyNewlines text.toList)) width = parse text width) ∧
    (∀ (fs : FileSystem) (path : String),
      parseFile fs path = ((fs.read path).mapError fun e => .text (.file e)).bind parseBytes) ∧
    ∀ (lines : List (List Char × LineEnd)) (last : List Char) (source : List UInt8) (file : String),
      Design.analyzeDump (String.ofList (written lines ++ last)) source file =
        Design.analyzeDump (String.ofList (written (lines.map fun l => (l.1, .feed)) ++ last))
          source file := by
  refine ⟨parse_unifyNewlines, parseFile_eq, fun lines last source file => ?_⟩
  refine analyzeDump_congr ?_ source file
  rw [String.toList_ofList, String.toList_ofList, visibleLines_written, visibleLines_written,
    List.flatMap_map]

/-- A carriage return behind a line and a line feed behind an empty one are one separator. -/
example : splitLines (written [(['a'], .carriage), ([], .feed), (['b'], .pair)]) = [['a'], ['b']] ∧
    visibleLines (written [(['a'], .feed), ([], .feed), (['b'], .feed)]) = [['a'], ['b']] := by
  decide +kernel

end FlopCensus.Dump
