import FlopCensus.Diagnostic
import FlopCensus.Proofs.Dump.Entry
import FlopCensus.Proofs.Numeral.Reading
import FlopCensus.Proofs.Text.Search
import Mathlib.Tactic.Common

set_option autoImplicit false
set_option relaxedAutoImplicit false

/-!
# The place of a syntax error

A syntax tool names the place of an error behind its message, and nothing marks where the message
ends: it may hold the words that separate it from the place, and the path may hold numbers between
colons. The parts are told apart all the same, because the separator is sought from the right, and
neither a path without blanks nor a number can hold it.

## Main definitions

* `FlopCensus.Diagnostic.locatedLine` — the line that reports an error at a place.

## Main results

* `FlopCensus.Diagnostic.file?_append` — a path and two numbers behind it.
* `FlopCensus.Diagnostic.place?_append` — a message and a place behind it.
* `FlopCensus.Diagnostic.ofStderr_locatedLine` — the first report in an error stream is read back.
-/

namespace FlopCensus.Diagnostic

open Dump (IsNumeral isNumeral_decimal)
open Numeral (natText decimal digitLimit)
open Text

/-! ### Numerals -/

/-- A numeral ends at the end of the text or before a character that is no digit. -/
lemma numeral?_append {s t : List Char} (h : IsNumeral s) (ht : ∀ c ∈ t.head?, isDigit c = false) :
    numeral? (s ++ t) = some (s, t) := by
  rw [numeral?, takeWhile_run_append h.2 ht, dropWhile_run_append h.2 ht]
  obtain ⟨c, cs, rfl⟩ := List.exists_cons_of_ne_nil h.1
  rfl

/-- A numeral holds only digits. -/
lemma not_mem_of_isNumeral {s : List Char} {c : Char} (h : IsNumeral s)
    (hc : isDigit c = false) : c ∉ s := fun hmem => by
  rw [h.2 c hmem] at hc
  cases hc

section Place

variable {text file line column : List Char} (hline : IsNumeral line) (hcolumn : IsNumeral column)

include hline hcolumn in
/-- Two numerals with a colon between them. -/
lemma numerals?_append : numerals? (line ++ ':' :: column) = some (line, column) := by
  have hfirst : numeral? (line ++ ':' :: column) = some (line, ':' :: column) :=
    numeral?_append hline (by simp; decide)
  have hcolon : [':'].isPrefixOf? (':' :: column) = some column := isPrefixOf?_append [':'] column
  have hsecond : numeral? column = some (column, []) := by
    simpa using numeral?_append (t := []) hcolumn (by simp)
  simp only [numerals?, hfirst, hcolon, hsecond, Option.bind_eq_bind, Option.bind_some]
  rfl

include hcolumn in
/-- One numeral is not two. -/
lemma numerals?_eq_none : numerals? column = none := by
  have honly : numeral? column = some (column, []) := by
    simpa using numeral?_append (t := []) hcolumn (by simp)
  simp only [numerals?, honly, Option.bind_eq_bind, Option.bind_some]
  rfl

include hline hcolumn in
/-- **A path and two numerals behind it** are told apart, even if the path ends in numerals. -/
theorem file?_append (hfile : file ≠ []) :
    file? (file ++ ':' :: (line ++ ':' :: column)) = some (file, line, column) := by
  have hfirst := not_mem_of_isNumeral hline (by decide : isDigit ':' = false)
  have hsecond := not_mem_of_isNumeral hcolumn (by decide : isDigit ':' = false)
  have hlast : splitsAt [':'] column = [] :=
    splitsAt_eq_nil fun h => hsecond (h.subset (by simp))
  have hcuts : splitsAt [':'] (':' :: (line ++ ':' :: column)) =
      [([], line ++ ':' :: column), (':' :: line, column)] := by
    have hfront := splitsAt_append_cons (c := ':') (s := []) (by simp) (line ++ ':' :: column)
    rw [List.nil_append] at hfront
    rw [hfront, splitsAt_append_cons hfirst, hlast]
    rfl
  obtain ⟨earlier, hsplits⟩ := exists_splitsAt_append [':'] file (':' :: (line ++ ':' :: column))
  rw [file?, hsplits, hcuts]
  simp [numerals?_eq_none hcolumn, numerals?_append hline hcolumn, hfile]

/-- The separator of message and place does not occur again in what it leads to. -/
lemma not_infix_of_not_mem {s : List Char} (h : ' ' ∉ s) :
    ¬" at ".toList <:+: "at ".toList ++ s := fun hin => by
  have hcount := hin.sublist.count_le ' '
  rw [List.count_append, List.count_eq_zero_of_not_mem h] at hcount
  exact absurd hcount (by decide)

/-- A text without blanks behind the separator is cut off there and nowhere else. -/
lemma splitsAt_separator {s : List Char} (h : ' ' ∉ s) :
    splitsAt " at ".toList (" at ".toList ++ s) = [([], s)] := by
  have hrest : splitsAt " at ".toList ("at ".toList ++ s) = [] :=
    splitsAt_eq_nil (not_infix_of_not_mem h)
  have hfront : " at ".toList.isPrefixOf? (' ' :: ("at ".toList ++ s)) = some s :=
    isPrefixOf?_append " at ".toList s
  have hcuts := splitsAt_cons " at ".toList ' ' ("at ".toList ++ s)
  rwa [hrest, hfront] at hcuts

include hline hcolumn in
/-- **A message and a place behind it** are told apart, even if the message names places. -/
theorem place?_append (htext : text ≠ []) (hfile : file ≠ []) (hblank : ' ' ∉ file) :
    place? (text ++ (" at ".toList ++ (file ++ ':' :: (line ++ ':' :: column)))) =
      some { text, file, line, column } := by
  have hplace : ' ' ∉ file ++ ':' :: (line ++ ':' :: column) := by
    have hfirst := not_mem_of_isNumeral hline (by decide : isDigit ' ' = false)
    have hsecond := not_mem_of_isNumeral hcolumn (by decide : isDigit ' ' = false)
    simp [hblank, hfirst, hsecond]
  obtain ⟨earlier, hsplits⟩ := exists_splitsAt_append " at ".toList text
    (" at ".toList ++ (file ++ ':' :: (line ++ ':' :: column)))
  rw [place?, hsplits, splitsAt_separator hplace]
  simp [file?_append hline hcolumn hfile, htext]

end Place

/-! ### Reports in an error stream -/

/-- The line that reports an error at a place. -/
def locatedLine (text file : String) (line column : ℕ) : String :=
  "Error: " ++ text ++ " at " ++ file ++ ":" ++ natText line ++ ":" ++ natText column

/-- The characters of such a line. -/
lemma toList_locatedLine (text file : String) (line column : ℕ) :
    (locatedLine text file line column).toList = "Error: ".toList ++ (text.toList ++
      (" at ".toList ++ (file.toList ++ ':' :: (decimal line ++ ':' :: decimal column)))) := by
  simp [locatedLine, natText]

/-- A numeral stays on its line. -/
lemma newline_not_mem_decimal (n : ℕ) : '\n' ∉ decimal n :=
  not_mem_of_isNumeral (isNumeral_decimal n) (by decide)

/-- The numerals of a place are read as its line and column. -/
lemma atPlace_decimal {text file : List Char} {line column : ℕ}
    (hline : (decimal line).length ≤ digitLimit) (hcolumn : (decimal column).length ≤ digitLimit) :
    atPlace { text, file, line := decimal line, column := decimal column } =
      .ok (.syntaxError (String.ofList text) (String.ofList file) line column) := by
  have hfirst : Numeral.read (String.ofList (decimal line)) = .ok (line : ℤ) :=
    Numeral.read_natText hline
  have hsecond : Numeral.read (String.ofList (decimal column)) = .ok (column : ℤ) :=
    Numeral.read_natText hcolumn
  simp only [atPlace, hfirst, hsecond, bind, Except.bind, Int.toNat_natCast]
  rfl

/-- The first of some lines ends where the next one begins. -/
lemma restOfLine_intercalate {l : List Char} (h : '\n' ∉ l) (front : List Char)
    (lines : List (List Char)) :
    ∃ rest, ['\n'].intercalate ((front ++ l) :: lines) = front ++ rest ∧ restOfLine rest = l := by
  cases lines with
  | nil =>
    refine ⟨l, by simp, ?_⟩
    rw [restOfLine, List.takeWhile_eq_self_iff.2 (forall_bne_of_not_mem h)]
  | cons next lines =>
    refine ⟨l ++ '\n' :: ['\n'].intercalate (next :: lines), ?_, ?_⟩
    · rw [List.intercalate_cons_cons, List.append_assoc, List.append_assoc, List.singleton_append]
    · exact takeWhile_bne_append h _

/-- **The first report in an error stream is read back.** A line that names the place of an error
behind its message gives that message, path, line and column, whatever the message and the path look
like and whatever the lines behind it say; only a line in front of it that begins a report could
take its place.

**Proof sketch.** The lines in front are passed over in the search for the word that begins a report
(`behind_intercalate`). What follows it up to the end of the line is cut at the last separator with
a place behind it (`place?_append`), and that is the one that was written, because neither the path
nor the numbers hold a blank. -/
theorem ofStderr_locatedLine {text file : String} {line column : ℕ} {before : List String}
    (htext : text ≠ "") (htextLine : '\n' ∉ text.toList)
    (hfile : file ≠ "") (hfileLine : '\n' ∉ file.toList) (hblank : ' ' ∉ file.toList)
    (hline : (decimal line).length ≤ digitLimit) (hcolumn : (decimal column).length ≤ digitLimit)
    (hbefore : ∀ l ∈ before, contains l "Error: " = false) (after : List String) (tool : String) :
    ∃ d, ofStderr ("\n".intercalate (before ++ locatedLine text file line column :: after)) tool =
        .ok (some d) ∧
      d = .syntaxError text file line column ∧ d.code = "SYNTAX_ERROR" ∧ d.message = text := by
  have hplain : '\n' ∉ text.toList ++ (" at ".toList ++
      (file.toList ++ ':' :: (decimal line ++ ':' :: decimal column))) := by
    simp [htextLine, hfileLine, newline_not_mem_decimal]
  have hplace := place?_append (isNumeral_decimal line) (isNumeral_decimal column)
    (String.toList_eq_nil_iff.not.2 htext) (String.toList_eq_nil_iff.not.2 hfile) hblank
  obtain ⟨rest, hstream, hrest⟩ := restOfLine_intercalate hplain "Error: ".toList
    (after.map String.toList)
  have hchars : ("\n".intercalate (before ++ locatedLine text file line column :: after)).toList =
      ['\n'].intercalate (before.map String.toList ++
        (locatedLine text file line column).toList :: after.map String.toList) := by
    rw [String.toList_intercalate, List.map_append, List.map_cons]
    rfl
  obtain ⟨later, hfound⟩ := exists_behind_append "Error: ".toList rest
  -- no line in front has the mark, so the first text behind it starts with the rest of this line
  have hbehind : behind "Error: ".toList
      ("\n".intercalate (before ++ locatedLine text file line column :: after)).toList =
      rest :: later := by
    rw [hchars, behind_intercalate (by decide) (by decide) ?_ (List.cons_ne_nil _ _),
      toList_locatedLine, hstream, hfound]
    exact List.forall_mem_map.2 hbefore
  refine ⟨.syntaxError text file line column, ?_, rfl, rfl, rfl⟩
  rw [ofStderr, hbehind, List.findSome?_cons, hrest, hplace]
  simp only [atPlace_decimal hline hcolumn, String.ofList_toList]
  rfl

/-- A message that names places itself and a path with numbers between colons, among lines that
complain of other things. -/
theorem ofStderr_locatedLine_awkward :
    ∃ d, ofStderr ("\n".intercalate (["Unknown flag: --bogus", "note at a.sv:1:2"] ++
        locatedLine "no rule at x:1:2 at all" "C:7:8.sv" 12 5 ::
          ["Error: bad at b.sv:3:4", "File not found: c.sv"])) "tool" = .ok (some d) ∧
      d = .syntaxError "no rule at x:1:2 at all" "C:7:8.sv" 12 5 ∧
      d.code = "SYNTAX_ERROR" ∧ d.message = "no rule at x:1:2 at all" :=
  ofStderr_locatedLine (by decide) (by decide) (by decide) (by decide) (by decide)
    (Numeral.length_decimal_le_limit (by decide)) (Numeral.length_decimal_le_limit (by decide))
    (by decide) _ _

end FlopCensus.Diagnostic
