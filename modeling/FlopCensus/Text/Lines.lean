set_option autoImplicit false
set_option relaxedAutoImplicit false

/-!
# Lines

Two conventions about where a line ends. A *line of text* ends at any of the eleven separators of
Unicode, a carriage return directly before a line feed forming one separator with it. A *text file*
knows three line ends, `\n`, `\r\n` and `\r`, and reading it writes all three as `\n`.

## Main definitions

* `FlopCensus.Text.isLineBreak`: the separators of lines of text.
* `FlopCensus.Text.splitLines`: the lines of a text; a separator at the end opens no further line.
* `FlopCensus.Text.unifyNewlines`: a text with every line end written as a line feed.
-/

namespace FlopCensus.Text

/-- A character that ends a line of text. -/
def isLineBreak (c : Char) : Bool :=
  c == '\n' || c == '\r' || c == '\x0b' || c == '\x0c' || c == '\x1c' || c == '\x1d' ||
    c == '\x1e' || c == '\u0085' || c == '\u2028' || c == '\u2029'

/-- The characters up to the first separator, and what follows that separator if there is one. -/
def cutLine : List Char → List Char × Option (List Char)
  | [] => ([], none)
  | '\r' :: '\n' :: rest => ([], some rest)
  | c :: rest =>
    if isLineBreak c then ([], some rest)
    else
      let (line, more) := cutLine rest
      (c :: line, more)

/-- What follows a separator is shorter than the text. -/
theorem length_lt_of_cutLine {s line rest : List Char} (h : cutLine s = (line, some rest)) :
    rest.length < s.length := by
  fun_induction cutLine s generalizing line with
  | case1 => simp at h
  | case2 r =>
    simp only [Prod.mk.injEq, Option.some.injEq] at h
    rw [← h.2]
    simp only [List.length_cons]
    omega
  | case3 c r _ _ =>
    simp only [Prod.mk.injEq, Option.some.injEq] at h
    rw [← h.2]
    simp only [List.length_cons]
    omega
  | case4 c r _ _ l more hrec ih =>
    simp only [Prod.mk.injEq] at h
    have := ih (hrec.trans (by rw [h.2]))
    simp only [List.length_cons]
    omega

/-- The lines of a text, without their separators. -/
def splitLines (s : List Char) : List (List Char) :=
  match _h : cutLine s with
  | ([], none) => []
  | (line, none) => [line]
  | (line, some rest) => line :: splitLines rest
termination_by s.length
decreasing_by exact length_lt_of_cutLine _h

/-- The lines of a text, without their separators. -/
def lines (s : String) : List String :=
  (splitLines s.toList).map String.ofList

/-- The characters with `\r\n` and `\r` written as `\n`. -/
def unifyNewlines : List Char → List Char
  | [] => []
  | '\r' :: '\n' :: rest => '\n' :: unifyNewlines rest
  | c :: rest => (if c == '\r' then '\n' else c) :: unifyNewlines rest

end FlopCensus.Text
