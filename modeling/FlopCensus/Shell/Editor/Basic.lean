import FlopCensus.Text.Regular.Reader

set_option autoImplicit false
set_option relaxedAutoImplicit false

/-!
# Scripts of edits

A script is a list of instructions that is carried out for each line of a text. An instruction is an
action with a selector, which says for what lines it is meant.

## Main definitions

* `FlopCensus.Shell.Editor.Selector`: what lines an instruction is meant for.
* `FlopCensus.Shell.Editor.Action`: what an instruction does.
* `FlopCensus.Shell.Editor.Script`: a script.
-/

namespace FlopCensus.Shell.Editor

open Text (Regular)

/-- An expression with the way in which it is compared; without an expression the one that was used
last is meant. -/
structure Pattern where
  expression : Option Regular := none
  manner : Text.Manner := {}

/-- A line, or the first of several. -/
inductive Address where
  | line (n : Nat)
  | last
  /-- Each line in some distance from the one before, from a line on. -/
  | step (first distance : Nat)
  | pattern (p : Pattern)
  /-- In front of the first line. -/
  | start

/-- The last of several lines. -/
inductive Limit where
  | line (n : Nat)
  | last
  | pattern (p : Pattern)
  /-- Some lines further. -/
  | further (n : Nat)
  /-- The next line whose number is a multiple. -/
  | multiple (n : Nat)

/-- What lines an instruction is meant for. -/
structure Selector where
  first : Option Address := none
  limit : Option Limit := none
  /-- The other lines are meant. -/
  negated : Bool := false

/-- A change of the case of letters. -/
inductive CaseChange where
  | upper
  | lower
  /-- From here on the case stays. -/
  | none
  | upperNext
  | lowerNext
deriving DecidableEq

/-- A part of a replacement. -/
inductive Piece where
  | text (s : List Char)
  /-- What a group stands for; the group `0` is the whole. -/
  | group (n : Nat)
  | case (c : CaseChange)

/-- A replacement of what an expression stands for. -/
structure Substitution where
  pattern : Pattern
  replacement : List Piece
  /-- All places from `nth` on are replaced. -/
  all : Bool := false
  /-- The first place that is replaced, counted from one. -/
  nth : Nat := 1
  prints : Bool := false
  /-- The file that the line is written to after a replacement. -/
  target : Option (List Char) := none

/-- When a jump is made. -/
inductive JumpKind where
  | always
  /-- There was a replacement. -/
  | afterReplacement
  /-- There was none. -/
  | withoutReplacement
deriving DecidableEq

/-- What an instruction does. -/
inductive Action where
  /-- Goes on behind the matching end unless the line is selected. -/
  | block
  | close
  | nothing
  | substitute (s : Substitution)
  | translate (pairs : List (Char × Char))
  | print
  | printFirst
  | delete
  | deleteFirst
  | quit (status : Nat)
  | quitSilently (status : Nat)
  | next
  | nextMore
  | hold
  | holdMore
  | get
  | getMore
  | exchange
  | insert (text : List Char)
  | append (text : List Char)
  | change (text : List Char)
  | number
  /-- Writes the line so that all characters can be seen. -/
  | spell (width : Option Nat)
  | label (name : String)
  | jump (kind : JumpKind) (name : String)
  | read (path : List Char)
  | readLine (path : List Char)
  | write (path : List Char)
  | writeFirst (path : List Char)
  | clear
  | fileName

/-- An action with a selector. -/
structure Instruction where
  selector : Selector
  action : Action

/-- A list of instructions. -/
abbrev Script := Array Instruction

/-- The files that a script writes. -/
def Script.targets (s : Script) : List (List Char) :=
  s.toList.filterMap fun i =>
    match i.action with
    | .write path | .writeFirst path => some path
    | .substitute s => s.target
    | _ => none

/-- The place of a label. -/
def Script.place? (s : Script) (name : String) : Option Nat :=
  s.findIdx? fun i =>
    match i.action with
    | .label l => l == name
    | _ => false

/-- The place behind the end of a block, `depth` blocks being open. -/
def Script.behindBlock (s : Script) : Nat → Nat → Nat → Nat
  | 0, place, _ => place
  | n + 1, place, depth =>
    match s[place]? with
    | none => place
    | some i =>
      match i.action with
      | .block => s.behindBlock n (place + 1) (depth + 1)
      | .close => if depth ≤ 1 then place + 1 else s.behindBlock n (place + 1) (depth - 1)
      | _ => s.behindBlock n (place + 1) depth

end FlopCensus.Shell.Editor
