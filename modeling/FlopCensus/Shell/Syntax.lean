set_option autoImplicit false
set_option relaxedAutoImplicit false

/-!
# Shell scripts

The tools that the program runs may be scripts of the shell; only for their sake there is a shell
here. A script is a list of commands; their words hold parts that are replaced when the command
runs.

## Main definitions

* `FlopCensus.Shell.Piece`, `FlopCensus.Shell.Word`: words.
* `FlopCensus.Shell.Redirect`: where the streams of a command go.
* `FlopCensus.Shell.Command`: commands.
-/

namespace FlopCensus.Shell

/-- What becomes of the value of a parameter. With `filled`, an empty value counts as none. -/
inductive Modifier where
  /-- The value itself. -/
  | plain
  /-- The number of its characters. -/
  | length
  /-- A word instead of a missing value. -/
  | orElse (filled : Bool)
  /-- A word instead of a missing value, which it becomes. -/
  | assign (filled : Bool)
  /-- A word instead of a value. -/
  | whenSet (filled : Bool)
  /-- An error for a missing value. -/
  | orFail (filled : Bool)
  /-- The value without the part in front that fits a pattern. -/
  | dropFront (longest : Bool)
  /-- The value without the part at the end that fits a pattern. -/
  | dropBack (longest : Bool)
  /-- None of these. -/
  | unknown
deriving Repr, DecidableEq

/-- A part of a word. -/
inductive Piece where
  /-- Some characters. -/
  | text (s : List Char) (quoted : Bool)
  /-- The value of a parameter. -/
  | parameter (name : String) (m : Modifier) (word : List Piece) (quoted : Bool)
  /-- The output of a script. -/
  | substitution (script : List Char) (quoted : Bool)
  /-- The value of an expression. -/
  | arithmetic (expression : List Piece) (quoted : Bool)
deriving Repr, Inhabited

/-- A word. -/
abbrev Word := List Piece

/-- How a file is opened for a stream. -/
inductive Mode where
  | read
  | write
  | append
deriving Repr, DecidableEq

/-- Where a stream goes. -/
inductive Redirect where
  /-- To or from a file. -/
  | file (stream : Nat) (mode : Mode) (path : Word)
  /-- Where another stream goes. -/
  | duplicate (stream : Nat) (other : Word)
  /-- From a text in the script. -/
  | text (stream : Nat) (body : Word)
deriving Repr, Inhabited

/-- A command. -/
inductive Command where
  /-- A program, a function or a command of the shell itself. -/
  | simple (line : Nat) (assignments : List (String × Word)) (words : List Word)
      (redirects : List Redirect)
  /-- A command with its streams redirected. -/
  | redirected (c : Command) (redirects : List Redirect)
  /-- Commands of which each reads what the one before it writes. -/
  | pipeline (negated : Bool) (parts : List Command)
  /-- The second command runs if the first one succeeds. -/
  | both (a b : Command)
  /-- The second command runs if the first one fails. -/
  | either (a b : Command)
  /-- A command that is not waited for. -/
  | background (c : Command)
  /-- Commands one after the other. -/
  | sequence (cs : List Command)
  /-- A command in a shell of its own. -/
  | subshell (c : Command)
  /-- One of two commands. -/
  | branch (condition yes no : Command)
  /-- A command again and again while a condition succeeds, or until it does. -/
  | loop (whileTrue : Bool) (condition body : Command)
  /-- A command for each of some words. -/
  | each (name : String) (words : Option (List Word)) (body : Command)
  /-- The command of the first pattern that fits a word. -/
  | choose (subject : Word) (arms : List (List Word × Command))
  /-- A function. -/
  | define (name : String) (body : Command)
deriving Repr, Inhabited

/-- Why a script cannot be read. -/
inductive SyntaxError where
  /-- A quote is not closed. -/
  | openQuote
  /-- A brace is not closed. -/
  | openBrace
  /-- A backquote is not closed. -/
  | openBackquote
  /-- An expression is not closed. -/
  | openExpression
  /-- Something stands in the wrong place, perhaps where another thing has to stand; `left` line
  ends follow it. -/
  | unexpected (what : String) (expected : Option String) (left : Nat)
  /-- The variable of a loop has no name. -/
  | badVariable (left : Nat)
deriving Repr, DecidableEq

/-- The wording of an error. -/
def SyntaxError.message (e : SyntaxError) : String :=
  "Syntax error: " ++ match e with
    | .openQuote => "Unterminated quoted string"
    | .openBrace => "Missing '\x7d'"
    | .openBackquote => "EOF in backquote substitution"
    | .openExpression => "Missing '))'"
    | .unexpected what none _ => what ++ " unexpected"
    | .unexpected what (some other) _ => what ++ " unexpected (expecting \"" ++ other ++ "\")"
    | .badVariable _ => "Bad for loop variable"

/-- The number of line ends behind the place where the error was found. -/
def SyntaxError.left : SyntaxError → Nat
  | .unexpected _ _ left | .badVariable left => left
  | _ => 0

end FlopCensus.Shell
