import FlopCensus.Shell.Syntax

set_option autoImplicit false
set_option relaxedAutoImplicit false

/-!
# Reading shell scripts

A script is read a line at a time, for the lines before an error are carried out.

## Main definitions

* `FlopCensus.Shell.readPieces`: the parts of a word.
* `FlopCensus.Shell.readLine`: the commands of the next line.
-/

namespace FlopCensus.Shell

/-- A step of reading a script. -/
abbrev Parse := Except SyntaxError

/-- A character of names. -/
def isNameChar (c : Char) : Bool :=
  c.isAlphanum || c == '_'

/-- A name: letters, digits and underscores, no digit being first. -/
def isName (s : List Char) : Bool :=
  !s.isEmpty && s.all isNameChar && !s.head?.any (·.isDigit)

/-- A character that ends a word. -/
def isMeta (c : Char) : Bool :=
  " \t\n;&|<>()".toList.contains c

/-- The text up to the parenthesis that closes `depth` open ones, and what follows it. -/
def closeParen : Nat → Nat → List Char → Option (List Char × List Char)
  | 0, _, _ => none
  | _, _, [] => none
  | n + 1, depth, c :: rest =>
    let take := fun (run : List Char) (rest : List Char) (depth : Nat) =>
      (closeParen n depth rest).map fun (inner, after) => (run ++ inner, after)
    match c, rest with
    | ')', rest => if depth == 0 then some ([], rest) else take [')'] rest (depth - 1)
    | '(', rest => take ['('] rest (depth + 1)
    | '\\', d :: rest => take ['\\', d] rest depth
    | '\'', rest =>
      let run := rest.takeWhile (· != '\'')
      take ('\'' :: run ++ ['\'']) (rest.drop (run.length + 1)) depth
    | c, rest => take [c] rest depth

/-- The text up to the next backquote, in which a backslash protects itself, a dollar, a backquote
and, between double quotes, those. -/
def closeBackquote (quoted : Bool) : List Char → Option (List Char × List Char)
  | [] => none
  | '`' :: rest => some ([], rest)
  | '\\' :: c :: rest =>
    let isProtected := c == '\\' || c == '$' || c == '`' || (quoted && c == '"')
    (closeBackquote quoted rest).map fun (inner, after) =>
      ((if isProtected then [c] else ['\\', c]) ++ inner, after)
  | c :: rest => (closeBackquote quoted rest).map fun (inner, after) => (c :: inner, after)

/-- Where a word ends. -/
inductive Ending where
  /-- At a blank or an operator. -/
  | atMeta
  /-- At a double quote. -/
  | atQuote
  /-- At a closing brace. -/
  | atBrace (quoted : Bool)
  /-- At the end of the text; quotes have no meaning. -/
  | atEnd
deriving DecidableEq

/-- The text stands between double quotes. -/
def Ending.isQuoted : Ending → Bool
  | .atMeta => false
  | .atQuote | .atEnd => true
  | .atBrace quoted => quoted

/-- The name of a parameter, and what follows it. -/
def parameterName? (s : List Char) : Option (String × List Char) :=
  match s with
  | [] => none
  | c :: rest =>
    if "@*#?-$!".toList.contains c || c.isDigit then some (c.toString, rest)
    else if c.isAlpha || c == '_' then
      let run := s.takeWhile isNameChar
      some (String.ofList run, s.drop run.length)
    else none

/-- What follows the name of a parameter in braces, up to its word. -/
def modifier? (s : List Char) : Option (Modifier × List Char) :=
  match s with
  | '}' :: _ => some (.plain, s)
  | ':' :: '-' :: rest => some (.orElse true, rest)
  | '-' :: rest => some (.orElse false, rest)
  | ':' :: '=' :: rest => some (.assign true, rest)
  | '=' :: rest => some (.assign false, rest)
  | ':' :: '+' :: rest => some (.whenSet true, rest)
  | '+' :: rest => some (.whenSet false, rest)
  | ':' :: '?' :: rest => some (.orFail true, rest)
  | '?' :: rest => some (.orFail false, rest)
  | '#' :: '#' :: rest => some (.dropFront true, rest)
  | '#' :: rest => some (.dropFront false, rest)
  | '%' :: '%' :: rest => some (.dropBack true, rest)
  | '%' :: rest => some (.dropBack false, rest)
  | _ => none

mutual

/-- The parts of a word, and what follows it. A closing quote or brace is passed. -/
def readPieces (ending : Ending) : Nat → List Char → Parse (List Piece × List Char)
  | 0, _ => throw .openQuote
  | n + 1, s => do
    let quoted := ending.isQuoted
    let go := fun (p : Piece) (rest : List Char) => do
      let (ps, rest) ← readPieces ending n rest
      return (p :: ps, rest)
    match s with
    | [] =>
      if ending == .atMeta || ending == .atEnd then return ([], [])
      else throw (if ending == .atBrace false then .openBrace else .openQuote)
    | c :: rest =>
      if ending == .atMeta && isMeta c then return ([], s)
      else if ending == .atQuote && c == '"' then return ([], rest)
      else if (ending == .atBrace true || ending == .atBrace false) && c == '}' then
        return ([], rest)
      else if c == '\\' then
        match rest with
        | '\n' :: rest => readPieces ending n rest
        | d :: rest =>
          if quoted && !("$`\"\\".toList.contains d) then go (.text ['\\', d] true) rest
          else go (.text [d] true) rest
        | [] => go (.text ['\\'] true) []
      else if c == '\'' && !quoted then
        let run := rest.takeWhile (· != '\'')
        if run.length == rest.length then throw .openQuote
        go (.text run true) (rest.drop (run.length + 1))
      else if c == '"' && ending != .atEnd then
        let (inner, rest) ← readPieces .atQuote n rest
        let (ps, rest) ← readPieces ending n rest
        return (.text [] true :: inner ++ ps, rest)
      else if c == '`' then
        match closeBackquote quoted rest with
        | none => throw .openBackquote
        | some (script, rest) => go (.substitution script quoted) rest
      else if c == '$' then
        let (p, rest) ← readDollar quoted n rest
        go p rest
      else go (.text [c] quoted) rest

/-- What a dollar introduces, from behind it on. -/
def readDollar (quoted : Bool) : Nat → List Char → Parse (Piece × List Char)
  | 0, _ => throw .openQuote
  | n + 1, s => do
    match s with
    | '(' :: '(' :: rest =>
      match closeParen (rest.length + 1) 0 rest with
      | some (inner, ')' :: rest) =>
        let (expression, _) ← readPieces .atEnd n inner
        return (.arithmetic expression quoted, rest)
      | _ =>
        match closeParen (rest.length + 2) 0 ('(' :: rest) with
        | some (script, rest) => return (.substitution script quoted, rest)
        | none => throw .openExpression
    | '(' :: rest =>
      match closeParen (rest.length + 1) 0 rest with
      | some (script, rest) => return (.substitution script quoted, rest)
      | none => throw (.unexpected "end of file" (some ")") 0)
    | '{' :: '#' :: rest =>
      match parameterName? rest with
      | some (name, '}' :: rest) => return (.parameter name .length [] quoted, rest)
      | _ => readBraces quoted n ('#' :: rest)
    | '{' :: rest => readBraces quoted n rest
    | _ =>
      match parameterName? s with
      | some (name, rest) => return (.parameter name .plain [] quoted, rest)
      | none => return (.text ['$'] quoted, s)

/-- A parameter in braces, from behind the opening one on. -/
def readBraces (quoted : Bool) : Nat → List Char → Parse (Piece × List Char)
  | 0, _ => throw .openQuote
  | n + 1, s => do
    let digits := s.takeWhile (·.isDigit)
    let found :=
      if digits.isEmpty then parameterName? s
      else some (String.ofList digits, s.drop digits.length)
    let (name, rest) := found.getD ("", s)
    let (m, rest) := (found.bind fun _ => modifier? rest).getD (.unknown, rest)
    let (word, rest) ← readPieces (.atBrace quoted) n rest
    return (.parameter name m word quoted, rest)

end

/-- What follows blanks, joined lines and a comment. -/
def skipBlanks : List Char → List Char
  | ' ' :: rest => skipBlanks rest
  | '\t' :: rest => skipBlanks rest
  | '\\' :: '\n' :: rest => skipBlanks rest
  | '#' :: rest => rest.dropWhile (· != '\n')
  | s => s

/-- What follows blanks, comments and empty lines. -/
def skipLines : Nat → List Char → List Char
  | 0, s => s
  | n + 1, s =>
    match skipBlanks s with
    | '\n' :: rest => skipLines n rest
    | s => s

/-- The word at this place, should there be one. -/
def readWord (s : List Char) : Parse (Option Word × List Char) := do
  match s with
  | [] => return (none, s)
  | c :: _ =>
    if isMeta c then return (none, s)
    else
      let (w, rest) ← readPieces .atMeta (s.length + 1) s
      return (some w, rest)

/-- The characters of a word that has neither quotes nor parameters. -/
def bareText? (w : Word) : Option (List Char) :=
  (w.mapM fun
    | Piece.text s false => some s
    | _ => none).map List.flatten

/-- The characters of a word without its quotes. -/
def textOf (w : Word) : List Char :=
  w.flatMap fun
    | Piece.text s _ => s
    | _ => []

/-- The bare word at this place. -/
def peekWord (s : List Char) : String :=
  String.ofList ((skipBlanks s).takeWhile fun c => !isMeta c)

/-- The words with a meaning of their own. -/
def keywords : List String :=
  ["!", "\x7b", "\x7d", "case", "do", "done", "elif", "else", "esac", "fi", "for", "if", "in",
    "then", "until", "while"]

/-- What stands at this place, for a message. -/
def shownAt (s : List Char) : String :=
  let quoted := fun (what : String) => "\"" ++ what ++ "\""
  match skipBlanks s with
  | [] => "end of file"
  | '\n' :: _ => "newline"
  | '<' :: _ | '>' :: _ => "redirection"
  | '&' :: '&' :: _ => quoted "&&"
  | '|' :: '|' :: _ => quoted "||"
  | ';' :: ';' :: _ => quoted ";;"
  | c :: _ =>
    if isMeta c then quoted c.toString
    else if keywords.contains (peekWord s) then quoted (peekWord s)
    else "word"

/-- The number of line ends in a text. -/
def lineEnds (s : List Char) : Nat :=
  s.count '\n'

/-- Something stands in the wrong place. -/
def misplaced {α : Type} (s : List Char) (expected : Option String) : Parse α :=
  throw (.unexpected (shownAt s) expected (lineEnds s))

/-- Passes a word that must stand at this place. -/
def expectWord (word : String) (s : List Char) : Parse (List Char) :=
  if peekWord s == word then return (skipBlanks s).drop word.length
  else misplaced s (some word)

/-- A line of a text, and what follows it. -/
def cutLine (s : List Char) : List Char × List Char :=
  let line := s.takeWhile (· != '\n')
  (line, s.drop (line.length + 1))

/-- The lines up to one that is the mark, and what follows it. -/
def readBody (mark : List Char) (dropTabs : Bool) : Nat → List Char → List Char × List Char
  | 0, s => ([], s)
  | n + 1, s =>
    if s.isEmpty then ([], [])
    else
      let (line, rest) := cutLine s
      let line := if dropTabs then line.dropWhile (· == '\t') else line
      if line == mark then ([], rest)
      else
        let (more, rest) := readBody mark dropTabs n rest
        (line ++ (if s.contains '\n' then ['\n'] else []) ++ more, rest)

/-- A text in the script, from behind its operator on. -/
def readText (stream : Nat) (dropTabs : Bool) (s : List Char) : Parse (Redirect × List Char) := do
  match ← readWord (skipBlanks s) with
  | (none, s) => misplaced s none
  | (some w, s) =>
    let (line, below) := cutLine s
    let (body, rest) := readBody (textOf w) dropTabs (below.length + 1) below
    let body ←
      if (bareText? w).isNone then pure [.text body true]
      else do
        let (ps, _) ← readPieces .atEnd (body.length + 1) body
        pure ps
    return (.text stream body, line ++ '\n' :: rest)

/-- The redirection at this place, should there be one. -/
def redirect? (s : List Char) : Parse (Option (Redirect × List Char)) := do
  let (stream, op) := match s with
    | d :: c :: rest =>
      if d.isDigit && (c == '<' || c == '>') then (some (d.toNat - 48), c :: rest) else (none, s)
    | _ => (none, s)
  let file := fun (usual : Nat) (mode : Mode) (rest : List Char) => do
    match ← readWord (skipBlanks rest) with
    | (some w, rest) => return some (.file (stream.getD usual) mode w, rest)
    | (none, rest) => misplaced rest none
  let copy := fun (usual : Nat) (rest : List Char) => do
    match ← readWord (skipBlanks rest) with
    | (some w, rest) => return some (Redirect.duplicate (stream.getD usual) w, rest)
    | (none, rest) => misplaced rest none
  match op with
  | '<' :: '<' :: '-' :: rest => return some (← readText (stream.getD 0) true rest)
  | '<' :: '<' :: rest => return some (← readText (stream.getD 0) false rest)
  | '>' :: '>' :: rest => file 1 .append rest
  | '>' :: '&' :: rest => copy 1 rest
  | '<' :: '&' :: rest => copy 0 rest
  | '>' :: '|' :: rest => file 1 .write rest
  | '>' :: rest => file 1 .write rest
  | '<' :: rest => file 0 .read rest
  | _ => return none

/-- The redirections at this place. -/
def redirects : Nat → List Char → Parse (List Redirect × List Char)
  | 0, s => return ([], s)
  | n + 1, s => do
    match ← redirect? (skipBlanks s) with
    | none => return ([], s)
    | some (r, s) =>
      let (rs, s) ← redirects n s
      return (r :: rs, s)

/-- An assignment: a name, and the word behind it. -/
def assignment? (w : Word) : Option (String × Word) :=
  let lead := (w.takeWhile fun | Piece.text _ false => true | _ => false).flatMap fun
    | Piece.text s _ => s
    | _ => []
  let name := lead.takeWhile (· != '=')
  if name.length < lead.length && isName name then
    let size := name.length + 1
    let rest := (w.foldl (fun (skip, kept) p =>
      match p, skip with
      | .text s false, skip + 1 =>
        if s.length ≤ skip + 1 then (skip + 1 - s.length, kept)
        else (0, kept ++ [Piece.text (s.drop (skip + 1)) false])
      | p, skip => (skip, kept ++ [p])) (size, [])).2
    some (String.ofList name, rest)
  else none

/-- The rest of a simple command. -/
structure Parts where
  assignments : List (String × Word) := []
  words : List Word := []
  redirects : List Redirect := []

/-- The parts of a simple command. -/
def simpleParts (done : Parts) : Nat → List Char → Parse (Parts × List Char)
  | 0, s => return (done, s)
  | n + 1, s => do
    let s := skipBlanks s
    match ← redirect? s with
    | some (r, s) => simpleParts { done with redirects := done.redirects ++ [r] } n s
    | none =>
      match ← readWord s with
      | (none, s) => return (done, s)
      | (some w, s) =>
        match done.words, assignment? w with
        | [], some a => simpleParts { done with assignments := done.assignments ++ [a] } n s
        | _, _ => simpleParts { done with words := done.words ++ [w] } n s

/-- The words that end a list of commands. -/
def closers : List String :=
  ["then", "else", "elif", "fi", "do", "done", "esac", "\x7d"]

/-- The patterns of an arm, up to the closing parenthesis. -/
def patterns : Nat → List Char → Parse (List Word × List Char)
  | 0, s => misplaced s none
  | n + 1, s => do
    match ← readWord (skipBlanks s) with
    | (none, s) => misplaced s none
    | (some w, s) =>
      match skipBlanks s with
      | '|' :: s =>
        let (ws, s) ← patterns n s
        return (w :: ws, s)
      | ')' :: s => return ([w], s)
      | s => misplaced s none

/-- The words up to the end of a line. -/
def lineWords : Nat → List Char → Parse (List Word × List Char)
  | 0, s => return ([], s)
  | n + 1, s => do
    match ← readWord (skipBlanks s) with
    | (none, s) => return ([], s)
    | (some w, s) =>
      let (ws, s) ← lineWords n s
      return (w :: ws, s)

/-- What follows a separator of commands. -/
def skipSeparator (s : List Char) : List Char :=
  match skipBlanks s with
  | ';' :: rest => rest
  | s => s

/-- The command in front of this place is not waited for. -/
def isBackground (s : List Char) : Bool :=
  (skipBlanks s).head? == some '&'

mutual

/-- Commands up to a word that closes them, a parenthesis or the end. -/
def readList (lines : Nat) : Nat → List Char → Parse (Command × List Char)
  | 0, s => misplaced s none
  | n + 1, s => do
    let s := skipLines s.length s
    if s.isEmpty || s.head? == some ')' || closers.contains (peekWord s) ||
        s.take 2 == [';', ';'] then
      return (.sequence [], s)
    else
      let (c, s) ← readChain lines n s
      let (c, rest, s) ← match skipBlanks s with
        | ';' :: ';' :: _ => pure (c, .sequence [], skipBlanks s)
        | '&' :: s => do
          let (rest, s) ← readList lines n s
          pure (.background c, rest, s)
        | ';' :: s | '\n' :: s => do
          let (rest, s) ← readList lines n s
          pure (c, rest, s)
        | s => pure (c, .sequence [], s)
      return (match rest with
        | .sequence cs => .sequence (c :: cs)
        | other => .sequence [c, other], s)

/-- Pipelines joined by `&&` and `||`. -/
def readChain (lines : Nat) : Nat → List Char → Parse (Command × List Char)
  | 0, s => misplaced s none
  | n + 1, s => do
    let (first, s) ← readPipeline lines n s
    readLinks lines first n s

/-- The pipelines that `&&` and `||` join to a first one. -/
def readLinks (lines : Nat) (first : Command) : Nat → List Char → Parse (Command × List Char)
  | 0, s => misplaced s none
  | n + 1, s => do
    match skipBlanks s with
    | '&' :: '&' :: s =>
      let (next, s) ← readPipeline lines n (skipLines s.length s)
      readLinks lines (.both first next) n s
    | '|' :: '|' :: s =>
      let (next, s) ← readPipeline lines n (skipLines s.length s)
      readLinks lines (.either first next) n s
    | s => return (first, s)

/-- Commands joined by `|`. -/
def readPipeline (lines : Nat) : Nat → List Char → Parse (Command × List Char)
  | 0, s => misplaced s none
  | n + 1, s => do
    if peekWord s == "!" then
      let (c, s) ← readPipeline lines n ((skipBlanks s).drop 1)
      return (match c with
        | .pipeline negated parts => .pipeline (!negated) parts
        | c => .pipeline true [c], s)
    else
      let (first, s) ← readCommand lines n s
      match skipBlanks s with
      | '|' :: '|' :: _ => return (first, s)
      | '|' :: s =>
        let (rest, s) ← readPipeline lines n (skipLines s.length s)
        return (match rest with
          | .pipeline false parts => .pipeline false (first :: parts)
          | c => .pipeline false [first, c], s)
      | s => return (first, s)

/-- One command with its redirections. -/
def readCommand (lines : Nat) : Nat → List Char → Parse (Command × List Char)
  | 0, s => misplaced s none
  | n + 1, s => do
    let s := skipBlanks s
    let compound := fun (c : Command) (s : List Char) => do
      let (rs, s) ← redirects s.length s
      return (if rs.isEmpty then c else .redirected c rs, s)
    let word := peekWord s
    let behind := s.drop word.length
    match s with
    | '(' :: s =>
      let (c, s) ← readList lines n s
      match skipBlanks s with
      | ')' :: s => compound (.subshell c) s
      | s => misplaced s (some ")")
    | _ =>
      if word == "\x7b" then
        let (c, s) ← readList lines n behind
        compound c (← expectWord "\x7d" s)
      else if word == "if" then
        let (c, s) ← readBranch lines n behind
        compound c s
      else if word == "while" || word == "until" then
        let (condition, s) ← readList lines n behind
        let (body, s) ← readLoopBody lines n s
        compound (.loop (word == "while") condition body) s
      -- the name stands on the same line, and `in` may stand on a later one
      else if word == "for" then
        let name := peekWord behind
        if !isName name.toList then throw (.badVariable (lineEnds behind))
        let s := (skipBlanks behind).drop name.length
        let inside := skipLines s.length s
        let (words, s) ←
          if peekWord inside == "in" then do
            let (ws, s) ← lineWords s.length ((skipBlanks inside).drop 2)
            pure (some ws, s)
          else pure (none, s)
        let (body, s) ← readLoopBody lines n (skipSeparator s)
        compound (.each name words body) s
      else if word == "case" then
        match ← readWord (skipBlanks behind) with
        | (none, s) => misplaced s none
        | (some subject, s) =>
          let s ← expectWord "in" (skipLines s.length s)
          let (arms, s) ← readArms lines n s
          compound (.choose subject arms) s
      else if closers.contains word then misplaced s none
      else
        match isName word.toList, skipBlanks behind with
        | true, '(' :: rest =>
          match skipBlanks rest with
          | ')' :: s =>
            let (body, s) ← readCommand lines n (skipLines s.length s)
            return (.define word body, s)
          | s => misplaced s (some ")")
        | _, _ =>
          let line := 1 + (lines - lineEnds s)
          let (p, rest) ← simpleParts {} (s.length + 1) s
          if p.assignments.isEmpty && p.words.isEmpty && p.redirects.isEmpty then
            misplaced s none
          return (.simple line p.assignments p.words p.redirects, rest)

/-- The body of a loop. -/
def readLoopBody (lines : Nat) : Nat → List Char → Parse (Command × List Char)
  | 0, s => misplaced s none
  | n + 1, s => do
    let s ← expectWord "do" (skipLines s.length s)
    let (body, s) ← readList lines n s
    return (body, ← expectWord "done" s)

/-- The condition and the branches behind `if` or `elif`, up to `fi`. -/
def readBranch (lines : Nat) : Nat → List Char → Parse (Command × List Char)
  | 0, s => misplaced s none
  | n + 1, s => do
    let (condition, s) ← readList lines n s
    let (yes, s) ← readList lines n (← expectWord "then" s)
    let word := peekWord s
    let behind := (skipBlanks s).drop word.length
    if word == "elif" then
      let (no, s) ← readBranch lines n behind
      return (.branch condition yes no, s)
    else if word == "else" then
      let (no, s) ← readList lines n behind
      return (.branch condition yes no, ← expectWord "fi" s)
    else return (.branch condition yes (.sequence []), ← expectWord "fi" s)

/-- The arms of a choice, up to `esac`. -/
def readArms (lines : Nat) : Nat → List Char → Parse (List (List Word × Command) × List Char)
  | 0, s => misplaced s none
  | n + 1, s => do
    let s := skipLines s.length s
    if peekWord s == "esac" then return ([], s.drop 4)
    else
      let (ps, s) ← patterns n (if s.head? == some '(' then s.drop 1 else s)
      let (body, s) ← readList lines n s
      match skipLines s.length s with
      | ';' :: ';' :: s =>
        let (arms, s) ← readArms lines n s
        return ((ps, body) :: arms, s)
      | s =>
        if peekWord s == "esac" then return ([(ps, body)], s.drop 4)
        else misplaced s (some ";;")

end

/-- The commands up to the end of the line in which the last of them ends. -/
def readLine (lines : Nat) : Nat → List Char → Parse (List Command × List Char)
  | 0, s => return ([], s)
  | n + 1, s => do
    let (c, s) ← readChain lines (2 * s.length + 8) s
    let c := if isBackground s then .background c else c
    match skipBlanks s with
    | [] => return ([c], [])
    | '\n' :: s => return ([c], s)
    | ';' :: ';' :: s => misplaced (';' :: ';' :: s) none
    | ';' :: s | '&' :: s =>
      match skipBlanks s with
      | [] => return ([c], [])
      | '\n' :: s => return ([c], s)
      | s =>
        let (cs, s) ← readLine lines n s
        return (c :: cs, s)
    | s => misplaced s none

end FlopCensus.Shell
