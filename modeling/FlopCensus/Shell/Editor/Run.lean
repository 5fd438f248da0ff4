import FlopCensus.Shell.Editor.Basic
import FlopCensus.Shell.Program.Excerpt

set_option autoImplicit false
set_option relaxedAutoImplicit false

/-!
# Carrying scripts of edits out

For each line the script is carried out from its start. The line is held in one place, in which it
is changed, and there is another place that keeps text from line to line.

## Main definitions

* `FlopCensus.Shell.Editor.State`: the state between two steps.
* `FlopCensus.Shell.Editor.substituted`: a line with replacements.
* `FlopCensus.Shell.Editor.cycle`: the script for one line.
* `FlopCensus.Shell.Editor.edit`: the script for all lines.
-/

namespace FlopCensus.Shell.Editor

open Text (Regular)

/-- A line of the input. -/
structure Line where
  text : List Char
  /-- A line end follows. -/
  ended : Bool := true
  /-- The file that the line is from. -/
  file : List Char := ['-']

/-- What is written behind a line. -/
inductive Queued where
  | text (s : List Char)
  | file (path : List Char)

/-- How far the lines of an instruction have come. -/
inductive Reach where
  | outside
  | upToLine (n : Nat)
  | upTo (l : Limit)
  /-- The lines will not come again. -/
  | over

/-- Where the last text that was written has no line end. -/
structure Unended where
  output : Bool := false
  /-- Files that are written. -/
  targets : List (List Char) := []

/-- The settings of a run. -/
structure Settings where
  quiet : Bool := false
  /-- The character between lines. -/
  separator : Char := '\n'
  /-- The width of a line that is written so that all characters can be seen. -/
  width : Nat := 70

/-- The state between two steps. -/
structure State where
  settings : Settings
  script : Script
  /-- The lines that have not been read. -/
  left : List Line
  /-- The line that is edited. -/
  space : List Char := []
  /-- A line end belongs to the line. -/
  ended : Bool := true
  /-- The text that is kept. -/
  kept : List Char := []
  /-- A line end belongs to the text that is kept. -/
  keptEnded : Bool := true
  file : List Char := ['-']
  number : Nat := 0
  replaced : Bool := false
  queue : List Queued := []
  reaches : Array Reach
  /-- The pattern that was used last. -/
  last : Option Pattern := none
  unended : Unended
  /-- What has been written, if it is not to be written at once. -/
  gathered : Option (List (List Char)) := none
  /-- The lines of the files that are read line by line. -/
  readers : List (List Char × List (List Char)) := []

/-- Why a run ends early. -/
inductive Halt where
  | status (n : Nat)
  /-- A pattern was asked for before any was used. -/
  | noPattern

/-- A step of a run. -/
abbrev Step := ExceptT Halt (StateT State Run)

/-! ### Output -/

/-- Writes bytes. -/
def put (s : List Char) : Step Unit := do
  match (← get).gathered with
  | some parts => modify fun st => { st with gathered := some (s :: parts) }
  | none => write 1 s

/-- Ends the last line that was written if it is not ended. -/
def endLine : Step Unit := do
  let st ← get
  if st.unended.output then
    put [st.settings.separator]
    modify fun st => { st with unended := { st.unended with output := false } }

/-- Writes text, and a line end unless it has none. -/
def emit (s : List Char) (ended : Bool := true) : Step Unit := do
  endLine
  let separator := (← get).settings.separator
  put (Text.spelling s ++ if ended then [separator] else [])
  modify fun st => { st with unended := { st.unended with output := !ended } }

/-- Writes the line that is edited. -/
def emitSpace : Step Unit := do
  let st ← get
  emit st.space st.ended

/-- Writes text that has a line end. -/
def emitText (s : List Char) : Step Unit := do
  if !s.isEmpty then emit s.dropLast

/-- Writes text into a file, and a line end unless it has none. -/
def putInto (path : List Char) (s : List Char) (ended : Bool := true) : Step Unit := do
  let st ← get
  let separator := [st.settings.separator]
  let front := if st.unended.targets.contains path then separator else []
  let text := front ++ Text.spelling s ++ if ended then separator else []
  let _ ← (Program.store true path text : Run _)
  let others := st.unended.targets.filter (· != path)
  set { st with unended :=
    { st.unended with targets := if ended then others else path :: others } }

/-- Writes what is to stand behind the line. -/
def flush : Step Unit := do
  let queue := (← get).queue
  modify fun st => { st with queue := [] }
  if !queue.isEmpty then endLine
  for q in queue do
    match q with
    | .text s => put (Text.spelling s)
    | .file path =>
      if let .ok s := ← (Program.contentOf path : Run _) then put s

/-- The parts of a line so that all characters can be seen. -/
def spelled (s : List Char) : List (List Char) :=
  let octal := fun (c : Char) =>
    '\\' :: ((Nat.toDigits 8 (c.toNat + 512)).drop 1)
  (Text.spelling s).map fun c =>
    match c with
    | '\\' => ['\\', '\\']
    | '\x07' => ['\\', 'a']
    | '\x08' => ['\\', 'b']
    | '\x0c' => ['\\', 'f']
    | '\r' => ['\\', 'r']
    | '\t' => ['\\', 't']
    | '\x0b' => ['\\', 'v']
    | '\n' => ['\\', 'n']
    | c => if ' ' ≤ c && c ≤ '~' then [c] else octal c

/-- Parts in lines of some width, which a backslash ends. -/
def wrapped (separator : Char) (width : Nat) (parts : List (List Char)) : List Char :=
  let (text, _) := parts.foldl (fun (text, column) p =>
    if width > 0 && column + p.length > width - 1 then
      (p.reverse ++ separator :: '\\' :: text, p.length)
    else (p.reverse ++ text, column + p.length)) (([] : List Char), 0)
  ('$' :: text).reverse

/-! ### Lines -/

/-- There is no further line. -/
def atLast : Step Bool :=
  return (← get).left.isEmpty

/-- Takes the next line over. -/
def readNext (more : Bool) : Step Unit := do
  flush
  modify fun st =>
    match st.left with
    | [] => st
    | l :: left =>
      { st with
        left
        space := if more then st.space ++ st.settings.separator :: l.text else l.text
        ended := l.ended
        file := l.file
        number := st.number + 1
        replaced := false }

/-- The expression of a pattern, which is the last one from now on. Lines within the text are told
apart only if a line end is what separates lines. -/
def resolve (p : Pattern) : Step (Text.Manner × Regular) := do
  let st ← get
  let fitting := fun (m : Text.Manner) =>
    { m with byLine := m.byLine && st.settings.separator == '\n' }
  match p.expression with
  | some r =>
    set { st with last := some p }
    return (fitting p.manner, r)
  | none =>
    match st.last with
    | some { expression := some r, manner } => return (fitting manner, r)
    | _ => throw .noPattern

/-- The line is at an address. -/
def isAt (a : Address) : Step Bool := do
  let st ← get
  match a with
  | .line n => return st.number == n
  | .last => atLast
  | .step first distance =>
    return if distance == 0 then st.number == first
      else st.number ≥ first && (st.number - first) % distance == 0
  | .pattern p =>
    let (m, r) ← resolve p
    return r.occursIn m st.space
  | .start => return false

/-- The number of the last line of some lines that begin at a number, if it is known. -/
def Limit.number? (l : Limit) (number : Nat) : Option Nat :=
  match l with
  | .line n => some n
  | .further n => some (number + n)
  | .multiple n => some (if n == 0 then number else (number / n + 1) * n)
  | _ => none

/-- Sets how far an instruction goes. -/
def setReach (place : Nat) (r : Reach) : Step Unit :=
  modify fun st => { st with reaches := st.reaches.set! place r }

/-- The line is one of those from an address to a limit. Lines that begin at a number come once, and
they begin late if the number has been passed. -/
def isWithin (place : Nat) (a : Address) (l : Limit) : Step Bool := do
  let st ← get
  let (after, begins, isFirst) := match a with
    | .line n => (Reach.over, pure (n ≤ st.number : Bool), st.number == n)
    | a => (.outside, isAt a, true)
  match (st.reaches[place]?).getD .outside with
  | .over => return false
  | .outside =>
    if !(← begins) then return false
    else
      match l.number? st.number with
      | none =>
        setReach place (.upTo l)
        return true
      | some n =>
        setReach place (if n > st.number then .upToLine n else after)
        return isFirst || n ≥ st.number
  | .upToLine n =>
    if st.number ≥ n then setReach place after
    return st.number ≤ n
  | .upTo l =>
    let ends ← match l with
      | .pattern p => isAt (.pattern p)
      | _ => atLast
    if ends then setReach place after
    return true

/-- The line is one that the instruction at a place is meant for. -/
def isSelected (place : Nat) (s : Selector) : Step Bool := do
  let chosen ← match s.first, s.limit with
    | none, _ => pure true
    | some a, none => isAt a
    | some a, some l => isWithin place a l
  return chosen != s.negated

/-! ### Replacements -/

/-- Text with the case of its letters changed. -/
structure Cased where
  /-- The text, the last character first. -/
  text : List Char := []
  mode : CaseChange := .none
  /-- The change of the next character alone. -/
  once : CaseChange := .none

/-- A character in another case. -/
def changed (c : CaseChange) (d : Char) : List Char :=
  match c with
  | .upper | .upperNext => (Text.upper d.toString).toList
  | .lower | .lowerNext => (Text.lower d.toString).toList
  | .none => [d]

/-- One more piece of a replacement. -/
def Cased.add (groups : Nat → List Char) (t : Cased) (p : Piece) : Cased :=
  let put := fun (s : List Char) =>
    match s with
    | [] => t
    | c :: cs =>
      let first := changed (if t.once != .none then t.once else t.mode) c
      { t with
        text := (cs.flatMap (changed t.mode)).reverse ++ first.reverse ++ t.text
        once := .none }
  match p with
  | .text s => put s
  | .group n => put (groups n)
  | .case .upperNext => { t with once := .upperNext }
  | .case .lowerNext => { t with once := .lowerNext }
  | .case c => { t with mode := c, once := .none }

/-- The text of a replacement for what was found. -/
def replacement (ps : List Piece) (f : Regular.Found) : List Char :=
  let groups := fun (n : Nat) => if n == 0 then f.text else (f.groups.lookup n).getD []
  (ps.foldl (Cased.add groups) {}).text.reverse

/-- The rest of a line with replacements; `count` places have been found, and `fresh` says that the
last of them ends here. -/
def substituted (m : Text.Manner) (r : Regular) (s : Substitution) :
    Nat → Nat → Bool → Option Char → List Char → List Char × Bool
  | 0, _, _, _, rest => (rest, false)
  | n + 1, count, fresh, before, rest =>
    match r.find? m before rest with
    | none => (rest, false)
    | some f =>
      let step := fun (front : List Char) (count : Nat) (rest : List Char) =>
        match rest with
        | [] => (front, false)
        | c :: rest =>
          let (more, any) := substituted m r s n count false (some c) rest
          (front ++ c :: more, any)
      if f.text.isEmpty && f.skipped.isEmpty && fresh then step [] count f.rest
      else
        let place := count + 1
        let isDue := place ≥ s.nth
        let own := if isDue then replacement s.replacement f else f.text
        let front := f.skipped ++ own
        if isDue && !s.all then (front ++ f.rest, true)
        else
          let (text, any) :=
            if f.text.isEmpty then step front place f.rest
            else
              let (more, any) := substituted m r s n place true f.text.getLast? f.rest
              (front ++ more, any)
          (text, any || isDue)

/-! ### Instructions -/

/-- What follows an instruction. -/
inductive After where
  | goOn (place : Nat)
  /-- The end of the script: the line is written. -/
  | finish
  /-- The line is not written. -/
  | drop
  /-- The script begins again with what is left of the line. -/
  | again
  /-- The line is written, and none follows. -/
  | stop

/-- The line up to a line end, and what follows that if there is one. -/
def firstPart (separator : Char) (s : List Char) : List Char × Option (List Char) :=
  let front := s.takeWhile (· != separator)
  (front, if front.length < s.length then some (s.drop (front.length + 1)) else none)

/-- The lines of a text with their ends. -/
def cutAt (separator : Char) (s : List Char) : List (List Char) :=
  let parts := Text.splitOnChar separator s
  (parts.dropLast.map (· ++ [separator])) ++ (parts.getLast?.filter (!·.isEmpty)).toList

/-- Carries the action at a place out. -/
def act (place : Nat) (a : Action) : Step After := do
  let st ← get
  let next := After.goOn (place + 1)
  let separator := st.settings.separator
  let join := fun (a b : List Char) => a ++ separator :: b
  match a with
  | .block | .close | .nothing | .label _ => return next
  | .substitute s =>
    let (m, r) ← resolve s.pattern
    let (text, any) := substituted m r s (2 * st.space.length + 4) 0 false none st.space
    if any then
      modify fun st => { st with space := text, replaced := true }
      if s.prints then emitSpace
      if let some path := s.target then putInto path text st.ended
    return next
  | .translate pairs =>
    modify fun st => { st with space := st.space.map fun c => (pairs.lookup c).getD c }
    return next
  | .print =>
    emitSpace
    return next
  | .printFirst =>
    emit (firstPart separator st.space).1
    return next
  | .delete => return .drop
  | .deleteFirst =>
    match (firstPart separator st.space).2 with
    | none => return .drop
    | some rest =>
      set { st with space := rest }
      return .again
  | .quit n =>
    if !st.settings.quiet then emitSpace
    flush
    endLine
    throw (.status n)
  | .quitSilently n => throw (.status n)
  | .next =>
    if ← atLast then return .stop
    if !st.settings.quiet then emitSpace
    readNext false
    return next
  | .nextMore =>
    if ← atLast then return .stop
    readNext true
    return next
  | .hold =>
    set { st with kept := st.space, keptEnded := st.ended }
    return next
  | .holdMore =>
    set { st with kept := join st.kept st.space, keptEnded := st.ended }
    return next
  | .get =>
    set { st with space := st.kept, ended := st.keptEnded }
    return next
  | .getMore =>
    set { st with space := join st.space st.kept, ended := st.keptEnded }
    return next
  | .exchange =>
    set { st with
      space := st.kept
      ended := st.keptEnded
      kept := st.space
      keptEnded := st.ended }
    return next
  | .insert s =>
    emitText s
    return next
  | .append s =>
    set { st with queue := st.queue ++ [Queued.text s] }
    return next
  | .change s =>
    match (st.reaches[place]?).getD .outside with
    | .outside | .over => emitText s
    | _ => pure ()
    return .drop
  | .number =>
    emit (Numeral.decimal st.number)
    return next
  | .spell width =>
    emit (wrapped separator (width.getD st.settings.width) (spelled st.space))
    return next
  | .jump kind name =>
    let goes := match kind with
      | .always => true
      | .afterReplacement => st.replaced
      | .withoutReplacement => !st.replaced
    -- a jump on a condition forgets the replacement, even if it is not taken
    if kind != .always then modify fun st => { st with replaced := false }
    if !goes then return next
    else if name == "" then return .finish
    else return .goOn ((st.script.place? name).getD st.script.size)
  | .read path =>
    set { st with queue := st.queue ++ [Queued.file path] }
    return next
  | .readLine path =>
    let lines ← match st.readers.lookup path with
      | some lines => pure lines
      | none =>
        match ← (Program.contentOf path : Run _) with
        | .ok s => pure (cutAt separator s)
        | .error _ => pure []
    let readers := setKey path (lines.drop 1) st.readers
    let more := (lines.take 1).map fun l => Queued.text (Text.characters l)
    modify fun st => { st with readers, queue := st.queue ++ more }
    return next
  | .write path =>
    putInto path st.space st.ended
    return next
  | .writeFirst path =>
    putInto path (firstPart separator st.space).1
    return next
  | .clear =>
    set { st with space := [] }
    return next
  | .fileName =>
    emit (Text.characters st.file)
    return next

/-- The greatest number of steps that do not go on for ever. -/
def stepLimit : Nat := 200000

/-- A run that goes on for ever. -/
def neverEnds {α : Type} : Step α :=
  (throw Stop.endless : Run α)

/-- The script from a place on. -/
def cycle : Nat → Nat → Step After
  | 0, _ => neverEnds
  | n + 1, place => do
    let script := (← get).script
    match script[place]? with
    | none => return .finish
    | some i =>
      let after ←
        if ← isSelected place i.selector then act place i.action
        else
          match i.action with
          | .block => pure (.goOn (script.behindBlock (script.size + 1) place 0))
          | _ => pure (.goOn (place + 1))
      match after with
      | .goOn place => cycle n place
      | after => return after

/-- The script for all lines; `fresh` says that the next line is to be read. -/
def cycles : Nat → Bool → Step Unit
  | 0, _ => neverEnds
  | n + 1, fresh => do
    if fresh then
      if ← atLast then return
      readNext false
    match ← cycle stepLimit 0 with
    | .goOn _ | .finish =>
      if !(← get).settings.quiet then emitSpace
      flush
      cycles n true
    | .drop =>
      flush
      cycles n true
    | .again =>
      flush
      cycles n false
    | .stop =>
      if !(← get).settings.quiet then emitSpace
      flush

/-- What has come of a run. -/
structure Outcome where
  /-- Why the run ended early. -/
  halt : Option Halt
  /-- The text that was gathered. -/
  text : List Char
  /-- The lines that have not been read. -/
  left : List Line
  unended : Unended

/-- Carries a script out for all lines. -/
def edit (settings : Settings) (script : Script) (unended : Unended) (gather : Bool)
    (lines : List Line) : Run Outcome := do
  let isStart := fun (i : Instruction) =>
    match i.selector.first, i.selector.limit with
    | some .start, some l => Reach.upTo l
    | _, _ => .outside
  let (result, st) ← (cycles (lines.length + stepLimit) true).run.run
    { settings, script, left := lines, unended, reaches := script.map isStart
      gathered := if gather then some [] else none }
  let halt := match result with
    | .ok _ => none
    | .error h => some h
  return { halt, text := (st.gathered.getD []).reverse.flatten, left := st.left,
           unended := st.unended }

end FlopCensus.Shell.Editor
