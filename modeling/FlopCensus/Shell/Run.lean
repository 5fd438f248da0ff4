import FlopCensus.Shell.Redirection

set_option autoImplicit false
set_option relaxedAutoImplicit false

/-!
# Running scripts and programs

A run is cut into tasks. What a task needs of others it asks of a function that performs them, so
the parts of the interpreter stand side by side, and one function with fuel, `perform`, ties them
together. Tasks that are nested too deeply end as a program does that runs out of memory.

The shell, its commands and the programs below `FlopCensus.Shell` serve runs with scripted tools
only: where the syntax tool is a script, somebody has to run it. They stand for software outside the
program, which only starts a command and takes what it writes. No result of the library is about
what a script does; the results about calls (`FlopCensus.Host.outcome`) hold whatever it does.

## Main definitions

* `FlopCensus.Shell.Task`, `FlopCensus.Shell.Outcome`: tasks, and how they end.
* `FlopCensus.Shell.runCommand`: a command.
* `FlopCensus.Shell.runScript`: the lines of a script.
* `FlopCensus.Shell.runFile`: a program in a process of its own.
* `FlopCensus.Shell.perform`: any of them.
-/

namespace FlopCensus.Shell

/-- A part of a run. -/
inductive Task where
  /-- A command. -/
  | command (c : Command)
  /-- A script, whose lines are counted from behind `base` on. -/
  | script (base : Nat) (text : List Char)
  /-- A program from a file, which is the interpreter of `through` scripts. -/
  | program (path : String) (words : List (List Char)) (through : Nat := 0)

/-- How a task ends. -/
inductive Outcome where
  /-- With a status. -/
  | status (n : Nat)
  /-- By a signal. -/
  | signal (n : Nat)
  /-- Not at all, for the program cannot be run. -/
  | failed (c : Files.Cause)
deriving Repr, DecidableEq

/-- A function that performs tasks. -/
abbrev Perform := Task → Run Outcome

/-- The greatest number of rounds of a loop. -/
def roundLimit : Nat := 100000

/-- Takes a status over. -/
def done (status : Nat) : Run Nat := do
  alter ({ · with status })
  return status

/-- The status of a task that is no program. -/
def statusOf (perform : Perform) (t : Task) : Run Nat := do
  match ← perform t with
  | .status n => return n
  | .signal n => return 128 + n
  | .failed _ => return 126

/-- Runs a script in the present shell. -/
def evaluate (perform : Perform) (text : List Char) : Run Nat :=
  statusOf perform (.script 0 text)

/-! ### Processes -/

/-- Does something afterwards in any case. -/
def afterwards {α : Type} (act : Run α) (restore : Run Unit) : Run α := do
  let a ← try act catch stop => do
    restore
    throw stop
  restore
  return a

/-- Gives the present state of the shell back afterwards. -/
def keepingShell {α : Type} (act : Run α) : Run α := do
  let m ← get
  afterwards act (modify fun n => { n with shell := m.shell, files := n.files.backTo m.files })

/-- Runs a shell to its end, the script for the end included. -/
def toEnd (perform : Perform) (act : Run Nat) : Run Outcome := do
  let first ← try pure (Outcome.status (← act)) catch stop =>
    match stop with
    | .exit n => pure (Outcome.status n)
    | .signal n => pure (Outcome.signal n)
    | .endless => throw .endless
    | _ => do pure (Outcome.status (← ask (·.status)))
  match first, (← ask (·.traps)).lookup "EXIT" with
  | .status n, some text =>
    alter fun s => { s with status := n, traps := s.traps.filter (·.1 != "EXIT") }
    try
      let _ ← evaluate perform text
      return .status n
    catch stop =>
      match stop with
      | .exit n => return .status n
      | .signal n => return .signal n
      | .endless => throw .endless
      | _ => return .status n
  | outcome, _ => return outcome

/-- Runs commands in a shell of their own. -/
def inSubshell (perform : Perform) (act : Run Nat) : Run Nat := do
  let outcome ← keepingShell do
    alter fun s => { s with traps := s.traps.filter (·.2.isEmpty) }
    toEnd perform act
  match outcome with
  | .status n => done n
  | .signal n => throw (.signal n)
  | .failed _ => done 126

/-- What a shell says of a program that a signal ended, and its status. -/
def afterSignal (n : Nat) : Run Nat := do
  if let some text := signalText? n then protest text.toList
  return 128 + n

/-! ### Words -/

/-- The output of a script without the line ends behind it. -/
def substitute (perform : Perform) : Substitute := fun script => do
  let base := (← ask (·.line)) - 1
  let sink ← newSink
  let _ ← inSubshell perform do
    connect 1 (.sink sink)
    statusOf perform (.script base script)
  let text ← written sink
  return ((text.reverse.dropWhile (· == '\n')).reverse).filter (· != '\x00')

/-- The word holds a script. -/
def hasScript (w : Word) : Bool :=
  w.any fun
    | .substitution .. => true
    | _ => false

/-! ### Programs -/

/-- Why a program cannot be run, in the words of a shell, and the status. -/
def missing (c : Files.Cause) : List Char × Nat :=
  match c with
  | .notFound | .notDirectory => ("not found".toList, 127)
  | .tooManyLinks | .nameTooLong => (c.text.toList, 127)
  | c => (c.text.toList, 126)

/-- Tries the paths of a program one after the other. A file that is no program is taken for a
script. -/
def tryPaths (perform : Perform) (words : List (List Char)) (found : Files.Cause) :
    List String → Run Outcome
  | [] => return .failed found
  | path :: rest => do
    match ← perform (.program path words) with
    | .failed .notExecutable =>
      perform (.program "/bin/sh" (Text.octets "/bin/sh" :: Text.octets path :: words.drop 1))
    | .failed c =>
      let passed := c == .notFound || c == .notDirectory
      tryPaths perform words (if passed then found else c) rest
    | outcome => return outcome

/-- The directories in which programs are looked up. -/
def searchPath : Run (List String) := do
  match ← value? "PATH" with
  | some path => return (Text.splitOnChar ':' path).map pathOf
  | none => return ["/usr/local/sbin", "/usr/local/bin", "/usr/sbin", "/usr/bin", "/sbin", "/bin"]

/-- The paths that a program may have. -/
def pathsOf (name : List Char) : Run (List String) := do
  let text := pathOf name
  if name.isEmpty || Files.hasDirectory text then return [text]
  else return (← searchPath).map fun d => if d == "" then text else Files.join d text

/-- Runs a program by its name. -/
def launch (perform : Perform) (words : List (List Char)) : Run Outcome := do
  match words with
  | [] => return .status 0
  | [] :: _ => return .failed .denied
  | name :: _ => tryPaths perform words .notFound (← pathsOf name)

/-- Runs a program from a command and waits for it. -/
def runProgram (perform : Perform) (words : List (List Char)) : Run Nat := do
  match ← launch perform words with
  | .status n => return n
  | .signal n => afterSignal n
  | .failed c =>
    let (text, status) := missing c
    complain ((words.head?.getD []) ++ ": ".toList ++ text)
    return status

/-! ### Commands of the shell that run others -/

/-- A count that an argument gives, or another one. -/
def countOr (command : String) (usual : Nat) (ws : List (List Char)) : Run Nat :=
  match ws with
  | [] => return usual
  | w :: _ => countOf command w

/-- Ends some loops, or goes on with the next round of one. -/
def leaveLoops (command : String) (stop : Nat → Stop) (ws : List (List Char)) : Run Nat := do
  let n ← countOr command 1 ws
  if n == 0 then refuseAndEnd command ("Illegal number: 0".toList)
  let loops ← ask (·.loops)
  let _ ← done 0
  if loops == 0 then return 0
  throw (stop (min n loops))

/-- Carries out the script in a file. -/
def source (perform : Perform) (ws : List (List Char)) : Run Nat := do
  match ws with
  | [] => return 0
  | name :: _ =>
    let files := (← get).files
    let paths ← pathsOf name
    match paths.find? files.isFile with
    | none =>
      let reason := if Files.hasDirectory (pathOf name) then ": No such file" else ": not found"
      refuseAndEnd "." ("cannot open ".toList ++ name ++ reason.toList)
    | some path =>
      match files.read path with
      | .ok content =>
        try evaluate perform (Text.octetsOfBytes content)
        catch stop =>
          match stop with
          | .back => ask (·.status)
          | stop => throw stop
      | .error e =>
        refuseAndEnd "." ("cannot open ".toList ++ name ++ ": ".toList ++ e.cause.text.toList)

/-- Gives the process to a program. -/
def become (perform : Perform) (words : List (List Char)) : Run Nat := do
  if words.isEmpty then return 0
  match ← launch perform words with
  | .status n =>
    alter ({ · with traps := [] })
    throw (.exit n)
  | .signal n => throw (.signal n)
  | .failed c =>
    let (text, status) := missing c
    complain ("exec: ".toList ++ (words.head?.getD []) ++ ": ".toList ++ text)
    throw (.exit status)

/-- What a name of a command stands for. -/
def describeCommand (long : Bool) (own : List String) (name : List Char) :
    Run (Option (List Char)) := do
  let text := String.ofList name
  let tell := fun (short rest : String) =>
    some (if long then name ++ rest.toList else short.toList)
  if keywords.contains text then return tell text " is a shell keyword"
  else if ((← ask (·.functions)).lookup text).isSome then return tell text " is a shell function"
  else if specialNames.contains text then return tell text " is a special shell builtin"
  else if own.contains text then return tell text " is a shell builtin"
  else
    let files := (← get).files
    match (← pathsOf name).find? files.isExecutable with
    | none => return none
    | some path =>
      return some (if long then name ++ " is ".toList ++ Text.octets path else Text.octets path)

/-- Describes commands. -/
def describeCommands (long : Bool) (own : List String) (ws : List (List Char)) : Run Nat := do
  let mut status := 0
  for w in ws do
    match ← describeCommand long own w with
    | some text => say text
    | none =>
      if long then say (w ++ ": not found".toList)
      status := 127
  return status

/-- The commands of the shell that run others. -/
def runners (perform : Perform) : List (String × Builtin) := [
  ("eval", fun ws => evaluate perform ([' '].intercalate ws)),
  (".", source perform),
  ("exec", become perform),
  ("exit", fun ws => do throw (.exit ((← countOr "exit" (← ask (·.status)) ws) % 256))),
  ("return", fun ws => do
    let _ ← done (← countOr "return" (← ask (·.status)) ws)
    throw .back),
  ("break", leaveLoops "break" .leave),
  ("continue", leaveLoops "continue" .next)]

/-- The commands of the shell. -/
def ownCommands (perform : Perform) : List (String × Builtin) :=
  builtins (evaluate perform) ++ runners perform

/-- The names of the commands of the shell. -/
def ownNames : List String :=
  (ownCommands fun _ => return .status 0).map (·.1) ++ ["command", "type"]

/-- Runs a command of the shell or a program, functions being passed over. -/
def runPlain (perform : Perform) (words : List (List Char)) : Run Nat := do
  match words with
  | [] => return 0
  | name :: rest =>
    match (ownCommands perform).lookup (String.ofList name) with
    | some f => f rest
    | none => runProgram perform words

/-- Runs a command that is named by its first word. -/
def runOwn (perform : Perform) (words : List (List Char)) : Run Nat := do
  match words with
  | [] => return 0
  | name :: rest =>
    match String.ofList name with
    | "type" => describeCommands true ownNames rest
    | "command" =>
      match rest with
      | ['-', 'v'] :: ws => describeCommands false ownNames ws
      | ['-', 'V'] :: ws => describeCommands true ownNames ws
      | ['-', 'p'] :: ws => runPlain perform ws
      | ws => runPlain perform ws
    | _ => runPlain perform words

/-! ### Simple commands -/

/-- The greatest number of functions inside each other. -/
def depthLimit : Nat := 1000

/-- Runs a function. -/
def runFunction (perform : Perform) (body : Command) (arguments : List (List Char)) : Run Nat := do
  let before ← ask id
  if before.depth ≥ depthLimit then
    fail "Maximum function recursion depth (1000) reached".toList
  alter fun s => { s with arguments, depth := s.depth + 1, loops := 0 }
  afterwards
    (try statusOf perform (.command body) catch stop =>
      match stop with
      | .back => ask (·.status)
      | stop => throw stop)
    do
      giveBack before.saved.length
      alter fun s =>
        { s with arguments := before.arguments, depth := before.depth, loops := before.loops }

/-- Sets variables from the assignments of a command. -/
def assignAll (perform : Perform) (exported : Bool) (pairs : List (String × Word)) : Run Unit := do
  for (name, w) in pairs do
    let value ← textOfWord (substitute perform) w
    if (← ask (·.options)).contains 'x' then protest ("+ ".toList ++ name.toList ++ '=' :: value)
    assign name value
    if exported then
      alter fun s =>
        { s with bindings := s.bindings.map fun (n, v) =>
            if n == name then (n, { v with exported := true }) else (n, v) }

/-- Runs a command with variables that are set for it alone. -/
def withAssignments (perform : Perform) (pairs : List (String × Word)) (act : Run Nat) :
    Run Nat := do
  let old := (← ask (·.bindings))
  assignAll perform true pairs
  afterwards act (alter fun s =>
    { s with bindings := pairs.foldl (fun vs (name, _) =>
        match old.lookup name with
        | some v => setKey name v vs
        | none => vs.filter (·.1 != name)) s.bindings })

/-- Runs a command with its streams redirected. -/
def withRedirects (perform : Perform) (redirects : List Redirect) (act : Run Nat) : Run Nat := do
  let ends ← ask (·.ends)
  afterwards
    (do if ← redirect (substitute perform) redirects then act else return 2)
    (alter ({ · with ends }))

/-- Ends the shell if a failure has to. -/
def settle (status : Nat) : Run Nat := do
  let s ← ask id
  if status != 0 && !s.checked && s.options.contains 'e' then
    alter ({ · with status })
    throw (.exit status)
  done status

/-- Runs a simple command. -/
def runSimple (perform : Perform) (line : Nat) (assignments : List (String × Word))
    (words : List Word) (redirects : List Redirect) : Run Nat := do
  alter ({ · with line })
  let texts ← textsOfWords (substitute perform) words
  match texts with
  | [] =>
    let status ← withRedirects perform redirects do
      assignAll perform false assignments
      if (words ++ assignments.map (·.2)).any hasScript then ask (·.status) else return 0
    settle status
  | name :: rest =>
    if (← ask (·.options)).contains 'x' then
      protest ("+ ".toList ++ [' '].intercalate texts)
    let text := String.ofList name
    let status ←
      if specialNames.contains text then
        if text == "exec" then
          if !(← redirect (substitute perform) redirects) then throw (.exit 2)
          assignAll perform true assignments
          runOwn perform texts
        else
          withRedirects perform redirects do
            assignAll perform false assignments
            runOwn perform texts
      else
        withRedirects perform redirects do
          withAssignments perform assignments do
            match (← ask (·.functions)).lookup text with
            | some body => runFunction perform body rest
            | none => runOwn perform texts
    settle status

/-! ### Compound commands -/

/-- Runs a command whose failure has no consequence. -/
def checking (act : Run Nat) : Run Nat := do
  let checked ← ask (·.checked)
  alter ({ · with checked := true })
  afterwards act (alter ({ · with checked }))

/-- One round of a loop: whether another one follows. -/
def oneRound (body : Run Nat) : Run Bool := do
  try
    let _ ← body
    return true
  catch stop =>
    match stop with
    | .leave 1 => return false
    | .next 1 => return true
    | .leave n => throw (.leave (n - 1))
    | .next n => throw (.next (n - 1))
    | stop => throw stop

/-- Rounds of a loop while a condition holds. The status is that of the last round. -/
def roundsWhile (condition : Run Bool) (body : Run Nat) : Nat → Nat → Run Nat
  | 0, _ => throw .endless
  | n + 1, last => do
    let goes ← oneRound do
      if ← condition then body
      else
        let _ ← done last
        throw (.leave 1)
    let status ← ask (·.status)
    if goes then roundsWhile condition body n status else return status

/-- Rounds of a loop with a variable. -/
def roundsOver (name : String) (body : Run Nat) : List (List Char) → Run Nat
  | [] => return 0
  | text :: rest => do
    assign name text
    let goes ← oneRound body
    if goes && !rest.isEmpty then roundsOver name body rest else ask (·.status)

/-- Counts a loop while it is being run. -/
def inLoop (act : Run Nat) : Run Nat := do
  alter fun s => { s with loops := s.loops + 1 }
  afterwards act (alter fun s => { s with loops := s.loops - 1 })

/-- What a pipe holds without a reader. -/
def pipeSize : Nat := 65536

/-- Runs the parts of a pipeline. They start at one time, and the last of them to end ends it. A
part that goes on for ever ends if it writes more than the next part reads. -/
def runPipeline (perform : Perform) (start : Nat) (input : Option StreamEnd) :
    Nat → List Command → Run Nat
  | _, [] => return 0
  | last, c :: rest => do
    modify fun m => { m with elapsed := start }
    let sink ← newSink
    let run := inSubshell perform do
      if let some p := input then connect 0 p
      if !rest.isEmpty then connect 1 (.sink sink)
      statusOf perform (.command c)
    let status? ← try pure (some (← run)) catch stop =>
      if stop = .endless && !rest.isEmpty then pure none else throw stop
    let last := max last (← get).elapsed
    modify fun m => { m with elapsed := last }
    match status?, rest with
    | some status, [] => return status
    | status?, rest =>
      let text ← written sink
      let source ← newSource text
      let status ← runPipeline perform start (some (.source source)) last rest
      let left := (← get).sources[source]?.getD []
      if status?.isNone && (left.isEmpty || text.length ≤ pipeSize) then throw .endless
      return status

/-- The arm of a choice whose pattern fits. -/
def chosen (perform : Perform) (subject : List Char) :
    List (List Word × Command) → Run (Option Command)
  | [] => return none
  | (patterns, c) :: rest => do
    let fits ← patterns.anyM fun w => do
      let items ← itemsOfWord (substitute perform) w
      return Text.Glob.accepts (patternOf items) subject
    if fits then return some c else chosen perform subject rest

/-- Runs a command. -/
def runCommand (perform : Perform) (c : Command) : Run Nat := do
  let run := fun (c : Command) => statusOf perform (.command c)
  match c with
  | .simple line assignments words redirects => runSimple perform line assignments words redirects
  | .redirected c redirects => do done (← withRedirects perform redirects (run c))
  | .pipeline negated parts =>
    let act : Run Nat := do
      match parts with
      | [c] => run c
      | parts => runPipeline perform (← get).elapsed none 0 parts
    if negated then
      let status ← checking act
      done (if status == 0 then 1 else 0)
    else settle (← act)
  | .both a b =>
    if (← checking (run a)) == 0 then run b else ask (·.status)
  | .either a b =>
    if (← checking (run a)) == 0 then return 0 else run b
  -- the time goes by beside the script, and counts for the end of the call
  | .background c =>
    let m ← get
    let _ ← inSubshell perform do
      connect 0 .nothing
      run c
    modify fun n =>
      { n with elapsed := m.elapsed, horizon := max n.horizon n.elapsed }
    done 0
  | .sequence cs =>
    let mut status := 0
    for c in cs do status ← run c
    return status
  | .subshell c => settle (← inSubshell perform (run c))
  | .branch condition yes no =>
    if (← checking (run condition)) == 0 then run yes
    else
      match no with
      | .sequence [] => done 0
      | no => run no
  | .loop whileTrue condition body =>
    let holds : Run Bool := return ((← checking (run condition)) == 0) == whileTrue
    done (← inLoop (roundsWhile holds (run body) roundLimit 0))
  | .each name words body =>
    let texts ← match words with
      | some ws => textsOfWords (substitute perform) ws
      | none => ask (·.arguments)
    done (← inLoop (roundsOver name (run body) texts))
  | .choose subject arms =>
    match ← chosen perform (← textOfWord (substitute perform) subject) arms with
    | some c => run c
    | none => done 0
  | .define name body =>
    alter fun s => { s with functions := setKey name body s.functions }
    done 0

/-! ### Scripts and files -/

/-- Runs the rest of a script that has `lines` line ends. -/
def runLines (perform : Perform) (base lines : Nat) : Nat → List Char → Run Nat
  | 0, _ => ask (·.status)
  | n + 1, s => do
    let s := skipLines (s.length + 1) s
    if s.isEmpty then ask (·.status)
    else
      match readLine (base + lines) (s.length + 1) s with
      | .error e =>
        alter ({ · with line := base + 1 + lines - e.left })
        fail e.message.toList
      | .ok (cs, rest) =>
        for c in cs do
          let _ ← statusOf perform (.command c)
        runLines perform base lines n rest

/-- Runs a script. One without commands succeeds. -/
def runScript (perform : Perform) (base : Nat) (text : List Char) : Run Nat := do
  if (skipLines (text.length + 1) text).isEmpty then done 0
  else runLines perform base (lineEnds text) (text.length + 1) text

/-- What a shell is called with. -/
structure Call where
  /-- The script is an argument. -/
  inline : Bool := false
  options : List (Bool × Char) := []
  rest : List (List Char) := []

/-- Tells the options of a shell from its other arguments. -/
def callOf (c : Call) : List (List Char) → Call
  | [] => c
  | w :: ws =>
    match w with
    | ['-', '-'] => { c with rest := ws }
    | ['-'] => { c with rest := ws }
    | '-' :: letters =>
      callOf { c with
        inline := c.inline || letters.contains 'c'
        options := c.options ++ (letters.filter (· != 'c')).map fun l => (true, l) } ws
    | '+' :: letters => callOf { c with options := c.options ++ letters.map fun l => (false, l) } ws
    | _ => { c with rest := w :: ws }

/-- Runs a shell with its arguments. -/
def runShell (perform : Perform) (name : List Char) (arguments : List (List Char)) : Run Nat := do
  let call := callOf {} arguments
  alter ({ · with name, line := 0 })
  match call.options.find? fun (_, c) => !"aefhnuvxsCimE".toList.contains c with
  | some (on, c) => fail ("Illegal option ".toList ++ [if on then '-' else '+', c])
  | none =>
    let options := (call.options.filter (·.1)).map (·.2)
    alter ({ · with options })
    if call.inline then
      match call.rest with
      | [] => fail "-c requires an argument".toList
      | script :: rest =>
        alter ({ · with name := rest.head?.getD name, arguments := rest.drop 1, line := 1 })
        statusOf perform (.script 0 script)
    else
      match if options.contains 's' then none else call.rest.head? with
      | none =>
        alter ({ · with arguments := call.rest, line := 1 })
        statusOf perform (.script 0 (← readAll))
      | some path =>
        match (← get).files.read (pathOf path) with
        | .ok content =>
          alter ({ · with name := path, arguments := call.rest.drop 1, line := 1 })
          statusOf perform (.script 0 (Text.octetsOfBytes content))
        | .error ⟨.isDirectory, _⟩ => return 0
        | .error e => fail (EndError.cannotOpen path e.cause).message

/-- Runs a program with variables changed. -/
def runEnv (perform : Perform) (name : List Char) : Nat → List (List Char) → Run Nat
  | 0, _ => return 125
  | n + 1, ws => do
    match ws with
    | [] => Program.printenv name []
    | ['-', 'i'] :: rest | ['-'] :: rest =>
      alter ({ · with bindings := [] })
      runEnv perform name n rest
    | ['-', 'u'] :: x :: rest =>
      alter fun s => { s with bindings := s.bindings.filter (·.1 != String.ofList x) }
      runEnv perform name n rest
    | ['-', '-'] :: rest => runEnv perform name n rest
    | w :: rest =>
      match definition w with
      | (x, some value) =>
        alter fun s =>
          { s with bindings := setKey (String.ofList x) { value, exported := true } s.bindings }
        runEnv perform name n rest
      | (_, none) =>
        if w.head? == some '-' && w.length > 1 then
          Program.tell name ("invalid option -- ".toList ++ Program.quoted [(w[1]?).getD '-'])
          Program.hint name
          return 125
        match ← launch perform ws with
        | .status n => return n
        | .signal n => throw (.signal n)
        | .failed c =>
          Program.tell name (Program.curly w ++ ": ".toList ++ c.text.toList)
          return (missing c).2

/-- The mark in front of the name of a program that is known here. -/
def programMark : List Char := ['\x7f', 'E', 'L', 'F']

/-- The interpreter in the first line of a script, perhaps with an argument. -/
def interpreter? (content : List Char) : Option (List (List Char)) :=
  match content with
  | '#' :: '!' :: rest =>
    let isBlank := fun (c : Char) => c == ' ' || c == '\t'
    let line := (rest.takeWhile (· != '\n')).dropWhile isBlank
    let line := (line.reverse.dropWhile isBlank).reverse
    let path := line.takeWhile fun c => !isBlank c
    let argument := (line.drop path.length).dropWhile isBlank
    if path.isEmpty then none
    else some (path :: if argument.isEmpty then [] else [argument])
  | _ => none

/-- Runs a program in a process that gets the exported variables and the streams. -/
def inProcess (perform : Perform) (act : Run Nat) : Run Outcome :=
  keepingShell do
    let directory := (← get).files.workingPath
    alter fun s => { ends := s.ends, bindings := s.bindings.filter (·.2.exported), directory }
    toEnd perform act

/-- The variable with the working directory, for a shell. -/
def noteDirectory : Run Unit := do
  assign "PWD" (Text.octets (← ask (·.directory)))

/-- The greatest number of scripts that are interpreters of each other. -/
def interpreterLimit : Nat := 5

/-- Runs a program from a file, which is the interpreter of `through` scripts. -/
def runFile (perform : Perform) (path : String) (words : List (List Char)) (through : Nat) :
    Run Outcome := do
  let name := words.head?.getD []
  let arguments := words.drop 1
  match (← get).files.find path with
  | .error c => return .failed c
  | .ok (.regular content true) =>
    let content := Text.octetsOfBytes content
    if through > interpreterLimit then return .failed .tooManyLinks
    else if programMark.isPrefixOf content then
      match String.ofList (content.drop programMark.length) with
      | "sh" => inProcess perform do
          noteDirectory
          runShell perform name arguments
      | "env" => inProcess perform (runEnv perform name (arguments.length + 1) arguments)
      | known =>
        match programs.lookup known with
        | some f => inProcess perform (f name arguments)
        | none => return .failed .notExecutable
    else
      match interpreter? content with
      | some (path' :: more) =>
        perform (.program (pathOf path') (path' :: more ++ Text.octets path :: arguments)
          (through + 1))
      | _ => return .failed .notExecutable
  | .ok _ => return .failed .denied

/-- Performs a task with the others that it needs. A task that is nested too deeply is ended by a
signal. -/
def perform : Nat → Perform
  | 0, _ => throw (.signal 11)
  | n + 1, t =>
    match t with
    | .command c => do return .status (← runCommand (perform n) c)
    | .script base text => do return .status (← runScript (perform n) base text)
    | .program path words through => runFile (perform n) path words through

end FlopCensus.Shell
