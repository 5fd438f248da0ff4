import FlopCensus.Shell.Arithmetic
import FlopCensus.Shell.Machine
import FlopCensus.Text.Glob

set_option autoImplicit false
set_option relaxedAutoImplicit false

/-!
# Words and what becomes of them

A word becomes a list of items: characters, which may be quoted or come out of a value, and marks.
The items are then cut into fields at the separators, and a field that is a file name pattern
becomes the names that fit it.

## Main definitions

* `FlopCensus.Shell.Item`, `FlopCensus.Shell.expand`: the items of a word.
* `FlopCensus.Shell.split`: items cut into fields.
* `FlopCensus.Shell.textsOfWords`: the texts that words become.
* `FlopCensus.Shell.textOfWord`: a word as one text.
-/

namespace FlopCensus.Shell

/-- A part of a word on its way to fields. -/
inductive Item where
  /-- A character. One that `splits` comes out of a value and is not quoted. -/
  | char (c : Char) (quoted splits : Bool)
  /-- Something quoted stands here, though it may be empty. -/
  | mark
  /-- A field ends here. -/
  | cut
  /-- The arguments stand here, and there are none. -/
  | nothing
deriving Repr, DecidableEq

/-- The characters of some items. -/
def charsOf (items : List Item) : List Char :=
  items.filterMap fun
    | .char c _ _ => some c
    | .cut => some ' '
    | _ => none

/-- A value as items. -/
def itemsOf (quoted : Bool) (value : List Char) : List Item :=
  let chars := value.map fun c => .char c quoted !quoted
  if quoted then .mark :: chars else chars

/-- Items as a pattern: what is quoted stands for itself. -/
def patternOf (items : List Item) : List Text.Glob.Part :=
  Text.Glob.parts (items.flatMap fun
    | .char c true _ => if c == '*' || c == '?' || c == '[' then ['[', c, ']'] else [c]
    | .char c false _ => [c]
    | .cut => [' ']
    | _ => [])

/-- A text without the shortest or longest front that fits a pattern. -/
def dropFront (p : List Text.Glob.Part) (longest : Bool) (s : List Char) : List Char :=
  let sizes := List.range (s.length + 1)
  let sizes := if longest then sizes.reverse else sizes
  match sizes.find? fun n => Text.Glob.accepts p (s.take n) with
  | some n => s.drop n
  | none => s

/-- A text without the shortest or longest end that fits a pattern. -/
def dropBack (p : List Text.Glob.Part) (longest : Bool) (s : List Char) : List Char :=
  let sizes := List.range (s.length + 1)
  let sizes := if longest then sizes else sizes.reverse
  match sizes.find? fun n => Text.Glob.accepts p (s.drop n) with
  | some n => s.take n
  | none => s

/-- The value of a parameter that is not a list of arguments. -/
def parameter? (name : String) : Run (Option (List Char)) := do
  let s ← ask id
  match name with
  | "?" => return some (Numeral.decimal s.status)
  | "#" => return some (Numeral.decimal s.arguments.length)
  | "$" => return some (Numeral.decimal processNumber)
  | "-" => return some s.options
  | "0" => return some s.name
  | "*" | "@" =>
    return if s.arguments.isEmpty then none else some ([' '].intercalate s.arguments)
  | _ =>
    match name.toNat? with
    | some n => return s.arguments[n - 1]?
    | none => value? name

/-- A parameter has to be set. -/
def require (name : String) (value : Option (List Char)) : Run (List Char) := do
  match value with
  | some v => return v
  | none =>
    if (← ask (·.options)).contains 'u' && name != "@" && name != "*" then
      fail (name.toList ++ ": parameter not set".toList)
    return []

/-- The arguments as items. -/
def argumentItems (joined quoted : Bool) : Run (List Item) := do
  let arguments ← ask (·.arguments)
  if joined && quoted then
    return itemsOf true (((← separators).take 1).intercalate arguments)
  else if arguments.isEmpty then return [.nothing]
  else return ([Item.cut].intercalate (arguments.map (itemsOf quoted)))

/-- The value of an expression. -/
def calculate (s : List Char) : Run (List Char) := do
  let bindings ← ask (·.bindings)
  let look := fun (x : String) => ((bindings.lookup x).map (·.value)).getD []
  let outcome := do
    let e ← Arithmetic.read s
    (Arithmetic.evaluate look e).run []
  let signed := fun (n : Int) =>
    (if n < 0 then ['-'] else []) ++ Numeral.decimal n.natAbs
  match outcome with
  | .error p => fail (p.message s)
  | .ok (value, set) =>
    for (x, v) in set.reverse do assign x (signed v)
    return signed value

/-- The output of a script without the line ends behind it. -/
abbrev Substitute := List Char → Run (List Char)

/-- The items of a word. -/
def expand (substitute : Substitute) : Nat → List Piece → Run (List Item)
  | 0, _ => return []
  | _, [] => return []
  | n + 1, p :: ps => do
    let inner := fun (word : List Piece) (quoted : Bool) => do
      let items ← expand substitute n word
      return items.map fun
        | .char c q _ => .char c (q || quoted) (!(q || quoted))
        | item => item
    let items ← match p with
      | .text s quoted =>
        pure ((if quoted then [Item.mark] else []) ++ s.map fun c => .char c quoted false)
      | .substitution script quoted => do pure (itemsOf quoted (← substitute script))
      | .arithmetic expression quoted => do
        let text := charsOf (← expand substitute n expression)
        pure (itemsOf quoted (← calculate text))
      | .parameter name m word quoted => do
        let value ← parameter? name
        let isSet := fun (filled : Bool) => value.any fun v => !(filled && v.isEmpty)
        let plain :=
          if name == "@" || name == "*" then argumentItems (name == "*") quoted
          else do return itemsOf quoted (← require name value)
        match m with
        | .plain => plain
        | .length => do pure (itemsOf quoted (Numeral.decimal (← require name value).length))
        | .orElse filled => if isSet filled then plain else inner word quoted
        | .assign filled =>
          if isSet filled then plain
          else do
            let items ← inner word quoted
            assign name (charsOf items)
            pure items
        | .whenSet filled => if isSet filled then inner word quoted else pure []
        | .orFail filled =>
          if isSet filled then plain
          else do
            let items ← inner word true
            let usual := if filled then "parameter not set or null" else "parameter not set"
            let text := if word.isEmpty then usual.toList else charsOf items
            fail (name.toList ++ ": ".toList ++ text)
        | .dropFront longest => do
          let p := patternOf (← expand substitute n word)
          pure (itemsOf quoted (dropFront p longest (← require name value)))
        | .dropBack longest => do
          let p := patternOf (← expand substitute n word)
          pure (itemsOf quoted (dropBack p longest (← require name value)))
        | .unknown => fail "Bad substitution".toList
    return items ++ (← expand substitute n ps)

/-- The number of pieces in a word, those inside others counted. -/
def Piece.size : Piece → Nat
  | .text .. | .substitution .. => 1
  | .parameter _ _ word _ => 1 + sizes word
  | .arithmetic expression _ => 1 + sizes expression
where
  /-- The number of pieces in a list. -/
  sizes : List Piece → Nat
    | [] => 0
    | p :: ps => p.size + sizes ps

/-- A word with the home directory for `~` in first place. -/
def expandTilde (w : Word) : Run Word := do
  match w with
  | .text ['~'] false :: rest =>
    match rest with
    | [] => return [.text (← valueOf "HOME") true]
    | .text ['/'] false :: _ => return .text (← valueOf "HOME") true :: rest
    | _ => return w
  | _ => return w

/-- The items of a word. -/
def itemsOfWord (substitute : Substitute) (w : Word) : Run (List Item) := do
  let w ← expandTilde w
  expand substitute (Piece.size.sizes w + 1) w

/-- A word as one text. -/
def textOfWord (substitute : Substitute) (w : Word) : Run (List Char) :=
  return charsOf (← itemsOfWord substitute w)

/-! ### Fields -/

/-- A field with a flag for each quoted character. -/
abbrev Field := List (Char × Bool)

/-- Items cut into fields. `field` is the field that has begun; `blank` says that the last one was
ended by a blank, so that another separator does not end an empty field. -/
def split (ifs : List Char) (field : Option Field) (blank : Bool) : List Item → List Field
  | [] => field.toList
  | .mark :: rest => split ifs (some (field.getD [])) blank rest
  | .nothing :: rest => split ifs field blank rest
  | .cut :: rest => field.toList ++ split ifs none false rest
  | .char c quoted splits :: rest =>
    if splits && ifs.contains c then
      if c == ' ' || c == '\t' || c == '\n' then
        field.toList ++ split ifs none (blank || field.isSome) rest
      else
        match field with
        | some f => f :: split ifs none false rest
        | none => if blank then split ifs none false rest else [] :: split ifs none false rest
    else split ifs (some (field.getD [] ++ [(c, quoted)])) false rest

/-- The fields of a word's items. A word with nothing but missing arguments has none. -/
def fieldsOfItems (ifs : List Char) (items : List Item) : List Field :=
  if items.contains .nothing && items.all fun i => i == .nothing || i == .mark then []
  else split ifs none false items

/-- A field has a character that makes it a pattern. -/
def isPattern (f : Field) : Bool :=
  f.any fun (c, quoted) => !quoted && (c == '*' || c == '?' || c == '[')

/-- A field cut at slashes. -/
def cutAtSlashes : Field → List Field
  | [] => [[]]
  | (c, quoted) :: rest =>
    if c == '/' then [] :: cutAtSlashes rest
    else
      match cutAtSlashes rest with
      | part :: parts => ((c, quoted) :: part) :: parts
      | [] => [[(c, quoted)]]

/-- The names in a directory that fit a pattern, in their order. -/
def fitting (fs : FileSystem) (directory : List Char) (f : Field) : List (List Char) :=
  let path := if directory.isEmpty then "." else pathOf directory
  let own := ((fs.find path).toOption.map (·.entries)).getD [] |>.map (Text.octets ·.1)
  let names := ['.'] :: ['.', '.'] :: own
  let pattern := patternOf (f.map fun (c, quoted) => .char c quoted false)
  let wanted := names.filter fun name =>
    Text.Glob.accepts pattern name && (name.head? != some '.' || f.head?.any (·.1 == '.'))
  wanted.mergeSort fun a b => decide (String.ofList a ≤ String.ofList b)

/-- The paths that fit the parts of a pattern below a directory. -/
def pathsBelow (fs : FileSystem) (front : List Char) : List Field → List (List Char)
  | [] => [front]
  | part :: rest =>
    let join := fun (name : List Char) => front ++ name ++ if rest.isEmpty then [] else ['/']
    if isPattern part then
      ((fitting fs front part).filter fun name =>
        rest.isEmpty || fs.isDirectory (pathOf (front ++ name))).flatMap fun name =>
          pathsBelow fs (join name) rest
    else
      let path := join (part.map (·.1))
      if rest.isEmpty && !fs.holds (pathOf path) && !part.isEmpty then []
      else pathsBelow fs path rest

/-- The texts of a field: the paths that fit it, or itself. -/
def textsOfField (f : Field) : Run (List (List Char)) := do
  let own := f.map (·.1)
  if isPattern f && !(← ask (·.options)).contains 'f' then
    let found := pathsBelow (← get).files [] (cutAtSlashes f)
    return if found.isEmpty then [own] else found
  else return [own]

/-- The texts of some words. -/
def textsOfWords (substitute : Substitute) (ws : List Word) : Run (List (List Char)) := do
  let mut texts := []
  for w in ws do
    let items ← itemsOfWord substitute w
    for f in fieldsOfItems (← separators) items do
      texts := texts ++ (← textsOfField f)
  return texts

end FlopCensus.Shell
