import FlopCensus.Numeral.Number
import FlopCensus.Text.Search
import FlopCensus.Yaml.Calendar

set_option autoImplicit false
set_option relaxedAutoImplicit false

/-!
# Types of YAML nodes

A node has a type, named by its tag. A scalar without a tag gets the type whose form its text has.

## Main definitions

* `FlopCensus.Yaml.Tag`: the types.
* `FlopCensus.Yaml.Tag.ofName`: the type with a name.
* `FlopCensus.Yaml.Tag.ofText`: the type whose form a text has.
-/

namespace FlopCensus.Yaml

/-- The type of a node. -/
inductive Tag where
  | null
  | bool
  | int
  | float
  | binary
  | timestamp
  | str
  /-- The key under which other mappings are merged into one. -/
  | merge
  /-- The key under which a mapping has its value as a scalar. -/
  | value
  | seq
  | map
  | set
  | omap
  | pairs
  /-- Any other type. -/
  | foreign
deriving Repr, DecidableEq

namespace Tag

/-- What the names of the types start with. -/
def namespaceText : String := "tag:yaml.org,2002:"

/-- The types by name. -/
def names : List (String × Tag) := [
  ("null", null), ("bool", bool), ("int", int), ("float", float), ("binary", binary),
  ("timestamp", timestamp), ("str", str), ("merge", merge), ("value", value), ("seq", seq),
  ("map", map), ("set", set), ("omap", omap), ("pairs", pairs)]

/-- The type with a name. -/
def ofName (name : String) : Tag :=
  ((names.find? fun (n, _) => namespaceText ++ n == name).map (·.2)).getD foreign

/-- The words for truth values. -/
def truthWords : List (String × Bool) := [
  ("yes", true), ("no", false), ("true", true), ("false", false), ("on", true), ("off", false)]

/-- The word in small letters, with a capital, and in capitals. -/
def spellings (word : String) : List String :=
  [word, word.capitalize, word.map Char.toUpper]

/-- The text is a word for a truth value. -/
def isTruth (s : String) : Bool :=
  truthWords.any fun (w, _) => (spellings w).contains s

/-- A digit or an underscore. -/
def isSpacedDigit (c : Char) : Bool :=
  c.isDigit || c == '_'

/-- A sign may stand in front. -/
def dropSign : List Char → List Char
  | '+' :: rest => rest
  | '-' :: rest => rest
  | s => s

/-- An exponent with a sign, or nothing. -/
def isExponent : List Char → Bool
  | [] => true
  | e :: sign :: rest =>
    (e == 'e' || e == 'E') && (sign == '+' || sign == '-') && !rest.isEmpty &&
      rest.all (·.isDigit)
  | _ => false

/-- A group of digits in base sixty. -/
def isSixtieth : List Char → Bool
  | [a] => a.isDigit
  | [a, b] => '0' ≤ a && a ≤ '5' && b.isDigit
  | _ => false

/-- Groups of digits in base sixty, the first of which `first` accepts. -/
def isSexagesimal (first : List Char → Bool) (s : List Char) : Bool :=
  match Text.splitOnChar ':' s with
  | head :: group :: groups => first head && (group :: groups).all isSixtieth
  | _ => false

/-- Digits and underscores with a digit in front. -/
def isDigits : List Char → Bool
  | c :: rest => c.isDigit && rest.all isSpacedDigit
  | [] => false

/-- The form of a real with digits before the point. -/
def isPointed (s : List Char) : Bool :=
  let whole := s.takeWhile (· != '.')
  match s.dropWhile (· != '.') with
  | '.' :: rest =>
    (isDigits whole && isExponent (rest.dropWhile isSpacedDigit)) ||
      (isSexagesimal isDigits whole && rest.all isSpacedDigit)
  | _ => false

/-- The form of a real. -/
def isReal (s : List Char) : Bool :=
  let unsigned := dropSign s
  let word := String.ofList unsigned
  isPointed unsigned || word == ".inf" || word == ".Inf" || word == ".INF" ||
    match s with
    | '.' :: c :: rest =>
      (c.isDigit && isExponent (rest.dropWhile isSpacedDigit)) ||
        String.ofList s == ".nan" || String.ofList s == ".NaN" || String.ofList s == ".NAN"
    | _ => false

/-- Digits of a base and underscores, of which there is at least one. -/
def areDigitsIn (base : Nat) (s : List Char) : Bool :=
  !s.isEmpty && s.all fun c => c == '_' || (Numeral.digitIn base c).isSome

/-- Digits and underscores with a digit other than zero in front. -/
def isNatural : List Char → Bool
  | c :: rest => c != '0' && c.isDigit && rest.all isSpacedDigit
  | [] => false

/-- The form of an integer. -/
def isInteger (s : List Char) : Bool :=
  let s := dropSign s
  match s with
  | ['0'] => true
  | '0' :: 'b' :: rest => areDigitsIn 2 rest
  | '0' :: 'x' :: rest => areDigitsIn 16 rest
  | '0' :: rest => areDigitsIn 8 rest
  | _ => isNatural s || isSexagesimal isNatural s

/-- The words for nothing. -/
def nullWords : List String := ["~", "null", "Null", "NULL"]

/-- The type whose form a text has. A line feed at the end of the text does not count. -/
def ofText (text : String) : Tag :=
  let s := text.toList
  let s := if s.getLast? == some '\n' then s.dropLast else s
  let word := String.ofList s
  if text == "" then null
  else if isTruth word then bool
  else if isReal s then float
  else if isInteger s then int
  else if word == "<<" then merge
  else if nullWords.contains word then null
  else if (Timestamp.whole? s).any fun t => t.full || t.time.isSome then timestamp
  else if word == "=" then value
  else if word == "!" || word == "&" || word == "*" then foreign
  else str

end Tag

end FlopCensus.Yaml
