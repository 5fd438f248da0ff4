import FlopCensus.Json.Reader

set_option autoImplicit false
set_option relaxedAutoImplicit false

/-!
# The grammar of JSON

Which characters spell which value, told without a reader. Blanks may stand around every value and
every name. The items of an array and the members of an object are spelled in their order, and the
names in one object differ, so that it does not matter how a reader treats repeated names. Numbers
with a fraction or an exponent are left out.

## Main definitions

* `FlopCensus.Json.SpellsPoints`, `FlopCensus.Json.SpellsText` — texts.
* `FlopCensus.Json.SpellsInt` — integers.
* `FlopCensus.Json.Spells` — values without blanks around them.
* `FlopCensus.Json.SpellsPadded` — values with blanks around them, which are the texts of JSON.
-/

namespace FlopCensus.Json

/-- Blanks only. -/
def IsBlank (s : List Char) : Prop :=
  ∀ c ∈ s, isSpace c = true

/-- The letters that stand behind a backslash, and the characters they escape. -/
def shortEscapes : List (Char × Char) :=
  [('"', '"'), ('\\', '\\'), ('/', '/'), ('b', '\x08'), ('f', '\x0c'), ('n', '\n'), ('r', '\r'),
    ('t', '\t')]

/-- The characters between two quotes spell code points. -/
inductive SpellsPoints : List Nat → List Char → Prop
  | nil : SpellsPoints [] []
  | plain {c : Char} {points : List Nat} {s : List Char} (control : ' ' ≤ c) (quote : c ≠ '"')
      (escape : c ≠ '\\') (rest : SpellsPoints points s) : SpellsPoints (c.toNat :: points) (c :: s)
  | short {letter c : Char} {points : List Nat} {s : List Char}
      (known : (letter, c) ∈ shortEscapes) (rest : SpellsPoints points s) :
      SpellsPoints (c.toNat :: points) ('\\' :: letter :: s)
  | unit {a b c d : Char} {n : Nat} {points : List Nat} {s : List Char}
      (digits : unit? a b c d = some n) (rest : SpellsPoints points s) :
      SpellsPoints (n :: points) ('\\' :: 'u' :: a :: b :: c :: d :: s)

/-- Characters with their quotes spell a text. Two code points that are the halves of a pair make up
one character of it. -/
def SpellsText (t : String) (s : List Char) : Prop :=
  ∃ points body, SpellsPoints points body ∧ t = String.ofList (joinPairs points) ∧
    s = '"' :: body ++ ['"']

/-- The digits of a numeral. There is at least one, and no zero in front of others. -/
structure IsNumeral (digits : List Nat) : Prop where
  /-- There is a digit. -/
  ne_nil : digits ≠ []
  /-- The base is ten. -/
  lt_ten : ∀ d ∈ digits, d < 10
  /-- A zero stands alone. -/
  leading : digits.head? = some 0 → digits = [0]

/-- Digits spell an integer, perhaps behind a sign. -/
inductive SpellsInt : Int → List Char → Prop
  | plain {digits : List Nat} (h : IsNumeral digits) :
      SpellsInt (Numeral.valueOf 10 digits) (digits.map Text.digitChar)
  | negative {digits : List Nat} (h : IsNumeral digits) :
      SpellsInt (-Numeral.valueOf 10 digits) ('-' :: digits.map Text.digitChar)

mutual

/-- The characters spell a value, without blanks around it. -/
inductive Spells : Value → List Char → Prop
  | null : Spells .null ['n', 'u', 'l', 'l']
  | yes : Spells (.bool true) ['t', 'r', 'u', 'e']
  | no : Spells (.bool false) ['f', 'a', 'l', 's', 'e']
  | int {i : Int} {s : List Char} (h : SpellsInt i s) : Spells (.int i) s
  | text {t : String} {s : List Char} (h : SpellsText t s) : Spells (.text t) s
  | emptyArray {s : List Char} (blank : IsBlank s) : Spells (.array []) ('[' :: s ++ [']'])
  | array {items : List Value} {s : List Char} (h : SpellsItems items s) :
      Spells (.array items) ('[' :: s ++ [']'])
  | emptyObject {s : List Char} (blank : IsBlank s) : Spells (.object []) ('\x7b' :: s ++ ['\x7d'])
  | object {members : List (String × Value)} {s : List Char} (h : SpellsMembers members s)
      (names : (members.map Prod.fst).Nodup) : Spells (.object members) ('\x7b' :: s ++ ['\x7d'])

/-- The characters spell a value, with blanks around it. -/
inductive SpellsPadded : Value → List Char → Prop
  | intro {v : Value} {before s behind : List Char} (left : IsBlank before) (h : Spells v s)
      (right : IsBlank behind) : SpellsPadded v (before ++ s ++ behind)

/-- The characters between two brackets spell at least one item. -/
inductive SpellsItems : List Value → List Char → Prop
  | last {v : Value} {s : List Char} (h : SpellsPadded v s) : SpellsItems [v] s
  | more {v : Value} {items : List Value} {s rest : List Char} (h : SpellsPadded v s)
      (others : SpellsItems items rest) : SpellsItems (v :: items) (s ++ ',' :: rest)

/-- The characters spell a name and its value. -/
inductive SpellsMember : String × Value → List Char → Prop
  | intro {name : String} {v : Value} {before t behind s : List Char} (left : IsBlank before)
      (h : SpellsText name t) (right : IsBlank behind) (value : SpellsPadded v s) :
      SpellsMember (name, v) (before ++ t ++ behind ++ ':' :: s)

/-- The characters between two braces spell at least one member. -/
inductive SpellsMembers : List (String × Value) → List Char → Prop
  | last {m : String × Value} {s : List Char} (h : SpellsMember m s) : SpellsMembers [m] s
  | more {m : String × Value} {members : List (String × Value)} {s rest : List Char}
      (h : SpellsMember m s) (others : SpellsMembers members rest) :
      SpellsMembers (m :: members) (s ++ ',' :: rest)

end

end FlopCensus.Json
