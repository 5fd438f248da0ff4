set_option autoImplicit false
set_option relaxedAutoImplicit false

/-!
# JSON values

Values of JSON with integers told from reals and with the members of an object in their order.

## Main definitions

* `FlopCensus.Json.Value`: a value.
* `FlopCensus.Json.Value.sorted`: the value with the members of every object in the order of their
  names.
-/

namespace FlopCensus.Json

/-- A JSON value. -/
inductive Value where
  /-- The word `null`. -/
  | null
  /-- The words `true` and `false`. -/
  | bool (b : Bool)
  /-- A number without fraction and exponent. -/
  | int (i : Int)
  /-- Any other number. -/
  | real (x : Float)
  /-- A text. -/
  | text (s : String)
  /-- A sequence of values. -/
  | array (items : List Value)
  /-- Named values in their order. -/
  | object (members : List (String × Value))
deriving Repr, Inhabited

namespace Value

/-- Puts a member in front of the first one whose name is greater. -/
def insertMember (m : String × Value) : List (String × Value) → List (String × Value)
  | [] => [m]
  | n :: rest => if m.1 < n.1 then m :: n :: rest else n :: insertMember m rest

mutual

/-- The value with the members of every object sorted by name. -/
def sorted : Value → Value
  | .array items => .array (sortedItems items)
  | .object members => .object (sortedMembers members)
  | v => v

/-- The values with all objects sorted. -/
def sortedItems : List Value → List Value
  | [] => []
  | v :: rest => v.sorted :: sortedItems rest

/-- The members in the order of their names, with all objects in them sorted. -/
def sortedMembers : List (String × Value) → List (String × Value)
  | [] => []
  | (name, v) :: rest => insertMember (name, v.sorted) (sortedMembers rest)

end

/-- The first member with a name. -/
def member? (v : Value) (name : String) : Option Value :=
  match v with
  | .object members => (members.find? (·.1 == name)).map (·.2)
  | _ => none

end Value

end FlopCensus.Json
