set_option autoImplicit false
set_option relaxedAutoImplicit false

/-!
# Registries

A registry offers implementations of one kind under keys. A key is registered once; the first
registration stands. Keys are listed in the order in which they were registered.

## Main definitions

* `FlopCensus.Registry`: the table.
* `FlopCensus.Registry.Error`: why a registration or a look-up fails.
* `FlopCensus.Registry.register`, `FlopCensus.Registry.get`: registering and looking up.
-/

namespace FlopCensus

/-- An implementation with the name it is known by. -/
structure Registry.Entry (α : Type) where
  /-- The key that was registered. -/
  key : String
  /-- The name of the implementation. -/
  name : String
  /-- The implementation. -/
  item : α
deriving Repr

/-- Implementations of one kind in the order of their registration. -/
structure Registry (α : Type) where
  /-- What the table holds, for messages. -/
  kind : String
  /-- The entries in the order of their registration. -/
  entries : List (Registry.Entry α) := []
deriving Repr

namespace Registry

/-- Why a registration or a look-up fails. -/
inductive Error where
  /-- Another implementation holds the key. -/
  | taken (kind key newcomer holder : String)
  /-- Nothing holds the key. -/
  | unknown (kind key : String) (known : List String)
  /-- A parameter has a name that the table needs itself. -/
  | reserved (parameter : String)
deriving Repr, DecidableEq

/-- The wording of an error. -/
def Error.message : Error → String
  | .taken kind key newcomer holder =>
    "Cannot register " ++ newcomer ++ " as " ++ kind ++ " '" ++ key ++
      "': already taken by " ++ holder
  | .unknown kind key known =>
    "Unknown " ++ kind ++ " '" ++ key ++ "'; choose one of: " ++ ", ".intercalate known
  | .reserved parameter => "The parameter '" ++ parameter ++ "' is given twice"

variable {α : Type}

/-- The keys in the order of their registration. -/
def keys (r : Registry α) : List String :=
  r.entries.map (·.key)

/-- The entry of a key. -/
def find? (r : Registry α) (key : String) : Option (Entry α) :=
  r.entries.find? (·.key == key)

/-- The key is registered. -/
def contains (r : Registry α) (key : String) : Bool :=
  (r.find? key).isSome

/-- The number of entries. -/
def size (r : Registry α) : Nat :=
  r.entries.length

/-- Registers an implementation under a key. -/
def register (r : Registry α) (key name : String) (item : α) : Except Error (Registry α) :=
  match r.find? key with
  | some holder => .error (.taken r.kind key name holder.name)
  | none => .ok { r with entries := r.entries ++ [⟨key, name, item⟩] }

/-- The implementation that holds a key. -/
def get (r : Registry α) (key : String) : Except Error (Entry α) :=
  match r.find? key with
  | some entry => .ok entry
  | none => .error (.unknown r.kind key r.keys)

/-- The parameters by which a table and a key are handed to `create`. -/
def reserved : List String := ["self", "key"]

/-- The implementation that holds a key, to be built with parameters of some names. -/
def create (r : Registry α) (key : String) (parameters : List String) : Except Error (Entry α) :=
  match parameters.find? reserved.contains with
  | some p => .error (.reserved p)
  | none => r.get key

end Registry

end FlopCensus
