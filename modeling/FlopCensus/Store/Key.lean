import FlopCensus.Digest.MD5
import FlopCensus.Json.Writer
import FlopCensus.Text.Utf8

set_option autoImplicit false
set_option relaxedAutoImplicit false

/-!
# Keys of stored results

A result is stored under the name of the tool that made it and a digest of the parameters it was
made with. The parameters are written in a form that does not depend on the order of members, and
however deep they are nested, for the depth of the stack is not modelled.

## Main definitions

* `FlopCensus.Store.canonical`: the canonical text of parameters.
* `FlopCensus.Store.keyWith`: the key, given a digest function.
* `FlopCensus.Store.key`: the key with the usual digest.
-/

namespace FlopCensus.Store

/-- The text of parameters, with the members of every object in the order of their names. -/
def canonical (params : Json.Value) : Except Numeral.Error String :=
  Json.write .line params.sorted

/-- The key of a result, given a digest function. -/
def keyWith (digest : List UInt8 → String) (tool : String) (params : Json.Value) :
    Except Numeral.Error String := do
  let text ← canonical params
  return tool ++ ":" ++ digest (Text.utf8Bytes text)

/-- The key of a result. -/
def key (tool : String) (params : Json.Value) : Except Numeral.Error String :=
  keyWith Digest.md5Hex tool params

end FlopCensus.Store
