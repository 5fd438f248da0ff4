import FlopCensus.Command.Execute
import FlopCensus.Command.Lookup
import FlopCensus.Session

set_option autoImplicit false
set_option relaxedAutoImplicit false

/-!
# Executors

An executor finds commands and runs them. The usual one does so on the host; others may answer in
its place.

## Main definitions

* `FlopCensus.Executor`: an executor.
* `FlopCensus.Executor.ofHost`: the usual one.
-/

namespace FlopCensus

/-- What finds commands and runs them; `ε` is the type of its failures. -/
structure Executor (σ ε : Type) where
  /-- The file of a command, which may also be in one of some further directories. -/
  find : (command : String) → (directories : List String) → Session σ (Option String)
  /-- The output of a command. -/
  run : Command.Call → Trial σ ε ToolOutput

/-- The executor that works on the host. Calls without a limit get the usual one. -/
def Executor.ofHost (σ : Type) (usual : Numeral.Number) : Executor σ Command.Error where
  find command directories := do
    Session.lift ((← Session.host).findCommand command directories)
  run c := ExceptT.mk do
    let (result, host) ← Session.lift ((← Session.host).run c usual)
    modify fun s => { s with host }
    return result

end FlopCensus
