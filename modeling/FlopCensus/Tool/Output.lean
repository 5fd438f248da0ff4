set_option autoImplicit false
set_option relaxedAutoImplicit false

/-!
# Output of a tool run

## Main definitions

* `FlopCensus.ToolOutput`: exit status and output streams.
-/

namespace FlopCensus

/-- The exit status and the output streams of one run of a tool. -/
structure ToolOutput where
  /-- The exit status; the negated signal number for a run ended by a signal. -/
  exitCode : Int
  /-- What was written to the output stream. -/
  stdout : String
  /-- What was written to the error stream. -/
  stderr : String
deriving Repr, DecidableEq

/-- The run succeeded. -/
def ToolOutput.ok (o : ToolOutput) : Bool :=
  o.exitCode == 0

end FlopCensus
