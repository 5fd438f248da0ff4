import FlopCensus.Dump.Assembly
import FlopCensus.Files.Document

set_option autoImplicit false
set_option relaxedAutoImplicit false

/-!
# Tree dumps in files

## Main definitions

* `FlopCensus.Dump.parseFile`: the tree of the dump in a file.
-/

namespace FlopCensus.Dump

/-- Why there is no tree. -/
inductive FileError where
  /-- The file holds no text. -/
  | text (e : Files.TextError)
  /-- The text is no dump. -/
  | dump (e : Error)
deriving Repr, DecidableEq

/-- The tree of the dump in the file at a path. -/
def parseFile (fs : FileSystem) (path : String) : Except FileError Node := do
  let text ← (fs.readText path).mapError .text
  (parseStandard (String.ofList text)).mapError .dump

end FlopCensus.Dump
