import FlopCensus.Files.Basic
import FlopCensus.Text.Lines

set_option autoImplicit false
set_option relaxedAutoImplicit false

/-!
# Text documents

A document is a file that holds text in UTF-8. Reading it writes every line end as a line feed.

## Main definitions

* `FlopCensus.Files.textOf?`: the text that some bytes hold.
* `FlopCensus.FileSystem.readText`: the text of the document at a path.
-/

namespace FlopCensus

namespace Files

/-- Why the text of a document cannot be had. -/
inductive TextError where
  /-- The file cannot be read. -/
  | file (e : Error)
  /-- The bytes are no text. -/
  | undecodable
deriving Repr, DecidableEq

/-- The text that some bytes hold, if they hold text. -/
def textOf? (bytes : List UInt8) : Option (List Char) :=
  (Text.decodeStrict bytes).map Text.unifyNewlines

end Files

/-- The text of the document at a path. -/
def FileSystem.readText (fs : FileSystem) (path : String) :
    Except Files.TextError (List Char) := do
  match Files.textOf? (← (fs.read path).mapError .file) with
  | some text => return text
  | none => throw .undecodable

end FlopCensus
