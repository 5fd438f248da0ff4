import FlopCensus.Design.Width
import FlopCensus.Inventory.Basic

set_option autoImplicit false
set_option relaxedAutoImplicit false

/-!
# Modules and the storage they declare

Two places of a module declare storage: data declarations of kind `reg` or `logic` in its body, and
ports in its header that are outputs of one of these kinds. What a declared element is remains open
here.

## Main definitions

* `FlopCensus.Design.Extraction`: a module with its registers.
* `FlopCensus.Design.Unnamed`: the one error, a module without a name.
* `FlopCensus.Design.extractModule`: the extraction of one module.
* `FlopCensus.Design.extract`: the extractions of all named modules of a tree.
-/

namespace FlopCensus.Design

/-- The tag of module declarations. -/
def moduleDeclaration : String := "kModuleDeclaration"

/-- The tag of module headers. -/
def moduleHeader : String := "kModuleHeader"

/-- The tag of data declarations. -/
def dataDeclaration : String := "kDataDeclaration"

/-- The tag of ports declared in a header. -/
def portDeclaration : String := "kPortDeclaration"

/-- The tag of a declared variable. -/
def registerVariable : String := "kRegisterVariable"

/-- The tag of identifiers. -/
def identifier : String := "SymbolIdentifier"

/-- The words that name a kind of storage or net. -/
def storageKinds : List String := ["wire", "reg", "logic"]

/-- The kinds that store a value. -/
def registerKinds : List String := ["reg", "logic"]

/-- The words that name the direction of a port. -/
def portDirections : List String := ["input", "output", "inout"]

/-- A module, its subtree, and the registers declared in it. -/
structure Extraction where
  /-- The summary of the module. -/
  summary : ModuleSummary
  /-- The subtree of the module. -/
  node : Node
  /-- The registers, those of the body before those of the header. -/
  registers : List Register

/-- A module header without an identifier. -/
inductive Unnamed where
  | unnamed
deriving Repr, DecidableEq

/-- The wording of the error. -/
def Unnamed.message : Unnamed → String
  | .unnamed => "module header has no identifier"

/-- The token is an identifier. -/
def isIdentifier (l : Leaf) : Bool :=
  l.tag == identifier

/-- The name of a module: the first identifier of its header. -/
def moduleName? (module : Node) : Option String := do
  let header ← module.firstTagged? moduleHeader
  -- the keyword is no name, whatever its tag is
  let name ← header.leaves.find? fun l => isIdentifier l && l.text != "module"
  return name.text

/-- Where an extraction takes place. -/
structure Place where
  /-- The bytes of the file. -/
  source : List UInt8
  /-- The path of the file. -/
  file : String
  /-- The name of the module. -/
  module : String

/-- The register that an identifier declares. -/
def Place.register (p : Place) (width : Nat) (name : Leaf) : Register where
  name := name.text
  width := width
  line := lineAt p.source name.start
  module := p.module
  file := p.file

/-- The kind of a data declaration: its first keyword of storage. -/
def declaredKind (declaration : Node) : String :=
  match declaration.leaves.find? fun l => storageKinds.contains l.text with
  | some l => l.text
  | none => "wire"

/-- The identifiers that a data declaration declares, one for each variable that has any. -/
def declaredNames (declaration : Node) : List Leaf :=
  (declaration.nodesTagged registerVariable).filterMap fun v => v.leaves.find? isIdentifier

/-- The registers of a data declaration. -/
def ofData (p : Place) (declaration : Node) : Logged (List Register) :=
  if registerKinds.contains (declaredKind declaration) then do
    let width ← declaredWidth declaration
    return (declaredNames declaration).map (p.register width)
  else return []

/-- A port is an output if the word occurs in it. -/
def isOutput (port : Node) : Bool :=
  port.leaves.any (·.text == "output")

/-- The kind of a port: its last keyword of storage. -/
def portKind (port : Node) : String :=
  match port.leaves.reverse.find? fun l => storageKinds.contains l.text with
  | some l => l.text
  | none => "wire"

/-- The identifiers that a port declares. -/
def portNames (port : Node) : List Leaf :=
  port.leaves.filter fun l => isIdentifier l && !(portDirections ++ storageKinds).contains l.text

/-- The registers of a port. -/
def ofPort (p : Place) (port : Node) : Logged (List Register) :=
  if isOutput port && registerKinds.contains (portKind port) then do
    let width ← declaredWidth port
    return (portNames port).map (p.register width)
  else return []

/-- The registers of several declarations, in order. -/
def collect (f : Node → Logged (List Register)) : List Node → Logged (List Register)
  | [] => return []
  | d :: rest => do
    let found ← f d
    return found ++ (← collect f rest)

/-- The ports in the header of a module. -/
def headerPorts (module : Node) : List Node :=
  match module.firstTagged? moduleHeader with
  | none => []
  | some header => header.nodesTagged portDeclaration

/-- The line where a module starts. -/
def startLine (source : List UInt8) (module : Node) : Nat :=
  match module.leaves.head? with
  | some l => lineAt source l.start
  | none => 1

/-- The extraction of one module. -/
def extractModule (module : Node) (source : List UInt8) (file : String) :
    Logged (Except Unnamed Extraction) :=
  match moduleName? module with
  | none => return .error .unnamed
  | some name => do
    let p : Place := ⟨source, file, name⟩
    let data ← collect (ofData p) (module.nodesTagged dataDeclaration)
    let ports ← collect (ofPort p) (headerPorts module)
    let registers := data ++ ports
    return .ok {
      summary := { name, file, line := startLine source module, registerCount := registers.length }
      node := module
      registers }

/-- The extractions of some modules; those without a name are passed over. -/
def extractAll (source : List UInt8) (file : String) : List Node → Logged (List Extraction)
  | [] => return []
  | m :: rest => do
    match ← extractModule m source file with
    | .ok e => return e :: (← extractAll source file rest)
    | .error e =>
      Logged.tell .debug .extraction ("Skipping module in " ++ file ++ ": " ++ e.message)
      extractAll source file rest

/-- The extractions of all named modules of a tree, in document order. -/
def extract (tree : Node) (source : List UInt8) (file : String) : Logged (List Extraction) :=
  extractAll source file (tree.nodesTagged moduleDeclaration)

end FlopCensus.Design
