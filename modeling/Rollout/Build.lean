/-
# Rollout.Build — what a compiler produced, and where it comes from

The bytecode of a contract is kept as hex text, because it may still hold placeholders of
libraries.  Interfaces and abstract contracts have none and are refused (`Compiled.make`).

A source finds the build output of a name.  `Source.ofList` holds them in memory.
`Source.ofDirectory` reads the layouts that compilers write: the first that exists of
`name.json`, `name.sol/name.json` and `name.bin` counts, whatever is wrong with it.
-/
import Rollout.Abi.Interface
import Rollout.Files
import Rollout.Hex
import Rollout.Json
import Rollout.Text.Basic

set_option autoImplicit false

namespace Rollout.Build

/-! ## Build outputs -/

/-- Creation code and interface of one contract or library. -/
structure Compiled where
  name : String
  /-- Hex text without marker, possibly with placeholders. -/
  bytecode : String
  abi : Abi.Interface

/-- Why a build output cannot be used. -/
inductive Fault where
  | notFound (name directory : String)
  /-- The file at the path cannot be read, in the words of the system. -/
  | unreadable (path reason : String)
  | notJson (path : String)
  | noBytecode (path : String)
  | badInterface (path : String)
  /-- There is no creation code. -/
  | empty (name : String)
  deriving DecidableEq, Repr

def Fault.message : Fault → String
  | .notFound name directory => s!"Compiled artifact '{name}' not found in {directory}"
  | .unreadable path reason => s!"Failed to read {path}: {reason}"
  | .notJson path => s!"Invalid artifact {path}: not a JSON document"
  | .noBytecode path => s!"Invalid artifact {path}: no bytecode found"
  | .badInterface path => s!"Invalid artifact {path}: not a contract interface"
  | .empty name => s!"Compiled artifact '{name}' has no creation bytecode"

/-- Takes bytecode without blanks at its ends and without its marker. -/
def Compiled.make (name bytecode : String) (abi : Abi.Interface) : Except Fault Compiled :=
  match Hex.withoutMarker (Text.trim bytecode.toList) with
  | [] => .error (.empty name)
  | code => .ok ⟨name, String.ofList code, abi⟩

/-! ## Sources -/

abbrev Source := String → Except Fault Compiled

namespace Source

/-! ## In memory -/

/-- The build outputs of a list; of two with one name the later counts. -/
def ofList (outputs : List Compiled) : Source := fun name =>
  match outputs.reverse.find? (·.name = name) with
  | some output => .ok output
  | none => .error (.notFound name "memory")

/-! ## In files -/

/-- The places where the JSON output of a name may stand, first to last. -/
def jsonPaths (directory name : String) : List String :=
  [Files.join directory (name ++ ".json"),
    Files.join (Files.join directory (name ++ ".sol")) (name ++ ".json")]

def binPath (directory name : String) : String := Files.join directory (name ++ ".bin")

def abiPath (directory name : String) : String := Files.join directory (name ++ ".abi")

/-- The bytecode in JSON output: a text, or an object that holds it, or deeper in the
compiler's own output. -/
def bytecode? (v : Document.Value) : Option String :=
  match v.field? "bytecode" with
  | some (.text code) => some code
  | some v => (v.field? "object").bind Document.Value.text?
  | none => do
      let v ← (← v.field? "evm").field? "bytecode"
      (← v.field? "object").text?

def read (files : Files) (path : String) : Except Fault String :=
  (files.readText path).mapError fun why => .unreadable path why.message

def interface (path : String) (v : Document.Value) : Except Fault Abi.Interface :=
  match Abi.Interface.read? v with
  | some abi => .ok abi
  | none => .error (.badInterface path)

def parsed (path : String) : Option Document.Value → Except Fault Document.Value
  | some v => .ok v
  | none => .error (.notJson path)

/-- Reads JSON output; without the field `abi` the interface is empty. -/
def loadJson (files : Files) (name path : String) : Except Fault Compiled := do
  let v ← parsed path (Json.read? (← read files path))
  match bytecode? v with
  | none => throw (.noBytecode path)
  | some code =>
      let abi ← match v.field? "abi" with
        | some abi => interface path abi
        | none => .ok .empty
      Compiled.make name code abi

/-- Reads an interface that stands alone, where no field may be given twice. -/
def loadAbi (files : Files) (path : String) : Except Fault Abi.Interface := do
  interface path (← parsed path (Json.readAsWritten? (← read files path)))

/-- Reads plain bytecode and the interface beside it, if there is one. -/
def loadBin (files : Files) (directory name : String) : Except Fault Compiled := do
  let code ← read files (binPath directory name)
  let path := abiPath directory name
  let abi ← if files.holds path then loadAbi files path else .ok .empty
  Compiled.make name code abi

def ofDirectory (files : Files) (directory : String) : Source := fun name =>
  match (jsonPaths directory name).find? files.holds with
  | some path => loadJson files name path
  | none =>
      if files.holds (binPath directory name) then loadBin files directory name
      else .error (.notFound name directory)

def paths (directory name : String) : List String :=
  jsonPaths directory name ++ [binPath directory name, abiPath directory name]

end Source

end Rollout.Build
