/-
# Rollout.Artifact — what is deployed, and what it depends on

An artifact is a library or a contract.  It depends on the libraries that its bytecode links and
on the artifacts whose addresses its constructor takes; those are the edges of the deployment
graph.

In documents an argument is a table with one field, named for its kind.  Numbers of 256 bits are
written as hex without leading zeros.
-/
import Rollout.Abi.Value
import Rollout.Distinct
import Rollout.Network
import Rollout.Octets

set_option autoImplicit false

namespace Rollout

/-- A constructor argument: a literal, or the address of another artifact. -/
inductive Argument where
  | address (a : Address)
  | uint (n : BitVec 256)
  | string (s : String)
  | bool (b : Bool)
  | bytes (bs : List UInt8)
  | addresses (as : List Address)
  | uints (ns : List (BitVec 256))
  /-- The address of the artifact with this name, once it is deployed. -/
  | artifact (name : String)
  deriving DecidableEq

namespace Argument

def reference? : Argument → Option String
  | .artifact name => some name
  | _ => none

/-- The value that is encoded, or the name that `resolve` has no address for. -/
def value (resolve : String → Option Address) : Argument → Except String Abi.Value
  | .address a => .ok (.word (.address a))
  | .uint n => .ok (.word (.uint n))
  | .string s => .ok (.string s)
  | .bool b => .ok (.word (.bool b))
  | .bytes bs => .ok (.bytes bs)
  | .addresses as => .ok (.list (as.map .address))
  | .uints ns => .ok (.list (ns.map .uint))
  | .artifact name =>
      match resolve name with
      | some a => .ok (.word (.address a))
      | none => .error name

end Argument

/-- Whether an artifact is linked into others or stands on its own. -/
inductive Kind where
  | library
  | contract
  deriving DecidableEq, Repr

def Kind.text : Kind → String
  | .library => "library"
  | .contract => "contract"

/-- A node of the deployment graph. -/
structure Artifact where
  name : String
  kind : Kind := .contract
  /-- The build output to deploy, when it is not called like the artifact. -/
  build : Option String := none
  /-- The label of this library in the placeholders of others, likewise. -/
  link : Option String := none
  arguments : List Argument := []
  /-- The libraries that the bytecode links. -/
  libraries : List String := []
  deriving DecidableEq

namespace Artifact

/-- The build output that holds the bytecode. -/
def buildName (a : Artifact) : String := a.build.getD a.name

/-- The label that placeholders use for this library. -/
def linkName (a : Artifact) : String := a.link.getD a.name

def isLibrary (a : Artifact) : Bool := a.kind = .library

/-- The artifacts that constructor arguments refer to, in order. -/
def references (a : Artifact) : List String :=
  a.arguments.filterMap Argument.reference?

/-- The artifacts that have to be deployed before: libraries, then references,
each once, where it is met first. -/
def dependencies (a : Artifact) : List String :=
  distinct (a.libraries ++ a.references)

/-! ## Building -/

def library (name : String) : Artifact := { name := name, kind := .library }

def contract (name : String) : Artifact := { name := name }

def withArgument (a : Artifact) (argument : Argument) : Artifact :=
  { a with arguments := a.arguments ++ [argument] }

def linking (a : Artifact) (library : String) : Artifact :=
  { a with libraries := a.libraries ++ [library] }

def fromBuild (a : Artifact) (build : String) : Artifact :=
  { a with build := some build }

def withLinkName (a : Artifact) (link : String) : Artifact :=
  { a with link := some link }

end Artifact

/-! ## Documents -/

open Document

namespace Argument

def kinds : List String :=
  ["address", "uint", "string", "bool", "bytes", "address_array", "uint_array", "artifact"]

def readAs (format : Format) (kind : String) (v : Value) : Except Document.Fault Argument :=
  match kind with
  | "address" => (readOctets format 20 v).map .address
  | "uint" => (readWord format v).map .uint
  | "string" => (readText v).map .string
  | "bool" => (readBool v).map .bool
  | "bytes" => (readBytes v).map .bytes
  | "address_array" => (readList (readOctets format 20) v).map .addresses
  | "uint_array" => (readList (readWord format) v).map .uints
  | "artifact" => (readText v).map .artifact
  | _ => .error (.unknownVariant kind kinds)

def read (format : Format) : Reader Argument := fun v => do
  match ← readVariant format v with
  | (kind, some payload) => readAs format kind payload
  | (kind, none) =>
      if kinds.contains kind then .error (.wrongType .bareVariant "newtype variant")
      else .error (.unknownVariant kind kinds)

/-- A number of 256 bits as hex without leading zeros. -/
def wordText (n : BitVec 256) : String :=
  "0x" ++ String.ofList (Nat.toDigits 16 n.toNat)

def document : Argument → Value
  | .address a => .table [("address", .text a.text)]
  | .uint n => .table [("uint", .text (wordText n))]
  | .string s => .table [("string", .text s)]
  | .bool b => .table [("bool", .bool b)]
  | .bytes bs => .table [("bytes", .text (Hex.prefixed bs))]
  | .addresses as => .table [("address_array", .list (as.map fun a => .text a.text))]
  | .uints ns => .table [("uint_array", .list (ns.map fun n => .text (wordText n)))]
  | .artifact name => .table [("artifact", .text name)]

end Argument

namespace Kind

/-- The value beside the name of a kind has to be empty. -/
def checkBare (format : Format) (payload : Value) : Except Document.Fault Unit :=
  match format with
  | .json => match payload with
      | .null => .ok ()
      | v => .error (.wrongType v.shape "unit")
  | .toml => match payload with
      | .list [] => .ok ()
      | .table [] => .ok ()
      | .list _ => .error (.other "expected empty table")
      | .tables _ => .error (.other "expected empty array")
      | .table _ => .error (.other "expected empty table")
      | .text _ => .error (.other "expected table, found string")
      | .int _ => .error (.other "expected table, found integer")
      | .float _ => .error (.other "expected table, found float")
      | .bool _ => .error (.other "expected table, found boolean")
      | .date _ => .error (.other "expected table, found datetime")
      | .null => .ok ()

def read (format : Format) : Reader Kind := fun v => do
  let (name, payload) ← readVariant format v
  let kind ← match name with
    | "library" => .ok Kind.library
    | "contract" => .ok Kind.contract
    | _ => .error (.unknownVariant name ["library", "contract"])
  match payload with
  | some v => checkBare format v
  | none => .ok ()
  return kind

end Kind

namespace Artifact

structure Draft where
  name : Option String := none
  kind : Kind := .contract
  build : Option String := none
  link : Option String := none
  arguments : List Argument := []
  libraries : List String := []

def layout (format : Format) : Layout Draft where
  label := "Artifact"
  fields := [.required "name", .optional "kind", .optional "artifact", .optional "link_name",
    .optional "args", .optional "libraries"]
  put d name v :=
    match name with
    | "name" => (readText v).map fun a => { d with name := some a }
    | "kind" => (Kind.read format v).map fun a => { d with kind := a }
    | "artifact" => (readOption readText v).map fun a => { d with build := a }
    | "link_name" => (readOption readText v).map fun a => { d with link := a }
    | "args" => (readList (Argument.read format) v).map fun a => { d with arguments := a }
    | _ => (readList readText v).map fun a => { d with libraries := a }

def read (format : Format) : Reader Artifact := fun v => do
  let d ← (layout format).read format {} v
  return ⟨d.name.getD "", d.kind, d.build, d.link, d.arguments, d.libraries⟩

def document (a : Artifact) : Value :=
  .table ([("name", .text a.name), ("kind", .text a.kind.text)] ++
    optionalField "artifact" .text a.build ++
    optionalField "link_name" .text a.link ++
    [("args", .list (a.arguments.map Argument.document)),
      ("libraries", .list (a.libraries.map .text))])

end Artifact

end Rollout
