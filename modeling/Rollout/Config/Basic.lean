/-
# Rollout.Config.Basic — what a deployment is configured with

A configuration names the networks to deploy to and the artifacts to deploy.  The
first thing that is wrong with one is found in a fixed order: the networks, one
after another by name, then the default network, then the names of the artifacts,
and last what they depend on.
-/
import Rollout.Artifact
import Rollout.Network
import Rollout.Text.Basic

namespace Rollout

set_option autoImplicit false

/-- Where build outputs are looked for unless the configuration says otherwise. -/
def defaultDirectory : String := "build/contracts"

/-- What a deployment is configured with. -/
structure Config where
  /-- The network to deploy to when none is asked for. -/
  defaultNetwork : Option String := none
  /-- The file that the report is written to. -/
  output : Option String := none
  networks : Networks
  /-- Where build outputs are. -/
  directory : String := defaultDirectory
  /-- The artifacts in the order of their declaration. -/
  artifacts : List Artifact := []

namespace Config

/-- What is wrong with a configuration that is well-formed. -/
inductive Complaint where
  | tooLarge (size : Nat)
  | unsetVariable (name : String)
  | noNetwork
  | connection (network : String) (fault : Network.ConnectionError)
  | confirmations (network : String)
  | timeout (network : String)
  | unknownDefault (network : String)
  | noArtifact
  | blankName
  | duplicate (artifact : String)
  | unknownLibrary (artifact library : String)
  | notALibrary (artifact library : String)
  | unknownReference (artifact reference : String)
  deriving DecidableEq, Repr

def sizeLimit : Nat := 1024 * 1024

def Complaint.message : Complaint → String
  | .tooLarge size => s!"Configuration file too large: {size} bytes (max: {sizeLimit} bytes)"
  | .unsetVariable name => s!"Environment variable '{name}' not found"
  | .noNetwork => "At least one network must be configured"
  | .connection network fault => s!"Network '{network}': {fault.message}"
  | .confirmations network => s!"Network '{network}': confirmations must be between 1 and 100"
  | .timeout network =>
      s!"Network '{network}': receipt_timeout_seconds must be greater than 0"
  | .unknownDefault network => s!"Default network '{network}' is not configured"
  | .noArtifact => "At least one artifact must be declared"
  | .blankName => "Artifact name cannot be empty"
  | .duplicate artifact => s!"Artifact '{artifact}' is declared more than once"
  | .unknownLibrary artifact library =>
      s!"Artifact '{artifact}' links unknown library '{library}'"
  | .notALibrary artifact library =>
      s!"Artifact '{artifact}' links '{library}', which is not a library"
  | .unknownReference artifact reference =>
      s!"Artifact '{artifact}' references unknown artifact '{reference}'"

/-! ## Networks -/

/-- A network has to be reached in one way, and to wait for a sensible confirmation. -/
def checkNetwork (name : String) (n : Network) : Except Complaint Unit :=
  match n.connection with
  | .error fault => .error (.connection name fault)
  | .ok _ =>
      if n.confirmations < 1 ∨ 100 < n.confirmations then .error (.confirmations name)
      else if n.timeout = 0 then .error (.timeout name)
      else .ok ()

def checkDefault (c : Config) : Except Complaint Unit :=
  match c.defaultNetwork with
  | none => .ok ()
  | some name =>
      if (c.networks.find? name).isSome then .ok () else .error (.unknownDefault name)

/-! ## Artifacts -/

def isBlankName (name : String) : Bool := (Text.trim name.toList).isEmpty

def checkNames (seen : List String) : List String → Except Complaint Unit
  | [] => .ok ()
  | name :: rest =>
      if isBlankName name then .error .blankName
      else if name ∈ seen then .error (.duplicate name)
      else checkNames (name :: seen) rest

/-- The first library of an artifact that is not declared, or not as a library. -/
def wrongLibrary? (artifacts : List Artifact) (a : Artifact) : Option Complaint :=
  a.libraries.findSome? fun library =>
    match artifacts.find? fun other => other.name == library with
    | none => some (.unknownLibrary a.name library)
    | some target => if target.kind = .library then none else some (.notALibrary a.name library)

/-- The first artifact that is referred to and not declared. -/
def wrongReference? (artifacts : List Artifact) (a : Artifact) : Option Complaint :=
  (a.references.find? fun name => name ∉ artifacts.map (·.name)).map
    (.unknownReference a.name)

def checkArtifacts (artifacts : List Artifact) : Except Complaint Unit := do
  if artifacts.isEmpty then throw .noArtifact
  checkNames [] (artifacts.map (·.name))
  match artifacts.findSome? fun a => (wrongLibrary? artifacts a).or (wrongReference? artifacts a) with
  | some complaint => throw complaint
  | none => return ()

def check (c : Config) : Except Complaint Unit := do
  if c.networks.isEmpty then throw .noNetwork
  c.networks.entries.forM fun (name, n) => checkNetwork name n
  c.checkDefault
  checkArtifacts c.artifacts

end Config

end Rollout
