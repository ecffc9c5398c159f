/-
# Rollout.Run.Payload — what is sent to deploy one artifact, and why a run halts

The payload of an artifact is its linked creation code followed by its encoded constructor
arguments.  Addresses of libraries and of artifacts that arguments refer to are looked up by
name, in a run among the records made so far.

A run halts at the first step that cannot be completed, or before any step when the network is
not the one it was made for.
-/
import Rollout.Artifact
import Rollout.Build
import Rollout.Linker
import Rollout.Report

set_option autoImplicit false

namespace Rollout.Run

/-! ## Faults -/

inductive Rejection where
  | refused (reason : String)
  | reverted (transaction : TxHash) (block : UInt64)
  /-- The receipt names no contract. -/
  | noContract (transaction : TxHash)
  deriving DecidableEq

def Rejection.message : Rejection → String
  | .refused reason => reason
  | .reverted transaction block =>
      "transaction " ++ transaction.text ++ " reverted in block " ++ toString block.toNat
  | .noContract transaction =>
      "receipt for " ++ transaction.text ++ " carries no contract address"

inductive Fault where
  | networkMismatch (expected : Network.Matcher) (actual : UInt64)
  /-- A constructor argument refers to an artifact that is not deployed. -/
  | unresolvedReference (artifact reference : String)
  | build (fault : Build.Fault)
  /-- A library is not deployed, or a placeholder is left. -/
  | missingLink (artifact library : String)
  | link (fault : Linker.Fault)
  | encoding (artifact : String) (fault : Abi.Fault)
  | rejected (artifact : String) (cause : Rejection)
  | timedOut (artifact reason : String)
  | cancelled (artifact : String)
  | delivery (fault : Delivery.Fault)
  deriving DecidableEq

def Fault.message : Fault → String
  | .networkMismatch expected actual =>
      "Connected chain id " ++ toString actual.toNat ++ " does not match network id " ++
        expected.text
  | .unresolvedReference artifact reference =>
      s!"Artifact '{artifact}' references '{reference}', which has not been deployed"
  | .build fault => fault.message
  | .missingLink artifact library =>
      s!"Artifact '{artifact}' is missing a link to library '{library}'"
  | .link fault => fault.message
  | .encoding artifact fault =>
      s!"Failed to encode constructor arguments for '{artifact}': {fault.message}"
  | .rejected artifact cause => s!"Deployment of '{artifact}' was rejected: {cause.message}"
  | .timedOut artifact reason => s!"Deployment of '{artifact}' timed out: {reason}"
  | .cancelled artifact =>
      s!"Deployment of '{artifact}' was cancelled; its outcome is unknown"
  | .delivery fault => fault.message

/-- What a failed call means for the artifact that it was made for. -/
def Fault.ofDelivery (artifact : String) : Delivery.Fault → Fault
  | .rejected reason => .rejected artifact (.refused reason)
  | .timeout reason => .timedOut artifact reason
  | .network reason => .delivery (.network reason)

/-- A run that halted: what was deployed before, and the step that failed, if the
run came to one. -/
structure Halt where
  completed : List Record
  /-- The number and the artifact of the step. -/
  step : Option (Nat × String)
  fault : Fault

/-! ## Payloads -/

/-- The address of the first record of an artifact. -/
def addressOf (records : List Record) (name : String) : Option Address :=
  (records.find? (·.artifact = name)).map (·.address)

/-- The label that placeholders use for a library; the last artifact of a name counts,
and one that is not there goes by its name. -/
def linkNameOf (artifacts : List Artifact) (library : String) : String :=
  match artifacts.reverse.find? (·.name = library) with
  | some a => a.linkName
  | none => library

def arguments (resolve : String → Option Address) (a : Artifact) :
    Except Fault (List Abi.Value) :=
  a.arguments.mapM fun argument =>
    (argument.value resolve).mapError (.unresolvedReference a.name)

def linkLibrary (linkName : String → String) (resolve : String → Option Address) (a : Artifact)
    (l : Linker) (library : String) : Except Fault Linker :=
  match resolve library with
  | some address => .ok (l.link (linkName library) address).1
  | none => .error (.missingLink a.name library)

/-- Links the libraries of an artifact into its bytecode, in order. -/
def linked (linkName : String → String) (resolve : String → Option Address) (a : Artifact)
    (bytecode : String) : Except Fault Linker :=
  a.libraries.foldlM (linkLibrary linkName resolve a) (.ofBytecode bytecode)

/-- The creation code: no placeholder may be left. -/
def creationCode (linkName : String → String) (resolve : String → Option Address) (a : Artifact)
    (bytecode : String) : Except Fault (List UInt8) := do
  let l ← linked linkName resolve a bytecode
  match l.unlinked with
  | label :: _ => throw (.missingLink a.name label)
  | [] => l.bytes.mapError .link

/-- The payload of an artifact.  References are resolved before the build output is
loaded, and the arguments are encoded last. -/
def payload (source : Build.Source) (linkName : String → String)
    (resolve : String → Option Address) (a : Artifact) : Except Fault (List UInt8) := do
  let values ← arguments resolve a
  let compiled ← (source a.buildName).mapError .build
  let code ← creationCode linkName resolve a compiled.bytecode
  let encoded ← (compiled.abi.encode values).mapError (.encoding a.name)
  return code ++ encoded

end Rollout.Run
