/-
# Rollout.Config.Loading — configurations from documents, texts and files

In a document the settings, the networks by name, and the directory with the artifacts stand in
three tables.  Reading is the same for TOML and for the JSON that is written here.

Variables are replaced in the text before it is read as TOML.  A configuration in a file gets its
variables from a file of definitions too, and a relative directory of build outputs is meant
from where the configuration stands.
-/
import Rollout.Artifact
import Rollout.Config.Basic
import Rollout.Environment.Basic
import Rollout.Environment.Dotenv
import Rollout.Files
import Rollout.Toml.Reader

set_option autoImplicit false

namespace Rollout.Config

open Document

/-! ## Documents -/

structure Settings where
  defaultNetwork : Option String := none
  output : Option String := none

def Settings.layout : Layout Settings where
  label := "DeploymentSettings"
  fields := [.nullable "default_network", .nullable "output"]
  put d name v :=
    match name with
    | "default_network" => (readOption readText v).map fun a => { d with defaultNetwork := a }
    | _ => (readOption readPath v).map fun a => { d with output := a }

structure Deployables where
  directory : String := defaultDirectory
  artifacts : List Artifact := []

def Deployables.layout (format : Format) : Layout Deployables where
  label := "ArtifactsConfig"
  fields := [.optional "directory", .optional "deploy"]
  put d name v :=
    match name with
    | "directory" => (readPath v).map fun a => { d with directory := a }
    | _ => (readList (Artifact.read format) v).map fun a => { d with artifacts := a }

structure Draft where
  settings : Settings := {}
  networks : Networks := .empty
  deployables : Deployables := {}

def layout (format : Format) : Layout Draft where
  label := "Config"
  fields := [.optional "deployment", .required "networks", .required "artifacts"]
  put d name v :=
    match name with
    | "deployment" => (Settings.layout.read format {} v).map fun a => { d with settings := a }
    | "networks" => (Networks.read format v).map fun a => { d with networks := a }
    | _ => ((Deployables.layout format).read format {} v).map fun a =>
        { d with deployables := a }

def read (format : Format) : Reader Config := fun v => do
  let d ← (layout format).read format {} v
  return ⟨d.settings.defaultNetwork, d.settings.output, d.networks, d.deployables.directory,
    d.deployables.artifacts⟩

def optionalText (s : Option String) : Value := s.elim .null .text

def document (c : Config) : Value :=
  .table [
    ("deployment", .table [("default_network", optionalText c.defaultNetwork),
      ("output", optionalText c.output)]),
    ("networks", c.networks.document),
    ("artifacts", .table [("directory", .text c.directory),
      ("deploy", .list (c.artifacts.map Artifact.document))])]

/-! ## Texts -/

inductive Fault where
  | unreadable (why : Files.Refusal)
  /-- The text is not TOML. -/
  | malformed
  | unfit (fault : Document.Fault)
  | invalid (complaint : Complaint)

def Fault.message : Fault → String
  | .unreadable why => "IO error: " ++ why.message
  | .malformed => "Configuration error: not a TOML document"
  | .unfit fault => "Configuration error: " ++ fault.message .toml
  | .invalid complaint => "Validation error: " ++ complaint.message

/-- Replaces the variables in a text, which must not be too large. -/
def resolve (env : Environment) (text : String) : Except Complaint String :=
  if sizeLimit < text.utf8ByteSize then .error (.tooLarge text.utf8ByteSize)
  else match env.replaceVariables text.toList with
    | .ok cs => .ok (String.ofList cs)
    | .error name => .error (.unsetVariable name)

def ofText (env : Environment) (text : String) : Except Fault Config := do
  let resolved ← (resolve env text).mapError .invalid
  match Toml.read? resolved with
  | none => throw .malformed
  | some v =>
      let c ← (Config.read .toml v).mapError .unfit
      c.check.mapError .invalid
      return c

/-! ## Files -/

/-- The file that holds definitions of variables. -/
def definitionsPath : String := ".env"

/-- The environment with what the file of definitions adds. -/
def environment (files : Files) (env : Environment) : Environment :=
  match files.look definitionsPath with
  | .file content => Environment.Dotenv.load env content
  | _ => env

/-- The parts of a path without those at its end that name nothing: empty ones and,
behind another part, a dot. -/
def trimParts (reversed : List String) : List String :=
  match reversed with
  | "" :: part :: rest => trimParts (part :: rest)
  | "." :: part :: rest => trimParts (part :: rest)
  | parts => parts

/-- The directory that a path leads to, before its last part. -/
def parent (path : String) : String :=
  match trimParts (path.splitOn "/").reverse with
  | [] => ""
  | [""] => "."
  | [_] => ""
  | _ :: rest =>
      match trimParts rest with
      | [""] => "/"
      | parts => "/".intercalate parts.reverse

def ofFile (files : Files) (env : Environment) (path : String) : Except Fault Config := do
  let text ← (files.readText path).mapError .unreadable
  let c ← ofText (environment files env) text
  return { c with directory := Files.join (parent path) c.directory }

end Rollout.Config
