/-
# Rollout.Config.Dump — configurations as they are shown while debugging

A dump shows a value with the names of its types and fields.  There are two layouts: on one
line, and with one field or item per line, four spaces for each level and a comma behind each.
A list or map without anything in it stands together in both.

Every part of a configuration is shown with all its fields, but for a key its mark.  How
addresses, numbers of 256 bits and bytes are shown is left open (`Dump.Leaves`).
-/
import Rollout.Config.Basic
import Rollout.Text.Quoted

set_option autoImplicit false

namespace Rollout

/-- What a value consists of. -/
inductive Dump where
  /-- A value of one word. -/
  | leaf (text : String)
  | record (name : String) (fields : List (String × Dump))
  /-- A variant that holds a value. -/
  | variant (name : String) (payload : Dump)
  | list (items : List Dump)
  /-- Values behind their keys, as these are shown. -/
  | map (entries : List (String × Dump))

namespace Dump

inductive Style where
  | compact
  | pretty
  deriving DecidableEq, Repr

/-! ## Values -/

def text (s : String) : Dump := .leaf (Text.Quoted.ofText s)

def nat (n : Nat) : Dump := .leaf (toString n)

def bool (b : Bool) : Dump := .leaf (if b then "true" else "false")

/-- A path; unlike a text it escapes single quotes as well. -/
def path (s : String) : Dump :=
  let escape (c : Char) := Text.Quoted.escape (if c = '\x27' then c else '\x22') c
  .leaf (String.ofList ('\x22' :: s.toList.flatMap escape ++ ['\x22']))

def option {α : Type} (dump : α → Dump) : Option α → Dump
  | none => .leaf "None"
  | some a => .variant "Some" (dump a)

/-! ## Layout -/

def line (level : Nat) : String := "\n" ++ String.ofList (List.replicate (4 * level) ' ')

/-- Pieces between brackets, which a gap keeps apart from them on one line. -/
def enclosed (style : Style) (level : Nat) (first last gap : String) (pieces : List String) :
    String :=
  if pieces.isEmpty then first ++ last
  else match style with
    | .compact => first ++ gap ++ ", ".intercalate pieces ++ gap ++ last
    | .pretty =>
        first ++ String.join (pieces.map fun piece => line (level + 1) ++ piece ++ ",") ++
          line level ++ last

mutual

def shownAt (style : Style) (level : Nat) : Dump → String
  | .leaf text => text
  | .record name fields =>
      name ++ " " ++ enclosed style level "\x7b" "\x7d" " " (shownFields style (level + 1) fields)
  | .variant name payload =>
      name ++ enclosed style level "(" ")" "" [shownAt style (level + 1) payload]
  | .list items => enclosed style level "[" "]" "" (shownItems style (level + 1) items)
  | .map entries => enclosed style level "\x7b" "\x7d" "" (shownFields style (level + 1) entries)

def shownItems (style : Style) (level : Nat) : List Dump → List String
  | [] => []
  | item :: rest => shownAt style level item :: shownItems style level rest

def shownFields (style : Style) (level : Nat) : List (String × Dump) → List String
  | [] => []
  | (name, value) :: rest =>
      (name ++ ": " ++ shownAt style level value) :: shownFields style level rest

end

def shown (style : Style) (dump : Dump) : String := dump.shownAt style 0

end Dump

/-! ## Parts of a configuration -/

/-- How values are shown that others define. -/
structure Dump.Leaves where
  address : Address → String
  word : BitVec 256 → String
  bytes : List UInt8 → String

variable (leaves : Dump.Leaves)

def Secret.dump (s : Secret) : Dump := .leaf s.debugText

/-! ## Networks -/

def SigningProvider.dump (p : SigningProvider) : Dump :=
  .record "SigningProvider" [("url", .text p.url), ("private_key", p.privateKey.dump)]

def Network.Matcher.dump : Network.Matcher → Dump
  | .any => .leaf "Any"
  | .exact id => .variant "Exact" (.nat id.toNat)

def Dump.Leaves.ofAddress (a : Address) : Dump := .leaf (leaves.address a)

def Network.dump (n : Network) : Dump :=
  .record "NetworkConfig" [
    ("host", .option .text n.host),
    ("port", .option (fun p => .nat p.toNat) n.port),
    ("provider", .option SigningProvider.dump n.provider),
    ("network_id", n.matcher.dump),
    ("gas", .option (fun g => .nat g.toNat) n.gas),
    ("gas_price", .option (fun g => .nat g.toNat) n.gasPrice),
    ("from", .option leaves.ofAddress n.sender),
    ("confirmations", .nat n.confirmations.toNat),
    ("receipt_timeout_seconds", .nat n.timeout.toNat)]

def Network.Connection.dump : Network.Connection → Dump
  | .direct url sender =>
      .record "Direct" [("url", .text url), ("from", .option leaves.ofAddress sender)]
  | .signing url key => .record "Signing" [("url", .text url), ("private_key", key.dump)]

def Networks.dump (networks : Networks) : Dump :=
  .map (networks.entries.map fun (name, n) => (Text.Quoted.ofText name, n.dump leaves))

/-! ## Artifacts -/

def Argument.dump : Argument → Dump
  | .address a => .variant "Address" (leaves.ofAddress a)
  | .uint n => .variant "Uint" (.leaf (leaves.word n))
  | .string s => .variant "String" (.text s)
  | .bool b => .variant "Bool" (.bool b)
  | .bytes bs => .variant "Bytes" (.leaf (leaves.bytes bs))
  | .addresses as => .variant "AddressArray" (.list (as.map leaves.ofAddress))
  | .uints ns => .variant "UintArray" (.list (ns.map fun n => .leaf (leaves.word n)))
  | .artifact name => .variant "Artifact" (.text name)

def Kind.dump : Kind → Dump
  | .library => .leaf "Library"
  | .contract => .leaf "Contract"

def Artifact.dump (a : Artifact) : Dump :=
  .record "Artifact" [
    ("name", .text a.name),
    ("kind", a.kind.dump),
    ("artifact", .option .text a.build),
    ("link_name", .option .text a.link),
    ("constructor_args", .list (a.arguments.map (Argument.dump leaves))),
    ("libraries", .list (a.libraries.map .text))]

/-! ## Configurations -/

def Config.dump (c : Config) : Dump :=
  .record "Config" [
    ("deployment", .record "DeploymentSettings" [
      ("default_network", .option .text c.defaultNetwork),
      ("output", .option .path c.output)]),
    ("networks", c.networks.dump leaves),
    ("artifacts", .record "ArtifactsConfig" [
      ("directory", .path c.directory),
      ("deploy", .list (c.artifacts.map (Artifact.dump leaves)))])]

end Rollout
