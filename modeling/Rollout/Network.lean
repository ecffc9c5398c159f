/-
# Rollout.Network — networks and how they are reached

A network names the chain id that its node has to report, or accepts any (`Network.Matcher`);
in documents the matcher is a number, the text of a number, or `"*"`.

A network is reached in one of two ways: directly, through the host and port of a node that
holds unlocked accounts, or through a provider at a URL to which locally signed transactions
are relayed.  `Network.connection` decides which, and refuses settings that name both, neither,
or half of the first.  The key of a provider is a `Secret`: it is written as a fixed mark
wherever it would be shown, and only `expose` gives the text back.

In documents, writing leaves unset options out and shows the mark in place of a key.  Reading
takes the fields in any order and fills in what is left out.  Of a table of networks one is
selected by its exact name (`Networks.select`).
-/
import Rollout.Catalog
import Rollout.Document
import Rollout.Number.Decimal

set_option autoImplicit false

namespace Rollout

open Document

/-! ## Matchers -/

namespace Network

/-- The chain ids that a network accepts. -/
inductive Matcher where
  | any
  | exact (id : UInt64)
  deriving DecidableEq, Repr

namespace Matcher

instance : Inhabited Matcher := ⟨any⟩

def accepts : Matcher → UInt64 → Bool
  | any, _ => true
  | exact id, chain => id == chain

def text : Matcher → String
  | any => "*"
  | exact id => toString id.toNat

def document : Matcher → Value
  | any => .text "*"
  | exact id => .nat id.toNat

def ofText (s : String) : Except Document.Fault Matcher :=
  if s = "*" then .ok any
  else match Number.readBelow Number.limit64 s.toList with
    | .ok n => .ok (exact (.ofNat n))
    | .error fault => .error (.other s!"invalid chain id '{s}': {fault.message}")

def read : Reader Matcher
  | .text s => ofText s
  | .int n =>
      if 0 ≤ n then .ok (exact (.ofNat n.toNat)) else .error (.other s!"negative chain id: {n}")
  | v => .error (.wrongType v.shape "a chain id or \"*\"")

end Matcher

end Network

/-! ## Secrets -/

/-- A text that must not be shown. -/
structure Secret where
  ofText ::
  /-- The text itself, for those who use it. -/
  expose : String
  deriving DecidableEq

namespace Secret

/-- What stands in place of every secret. -/
def mark : String := "[REDACTED]"

def shown (_ : Secret) : String := mark

def debugText (_ : Secret) : String := "SecretString(" ++ mark ++ ")"

def document (s : Secret) : Value := .text s.shown

def read : Reader Secret := fun v => (readText v).map .ofText

end Secret

/-! ## Networks -/

/-- A relay for transactions that are signed with the key. -/
structure SigningProvider where
  url : String
  privateKey : Secret
  deriving DecidableEq

structure Network where
  host : Option String := none
  port : Option UInt16 := none
  provider : Option SigningProvider := none
  matcher : Network.Matcher := .any
  /-- The gas limit of every transaction; estimated when unset. -/
  gas : Option UInt64 := none
  /-- The gas price; left to the node when unset. -/
  gasPrice : Option UInt64 := none
  /-- The account that sends on a direct connection. -/
  sender : Option Address := none
  /-- How many confirmations a deployment needs. -/
  confirmations : UInt64 := 1
  /-- How long to wait for a confirmation, in seconds. -/
  timeout : UInt64 := 120
  deriving DecidableEq

namespace Network

/-- A network reached at a host and port, on any chain. -/
def direct (host : String) (port : UInt16) : Network :=
  { host := some host, port := some port }

/-- A network reached through a provider, on any chain. -/
def signing (url : String) (key : Secret) : Network :=
  { provider := some ⟨url, key⟩ }

/-! ## Connections -/

/-- How a network is reached. -/
inductive Connection where
  /-- The node at the URL sends from one of its own accounts. -/
  | direct (url : String) (sender : Option Address)
  /-- Transactions are signed here and relayed through the URL. -/
  | signing (url : String) (key : Secret)
  deriving DecidableEq

inductive ConnectionError where
  | ambiguous
  | missing
  | incompleteHost
  deriving DecidableEq, Repr

def ConnectionError.message : ConnectionError → String
  | .ambiguous => "host/port and provider are mutually exclusive"
  | .missing => "either host and port or a provider must be set"
  | .incompleteHost => "host and port must be set together"

/-- The URL of a host and port; a host may bring its scheme along. -/
def directUrl (host : String) (port : UInt16) : String :=
  let place := host ++ ":" ++ toString port.toNat
  if "http://".toList.isPrefixOf host.toList || "https://".toList.isPrefixOf host.toList then place
  else "http://" ++ place

def connection (n : Network) : Except ConnectionError Connection :=
  match n.host, n.port, n.provider with
  | some host, some port, none => .ok (.direct (directUrl host port) n.sender)
  | none, none, some p => .ok (.signing p.url p.privateKey)
  | none, none, none => .error .missing
  | _, _, some _ => .error .ambiguous
  | _, _, none => .error .incompleteHost

def Connection.url : Connection → String
  | .direct url _ => url
  | .signing url _ => url

def rpcUrl (n : Network) : Except ConnectionError String :=
  n.connection.map (·.url)

end Network

/-! ## Documents -/

/-- A field that is written only when it is set. -/
def optionalField {α : Type} (name : String) (write : α → Value) (a : Option α) :
    List (String × Value) :=
  match a with
  | some a => [(name, write a)]
  | none => []

namespace SigningProvider

structure Draft where
  url : Option String := none
  privateKey : Option Secret := none

def layout : Layout Draft where
  label := "SigningProvider"
  fields := [.required "url", .required "private_key"]
  put d name v :=
    match name with
    | "url" => (readText v).map fun a => { d with url := some a }
    | _ => (Secret.read v).map fun a => { d with privateKey := some a }

def read (format : Format) : Reader SigningProvider := fun v => do
  let d ← layout.read format {} v
  return ⟨d.url.getD "", d.privateKey.getD (.ofText "")⟩

def document (p : SigningProvider) : Value :=
  .table [("url", .text p.url), ("private_key", p.privateKey.document)]

end SigningProvider

namespace Network

def layout (format : Format) : Layout Network where
  label := "NetworkConfig"
  fields := ["host", "port", "provider", "network_id", "gas", "gas_price", "from",
    "confirmations", "receipt_timeout_seconds"].map .optional
  put n name v :=
    match name with
    | "host" => (readOption readText v).map fun a => { n with host := a }
    | "port" => (readOption readUInt16 v).map fun a => { n with port := a }
    | "provider" =>
        (readOption (SigningProvider.read format) v).map fun a => { n with provider := a }
    | "network_id" => (Matcher.read v).map fun a => { n with matcher := a }
    | "gas" => (readOption readUInt64 v).map fun a => { n with gas := a }
    | "gas_price" => (readOption readUInt64 v).map fun a => { n with gasPrice := a }
    | "from" => (readOption (readOctets format 20) v).map fun a => { n with sender := a }
    | "confirmations" => (readUInt64 v).map fun a => { n with confirmations := a }
    | _ => (readUInt64 v).map fun a => { n with timeout := a }

def read (format : Format) : Reader Network := (layout format).read format {}

def document (n : Network) : Value :=
  .table (optionalField "host" .text n.host ++
    optionalField "port" (fun p => .nat p.toNat) n.port ++
    optionalField "provider" SigningProvider.document n.provider ++
    [("network_id", n.matcher.document)] ++
    optionalField "gas" (fun g => .nat g.toNat) n.gas ++
    optionalField "gas_price" (fun g => .nat g.toNat) n.gasPrice ++
    optionalField "from" (fun a => .text a.text) n.sender ++
    [("confirmations", .nat n.confirmations.toNat),
      ("receipt_timeout_seconds", .nat n.timeout.toNat)])

end Network

/-! ## Networks by name -/

abbrev Networks := Catalog Network

namespace Networks

inductive Fault where
  | unknown (name : String)
  deriving DecidableEq, Repr

def Fault.message : Fault → String
  | .unknown name => s!"Unknown network '{name}'"

def select (networks : Networks) (name : String) : Except Fault Network :=
  match networks.find? name with
  | some network => .ok network
  | none => .error (.unknown name)

/-- Reads a table of networks; of two with one name the later counts. -/
def read (format : Format) : Reader Networks := fun v =>
  (readFields (Network.read format) v).map Catalog.ofList

def document (networks : Networks) : Value :=
  .table (networks.entries.map fun (name, network) => (name, network.document))

end Networks

end Rollout
