/-
# Rollout.Node.Client — deploying through a node

A node answers five requests (`Peer`).  Between requests it is in a state of its own, which
every request may change.  A request fails when the node answers with an error, or when it
cannot be reached at all.

A client knows how a network is reached and what its transactions are to cost.  It turns the
calls of a run into requests to a node.  Without a key the node signs, for the account that is
set or for the first of its own.

Waiting for a confirmation is simplified.  A transaction is looked up at fixed intervals until
it is mined, as often as the time allows, and the confirmations that a network asks for beyond
the first are left out: a node here answers requests and does not tell of new blocks.
-/
import Rollout.Delivery
import Rollout.Node.Signer
import Rollout.Node.Url

set_option autoImplicit false

namespace Rollout.Node

/-! ## Nodes -/

structure Transaction where
  sender : Address
  /-- Whether it is signed here; otherwise the node signs. -/
  signed : Bool
  chain : UInt64
  gas : UInt64
  /-- The price of gas; left to the market when unset. -/
  gasPrice : Option UInt64
  input : List UInt8
  deriving DecidableEq

inductive Failure where
  | answered (code : Int) (message : String)
  | unreachable
  deriving DecidableEq, Repr

def Failure.message (url : Url) : Failure → String
  | .answered code message =>
      s!"server returned an error response: error code {code}: {message}"
  | .unreachable => url.failure

/-- A node whose states have the type `σ`. -/
structure Peer (σ : Type) where
  chainId : σ → Except Failure UInt64 × σ
  /-- The accounts that the node signs for. -/
  accounts : σ → Except Failure (List Address) × σ
  /-- How much gas a creation takes, by its sender and its input. -/
  estimate : Address → List UInt8 → σ → Except Failure UInt64 × σ
  send : Transaction → σ → Except Failure TxHash × σ
  /-- What became of a transaction, once it is mined. -/
  receipt : TxHash → σ → Except Failure (Option Receipt) × σ

def Peer.unreachable {σ : Type} : Peer σ where
  chainId s := (.error .unreachable, s)
  accounts s := (.error .unreachable, s)
  estimate _ _ s := (.error .unreachable, s)
  send _ s := (.error .unreachable, s)
  receipt _ s := (.error .unreachable, s)

/-! ## Clients -/

inductive Sender where
  | signer (key : PrivateKey)
  /-- The node, for an account of its own; for its first one when none is set. -/
  | unlocked (account : Option Address)
  deriving DecidableEq

/-- How a network is reached and what transactions are to cost. -/
structure Client where
  url : Url
  sender : Sender
  /-- The chain that a signer signs for. -/
  matcher : Network.Matcher
  gas : Option UInt64
  gasPrice : Option UInt64
  /-- How long to wait for a confirmation, in seconds. -/
  timeout : UInt64

namespace Client

/-! ## Making a client -/

inductive Fault where
  | connection (fault : Network.ConnectionError)
  | badUrl (url : String) (fault : Url.Fault)
  | badKey (fault : PrivateKey.Fault)
  deriving DecidableEq, Repr

def Fault.message : Fault → String
  | .connection fault => "Invalid network configuration: " ++ fault.message
  | .badUrl url fault => s!"Invalid RPC URL {url}: {fault.message}"
  | .badKey fault => "Invalid private key: " ++ fault.message

/-- The fault as a run meets it. -/
def Fault.toDelivery (fault : Fault) : Delivery.Fault := .network fault.message

def senderOf : Network.Connection → Except PrivateKey.Fault Sender
  | .direct _ account => .ok (.unlocked account)
  | .signing _ key => (PrivateKey.ofText key.expose).map .signer

/-- The client for a network; its URL is looked at before its key. -/
def ofNetwork (n : Network) : Except Fault Client := do
  let connection ← n.connection.mapError .connection
  let url ← (Url.read connection.url).mapError (.badUrl connection.url)
  let sender ← (senderOf connection).mapError .badKey
  return ⟨url, sender, n.matcher, n.gas, n.gasPrice, n.timeout⟩

/-! ## Calls -/

variable {σ α : Type}

/-- A call of a run, made of requests to a node. -/
abbrev Call (σ α : Type) := ExceptT Delivery.Fault (StateM σ) α

/-- Makes a request; a failure becomes what it means for the call. -/
def ask (fault : Failure → Delivery.Fault) (request : σ → Except Failure α × σ) : Call σ α :=
  ExceptT.mk fun s =>
    let (answer, s) := request s
    (answer.mapError fault, s)

/-- A failure that says only that the network does not work. -/
def broken (c : Client) (what : String) (failure : Failure) : Delivery.Fault :=
  .network (what ++ ": " ++ failure.message c.url)

/-- A failure while sending: an error that the node answers with is a rejection. -/
def unsent (c : Client) (failure : Failure) : Delivery.Fault :=
  match failure with
  | .answered _ _ => .rejected (failure.message c.url)
  | .unreachable => c.broken "Failed to send transaction" failure

def chainId (c : Client) (peer : Peer σ) : Call σ UInt64 :=
  ask (c.broken "Failed to get chain id") peer.chainId

def account (c : Client) (peer : Peer σ) : Call σ Address :=
  match c.sender with
  | .signer key => return key.address
  | .unlocked (some account) => return account
  | .unlocked none => do
      match ← ask (c.broken "Failed to list accounts") peer.accounts with
      | first :: _ => return first
      | [] => throw (.network "Node reports no unlocked accounts")

/-- The chain that a signer refuses to sign for, because it is set to another. -/
def mismatch? (c : Client) (chain : UInt64) : Option UInt64 :=
  match c.sender, c.matcher with
  | .signer _, .exact id => if id = chain then none else some id
  | _, _ => none

/-- Sends creation code; gas is estimated when it is not set. -/
def submit (c : Client) (peer : Peer σ) (input : List UInt8) : Call σ TxHash := do
  let sender ← c.account peer
  let gas ← match c.gas with
    | some gas => pure gas
    | none => ask c.unsent (peer.estimate sender input)
  let chain ← ask c.unsent peer.chainId
  match c.mismatch? chain with
  | some id =>
      throw (.network (s!"Failed to send transaction: local usage error: transaction-provided " ++
        s!"chain ID ({chain.toNat}) does not match the signer's chain ID ({id.toNat})"))
  | none =>
      let signed := match c.sender with
        | .signer _ => true
        | .unlocked _ => false
      ask c.unsent (peer.send ⟨sender, signed, chain, gas, c.gasPrice, input⟩)

/-- How many seconds pass between two looks at a transaction. -/
def interval : Nat := 2

/-- Looks until a transaction is mined, so many times at most. -/
def await (c : Client) (peer : Peer σ) (hash : TxHash) : Nat → Call σ Unit
  | 0 => throw (.timeout s!"no confirmation for {hash.text} after {c.timeout.toNat}s")
  | looks + 1 => do
      match ← ask (c.broken "Transaction watch failed") (peer.receipt hash) with
      | some _ => return ()
      | none => await c peer hash looks

/-- Waits until a transaction is mined, and then asks what became of it. -/
def confirm (c : Client) (peer : Peer σ) (hash : TxHash) : Call σ Receipt := do
  c.await peer hash ((c.timeout.toNat + interval - 1) / interval)
  match ← ask (c.broken "Failed to get receipt") (peer.receipt hash) with
  | some receipt => return receipt
  | none => throw (.network s!"Receipt for {hash.text} not found")

def delivery (c : Client) (peer : Peer σ) : Delivery σ where
  chainId s := (c.chainId peer).run s
  submit s input := (c.submit peer input).run s
  confirm s hash := (c.confirm peer hash).run s

end Client

end Rollout.Node
