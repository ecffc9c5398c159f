/-
# Rollout.Delivery — the network as a run talks to it

A delivery answers three calls: which chain it is connected to, sending the transaction that
creates a contract, and waiting until a transaction is confirmed.  Between calls it is in a
state of its own, which every call may change.  What a call was and what it answered is kept as
an `Exchange`.  A receipt says what became of one transaction.
-/
import Rollout.Network

set_option autoImplicit false

namespace Rollout

open Document

/-! ## Receipts -/

/-- What became of the transaction that creates a contract. -/
structure Receipt where
  transaction : TxHash
  /-- The address of the contract, when there is one. -/
  contract : Option Address
  block : UInt64
  success : Bool
  deriving DecidableEq

namespace Receipt

structure Draft where
  transaction : TxHash := default
  contract : Option Address := none
  block : UInt64 := 0
  success : Bool := false

def layout (format : Format) : Layout Draft where
  label := "DeploymentReceipt"
  fields := [.required "transaction_hash", .nullable "contract_address",
    .required "block_number", .required "success"]
  put d name v :=
    match name with
    | "transaction_hash" => (readOctets format 32 v).map fun a => { d with transaction := a }
    | "contract_address" =>
        (readOption (readOctets format 20) v).map fun a => { d with contract := a }
    | "block_number" => (readUInt64 v).map fun a => { d with block := a }
    | _ => (readBool v).map fun a => { d with success := a }

def read (format : Format) : Reader Receipt := fun v => do
  let d ← (layout format).read format {} v
  return ⟨d.transaction, d.contract, d.block, d.success⟩

def document (r : Receipt) : Value :=
  .table [("transaction_hash", .text r.transaction.text),
    ("contract_address", r.contract.elim .null fun a => .text a.text),
    ("block_number", .nat r.block.toNat), ("success", .bool r.success)]

end Receipt

/-! ## Calls -/

namespace Delivery

inductive Fault where
  | network (reason : String)
  | rejected (reason : String)
  | timeout (reason : String)
  deriving DecidableEq, Repr

def Fault.message : Fault → String
  | .network reason => "Network error: " ++ reason
  | .rejected reason => "Transaction rejected: " ++ reason
  | .timeout reason => "Timed out: " ++ reason

end Delivery

/-- The calls of a delivery whose states have the type `σ`. -/
structure Delivery (σ : Type) where
  /-- The chain id that the node reports. -/
  chainId : σ → Except Delivery.Fault UInt64 × σ
  /-- Sends creation code with encoded arguments; the answer is the transaction's hash. -/
  submit : σ → List UInt8 → Except Delivery.Fault TxHash × σ
  /-- Waits for the confirmation of a transaction. -/
  confirm : σ → TxHash → Except Delivery.Fault Receipt × σ

/-- One call of a run and what came of it. -/
inductive Exchange where
  | chainId (answer : Except Delivery.Fault UInt64)
  | submit (payload : List UInt8) (answer : Except Delivery.Fault TxHash)
  /-- Nothing came of a wait that the run broke off. -/
  | confirm (hash : TxHash) (answer : Option (Except Delivery.Fault Receipt))

def Exchange.payloads (exchanges : List Exchange) : List (List UInt8) :=
  exchanges.filterMap fun
    | .submit payload _ => some payload
    | _ => none

end Rollout
