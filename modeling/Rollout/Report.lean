/-
# Rollout.Report — what is kept of a run

A record is what is kept of a confirmed artifact, made once from its receipt and never changed.

A report names the network and the chain, lists the address of every deployed artifact by name,
and then the records in the order of deployment.  It is written as JSON over several lines.
Reading one back needs only the network, the chain and the records, because the addresses follow
from the records.
-/
import Rollout.Catalog
import Rollout.Delivery
import Rollout.Json
import Rollout.Moment

set_option autoImplicit false

namespace Rollout

open Document

/-! ## Records -/

/-- A confirmed deployment of one artifact. -/
structure Record where
  artifact : String
  address : Address
  transaction : TxHash
  block : UInt64
  confirmedAt : Moment
  deriving DecidableEq

/-- The record of a receipt that carries a contract address. -/
def Record.ofReceipt? (artifact : String) (receipt : Receipt) (confirmedAt : Moment) :
    Option Record :=
  receipt.contract.map fun address =>
    ⟨artifact, address, receipt.transaction, receipt.block, confirmedAt⟩

namespace Record

structure Draft where
  artifact : String := ""
  address : Address := default
  transaction : TxHash := default
  block : UInt64 := 0
  confirmedAt : Moment := default

def layout (format : Format) : Layout Draft where
  label := "DeploymentRecord"
  fields := ["artifact_name", "address", "transaction_hash", "block_number",
    "confirmed_at"].map .required
  put d name v :=
    match name with
    | "artifact_name" => (readText v).map fun a => { d with artifact := a }
    | "address" => (readOctets format 20 v).map fun a => { d with address := a }
    | "transaction_hash" => (readOctets format 32 v).map fun a => { d with transaction := a }
    | "block_number" => (readUInt64 v).map fun a => { d with block := a }
    | _ => (Moment.read v).map fun a => { d with confirmedAt := a }

def read (format : Format) : Reader Record := fun v => do
  let d ← (layout format).read format {} v
  return ⟨d.artifact, d.address, d.transaction, d.block, d.confirmedAt⟩

def document (r : Record) : Value :=
  .table [("artifact_name", .text r.artifact), ("address", .text r.address.text),
    ("transaction_hash", .text r.transaction.text), ("block_number", .nat r.block.toNat),
    ("confirmed_at", r.confirmedAt.document)]

end Record

/-! ## Reports -/

/-- What is kept of a run. -/
structure Report where
  network : String
  chain : UInt64
  /-- The records in the order of deployment. -/
  records : List Record
  deriving DecidableEq

namespace Report

/-- The addresses by name; of two records with one name the later counts. -/
def contracts (r : Report) : Catalog Address :=
  Catalog.ofList (r.records.map fun record => (record.artifact, record.address))

def document (r : Report) : Value :=
  .table [("network", .text r.network), ("chain_id", .nat r.chain.toNat),
    ("contracts", .table (r.contracts.entries.map fun (name, a) => (name, .text a.text))),
    ("records", .list (r.records.map Record.document))]

def text (r : Report) : String := Json.pretty r.document

def layout (format : Format) : Layout Report where
  label := "Report"
  fields := [.required "network", .required "chain_id", .required "records"]
  put r name v :=
    match name with
    | "network" => (readText v).map fun a => { r with network := a }
    | "chain_id" => (readUInt64 v).map fun a => { r with chain := a }
    | _ => (readList (Record.read format) v).map fun a => { r with records := a }

def read (format : Format) : Reader Report := (layout format).read format ⟨"", 0, []⟩

def ofText? (text : String) : Option Report :=
  (Json.read? text).bind fun v => (read .json v).toOption

end Report

end Rollout
