/-
# Rollout.Proofs.Record — receipts and records are read back from documents

Addresses, hashes and numbers of 64 bits are read back from the values they are written as.
A receipt is read back from its document, with or without a contract (`Receipt.read_document`).
A record is read back from its document, also where the fields stand by name
(`Record.read_byName_document`), when its moment falls into a year of four digits.
-/
import Rollout.Json
import Rollout.Proofs.Hex
import Rollout.Proofs.Moment
import Rollout.Report

namespace Rollout

open Checked (bind_eq_ok)
open Document

set_option autoImplicit false

/-! ## Octets and numbers -/

theorem Octets.text_toList {n : Nat} (o : Octets n) :
    o.text.toList = '0' :: 'x' :: Hex.encode o.bytes := by
  simp [text, Hex.prefixed, Hex.text]

theorem Octets.ofText_text {n : Nat} (o : Octets n) : Octets.ofText n o.text = .ok o := by
  have digits : Hex.withoutMarker o.text.toList = Hex.encode o.bytes := by
    rw [Octets.text_toList]
    rfl
  have length : (Text.bytes (Hex.encode o.bytes)).length = 2 * n := by
    rw [Hex.length_bytes fun _ => Hex.mem_alphabet_of_encode, Hex.length_encode, o.length_eq]
  have even : ¬ 2 * n % 2 = 1 := by omega
  have whole : ofList? n o.bytes = some o := dif_pos o.length_eq
  simp only [ofText, digits, length, if_neg even, ne_eq, not_true_eq_false, if_false,
    Hex.decodeFrom_encode, whole]
  rfl

theorem readOctets_text (format : Format) {n : Nat} (o : Octets n) :
    readOctets format n (.text o.text) = .ok o := by
  simp only [readOctets, Value.items?, Octets.ofText_text]
  rfl

theorem readBelow_nat {bound n : Nat} (wanted : String) (small : n < bound) :
    readBelow bound wanted (.nat n) = .ok n :=
  if_pos ⟨Int.natCast_nonneg n, Int.ofNat_lt.mpr small⟩

theorem readUInt64_nat (n : UInt64) : readUInt64 (.nat n.toNat) = .ok n := by
  rw [readUInt64, readBelow_nat _ n.toNat_lt, Except.map, UInt64.ofNat_toNat]

/-! ## Receipts -/

namespace Receipt

theorem readOption_contract (format : Format) (contract : Option Address) :
    readOption (readOctets format 20) (contract.elim .null fun a => .text a.text) =
      .ok contract := by
  cases contract with
  | none => rfl
  | some a =>
      show (readOctets format 20 (.text a.text)).map some = _
      rw [readOctets_text, Except.map]

/-- By name the fields of a receipt have another order. -/
theorem byName_document (r : Receipt) :
    Json.byName r.document = .table [("block_number", .nat r.block.toNat),
      ("contract_address", r.contract.elim .null fun a => .text a.text),
      ("success", .bool r.success), ("transaction_hash", .text r.transaction.text)] := by
  obtain ⟨transaction, contract, block, success⟩ := r
  cases contract with
  | none => rfl
  | some a => rfl

/-- Fields that are read, in the one order or the other, are the fields of the receipt. -/
theorem read_table {format : Format} {r : Receipt} {transaction contract block success : Value}
    (hasTransaction : readOctets format 32 transaction = .ok r.transaction)
    (hasContract : readOption (readOctets format 20) contract = .ok r.contract)
    (hasBlock : readUInt64 block = .ok r.block) (hasSuccess : readBool success = .ok r.success) :
    Receipt.read format (.table [("transaction_hash", transaction),
      ("contract_address", contract), ("block_number", block), ("success", success)]) = .ok r ∧
    Receipt.read format (.table [("block_number", block), ("contract_address", contract),
      ("success", success), ("transaction_hash", transaction)]) = .ok r := by
  constructor <;>
    simp [Receipt.read, Layout.read, Value.fields?, Layout.putAll, Layout.names, layout,
      Field.required, Field.nullable, hasTransaction, hasContract, hasBlock, hasSuccess, Except.map,
      bind, Except.bind, pure, Except.pure]

/-- **A receipt is read back with all its fields**, as it is written and by name. -/
theorem read_document (format : Format) (r : Receipt) :
    Receipt.read format r.document = .ok r ∧
      Receipt.read format (Json.byName r.document) = .ok r := by
  rw [byName_document]
  exact read_table (readOctets_text ..) (readOption_contract ..) (readUInt64_nat r.block) rfl

end Receipt

/-! ## Records -/

/-- The year is written with four digits and without a sign. -/
def Moment.HasFourDigitYear (m : Moment) : Prop := 0 ≤ m.date.year ∧ m.date.year ≤ 9999

instance (m : Moment) : Decidable m.HasFourDigitYear := inferInstanceAs (Decidable (_ ∧ _))

theorem Moment.read_document {m : Moment} (short : m.HasFourDigitYear) :
    Moment.read m.document = .ok m := by
  simp only [Moment.document, Moment.read, Moment.ofText_text m short.1 short.2]
  rfl

namespace Record

/-- By name the fields of a record have another order. -/
theorem byName_document (r : Record) :
    Json.byName r.document = .table [("address", .text r.address.text),
      ("artifact_name", .text r.artifact), ("block_number", .nat r.block.toNat),
      ("confirmed_at", r.confirmedAt.document),
      ("transaction_hash", .text r.transaction.text)] := by
  rfl

/-- Fields that are read, in the order of their names, are the fields of the record. -/
theorem read_table {r : Record} {address artifact block moment transaction : Value}
    (hasAddress : readOctets .json 20 address = .ok r.address)
    (hasArtifact : readText artifact = .ok r.artifact)
    (hasBlock : readUInt64 block = .ok r.block)
    (hasMoment : Moment.read moment = .ok r.confirmedAt)
    (hasTransaction : readOctets .json 32 transaction = .ok r.transaction) :
    Record.read .json (.table [("address", address), ("artifact_name", artifact),
      ("block_number", block), ("confirmed_at", moment), ("transaction_hash", transaction)]) =
      .ok r := by
  simp [Record.read, Layout.read, Value.fields?, Layout.putAll, Layout.names, layout,
    Field.required, hasAddress, hasArtifact, hasBlock, hasMoment, hasTransaction, Except.map,
    bind, Except.bind, pure, Except.pure]

/-- **A record is read back with all its fields.** -/
theorem read_byName_document {r : Record} (short : r.confirmedAt.HasFourDigitYear) :
    Record.read .json (Json.byName r.document) = .ok r := by
  rw [byName_document]
  exact read_table (readOctets_text ..) rfl (readUInt64_nat r.block)
    (Moment.read_document short) (readOctets_text ..)

end Record

end Rollout
