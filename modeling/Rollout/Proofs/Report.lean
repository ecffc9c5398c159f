/-
# Rollout.Proofs.Report — a report loses nothing

The text of a report is read back as the report (`ofText_text`).  The addresses that it lists
by name are read back as well (`listed?_text`): under each name the address of its last record.
The records of a run of a built plan have names of their own, so there every record has its
address in the list (`text_loses_nothing`).
-/
import Rollout.Proofs.Json.Arrangement
import Rollout.Proofs.Plan.Building
import Rollout.Proofs.Record
import Rollout.Proofs.Run.Independence
import Rollout.Report

namespace Rollout

open Document

set_option autoImplicit false

namespace Run

variable {σ : Type} {setting : Setting σ} {plan : Plan} {network : Network} {start : σ}

theorem Starts.recorded_names {steps : List Plan.Step} {linkName : String → String}
    {s last : State σ} {log : List Completion} (starts : Starts setting network start s)
    (advances : Advances setting linkName steps s log last) :
    last.records.map (·.artifact) = steps.map (·.artifact.name) := by
  rw [starts.records_eq advances, List.map_map]
  exact advances.names_eq

theorem Ends.recorded_names {outcome : Outcome σ} (ends : Ends setting plan network start outcome) :
    outcome.records.map (·.artifact) <+: plan.names := by
  have names : plan.names = plan.steps.map (·.artifact.name) := List.map_map ..
  rw [names]
  cases ends with
  | unreached | mismatched => exact List.nil_prefix
  | completed s starts log last advances =>
      exact starts.recorded_names advances ▸ List.prefix_rfl
  | halted s starts done step rest split log last advances =>
      rw [split, List.map_append]
      exact starts.recorded_names advances ▸ List.prefix_append ..

theorem nodup_recorded_names {artifacts : List Artifact} (built : Plan.build artifacts = .ok plan)
    (setting : Setting σ) (network : Network) (start : σ) :
    ((execute setting plan network start).records.map (·.artifact)).Nodup :=
  (Plan.nodup_of_build built).sublist (execute_ends setting plan network start).recorded_names.sublist

end Run

namespace Report

/-- By name the fields of a report have another order. -/
theorem byName_document (r : Report) : ∃ contracts,
    Json.byName r.document = .table [("chain_id", .nat r.chain.toNat), ("contracts", contracts),
      ("network", .text r.network),
      ("records", .list (r.records.map fun record => Json.byName record.document))] := by
  refine ⟨Json.byName (.table (r.contracts.entries.map fun entry => (entry.1, .text entry.2.text))), ?_⟩
  have records : Json.itemsByName (r.records.map Record.document) =
      r.records.map fun record => Json.byName record.document := by
    rw [Json.itemsByName_eq_map, List.map_map]
    rfl
  rw [← records]
  rfl

/-- Fields that are read, in the order of their names, are the fields of the report. -/
theorem read_table {r : Report} {chain network records : Value} (contracts : Value)
    (hasChain : readUInt64 chain = .ok r.chain) (hasNetwork : readText network = .ok r.network)
    (hasRecords : readList (Record.read .json) records = .ok r.records) :
    Report.read .json (.table [("chain_id", chain), ("contracts", contracts),
      ("network", network), ("records", records)]) = .ok r := by
  simp [Report.read, Layout.read, Value.fields?, Layout.putAll, Layout.names, layout,
    Field.required, hasChain, hasNetwork, hasRecords, Except.map, bind, Except.bind, pure,
    Except.pure]

theorem nests_record (r : Record) : Json.Nests 125 r.document := by
  refine Json.Nests.table fun field member => ?_
  simp only [List.mem_cons, List.not_mem_nil, or_false] at member
  rcases member with rfl | rfl | rfl | rfl | rfl
  · exact .text ..
  · exact .text ..
  · exact .text ..
  · exact .nat _ r.block.toNat_lt
  · exact .text ..

theorem nests_document (r : Report) : Json.Nests Json.Machine.depthLimit r.document := by
  refine Json.Nests.table fun field member => ?_
  simp only [List.mem_cons, List.not_mem_nil, or_false] at member
  rcases member with rfl | rfl | rfl | rfl
  · exact .text ..
  · exact .nat _ r.chain.toNat_lt
  · refine .table fun entry inside => ?_
    obtain ⟨⟨name, address⟩, -, rfl⟩ := List.mem_map.mp inside
    exact .text ..
  · refine .list fun item inside => ?_
    obtain ⟨record, -, rfl⟩ := List.mem_map.mp inside
    exact nests_record record

/-- **The text of a report is read back as the report.** -/
theorem ofText_text {r : Report}
    (short : ∀ record ∈ r.records, record.confirmedAt.HasFourDigitYear) :
    ofText? r.text = some r := by
  obtain ⟨contracts, fields⟩ := r.byName_document
  have items : readList (Record.read .json)
      (.list (r.records.map fun record => Json.byName record.document)) = .ok r.records := by
    have each : r.records.mapM (fun record => Record.read .json (Json.byName record.document)) =
        .ok (r.records.map id) :=
      Checked.mapM_eq_map fun record member => Record.read_byName_document (short record member)
    simpa [readList, Value.items?, List.mapM_map, Function.comp_def] using each
  have named : readText (.text r.network) = .ok r.network := rfl
  have read := read_table contracts (readUInt64_nat r.chain) named items
  rw [ofText?, text, Json.read?, Json.readAsWritten?_pretty r.nests_document, Option.map_some,
    Option.bind_some, fields, read]
  rfl

/-! ## The addresses by name -/

/-- The addresses by name that a text lists. -/
def listed? (text : String) : Option (List (String × Address)) := do
  let contracts ← (← Json.readAsWritten? text).field? "contracts"
  (readFields (readOctets .json 20) contracts).toOption

theorem listed?_text (r : Report) : listed? r.text = some r.contracts.entries := by
  have field : r.document.field? "contracts" =
      some (.table (r.contracts.entries.map fun entry => (entry.1, .text entry.2.text))) := rfl
  have read : r.contracts.entries.mapM (fun entry =>
      (readOctets .json 20 (.text entry.2.text)).map (entry.1, ·)) =
        .ok (r.contracts.entries.map id) := by
    refine Checked.mapM_eq_map fun entry _ => ?_
    rw [readOctets_text]
    rfl
  have entries : readFields (readOctets .json 20)
      (.table (r.contracts.entries.map fun entry => (entry.1, .text entry.2.text))) =
        .ok r.contracts.entries := by
    simpa [readFields, Value.fields?, List.mapM_map, Function.comp_def] using read
  rw [listed?, text, Json.readAsWritten?_pretty r.nests_document, Option.bind_eq_bind,
    Option.bind_some, field, Option.bind_some, entries]
  rfl

theorem nodup_contracts (r : Report) : (r.contracts.entries.map (·.1)).Nodup :=
  Catalog.nodup_names r.contracts

/-- Under each name stands the address of the last record of that name. -/
theorem mem_contracts {r : Report} {name : String} {address : Address} :
    (name, address) ∈ r.contracts.entries ↔ ∃ before record after,
      r.records = before ++ record :: after ∧ record.artifact = name ∧
        record.address = address ∧ ∀ later ∈ after, later.artifact ≠ name := by
  rw [contracts, Catalog.mem_ofList]
  constructor
  · rintro ⟨before, after, split, last⟩
    obtain ⟨front, back, whole, rfl, rest⟩ := List.map_eq_append_iff.mp split
    obtain ⟨record, others, rfl, here, rfl⟩ := List.map_eq_cons_iff.mp rest
    obtain ⟨named, addressed⟩ := Prod.mk.inj here
    exact ⟨front, record, others, whole, named, addressed,
      fun later inside => last _ (List.mem_map_of_mem inside)⟩
  · rintro ⟨front, record, others, whole, rfl, rfl, last⟩
    refine ⟨_, _, by rw [whole, List.map_append, List.map_cons], ?_⟩
    exact List.forall_mem_map.mpr last

theorem mem_names_contracts {r : Report} {name : String} :
    name ∈ r.contracts.entries.map (·.1) ↔ ∃ record ∈ r.records, record.artifact = name := by
  rw [← Catalog.names, contracts, Catalog.mem_names_ofList, List.map_map, List.mem_map]
  rfl

/-- Records with names of their own all have their addresses listed. -/
theorem perm_contracts {r : Report} (distinct : (r.records.map (·.artifact)).Nodup) :
    r.contracts.entries.Perm (r.records.map fun record => (record.artifact, record.address)) := by
  refine Catalog.perm_ofList ?_
  rw [List.map_map]
  exact distinct

/-- **A report loses nothing.**  Its text is read back as the report; the addresses that the
text lists by name have the names of the records, none of them twice, each with the address of
the last record of the name; and where the records are those of a run of a built plan, however
it ended, the list has every record with its address. -/
theorem text_loses_nothing (r : Report) :
    ((∀ record ∈ r.records, record.confirmedAt.HasFourDigitYear) → ofText? r.text = some r) ∧
    ∃ contracts, listed? r.text = some contracts ∧ (contracts.map (·.1)).Nodup ∧
      (∀ name, name ∈ contracts.map (·.1) ↔ ∃ record ∈ r.records, record.artifact = name) ∧
      (∀ name address, (name, address) ∈ contracts ↔ ∃ before record after,
        r.records = before ++ record :: after ∧ record.artifact = name ∧
          record.address = address ∧ ∀ later ∈ after, later.artifact ≠ name) ∧
      ∀ {σ : Type} {artifacts : List Artifact} {plan : Plan} (setting : Run.Setting σ)
        (network : Network) (start : σ), Plan.build artifacts = .ok plan →
        r.records = (Run.execute setting plan network start).records →
        contracts.Perm (r.records.map fun record => (record.artifact, record.address)) := by
  refine ⟨ofText_text, r.contracts.entries, r.listed?_text, r.nodup_contracts,
    fun _ => mem_names_contracts, fun _ _ => mem_contracts, ?_⟩
  intro σ artifacts plan setting network start built same
  refine perm_contracts ?_
  rw [same]
  exact Run.nodup_recorded_names built setting network start

/-- A report of three steps, all of which were confirmed. -/
theorem text_loses_nothing_trio :
    let records := (Run.execute Run.Sample.setting Run.Sample.trio {} ()).records
    let report : Report := ⟨"local", 1, records⟩
    records.map (·.artifact) = ["Token", "Clock", "Vault"] ∧ ofText? report.text = some report ∧
      ∃ contracts, listed? report.text = some contracts ∧
        contracts.Perm (records.map fun record => (record.artifact, record.address)) := by
  intro records report
  have built : Plan.build [Run.Sample.token, .contract "Clock", Run.Sample.vault] =
      .ok Run.Sample.trio := rfl
  have short : ∀ record ∈ report.records, record.confirmedAt.HasFourDigitYear := by decide
  obtain ⟨read, contracts, listed, -, -, -, all⟩ := text_loses_nothing report
  exact ⟨rfl, read short, contracts, listed, all Run.Sample.setting {} () built rfl⟩

end Report

end Rollout
