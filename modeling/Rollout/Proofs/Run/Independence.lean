/-
# Rollout.Proofs.Run.Independence — what a step is made of

A payload asks for the build output of its artifact, for the labels of its libraries and for
the addresses of what it depends on, and for nothing else (`payload_congr`).  So two runs of
one plan that came to the same addresses there send the same payload for a step, whatever
else became of them (`execute_isolates`).
-/
import Rollout.Proofs.Run.Interruption

namespace Rollout

set_option autoImplicit false

namespace Run

/-! ## What a payload asks for -/

section Payload

variable {source source' : Build.Source} {linkName linkName' : String → String} {a : Artifact}
  {resolve resolve' : String → Option Address}

theorem arguments_congr (same : ∀ name ∈ a.references, resolve' name = resolve name) :
    arguments resolve' a = arguments resolve a := by
  refine Checked.mapM_congr fun argument member => ?_
  cases argument with
  | artifact name =>
      have referred : name ∈ a.references :=
        Artifact.mem_references.mpr ⟨.artifact name, member, rfl⟩
      simp only [Argument.value, same name referred]
  | _ => rfl

theorem linked_congr (labels : ∀ library ∈ a.libraries, linkName' library = linkName library)
    (same : ∀ library ∈ a.libraries, resolve' library = resolve library) (bytecode : String) :
    linked linkName' resolve' a bytecode = linked linkName resolve a bytecode := by
  refine Checked.foldlM_congr (fun library member l => ?_) _
  simp only [linkLibrary, labels library member, same library member]

/-- **A payload asks for nothing but the build output of its artifact, the labels of its
libraries and the addresses of what it depends on.** -/
theorem payload_congr (output : source' a.buildName = source a.buildName)
    (labels : ∀ library ∈ a.libraries, linkName' library = linkName library)
    (same : ∀ name, a.DependsOn name → resolve' name = resolve name) :
    payload source' linkName' resolve' a = payload source linkName resolve a := by
  have arguments : arguments resolve' a = arguments resolve a :=
    arguments_congr fun name referred => same name (Or.inr referred)
  have linked : linked linkName' resolve' a = linked linkName resolve a :=
    funext (linked_congr labels fun library member => same library (Or.inl member))
  simp only [payload, creationCode, output, arguments, linked]

end Payload

/-! ## Two runs with the same addresses -/

section Isolation

/-- What an artifact depends on has the same address in some records and in others, where
both have one. -/
def SameAddresses (a : Artifact) (records records' : List Record) : Prop :=
  ∀ name, a.DependsOn name → ∀ record ∈ records, ∀ record' ∈ records',
    record.artifact = name → record'.artifact = name → record'.address = record.address

/-- Payloads that were made from records with the same addresses are the same. -/
theorem SameAddresses.payload_eq {a : Artifact} {source source' : Build.Source}
    {linkName : String → String} {records records' : List Record}
    (same : SameAddresses a records records') (output : source' a.buildName = source a.buildName)
    {sent sent' : List UInt8} (paid : payload source linkName (addressOf records) a = .ok sent)
    (paid' : payload source' linkName (addressOf records') a = .ok sent') : sent' = sent := by
  -- A payload that was made has found an address for all that the artifact depends on.
  have known : ∀ name, a.DependsOn name → addressOf records' name = addressOf records name := by
    intro name depends
    obtain ⟨address, found⟩ := resolved_of_payload paid name depends
    obtain ⟨address', found'⟩ := resolved_of_payload paid' name depends
    obtain ⟨record, member, named, rfl⟩ := addressOf_eq_some found
    obtain ⟨record', member', named', rfl⟩ := addressOf_eq_some found'
    rw [found, found', same name depends record member record' member' named named']
  rw [payload_congr output (fun _ _ => rfl) known, paid] at paid'
  exact (Except.ok.inj paid').symm

theorem SameAddresses.mono {a : Artifact} {records records' earlier earlier' : List Record}
    (same : SameAddresses a records records') (front : earlier <+: records)
    (front' : earlier' <+: records') : SameAddresses a earlier earlier' :=
  fun name depends record member record' member' =>
    same name depends record (front.subset member) record' (front'.subset member')

/-- **What is sent for an artifact depends only on its own dependencies.**  Two runs of a
plan that both send a payload for a step send the same one, when they take the same build
output for it and everything that the artifact depends on has the same address in both.
They may differ in all else: the network and the delivery, when they are stopped and how
they end, and what other artifacts are made of and where they come to lie. -/
theorem execute_isolates {σ τ : Type} (setting : Setting σ) (setting' : Setting τ) (plan : Plan)
    (network network' : Network) (start : σ) (start' : τ) {place : Nat} {step : Plan.Step}
    (there : plan.steps[place]? = some step)
    (output : setting'.source step.artifact.buildName = setting.source step.artifact.buildName)
    (same : SameAddresses step.artifact (execute setting plan network start).records
      (execute setting' plan network' start').records)
    {sent sent' : List UInt8}
    (first : (Exchange.payloads (execute setting plan network start).exchanges)[place]? =
      some sent)
    (second : (Exchange.payloads (execute setting' plan network' start').exchanges)[place]? =
      some sent') : sent' = sent := by
  obtain ⟨step₁, there₁, paid⟩ := (execute_ends setting plan network start).inOrder first
  obtain ⟨step₂, there₂, paid'⟩ := (execute_ends setting' plan network' start').inOrder second
  obtain rfl : step = step₁ := Option.some.inj (there.symm.trans there₁)
  obtain rfl : step = step₂ := Option.some.inj (there.symm.trans there₂)
  exact (same.mono (List.take_prefix _ _) (List.take_prefix _ _)).payload_eq output paid paid'

/-- A delivery that gives its second contract another address than its first, and gets no
further than the third. -/
def Sample.drifting : Delivery Nat where
  chainId n := (.ok 1, n)
  submit n _ := (.ok (.repeated 32 (.ofNat (n + 41))), n + 1)
  confirm n hash :=
    if n < 3 then (.ok ⟨hash, some (.repeated 20 (.ofNat (n + 6))), 9, true⟩, n)
    else (.error (.timeout "late"), n)

/-- Three artifacts, of which the last refers to the first. -/
def Sample.trio : Plan := .ofArtifacts [Sample.token, .contract "Clock", Sample.vault]

/-- With another address for an artifact in between, and without a confirmation for its own
payload, the artifact is sent with the same payload. -/
theorem execute_isolates_drifting :
    let outcome := execute Sample.setting Sample.trio {} ()
    let outcome' := execute ⟨Sample.source, Sample.drifting, .idle, fun _ => default⟩
      Sample.trio {} 0
    outcome'.records.map (·.address) ≠ (outcome.records.take 2).map (·.address) ∧
      outcome'.records.length = 2 ∧
      ∃ sent, (Exchange.payloads outcome.exchanges)[2]? = some sent ∧
        (Exchange.payloads outcome'.exchanges)[2]? = some sent := by
  refine ⟨by decide, rfl, Sample.payload, rfl, ?_⟩
  obtain ⟨sent, second⟩ : ∃ sent, (Exchange.payloads (execute ⟨Sample.source, Sample.drifting,
      .idle, fun _ => default⟩ Sample.trio {} 0).exchanges)[2]? = some sent := ⟨_, rfl⟩
  have there : Sample.trio.steps[2]? = some ⟨2, Sample.vault⟩ := rfl
  have token : ∀ record ∈ (execute Sample.setting Sample.trio {} ()).records,
      ∀ record' ∈ (execute ⟨Sample.source, Sample.drifting, .idle, fun _ => default⟩
        Sample.trio {} 0).records, record.artifact = "Token" → record'.artifact = "Token" →
      record'.address = record.address := by decide
  have same : sent = Sample.payload := by
    refine execute_isolates Sample.setting ⟨Sample.source, Sample.drifting, .idle,
      fun _ => default⟩ Sample.trio {} {} () 0 there rfl ?_ rfl second
    rintro name (linked | referred)
    · cases linked
    · obtain rfl : name = "Token" := List.mem_singleton.mp referred
      exact token
  rw [second, same]

end Isolation

end Run

end Rollout
