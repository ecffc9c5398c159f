/-
# Rollout.Proofs.Run.Planned — in a plan, dependencies are never missing

A plan puts each artifact behind what it depends on, and a run that comes to a step has
recorded all steps before it.  So whatever the step links or refers to has an address
(`Starts.supplied`), and of the faults that a missing address would cause none can occur:
a link that is missing is one that the bytecode asks for and the artifact does not declare,
and a fault in the linked bytecode is one in its digits (`Supplied`).
-/
import Rollout.Proofs.Run.Calls

namespace Rollout

set_option autoImplicit false

namespace Run

section

/-! ## Steps with all they depend on -/

/-- The bytecode of an artifact with all of its libraries linked, at their addresses in
some records. -/
structure LinkedFrom (source : Build.Source) (linkName : String → String)
    (records : List Record) (a : Artifact) (l : Linker) : Prop where
  parts : ∃ compiled address, source a.buildName = .ok compiled ∧
    (∀ library ∈ a.libraries, addressOf records library = some (address library)) ∧
    l = .linkAll linkName address (.ofBytecode compiled.bytecode) a.libraries

theorem linkedFrom_of_linked {source : Build.Source} {linkName : String → String}
    {records : List Record} {a : Artifact} {compiled : Build.Compiled} {l : Linker}
    (loaded : source a.buildName = .ok compiled)
    (ok : linked linkName (addressOf records) a compiled.bytecode = .ok l) :
    LinkedFrom source linkName records a l := by
  obtain ⟨address, known⟩ := exists_addresses (resolved_of_linked ok)
  have all : linked linkName (addressOf records) a compiled.bytecode =
      .ok (.linkAll linkName address (.ofBytecode compiled.bytecode) a.libraries) :=
    foldlM_linkLibrary_eq_ok known
  rw [ok, Except.ok.injEq] at all
  exact ⟨compiled, address, loaded, known, all⟩

/-- Why there is no payload for an artifact that has all it depends on. -/
inductive Flawed (source : Build.Source) (linkName : String → String) (records : List Record)
    (a : Artifact) : Fault → Prop
  /-- The build output cannot be used. -/
  | build (fault : Build.Fault) (failed : source a.buildName = .error fault) :
      Flawed source linkName records a (.build fault)
  /-- With all libraries linked, the bytecode asks for another. -/
  | placeholder (l : Linker) (linked : LinkedFrom source linkName records a l)
      (label : String) (first : l.unlinked.head? = some label) :
      Flawed source linkName records a (.missingLink a.name label)
  /-- With all libraries linked, the bytecode is no hex. -/
  | hex (l : Linker) (linked : LinkedFrom source linkName records a l)
      (complete : l.unlinked = []) (cause : Hex.Fault)
      (undecoded : Hex.decode (Text.bytes l.code) = .error cause) :
      Flawed source linkName records a (.link (.invalidHex cause))
  /-- The values do not fit the constructor. -/
  | encoding (compiled : Build.Compiled) (loaded : source a.buildName = .ok compiled)
      (values : List Abi.Value) (fault : Abi.Fault)
      (failed : compiled.abi.encode values = .error fault) :
      Flawed source linkName records a (.encoding a.name fault)

/-- **With all it depends on, an artifact has a payload or a flaw of its own.** -/
theorem flawed_of_payload {source : Build.Source} {linkName : String → String}
    {records : List Record} {a : Artifact} {fault : Fault}
    (supplied : ∀ name, a.DependsOn name → ∃ address, addressOf records name = some address)
    (failed : payload source linkName (addressOf records) a = .error fault) :
    Flawed source linkName records a fault := by
  have present : ∀ name, a.DependsOn name → addressOf records name ≠ none := by
    intro name depends absent
    obtain ⟨address, known⟩ := supplied name depends
    rw [absent] at known
    cases known
  cases unpayable_of_payload failed with
  | reference name referred absent => exact absurd absent (present name (Or.inr referred))
  | build values resolved fault lost => exact .build fault lost
  | library values resolved compiled loaded name member absent =>
      exact absurd absent (present name (Or.inl member))
  | placeholder values resolved compiled loaded l ok label others left =>
      exact .placeholder l (linkedFrom_of_linked loaded ok) label (by rw [left]; rfl)
  | hex values resolved compiled loaded l ok complete fault faulty =>
      obtain ⟨cause, undecoded, rfl⟩ := Linker.bytes_eq_error complete faulty
      exact .hex l (linkedFrom_of_linked loaded ok) complete cause undecoded
  | encoding values resolved compiled loaded code decoded fault unfit =>
      exact .encoding compiled loaded values fault unfit

/-! ## Runs of plans -/

variable {σ : Type}

/-- A halted run of a plan: at the step behind the last record, nothing was missing that
the step depends on, and the step has failed for another reason. -/
structure Supplied (setting : Setting σ) (plan : Plan) (halt : Halt) : Prop where
  /-- What the step behind the last record depends on has an address in the records. -/
  supplied : ∀ step, plan.steps[halt.completed.length]? = some step →
    ∀ name, step.artifact.DependsOn name →
      ∃ address, addressOf halt.completed name = some address
  /-- No reference is unresolved. -/
  resolved : ∀ artifact name, halt.fault ≠ .unresolvedReference artifact name
  /-- A missing link is the first one that the linked bytecode asks for. -/
  missing : ∀ artifact label, halt.fault = .missingLink artifact label →
    ∃ step l, plan.steps[halt.completed.length]? = some step ∧
      halt.step = some (step.index, step.artifact.name) ∧ artifact = step.artifact.name ∧
      LinkedFrom setting.source (linkNameOf plan.artifacts) halt.completed step.artifact l ∧
      l.unlinked.head? = some label
  /-- Linked bytecode without placeholders can only fail at its digits. -/
  link : ∀ fault, halt.fault = .link fault →
    ∃ step l cause, plan.steps[halt.completed.length]? = some step ∧
      halt.step = some (step.index, step.artifact.name) ∧
      LinkedFrom setting.source (linkNameOf plan.artifacts) halt.completed step.artifact l ∧
      l.unlinked = [] ∧ Hex.decode (Text.bytes l.code) = .error cause ∧ fault = .invalidHex cause

variable {artifacts : List Artifact} {plan : Plan} {setting : Setting σ} {network : Network}
  {start : σ}

/-- Where a run of a plan has come, all that the next step depends on has an address. -/
theorem Starts.supplied (built : Plan.build artifacts = .ok plan) {linkName : String → String}
    {done rest : List Plan.Step} {step : Plan.Step} {s last : State σ} {log : List Completion}
    (split : plan.steps = done ++ step :: rest) (starts : Starts setting network start s)
    (advances : Advances setting linkName done s log last) {name : String}
    (depends : step.artifact.DependsOn name) :
    ∃ address, addressOf last.records name = some address := by
  obtain ⟨earlier, before, rfl⟩ := Plan.behind_of_build built done step rest split name depends
  have recorded : earlier.artifact.name ∈ last.records.map (·.artifact) := by
    rw [starts.records_eq advances, List.map_map]
    exact advances.names_eq ▸ List.mem_map_of_mem before
  obtain ⟨record, member, named⟩ := List.mem_map.mp recorded
  cases known : addressOf last.records earlier.artifact.name with
  | some address => exact ⟨address, rfl⟩
  | none => exact absurd named (addressOf_eq_none_iff.mp known record member)

/-- Steps are supplied one after another, so the one that fails is. -/
theorem Ends.supplied (built : Plan.build artifacts = .ok plan) {outcome : Outcome σ}
    (ends : Ends setting plan network start outcome) {halt : Halt}
    (halted : outcome.result = .error halt) : Supplied setting plan halt := by
  -- In front of the first step nothing is recorded, and the first step needs nothing.
  have unstarted : ∀ fault : Fault, (∀ artifact name, fault ≠ .unresolvedReference artifact name) →
      (∀ artifact label, fault ≠ .missingLink artifact label) → (∀ cause, fault ≠ .link cause) →
      Supplied setting plan ⟨[], none, fault⟩ := by
    intro fault noReference noMissing noLink
    refine ⟨?_, noReference, fun artifact label same => absurd same (noMissing artifact label),
      fun cause same => absurd same (noLink cause)⟩
    intro step there name depends
    obtain ⟨rest, first⟩ : ∃ rest, plan.steps = step :: rest := by
      cases steps : plan.steps with
      | nil => simp [steps] at there
      | cons head rest =>
          obtain rfl : head = step := by simpa [steps] using there
          exact ⟨rest, rfl⟩
    obtain ⟨earlier, before, -⟩ := Plan.behind_of_build built [] step rest first name depends
    cases before
  cases ends with
  | unreached fault d failed =>
      cases halted
      exact unstarted (.delivery fault) (by simp) (by simp) (by simp)
  | mismatched chain d answered refused =>
      cases halted
      exact unstarted (.networkMismatch network.matcher chain) (by simp) (by simp) (by simp)
  | completed => cases halted
  | halted s starts done step rest split log last advances fault calls fails d =>
      cases halted
      have here : plan.steps[last.records.length]? = some step := by
        rw [starts.count_eq advances, advances.length_eq, split]
        simp
      have supplied : ∀ name, step.artifact.DependsOn name →
          ∃ address, addressOf last.records name = some address :=
        fun name depends => starts.supplied built split advances depends
      -- A fault that is found before sending is a flaw of the artifact.
      have flawed : fault.precedesSending = true → Flawed setting.source
          (linkNameOf plan.artifacts) last.records step.artifact fault :=
        fun precedes => flawed_of_payload supplied (fails.unpaid precedes).1
      refine ⟨?_, ?_, ?_, ?_⟩
      · intro step' there
        obtain rfl : step = step' := Option.some.inj (here.symm.trans there)
        exact supplied
      · rintro artifact name rfl
        cases flawed rfl
      · rintro artifact label rfl
        cases flawed rfl with
        | placeholder l linked _ first => exact ⟨step, l, here, rfl, rfl, linked, first⟩
      · rintro cause rfl
        cases flawed rfl with
        | hex l linked complete cause undecoded =>
            exact ⟨step, l, cause, here, rfl, linked, complete, undecoded, rfl⟩

/-- **In a run of a plan, nothing is missing that a step depends on.** -/
theorem execute_supplies (built : Plan.build artifacts = .ok plan) (setting : Setting σ)
    (network : Network) (start : σ) {halt : Halt}
    (halted : (execute setting plan network start).result = .error halt) :
    Supplied setting plan halt :=
  (execute_ends setting plan network start).supplied built halted

end

/-! ## Bytecode that asks for a library too many -/

/-- Build outputs without constructors, with this bytecode for the contract. -/
def Sample.serving (bytecode : String) : Build.Source := fun name =>
  .ok ⟨name, if name = "App" then bytecode else "6000", .empty⟩

/-- Bytecode with slots for two libraries. -/
def Sample.slotted : Build.Source :=
  Sample.serving ("60" ++ Sample.slot "Math" ++ Sample.slot "Codec")

/-- The library is linked, and the run halts for the one that is not declared. -/
theorem execute_supplies_undeclared_slot :
    let plan : Plan := .ofArtifacts [.library "Math", (Artifact.contract "App").linking "Math"]
    let setting : Setting Unit := ⟨Sample.slotted, Sample.delivery, .never, fun _ => default⟩
    ∃ halt, Plan.build [(Artifact.contract "App").linking "Math", .library "Math"] = .ok plan ∧
      (execute setting plan {} ()).result = .error halt ∧
      halt.fault = .missingLink "App" "Codec" ∧ Supplied setting plan halt := by
  have built : Plan.build [(Artifact.contract "App").linking "Math", .library "Math"] =
      .ok (.ofArtifacts [.library "Math", (Artifact.contract "App").linking "Math"]) := rfl
  refine ⟨⟨[_], some (1, "App"), .missingLink "App" "Codec"⟩, built, rfl, rfl, ?_⟩
  exact execute_supplies built _ {} () rfl

end Run

end Rollout
