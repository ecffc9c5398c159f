/-
# Rollout.Proofs.Run.Reordering — runs do not ask in which order libraries are listed

Where the placeholders of an artifact's libraries are told apart, its payload is the same
however they are listed (`payload_reordered`).  A run of the reordered plan with the same
delivery then makes the same calls and comes to the same end, but for the fault it names
(`execute_alike`).  With another delivery that gives the same addresses, the step of the
artifact sends the same payload or sends nothing, in both runs (`execute_reordered`).

Both need the libraries to be told apart: two of one label take each other's slots, and a
placeholder that is read across two others spoils them (`execute_depends_on_listing`).
-/
import Rollout.Proofs.Linker.Filling
import Rollout.Proofs.Linker.Slots
import Rollout.Proofs.Plan.Reordering
import Rollout.Proofs.Run.Account
import Rollout.Proofs.Run.Planned

namespace Rollout

set_option autoImplicit false

namespace Run

/-! ## Payloads -/

section Payload

variable {source : Build.Source} {linkName : String → String} {a b : Artifact}
  {resolve resolve' : String → Option Address}

/-- Linked bytecode that is all digits is the same for reordered libraries. -/
theorem linkAll_of_reordered (reordered : a.Reordered b)
    (told : b = a ∨ Linker.Discernible linkName a.libraries) {address : String → Address}
    {l : Linker}
    (digits : ∀ c ∈ (Linker.linkAll linkName address l a.libraries).code, c ∈ Hex.alphabet) :
    Linker.linkAll linkName address l b.libraries =
      Linker.linkAll linkName address l a.libraries := by
  rcases told with rfl | discernible
  · rfl
  · exact Linker.linkAll_reordered discernible (fun _ => reordered.libraries.mem_iff) digits

/-- **A payload does not ask in which order libraries are listed.** -/
theorem payload_reordered (reordered : a.Reordered b)
    (told : b = a ∨ Linker.Discernible linkName a.libraries)
    (same : ∀ name, a.DependsOn name → resolve' name = resolve name) {sent : List UInt8}
    (paid : payload source linkName resolve a = .ok sent) :
    payload source linkName resolve' b = .ok sent := by
  obtain ⟨address, known⟩ := exists_addresses (resolved_of_payload paid)
  have known' : ∀ name, b.DependsOn name → resolve' name = some (address name) := by
    intro name depends
    have depends' := reordered.dependsOn_iff.mp depends
    rw [same name depends', known name depends']
  obtain ⟨compiled, code, encoded, loaded, complete, decoded, fits, rfl⟩ :=
    (payload_eq_ok_iff_madeFrom known).mp paid
  have linked := linkAll_of_reordered reordered told
    (Linker.mem_alphabet_of_bytes complete decoded)
  refine (payload_eq_ok_iff_madeFrom known').mpr ⟨compiled, code, encoded, ?_, ?_, ?_, ?_, rfl⟩
  · rw [reordered.buildName_eq]
    exact loaded
  · rw [linked]
    exact complete
  · rw [linked]
    exact decoded
  · rw [reordered.arguments_eq]
    exact fits

theorem payload_reordered_iff (reordered : a.Reordered b)
    (told : b = a ∨ Linker.Discernible linkName a.libraries)
    (same : ∀ name, a.DependsOn name → resolve' name = resolve name) {sent : List UInt8} :
    payload source linkName resolve' b = .ok sent ↔
      payload source linkName resolve a = .ok sent := by
  constructor
  · intro paid
    have told' : a = b ∨ Linker.Discernible linkName b.libraries := by
      rcases told with rfl | discernible
      · exact Or.inl rfl
      · exact Or.inr (discernible.mono fun _ => reordered.libraries.mem_iff.mp)
    apply payload_reordered reordered.symm told' ?_ paid
    intro name depends
    exact (same name (reordered.dependsOn_iff.mp depends)).symm
  · exact payload_reordered reordered told same

end Payload

/-! ## One delivery -/

section OneDelivery

variable {σ : Type}

/-- Where a run has halted, whatever the fault. -/
def Halt.place (halt : Halt) : List Record × Option (Nat × String) := (halt.completed, halt.step)

/-- Two runs that differ at most in the fault of their halt. -/
structure Alike (outcome outcome' : Outcome σ) : Prop where
  result : outcome'.result.mapError Halt.place = outcome.result.mapError Halt.place
  exchanges : outcome'.exchanges = outcome.exchanges
  delivery : outcome'.delivery = outcome.delivery

variable {linkName : String → String} {f : Artifact → Artifact}

theorem deliver_reordered {a b : Artifact} (setting : Setting σ) (reordered : a.Reordered b)
    (sent : List UInt8) (s : State σ) : deliver setting b sent s = deliver setting a sent s := by
  unfold deliver
  rw [reordered.name_eq]

/-- A step does the same with a reordered artifact, but for its fault. -/
theorem deploy_reordered {a b : Artifact} (setting : Setting σ) (reordered : a.Reordered b)
    (told : b = a ∨ Linker.Discernible linkName a.libraries) (s : State σ) :
    (deploy setting linkName b s).1.toOption = (deploy setting linkName a s).1.toOption ∧
      (deploy setting linkName b s).2 = (deploy setting linkName a s).2 := by
  have same : ∀ sent, payload setting.source linkName (addressOf s.records) b = .ok sent ↔
      payload setting.source linkName (addressOf s.records) a = .ok sent := fun sent =>
    payload_reordered_iff reordered told fun _ _ => rfl
  unfold deploy
  by_cases raised : setting.stop.raisedBefore s.records.length = true
  · rw [if_pos raised, if_pos raised]
    exact ⟨rfl, rfl⟩
  · rw [if_neg raised, if_neg raised]
    cases paid : payload setting.source linkName (addressOf s.records) a with
    | ok sent =>
        simp only [(same sent).mpr paid, deliver_reordered setting reordered, and_self]
    | error fault =>
        cases paid' : payload setting.source linkName (addressOf s.records) b with
        | ok sent =>
            rw [(same sent).mp paid'] at paid
            cases paid
        | error fault' => exact ⟨rfl, rfl⟩

/-- A row of steps does the same with reordered artifacts, but for its fault. -/
theorem deployAll_reordered {steps : List Plan.Step} (setting : Setting σ)
    (reorders : ∀ step ∈ steps, step.artifact.Reordered (f step.artifact))
    (told : ∀ step ∈ steps,
      f step.artifact = step.artifact ∨ Linker.Discernible linkName step.artifact.libraries)
    (s : State σ) :
    (deployAll setting linkName (steps.map (Plan.Step.mapArtifact f)) s).1.map Halt.place =
        (deployAll setting linkName steps s).1.map Halt.place ∧
      (deployAll setting linkName (steps.map (Plan.Step.mapArtifact f)) s).2 =
        (deployAll setting linkName steps s).2 := by
  induction steps generalizing s with
  | nil => exact ⟨rfl, rfl⟩
  | cons step rest ih =>
      obtain ⟨here, reorders⟩ := List.forall_mem_cons.mp reorders
      obtain ⟨toldHere, told⟩ := List.forall_mem_cons.mp told
      obtain ⟨results, states⟩ := deploy_reordered setting here toldHere s
      simp only [List.map_cons, deployAll, Plan.Step.mapArtifact]
      rcases deployed : deploy setting linkName step.artifact s with ⟨fault | record, next⟩
      · rw [deployed] at results states
        rcases deployed' : deploy setting linkName (f step.artifact) s with ⟨fault' | record', next'⟩
        · rw [deployed'] at states
          obtain rfl : next' = next := states
          simp [Halt.place, here.name_eq]
        · rw [deployed'] at results
          cases results
      · rw [deployed] at results states
        rcases deployed' : deploy setting linkName (f step.artifact) s with ⟨fault' | record', next'⟩
        · rw [deployed'] at results
          cases results
        · rw [deployed'] at results states
          obtain rfl : next' = next := states
          obtain rfl : record' = record := Option.some.inj results
          exact ih reorders told _

/-- **With one delivery, a run of reordered artifacts is the same**, but for the fault it
may halt with. -/
theorem execute_alike {artifacts : List Artifact} {plan : Plan}
    (built : Plan.build artifacts = .ok plan)
    (reorders : ∀ a ∈ artifacts, a.Reordered (f a))
    (told : ∀ a ∈ artifacts,
      f a = a ∨ Linker.Discernible (linkNameOf plan.artifacts) a.libraries)
    (setting : Setting σ) (network : Network) (start : σ) :
    Alike (execute setting plan network start)
      (execute setting (plan.mapArtifacts f) network start) := by
  have declared : ∀ step ∈ plan.steps, step.artifact ∈ artifacts := fun step member =>
    (Plan.perm_of_build built).mem_iff.mp (List.mem_map_of_mem member)
  have labels := Plan.linkNameOf_mapArtifacts reorders built
  unfold execute
  rcases answered : setting.delivery.chainId start with ⟨fault | chain, d⟩
  · exact ⟨rfl, rfl, rfl⟩
  · cases accepted : network.matcher.accepts chain with
    | false =>
        simp only [accepted, Bool.false_eq_true, if_false]
        exact ⟨rfl, rfl, rfl⟩
    | true =>
        simp only [accepted, if_true, labels]
        rw [Plan.steps_mapArtifacts]
        generalize (⟨d, [], [.chainId (.ok chain)]⟩ : State σ) = s
        have same := deployAll_reordered setting
          (fun step member => reorders _ (declared step member))
          (fun step member => told _ (declared step member)) s
        rcases ran : deployAll setting (linkNameOf plan.artifacts) plan.steps s with ⟨halt, last⟩
        rcases ran' : deployAll setting (linkNameOf plan.artifacts)
          (plan.steps.map (Plan.Step.mapArtifact f)) s with ⟨halt', last'⟩
        rw [ran, ran'] at same
        obtain ⟨places, rfl⟩ := same
        cases halt <;> cases halt'
        · exact ⟨rfl, rfl, rfl⟩
        · cases places
        · cases places
        · exact ⟨congrArg Except.error (Option.some.inj places), rfl, rfl⟩

end OneDelivery

/-! ## What a run does with a step -/

section Attempts

variable {σ : Type}

/-- A run that halts at a step, of which it has sent nothing. -/
structure HaltsUnsent (outcome : Outcome σ) (place : Nat) (step : Nat × String) : Prop where
  result : ∃ fault, outcome.result = .error ⟨outcome.records, some step, fault⟩
  records : outcome.records.length = place
  unsent : (Exchange.payloads outcome.exchanges).length = place

/-- What a run does with a step that it comes to: it sends the payload, if the step has
one and the run has not been told to stop, or it halts there. -/
inductive Attempt (setting : Setting σ) (linkName : String → String) (outcome : Outcome σ)
    (place : Nat) (step : Plan.Step) : Prop
  | sent (running : setting.stop.raisedBefore place = false) (sent : List UInt8)
      (paid : payload setting.source linkName (addressOf (outcome.records.take place))
        step.artifact = .ok sent)
      (there : (Exchange.payloads outcome.exchanges)[place]? = some sent)
  | unsent (why : setting.stop.raisedBefore place = true ∨ ∃ fault,
        payload setting.source linkName (addressOf (outcome.records.take place))
          step.artifact = .error fault)
      (halts : HaltsUnsent outcome place (step.index, step.artifact.name))

variable {setting : Setting σ} {plan : Plan} {network : Network} {start : σ}
  {linkName : String → String} {s last : State σ} {log : List Completion}
  {done rest : List Plan.Step} {step : Plan.Step}

/-- A step that a run has passed has sent its payload. -/
theorem Starts.attempt_of_passed (starts : Starts setting network start s)
    (advances : Advances setting linkName (done ++ step :: rest) s log last)
    {outcome : Outcome σ} (records : outcome.records = last.records) {calls : List Exchange}
    (exchanges : outcome.exchanges = last.exchanges ++ calls) :
    Attempt setting linkName outcome done.length step := by
  obtain ⟨front, c, back, mid, next, rfl, before, here⟩ := advances.step_at
  have count : front.length = done.length := before.length_eq
  have known : mid.records = last.records.take done.length := by
    rw [starts.records_eq before, starts.records_eq advances, ← count, List.map_append,
      ← List.length_map (·.record), List.take_left]
  have place : mid.records.length = done.length := by
    rw [starts.count_eq before, count]
  refine .sent (place ▸ here.running) c.payload ?_ ?_
  · rw [records, ← known]
    exact here.paid
  · rw [exchanges, starts.payloads_append advances, ← count]
    simp

/-- **What a run does with a step that it comes to.** -/
theorem Ends.attempt {outcome : Outcome σ} (ends : Ends setting plan network start outcome)
    (starts : ∃ s, Starts setting network start s) (place : plan.steps = done ++ step :: rest)
    (reached : done.length ≤ outcome.records.length) :
    Attempt setting (linkNameOf plan.artifacts) outcome done.length step := by
  cases ends with
  | unreached fault d failed => exact absurd starts (not_starts_of_unreached failed)
  | mismatched chain d answered refused =>
      exact absurd starts (not_starts_of_mismatched answered refused)
  | completed s' starts' log last advances =>
      rw [place] at advances
      exact starts'.attempt_of_passed advances rfl (List.append_nil _).symm
  | halted s' starts' done' step' rest' place' log last advances fault calls fails d =>
      have count : last.records.length = done'.length := by
        rw [starts'.count_eq advances, advances.length_eq]
      rcases Nat.lt_or_eq_of_le (count ▸ reached : done.length ≤ done'.length) with short | same
      · obtain ⟨between, rfl⟩ := exists_between place place' short
        exact starts'.attempt_of_passed advances rfl rfl
      · obtain ⟨rfl, here⟩ := List.append_inj (place.symm.trans place') same
        cases here
        have all : last.records.take done.length = last.records := by
          rw [← count, List.take_length]
        rcases fails.attempt with ⟨running, sent, paid, only⟩ | ⟨why, rfl⟩
        · refine .sent (count ▸ running) sent ?_ ?_
          · show payload _ _ (addressOf (last.records.take done.length)) _ = _
            rw [all]
            exact paid
          · show (Exchange.payloads (last.exchanges ++ calls))[done.length]? = some sent
            rw [starts'.payloads_append advances, only, ← advances.length_eq]
            simp
        · refine .unsent ?_ ⟨⟨fault, rfl⟩, count, ?_⟩
          · show _ ∨ ∃ fault, payload _ _ (addressOf (last.records.take done.length)) _ = _
            rw [all, ← count]
            exact why
          · show (Exchange.payloads (last.exchanges ++ [])).length = done.length
            rw [starts'.payloads_append advances, List.length_append, List.length_map,
              advances.length_eq]
            rfl

end Attempts

/-! ## Two deliveries -/

section TwoDeliveries

variable {σ τ : Type}

/-- Two runs that do the same with a step: they send the same payload for it, or both halt
there with nothing sent. -/
inductive Agree (outcome : Outcome σ) (outcome' : Outcome τ) (place : Nat)
    (step : Nat × String) : Prop
  | sent (payload : List UInt8)
      (first : (Exchange.payloads outcome.exchanges)[place]? = some payload)
      (second : (Exchange.payloads outcome'.exchanges)[place]? = some payload)
  | unsent (first : HaltsUnsent outcome place step) (second : HaltsUnsent outcome' place step)

/-- Attempts at reordered artifacts agree, when what they depend on has the same addresses. -/
theorem Attempt.agree {setting : Setting σ} {setting' : Setting τ} {linkName : String → String}
    {outcome : Outcome σ} {outcome' : Outcome τ} {place : Nat} {step step' : Plan.Step}
    (attempt : Attempt setting linkName outcome place step)
    (attempt' : Attempt setting' linkName outcome' place step')
    (reordered : step.artifact.Reordered step'.artifact) (index : step'.index = step.index)
    (told : step'.artifact = step.artifact ∨
      Linker.Discernible linkName step.artifact.libraries)
    (source : setting'.source = setting.source) (stop : setting'.stop = setting.stop)
    (same : ∀ name, step.artifact.DependsOn name →
      addressOf (outcome'.records.take place) name = addressOf (outcome.records.take place) name) :
    Agree outcome outcome' place (step.index, step.artifact.name) := by
  have payable : ∀ sent,
      payload setting'.source linkName (addressOf (outcome'.records.take place)) step'.artifact =
          .ok sent ↔
        payload setting.source linkName (addressOf (outcome.records.take place)) step.artifact =
          .ok sent := by
    intro sent
    rw [source]
    exact payload_reordered_iff reordered told same
  cases attempt with
  | sent running sent paid there =>
      cases attempt' with
      | sent running' sent' paid' there' =>
          rw [(payable sent).mpr paid, Except.ok.injEq] at paid'
          exact .sent sent there (paid' ▸ there')
      | unsent why halts =>
          rw [stop, running, (payable sent).mpr paid] at why
          rcases why with absurd | ⟨fault, absurd⟩ <;> cases absurd
  | unsent why halts =>
      cases attempt' with
      | sent running' sent' paid' there' =>
          rw [← stop, running', (payable sent').mp paid'] at why
          rcases why with absurd | ⟨fault, absurd⟩ <;> cases absurd
      | unsent why' halts' =>
          rw [index, reordered.name_eq] at halts'
          exact .unsent halts halts'

end TwoDeliveries

/-! ## Runs -/

/-- Relisting the libraries of one declared artifact reorders artifacts. -/
theorem relist_reorders {artifacts : List Artifact} (distinct : (artifacts.map (·.name)).Nodup)
    {a : Artifact} (declared : a ∈ artifacts) {libraries : List String}
    (permuted : libraries.Perm a.libraries) :
    ∀ b ∈ artifacts, b.Reordered (b.relist a.name libraries) ∧ (b = a ∨
      b.relist a.name libraries = b) := by
  intro b member
  by_cases named : b.name = a.name
  · obtain rfl : b = a := List.inj_on_of_nodup_map distinct member declared named
    refine ⟨?_, Or.inl rfl⟩
    rw [Artifact.relist, if_pos rfl]
    exact ⟨permuted, rfl⟩
  · rw [Artifact.relist, if_neg named]
    exact ⟨.refl b, Or.inr rfl⟩

/-- Two runs that come to the same place in their plans, with the same build outputs and
stops, and with the same addresses of what the artifact there depends on. -/
structure Meet {σ τ : Type} (setting : Setting σ) (setting' : Setting τ) (plan plan' : Plan)
    (network network' : Network) (start : σ) (start' : τ) (done : List Plan.Step)
    (a : Artifact) : Prop where
  source : setting'.source = setting.source
  stop : setting'.stop = setting.stop
  first : Reaches setting plan network start done
  second : Reaches setting' plan' network' start' done
  addresses : ∀ name, a.DependsOn name →
    addressOf ((execute setting' plan' network' start').records.take done.length) name =
      addressOf ((execute setting plan network start).records.take done.length) name

/-- **The order in which an artifact lists its libraries does not decide what is deployed**,
when their placeholders are told apart.  The artifacts have the same plan but for that order.
With one delivery, the run is the same but for the fault it may halt with; with two that
give the same addresses, the step of the artifact sends the same payload, or both runs
halt there with nothing sent. -/
theorem execute_reordered {artifacts : List Artifact} {plan : Plan}
    (built : Plan.build artifacts = .ok plan) {a : Artifact} (declared : a ∈ artifacts)
    {libraries : List String} (permuted : libraries.Perm a.libraries)
    (told : Linker.Discernible (linkNameOf plan.artifacts) a.libraries) :
    ∃ plan', Plan.build (artifacts.map (Artifact.relist a.name libraries)) = .ok plan' ∧
      (∀ (σ : Type) (setting : Setting σ) (network : Network) (start : σ),
        Alike (execute setting plan network start) (execute setting plan' network start)) ∧
      ∀ (σ τ : Type) (setting : Setting σ) (setting' : Setting τ) (network network' : Network)
        (start : σ) (start' : τ) (done rest : List Plan.Step) (index : Nat),
        plan.steps = done ++ ⟨index, a⟩ :: rest →
        Meet setting setting' plan plan' network network' start start' done a →
        Agree (execute setting plan network start) (execute setting' plan' network' start')
          done.length (index, a.name) := by
  have distinct := (Plan.check_passes_iff.mp (Plan.build_eq_ok_iff.mp built).1).1
  have relisted := relist_reorders distinct declared permuted
  have reorders : ∀ b ∈ artifacts, b.Reordered (b.relist a.name libraries) := fun b member =>
    (relisted b member).1
  let f := Artifact.relist a.name libraries
  refine ⟨plan.mapArtifacts f, Plan.build_reordered reorders built,
    fun σ setting network start => ?_, ?_⟩
  · refine execute_alike built reorders (fun b member => ?_) setting network start
    rcases (relisted b member).2 with rfl | kept
    · exact Or.inr told
    · exact Or.inl kept
  · intro σ τ setting setting' network network' start start' done rest index place meet
    have labels := Plan.linkNameOf_mapArtifacts reorders built
    have place' : (plan.mapArtifacts f).steps = done.map (Plan.Step.mapArtifact f) ++
        ⟨index, f a⟩ :: rest.map (Plan.Step.mapArtifact f) := by
      rw [Plan.steps_mapArtifacts, place, List.map_append, List.map_cons]
      rfl
    have count : (done.map (Plan.Step.mapArtifact f)).length = done.length := List.length_map _
    have attempt := (execute_ends setting plan network start).attempt meet.first.starts place
      meet.first.recorded
    have attempt' := (execute_ends setting' (plan.mapArtifacts f) network' start').attempt
      meet.second.starts place' (count ▸ meet.second.recorded)
    rw [labels, count] at attempt'
    exact attempt.agree attempt' (reorders a declared) rfl (Or.inr told) meet.source meet.stop
      meet.addresses

/-! ## Libraries that are told apart, and libraries that are not -/

/-- Two libraries and a contract that links them, listed in one order or the other. -/
def Sample.pair (listed : List String) : List Artifact :=
  [.library "Math", .library "Codec", { name := "App", libraries := listed }]

def Sample.linking (offset : Nat) : Setting Nat :=
  ⟨Sample.slotted, Sample.counting offset, .never, fun _ => default⟩

theorem Sample.discernible :
    Linker.Discernible (linkNameOf (Sample.pair ["Math", "Codec"])) ["Math", "Codec"] := by
  have among : ∀ library ∈ ["Math", "Codec"], library ∈ ({"Math", "Codec"} : Set String) := by
    intro library member
    simpa using member
  have labelled : ∀ library ∈ ["Math", "Codec"],
      linkNameOf (Sample.pair ["Math", "Codec"]) library = library := by decide
  refine Template.Separate.discernible ⟨?_, ?_⟩
  · intro library member
    rw [labelled library member]
    exact Template.Sample.distinguishable.plain library (among library member)
  · intro library member other member' differ form
    rw [labelled library member, labelled other member']
    exact Template.Sample.distinguishable.apart library (among library member) other
      (among other member') differ form

/-- With other transactions and in the other order, the contract is sent with the same
payload. -/
theorem execute_reordered_pair :
    ∃ plan', Plan.build ((Sample.pair ["Math", "Codec"]).map
        (Artifact.relist "App" ["Codec", "Math"])) = .ok plan' ∧
      Agree (execute (Sample.linking 0) (.ofArtifacts (Sample.pair ["Math", "Codec"])) {} 0)
        (execute (Sample.linking 9) plan' {} 0) 2 (2, "App") := by
  have built : Plan.build (Sample.pair ["Math", "Codec"]) =
      .ok (.ofArtifacts (Sample.pair ["Math", "Codec"])) := rfl
  have declared : (⟨"App", .contract, none, none, [], ["Math", "Codec"]⟩ : Artifact) ∈
      Sample.pair ["Math", "Codec"] := by simp [Sample.pair]
  obtain ⟨plan', built', -, agree⟩ :=
    execute_reordered built declared (.swap "Math" "Codec" []) Sample.discernible
  refine ⟨plan', built', ?_⟩
  obtain rfl : Plan.ofArtifacts (Sample.pair ["Codec", "Math"]) = plan' := by
    have other : Plan.build (Sample.pair ["Codec", "Math"]) =
      .ok (.ofArtifacts (Sample.pair ["Codec", "Math"])) := rfl
    exact Except.ok.inj (other.symm.trans built')
  have starts : ∀ offset, ∃ s, Starts (Sample.linking offset) {} 0 s := fun offset =>
    ⟨⟨0, [], [.chainId (.ok 1)]⟩, ⟨1, rfl, rfl, rfl⟩, rfl⟩
  refine agree Nat Nat (Sample.linking 0) (Sample.linking 9) {} {} 0 0
    [⟨0, .library "Math"⟩, ⟨1, .library "Codec"⟩] [] 2 rfl ⟨rfl, rfl, ⟨starts 0, ?_⟩,
      ⟨starts 9, ?_⟩, ?_⟩
  · decide
  · decide
  · rintro name (linked | referred)
    · simp only [List.mem_cons, List.not_mem_nil, or_false] at linked
      rcases linked with rfl | rfl <;> rfl
    · cases referred

def Sample.zeros : String := "000000000000000000000000000000000000"

/-- Two libraries of one label, a third, one that is named by digits, and a contract. -/
def Sample.muddle (listed : List String) : List Artifact :=
  [.library "Math", (Artifact.library "Other").withLinkName "Math", .library "Codec",
    .library Sample.zeros, { name := "App", libraries := listed }]

/-- The run that deploys the contract with this bytecode, and its libraries listed so. -/
def Sample.run (bytecode : String) (listed : List String) : Outcome Nat :=
  execute ⟨Sample.serving bytecode, Sample.counting 0, .never, fun _ => default⟩
    (.ofArtifacts (Sample.muddle listed)) {} 0

/-- A slot, digits that are a label, and a slot. -/
def Sample.crossed : String := Sample.slot "Math" ++ Sample.zeros ++ Sample.slot "Codec"

/-- Two libraries of one label fill a slot with the address of the one that is listed first.
Digits that are a label are found between two slots, unless these are filled before.  The
libraries have the same addresses throughout. -/
theorem execute_depends_on_listing :
    (∀ case ∈ [(Sample.slot "Math", ["Math", "Other"]), (Sample.slot "Math", ["Other", "Math"]),
        (Sample.crossed, ["Math", "Codec", Sample.zeros]),
        (Sample.crossed, [Sample.zeros, "Math", "Codec"])],
      Plan.build (Sample.muddle case.2) = .ok (.ofArtifacts (Sample.muddle case.2)) ∧
        ((Sample.run case.1 case.2).records.take 4).map (·.address) =
          [.repeated 20 1, .repeated 20 2, .repeated 20 3, .repeated 20 4]) ∧
    (Exchange.payloads (Sample.run (Sample.slot "Math") ["Math", "Other"]).exchanges)[4]? =
      some (List.replicate 20 1) ∧
    (Exchange.payloads (Sample.run (Sample.slot "Math") ["Other", "Math"]).exchanges)[4]? =
      some (List.replicate 20 2) ∧
    (Exchange.payloads
        (Sample.run Sample.crossed ["Math", "Codec", Sample.zeros]).exchanges)[4]? =
      some (List.replicate 20 1 ++ List.replicate 18 0 ++ List.replicate 20 3) ∧
    (Exchange.payloads
        (Sample.run Sample.crossed [Sample.zeros, "Math", "Codec"]).exchanges)[4]? = none := by
  refine ⟨?_, rfl, rfl, by decide +kernel, by decide +kernel⟩
  intro case member
  simp only [List.mem_cons, List.not_mem_nil, or_false] at member
  rcases member with rfl | rfl | rfl | rfl <;> exact ⟨rfl, by decide +kernel⟩

end Run

end Rollout
