/-
# Rollout.Proofs.Run.Dependencies — nothing is sent before what it depends on

When a run sends a payload, it has confirmed everything that the artifact depends on,
with receipts of this same run, and the payload is made from the addresses in these
records (`Sent`).  A step that depends on something without a record sends nothing, and
the run halts there (`Halted`).  Both hold of every plan, however it was made.
-/
import Rollout.Proofs.Run.Steps

namespace Rollout

set_option autoImplicit false

/-! ## Addresses of records -/

namespace Run

theorem addressOf_eq_some {records : List Record} {name : String} {address : Address}
    (found : addressOf records name = some address) :
    ∃ record ∈ records, record.artifact = name ∧ record.address = address := by
  obtain ⟨record, first, rfl⟩ := Option.map_eq_some_iff.mp found
  have named := List.find?_some first
  simp only [decide_eq_true_eq] at named
  exact ⟨record, List.mem_of_find?_eq_some first, named, rfl⟩

theorem addressOf_eq_none_iff {records : List Record} {name : String} :
    addressOf records name = none ↔ ∀ record ∈ records, record.artifact ≠ name := by
  simp [addressOf]

end Run

/-! ## Calls -/

namespace Exchange

/-- A payload is sent by a completed step, or in the calls behind them. -/
theorem submit_split {log : List Run.Completion} {tail before after : List Exchange}
    {payload : List UInt8} {answer : Except Delivery.Fault TxHash}
    (split : log.flatMap (·.exchanges) ++ tail = before ++ .submit payload answer :: after) :
    (∃ front c back, log = front ++ c :: back ∧ before = front.flatMap (·.exchanges) ∧
      payload = c.payload) ∨
    ∃ mid, before = log.flatMap (·.exchanges) ++ mid ∧
      tail = mid ++ .submit payload answer :: after := by
  induction log generalizing before with
  | nil => exact Or.inr ⟨before, rfl, split⟩
  | cons c rest ih =>
      rw [List.flatMap_cons, Run.Completion.exchanges] at split
      -- A completed step makes two calls, of which the first sends the payload.
      rcases before with _ | ⟨first, _ | ⟨second, before⟩⟩
      · simp only [List.cons_append, List.nil_append, List.cons.injEq, submit.injEq] at split
        exact Or.inl ⟨[], c, rest, rfl, rfl, split.1.1.symm⟩
      · simp at split
      · simp only [List.cons_append, List.nil_append, List.cons.injEq] at split
        obtain ⟨rfl, rfl, split⟩ := split
        rcases ih split with ⟨front, c', back, rfl, rfl, rfl⟩ | ⟨mid, rfl, rfl⟩
        · exact Or.inl ⟨c :: front, c', back, rfl, rfl, rfl⟩
        · exact Or.inr ⟨mid, rfl, rfl⟩

end Exchange

namespace Run

section

variable {σ : Type} {setting : Setting σ} {linkName : String → String} {a : Artifact}
  {s : State σ} {fault : Fault} {calls : List Exchange}

/-- A step that fails sends its payload, if it has one, and nothing else. -/
theorem Fails.calls_cases (fails : Fails setting linkName a s fault calls) :
    calls = [] ∨ ∃ sent answer waits,
      payload setting.source linkName (addressOf s.records) a = .ok sent ∧
        calls = .submit sent answer :: waits ∧ Exchange.payloads waits = [] := by
  cases fails with
  | stopped => exact Or.inl rfl
  | unpayable => exact Or.inl rfl
  | refused _ sent paid => exact Or.inr ⟨sent, _, _, paid, rfl, rfl⟩
  | interrupted _ sent paid => exact Or.inr ⟨sent, _, _, paid, rfl, rfl⟩
  | unconfirmed _ sent paid => exact Or.inr ⟨sent, _, _, paid, rfl, rfl⟩
  | rejected _ sent paid => exact Or.inr ⟨sent, _, _, paid, rfl, rfl⟩

theorem Fails.payload_of_submit (fails : Fails setting linkName a s fault calls)
    {before after : List Exchange} {sent : List UInt8}
    {answer : Except Delivery.Fault TxHash} (split : calls = before ++ .submit sent answer :: after) :
    before = [] ∧ payload setting.source linkName (addressOf s.records) a = .ok sent := by
  rcases fails.calls_cases with rfl | ⟨sent', answer', waits, paid, rfl, silent⟩
  · simp at split
  · cases before with
    | nil =>
        simp only [List.nil_append, List.cons.injEq, Exchange.submit.injEq] at split
        obtain ⟨⟨rfl, -⟩, -⟩ := split
        exact ⟨rfl, paid⟩
    | cons first before =>
        simp only [List.cons_append, List.cons.injEq] at split
        obtain ⟨-, rfl⟩ := split
        simp [Exchange.payloads] at silent

theorem Fails.payloads_eq_nil (fails : Fails setting linkName a s fault calls)
    (unpaid : ∀ sent, payload setting.source linkName (addressOf s.records) a ≠ .ok sent) :
    Exchange.payloads calls = [] := by
  rcases fails.calls_cases with rfl | ⟨sent, _, _, paid, -⟩
  · rfl
  · exact absurd paid (unpaid sent)

/-! ## Steps that are passed -/

variable {steps done rest : List Plan.Step} {step : Plan.Step} {log : List Completion}
  {last : State σ}

/-- A row of completed steps passes each of them with the records of those before. -/
theorem Advances.step_at (advances : Advances setting linkName (done ++ step :: rest) s log last) :
    ∃ front c back mid next, log = front ++ c :: back ∧
      Advances setting linkName done s front mid ∧
      Completes setting linkName step.artifact mid c next := by
  induction done generalizing s log with
  | nil =>
      cases advances with
      | step completes _ => exact ⟨[], _, _, s, _, rfl, .nothing s, completes⟩
  | cons first done ih =>
      cases advances with
      | step completes others =>
          obtain ⟨front, c, back, mid, next, rfl, before, here⟩ := ih others
          exact ⟨_ :: front, c, back, mid, next, rfl, .step completes before, here⟩

/-- What a completed step depends on has a record of an earlier step. -/
theorem Advances.recorded_at
    (advances : Advances setting linkName (done ++ step :: rest) s log last)
    (fresh : s.records = []) {name : String} (depends : step.artifact.DependsOn name) :
    ∃ record ∈ last.records.take done.length, record.artifact = name := by
  obtain ⟨front, c, back, mid, next, rfl, before, here⟩ := advances.step_at
  have known : mid.records = last.records.take done.length := by
    rw [before.records_eq, advances.records_eq, fresh, ← before.length_eq]
    simp
  obtain ⟨address, resolved⟩ := resolved_of_payload here.paid name depends
  obtain ⟨record, member, named, -⟩ := addressOf_eq_some resolved
  exact ⟨record, known ▸ member, named⟩

/-! ## Dependencies first -/

section Dependencies

variable (setting : Setting σ) (plan : Plan) (network : Network)

/-- What a run has done when it sends a payload for a step: `done` are the steps before,
`log` is what they left behind, and `before` are the calls made so far. -/
structure Sent (outcome : Outcome σ) (before : List Exchange) (payload : List UInt8)
    (done : List Plan.Step) (step : Plan.Step) (log : List Completion) : Prop where
  place : ∃ rest, plan.steps = done ++ step :: rest
  calls : ∃ chain, network.matcher.accepts chain = true ∧
    before = .chainId (.ok chain) :: log.flatMap (·.exchanges)
  /-- Each step before is confirmed by its receipt. -/
  confirmed : List.Forall₂ (fun step c => c.Confirms step.artifact) done log
  recorded : log.map (·.record) <+: outcome.records
  /-- The payload is made from addresses that these receipts report. -/
  made : ∃ address, MadeFrom setting.source (linkNameOf plan.artifacts) address
      step.artifact payload ∧
    ∀ name, step.artifact.DependsOn name →
      ∃ c ∈ log, c.record.artifact = name ∧ c.record.address = address name

/-- A run comes to the step behind some others: the network is the right one, and each
of the others has a record. -/
structure Reaches (start : σ) (done : List Plan.Step) : Prop where
  starts : ∃ s, Starts setting network start s
  recorded : done.length ≤ (execute setting plan network start).records.length

/-- Why a step fails that depends on something without a record, in the order in which
the reasons are found. -/
inductive Unmet (records : List Record) (a : Artifact) : Fault → Prop
  /-- The run has been told to stop. -/
  | stopped (raised : setting.stop.raisedBefore records.length = true) :
      Unmet records a (.cancelled a.name)
  /-- An artifact that the constructor refers to has no record. -/
  | reference (name : String) (referred : name ∈ a.references)
      (absent : ∀ record ∈ records, record.artifact ≠ name) :
      Unmet records a (.unresolvedReference a.name name)
  /-- Those have records, but the build output cannot be used. -/
  | build (referred : ∀ name ∈ a.references, ∃ record ∈ records, record.artifact = name)
      (fault : Build.Fault) (failed : setting.source a.buildName = .error fault) :
      Unmet records a (.build fault)
  /-- A library has no record. -/
  | library (referred : ∀ name ∈ a.references, ∃ record ∈ records, record.artifact = name)
      (name : String) (linked : name ∈ a.libraries)
      (absent : ∀ record ∈ records, record.artifact ≠ name) :
      Unmet records a (.missingLink a.name name)

/-- A run that halts at a step, for which it has sent nothing. -/
structure Halted (outcome : Outcome σ) (done : List Plan.Step) (step : Plan.Step) : Prop where
  records : outcome.records.map (·.artifact) = done.map (·.artifact.name)
  result : ∃ fault, Unmet setting outcome.records step.artifact fault ∧ outcome.result =
    .error ⟨outcome.records, some (step.index, step.artifact.name), fault⟩
  unsent : (Exchange.payloads outcome.exchanges).length = done.length

variable {setting plan network}

/-- A payload that is made from records depends only on what has one. -/
theorem madeFrom_of_payload {log : List Completion} {a : Artifact} {sent : List UInt8}
    (paid : payload setting.source linkName (addressOf (log.map (·.record))) a = .ok sent) :
    ∃ address, MadeFrom setting.source linkName address a sent ∧
      ∀ name, a.DependsOn name →
        ∃ c ∈ log, c.record.artifact = name ∧ c.record.address = address name := by
  obtain ⟨address, agrees⟩ := exists_addresses (resolved_of_payload paid)
  refine ⟨address, (payload_eq_ok_iff_madeFrom agrees).mp paid, fun name depends => ?_⟩
  obtain ⟨record, member, named, same⟩ := addressOf_eq_some (agrees name depends)
  obtain ⟨c, logged, rfl⟩ := List.mem_map.mp member
  exact ⟨c, logged, named, same⟩

/-- With something missing, there is no payload, for one of these reasons. -/
theorem unmet_of_payload {records : List Record} {a : Artifact} {name : String}
    (depends : a.DependsOn name) (absent : addressOf records name = none) {fault : Fault}
    (failed : payload setting.source linkName (addressOf records) a = .error fault) :
    Unmet setting records a fault := by
  have recorded : ∀ values, arguments (addressOf records) a = .ok values →
      ∀ name ∈ a.references, ∃ record ∈ records, record.artifact = name := by
    intro values resolved name referred
    obtain ⟨address, known⟩ := resolved_of_arguments resolved name referred
    obtain ⟨record, member, named, -⟩ := addressOf_eq_some known
    exact ⟨record, member, named⟩
  -- Once the arguments are resolved and the libraries linked, nothing is missing.
  have unlinked : ∀ values bytecode l, arguments (addressOf records) a = .ok values →
      linked linkName (addressOf records) a bytecode ≠ .ok l := by
    intro values bytecode l resolved ok
    have known : ∃ address, addressOf records name = some address := by
      rcases depends with member | member
      · exact resolved_of_linked ok name member
      · exact resolved_of_arguments resolved name member
    obtain ⟨address, known⟩ := known
    rw [absent] at known
    cases known
  cases unpayable_of_payload failed with
  | reference name referred absent =>
      exact .reference name referred (addressOf_eq_none_iff.mp absent)
  | build values resolved fault lost => exact .build (recorded values resolved) fault lost
  | library values resolved compiled loaded name member absent =>
      exact .library (recorded values resolved) name member (addressOf_eq_none_iff.mp absent)
  | placeholder values resolved compiled _ l ok =>
      exact absurd ok (unlinked values compiled.bytecode l resolved)
  | hex values resolved compiled _ l ok =>
      exact absurd ok (unlinked values compiled.bytecode l resolved)
  | encoding values resolved compiled _ code decoded =>
      obtain ⟨l, ok, -⟩ := creationCode_eq_ok_iff.mp decoded
      exact absurd ok (unlinked values compiled.bytecode l resolved)

/-- A step with something missing fails for one of these reasons, and sends nothing. -/
theorem Fails.unmet {s : State σ} {a : Artifact} {fault : Fault} {calls : List Exchange}
    (fails : Fails setting linkName a s fault calls) {name : String} (depends : a.DependsOn name)
    (absent : ∀ record ∈ s.records, record.artifact ≠ name) :
    Unmet setting s.records a fault ∧ Exchange.payloads calls = [] := by
  have unknown : addressOf s.records name = none := addressOf_eq_none_iff.mpr absent
  have unpaid : ∀ sent, payload setting.source linkName (addressOf s.records) a ≠ .ok sent := by
    intro sent paid
    obtain ⟨address, known⟩ := resolved_of_payload paid name depends
    rw [unknown] at known
    cases known
  refine ⟨?_, fails.payloads_eq_nil unpaid⟩
  cases fails with
  | stopped raised => exact .stopped raised
  | unpayable running _ failed => exact unmet_of_payload depends unknown failed
  | refused _ sent paid => exact absurd paid (unpaid sent)
  | interrupted _ sent paid => exact absurd paid (unpaid sent)
  | unconfirmed _ sent paid => exact absurd paid (unpaid sent)
  | rejected _ sent paid => exact absurd paid (unpaid sent)

/-- A payload is sent by a completed step, or in the calls behind them. -/
theorem Starts.submit_split {start : σ} {s last : State σ} {steps : List Plan.Step}
    {log : List Completion} (starts : Starts setting network start s)
    (advances : Advances setting linkName steps s log last)
    {tail before after : List Exchange} {sent : List UInt8}
    {answer : Except Delivery.Fault TxHash}
    (split : last.exchanges ++ tail = before ++ .submit sent answer :: after) :
    ∃ chain, network.matcher.accepts chain = true ∧
      ((∃ front c back, log = front ++ c :: back ∧ sent = c.payload ∧
          before = .chainId (.ok chain) :: front.flatMap (·.exchanges)) ∨
        ∃ mid, before = .chainId (.ok chain) :: log.flatMap (·.exchanges) ++ mid ∧
          tail = mid ++ .submit sent answer :: after) := by
  obtain ⟨chain, -, accepted, first⟩ := starts.connected
  refine ⟨chain, accepted, ?_⟩
  rw [advances.exchanges_eq, first] at split
  cases before with
  | nil => simp at split
  | cons call before =>
      simp only [List.cons_append, List.nil_append, List.cons.injEq] at split
      obtain ⟨rfl, split⟩ := split
      rcases Exchange.submit_split split with ⟨front, c, back, rfl, rfl, rfl⟩ | ⟨mid, rfl, rfl⟩
      · exact Or.inl ⟨front, c, back, rfl, rfl, rfl⟩
      · exact Or.inr ⟨mid, rfl, rfl⟩

/-- A step that has completed, wherever the run went from there, has sent its payload
behind the records of what it depends on. -/
theorem Starts.sent_of_completed {start : σ} {s last : State σ} {steps rest : List Plan.Step}
    {front back : List Completion} {c : Completion} (starts : Starts setting network start s)
    (advances : Advances setting (linkNameOf plan.artifacts) steps s (front ++ c :: back) last)
    (place : plan.steps = steps ++ rest) {outcome : Outcome σ}
    (records : outcome.records = last.records) {chain : UInt64}
    (accepted : network.matcher.accepts chain = true) :
    ∃ done step log, Sent setting plan network outcome
      (.chainId (.ok chain) :: front.flatMap (·.exchanges)) c.payload done step log := by
  obtain ⟨done, step, more, mid, next, rfl, earlier, here, -⟩ := advances.cut
  have known : mid.records = front.map (·.record) := starts.records_eq earlier
  have recorded : front.map (·.record) <+: outcome.records := by
    rw [records, starts.records_eq advances, List.map_append]
    exact List.prefix_append ..
  exact ⟨done, step, front, ⟨more ++ rest, by simp [place]⟩, ⟨chain, accepted, rfl⟩,
    earlier.confirms, recorded, madeFrom_of_payload (known ▸ here.paid)⟩

/-- **Dependencies first.**  Every payload of a run is sent behind the records of what
its artifact depends on. -/
theorem Ends.sent {start : σ} {outcome : Outcome σ}
    (ends : Ends setting plan network start outcome) {before after : List Exchange}
    {sent : List UInt8} {answer : Except Delivery.Fault TxHash}
    (split : outcome.exchanges = before ++ .submit sent answer :: after) :
    ∃ done step log, Sent setting plan network outcome before sent done step log := by
  cases ends with
  | unreached fault d failed => simp [List.cons_eq_append_iff] at split
  | mismatched chain d answered refused => simp [List.cons_eq_append_iff] at split
  | completed s starts log last advances =>
      have split : last.exchanges ++ [] = before ++ .submit sent answer :: after := by
        rw [List.append_nil, ← split]
      obtain ⟨chain, accepted, ⟨front, c, back, rfl, rfl, rfl⟩ | ⟨mid, -, absurd⟩⟩ :=
        starts.submit_split advances split
      · exact starts.sent_of_completed advances (List.append_nil _).symm rfl accepted
      · simp at absurd
  | halted s starts done step rest place log last advances fault calls fails d =>
      obtain ⟨chain, accepted, ⟨front, c, back, rfl, rfl, rfl⟩ | ⟨mid, rfl, later⟩⟩ :=
        starts.submit_split advances split
      · exact starts.sent_of_completed advances place rfl accepted
      · obtain ⟨rfl, paid⟩ := fails.payload_of_submit later
        have known : last.records = log.map (·.record) := starts.records_eq advances
        exact ⟨done, step, log, ⟨rest, place⟩, ⟨chain, accepted, by simp⟩, advances.confirms,
          known ▸ List.prefix_rfl, madeFrom_of_payload (known ▸ paid)⟩

/-- Of two places in a plan, the steps before the later one hold the earlier one. -/
theorem exists_between {done done' rest rest' : List Plan.Step} {step step' : Plan.Step}
    (place : plan.steps = done ++ step :: rest) (place' : plan.steps = done' ++ step' :: rest')
    (short : done.length < done'.length) : ∃ between, done' = done ++ step :: between := by
  have upToStep : done ++ [step] <+: plan.steps := ⟨rest, by simp [place]⟩
  have upToLater : done' <+: plan.steps := ⟨step' :: rest', place'.symm⟩
  obtain ⟨between, passed⟩ : done ++ [step] <+: done' :=
    List.prefix_of_prefix_length_le upToStep upToLater (by simpa [Nat.succ_le_iff] using short)
  exact ⟨between, by rw [← passed, List.append_assoc]; rfl⟩

/-- Steps that complete up to a later one pass the steps before it. -/
theorem Advances.passes {done' rest rest' : List Plan.Step} {step' : Plan.Step}
    {done : List Plan.Step} {step : Plan.Step} {s last : State σ} {log : List Completion}
    (advances : Advances setting linkName done' s log last) (fresh : s.records = [])
    (place : plan.steps = done ++ step :: rest) (place' : plan.steps = done' ++ step' :: rest')
    (short : done.length < done'.length) {name : String} (depends : step.artifact.DependsOn name) :
    ∃ record ∈ last.records.take done.length, record.artifact = name := by
  obtain ⟨between, rfl⟩ := exists_between place place' short
  exact advances.recorded_at fresh depends

/-- A run that comes to a step with a dependency that has no record halts there. -/
theorem Ends.halted_at {start : σ} {outcome : Outcome σ}
    (ends : Ends setting plan network start outcome) {s : State σ}
    (starts : Starts setting network start s) {done rest : List Plan.Step} {step : Plan.Step}
    (place : plan.steps = done ++ step :: rest) (reached : done.length ≤ outcome.records.length)
    {name : String} (depends : step.artifact.DependsOn name)
    (absent : ∀ record ∈ outcome.records.take done.length, record.artifact ≠ name) :
    Halted setting outcome done step := by
  obtain ⟨chain, answered, accepted, -⟩ := starts.connected
  cases ends with
  | unreached fault d failed =>
      rw [answered] at failed
      cases failed
  | mismatched chain' d answered' refused =>
      rw [answered] at answered'
      cases answered'
      rw [accepted] at refused
      cases refused
  | completed s' starts' log last advances =>
      obtain ⟨record, member, named⟩ :=
        Advances.recorded_at (place ▸ advances) starts'.records depends
      exact absurd named (absent record member)
  | halted s' starts' done' step' rest' place' log last advances fault calls fails d =>
      have known : last.records = log.map (·.record) := starts'.records_eq advances
      have count : last.records.length = done'.length := by
        rw [known, List.length_map, advances.length_eq]
      rcases Nat.lt_or_eq_of_le (count ▸ reached : done.length ≤ done'.length) with short | same
      · obtain ⟨record, member, named⟩ :=
          advances.passes starts'.records place place' short depends
        exact absurd named (absent record member)
      · obtain ⟨rfl, here⟩ := List.append_inj (place.symm.trans place') same
        cases here
        have absent : ∀ record ∈ last.records, record.artifact ≠ name := by
          rwa [← count, show Outcome.records _ = last.records from rfl, List.take_length] at absent
        obtain ⟨unmet, silent⟩ := fails.unmet depends absent
        refine ⟨?_, ⟨fault, unmet, rfl⟩, ?_⟩
        · show last.records.map (·.artifact) = done.map (·.artifact.name)
          rw [known, List.map_map, ← advances.names_eq]
          rfl
        · show (Exchange.payloads (last.exchanges ++ calls)).length = done.length
          rw [payloads_append, starts'.payloads_eq advances, silent, List.append_nil,
            List.length_map, advances.length_eq]

/-- **Dependencies first, in every run of every plan.**  A payload is sent only behind
the records of what its artifact depends on, and is made from the addresses in them; a
run that comes to a step with a dependency that has no record halts there. -/
theorem execute_dependencies_first (setting : Setting σ) (plan : Plan) (network : Network)
    (start : σ) :
    (∀ before sent answer after, (execute setting plan network start).exchanges =
        before ++ .submit sent answer :: after →
      ∃ done step log, Sent setting plan network (execute setting plan network start)
        before sent done step log) ∧
    ∀ done step rest name, plan.steps = done ++ step :: rest → step.artifact.DependsOn name →
      Reaches setting plan network start done →
      (∀ record ∈ (execute setting plan network start).records.take done.length,
        record.artifact ≠ name) →
      Halted setting (execute setting plan network start) done step := by
  have ends := execute_ends setting plan network start
  refine ⟨fun before sent answer after split => ends.sent split, ?_⟩
  intro done step rest name place depends reaches absent
  obtain ⟨s, starts⟩ := reaches.starts
  exact ends.halted_at starts place reaches.recorded depends absent

end Dependencies

end

/-! ## Runs in the right order and in the wrong one -/

/-- A delivery that accepts every payload and confirms it. -/
def Sample.delivery : Delivery Unit where
  chainId _ := (.ok 1, ())
  submit _ _ := (.ok default, ())
  confirm _ hash := (.ok ⟨hash, some (.repeated 20 7), 5, true⟩, ())

/-- Build outputs whose constructors take one address, or nothing. -/
def Sample.source : Build.Source := fun name =>
  .ok ⟨name, "6000", if name = "Vault" then ⟨some [⟨"address", .ok .address⟩]⟩ else .empty⟩

def Sample.setting : Setting Unit := ⟨Sample.source, Sample.delivery, .never, fun _ => default⟩

def Sample.token : Artifact := .contract "Token"

def Sample.vault : Artifact := (Artifact.contract "Vault").withArgument (.artifact "Token")

/-- What is sent for the artifact that refers to the other: its code, and the other's
address in a word. -/
def Sample.payload : List UInt8 := [0x60, 0] ++ List.replicate 12 0 ++ List.replicate 20 7

/-- A delivery that counts contracts, and numbers transactions from some offset. -/
def Sample.counting (offset : Nat) : Delivery Nat where
  chainId n := (.ok 1, n)
  submit n _ := (.ok (.repeated 32 (.ofNat (offset + n))), n + 1)
  confirm n hash := (.ok ⟨hash, some (.repeated 20 (.ofNat n)), 5, true⟩, n)

def Sample.slot (label : String) : String :=
  String.ofList (Placeholder.legacy label.toList)

/-- An artifact that links one and refers to another. -/
def Sample.safe : Artifact :=
  ((Artifact.contract "Safe").linking "Math").withArgument (.artifact "Token")

/-- Contracts are counted, and the bytecode of the artifact that links has a slot. -/
def Sample.guarded : Setting Nat where
  source name := .ok <|
    if name = "Safe" then ⟨name, "60" ++ slot "Math", ⟨some [⟨"address", .ok .address⟩]⟩⟩
    else ⟨name, "6000", .empty⟩
  delivery := Sample.counting 0
  stop := .never
  clock := fun _ => default

/-- What is sent for it: the library, which is the second contract, in the slot, and the
first contract in a word. -/
def Sample.safePayload : List UInt8 :=
  [0x60] ++ List.replicate 20 2 ++ (List.replicate 12 0 ++ List.replicate 20 1)

/-- Behind the two, the artifact is sent with the address of each where it belongs; in front
of its library, the run halts. -/
theorem execute_dependencies_first_linked :
    (∃ before done step log, before.length = 5 ∧
      Sent Sample.guarded (.ofArtifacts [Sample.token, .library "Math", Sample.safe]) {}
        (execute Sample.guarded
          (.ofArtifacts [Sample.token, .library "Math", Sample.safe]) {} 0)
        before Sample.safePayload done step log) ∧
    Halted Sample.guarded
      (execute Sample.guarded (.ofArtifacts [Sample.token, Sample.safe, .library "Math"]) {} 0)
      [⟨0, Sample.token⟩] ⟨1, Sample.safe⟩ := by
  constructor
  · let receipt (n : UInt8) : Receipt :=
      ⟨.repeated 32 (n - 1), some (.repeated 20 n), 5, true⟩
    let sending (n : UInt8) (payload : List UInt8) : List Exchange :=
      [.submit payload (.ok (.repeated 32 (n - 1))),
        .confirm (.repeated 32 (n - 1)) (some (.ok (receipt n)))]
    have first := (execute_dependencies_first Sample.guarded
      (.ofArtifacts [Sample.token, .library "Math", Sample.safe]) {} 0).1
      (.chainId (.ok 1) :: sending 1 [0x60, 0] ++ sending 2 [0x60, 0]) Sample.safePayload
      (.ok (.repeated 32 2)) [.confirm (.repeated 32 2) (some (.ok (receipt 3)))]
    obtain ⟨done, step, log, here⟩ := first rfl
    exact ⟨_, done, step, log, rfl, here⟩
  · refine (execute_dependencies_first Sample.guarded
      (.ofArtifacts [Sample.token, Sample.safe, .library "Math"]) {} 0).2 [⟨0, Sample.token⟩]
      ⟨1, Sample.safe⟩ [⟨2, .library "Math"⟩] "Math" rfl (Or.inl ?_)
      ⟨⟨⟨0, [], [.chainId (.ok 1)]⟩, ?_⟩, ?_⟩ ?_
    · exact List.mem_singleton.mpr rfl
    · exact ⟨⟨1, rfl, rfl, rfl⟩, rfl⟩
    · decide
    · decide

end Run

end Rollout
