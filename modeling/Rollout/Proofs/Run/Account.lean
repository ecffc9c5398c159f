/-
# Rollout.Proofs.Run.Account — a run reports exactly what was confirmed

The records of a run, complete or halted, are those of the first steps of its plan, and
each says what the receipt says that its step waited for (`Reports`).  A run is complete
exactly when every step has its record; only where there is no step, it has to be asked
whether the run was let in at all (`execute_refuses_empty_plan`).  A halt at a step names
the step behind the last record; a halt at no step is one in front of all of them.
-/
import Rollout.Proofs.Run.Calls

namespace Rollout

set_option autoImplicit false

/-! ## Numbers of steps -/

/-- Every step of a plan is numbered by its place. -/
def Plan.Numbered (plan : Plan) : Prop :=
  ∀ (place : Nat) (step : Plan.Step), plan.steps[place]? = some step → step.index = place

theorem Plan.numbered_ofArtifacts (artifacts : List Artifact) :
    (Plan.ofArtifacts artifacts).Numbered := by
  intro place step there
  obtain ⟨a, -, rfl⟩ : ∃ a, artifacts[place]? = some a ∧ Plan.Step.mk place a = step := by
    simpa [Plan.ofArtifacts] using there
  rfl

namespace Run

section

variable {σ : Type}

/-! ## Reports -/

/-- What a run reports when `log` is what its completed steps left behind. -/
structure Reports (setting : Setting σ) (plan : Plan) (network : Network) (start : σ)
    (outcome : Outcome σ) (log : List Completion) : Prop where
  /-- There is a record for each completed step, in order. -/
  records : outcome.records = log.map (·.record)
  /-- These are the first steps of the plan, and each record says what its receipt says. -/
  confirmed : List.Forall₂ (fun step c => c.Confirms step.artifact)
    (plan.steps.take log.length) log
  /-- The receipts are those that the steps waited for. -/
  waited : ∃ chain calls,
    outcome.exchanges = .chainId chain :: log.flatMap (·.exchanges) ++ calls
  /-- And the delivery gave them. -/
  answered : Answered setting.delivery start outcome.exchanges outcome.delivery
  /-- A run is complete when every step has its record; one of no steps, when it was
  let in. -/
  complete : (∃ records, outcome.result = .ok records) ↔
    log.length = plan.size ∧ (plan.steps = [] → ∃ s, Starts setting network start s)
  /-- A halt at a step is one at the step behind the last record. -/
  halted : ∀ completed number name fault,
    outcome.result = .error ⟨completed, some (number, name), fault⟩ →
    number = log.length ∧ ∃ step, plan.steps[log.length]? = some step ∧ step.artifact.name = name
  /-- A halt at no step is one in front of all of them: the chain could not be asked for,
  or it is another one. -/
  unstarted : ∀ completed fault, outcome.result = .error ⟨completed, none, fault⟩ →
    log = [] ∧ ∃ answer, (setting.delivery.chainId start).1 = answer ∧
      outcome.exchanges = [.chainId answer] ∧
      ((∃ cause, answer = .error cause ∧ fault = .delivery cause) ∨
        ∃ chain, answer = .ok chain ∧ network.matcher.accepts chain = false ∧
          fault = .networkMismatch network.matcher chain)

variable {setting : Setting σ} {plan : Plan} {network : Network} {start : σ}

/-- A run that is let in has been told of a chain that the network accepts. -/
theorem Starts.accepted {s : State σ} (starts : Starts setting network start s) :
    ∃ chain, (setting.delivery.chainId start).1 = .ok chain ∧
      network.matcher.accepts chain = true := by
  obtain ⟨chain, answered, accepted, -⟩ := starts.connected
  exact ⟨chain, by rw [answered], accepted⟩

theorem not_starts_of_unreached {fault : Delivery.Fault} {d : σ}
    (failed : setting.delivery.chainId start = (.error fault, d)) :
    ¬ ∃ s, Starts setting network start s := by
  rintro ⟨s, starts⟩
  obtain ⟨chain, answered, -⟩ := starts.accepted
  rw [failed] at answered
  cases answered

theorem not_starts_of_mismatched {chain : UInt64} {d : σ}
    (answered : setting.delivery.chainId start = (.ok chain, d))
    (refused : network.matcher.accepts chain = false) :
    ¬ ∃ s, Starts setting network start s := by
  rintro ⟨s, starts⟩
  obtain ⟨chain', answered', accepted⟩ := starts.accepted
  rw [answered] at answered'
  cases answered'
  rw [refused] at accepted
  cases accepted

/-- The calls of completed steps stand behind the one that asks for the chain. -/
theorem Starts.exchanges_eq {linkName : String → String} {steps : List Plan.Step}
    {s last : State σ} {log : List Completion} (starts : Starts setting network start s)
    (advances : Advances setting linkName steps s log last) :
    ∃ chain, last.exchanges = .chainId (.ok chain) :: log.flatMap (·.exchanges) := by
  obtain ⟨chain, -, -, first⟩ := starts.connected
  refine ⟨chain, ?_⟩
  rw [advances.exchanges_eq, first]
  rfl

/-- A run that is not let in is not complete, and has no records either. -/
theorem complete_iff_of_not_starts (refused : ¬ ∃ s, Starts setting network start s)
    {halt : Halt} {exchanges : List Exchange} {d : σ} :
    (∃ records, (⟨.error halt, exchanges, d⟩ : Outcome σ).result = .ok records) ↔
      ([] : List Completion).length = plan.size ∧
        (plan.steps = [] → ∃ s, Starts setting network start s) := by
  constructor
  · rintro ⟨records, ⟨⟩⟩
  · rintro ⟨none, letIn⟩
    have empty : plan.steps = [] := List.length_eq_zero_iff.mp none.symm
    exact absurd (letIn empty) refused

/-! ## Runs -/

theorem Ends.reports {outcome : Outcome σ} (ends : Ends setting plan network start outcome)
    (answered : Answered setting.delivery start outcome.exchanges outcome.delivery)
    (numbered : plan.Numbered) :
    ∃ log, Reports setting plan network start outcome log := by
  cases ends with
  | unreached fault d failed =>
      have refused : ¬ ∃ s, Starts setting network start s := not_starts_of_unreached failed
      refine ⟨[], rfl, by simp, ⟨_, [], rfl⟩, answered, complete_iff_of_not_starts refused, ?_, ?_⟩
      · rintro completed number name fault' ⟨⟩
      · rintro completed fault' ⟨⟩
        exact ⟨rfl, .error fault, by rw [failed], rfl, Or.inl ⟨fault, rfl, rfl⟩⟩
  | mismatched chain d asked refused =>
      have shut := not_starts_of_mismatched asked refused
      refine ⟨[], rfl, by simp, ⟨_, [], rfl⟩, answered, complete_iff_of_not_starts shut, ?_, ?_⟩
      · rintro completed number name fault ⟨⟩
      · rintro completed fault ⟨⟩
        exact ⟨rfl, .ok chain, by rw [asked], rfl, Or.inr ⟨chain, rfl, refused, rfl⟩⟩
  | completed s starts log last advances =>
      have count : log.length = plan.size := advances.length_eq
      obtain ⟨chain, calls⟩ := starts.exchanges_eq advances
      refine ⟨log, starts.records_eq advances, ?_, ⟨.ok chain, [], ?_⟩, answered, ?_, ?_, ?_⟩
      · have all : plan.steps.take log.length = plan.steps := by
          rw [count]
          exact List.take_length
        rw [all]
        exact advances.confirms
      · rw [List.append_nil]
        exact calls
      · exact ⟨fun _ => ⟨count, fun _ => ⟨s, starts⟩⟩, fun _ => ⟨_, rfl⟩⟩
      · rintro completed number name fault ⟨⟩
      · rintro completed fault ⟨⟩
  | halted s starts done step rest split log last advances fault calls fails d =>
      have count : log.length = done.length := advances.length_eq
      have here : plan.steps[log.length]? = some step := by
        rw [split, count]
        simp
      obtain ⟨chain, earlier⟩ := starts.exchanges_eq advances
      refine ⟨log, starts.records_eq advances, ?_, ⟨.ok chain, calls, ?_⟩, answered, ?_, ?_, ?_⟩
      · have before : plan.steps.take log.length = done := by
          rw [split, count, List.take_left]
        rw [before]
        exact advances.confirms
      · rw [← earlier]
      · constructor
        · rintro ⟨records, ⟨⟩⟩
        · rintro ⟨all, -⟩
          -- A step is left, so not all have a record.
          rw [Plan.size, split, List.length_append, List.length_cons] at all
          omega
      · rintro completed number name fault' ⟨⟩
        exact ⟨numbered _ step here, step, here, rfl⟩
      · rintro completed fault' ⟨⟩

/-- **A run reports exactly what was confirmed**, when the steps of its plan are numbered
by their places. -/
theorem execute_reports (setting : Setting σ) (plan : Plan) (network : Network) (start : σ)
    (numbered : plan.Numbered) :
    ∃ log, Reports setting plan network start (execute setting plan network start) log :=
  (execute_ends setting plan network start).reports
    (execute_answered setting plan network start) numbered

/-! ## Every artifact is confirmed -/

/-- Every artifact of a plan is confirmed, and `log` is what their steps left behind. -/
structure AllConfirmed (setting : Setting σ) (plan : Plan) (start : σ) (outcome : Outcome σ)
    (log : List Completion) : Prop where
  /-- Each step has a receipt that tells of success, and its record says what that says. -/
  confirms : List.Forall₂ (fun step c => c.Confirms step.artifact) plan.steps log
  records : outcome.records = log.map (·.record)
  /-- Each step has sent its payload and waited for its receipt, one step after another. -/
  exchanges : ∃ chain, outcome.exchanges = .chainId (.ok chain) :: log.flatMap (·.exchanges)
  /-- And the delivery gave these answers. -/
  answered : Answered setting.delivery start outcome.exchanges outcome.delivery

theorem AllConfirmed.length_eq {outcome : Outcome σ} {log : List Completion}
    (all : AllConfirmed setting plan start outcome log) : outcome.records.length = plan.size := by
  rw [all.records, List.length_map, ← all.confirms.length_eq, Plan.size]

/-- A run that does not complete leaves a step of its plan without a record, if there is one. -/
theorem Ends.length_lt {outcome : Outcome σ} (ends : Ends setting plan network start outcome)
    (some : plan.steps ≠ []) {halt : Halt} (failed : outcome.result = .error halt) :
    outcome.records.length < plan.size := by
  cases ends with
  | unreached => exact List.length_pos_iff.mpr some
  | mismatched => exact List.length_pos_iff.mpr some
  | completed => cases failed
  | halted s starts done step rest split log last advances =>
      have count : last.records.length = done.length := by
        rw [starts.records_eq advances, List.length_map, advances.length_eq]
      simp only [Outcome.records, Plan.size, split, count, List.length_append, List.length_cons]
      omega

/-- **A run of some steps completes exactly when every artifact is confirmed.** -/
theorem execute_ok_iff_allConfirmed (some : plan.steps ≠ []) :
    (∃ records, (execute setting plan network start).result = .ok records) ↔
      ∃ log, AllConfirmed setting plan start (execute setting plan network start) log := by
  have ends := execute_ends setting plan network start
  have answered := execute_answered setting plan network start
  generalize execute setting plan network start = outcome at ends answered
  constructor
  · rintro ⟨records, complete⟩
    cases ends with
    | unreached => cases complete
    | mismatched => cases complete
    | halted => cases complete
    | completed s starts log last advances =>
        obtain ⟨chain, calls⟩ := starts.exchanges_eq advances
        exact ⟨log, advances.confirms, starts.records_eq advances, ⟨chain, calls⟩, answered⟩
  · rintro ⟨log, all⟩
    cases result : outcome.result with
    | ok records => exact ⟨records, rfl⟩
    | error halt => exact absurd all.length_eq (ends.length_lt some result).ne

end

/-! ## A run that halts, and one that is not let in -/

/-- A delivery that confirms the first payload and times out behind it. -/
def Sample.stalling : Delivery Nat where
  chainId n := (.ok 1, n)
  submit n _ := (.ok (.repeated 32 (.ofNat (n + 1))), n + 1)
  confirm n hash :=
    if n = 1 then (.ok ⟨hash, some (.repeated 20 7), 5, true⟩, n) else (.error (.timeout "late"), n)

/-- The second step times out: the first has its record, and the halt names the second. -/
theorem execute_reports_stalled :
    let plan : Plan := .ofArtifacts [Sample.token, Sample.vault]
    let outcome := execute ⟨Sample.source, Sample.stalling, .never, fun _ => default⟩ plan {} 0
    outcome.records.map (·.artifact) = ["Token"] ∧
      outcome.result = .error ⟨outcome.records, some (1, "Vault"), .timedOut "Vault" "late"⟩ ∧
      ∃ log, Reports ⟨Sample.source, Sample.stalling, .never, fun _ => default⟩ plan {} 0
        outcome log := by
  refine ⟨rfl, rfl, ?_⟩
  exact execute_reports _ _ _ _ (Plan.numbered_ofArtifacts [Sample.token, Sample.vault])

/-- A run of no steps that the network refuses has a record for each of its steps, and is
not complete. -/
theorem execute_refuses_empty_plan :
    let plan : Plan := .ofArtifacts []
    let outcome := execute Sample.setting plan { matcher := .exact 3 } ()
    plan.Numbered ∧ outcome.records.length = plan.size ∧
      outcome.result = .error ⟨[], none, .networkMismatch (.exact 3) 1⟩ :=
  ⟨Plan.numbered_ofArtifacts [], rfl, rfl⟩

end Run

end Rollout
