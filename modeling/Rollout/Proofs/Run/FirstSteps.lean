/-
# Rollout.Proofs.Run.FirstSteps — nothing later in a plan influences an earlier step

In the plan of some artifacts, the label of a library is that of an artifact in front of
those that link it, so the labels that the first steps ask for are those of the first steps
alone (`linkNameOf_firstSteps`).  A row of steps is its front and then its back
(`deployAll_append`), and it does the same at other times (`deployAll_retimed`).  Hence the
first steps of a plan, as a plan of their own, do what they do in the whole plan
(`execute_firstSteps`).

The chain is asked for in front of all steps: where it is refused, a run of no steps halts
like any other (`execute_firstSteps_refused`).
-/
import Rollout.Proofs.Run.Independence

namespace Rollout

set_option autoImplicit false

/-! ## The first steps of a plan -/

def Plan.firstSteps (plan : Plan) (count : Nat) : Plan := ⟨plan.steps.take count⟩

theorem Plan.artifacts_firstSteps (plan : Plan) (count : Nat) :
    (plan.firstSteps count).artifacts = plan.artifacts.take count :=
  List.map_take

namespace Run

/-- Where the last artifact of a name stands behind some others, they do not matter. -/
theorem linkNameOf_append_of_not_mem {front back : List Artifact} {library : String}
    (absent : ∀ b ∈ back, b.name ≠ library) :
    linkNameOf (front ++ back) library = linkNameOf front library := by
  have none : back.reverse.find? (·.name = library) = none := by
    simpa using fun b member => absent b member
  rw [linkNameOf, linkNameOf, List.reverse_append, List.find?_append, none, Option.none_or]

/-- The first steps of the plan of some artifacts ask for labels of the first steps alone. -/
theorem linkNameOf_firstSteps {artifacts : List Artifact} {plan : Plan}
    (built : Plan.build artifacts = .ok plan) (count : Nat) {step : Plan.Step}
    (first : step ∈ plan.steps.take count) {library : String}
    (linked : library ∈ step.artifact.libraries) :
    linkNameOf (plan.firstSteps count).artifacts library = linkNameOf plan.artifacts library := by
  -- The library is one of the steps in front of the step that links it.
  obtain ⟨before, after, split⟩ := List.append_of_mem first
  have place : plan.steps = before ++ step :: (after ++ plan.steps.drop count) := by
    rw [← List.cons_append, ← List.append_assoc, ← split, List.take_append_drop]
  obtain ⟨earlier, member, named⟩ :=
    Plan.behind_of_build built before step _ place library (Or.inl linked)
  have inFront : library ∈ (plan.artifacts.take count).map (·.name) := by
    rw [← named, ← Plan.artifacts_firstSteps, Plan.artifacts, List.map_map]
    refine List.mem_map_of_mem ?_
    rw [Plan.firstSteps, split]
    exact List.mem_append_left _ member
  -- No name is there twice, so it is none of the steps behind.
  have distinct : (plan.artifacts.map (·.name)).Nodup := Plan.nodup_of_build built
  rw [← List.take_append_drop count plan.artifacts, List.map_append] at distinct
  have apart := List.disjoint_of_nodup_append distinct inFront
  conv_rhs => rw [← List.take_append_drop count plan.artifacts]
  rw [Plan.artifacts_firstSteps, linkNameOf_append_of_not_mem]
  rintro b behind rfl
  exact apart (List.mem_map_of_mem behind)

/-! ## Rows of steps -/

section Rows

variable {σ : Type} {setting : Setting σ} {linkName linkName' : String → String}

/-- A row of steps is its front, and then its back unless the front halts. -/
theorem deployAll_append (setting : Setting σ) (linkName : String → String)
    (front back : List Plan.Step) (s : State σ) :
    deployAll setting linkName (front ++ back) s =
      match deployAll setting linkName front s with
      | (some halt, last) => (some halt, last)
      | (none, middle) => deployAll setting linkName back middle := by
  induction front generalizing s with
  | nil => rfl
  | cons step rest ih =>
      simp only [List.cons_append, deployAll]
      rcases deploy setting linkName step.artifact s with ⟨fault | record, next⟩
      · rfl
      · exact ih _

/-- A row of steps asks for no labels but those of the libraries that it links. -/
theorem deployAll_congr_labels {steps : List Plan.Step}
    (labels : ∀ step ∈ steps, ∀ library ∈ step.artifact.libraries,
      linkName' library = linkName library) (s : State σ) :
    deployAll setting linkName' steps s = deployAll setting linkName steps s := by
  induction steps generalizing s with
  | nil => rfl
  | cons step rest ih =>
      obtain ⟨here, others⟩ := List.forall_mem_cons.mp labels
      have same : deploy setting linkName' step.artifact s =
          deploy setting linkName step.artifact s := by
        unfold deploy
        rw [payload_congr rfl here fun _ _ => rfl]
      simp only [deployAll, same, ih others]

/-- The same at other times. -/
def Setting.retimed (setting : Setting σ) (clock : Nat → Moment) : Setting σ :=
  { setting with clock := clock }

variable {a : Artifact} {s t : State σ} {clock : Nat → Moment}

theorem deploy_retimed (setting : Setting σ) (linkName : String → String) (a : Artifact)
    (clock : Nat → Moment) (beside : s.Beside t) :
    (deploy (setting.retimed clock) linkName a t).1.map Record.untimed =
        (deploy setting linkName a s).1.map Record.untimed ∧
      (deploy setting linkName a s).2.Beside (deploy (setting.retimed clock) linkName a t).2 := by
  have known : addressOf t.records = addressOf s.records := by
    rw [← addressOf_untimed, beside.records, addressOf_untimed]
  have count : t.records.length = s.records.length := by
    simpa using congrArg List.length beside.records
  unfold deploy
  simp only [Setting.retimed, known, count]
  by_cases raised : setting.stop.raisedBefore s.records.length = true
  · rw [if_pos raised, if_pos raised]
    exact ⟨rfl, beside⟩
  · rw [if_neg raised, if_neg raised]
    cases payload setting.source linkName (addressOf s.records) a with
    | error fault => exact ⟨rfl, beside⟩
    | ok sent =>
        simp only [deliver, beside.delivery, beside.exchanges, count]
        rcases setting.delivery.submit s.delivery sent with ⟨fault | hash, d⟩
        · exact ⟨rfl, ⟨rfl, beside.records, rfl⟩⟩
        · dsimp only
          by_cases disturbed : setting.stop.interrupts s.records.length = true
          · rw [if_pos disturbed, if_pos disturbed]
            exact ⟨rfl, ⟨rfl, beside.records, rfl⟩⟩
          · rw [if_neg disturbed, if_neg disturbed]
            rcases answered : setting.delivery.confirm d hash with ⟨fault | receipt, d'⟩
            · simp only [answered, true_and]
              exact ⟨rfl, beside.records, rfl⟩
            · simp only [answered]
              exact ⟨confirmed_untimed a.name receipt _ _, ⟨rfl, beside.records, rfl⟩⟩

theorem deployAll_retimed (setting : Setting σ) (linkName : String → String)
    (steps : List Plan.Step) (clock : Nat → Moment) (beside : s.Beside t) :
    (deployAll (setting.retimed clock) linkName steps t).1.map Halt.untimed =
        (deployAll setting linkName steps s).1.map Halt.untimed ∧
      (deployAll setting linkName steps s).2.Beside
        (deployAll (setting.retimed clock) linkName steps t).2 := by
  induction steps generalizing s t with
  | nil => exact ⟨rfl, beside⟩
  | cons step rest ih =>
      obtain ⟨results, states⟩ := deploy_retimed setting linkName step.artifact clock beside
      simp only [deployAll]
      rcases deployed : deploy setting linkName step.artifact s with ⟨result, next⟩
      rcases deployed' : deploy (setting.retimed clock) linkName step.artifact t
        with ⟨result', next'⟩
      rw [deployed, deployed'] at results states
      rcases untimed_cases results with ⟨fault, rfl, rfl⟩ | ⟨record, record', recorded, rfl, rfl⟩
      · exact ⟨by simp [Halt.untimed, states.records], states⟩
      · refine ih ⟨states.delivery, ?_, states.exchanges⟩
        rw [List.map_append, List.map_append, states.records, List.map_singleton,
          List.map_singleton, recorded]

end Rows

/-! ## Runs -/

section Runs

variable {σ : Type}

/-- A halt in front of a place in a plan: at a step with a lower number, or at none. -/
def Halt.Before (halt : Halt) (place : Nat) : Prop :=
  ∀ number artifact, halt.step = some (number, artifact) → number < place

/-- A run of the first steps of a plan beside a run of the whole plan. -/
structure Shortened (count : Nat) (short full : Outcome σ) : Prop where
  /-- It makes the calls of the full run up to some place, -/
  exchanges : short.exchanges <+: full.exchanges
  /-- and sends what the full run sends for these steps. -/
  payloads : Exchange.payloads short.exchanges = (Exchange.payloads full.exchanges).take count
  /-- It has the records of these steps. -/
  records : short.records.map Record.untimed = (full.records.take count).map Record.untimed
  /-- Where the full run halts at one of them, or in front of all, it halts likewise. -/
  halts : ∀ halt, full.result = .error halt → halt.Before count →
    short.untimed.result = .error halt.untimed
  /-- Otherwise it completes. -/
  completes : (∀ halt, full.result = .error halt → ¬ halt.Before count) →
    ∃ records, short.result = .ok records

section Row

variable {setting : Setting σ} {network : Network} {start : σ} {linkName : String → String}
  {front row back : List Plan.Step} {s last : State σ} {halt : Halt}

/-- A row of steps in a plan that halts names the number of one of its steps. -/
theorem number_of_halted (numbered : Plan.Numbered ⟨front ++ (row ++ back)⟩)
    (ran : deployAll setting linkName row s = (some halt, last)) :
    ∃ place < row.length, ∃ name, halt.step = some (front.length + place, name) := by
  rcases deployAll_cases setting linkName row s with ⟨log, last', -, ran'⟩ |
      ⟨done, step, rest, log, last', fault, calls, d, rfl, -, -, ran'⟩
  · rw [ran] at ran'
    cases ran'
  · rw [ran] at ran'
    cases ran'
    have index : step.index = front.length + done.length := numbered _ step (by simp)
    exact ⟨done.length, by simp, step.artifact.name, by rw [index]⟩

/-- A row of steps that halts has come no further than its last step. -/
theorem Starts.length_of_halted (starts : Starts setting network start s)
    (ran : deployAll setting linkName row s = (some halt, last)) :
    (Exchange.payloads last.exchanges).length ≤ row.length ∧
      last.records.length ≤ row.length := by
  rcases deployAll_cases setting linkName row s with ⟨log, last', -, ran'⟩ |
      ⟨done, step, rest, log, last', fault, calls, d, rfl, advances, fails, ran'⟩
  · rw [ran] at ran'
    cases ran'
  · rw [ran] at ran'
    cases ran'
    have few : (Exchange.payloads calls).length ≤ 1 := by
      rcases fails.payloads_cases with none | ⟨sent, -, one⟩
      · simp [none]
      · simp [one]
    rw [starts.payloads_append advances, starts.count_eq advances]
    simp only [List.length_append, List.length_map, List.length_cons, advances.length_eq]
    omega

/-- A row of steps that does not halt sends a payload for each of them, and adds a record. -/
theorem Starts.length_of_completed (starts : Starts setting network start s)
    (ran : deployAll setting linkName row s = (none, last)) :
    (Exchange.payloads last.exchanges).length = row.length ∧
      last.records.length = row.length := by
  rcases deployAll_cases setting linkName row s with ⟨log, last', advances, ran'⟩ |
      ⟨_, _, _, _, _, _, _, _, -, -, -, ran'⟩
  · rw [ran] at ran'
    cases ran'
    rw [starts.payloads_eq advances, starts.count_eq advances, List.length_map,
      advances.length_eq]
    exact ⟨rfl, rfl⟩
  · rw [ran] at ran'
    cases ran'

/-- **The front of a row of steps does what it does in the whole row**, at whatever times. -/
theorem Starts.shortened (starts : Starts setting network start s)
    (numbered : Plan.Numbered ⟨front ++ back⟩) (clock : Nat → Moment) :
    Shortened front.length
      (Outcome.ofRow (deployAll (setting.retimed clock) linkName front s))
      (Outcome.ofRow (deployAll setting linkName (front ++ back) s)) := by
  obtain ⟨halts, states⟩ :=
    deployAll_retimed setting linkName front clock (⟨rfl, rfl, rfl⟩ : s.Beside s)
  have recorded : (Outcome.ofRow (deployAll setting linkName (front ++ back) s)).records =
      (deployAll setting linkName (front ++ back) s).2.records := Outcome.records_ofRow
  have recorded' : (Outcome.ofRow (deployAll (setting.retimed clock) linkName front s)).records =
      (deployAll (setting.retimed clock) linkName front s).2.records := Outcome.records_ofRow
  rcases ran' : deployAll (setting.retimed clock) linkName front s with ⟨halt', last'⟩
  rw [ran'] at halts states recorded'
  rw [deployAll_append] at recorded ⊢
  rcases ran : deployAll setting linkName front s with ⟨_ | halt, last⟩
  · -- The front completes, and the whole row goes on from there.
    rw [ran] at halts states recorded
    obtain rfl : halt' = none := Option.map_eq_none_iff.mp halts
    obtain ⟨sent, made⟩ := starts.length_of_completed ran
    obtain ⟨calls, more, -⟩ := deployAll_answered setting linkName back last
    obtain ⟨later, grown⟩ := deployAll_records setting linkName back last
    dsimp only at recorded recorded' ⊢
    refine ⟨?_, ?_, ?_, ?_, fun _ => ⟨_, rfl⟩⟩
    · rw [Outcome.exchanges_ofRow, Outcome.exchanges_ofRow, states.exchanges, more]
      exact List.prefix_append _ _
    · rw [Outcome.exchanges_ofRow, Outcome.exchanges_ofRow, states.exchanges, more,
        Run.payloads_append, List.take_left' sent]
    · rw [recorded, recorded', ← grown, List.take_left' made, states.records]
    · intro halt halted before
      rcases ran₂ : deployAll setting linkName back last with ⟨_ | halt₂, last₂⟩
      · rw [ran₂] at halted
        cases halted
      · rw [ran₂] at halted
        obtain rfl : halt₂ = halt := Except.error.inj halted
        have numbered' : Plan.Numbered ⟨front ++ (back ++ [])⟩ := by rwa [List.append_nil]
        obtain ⟨place, -, name, there⟩ := number_of_halted numbered' ran₂
        exact absurd (before _ _ there) (by omega)
  · -- The front halts, and so does the whole row.
    rw [ran] at halts states recorded
    obtain ⟨halt', rfl, same⟩ := Option.map_eq_some_iff.mp halts
    obtain ⟨sent, made⟩ := starts.length_of_halted ran
    dsimp only at recorded recorded' ⊢
    refine ⟨?_, ?_, ?_, ?_, ?_⟩
    · rw [Outcome.exchanges_ofRow, Outcome.exchanges_ofRow, states.exchanges]
    · rw [Outcome.exchanges_ofRow, Outcome.exchanges_ofRow, states.exchanges,
        List.take_of_length_le sent]
    · rw [recorded, recorded', List.take_of_length_le made, states.records]
    · rintro halt₂ halted -
      obtain rfl : halt = halt₂ := Except.error.inj halted
      exact congrArg Except.error same
    · intro none
      obtain ⟨place, short, name, there⟩ :=
        number_of_halted (show Plan.Numbered ⟨[] ++ (front ++ back)⟩ from numbered) ran
      refine absurd ?_ (none halt rfl)
      rintro number artifact here
      rw [there] at here
      cases here
      simpa using short

end Row

theorem numbered_of_build {artifacts : List Artifact} {plan : Plan}
    (built : Plan.build artifacts = .ok plan) : plan.Numbered := by
  obtain ⟨places, rfl, -⟩ := Plan.order_of_build built
  exact Plan.numbered_ofArtifacts _

/-- A run that is not let in halts in front of all steps, whatever its plan. -/
theorem exists_refusal {setting : Setting σ} {network : Network} {start : σ}
    (refused : ¬ ∃ s, Starts setting network start s) :
    ∃ fault answer d, ∀ clock plan, execute (setting.retimed clock) plan network start =
      ⟨.error ⟨[], none, fault⟩, [.chainId answer], d⟩ := by
  rcases asked : setting.delivery.chainId start with ⟨fault | chain, d⟩
  · refine ⟨.delivery fault, .error fault, d, fun clock plan => ?_⟩
    simp only [execute, Setting.retimed, asked]
  · cases accepted : network.matcher.accepts chain with
    | true => exact absurd ⟨⟨d, [], _⟩, ⟨chain, asked, accepted, rfl⟩, rfl⟩ refused
    | false =>
        refine ⟨.networkMismatch network.matcher chain, .ok chain, d, fun clock plan => ?_⟩
        simp only [execute, Setting.retimed, asked, accepted, Bool.false_eq_true, if_false]

/-- **Nothing later in a plan influences an earlier step.**  The first steps of a plan, as a
plan of their own, send what they send in the whole plan and have the same records, at
whatever times.  Where the whole plan halts at one of them, or in front of all of them, they
halt likewise, and otherwise they complete. -/
theorem execute_firstSteps {artifacts : List Artifact} {plan : Plan}
    (built : Plan.build artifacts = .ok plan) (setting : Setting σ) (clock : Nat → Moment)
    (network : Network) (start : σ) {count : Nat} (inside : count ≤ plan.size) :
    Shortened count (execute (setting.retimed clock) (plan.firstSteps count) network start)
      (execute setting plan network start) := by
  by_cases letIn : ∃ s, Starts setting network start s
  · obtain ⟨s, starts⟩ := letIn
    have starts' : Starts (setting.retimed clock) network start s :=
      ⟨starts.connected, starts.records⟩
    obtain ⟨full, -⟩ := starts.execute_eq_ofRow plan
    obtain ⟨short, -⟩ := starts'.execute_eq_ofRow (plan.firstSteps count)
    have labels : ∀ step ∈ plan.steps.take count, ∀ library ∈ step.artifact.libraries,
        linkNameOf (plan.firstSteps count).artifacts library = linkNameOf plan.artifacts library :=
      fun step first library linked => linkNameOf_firstSteps built count first linked
    have cut : plan.steps = plan.steps.take count ++ plan.steps.drop count :=
      (List.take_append_drop count plan.steps).symm
    have numbered : Plan.Numbered ⟨plan.steps.take count ++ plan.steps.drop count⟩ := by
      rw [← cut]
      exact numbered_of_build built
    have row : Shortened (plan.steps.take count).length
        (Outcome.ofRow (deployAll (setting.retimed clock) (linkNameOf plan.artifacts)
          (plan.steps.take count) s))
        (Outcome.ofRow (deployAll setting (linkNameOf plan.artifacts)
          (plan.steps.take count ++ plan.steps.drop count) s)) :=
      starts.shortened numbered clock
    rw [← cut, List.length_take_of_le inside] at row
    have same : deployAll (setting.retimed clock) (linkNameOf (plan.firstSteps count).artifacts)
        (plan.firstSteps count).steps s =
        deployAll (setting.retimed clock) (linkNameOf plan.artifacts) (plan.steps.take count) s :=
      deployAll_congr_labels labels s
    rw [full, short, same]
    exact row
  · obtain ⟨fault, answer, d, refuses⟩ := exists_refusal letIn
    have full : execute setting plan network start = _ := refuses setting.clock plan
    rw [full, refuses clock (plan.firstSteps count)]
    refine ⟨List.prefix_rfl, List.take_nil.symm, congrArg _ List.take_nil.symm,
      fun halt halted _ => ?_, fun none => ?_⟩
    · cases halted
      rfl
    · exact absurd (fun _ _ there => nomatch there) (none _ rfl)

/-- Of three artifacts, whose delivery gets no further than the second, the first two make a
run that completes. -/
theorem execute_firstSteps_pair :
    let full := execute ⟨Sample.source, Sample.drifting, .idle, fun _ => default⟩ Sample.trio {} 0
    let short := execute ⟨Sample.source, Sample.drifting, .idle, fun _ => .epoch⟩
      (Sample.trio.firstSteps 2) {} 0
    full.result = .error ⟨full.records, some (2, "Vault"), .timedOut "Vault" "late"⟩ ∧
      short.result = .ok short.records ∧ Shortened 2 short full := by
  refine ⟨rfl, rfl, ?_⟩
  have built : Plan.build [Sample.token, .contract "Clock", Sample.vault] = .ok Sample.trio := rfl
  exact execute_firstSteps built ⟨Sample.source, Sample.drifting, .idle, fun _ => default⟩
    (fun _ => .epoch) {} 0 (by decide)

/-- Where the network is not the one that is connected, a run halts at no step, and a run of
no steps of its plan does not complete either. -/
theorem execute_firstSteps_refused :
    let plan : Plan := .ofArtifacts [Sample.token]
    let network : Network := { matcher := .exact 3 }
    Plan.build [Sample.token] = .ok plan ∧
      (execute Sample.setting plan network ()).result =
        .error ⟨[], none, .networkMismatch (.exact 3) 1⟩ ∧
      (execute Sample.setting (plan.firstSteps 0) network ()).result =
        .error ⟨[], none, .networkMismatch (.exact 3) 1⟩ :=
  ⟨rfl, rfl, rfl⟩

end Runs

end Run

end Rollout
