/-
# Rollout.Proofs.Run.Interruption — an interrupted run is the beginning of a full one

A run that is told to stop does, step by step, what the same run does without a signal, up
to the step at which it notices (`deploy_beside`).  There it halts as cancelled, and all it
has sent and recorded is the beginning of what the full run sends and records; where it
notices nothing, both come to the same end (`deployAll_beside`).

It asks for no build output behind the step at which it halts (`loads_prefix_take`), and
whatever it does not ask for makes no difference (`execute_congr`).  Nor does a signal that
is never raised.
-/
import Rollout.Proofs.Run.Account

namespace Rollout

set_option autoImplicit false

/-- A record, whatever the time of its confirmation. -/
def Record.untimed (r : Record) : Record := { r with confirmedAt := .epoch }

namespace Run

/-! ## Whatever the times -/

/-- Times of confirmation are not looked at when an address is looked up. -/
theorem addressOf_untimed (records : List Record) :
    addressOf (records.map Record.untimed) = addressOf records := by
  funext name
  unfold addressOf
  rw [List.find?_map, Option.map_map]
  rfl

theorem confirmed_untimed (artifact : String) (receipt : Receipt) (time time' : Moment) :
    (confirmed artifact receipt time').map Record.untimed =
      (confirmed artifact receipt time).map Record.untimed := by
  unfold confirmed Record.ofReceipt?
  cases receipt.success <;> cases receipt.contract <;> rfl

/-- Steps that come to the same, whatever the times, fail alike or both complete. -/
theorem untimed_cases {result result' : Except Fault Record}
    (same : result'.map Record.untimed = result.map Record.untimed) :
    (∃ fault, result = .error fault ∧ result' = .error fault) ∨
      ∃ record record', record'.untimed = record.untimed ∧ result = .ok record ∧
        result' = .ok record' := by
  cases result with
  | error fault =>
      cases result' with
      | error fault' =>
          cases same
          exact Or.inl ⟨fault, rfl, rfl⟩
      | ok record' => cases same
  | ok record =>
      cases result' with
      | error fault' => cases same
      | ok record' => exact Or.inr ⟨record, record', Except.ok.inj same, rfl, rfl⟩

/-- A halt, whatever the times of the confirmations before it. -/
def Halt.untimed (h : Halt) : Halt := { h with completed := h.completed.map Record.untimed }

/-- What came of a run, whatever the times of its confirmations. -/
def Outcome.untimed {σ : Type} (o : Outcome σ) : Outcome σ :=
  { o with result := match o.result with
      | .ok records => .ok (records.map Record.untimed)
      | .error h => .error h.untimed }

/-! ## Signals that are never raised -/

@[simp] theorem Stop.raisedBefore_never (step : Nat) : Stop.never.raisedBefore step = false := rfl

@[simp] theorem Stop.interrupts_never (step : Nat) : Stop.never.interrupts step = false := rfl

theorem Stop.raisedBefore_idle (step : Nat) : Stop.idle.raisedBefore step = false := rfl

theorem Stop.interrupts_idle (step : Nat) : Stop.idle.interrupts step = false := rfl

theorem Stop.raisedBefore_abandoned (n step : Nat) :
    (Stop.abandoned n).raisedBefore step = false := by
  simp only [Stop.raisedBefore, Stop.atStart]
  split <;> rfl

/-- Nobody is left to raise the signal: waiting for it fails, and breaks nothing off. -/
theorem Stop.interrupts_abandoned (n step : Nat) : (Stop.abandoned n).interrupts step = false := by
  simp only [Stop.interrupts, Stop.atWait, Stop.atStart]
  split <;> rfl

/-! ## Build outputs that are asked for -/

section Congruence

variable {σ : Type}

/-- The build output that a step asks for: it does when it is not stopped where it starts,
and all that its arguments refer to is deployed. -/
def asked (setting : Setting σ) (a : Artifact) (records : List Record) : List String :=
  if setting.stop.raisedBefore records.length then []
  else match arguments (addressOf records) a with
    | .ok _ => [a.buildName]
    | .error _ => []

/-- The build outputs that steps ask for one after another, up to the first that fails. -/
def loads (setting : Setting σ) (linkName : String → String) :
    List Plan.Step → State σ → List String
  | [], _ => []
  | step :: rest, s =>
      asked setting step.artifact s.records ++
        match deploy setting linkName step.artifact s with
        | (.error _, _) => []
        | (.ok record, s) => loads setting linkName rest { s with records := s.records ++ [record] }

/-- The build outputs that a run asks for. -/
def loadsOf (setting : Setting σ) (plan : Plan) (network : Network) (start : σ) : List String :=
  match setting.delivery.chainId start with
  | (.error _, _) => []
  | (.ok chain, d) =>
      if network.matcher.accepts chain then
        loads setting (linkNameOf plan.artifacts) plan.steps ⟨d, [], [.chainId (.ok chain)]⟩
      else []

/-- Two settings that differ at most in their build outputs, as far as a run can see. -/
structure Setting.Resembles (setting setting' : Setting σ) : Prop where
  delivery : setting'.delivery = setting.delivery
  clock : setting'.clock = setting.clock
  starts : ∀ step, setting'.stop.raisedBefore step = setting.stop.raisedBefore step
  waits : ∀ step, setting'.stop.interrupts step = setting.stop.interrupts step

variable {setting setting' : Setting σ} {linkName : String → String} {a : Artifact}
  {s : State σ}

theorem payload_congr_source {source source' : Build.Source} {resolve : String → Option Address}
    (same : ∀ values, arguments resolve a = .ok values →
      source' a.buildName = source a.buildName) :
    payload source' linkName resolve a = payload source linkName resolve a := by
  unfold payload
  cases resolved : arguments resolve a with
  | error fault => rfl
  | ok values => simp only [same values resolved]

/-- A step does the same whatever the build outputs that it does not ask for. -/
theorem deploy_congr (resembles : setting.Resembles setting')
    (outputs : ∀ name ∈ asked setting a s.records, setting'.source name = setting.source name) :
    deploy setting' linkName a s = deploy setting linkName a s := by
  unfold deploy
  rw [resembles.starts]
  by_cases raised : setting.stop.raisedBefore s.records.length = true
  · rw [if_pos raised, if_pos raised]
  · rw [if_neg raised, if_neg raised]
    have paid : payload setting'.source linkName (addressOf s.records) a =
        payload setting.source linkName (addressOf s.records) a := by
      refine payload_congr_source fun values resolved => outputs _ ?_
      simp [asked, raised, resolved]
    simp only [paid, deliver, resembles.delivery, resembles.clock, resembles.waits]

theorem deployAll_congr (resembles : setting.Resembles setting') {steps : List Plan.Step}
    (outputs : ∀ name ∈ loads setting linkName steps s,
      setting'.source name = setting.source name) :
    deployAll setting' linkName steps s = deployAll setting linkName steps s := by
  induction steps generalizing s with
  | nil => rfl
  | cons step rest ih =>
      simp only [loads, List.mem_append] at outputs
      have here : deploy setting' linkName step.artifact s = deploy setting linkName step.artifact s :=
        deploy_congr resembles fun name member => outputs name (Or.inl member)
      rw [deployAll, deployAll, here]
      rcases deployed : deploy setting linkName step.artifact s with ⟨fault | record, next⟩
      · rfl
      · rw [deployed] at outputs
        exact ih fun name member => outputs name (Or.inr member)

/-- **A run does the same whatever it does not ask for or cannot see.** -/
theorem execute_congr (resembles : setting.Resembles setting') {plan : Plan} {network : Network}
    {start : σ}
    (outputs : ∀ name ∈ loadsOf setting plan network start,
      setting'.source name = setting.source name) :
    execute setting' plan network start = execute setting plan network start := by
  unfold loadsOf at outputs
  unfold execute
  rw [resembles.delivery]
  rcases asked : setting.delivery.chainId start with ⟨fault | chain, d⟩
  · rfl
  · rw [asked] at outputs
    by_cases accepted : network.matcher.accepts chain = true
    · simp only [accepted, if_true] at outputs ⊢
      rw [deployAll_congr resembles outputs]
    · simp only [accepted, Bool.false_eq_true, if_false]

end Congruence

/-! ## Beside the full run -/

section Beside

variable {σ : Type}

/-- Two states that differ at most in the times of their records. -/
structure State.Beside (s t : State σ) : Prop where
  delivery : t.delivery = s.delivery
  records : t.records.map Record.untimed = s.records.map Record.untimed
  exchanges : t.exchanges = s.exchanges

/-- What a step of an interrupted run does beside the same step of the full run. -/
inductive StepBeside (a : Artifact) (s : State σ) :
    Except Fault Record × State σ → Except Fault Record × State σ → Prop
  /-- Both do the same. -/
  | same {result result' : Except Fault Record} {next next' : State σ}
      (results : result'.map Record.untimed = result.map Record.untimed)
      (states : next.Beside next') : StepBeside a s (result, next) (result', next')
  /-- The interrupted run notices its signal, when it has sent no more than the full one. -/
  | cut (d : σ) (calls : List Exchange) {full : Except Fault Record × State σ}
      (payloads : Exchange.payloads (s.exchanges ++ calls) <+: Exchange.payloads full.2.exchanges) :
      StepBeside a s (.error (.cancelled a.name), ⟨d, s.records, s.exchanges ++ calls⟩) full

variable {source : Build.Source} {delivery : Delivery σ} {stop : Stop} {clock clock' : Nat → Moment}
  {linkName : String → String} {a : Artifact} {s t : State σ}

theorem payloads_mono {front calls : List Exchange} (made : front <+: calls) :
    Exchange.payloads front <+: Exchange.payloads calls := made.filterMap _

/-- A step does what it does in the full run, unless it notices its signal. -/
theorem deploy_beside (beside : s.Beside t) :
    StepBeside a s (deploy ⟨source, delivery, stop, clock⟩ linkName a s)
      (deploy ⟨source, delivery, .never, clock'⟩ linkName a t) := by
  have known : addressOf t.records = addressOf s.records := by
    rw [← addressOf_untimed, beside.records, addressOf_untimed]
  have onward : s.exchanges <+:
      (deploy ⟨source, delivery, .never, clock'⟩ linkName a t).2.exchanges := by
    obtain ⟨calls, made, -⟩ := deploy_answered ⟨source, delivery, .never, clock'⟩ linkName a t
    rw [made, beside.exchanges]
    exact List.prefix_append _ _
  by_cases raised : stop.raisedBefore s.records.length = true
  · have stopped : deploy ⟨source, delivery, stop, clock⟩ linkName a s =
        (.error (.cancelled a.name), ⟨s.delivery, s.records, s.exchanges ++ []⟩) := by
      simp [deploy, raised]
    rw [stopped]
    refine .cut s.delivery [] (payloads_mono ?_)
    rw [List.append_nil]
    exact onward
  · unfold deploy
    simp only [raised, Bool.false_eq_true, if_false, known, Stop.raisedBefore_never]
    cases payload source linkName (addressOf s.records) a with
    | error fault => exact .same rfl beside
    | ok sent =>
        simp only [deliver, beside.delivery, beside.exchanges, Stop.interrupts_never,
          Bool.false_eq_true, if_false]
        rcases delivery.submit s.delivery sent with ⟨fault | hash, d⟩
        · exact .same rfl ⟨rfl, beside.records, rfl⟩
        · by_cases disturbed : stop.interrupts s.records.length = true
          · simp only [disturbed, if_true, List.append_assoc]
            refine .cut d _ ?_
            rcases answered : delivery.confirm d hash with ⟨fault | receipt, d'⟩
            · simp [answered, Exchange.payloads]
            · simp [answered, Exchange.payloads]
          · simp only [disturbed, Bool.false_eq_true, if_false]
            rcases answered : delivery.confirm d hash with ⟨fault | receipt, d'⟩
            · simp only [answered]
              exact .same rfl ⟨rfl, beside.records, rfl⟩
            · simp only [answered]
              exact .same (confirmed_untimed a.name receipt _ _) ⟨rfl, beside.records, rfl⟩

/-- A step leaves the records to the row that it stands in. -/
theorem deploy_records (setting : Setting σ) (linkName : String → String) (a : Artifact)
    (s : State σ) : (deploy setting linkName a s).2.records = s.records := by
  rcases deploy_cases setting linkName a s with ⟨c, next, -, deployed⟩ | ⟨fault, calls, d, -, deployed⟩
  · rw [deployed]
  · rw [deployed]

theorem deployAll_records (setting : Setting σ) (linkName : String → String)
    (steps : List Plan.Step) (s : State σ) :
    s.records <+: (deployAll setting linkName steps s).2.records := by
  rcases deployAll_cases setting linkName steps s with ⟨log, last, advances, ran⟩ |
      ⟨_, _, _, log, last, _, _, _, -, advances, -, ran⟩
  · rw [ran, advances.records_eq]
    exact List.prefix_append _ _
  · rw [ran, advances.records_eq]
    exact List.prefix_append _ _

/-- A row of steps makes the calls of its first step, and then others. -/
theorem deployAll_exchanges (setting : Setting σ) (linkName : String → String)
    (step : Plan.Step) (rest : List Plan.Step) (s : State σ) :
    (deploy setting linkName step.artifact s).2.exchanges <+:
      (deployAll setting linkName (step :: rest) s).2.exchanges := by
  rw [deployAll]
  rcases deploy setting linkName step.artifact s with ⟨fault | record, next⟩
  · exact List.prefix_rfl
  · obtain ⟨calls, made, -⟩ := deployAll_answered setting linkName rest
      { next with records := next.records ++ [record] }
    simp only [made]
    exact List.prefix_append _ _

/-- What a row of steps of an interrupted run does beside the same row of the full run. -/
inductive RowBeside (steps : List Plan.Step) (s : State σ) :
    Option Halt × State σ → Option Halt × State σ → Prop
  /-- Both come to the same end. -/
  | same {halt halt' : Option Halt} {last last' : State σ}
      (halts : halt'.map Halt.untimed = halt.map Halt.untimed) (states : last.Beside last') :
      RowBeside steps s (halt, last) (halt', last')
  /-- The interrupted run notices its signal at a step. -/
  | cut (done : List Plan.Step) (step : Plan.Step) (rest : List Plan.Step)
      (split : steps = done ++ step :: rest) {last : State σ} {full : Option Halt × State σ}
      (count : last.records.length = s.records.length + done.length)
      (records : last.records.map Record.untimed <+: full.2.records.map Record.untimed)
      (payloads : Exchange.payloads last.exchanges <+: Exchange.payloads full.2.exchanges) :
      RowBeside steps s (some ⟨last.records, some (step.index, step.artifact.name),
        .cancelled step.artifact.name⟩, last) full

/-- Behind a step that completes, the rest of a row is a row. -/
theorem RowBeside.behind {rest : List Plan.Step} {next : State σ}
    {ran ran' : Option Halt × State σ} (later : RowBeside rest next ran ran') (step : Plan.Step)
    (count : next.records.length = s.records.length + 1) : RowBeside (step :: rest) s ran ran' := by
  cases later with
  | same halts states => exact .same halts states
  | cut done stopped rest' split count' records payloads =>
      refine .cut (step :: done) stopped rest' (by rw [split]; rfl) ?_ records payloads
      rw [count', count, List.length_cons]
      omega

/-- **A row of steps does what it does in the full run**, up to the step at which it
notices its signal. -/
theorem deployAll_beside (steps : List Plan.Step) (beside : s.Beside t) :
    RowBeside steps s (deployAll ⟨source, delivery, stop, clock⟩ linkName steps s)
      (deployAll ⟨source, delivery, .never, clock'⟩ linkName steps t) := by
  induction steps generalizing s t with
  | nil => exact .same rfl beside
  | cons step rest ih =>
      have first : StepBeside step.artifact s
          (deploy ⟨source, delivery, stop, clock⟩ linkName step.artifact s)
          (deploy ⟨source, delivery, .never, clock'⟩ linkName step.artifact t) :=
        deploy_beside beside
      have kept := deploy_records ⟨source, delivery, stop, clock⟩ linkName step.artifact s
      have grown := deployAll_records ⟨source, delivery, .never, clock'⟩ linkName (step :: rest) t
      have called := deployAll_exchanges ⟨source, delivery, .never, clock'⟩ linkName step rest t
      rcases deployed : deploy ⟨source, delivery, stop, clock⟩ linkName step.artifact s
        with ⟨result, next⟩
      rcases deployed' : deploy ⟨source, delivery, .never, clock'⟩ linkName step.artifact t
        with ⟨result', next'⟩
      rw [deployed] at first kept
      rw [deployed'] at first called
      cases first with
      | cut d calls payloads =>
          rw [deployAll, deployed]
          refine .cut [] step rest rfl rfl ?_ (payloads.trans (payloads_mono called))
          rw [← beside.records]
          exact grown.map _
      | same results states =>
          rw [deployAll, deployed, deployAll, deployed']
          rcases untimed_cases results with
            ⟨fault, rfl, rfl⟩ | ⟨record, record', recorded, rfl, rfl⟩
          · refine .same ?_ states
            simp [Halt.untimed, states.records]
          · have onward : State.Beside { next with records := next.records ++ [record] }
                { next' with records := next'.records ++ [record'] } := by
              refine ⟨states.delivery, ?_, states.exchanges⟩
              rw [List.map_append, List.map_append, states.records, List.map_singleton,
                List.map_singleton, recorded]
            refine (ih onward).behind step ?_
            rw [List.length_append, List.length_singleton, kept]

end Beside

/-! ## How far build outputs are asked for -/

section Loads

variable {σ : Type} {setting : Setting σ} {linkName : String → String} {s last : State σ}

/-- A step asks for its own build output, or for none. -/
theorem asked_cases (setting : Setting σ) (a : Artifact) (records : List Record) :
    asked setting a records = [] ∨ asked setting a records = [a.buildName] := by
  unfold asked
  split
  · exact Or.inl rfl
  · split
    · exact Or.inr rfl
    · exact Or.inl rfl

theorem Completes.asked_eq {a : Artifact} {c : Completion} {next : State σ}
    (completes : Completes setting linkName a s c next) :
    asked setting a s.records = [a.buildName] := by
  obtain ⟨values, _, _, _, _, resolved, -⟩ := payload_eq_ok_iff.mp completes.paid
  simp [asked, completes.running, resolved]

/-- A row of steps asks for the build outputs of those that complete, and at most for that
of the next one. -/
theorem loads_prefix_take (setting : Setting σ) (linkName : String → String)
    (steps : List Plan.Step) (s : State σ) :
    loads setting linkName steps s <+:
      (steps.take ((deployAll setting linkName steps s).2.records.length -
        s.records.length + 1)).map (·.artifact.buildName) := by
  induction steps generalizing s with
  | nil => exact List.prefix_rfl
  | cons step rest ih =>
      rcases deploy_cases setting linkName step.artifact s with
        ⟨c, next, completes, deployed⟩ | ⟨fault, calls, d, -, deployed⟩
      · rw [loads, deployAll, deployed, completes.asked_eq]
        simp only [← completes.records]
        have count : next.records.length = s.records.length + 1 := by
          rw [completes.records, List.length_append, List.length_singleton]
        have grown := (deployAll_records setting linkName rest next).length_le
        -- The step that completed stands in front of what the rest may ask for.
        have shift : (deployAll setting linkName rest next).2.records.length -
            s.records.length + 1 =
            (deployAll setting linkName rest next).2.records.length - next.records.length + 1 + 1 := by
          omega
        rw [shift, List.take_succ_cons, List.map_cons, List.singleton_append,
          List.prefix_cons_inj]
        exact ih next
      · rw [loads, deployAll, deployed, List.append_nil, Nat.sub_self]
        rcases asked_cases setting step.artifact s.records with none | one
        · rw [none]
          exact List.nil_prefix
        · rw [one]
          exact List.prefix_rfl

end Loads

/-! ## Runs -/

section Runs

variable {σ : Type}

/-- A run that noticed its signal at a step, when it had asked for the build outputs
`loaded`. -/
structure CancelledAt (plan : Plan) (loaded : List String) (outcome : Outcome σ)
    (step : Plan.Step) : Prop where
  /-- It is the step behind the last record. -/
  place : plan.steps[outcome.records.length]? = some step
  number : plan.Numbered → step.index = outcome.records.length
  result : outcome.result = .error ⟨outcome.records, some (step.index, step.artifact.name),
    .cancelled step.artifact.name⟩
  /-- Nothing behind it was sent, -/
  sent : (Exchange.payloads outcome.exchanges).length ≤ outcome.records.length + 1
  /-- and no build output behind it was asked for. -/
  loaded : loaded <+:
    (plan.steps.take (outcome.records.length + 1)).map (·.artifact.buildName)

/-- An interrupted run beside the full one. -/
structure CutShort (plan : Plan) (loaded : List String) (outcome full : Outcome σ) : Prop where
  payloads : Exchange.payloads outcome.exchanges <+: Exchange.payloads full.exchanges
  records : outcome.records.map Record.untimed <+: full.records.map Record.untimed
  /-- It comes to the end of the full run, or it is cancelled. -/
  ends : outcome.untimed = full.untimed ∨ ∃ step, CancelledAt plan loaded outcome step

variable {plan : Plan} {loaded : List String} {outcome full : Outcome σ}

theorem Outcome.records_untimed (o : Outcome σ) :
    o.untimed.records = o.records.map Record.untimed := by
  unfold Outcome.untimed Outcome.records
  cases o.result with
  | ok records => rfl
  | error h => rfl

/-- Runs that come to the same end have sent and recorded the same. -/
theorem CutShort.of_same (same : outcome.untimed = full.untimed) :
    CutShort plan loaded outcome full := by
  have exchanges : outcome.untimed.exchanges = full.untimed.exchanges := by rw [same]
  have records : outcome.records.map Record.untimed = full.records.map Record.untimed := by
    rw [← Outcome.records_untimed, ← Outcome.records_untimed, same]
  refine ⟨?_, ?_, Or.inl same⟩
  · change outcome.exchanges = full.exchanges at exchanges
    rw [exchanges]
  · rw [records]

/-- The outcome of a run whose steps came to a halt or to their end. -/
def Outcome.ofRow : Option Halt × State σ → Outcome σ
  | (some halt, s) => ⟨.error halt, s.exchanges, s.delivery⟩
  | (none, s) => ⟨.ok s.records, s.exchanges, s.delivery⟩

theorem Outcome.exchanges_ofRow (row : Option Halt × State σ) :
    (Outcome.ofRow row).exchanges = row.2.exchanges := by
  rcases row with ⟨_ | halt, s⟩ <;> rfl

/-- The records of a run are those that its steps left behind. -/
theorem Outcome.records_ofRow {setting : Setting σ} {linkName : String → String}
    {steps : List Plan.Step} {s : State σ} :
    (Outcome.ofRow (deployAll setting linkName steps s)).records =
      (deployAll setting linkName steps s).2.records := by
  rcases deployAll_cases setting linkName steps s with ⟨log, last, -, ran⟩ |
      ⟨_, _, _, log, last, _, _, _, -, -, -, ran⟩
  · rw [ran]
    rfl
  · rw [ran]
    rfl

/-- Rows of steps beside each other make runs beside each other. -/
theorem RowBeside.cutShort {s : State σ} {ran ran' : Option Halt × State σ}
    (row : RowBeside plan.steps s ran ran') (fresh : s.records = [])
    (made : (Outcome.ofRow ran').records = ran'.2.records)
    (sent : (Exchange.payloads ran.2.exchanges).length ≤ ran.2.records.length + 1)
    (asks : loaded <+: (plan.steps.take (ran.2.records.length + 1)).map (·.artifact.buildName)) :
    CutShort plan loaded (Outcome.ofRow ran) (Outcome.ofRow ran') := by
  cases row with
  | @same halt halt' last last' halts states =>
      refine .of_same ?_
      cases halt with
      | none =>
          cases halt' with
          | some halt' => cases halts
          | none =>
              simp [Outcome.ofRow, Outcome.untimed, states.records, states.exchanges,
                states.delivery]
      | some halt =>
          cases halt' with
          | none => cases halts
          | some halt' =>
              have ended : halt'.untimed = halt.untimed := Option.some.inj halts
              simp [Outcome.ofRow, Outcome.untimed, ended, states.exchanges, states.delivery]
  | @cut done step rest split last _ count records payloads =>
      have place : plan.steps[last.records.length]? = some step := by
        rw [split, count, fresh]
        simp
      refine ⟨?_, ?_, Or.inr ⟨step, place, fun numbered => numbered _ step place, rfl, sent, asks⟩⟩
      · rw [Outcome.exchanges_ofRow ran']
        exact payloads
      · rw [made]
        exact records

/-- A run that is let in is a row of steps. -/
theorem Starts.execute_eq_ofRow {setting : Setting σ} {network : Network} {start : σ}
    {s : State σ} (starts : Starts setting network start s) (plan : Plan) :
    execute setting plan network start =
        Outcome.ofRow (deployAll setting (linkNameOf plan.artifacts) plan.steps s) ∧
      loadsOf setting plan network start =
        loads setting (linkNameOf plan.artifacts) plan.steps s := by
  obtain ⟨chain, answered, accepted, first⟩ := starts.connected
  have fresh : s = ⟨s.delivery, [], [.chainId (.ok chain)]⟩ := by
    rw [← starts.records, ← first]
  unfold execute loadsOf
  simp only [answered, accepted, if_true, ← fresh, and_true]
  rcases deployAll setting (linkNameOf plan.artifacts) plan.steps s with ⟨_ | halt, last⟩ <;> rfl

/-- An interrupted run goes beside the full one. -/
theorem execute_beside (source : Build.Source) (delivery : Delivery σ) (stop : Stop)
    (clock clock' : Nat → Moment) (plan : Plan) (network : Network) (start : σ) :
    CutShort plan (loadsOf ⟨source, delivery, stop, clock⟩ plan network start)
      (execute ⟨source, delivery, stop, clock⟩ plan network start)
      (execute ⟨source, delivery, .never, clock'⟩ plan network start) := by
  by_cases letIn : ∃ s, Starts ⟨source, delivery, stop, clock⟩ network start s
  · obtain ⟨s, starts⟩ := letIn
    have starts' : Starts ⟨source, delivery, .never, clock'⟩ network start s :=
      ⟨starts.connected, starts.records⟩
    have count := (execute_ends ⟨source, delivery, stop, clock⟩ plan network start).count
    obtain ⟨ran, asks⟩ := starts.execute_eq_ofRow plan
    obtain ⟨ran', -⟩ := starts'.execute_eq_ofRow plan
    have row : RowBeside plan.steps s
        (deployAll ⟨source, delivery, stop, clock⟩ (linkNameOf plan.artifacts) plan.steps s)
        (deployAll ⟨source, delivery, .never, clock'⟩ (linkNameOf plan.artifacts) plan.steps s) :=
      deployAll_beside plan.steps ⟨rfl, rfl, rfl⟩
    have asked := loads_prefix_take ⟨source, delivery, stop, clock⟩ (linkNameOf plan.artifacts)
      plan.steps s
    rw [ran, Outcome.exchanges_ofRow, Outcome.records_ofRow] at count
    rw [ran, ran', asks]
    rw [starts.records, List.length_nil, Nat.sub_zero] at asked
    exact row.cutShort starts.records Outcome.records_ofRow (by omega) asked
  · refine .of_same ?_
    unfold execute
    rcases answered : delivery.chainId start with ⟨fault | chain, d⟩
    · rfl
    · by_cases accepted : network.matcher.accepts chain = true
      · exact absurd ⟨⟨d, [], [.chainId (.ok chain)]⟩, ⟨chain, answered, accepted, rfl⟩, rfl⟩ letIn
      · simp only [accepted, Bool.false_eq_true, if_false]

/-- **An interrupted run is the beginning of the full one.**  Whenever the signal is raised,
what the run sends and records is the beginning of what it sends and records without a
signal, whatever the times; if it does not come to the same end, it is cancelled at the
step behind its last record, and asks for no build output behind that step, the contents
of which make no difference either.  A signal that is never raised is as good as none, also
when nobody is left who could raise it. -/
theorem execute_cut_short (source : Build.Source) (delivery : Delivery σ) (stop : Stop)
    (clock clock' : Nat → Moment) (plan : Plan) (network : Network) (start : σ) :
    CutShort plan (loadsOf ⟨source, delivery, stop, clock⟩ plan network start)
        (execute ⟨source, delivery, stop, clock⟩ plan network start)
        (execute ⟨source, delivery, .never, clock'⟩ plan network start) ∧
      (∀ source' : Build.Source,
        (∀ name ∈ loadsOf ⟨source, delivery, stop, clock⟩ plan network start,
          source' name = source name) →
        execute ⟨source', delivery, stop, clock⟩ plan network start =
          execute ⟨source, delivery, stop, clock⟩ plan network start) ∧
      execute ⟨source, delivery, .idle, clock⟩ plan network start =
        execute ⟨source, delivery, .never, clock⟩ plan network start ∧
      ∀ step, execute ⟨source, delivery, .abandoned step, clock⟩ plan network start =
        execute ⟨source, delivery, .never, clock⟩ plan network start := by
  have quiet (unraised : Stop) (raised : ∀ step, unraised.raisedBefore step = false)
      (interrupts : ∀ step, unraised.interrupts step = false) :
      execute ⟨source, delivery, unraised, clock⟩ plan network start =
        execute ⟨source, delivery, .never, clock⟩ plan network start :=
    have same : Setting.Resembles (⟨source, delivery, .never, clock⟩ : Setting σ)
        ⟨source, delivery, unraised, clock⟩ := ⟨rfl, rfl, raised, interrupts⟩
    execute_congr same fun _ _ => rfl
  refine ⟨execute_beside source delivery stop clock clock' plan network start,
    fun source' outputs => ?_,
    quiet .idle Stop.raisedBefore_idle Stop.interrupts_idle,
    fun step => quiet (.abandoned step) (Stop.raisedBefore_abandoned step)
      (Stop.interrupts_abandoned step)⟩
  have same : Setting.Resembles (⟨source, delivery, stop, clock⟩ : Setting σ)
      ⟨source', delivery, stop, clock⟩ := ⟨rfl, rfl, fun _ => rfl, fun _ => rfl⟩
  exact execute_congr same outputs

/-- Told to stop while it awaits the second confirmation, a run has sent what the full one
sends, which comes to another end. -/
example :
    let plan : Plan := .ofArtifacts [Sample.token, Sample.vault]
    let outcome := execute ⟨Sample.source, Sample.stalling, .whileAwaiting 1, fun _ => default⟩
      plan {} 0
    let full := execute ⟨Sample.source, Sample.stalling, .never, fun _ => default⟩ plan {} 0
    outcome.result = .error ⟨outcome.records, some (1, "Vault"), .cancelled "Vault"⟩ ∧
      full.result = .error ⟨outcome.records, some (1, "Vault"), .timedOut "Vault" "late"⟩ ∧
      Exchange.payloads outcome.exchanges = Exchange.payloads full.exchanges :=
  ⟨rfl, rfl, rfl⟩

end Runs

end Run

end Rollout
