/-
# Rollout.Proofs.Run.Calls — how a run talks to the delivery

A run asks for the chain once.  From then on it sends a payload only when nothing is in
flight, waits for exactly the hash that came back, and goes on only behind a receipt that
tells of success and of a contract (`Phase.after`).  Behind a call that brought anything
else there is no further call, and a step that fails before its payload is sent makes no
call at all.

`deploy_answered` says what one step does to the delivery, `Phase.through_completion` and
`Fails.through` how one step moves the phase; `execute_keeps_protocol` says it of every run.
-/
import Rollout.Proofs.Run.Dependencies

namespace Rollout.Run

set_option autoImplicit false

/-! ## Answers -/

section Answers

variable {σ : Type} (delivery : Delivery σ)

/-- Calls that a delivery answers one after another, each in the state that the calls
before left it in.  A wait that is broken off leaves it as it was. -/
inductive Answered : σ → List Exchange → σ → Prop
  | nothing (d : σ) : Answered d [] d
  | chainId {d next last : σ} {answer : Except Delivery.Fault UInt64} {rest : List Exchange}
      (asked : delivery.chainId d = (answer, next)) (others : Answered next rest last) :
      Answered d (.chainId answer :: rest) last
  | submit {d next last : σ} {payload : List UInt8} {answer : Except Delivery.Fault TxHash}
      {rest : List Exchange} (asked : delivery.submit d payload = (answer, next))
      (others : Answered next rest last) : Answered d (.submit payload answer :: rest) last
  | confirm {d next last : σ} {hash : TxHash} {answer : Except Delivery.Fault Receipt}
      {rest : List Exchange} (asked : delivery.confirm d hash = (answer, next))
      (others : Answered next rest last) : Answered d (.confirm hash (some answer) :: rest) last
  | brokenOff {d last : σ} {hash : TxHash} {rest : List Exchange}
      (others : Answered d rest last) : Answered d (.confirm hash none :: rest) last

variable {delivery}

theorem Answered.append {d middle last : σ} {front back : List Exchange}
    (first : Answered delivery d front middle) (second : Answered delivery middle back last) :
    Answered delivery d (front ++ back) last := by
  induction first with
  | nothing => exact second
  | chainId asked _ ih => exact .chainId asked (ih second)
  | submit asked _ ih => exact .submit asked (ih second)
  | confirm asked _ ih => exact .confirm asked (ih second)
  | brokenOff _ ih => exact .brokenOff (ih second)

variable (setting : Setting σ) (linkName : String → String)

/-- A step adds calls to those before it, and the delivery answers them. -/
theorem deploy_answered (a : Artifact) (s : State σ) :
    ∃ calls, (deploy setting linkName a s).2.exchanges = s.exchanges ++ calls ∧
      Answered setting.delivery s.delivery calls (deploy setting linkName a s).2.delivery := by
  unfold deploy
  split
  · exact ⟨[], by simp, .nothing s.delivery⟩
  · cases payload setting.source linkName (addressOf s.records) a with
    | error fault => exact ⟨[], by simp, .nothing s.delivery⟩
    | ok sent =>
        simp only [deliver]
        rcases submitted : setting.delivery.submit s.delivery sent with ⟨fault | hash, d⟩
        · exact ⟨[.submit sent (.error fault)], rfl, .submit submitted (.nothing d)⟩
        · cases setting.stop.interrupts s.records.length with
          | true =>
              refine ⟨[.submit sent (.ok hash), .confirm hash none], by simp, ?_⟩
              exact .submit submitted (.brokenOff (.nothing d))
          | false =>
              rcases answered : setting.delivery.confirm d hash with ⟨answer, d'⟩
              refine ⟨[.submit sent (.ok hash), .confirm hash (some answer)], ?_, ?_⟩
              · cases answer <;> simp [answered]
              · have calls := Answered.submit submitted (.confirm answered (.nothing d'))
                cases answer <;> simpa [answered] using calls

theorem deployAll_answered (steps : List Plan.Step) (s : State σ) :
    ∃ calls, (deployAll setting linkName steps s).2.exchanges = s.exchanges ++ calls ∧
      Answered setting.delivery s.delivery calls
        (deployAll setting linkName steps s).2.delivery := by
  induction steps generalizing s with
  | nil => exact ⟨[], by simp [deployAll], .nothing s.delivery⟩
  | cons step rest ih =>
      obtain ⟨calls, made, answered⟩ := deploy_answered setting linkName step.artifact s
      rw [deployAll]
      rcases deployed : deploy setting linkName step.artifact s with ⟨fault | record, s'⟩
      · rw [deployed] at made answered
        exact ⟨calls, made, answered⟩
      · rw [deployed] at made answered
        obtain ⟨later, made', answered'⟩ := ih { s' with records := s'.records ++ [record] }
        refine ⟨calls ++ later, ?_, answered.append answered'⟩
        rw [← List.append_assoc, ← made]
        exact made'

/-- The calls of a run are those that the delivery answered. -/
theorem execute_answered (plan : Plan) (network : Network) (start : σ) :
    Answered setting.delivery start (execute setting plan network start).exchanges
      (execute setting plan network start).delivery := by
  unfold execute
  rcases asked : setting.delivery.chainId start with ⟨fault | chain, d⟩
  · exact .chainId asked (.nothing d)
  · cases accepted : network.matcher.accepts chain with
    | false =>
        simp only [accepted]
        exact .chainId asked (.nothing d)
    | true =>
        simp only [accepted, if_true]
        obtain ⟨calls, made, answered⟩ := deployAll_answered setting (linkNameOf plan.artifacts)
          plan.steps ⟨d, [], [.chainId (.ok chain)]⟩
        rcases ran : deployAll setting (linkNameOf plan.artifacts) plan.steps
          ⟨d, [], [.chainId (.ok chain)]⟩ with ⟨halt, s⟩
        rw [ran] at made answered
        have all : Answered setting.delivery start s.exchanges s.delivery := by
          rw [made]
          exact .chainId asked answered
        cases halt with
        | none => exact all
        | some halt => exact all

end Answers

/-! ## Phases -/

/-- Where a run stands with the delivery. -/
inductive Phase where
  /-- The chain has not been asked for. -/
  | unasked
  /-- Nothing is in flight. -/
  | idle
  /-- A payload was accepted, and its confirmation has not been waited for. -/
  | awaiting (hash : TxHash)
  /-- A call did not bring what a run needs to go on. -/
  | ended
  deriving DecidableEq

namespace Phase

/-- What a wait has to bring: a receipt that tells of success and of a contract. -/
def confirms : Option (Except Delivery.Fault Receipt) → Bool
  | some (.ok receipt) => receipt.success && receipt.contract.isSome
  | _ => false

/-- The phase behind a call; a call out of turn has none. -/
def after (matcher : Network.Matcher) : Phase → Exchange → Option Phase
  | .unasked, .chainId (.ok chain) => some (if matcher.accepts chain then .idle else .ended)
  | .unasked, .chainId (.error _) => some .ended
  | .idle, .submit _ (.ok hash) => some (.awaiting hash)
  | .idle, .submit _ (.error _) => some .ended
  | .awaiting hash, .confirm waited answer =>
      if waited = hash then some (if confirms answer then .idle else .ended) else none
  | _, _ => none

/-- The phase behind some calls, when each of them is in turn. -/
def through (matcher : Network.Matcher) (phase : Phase) (calls : List Exchange) : Option Phase :=
  calls.foldlM (after matcher) phase

variable {matcher : Network.Matcher} {phase : Phase}

theorem through_append (front back : List Exchange) :
    phase.through matcher (front ++ back) =
      (phase.through matcher front).bind fun next => next.through matcher back := by
  rw [through, List.foldlM_append]
  rfl

theorem through_ended {calls : List Exchange} {next : Phase}
    (inTurn : Phase.ended.through matcher calls = some next) : calls = [] := by
  cases calls with
  | nil => rfl
  | cons call rest =>
      rw [through, List.foldlM_cons] at inTurn
      cases call <;> cases inTurn

theorem through_completion {c : Completion} {a : Artifact} (sound : c.Confirms a) :
    Phase.idle.through matcher c.exchanges = some .idle := by
  have good : confirms (some (.ok c.receipt)) = true := by
    simp [confirms, sound.success, sound.contract]
  simp [through, Completion.exchanges, after, good]

end Phase

section Steps

variable {σ : Type} {setting : Setting σ} {linkName : String → String} {steps : List Plan.Step}
  {s last : State σ} {log : List Completion} {matcher : Network.Matcher}

theorem Advances.through (advances : Advances setting linkName steps s log last) :
    Phase.idle.through matcher (log.flatMap (·.exchanges)) = some .idle := by
  induction advances with
  | nothing => rfl
  | step completes _ ih =>
      rw [List.flatMap_cons, Phase.through_append, Phase.through_completion completes.confirms]
      exact ih

/-- A receipt that does not confirm a step fails it with a rejection. -/
theorem confirmed_eq_error {artifact : String} {receipt : Receipt} {time : Moment} {fault : Fault}
    (failed : confirmed artifact receipt time = .error fault) :
    Phase.confirms (some (.ok receipt)) = false ∧ ∃ cause, fault = .rejected artifact cause := by
  unfold confirmed Record.ofReceipt? at failed
  cases success : receipt.success with
  | false =>
      simp only [success, Bool.false_eq_true, if_false, Except.error.injEq] at failed
      exact ⟨by simp [Phase.confirms, success], _, failed.symm⟩
  | true =>
      cases contract : receipt.contract with
      | some address => simp [success, contract] at failed
      | none =>
          simp only [success, contract, if_true, Option.map_none, Except.error.injEq] at failed
          exact ⟨by simp [Phase.confirms, contract], _, failed.symm⟩

/-- A step that fails makes no call, or ends the conversation. -/
theorem Fails.through {a : Artifact} {fault : Fault} {calls : List Exchange}
    (fails : Fails setting linkName a s fault calls) :
    calls = [] ∨ Phase.idle.through matcher calls = some .ended := by
  cases fails with
  | stopped => exact Or.inl rfl
  | unpayable => exact Or.inl rfl
  | refused => exact Or.inr rfl
  | interrupted => exact Or.inr (by simp [Phase.through, Phase.after, Phase.confirms])
  | unconfirmed => exact Or.inr (by simp [Phase.through, Phase.after, Phase.confirms])
  | rejected _ _ _ _ _ _ _ receipt _ _ _ failed =>
      obtain ⟨refused, -⟩ := confirmed_eq_error failed
      exact Or.inr (by simp [Phase.through, Phase.after, refused])

/-! ## Faults in front of a payload -/

/-- Faults that are found before anything of a step is sent. -/
def Fault.precedesSending : Fault → Bool
  | .networkMismatch _ _ | .unresolvedReference _ _ | .build _ | .missingLink _ _ | .link _
  | .encoding _ _ => true
  | .rejected _ _ | .timedOut _ _ | .cancelled _ | .delivery _ => false

theorem Fault.precedesSending_ofDelivery (artifact : String) (fault : Delivery.Fault) :
    (Fault.ofDelivery artifact fault).precedesSending = false := by
  cases fault <;> rfl

/-- A step that fails with such a fault has no payload, and makes no call. -/
theorem Fails.unpaid {a : Artifact} {fault : Fault} {calls : List Exchange}
    (fails : Fails setting linkName a s fault calls) (precedes : fault.precedesSending = true) :
    payload setting.source linkName (addressOf s.records) a = .error fault ∧ calls = [] := by
  cases fails with
  | stopped => cases precedes
  | unpayable _ _ failed => exact ⟨failed, rfl⟩
  | refused =>
      rw [Fault.precedesSending_ofDelivery] at precedes
      cases precedes
  | interrupted => cases precedes
  | unconfirmed =>
      rw [Fault.precedesSending_ofDelivery] at precedes
      cases precedes
  | rejected _ _ _ _ _ _ _ _ _ _ _ failed =>
      obtain ⟨-, cause, rfl⟩ := confirmed_eq_error failed
      cases precedes

/-- A step that is stopped where it starts makes no call. -/
theorem Fails.calls_eq_nil_of_raised {a : Artifact} {fault : Fault} {calls : List Exchange}
    (fails : Fails setting linkName a s fault calls)
    (raised : setting.stop.raisedBefore s.records.length = true) : calls = [] := by
  have running : setting.stop.raisedBefore s.records.length ≠ false := by simp [raised]
  cases fails with
  | stopped => rfl
  | unpayable => rfl
  | refused runs => exact absurd runs running
  | interrupted runs => exact absurd runs running
  | unconfirmed runs => exact absurd runs running
  | rejected runs => exact absurd runs running

/-! ## Payloads in order -/

/-- A step that fails has sent its payload, or there is none or it may not be sent. -/
theorem Fails.attempt {a : Artifact} {fault : Fault} {calls : List Exchange}
    (fails : Fails setting linkName a s fault calls) :
    (setting.stop.raisedBefore s.records.length = false ∧
        ∃ sent, payload setting.source linkName (addressOf s.records) a = .ok sent ∧
          Exchange.payloads calls = [sent]) ∨
      ((setting.stop.raisedBefore s.records.length = true ∨
          ∃ fault, payload setting.source linkName (addressOf s.records) a = .error fault) ∧
        calls = []) := by
  cases fails with
  | stopped raised => exact Or.inr ⟨Or.inl raised, rfl⟩
  | unpayable _ _ failed => exact Or.inr ⟨Or.inr ⟨fault, failed⟩, rfl⟩
  | refused running sent paid => exact Or.inl ⟨running, sent, paid, rfl⟩
  | interrupted running sent paid => exact Or.inl ⟨running, sent, paid, rfl⟩
  | unconfirmed running sent paid => exact Or.inl ⟨running, sent, paid, rfl⟩
  | rejected running sent paid => exact Or.inl ⟨running, sent, paid, rfl⟩

/-- A step that fails has sent nothing, or its payload alone. -/
theorem Fails.payloads_cases {a : Artifact} {fault : Fault} {calls : List Exchange}
    (fails : Fails setting linkName a s fault calls) :
    Exchange.payloads calls = [] ∨
      ∃ sent, payload setting.source linkName (addressOf s.records) a = .ok sent ∧
        Exchange.payloads calls = [sent] := by
  rcases fails.attempt with ⟨-, sent, paid, only⟩ | ⟨-, rfl⟩
  · exact Or.inr ⟨sent, paid, only⟩
  · exact Or.inl rfl

/-- The payload at a place is that of the step there, with the records of those before. -/
theorem Advances.paid_at (advances : Advances setting linkName steps s log last) {place : Nat}
    {c : Completion} (there : log[place]? = some c) :
    ∃ step, steps[place]? = some step ∧
      payload setting.source linkName
        (addressOf (s.records ++ (log.take place).map (·.record))) step.artifact =
          .ok c.payload := by
  induction advances generalizing place with
  | nothing => simp at there
  | @step step rest s next last first log completes others ih =>
      cases place with
      | zero =>
          obtain rfl : first = c := by simpa using there
          exact ⟨step, rfl, by simpa using completes.paid⟩
      | succ place =>
          obtain ⟨step', found, paid⟩ := ih (by simpa using there)
          refine ⟨step', by simpa using found, ?_⟩
          rw [completes.records, List.append_assoc] at paid
          exact paid

end Steps

/-! ## Runs -/

section Runs

variable {σ : Type}

/-- How a run talks to the delivery. -/
structure Protocol (setting : Setting σ) (plan : Plan) (network : Network) (start : σ)
    (outcome : Outcome σ) : Prop where
  /-- Its calls are those that the delivery answered, one after another. -/
  answered : Answered setting.delivery start outcome.exchanges outcome.delivery
  /-- Each call is in turn, and in the end none is waited for. -/
  inTurn : ∃ phase, Phase.unasked.through network.matcher outcome.exchanges = some phase ∧
    (phase = .idle ∨ phase = .ended)
  /-- Behind a call that brought anything else than is needed there is none. -/
  last : ∀ before after, outcome.exchanges = before ++ after →
    Phase.unasked.through network.matcher before = some .ended → after = []
  /-- The payloads are those of the first steps of the plan, one for each, in order. -/
  inOrder : ∀ place sent, (Exchange.payloads outcome.exchanges)[place]? = some sent →
    ∃ step, plan.steps[place]? = some step ∧
      payload setting.source (linkNameOf plan.artifacts)
        (addressOf (outcome.records.take place)) step.artifact = .ok sent
  /-- All of them led to a record, or all but the last. -/
  count : (Exchange.payloads outcome.exchanges).length = outcome.records.length ∨
    (Exchange.payloads outcome.exchanges).length = outcome.records.length + 1
  /-- Nothing of a step is sent that fails before its payload is, or is stopped at its
  start: the last call was the one that confirmed the step before. -/
  unsent : ∀ halt, outcome.result = .error halt →
    halt.fault.precedesSending = true ∨
      setting.stop.raisedBefore halt.completed.length = true →
    (Exchange.payloads outcome.exchanges).length = halt.completed.length ∧
      (halt.step = none ∨
        Phase.unasked.through network.matcher outcome.exchanges = some .idle)

variable {setting : Setting σ} {plan : Plan} {network : Network} {start : σ}

/-- Up to where a run has come, nothing is in flight. -/
theorem Starts.through {linkName : String → String} {steps : List Plan.Step} {s last : State σ}
    {log : List Completion} (starts : Starts setting network start s)
    (advances : Advances setting linkName steps s log last) (calls : List Exchange) :
    Phase.unasked.through network.matcher (last.exchanges ++ calls) =
      Phase.idle.through network.matcher calls := by
  obtain ⟨chain, -, accepted, first⟩ := starts.connected
  have opened : Phase.unasked.through network.matcher [.chainId (.ok chain)] = some .idle := by
    simp [Phase.through, Phase.after, accepted]
  rw [advances.exchanges_eq, first, Phase.through_append, Phase.through_append, opened]
  simp only [Option.bind_some]
  rw [advances.through]
  rfl

theorem Ends.inTurn {outcome : Outcome σ} (ends : Ends setting plan network start outcome) :
    ∃ phase, Phase.unasked.through network.matcher outcome.exchanges = some phase ∧
      (phase = .idle ∨ phase = .ended) := by
  cases ends with
  | unreached fault d failed => exact ⟨.ended, rfl, Or.inr rfl⟩
  | mismatched chain d answered refused =>
      exact ⟨.ended, by simp [Phase.through, Phase.after, refused], Or.inr rfl⟩
  | completed s starts log last advances =>
      have ended := starts.through advances []
      rw [List.append_nil] at ended
      exact ⟨.idle, ended, Or.inl rfl⟩
  | halted s starts done step rest split log last advances fault calls fails d =>
      have ended := starts.through advances calls
      have ending : calls = [] ∨ Phase.idle.through network.matcher calls = some .ended :=
        fails.through
      rcases ending with rfl | stop
      · exact ⟨.idle, ended, Or.inl rfl⟩
      · exact ⟨.ended, ended.trans stop, Or.inr rfl⟩

theorem Ends.last {outcome : Outcome σ} (ends : Ends setting plan network start outcome)
    {before after : List Exchange} (split : outcome.exchanges = before ++ after)
    (closed : Phase.unasked.through network.matcher before = some .ended) : after = [] := by
  obtain ⟨phase, inTurn, -⟩ := ends.inTurn
  rw [split, Phase.through_append, closed] at inTurn
  exact Phase.through_ended inTurn

/-- The payloads of completed steps are those of the steps, in order. -/
theorem Starts.paid_at {linkName : String → String} {steps : List Plan.Step} {s last : State σ}
    {log : List Completion} (starts : Starts setting network start s)
    (advances : Advances setting linkName steps s log last) {place : Nat} {sent : List UInt8}
    (there : (log.map (·.payload))[place]? = some sent) :
    ∃ step, steps[place]? = some step ∧
      payload setting.source linkName (addressOf (last.records.take place)) step.artifact =
        .ok sent := by
  obtain ⟨c, logged, rfl⟩ : ∃ c, log[place]? = some c ∧ c.payload = sent := by
    simpa using there
  obtain ⟨step, found, paid⟩ := advances.paid_at logged
  rw [starts.records, List.nil_append, List.map_take, ← starts.records_eq advances] at paid
  exact ⟨step, found, paid⟩

/-- The payloads of a run are those of its completed steps, and of the calls behind them. -/
theorem Starts.payloads_append {linkName : String → String} {steps : List Plan.Step}
    {s last : State σ} {log : List Completion} (starts : Starts setting network start s)
    (advances : Advances setting linkName steps s log last) (calls : List Exchange) :
    Exchange.payloads (last.exchanges ++ calls) =
      log.map (·.payload) ++ Exchange.payloads calls := by
  rw [Run.payloads_append, starts.payloads_eq advances]

theorem Starts.count_eq {linkName : String → String} {steps : List Plan.Step} {s last : State σ}
    {log : List Completion} (starts : Starts setting network start s)
    (advances : Advances setting linkName steps s log last) :
    last.records.length = log.length := by
  rw [starts.records_eq advances, List.length_map]

theorem Ends.inOrder {outcome : Outcome σ} (ends : Ends setting plan network start outcome)
    {place : Nat} {sent : List UInt8}
    (there : (Exchange.payloads outcome.exchanges)[place]? = some sent) :
    ∃ step, plan.steps[place]? = some step ∧
      payload setting.source (linkNameOf plan.artifacts)
        (addressOf (outcome.records.take place)) step.artifact = .ok sent := by
  cases ends with
  | unreached => simp [Exchange.payloads] at there
  | mismatched => simp [Exchange.payloads] at there
  | completed s starts log last advances =>
      change (Exchange.payloads last.exchanges)[place]? = some sent at there
      rw [starts.payloads_eq advances] at there
      exact starts.paid_at advances there
  | halted s starts done step rest split log last advances fault calls fails d =>
      change (Exchange.payloads (last.exchanges ++ calls))[place]? = some sent at there
      change ∃ step, _ ∧ payload _ _ (addressOf (last.records.take place)) _ = _
      rw [starts.payloads_append advances] at there
      have count : (log.map (·.payload)).length = done.length := by
        rw [List.length_map, advances.length_eq]
      by_cases before : place < done.length
      · rw [List.getElem?_append_left (count ▸ before)] at there
        obtain ⟨step', found, paid⟩ := starts.paid_at advances there
        refine ⟨step', ?_, paid⟩
        rw [split, List.getElem?_append_left before]
        exact found
      · have behind : done.length ≤ place := Nat.le_of_not_lt before
        rw [List.getElem?_append_right (count ▸ behind), count] at there
        rcases fails.payloads_cases with none | ⟨sent', paid, only⟩
        · rw [none] at there
          cases there
        · -- The payload behind those of the completed steps is that of the failing one.
          rw [only, List.getElem?_singleton] at there
          split at there
          next here =>
            cases there
            have same : place = done.length := by omega
            have all : last.records.take place = last.records := by
              refine List.take_of_length_le ?_
              rw [starts.count_eq advances, advances.length_eq, same]
            refine ⟨step, by rw [split, same]; simp, ?_⟩
            rw [all]
            exact paid
          next => cases there

theorem Ends.count {outcome : Outcome σ} (ends : Ends setting plan network start outcome) :
    (Exchange.payloads outcome.exchanges).length = outcome.records.length ∨
      (Exchange.payloads outcome.exchanges).length = outcome.records.length + 1 := by
  cases ends with
  | unreached => exact Or.inl rfl
  | mismatched => exact Or.inl rfl
  | completed s starts log last advances =>
      left
      show (Exchange.payloads last.exchanges).length = last.records.length
      rw [starts.payloads_eq advances, starts.count_eq advances, List.length_map]
  | halted s starts done step rest split log last advances fault calls fails d =>
      show (Exchange.payloads (last.exchanges ++ calls)).length = last.records.length ∨
        (Exchange.payloads (last.exchanges ++ calls)).length = last.records.length + 1
      rw [starts.payloads_append advances, starts.count_eq advances, List.length_append,
        List.length_map]
      rcases fails.payloads_cases with none | ⟨sent, -, only⟩
      · left
        rw [none]
        rfl
      · right
        rw [only]
        rfl

theorem Ends.unsent {outcome : Outcome σ} (ends : Ends setting plan network start outcome)
    {halt : Halt} (halted : outcome.result = .error halt)
    (early : halt.fault.precedesSending = true ∨
      setting.stop.raisedBefore halt.completed.length = true) :
    (Exchange.payloads outcome.exchanges).length = halt.completed.length ∧
      (halt.step = none ∨
        Phase.unasked.through network.matcher outcome.exchanges = some .idle) := by
  cases ends with
  | unreached =>
      cases halted
      exact ⟨rfl, Or.inl rfl⟩
  | mismatched =>
      cases halted
      exact ⟨rfl, Or.inl rfl⟩
  | completed => cases halted
  | halted s starts done step rest split log last advances fault calls fails d =>
      cases halted
      obtain rfl : calls = [] := by
        rcases early with precedes | raised
        · exact (fails.unpaid precedes).2
        · exact fails.calls_eq_nil_of_raised raised
      rw [List.append_nil]
      constructor
      · rw [starts.payloads_eq advances, starts.count_eq advances, List.length_map]
      · have ended := starts.through advances []
        rw [List.append_nil] at ended
        exact Or.inr ended

/-- **Every run keeps to the protocol of the delivery.** -/
theorem execute_keeps_protocol (setting : Setting σ) (plan : Plan) (network : Network)
    (start : σ) :
    Protocol setting plan network start (execute setting plan network start) := by
  have ends := execute_ends setting plan network start
  exact {
    answered := execute_answered setting plan network start
    inTurn := ends.inTurn
    last := fun before after split closed => ends.last split closed
    inOrder := fun place sent there => ends.inOrder there
    count := ends.count
    unsent := fun halt halted early => ends.unsent halted early }

end Runs

end Rollout.Run
