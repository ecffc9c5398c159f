/-
# Rollout.Proofs.Run.Steps — what one step of a run can do, and what a run is

A step either completes, with a payload that is sent and a receipt that confirms it
(`Completes`), or fails in one of six ways (`Fails`); `deploy_cases` says that there is
nothing else.  A run is a row of completed steps (`Advances`), followed by nothing or by
one step that fails (`execute_ends`).  The records and the calls of a run are those of
its completed steps, in order (`Advances.records_eq`, `Advances.exchanges_eq`).
-/
import Mathlib.Data.List.Forall2
import Rollout.Proofs.Run.Payload
import Rollout.Run.Execution

namespace Rollout.Run

set_option autoImplicit false

/-! ## One step -/

/-- What a completed step leaves behind. -/
structure Completion where
  payload : List UInt8
  hash : TxHash
  receipt : Receipt
  record : Record

/-- The calls of a completed step. -/
def Completion.exchanges (c : Completion) : List Exchange :=
  [.submit c.payload (.ok c.hash), .confirm c.hash (some (.ok c.receipt))]

/-! ## Payloads of calls -/

theorem payloads_append (front back : List Exchange) :
    Exchange.payloads (front ++ back) = Exchange.payloads front ++ Exchange.payloads back := by
  simp [Exchange.payloads]

/-- A completed step sends one payload. -/
theorem payloads_flatMap (log : List Completion) :
    Exchange.payloads (log.flatMap (·.exchanges)) = log.map (·.payload) := by
  induction log with
  | nil => rfl
  | cons c rest ih =>
      rw [List.flatMap_cons, payloads_append, ih]
      rfl

/-! ## Confirmations -/

/-- The record of a completed step says of the artifact what the receipt reports. -/
structure Completion.Confirms (c : Completion) (a : Artifact) : Prop where
  success : c.receipt.success = true
  contract : c.receipt.contract = some c.record.address
  artifact : c.record.artifact = a.name
  transaction : c.record.transaction = c.receipt.transaction
  block : c.record.block = c.receipt.block

theorem confirmed_eq_ok_iff {artifact : String} {receipt : Receipt} {time : Moment}
    {record : Record} :
    confirmed artifact receipt time = .ok record ↔ receipt.success = true ∧
      ∃ address, receipt.contract = some address ∧
        record = ⟨artifact, address, receipt.transaction, receipt.block, time⟩ := by
  unfold confirmed Record.ofReceipt?
  cases receipt.success <;> cases receipt.contract <;> simp [eq_comm]

section Step

variable {σ : Type} (setting : Setting σ) (linkName : String → String)

/-- A step that completes, from the state before it to the state with its record. -/
structure Completes (a : Artifact) (s : State σ) (c : Completion) (next : State σ) : Prop where
  running : setting.stop.raisedBefore s.records.length = false
  paid : payload setting.source linkName (addressOf s.records) a = .ok c.payload
  undisturbed : setting.stop.interrupts s.records.length = false
  delivered : ∃ sent, setting.delivery.submit s.delivery c.payload = (.ok c.hash, sent) ∧
    setting.delivery.confirm sent c.hash = (.ok c.receipt, next.delivery)
  confirmed : confirmed a.name c.receipt (setting.clock s.records.length) = .ok c.record
  records : next.records = s.records ++ [c.record]
  exchanges : next.exchanges = s.exchanges ++ c.exchanges

/-- A step that fails: with which fault, and after which calls. -/
inductive Fails (a : Artifact) (s : State σ) : Fault → List Exchange → Prop
  /-- The run has been told to stop. -/
  | stopped (raised : setting.stop.raisedBefore s.records.length = true) :
      Fails a s (.cancelled a.name) []
  /-- There is no payload. -/
  | unpayable (running : setting.stop.raisedBefore s.records.length = false)
      (fault : Fault)
      (failed : payload setting.source linkName (addressOf s.records) a = .error fault) :
      Fails a s fault []
  /-- The payload is not accepted. -/
  | refused (running : setting.stop.raisedBefore s.records.length = false)
      (sent : List UInt8)
      (paid : payload setting.source linkName (addressOf s.records) a = .ok sent)
      (fault : Delivery.Fault) (d : σ)
      (failed : setting.delivery.submit s.delivery sent = (.error fault, d)) :
      Fails a s (.ofDelivery a.name fault) [.submit sent (.error fault)]
  /-- The run is told to stop while it waits. -/
  | interrupted (running : setting.stop.raisedBefore s.records.length = false)
      (sent : List UInt8)
      (paid : payload setting.source linkName (addressOf s.records) a = .ok sent)
      (hash : TxHash) (d : σ)
      (submitted : setting.delivery.submit s.delivery sent = (.ok hash, d))
      (raised : setting.stop.interrupts s.records.length = true) :
      Fails a s (.cancelled a.name) [.submit sent (.ok hash), .confirm hash none]
  /-- There is no receipt. -/
  | unconfirmed (running : setting.stop.raisedBefore s.records.length = false)
      (sent : List UInt8)
      (paid : payload setting.source linkName (addressOf s.records) a = .ok sent)
      (hash : TxHash) (d : σ)
      (submitted : setting.delivery.submit s.delivery sent = (.ok hash, d))
      (undisturbed : setting.stop.interrupts s.records.length = false)
      (fault : Delivery.Fault) (d' : σ)
      (failed : setting.delivery.confirm d hash = (.error fault, d')) :
      Fails a s (.ofDelivery a.name fault)
        [.submit sent (.ok hash), .confirm hash (some (.error fault))]
  /-- The receipt tells of no success or of no contract. -/
  | rejected (running : setting.stop.raisedBefore s.records.length = false)
      (sent : List UInt8)
      (paid : payload setting.source linkName (addressOf s.records) a = .ok sent)
      (hash : TxHash) (d : σ)
      (submitted : setting.delivery.submit s.delivery sent = (.ok hash, d))
      (undisturbed : setting.stop.interrupts s.records.length = false)
      (receipt : Receipt) (d' : σ)
      (answered : setting.delivery.confirm d hash = (.ok receipt, d'))
      (fault : Fault)
      (failed : Run.confirmed a.name receipt (setting.clock s.records.length) = .error fault) :
      Fails a s fault [.submit sent (.ok hash), .confirm hash (some (.ok receipt))]

/-- **What a step can do.** -/
theorem deploy_cases (a : Artifact) (s : State σ) :
    (∃ c next, Completes setting linkName a s c next ∧
      deploy setting linkName a s = (.ok c.record, { next with records := s.records })) ∨
    ∃ fault calls d, Fails setting linkName a s fault calls ∧
      deploy setting linkName a s = (.error fault, ⟨d, s.records, s.exchanges ++ calls⟩) := by
  unfold deploy
  cases raised : setting.stop.raisedBefore s.records.length with
  | true => exact Or.inr ⟨_, [], s.delivery, .stopped raised, by simp⟩
  | false =>
    simp only [Bool.false_eq_true, if_false]
    cases paid : payload setting.source linkName (addressOf s.records) a with
    | error fault => exact Or.inr ⟨fault, [], s.delivery, .unpayable raised fault paid, by simp⟩
    | ok sent =>
      simp only [deliver]
      rcases submitted : setting.delivery.submit s.delivery sent with ⟨_ | hash, d⟩
      next fault =>
        exact Or.inr ⟨_, _, d, .refused raised sent paid fault d submitted, rfl⟩
      next =>
        cases disturbed : setting.stop.interrupts s.records.length with
        | true =>
          exact Or.inr ⟨_, _, d, .interrupted raised sent paid hash d submitted disturbed, by simp⟩
        | false =>
          rcases answered : setting.delivery.confirm d hash with ⟨_ | receipt, d'⟩
          next fault =>
            exact Or.inr ⟨_, _, d',
              .unconfirmed raised sent paid hash d submitted disturbed fault d' answered, by
                simp [answered]⟩
          next =>
            cases made : Run.confirmed a.name receipt (setting.clock s.records.length) with
            | error fault =>
              exact Or.inr ⟨fault, _, d',
                .rejected raised sent paid hash d submitted disturbed receipt d' answered fault made,
                by simp [answered, made]⟩
            | ok record =>
              let c : Completion := ⟨sent, hash, receipt, record⟩
              exact Or.inl ⟨c, ⟨d', s.records ++ [record], s.exchanges ++ c.exchanges⟩,
                ⟨raised, paid, disturbed, ⟨d, submitted, answered⟩, made, rfl, rfl⟩, by
                  simp [answered, made, c, Completion.exchanges]⟩

variable {setting linkName}

theorem Completes.deploy_eq {a : Artifact} {s next : State σ} {c : Completion}
    (completes : Completes setting linkName a s c next) :
    deploy setting linkName a s = (.ok c.record, { next with records := s.records }) := by
  obtain ⟨sent, submitted, answered⟩ := completes.delivered
  simp [deploy, completes.running, completes.paid, deliver, submitted, completes.undisturbed,
    answered, completes.confirmed, completes.exchanges, Completion.exchanges]

theorem Completes.confirms {a : Artifact} {s next : State σ} {c : Completion}
    (completes : Completes setting linkName a s c next) : c.Confirms a := by
  obtain ⟨success, address, contract, made⟩ := confirmed_eq_ok_iff.mp completes.confirmed
  exact ⟨success, by rw [made, contract], by rw [made], by rw [made], by rw [made]⟩

end Step

/-! ## Steps one after another -/

section Advances

variable {σ : Type} (setting : Setting σ) (linkName : String → String)

/-- Steps that complete one after another, and what they leave behind. -/
inductive Advances : List Plan.Step → State σ → List Completion → State σ → Prop
  | nothing (s : State σ) : Advances [] s [] s
  | step {step : Plan.Step} {rest : List Plan.Step} {s next last : State σ} {c : Completion}
      {log : List Completion} (completes : Completes setting linkName step.artifact s c next)
      (others : Advances rest next log last) : Advances (step :: rest) s (c :: log) last

variable {setting linkName} {steps : List Plan.Step} {s last : State σ} {log : List Completion}

theorem Advances.records_eq (advances : Advances setting linkName steps s log last) :
    last.records = s.records ++ log.map (·.record) := by
  induction advances with
  | nothing => simp
  | step completes _ ih => simp [ih, completes.records]

theorem Advances.exchanges_eq (advances : Advances setting linkName steps s log last) :
    last.exchanges = s.exchanges ++ log.flatMap (·.exchanges) := by
  induction advances with
  | nothing => simp
  | step completes _ ih => simp [ih, completes.exchanges]

theorem Advances.names_eq (advances : Advances setting linkName steps s log last) :
    log.map (·.record.artifact) = steps.map (·.artifact.name) := by
  induction advances with
  | nothing => rfl
  | step completes _ ih => simp [ih, completes.confirms.artifact]

theorem Advances.length_eq (advances : Advances setting linkName steps s log last) :
    log.length = steps.length := by
  induction advances with
  | nothing => rfl
  | step _ _ ih => simp [ih]

theorem Advances.cut {front back : List Completion} {c : Completion}
    (advances : Advances setting linkName steps s (front ++ c :: back) last) :
    ∃ done step rest mid next, steps = done ++ step :: rest ∧
      Advances setting linkName done s front mid ∧
      Completes setting linkName step.artifact mid c next ∧
      Advances setting linkName rest next back last := by
  induction front generalizing steps s with
  | nil =>
      cases advances with
      | step completes others => exact ⟨[], _, _, s, _, rfl, .nothing s, completes, others⟩
  | cons first front ih =>
      cases advances with
      | step completes others =>
          obtain ⟨done, step, rest, mid, next, rfl, before, here, after⟩ := ih others
          exact ⟨_ :: done, step, rest, mid, next, rfl, .step completes before, here, after⟩

theorem Advances.confirms (advances : Advances setting linkName steps s log last) :
    List.Forall₂ (fun step c => c.Confirms step.artifact) steps log := by
  induction advances with
  | nothing => exact .nil
  | step completes _ ih => exact .cons completes.confirms ih

/-- **A row of steps** completes, or comes to a first step that fails. -/
theorem deployAll_cases (setting : Setting σ) (linkName : String → String)
    (steps : List Plan.Step) (s : State σ) :
    (∃ log last, Advances setting linkName steps s log last ∧
      deployAll setting linkName steps s = (none, last)) ∨
    ∃ done step rest log last fault calls d, steps = done ++ step :: rest ∧
      Advances setting linkName done s log last ∧
      Fails setting linkName step.artifact last fault calls ∧
      deployAll setting linkName steps s =
        (some ⟨last.records, some (step.index, step.artifact.name), fault⟩,
          ⟨d, last.records, last.exchanges ++ calls⟩) := by
  induction steps generalizing s with
  | nil => exact Or.inl ⟨[], s, .nothing s, rfl⟩
  | cons first rest ih =>
      rcases deploy_cases setting linkName first.artifact s with
        ⟨c, next, completes, deployed⟩ | ⟨fault, calls, d, fails, deployed⟩
      · have onward : deployAll setting linkName (first :: rest) s =
            deployAll setting linkName rest next := by
          rw [deployAll, deployed]
          simp only [← completes.records]
        rcases ih next with ⟨log, last, advances, ran⟩ |
          ⟨done, step, later, log, last, fault, calls, d, rfl, advances, fails, ran⟩
        · exact Or.inl ⟨c :: log, last, .step completes advances, onward.trans ran⟩
        · exact Or.inr ⟨first :: done, step, later, c :: log, last, fault, calls, d, rfl,
            .step completes advances, fails, onward.trans ran⟩
      · refine Or.inr ⟨[], first, rest, [], s, fault, calls, d, rfl, .nothing s, fails, ?_⟩
        rw [deployAll, deployed]

/-- Steps that complete one after another are deployed without a halt. -/
theorem Advances.deployAll_eq (advances : Advances setting linkName steps s log last) :
    deployAll setting linkName steps s = (none, last) := by
  induction advances with
  | nothing => rfl
  | step completes _ ih =>
      rw [deployAll, completes.deploy_eq]
      simpa only [← completes.records] using ih

end Advances

/-! ## Runs -/

section Runs

variable {σ : Type}

/-- A run starts its first step: the chain is the one that the network accepts. -/
structure Starts (setting : Setting σ) (network : Network) (start : σ) (s : State σ) : Prop where
  connected : ∃ chain, setting.delivery.chainId start = (.ok chain, s.delivery) ∧
    network.matcher.accepts chain = true ∧ s.exchanges = [.chainId (.ok chain)]
  records : s.records = []

section Starts

variable {setting : Setting σ} {network : Network} {linkName : String → String} {start : σ}
  {steps : List Plan.Step} {s last : State σ} {log : List Completion}

theorem Starts.records_eq (starts : Starts setting network start s)
    (advances : Advances setting linkName steps s log last) :
    last.records = log.map (·.record) := by
  rw [advances.records_eq, starts.records, List.nil_append]

theorem Starts.payloads_eq (starts : Starts setting network start s)
    (advances : Advances setting linkName steps s log last) :
    Exchange.payloads last.exchanges = log.map (·.payload) := by
  obtain ⟨chain, -, -, first⟩ := starts.connected
  rw [advances.exchanges_eq, first, payloads_append, payloads_flatMap]
  rfl

theorem Starts.execute_eq {plan : Plan} (starts : Starts setting network start s)
    (advances : Advances setting (linkNameOf plan.artifacts) plan.steps s log last) :
    execute setting plan network start = ⟨.ok last.records, last.exchanges, last.delivery⟩ := by
  obtain ⟨chain, answered, accepted, first⟩ := starts.connected
  have fresh : s = ⟨s.delivery, [], [.chainId (.ok chain)]⟩ := by
    rw [← starts.records, ← first]
  rw [execute, answered]
  simp only [accepted, if_true]
  rw [← fresh, advances.deployAll_eq]

end Starts

/-- What a run can come to. -/
inductive Ends (setting : Setting σ) (plan : Plan) (network : Network) (start : σ) :
    Outcome σ → Prop
  /-- The chain cannot be asked for. -/
  | unreached (fault : Delivery.Fault) (d : σ)
      (failed : setting.delivery.chainId start = (.error fault, d)) :
      Ends setting plan network start
        ⟨.error ⟨[], none, .delivery fault⟩, [.chainId (.error fault)], d⟩
  /-- It is another chain. -/
  | mismatched (chain : UInt64) (d : σ)
      (answered : setting.delivery.chainId start = (.ok chain, d))
      (refused : network.matcher.accepts chain = false) :
      Ends setting plan network start
        ⟨.error ⟨[], none, .networkMismatch network.matcher chain⟩, [.chainId (.ok chain)], d⟩
  /-- Every step completes. -/
  | completed (s : State σ) (starts : Starts setting network start s) (log : List Completion)
      (last : State σ)
      (advances : Advances setting (linkNameOf plan.artifacts) plan.steps s log last) :
      Ends setting plan network start ⟨.ok last.records, last.exchanges, last.delivery⟩
  /-- A step fails behind some that complete. -/
  | halted (s : State σ) (starts : Starts setting network start s)
      (done : List Plan.Step) (step : Plan.Step) (rest : List Plan.Step)
      (split : plan.steps = done ++ step :: rest) (log : List Completion) (last : State σ)
      (advances : Advances setting (linkNameOf plan.artifacts) done s log last)
      (fault : Fault) (calls : List Exchange)
      (fails : Fails setting (linkNameOf plan.artifacts) step.artifact last fault calls) (d : σ) :
      Ends setting plan network start
        ⟨.error ⟨last.records, some (step.index, step.artifact.name), fault⟩,
          last.exchanges ++ calls, d⟩

/-- **What a run is.** -/
theorem execute_ends (setting : Setting σ) (plan : Plan) (network : Network) (start : σ) :
    Ends setting plan network start (execute setting plan network start) := by
  unfold execute
  rcases answered : setting.delivery.chainId start with ⟨fault | chain, d⟩
  · exact .unreached fault d answered
  · cases accepted : network.matcher.accepts chain with
    | false =>
        simp only [accepted]
        exact .mismatched chain d answered accepted
    | true =>
        simp only [accepted, if_true]
        let s : State σ := ⟨d, [], [.chainId (.ok chain)]⟩
        have starts : Starts setting network start s := ⟨⟨chain, answered, accepted, rfl⟩, rfl⟩
        rcases deployAll_cases setting (linkNameOf plan.artifacts) plan.steps s with
            ⟨log, last, advances, ran⟩ |
            ⟨done, step, rest, log, last, fault, calls, d', split, advances, fails, ran⟩
        · rw [ran]
          exact .completed s starts log last advances
        · rw [ran]
          exact .halted s starts done step rest split log last advances fault calls fails d'

end Runs

end Rollout.Run
