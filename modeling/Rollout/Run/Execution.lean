/-
# Rollout.Run.Execution — carrying out a plan

Steps run one after another: the payload is made from what is already deployed,
sent, and confirmed before the next step starts.  The first failure ends the
run.  A run may be stopped from outside at one of the moments of `Stop`.
-/
import Rollout.Network
import Rollout.Plan
import Rollout.Run.Payload

namespace Rollout.Run

set_option autoImplicit false

/-! ## Stopping -/

/-- What the receiving end of a signal shows at one moment. -/
inductive Signal where
  /-- It has not been raised. -/
  | quiet
  | raised
  /-- It has not been raised, and nobody is left who could raise it. -/
  | closed
  deriving DecidableEq, Repr

namespace Signal

inductive Wait where
  /-- Nothing so far. -/
  | pending
  | raised
  /-- It will never be raised. -/
  | failed
  deriving DecidableEq, Repr

def await : Signal → Wait
  | .quiet => .pending
  | .raised => .raised
  | .closed => .failed

/-- Whether a run that has this signal, or none, has been told to stop. -/
def isRaised (signal : Option Signal) : Bool := signal = some .raised

/-- Whether the signal of a run breaks off a wait for a confirmation.  When waiting for the
signal fails, the run waits on, as it does without a signal. -/
def breaksOff (signal : Option Signal) : Bool := signal.map await = some .raised

end Signal

/-- When a run is told to stop. -/
inductive Stop where
  /-- There is no signal. -/
  | never
  /-- There is a signal, and it is never raised. -/
  | idle
  /-- Nobody is left who could raise the signal when the step with this number starts, and
  it was not raised before. -/
  | abandoned (step : Nat)
  | beforeStart
  /-- While the confirmation of the step with this number is awaited, or together with it
  and noticed first. -/
  | whileAwaiting (step : Nat)
  /-- Together with the confirmation of the step, which is still taken. -/
  | withConfirmation (step : Nat)
  deriving DecidableEq, Repr

/-- What a run sees of its signal when a step starts. -/
def Stop.atStart (step : Nat) : Stop → Option Signal
  | .never => none
  | .idle => some .quiet
  | .abandoned n => some (if n ≤ step then .closed else .quiet)
  | .beforeStart => some .raised
  | .whileAwaiting n => some (if n < step then .raised else .quiet)
  | .withConfirmation n => some (if n < step then .raised else .quiet)

/-- What a run sees of its signal up to the confirmation of a step. -/
def Stop.atWait (step : Nat) : Stop → Option Signal
  | .whileAwaiting n => some (if n ≤ step then .raised else .quiet)
  | stop => stop.atStart step

/-- Whether the run has been told to stop when a step starts. -/
def Stop.raisedBefore (step : Nat) (stop : Stop) : Bool := Signal.isRaised (stop.atStart step)

/-- Whether the run is told to stop while it awaits the confirmation of a step. -/
def Stop.interrupts (step : Nat) (stop : Stop) : Bool := Signal.breaksOff (stop.atWait step)

/-! ## Steps -/

/-- What a run works with. -/
structure Setting (σ : Type) where
  source : Build.Source
  delivery : Delivery σ
  stop : Stop
  /-- The time at which a step is confirmed. -/
  clock : Nat → Moment

/-- How far a run has come. -/
structure State (σ : Type) where
  delivery : σ
  /-- The records of the completed steps, in order. -/
  records : List Record
  /-- The calls made so far, in order. -/
  exchanges : List Exchange

/-- The record of a receipt, which has to tell of success and of a contract. -/
def confirmed (artifact : String) (receipt : Receipt) (time : Moment) : Except Fault Record :=
  if receipt.success then
    match Record.ofReceipt? artifact receipt time with
    | some record => .ok record
    | none => .error (.rejected artifact (.noContract receipt.transaction))
  else .error (.rejected artifact (.reverted receipt.transaction receipt.block))

variable {σ : Type}

def deliver (setting : Setting σ) (a : Artifact) (payload : List UInt8) (s : State σ) :
    Except Fault Record × State σ :=
  let step := s.records.length
  match setting.delivery.submit s.delivery payload with
  | (.error fault, d) =>
      (.error (.ofDelivery a.name fault),
        { s with delivery := d, exchanges := s.exchanges ++ [.submit payload (.error fault)] })
  | (.ok hash, d) =>
      let sent := s.exchanges ++ [.submit payload (.ok hash)]
      if setting.stop.interrupts step then
        (.error (.cancelled a.name),
          { s with delivery := d, exchanges := sent ++ [.confirm hash none] })
      else
        let (answer, d) := setting.delivery.confirm d hash
        let s := { s with delivery := d, exchanges := sent ++ [.confirm hash (some answer)] }
        match answer with
        | .error fault => (.error (.ofDelivery a.name fault), s)
        | .ok receipt => (confirmed a.name receipt (setting.clock step), s)

/-- Deploys one artifact.  The number of records made before is the number of the step,
which says whether the run is stopped here. -/
def deploy (setting : Setting σ) (linkName : String → String) (a : Artifact) (s : State σ) :
    Except Fault Record × State σ :=
  if setting.stop.raisedBefore s.records.length then (.error (.cancelled a.name), s)
  else match payload setting.source linkName (addressOf s.records) a with
    | .error fault => (.error fault, s)
    | .ok payload => deliver setting a payload s

def deployAll (setting : Setting σ) (linkName : String → String) :
    List Plan.Step → State σ → Option Halt × State σ
  | [], s => (none, s)
  | step :: rest, s =>
      match deploy setting linkName step.artifact s with
      | (.error fault, s) => (some ⟨s.records, some (step.index, step.artifact.name), fault⟩, s)
      | (.ok record, s) =>
          deployAll setting linkName rest { s with records := s.records ++ [record] }

/-! ## Runs -/

/-- What came of a run: a record for every step, or why it halted. -/
structure Outcome (σ : Type) where
  result : Except Halt (List Record)
  /-- The calls that were made, in order. -/
  exchanges : List Exchange
  /-- The state that the delivery was left in. -/
  delivery : σ

/-- The records of a complete or halted run. -/
def Outcome.records (o : Outcome σ) : List Record :=
  match o.result with
  | .ok records => records
  | .error halt => halt.completed

/-- Carries out a plan on a network, after the chain has been checked. -/
def execute (setting : Setting σ) (plan : Plan) (network : Network) (start : σ) : Outcome σ :=
  match setting.delivery.chainId start with
  | (.error fault, d) => ⟨.error ⟨[], none, .delivery fault⟩, [.chainId (.error fault)], d⟩
  | (.ok chain, d) =>
      if network.matcher.accepts chain then
        match deployAll setting (linkNameOf plan.artifacts) plan.steps
            ⟨d, [], [.chainId (.ok chain)]⟩ with
        | (some halt, s) => ⟨.error halt, s.exchanges, s.delivery⟩
        | (none, s) => ⟨.ok s.records, s.exchanges, s.delivery⟩
      else
        ⟨.error ⟨[], none, .networkMismatch network.matcher chain⟩, [.chainId (.ok chain)], d⟩

end Rollout.Run
