/-
# Rollout.Command.Basic — what the commands do

`plan` shows the order of deployment, `networks` lists the networks, and `deploy`
carries the plan out.  A command ends well, or halts in the middle of a deployment, or
refuses before anything is deployed.  What is deployed is always told and written to
the report, also when the run halts.
-/
import Rollout.Command.Arguments
import Rollout.Command.Notice
import Rollout.Config.Loading
import Rollout.Node.Client
import Rollout.Report
import Rollout.Run.Execution

namespace Rollout.Command

set_option autoImplicit false

/-! ## How a command ends -/

inductive Exit where
  | done
  /-- A deployment halted on its way. -/
  | halted
  | refused
  deriving DecidableEq, Repr

def Exit.code : Exit → UInt8
  | .done => 0
  | .halted => 1
  | .refused => 2

structure Ending where
  /-- What it told, in order. -/
  notices : List Notice
  /-- The file that it wrote, with its text. -/
  written : Option (String × String) := none
  exit : Exit
  deriving DecidableEq

/-- Why a command refuses. -/
inductive Fault where
  | config (path : String) (fault : Config.Fault)
  | noNetwork
  | network (fault : Networks.Fault)
  | connection (fault : Network.ConnectionError)
  | plan (fault : Plan.Fault)
  | client (fault : Node.Client.Fault)
  | unreached (network : String) (fault : Delivery.Fault)
  | unwritten (path : String) (why : Files.Refusal)

/-- What stands behind the wording of a fault to say where it comes from. -/
def source (fault : Config.Fault) : String :=
  match fault with
  | .unreadable why => ": " ++ why.message
  | _ => ""

def Fault.message : Fault → String
  | .config path fault =>
      s!"Failed to load configuration from {path}: {fault.message}" ++ source fault
  | .noNetwork => "No network given and no default_network configured"
  | .network fault => fault.message
  | .connection fault => fault.message
  | .plan fault => fault.message
  | .client fault => fault.toDelivery.message
  | .unreached name fault => s!"Failed to reach network '{name}': {fault.message}"
  | .unwritten path why => s!"Failed to write {path}: {why.message}"

def Ending.refuse (notices : List Notice) (fault : Fault) : Ending :=
  ⟨notices ++ [.error fault.message], none, .refused⟩

/-! ## Plans -/

/-- What is told about an artifact: its kind and what it depends on. -/
def details (a : Artifact) : List String :=
  [a.kind.text] ++
    (if a.libraries.isEmpty then [] else ["links " ++ ", ".intercalate a.libraries]) ++
    (if a.references.isEmpty then [] else ["uses " ++ ", ".intercalate a.references])

def steps (p : Plan) : List Notice :=
  p.steps.map fun s => .step (s.index + 1) s.artifact.name (details s.artifact)

def plan (c : Config) : Ending :=
  match Plan.build c.artifacts with
  | .error fault => .refuse [] (.plan fault)
  | .ok p =>
      ⟨[.header "Deployment plan"] ++ steps p ++
        [.info s!"{p.size} artifacts from {c.directory}"], none, .done⟩

/-! ## Networks -/

/-- What is told about the connection to a network; a key is never told. -/
def connectionSettings : Network.Connection → List Notice
  | .direct url sender =>
      [.setting "url" url,
        .setting "from" (sender.elim "first node account" Octets.checksummed)]
  | .signing url _ => [.setting "url" url, .setting "signer" "private key"]

/-- A setting that is told only when it is set. -/
def optionalSetting (key : String) (value : Option UInt64) : List Notice :=
  match value with
  | some n => [.setting key (toString n.toNat)]
  | none => []

def networkSettings (n : Network) (connection : Network.Connection) : List Notice :=
  connectionSettings connection ++ [.setting "network id" n.matcher.text] ++
    optionalSetting "gas" n.gas ++ optionalSetting "gas price" n.gasPrice ++
    [.setting "confirmations" (toString n.confirmations.toNat)]

/-- The name of a network, with a mark on the default one. -/
def networkTitle (c : Config) (name : String) : String :=
  name ++ if c.defaultNetwork = some name then " (default)" else ""

/-- Tells about networks up to the first that cannot be reached in one way. -/
def listNetworks (c : Config) :
    List (String × Network) → List Notice × Option Network.ConnectionError
  | [] => ([], none)
  | (name, n) :: rest =>
      let title := Notice.heading (networkTitle c name)
      match n.connection with
      | .error fault => ([title], some fault)
      | .ok connection =>
          let (later, fault) := listNetworks c rest
          (title :: networkSettings n connection ++ later, fault)

def networks (c : Config) : Ending :=
  match listNetworks c c.networks.entries with
  | (notices, none) => ⟨.header "Networks" :: notices, none, .done⟩
  | (notices, some fault) => .refuse (.header "Networks" :: notices) (.connection fault)

/-! ## Deployments -/

/-- What a deployment works with besides its configuration; `σ` are the states of the
nodes. -/
structure World (σ : Type) where
  files : Files
  environment : Environment
  /-- The node at a URL. -/
  node : Node.Url → Node.Peer σ
  stop : Run.Stop
  /-- The time at which a step is confirmed. -/
  clock : Nat → Moment

structure Target where
  name : String
  network : Network
  plan : Plan
  client : Node.Client
  /-- The URL as it is configured. -/
  url : String

/-- Finds out what to deploy where; nothing is asked of a node yet. -/
def target (c : Config) (wanted : Option String) : Except Fault Target := do
  match wanted.or c.defaultNetwork with
  | none => throw .noNetwork
  | some name =>
      let network ← (c.networks.select name).mapError .network
      let plan ← (Plan.build c.artifacts).mapError .plan
      let client ← (Node.Client.ofNetwork network).mapError .client
      let url ← network.rpcUrl.mapError .connection
      return ⟨name, network, plan, client, url⟩

/-- Writes a report, if there is a file to write it to. -/
def write (files : Files) (output : Option String) (report : Report) :
    Except Fault (Option (String × String)) :=
  match output with
  | none => .ok none
  | some path =>
      match files.refusal? path with
      | some why => .error (.unwritten path why)
      | none => .ok (some (path, report.text))

def wrote (written : Option (String × String)) : List Notice :=
  match written with
  | some (path, _) => [.info ("Wrote " ++ path)]
  | none => []

def opening (t : Target) (chain : UInt64) : List Notice :=
  [.header ("Deploying to " ++ t.name), .setting "rpc" t.url,
    .setting "chain id" (toString chain.toNat)] ++ steps t.plan

def complete (files : Files) (output : Option String) (told : List Notice) (report : Report) :
    Ending :=
  let told := told ++ [.heading "Deployed"] ++ Notice.ofRecords report.records
  match write files output report with
  | .error fault => .refuse told fault
  | .ok written =>
      ⟨told ++ wrote written ++
        [.success s!"{report.records.length} artifacts deployed to {report.network}"],
        written, .done⟩

def haltNotices (h : Run.Halt) : List Notice :=
  (if h.completed.isEmpty then []
    else .heading "Deployed before the failure" :: Notice.ofRecords h.completed) ++
  (match h.step with
    | some (_, artifact) =>
        [.error (artifact ++ ": " ++ h.fault.message),
          .warning "Nothing is retried automatically; a rerun deploys every artifact again"]
    | none => [.error h.fault.message])

def halted (files : Files) (output : Option String) (told : List Notice) (h : Run.Halt)
    (report : Report) : Ending :=
  let told := told ++ haltNotices h
  match write files output report with
  | .error fault => ⟨told ++ [.error fault.message], none, .halted⟩
  | .ok written => ⟨told ++ wrote written, written, .halted⟩

variable {σ : Type}

/-- Carries out the plan of a configuration; a file that is asked for goes before the
configured one. -/
def deploy (w : World σ) (c : Config) (wanted output : Option String) (start : σ) :
    Ending × σ :=
  match target c wanted with
  | .error fault => (.refuse [] fault, start)
  | .ok t =>
      let delivery := t.client.delivery (w.node t.client.url)
      match delivery.chainId start with
      | (.error fault, s) => (.refuse [] (.unreached t.name fault), s)
      | (.ok chain, s) =>
          let source := Build.Source.ofDirectory w.files c.directory
          let outcome := Run.execute ⟨source, delivery, w.stop, w.clock⟩ t.plan t.network s
          let report : Report := ⟨t.name, chain, outcome.records⟩
          let output := output.or c.output
          let ending := match outcome.result with
            | .ok _ => complete w.files output (opening t chain) report
            | .error h => halted w.files output (opening t chain) h report
          (ending, outcome.delivery)

/-! ## The program -/

def run (w : World σ) (i : Invocation) (start : σ) : Ending × σ :=
  match Config.ofFile w.files w.environment i.config with
  | .error fault => (.refuse [] (.config i.config fault), start)
  | .ok c =>
      match i.action with
      | .plan => (plan c, start)
      | .networks => (networks c, start)
      | .deploy network output => deploy w c network output start

def version : String := "deployer-cli 0.1.0"

def answer (w : World σ) (r : Request) (start : σ) : Ending × σ :=
  match r with
  | .version => (⟨[.plain version], none, .done⟩, start)
  | .command invocation => run w invocation start

/-- Whether the program shows styles; a file of definitions counts as well. -/
def showsStyles (w : World σ) (terminal : Bool) : Bool :=
  Style.areShown (Config.environment w.files w.environment) terminal

end Rollout.Command
