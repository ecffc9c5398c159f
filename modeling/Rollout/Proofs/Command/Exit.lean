/-
# Rollout.Proofs.Command.Exit — what the number says that a deployment ends with

A deployment comes to a run when its configuration can be read, it can be made out what is
deployed where, and the node tells of its chain (`Attempts`).  Until then nothing but the
chain is asked for, and the program ends with two (`refuses_or_attempts`).  A run that halts
ends with one, whether or not its report can be written, and a run in which every artifact is
confirmed with zero (`run_exit_code`).

The exception is a run in which every artifact is confirmed and the report cannot be written:
it ends with two like a deployment that never sent anything (`run_exit_code_unwritten`).
-/
import Rollout.Command.Basic
import Rollout.Files
import Rollout.Proofs.Config.Acceptance
import Rollout.Proofs.Run.Account

namespace Rollout

set_option autoImplicit false

/-! ## Deployments that come to a run -/

namespace Command

section

variable {σ : Type}

/-- The calls to the node that a target is deployed through. -/
def World.delivery (w : World σ) (t : Target) : Delivery σ :=
  t.client.delivery (w.node t.client.url)

/-- What the run of a target works with. -/
def World.setting (w : World σ) (c : Config) (t : Target) : Run.Setting σ :=
  ⟨Build.Source.ofDirectory w.files c.directory, w.delivery t, w.stop, w.clock⟩

/-- A run that a deployment comes to. -/
structure Attempt (σ : Type) where
  config : Config
  target : Target
  chain : UInt64
  /-- The state of the node when the run starts. -/
  before : σ
  outcome : Run.Outcome σ

/-- A deployment comes to this run. -/
structure Attempts (w : World σ) (path : String) (wanted : Option String) (start : σ)
    (a : Attempt σ) : Prop where
  /-- Its configuration can be read, -/
  config : Config.ofFile w.files w.environment path = .ok a.config
  /-- it can be made out what is deployed where, -/
  target : Command.target a.config wanted = .ok a.target
  /-- and the node tells of its chain. -/
  reached : (w.delivery a.target).chainId start = (.ok a.chain, a.before)
  ran : a.outcome =
    Run.execute (w.setting a.config a.target) a.target.plan a.target.network a.before

/-- Every artifact of the plan is confirmed in a run. -/
def Attempt.Confirmed (w : World σ) (a : Attempt σ) : Prop :=
  ∃ log, Run.AllConfirmed (w.setting a.config a.target) a.target.plan a.before a.outcome log

/-- The file of the report, which one that is asked for goes before. -/
def Attempt.output (a : Attempt σ) (asked : Option String) : Option String :=
  asked.or a.config.output

/-- A report can be written, or none is asked for. -/
def Writable (files : Files) (output : Option String) : Prop :=
  ∀ path ∈ output, files.refusal? path = none

/-- The states in which a deployment leaves the nodes that it only asks for their chain. -/
inductive OnlyAsked (w : World σ) (start : σ) : σ → Prop
  | nothing : OnlyAsked w start start
  | chain (url : Node.Url) : OnlyAsked w start ((w.node url).chainId start).2

variable {w : World σ} {path : String} {wanted output : Option String} {start : σ}
  {a : Attempt σ}

/-- What asking for the chain does not change, such as the transactions that nodes were sent,
stays as it was. -/
theorem OnlyAsked.kept_eq {α : Type} {kept : σ → α}
    (keeps : ∀ url s, kept ((w.node url).chainId s).2 = kept s) {s : σ}
    (asked : OnlyAsked w start s) : kept s = kept start := by
  cases asked with
  | nothing => rfl
  | chain url => exact keeps url start

theorem Attempts.steps_ne_nil (attempts : Attempts w path wanted start a) :
    a.target.plan.steps ≠ [] := by
  have declared := Config.declared_of_ofFile attempts.config
  have found := attempts.target
  unfold Command.target at found
  cases named : wanted.or a.config.defaultNetwork with
  | none =>
      rw [named] at found
      cases found
  | some name =>
      rw [named] at found
      obtain ⟨network, -, found⟩ := Checked.bind_eq_ok.mp found
      obtain ⟨plan, built, found⟩ := Checked.bind_eq_ok.mp found
      obtain ⟨client, -, found⟩ := Checked.bind_eq_ok.mp found
      obtain ⟨url, -, found⟩ := Checked.bind_eq_ok.mp found
      have same : (⟨name, network, plan, client, url⟩ : Target) = a.target := Except.ok.inj found
      rw [← same]
      intro none
      have all := (Plan.perm_of_build (Checked.mapError_eq_ok.mp built)).length_eq
      rw [Plan.artifacts, none] at all
      exact declared (List.length_eq_zero_iff.mp all.symm)

/-- A run completes exactly when every artifact is confirmed. -/
theorem Attempts.ok_iff_confirmed (attempts : Attempts w path wanted start a) :
    (∃ records, a.outcome.result = .ok records) ↔ a.Confirmed w := by
  unfold Attempt.Confirmed
  rw [attempts.ran]
  exact Run.execute_ok_iff_allConfirmed attempts.steps_ne_nil

/-! ## Reports -/

theorem write_of_writable {files : Files} (writable : Writable files output) (report : Report) :
    ∃ written, write files output report = .ok written := by
  cases output with
  | none => exact ⟨none, rfl⟩
  | some path =>
      have free : files.refusal? path = none := writable path rfl
      exact ⟨some (path, report.text), by simp [write, free]⟩

theorem write_of_not_writable {files : Files} (refused : ¬ Writable files output)
    (report : Report) : ∃ fault, write files output report = .error fault := by
  cases output with
  | none => exact absurd (fun path named => by cases named) refused
  | some path =>
      cases why : files.refusal? path with
      | none =>
          have writable : Writable files (some path) := by
            intro other named
            cases named
            exact why
          exact absurd writable refused
      | some why' => exact ⟨.unwritten path why', by simp [write, why]⟩

/-- A halt is one whether or not its report can be written. -/
theorem exit_halted (files : Files) (output : Option String) (told : List Notice)
    (h : Run.Halt) (report : Report) : (halted files output told h report).exit = .halted := by
  unfold halted
  cases write files output report <;> rfl

theorem exit_complete_of_writable {files : Files} (writable : Writable files output)
    (told : List Notice) (report : Report) :
    (complete files output told report).exit = .done := by
  obtain ⟨written, wrote⟩ := write_of_writable writable report
  simp only [complete, wrote]

theorem exit_complete_of_not_writable {files : Files} (refused : ¬ Writable files output)
    (told : List Notice) (report : Report) :
    (complete files output told report).exit = .refused := by
  obtain ⟨fault, failed⟩ := write_of_not_writable refused report
  simp only [complete, failed, Ending.refuse]

/-! ## Endings -/

section Runs

variable (attempts : Attempts w path wanted start a) (output : Option String)

include attempts

theorem Attempts.run_eq :
    run w ⟨path, .deploy wanted output⟩ start =
      (match a.outcome.result with
        | .ok _ => complete w.files (a.output output) (opening a.target a.chain)
            ⟨a.target.name, a.chain, a.outcome.records⟩
        | .error h => halted w.files (a.output output) (opening a.target a.chain) h
            ⟨a.target.name, a.chain, a.outcome.records⟩, a.outcome.delivery) := by
  have reached : (a.target.client.delivery (w.node a.target.client.url)).chainId start =
      (.ok a.chain, a.before) := attempts.reached
  simp only [run, attempts.config, deploy, attempts.target, reached]
  rw [attempts.ran]
  rfl

theorem Attempts.exit_of_error {halt : Run.Halt} (failed : a.outcome.result = .error halt) :
    (run w ⟨path, .deploy wanted output⟩ start).1.exit = .halted := by
  rw [attempts.run_eq output, failed]
  exact exit_halted _ _ _ _ _

theorem Attempts.exit_of_ok {records : List Record} (complete : a.outcome.result = .ok records)
    (writable : Writable w.files (a.output output)) :
    (run w ⟨path, .deploy wanted output⟩ start).1.exit = .done := by
  rw [attempts.run_eq output, complete]
  exact exit_complete_of_writable writable _ _

theorem Attempts.exit_of_unwritten {records : List Record}
    (complete : a.outcome.result = .ok records)
    (refused : ¬ Writable w.files (a.output output)) :
    (run w ⟨path, .deploy wanted output⟩ start).1.exit = .refused := by
  rw [attempts.run_eq output, complete]
  exact exit_complete_of_not_writable refused _ _

end Runs

/-! ## Deployments that come to no run -/

/-- A deployment that comes to no run ends with two, when it has asked for no more than a
chain. -/
structure Refuses (w : World σ) (path : String) (wanted output : Option String) (start : σ) :
    Prop where
  none : ¬ ∃ a, Attempts w path wanted start a
  exit : (run w ⟨path, .deploy wanted output⟩ start).1.exit = .refused
  asked : OnlyAsked w start (run w ⟨path, .deploy wanted output⟩ start).2

section Refusals

variable {c : Config} {t : Target}

/-- The configuration cannot be read. -/
theorem refuses_of_ofFile {fault : Config.Fault}
    (loaded : Config.ofFile w.files w.environment path = .error fault) :
    Refuses w path wanted output start := by
  constructor
  case none =>
    rintro ⟨a, attempts⟩
    cases loaded.symm.trans attempts.config
  case exit => simp only [run, loaded, Ending.refuse]
  case asked =>
    simp only [run, loaded]
    exact .nothing

/-- It cannot be made out what is deployed where. -/
theorem refuses_of_target {fault : Fault}
    (loaded : Config.ofFile w.files w.environment path = .ok c)
    (found : target c wanted = .error fault) : Refuses w path wanted output start := by
  constructor
  case none =>
    rintro ⟨a, attempts⟩
    cases loaded.symm.trans attempts.config
    cases found.symm.trans attempts.target
  case exit => simp only [run, loaded, deploy, found, Ending.refuse]
  case asked =>
    simp only [run, loaded, deploy, found]
    exact .nothing

/-- The node does not tell of its chain. -/
theorem refuses_of_chainId {fault : Delivery.Fault} {s : σ}
    (loaded : Config.ofFile w.files w.environment path = .ok c)
    (found : target c wanted = .ok t)
    (answered : (w.delivery t).chainId start = (.error fault, s)) :
    Refuses w path wanted output start := by
  have answered' : (t.client.delivery (w.node t.client.url)).chainId start = (.error fault, s) :=
    answered
  constructor
  case none =>
    rintro ⟨a, attempts⟩
    cases loaded.symm.trans attempts.config
    cases found.symm.trans attempts.target
    cases answered.symm.trans attempts.reached
  case exit => simp only [run, loaded, deploy, found, answered', Ending.refuse]
  case asked =>
    simp only [run, loaded, deploy, found, answered']
    have asked : s = ((w.node t.client.url).chainId start).2 := (congrArg Prod.snd answered).symm
    rw [asked]
    exact .chain t.client.url

end Refusals

/-! ## What a deployment comes to -/

/-- **A deployment comes to a run, or it refuses.** -/
theorem refuses_or_attempts (w : World σ) (path : String) (wanted output : Option String)
    (start : σ) :
    (∃ a, Attempts w path wanted start a) ∨ Refuses w path wanted output start := by
  cases loaded : Config.ofFile w.files w.environment path with
  | error fault => exact Or.inr (refuses_of_ofFile loaded)
  | ok c =>
      cases found : target c wanted with
      | error fault => exact Or.inr (refuses_of_target loaded found)
      | ok t =>
          rcases answered : (w.delivery t).chainId start with ⟨fault | chain, s⟩
          · exact Or.inr (refuses_of_chainId loaded found answered)
          · let outcome := Run.execute (w.setting c t) t.plan t.network s
            exact Or.inl ⟨⟨c, t, chain, s, outcome⟩, loaded, found, answered, rfl⟩

/-- What a deployment can come to, and how it ends then. -/
inductive Comes (w : World σ) (path : String) (wanted output : Option String) (start : σ) :
    Exit → Prop
  /-- There is no run. -/
  | refused (none : ¬ ∃ a, Attempts w path wanted start a) :
      Comes w path wanted output start .refused
  | halted (a : Attempt σ) (attempts : Attempts w path wanted start a) (halt : Run.Halt)
      (failed : a.outcome.result = .error halt) : Comes w path wanted output start .halted
  | done (a : Attempt σ) (attempts : Attempts w path wanted start a) (confirmed : a.Confirmed w)
      (writable : Writable w.files (a.output output)) : Comes w path wanted output start .done
  /-- Every artifact is confirmed, and nothing is kept of it. -/
  | unwritten (a : Attempt σ) (attempts : Attempts w path wanted start a)
      (confirmed : a.Confirmed w) (refused : ¬ Writable w.files (a.output output)) :
      Comes w path wanted output start .refused

theorem run_comes (w : World σ) (path : String) (wanted output : Option String) (start : σ) :
    Comes w path wanted output start (run w ⟨path, .deploy wanted output⟩ start).1.exit := by
  rcases refuses_or_attempts w path wanted output start with ⟨a, attempts⟩ | refuses
  · cases result : a.outcome.result with
    | error halt =>
        rw [attempts.exit_of_error output result]
        exact .halted a attempts halt result
    | ok records =>
        have confirmed := attempts.ok_iff_confirmed.mp ⟨records, result⟩
        by_cases writable : Writable w.files (a.output output)
        · rw [attempts.exit_of_ok output result writable]
          exact .done a attempts confirmed writable
        · rw [attempts.exit_of_unwritten output result writable]
          exact .unwritten a attempts confirmed writable
  · rw [refuses.exit]
    exact .refused refuses.none

/-! ## Numbers -/

theorem Exit.code_eq_zero_iff {exit : Exit} : exit.code = 0 ↔ exit = .done := by
  cases exit <;> decide

theorem Exit.code_eq_one_iff {exit : Exit} : exit.code = 1 ↔ exit = .halted := by
  cases exit <;> decide

theorem Exit.code_eq_two_iff {exit : Exit} : exit.code = 2 ↔ exit = .refused := by
  cases exit <;> decide

/-- **What the number of a deployment says.**  It ends with zero exactly when every artifact
is confirmed and the report can be written, with one exactly when its run halts, whatever
becomes of the report, and with two exactly when it comes to no run, and then it has asked for
no more than a chain, or when every artifact is confirmed and the report cannot be written. -/
theorem run_exit_code (w : World σ) (path : String) (wanted output : Option String) (start : σ) :
    let ran := run w ⟨path, .deploy wanted output⟩ start
    (ran.1.exit.code = 0 ↔ ∃ a, Attempts w path wanted start a ∧ a.Confirmed w ∧
        Writable w.files (a.output output)) ∧
      (ran.1.exit.code = 1 ↔ ∃ a, Attempts w path wanted start a ∧
        ∃ halt, a.outcome.result = .error halt) ∧
      (ran.1.exit.code = 2 ↔ (¬ ∃ a, Attempts w path wanted start a) ∨
        ∃ a, Attempts w path wanted start a ∧ a.Confirmed w ∧
          ¬ Writable w.files (a.output output)) ∧
      ((¬ ∃ a, Attempts w path wanted start a) → OnlyAsked w start ran.2) := by
  intro ran
  have comes : Comes w path wanted output start ran.1.exit := run_comes w path wanted output start
  have refuses (none : ¬ ∃ a, Attempts w path wanted start a) :
      Refuses w path wanted output start :=
    (refuses_or_attempts w path wanted output start).resolve_left none
  rw [Exit.code_eq_zero_iff, Exit.code_eq_one_iff, Exit.code_eq_two_iff]
  refine ⟨⟨fun ended => ?_, ?_⟩, ⟨fun ended => ?_, ?_⟩, ⟨fun ended => ?_, ?_⟩, fun none => ?_⟩
  · rw [ended] at comes
    cases comes with
    | done a attempts confirmed writable => exact ⟨a, attempts, confirmed, writable⟩
  · rintro ⟨a, attempts, confirmed, writable⟩
    obtain ⟨records, complete⟩ := attempts.ok_iff_confirmed.mpr confirmed
    exact attempts.exit_of_ok output complete writable
  · rw [ended] at comes
    cases comes with
    | halted a attempts halt failed => exact ⟨a, attempts, halt, failed⟩
  · rintro ⟨a, attempts, halt, failed⟩
    exact attempts.exit_of_error output failed
  · rw [ended] at comes
    cases comes with
    | refused none => exact Or.inl none
    | unwritten a attempts confirmed refused => exact Or.inr ⟨a, attempts, confirmed, refused⟩
  · rintro (none | ⟨a, attempts, confirmed, refused⟩)
    · exact (refuses none).exit
    · obtain ⟨records, complete⟩ := attempts.ok_iff_confirmed.mpr confirmed
      exact attempts.exit_of_unwritten output complete refused
  · exact (refuses none).asked

end

/-! ## A report that cannot be written -/

namespace Sample

/-- One contract for a node on this machine. -/
def configuration : String :=
  "[networks.dev]\nhost=\"127.0.0.1\"\nport=1\n" ++
    "[artifacts]\ndirectory=\"/b\"\n[[artifacts.deploy]]\nname=\"A\"\n"

def files : Files where
  look path :=
    if path = "deployer.toml" then .file (Text.bytes configuration.toList)
    else if path = "/b/A.bin" then .file (Text.bytes ['6', '0'])
    else .absent .notFound
  refusal? path := if path = "no/out.json" then some .notFound else none

/-- A node that confirms every transaction, and keeps what it was sent. -/
def node : Node.Peer (List Node.Transaction) where
  chainId sent := (.ok 1337, sent)
  accounts sent := (.ok [.repeated 20 0xaa], sent)
  estimate _ _ sent := (.ok 21000, sent)
  send transaction sent := (.ok (.repeated 32 1), sent ++ [transaction])
  receipt hash sent := (.ok (some ⟨hash, some (.repeated 20 7), 5, true⟩), sent)

def world : World (List Node.Transaction) := ⟨files, ⟨[]⟩, fun _ => node, .idle, fun _ => .epoch⟩

def config : Config where
  networks := .ofList [("dev", .direct "127.0.0.1" 1)]
  directory := "/b"
  artifacts := [.contract "A"]

def url : Node.Url :=
  match Node.Url.read "http://127.0.0.1:1" with
  | .ok url => url
  | .error _ => { scheme := "http", path := "/" }

def target : Target where
  name := "dev"
  network := .direct "127.0.0.1" 1
  plan := .ofArtifacts [.contract "A"]
  client := ⟨url, .unlocked none, .any, none, none, 120⟩
  url := "http://127.0.0.1:1"

/-- What the configuration says, one expression after another. -/
def expressions : List Toml.Expression :=
  [.table ["networks"] "dev", .pair ⟨[], "host", .text "127.0.0.1"⟩, .pair ⟨[], "port", .int 1⟩,
    .table [] "artifacts", .pair ⟨[], "directory", .text "/b"⟩, .element ["artifacts"] "deploy",
    .pair ⟨[], "name", .text "A"⟩]

def document : Document.Value :=
  .table [("networks", .table [("dev", .table [("host", .text "127.0.0.1"), ("port", .int 1)])]),
    ("artifacts", .table [("directory", .text "/b"),
      ("deploy", .tables [.table [("name", .text "A")]])])]

theorem readText_configuration : files.readText "deployer.toml" = .ok configuration := by
  have held : files.look "deployer.toml" = .file (Text.bytes configuration.toList) := rfl
  exact Files.readText_of_look held

theorem read_configuration : Toml.read? configuration = some document := by
  have expressed : Toml.expressions? configuration.toList = some expressions := by rfl
  have made : Toml.ofExpressions? expressions = some document := by rfl
  rw [Toml.read?, expressed]
  exact made

theorem ofText_configuration : Config.ofText ⟨[]⟩ configuration = .ok config := by
  have resolved : Config.resolve ⟨[]⟩ configuration = .ok configuration := by rfl
  have drafted : Config.read .toml document = .ok config := by rfl
  have checked : config.check = .ok () := by rfl
  refine Checked.bind_eq_ok.mpr ⟨configuration, Checked.mapError_eq_ok.mpr resolved, ?_⟩
  rw [read_configuration]
  refine Checked.bind_eq_ok.mpr ⟨config, Checked.mapError_eq_ok.mpr drafted, ?_⟩
  exact Checked.after_eq_ok.mpr ⟨Checked.mapError_eq_ok.mpr checked, rfl⟩

theorem ofFile_configuration : Config.ofFile files ⟨[]⟩ "deployer.toml" = .ok config := by
  have alone : Config.environment files ⟨[]⟩ = ⟨[]⟩ := rfl
  refine Checked.bind_eq_ok.mpr
    ⟨configuration, Checked.mapError_eq_ok.mpr readText_configuration, ?_⟩
  rw [alone]
  exact Checked.bind_eq_ok.mpr ⟨config, ofText_configuration, rfl⟩

def attempt : Attempt (List Node.Transaction) where
  config := config
  target := target
  chain := 1337
  before := []
  outcome := Run.execute (world.setting config target) target.plan target.network []

theorem attempts : Attempts world "deployer.toml" (some "dev") [] attempt where
  config := ofFile_configuration
  target := rfl
  reached := rfl
  ran := rfl

theorem attempt_complete : attempt.outcome.result = .ok attempt.outcome.records := rfl

end Sample

/-- Every artifact is confirmed, for which the node was sent a transaction; and yet the
deployment ends with two, because its report cannot be written. -/
theorem run_exit_code_unwritten :
    let ran := run Sample.world ⟨"deployer.toml", .deploy (some "dev") (some "no/out.json")⟩ []
    ran.1.exit.code = 2 ∧ ran.2.length = 1 ∧
      ∃ a, Attempts Sample.world "deployer.toml" (some "dev") [] a ∧ a.Confirmed Sample.world := by
  have complete := Sample.attempt_complete
  have unwritable : ¬ Writable Sample.world.files (some "no/out.json") := by
    intro writable
    have free := writable "no/out.json" rfl
    cases free
  refine ⟨?_, ?_, _, Sample.attempts, Sample.attempts.ok_iff_confirmed.mp ⟨_, complete⟩⟩
  · rw [Exit.code_eq_two_iff]
    exact Sample.attempts.exit_of_unwritten (some "no/out.json") complete unwritable
  · rw [Sample.attempts.run_eq]
    rfl

end Command

end Rollout
