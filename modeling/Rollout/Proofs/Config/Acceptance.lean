/-
# Rollout.Proofs.Config.Acceptance — which configurations are accepted

A network is sound when it is reached in one way and waits for a sensible confirmation, and a
configuration when its networks are, its default network is one of them and its artifacts can
be told apart (`Config.Sound`).  The checks pass exactly then (`Config.check_eq_ok_iff`), and
so a text is accepted exactly when what it says is sound (`Config.ofText_eq_ok_iff`).  One that
can be read from a file is sound, then (`Config.sound_of_ofFile`), and declares some artifact.
-/
import Rollout.Config.Loading
import Rollout.Proofs.Catalog
import Rollout.Proofs.Config.Agreement

set_option autoImplicit false

namespace Rollout

/-! ## Networks -/

namespace Network

/-- A network is reached at a host and port, or else through a provider. -/
inductive OneWay (n : Network) : Prop
  | direct (host : String) (port : UInt16) (atHost : n.host = some host)
      (atPort : n.port = some port) (alone : n.provider = none) : OneWay n
  | relayed (provider : SigningProvider) (through : n.provider = some provider)
      (noHost : n.host = none) (noPort : n.port = none) : OneWay n

/-- A network that is reached in one way, and waits for a sensible confirmation. -/
structure Sound (n : Network) : Prop where
  way : n.OneWay
  confirmations : 1 ≤ n.confirmations ∧ n.confirmations ≤ 100
  timeout : 0 < n.timeout

variable {n : Network}

theorem OneWay.exists_connection (way : n.OneWay) :
    ∃ connection, n.connection = .ok connection := by
  cases way with
  | direct host port atHost atPort alone =>
      exact ⟨.direct (directUrl host port) n.sender, by simp [connection, atHost, atPort, alone]⟩
  | relayed provider through noHost noPort =>
      exact ⟨.signing provider.url provider.privateKey, by
        simp [connection, through, noHost, noPort]⟩

/-- There is a connection exactly where there is one way. -/
theorem exists_connection_iff : (∃ connection, n.connection = .ok connection) ↔ n.OneWay := by
  refine ⟨?_, OneWay.exists_connection⟩
  rintro ⟨connection, reached⟩
  unfold Network.connection at reached
  split at reached
  next host port atHost atPort alone => exact .direct host port atHost atPort alone
  next provider noHost noPort through => exact .relayed provider through noHost noPort
  next => cases reached
  next => cases reached
  next => cases reached

theorem rpcUrl_eq {connection : Connection} (reached : n.connection = .ok connection) :
    n.rpcUrl = .ok connection.url := by
  rw [rpcUrl, reached]
  rfl

end Network

namespace Config

theorem checkNetwork_eq_ok_iff {name : String} {n : Network} :
    checkNetwork name n = .ok () ↔ n.Sound := by
  unfold checkNetwork
  cases reached : n.connection with
  | error fault =>
      simp only [reduceCtorEq, false_iff]
      intro sound
      obtain ⟨connection, found⟩ := sound.way.exists_connection
      cases reached.symm.trans found
  | ok connection =>
      have way : n.OneWay := Network.exists_connection_iff.mp ⟨connection, reached⟩
      by_cases few : n.confirmations < 1 ∨ 100 < n.confirmations
      · simp only [if_pos few, reduceCtorEq, false_iff]
        intro sound
        rcases few with few | many
        · exact absurd sound.confirmations.1 (UInt64.not_le.mpr few)
        · exact absurd sound.confirmations.2 (UInt64.not_le.mpr many)
      · have enough : 1 ≤ n.confirmations ∧ n.confirmations ≤ 100 := by
          rw [not_or, UInt64.not_lt, UInt64.not_lt] at few
          exact few
        by_cases never : n.timeout = 0
        · simp only [if_neg few, if_pos never, reduceCtorEq, false_iff]
          intro sound
          exact absurd sound.timeout (by rw [never]; decide)
        · simp only [if_neg few, if_neg never, true_iff]
          exact ⟨way, enough, UInt64.pos_iff_ne_zero.mpr never⟩

/-! ## Artifacts -/

/-- There are artifacts, each with a name of its own that is not blank; what they link is
declared as a library, and what they refer to is declared. -/
structure Declared (artifacts : List Artifact) : Prop where
  some : artifacts ≠ []
  named : ∀ a ∈ artifacts, isBlankName a.name = false
  distinct : (artifacts.map (·.name)).Nodup
  declared : ∀ a ∈ artifacts, ∀ name, a.DependsOn name → ∃ b ∈ artifacts, b.name = name
  libraries : ∀ a ∈ artifacts, ∀ name ∈ a.libraries, ∀ b ∈ artifacts, b.name = name →
    b.kind = .library

variable {artifacts : List Artifact}

/-- Artifacts that all have names pass here when they pass where they are planned. -/
theorem checkArtifacts_iff_of_named (some : artifacts ≠ [])
    (named : ∀ a ∈ artifacts, isBlankName a.name = false) :
    checkArtifacts artifacts = .ok () ↔ Plan.check artifacts = .ok () := by
  obtain ⟨found, agrees, checked⟩ := exists_agrees_of_named some named
  rw [checked]
  generalize Plan.check artifacts = planned at agrees
  cases agrees with
  | passed => simp
  | failed names => simp

theorem checkArtifacts_eq_ok_iff : checkArtifacts artifacts = .ok () ↔ Declared artifacts := by
  constructor
  · intro passed
    have some := declared_of_checkArtifacts passed
    have named := named_of_checkArtifacts passed
    obtain ⟨distinct, declared, libraries⟩ :=
      Plan.check_passes_iff.mp ((checkArtifacts_iff_of_named some named).mp passed)
    exact ⟨some, named, distinct, declared, libraries⟩
  · intro sound
    refine (checkArtifacts_iff_of_named sound.some sound.named).mpr ?_
    exact Plan.check_passes_iff.mpr ⟨sound.distinct, sound.declared, sound.libraries⟩

/-! ## Configurations -/

/-- There are networks, all of them sound, the default one is among them, and the artifacts
can be told apart. -/
structure Sound (c : Config) : Prop where
  some : c.networks.entries ≠ []
  networks : ∀ entry ∈ c.networks.entries, entry.2.Sound
  default : ∀ name, c.defaultNetwork = .some name → name ∈ c.networks.names
  artifacts : Declared c.artifacts

theorem checkDefault_eq_ok_iff {c : Config} :
    c.checkDefault = .ok () ↔ ∀ name, c.defaultNetwork = .some name → name ∈ c.networks.names := by
  unfold checkDefault
  cases c.defaultNetwork with
  | none => simp
  | some name =>
      simp only [Option.some.injEq, forall_eq']
      rw [← Catalog.isSome_find?_iff]
      by_cases known : (c.networks.find? name).isSome = true
      · simp [known]
      · simp [known]

/-- **What passes.** -/
theorem check_eq_ok_iff {c : Config} : c.check = .ok () ↔ c.Sound := by
  unfold check
  by_cases none : c.networks.isEmpty = true
  · rw [if_pos none]
    refine ⟨(by intro passed; cases passed), fun sound => ?_⟩
    exact absurd (List.isEmpty_iff.mp none) sound.some
  · rw [if_neg none]
    have some : c.networks.entries ≠ [] := fun empty => none (List.isEmpty_iff.mpr empty)
    rw [Checked.after_eq_ok, Checked.after_eq_ok, Checked.forM_eq_ok, checkDefault_eq_ok_iff,
      checkArtifacts_eq_ok_iff]
    constructor
    · rintro ⟨networks, default, artifacts⟩
      exact ⟨some, fun entry member => checkNetwork_eq_ok_iff.mp (networks entry member), default,
        artifacts⟩
    · intro sound
      exact ⟨fun entry member => checkNetwork_eq_ok_iff.mpr (sound.networks entry member),
        sound.default, sound.artifacts⟩

/-- What a text says once its variables are replaced. -/
def Says (env : Environment) (text : String) (c : Config) : Prop :=
  ∃ resolved v, resolve env text = .ok resolved ∧ Toml.read? resolved = .some v ∧
    Config.read .toml v = .ok c

theorem ofText_eq_ok_iff {env : Environment} {text : String} {c : Config} :
    ofText env text = .ok c ↔ Says env text c ∧ c.Sound := by
  unfold ofText
  rw [Checked.bind_eq_ok]
  constructor
  · rintro ⟨resolved, made, parsed⟩
    cases document : Toml.read? resolved with
    | none =>
        rw [document] at parsed
        cases parsed
    | some v =>
        rw [document] at parsed
        obtain ⟨drafted, read, checked⟩ := Checked.bind_eq_ok.mp parsed
        obtain ⟨passed, same⟩ := Checked.after_eq_ok.mp checked
        cases same
        refine ⟨⟨resolved, v, Checked.mapError_eq_ok.mp made, document,
          Checked.mapError_eq_ok.mp read⟩, ?_⟩
        exact check_eq_ok_iff.mp (Checked.mapError_eq_ok.mp passed)
  · rintro ⟨⟨resolved, v, made, document, read⟩, sound⟩
    refine ⟨resolved, Checked.mapError_eq_ok.mpr made, ?_⟩
    rw [document]
    refine Checked.bind_eq_ok.mpr ⟨c, Checked.mapError_eq_ok.mpr read, ?_⟩
    exact Checked.after_eq_ok.mpr
      ⟨Checked.mapError_eq_ok.mpr (check_eq_ok_iff.mpr sound), rfl⟩

/-! ## Files -/

theorem sound_of_ofFile {files : Files} {env : Environment} {path : String} {c : Config}
    (loaded : ofFile files env path = .ok c) : c.Sound := by
  obtain ⟨text, -, rest⟩ := Checked.bind_eq_ok.mp loaded
  obtain ⟨drafted, made, placed⟩ := Checked.bind_eq_ok.mp rest
  have same : { drafted with directory := Files.join (parent path) drafted.directory } = c :=
    Except.ok.inj placed
  have sound := (ofText_eq_ok_iff.mp made).2
  rw [← same]
  exact ⟨sound.some, sound.networks, sound.default, sound.artifacts⟩

theorem declared_of_ofFile {files : Files} {env : Environment} {path : String} {c : Config}
    (loaded : ofFile files env path = .ok c) : c.artifacts ≠ [] :=
  (sound_of_ofFile loaded).artifacts.some

end Config

end Rollout
