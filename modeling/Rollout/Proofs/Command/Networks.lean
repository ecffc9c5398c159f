/-
# Rollout.Proofs.Command.Networks — what is accepted no longer fails for its networks

After a configuration is accepted, a connection is made out again four times: where networks
are listed, where the URL of one is told, where a client is made for one, and where a
deployment looks for its target.  For the networks of a sound configuration none of them can
fail on it (`Dependable`, `dependable_of_sound`).
-/
import Rollout.Proofs.Command.Exit

namespace Rollout

set_option autoImplicit false

namespace Command

/-- Nothing that uses the networks of a configuration fails for the way they are set up. -/
structure Dependable (c : Config) : Prop where
  /-- They can all be listed, without a complaint, -/
  listed : (networks c).exit = .done ∧ ∀ notice ∈ (networks c).notices, notice.isError = false
  /-- the default one can be selected, -/
  default : ∀ name, c.defaultNetwork = some name → ∃ n, c.networks.select name = .ok n
  /-- and one that can be selected has a connection, the URL of which can be told. -/
  connected : ∀ name n, c.networks.select name = .ok n →
    ∃ connection, n.connection = .ok connection ∧ n.rpcUrl = .ok connection.url
  /-- Where it has no client, this is not said to be for its configuration. -/
  client : ∀ name n fault, c.networks.select name = .ok n →
    Node.Client.ofNetwork n = .error fault →
    ∀ why, fault.message ≠ "Invalid network configuration" ++ why
  /-- A deployment that finds no target does not for that reason either. -/
  target : ∀ wanted fault, target c wanted = .error fault →
    ∀ cause, fault ≠ .connection cause ∧ fault ≠ .client (.connection cause)

section Sound

variable {c : Config}

theorem isError_networkSettings (n : Network) (connection : Network.Connection) :
    ∀ notice ∈ networkSettings n connection, notice.isError = false := by
  intro notice member
  have connected : ∀ notice ∈ connectionSettings connection, notice.isError = false := by
    cases connection <;> simp [connectionSettings, Notice.isError]
  have optional (key : String) (value : Option UInt64) :
      ∀ notice ∈ optionalSetting key value, notice.isError = false := by
    cases value <;> simp [optionalSetting, Notice.isError]
  simp only [networkSettings, List.mem_append, List.mem_singleton] at member
  rcases member with (((told | rfl) | told) | told) | rfl
  · exact connected notice told
  · rfl
  · exact optional _ _ notice told
  · exact optional _ _ notice told
  · rfl

theorem listNetworks_of_oneWay {entries : List (String × Network)}
    (ways : ∀ entry ∈ entries, entry.2.OneWay) :
    (listNetworks c entries).2 = none ∧
      ∀ notice ∈ (listNetworks c entries).1, notice.isError = false := by
  induction entries with
  | nil => exact ⟨rfl, List.forall_mem_nil _⟩
  | cons entry rest ih =>
      obtain ⟨name, n⟩ := entry
      obtain ⟨here, others⟩ := List.forall_mem_cons.mp ways
      obtain ⟨connection, reached⟩ := here.exists_connection
      obtain ⟨none, quiet⟩ := ih others
      simp only [listNetworks, reached]
      refine ⟨none, List.forall_mem_append.mpr ⟨?_, quiet⟩⟩
      exact List.forall_mem_cons.mpr ⟨rfl, isError_networkSettings n connection⟩

theorem oneWay_of_select (sound : c.Sound) {name : String} {n : Network}
    (selected : c.networks.select name = .ok n) : n.OneWay := by
  unfold Networks.select at selected
  cases found : c.networks.find? name with
  | none =>
      rw [found] at selected
      cases selected
  | some network =>
      rw [found] at selected
      cases selected
      exact (sound.networks _ (Catalog.mem_of_find? found)).way

/-- Where a network with a connection has no client, its URL or its key cannot be read. -/
theorem client_fault_of_oneWay {n : Network} (way : n.OneWay) {fault : Node.Client.Fault}
    (failed : Node.Client.ofNetwork n = .error fault) :
    (∃ url cause, fault = .badUrl url cause) ∨ ∃ cause, fault = .badKey cause := by
  obtain ⟨connection, reached⟩ := way.exists_connection
  unfold Node.Client.ofNetwork at failed
  rw [reached] at failed
  rcases Checked.bind_eq_error.mp failed with none | ⟨_, -, failed⟩
  · cases none
  · rcases Checked.bind_eq_error.mp failed with unread | ⟨_, -, failed⟩
    · obtain ⟨cause, -, rfl⟩ := Checked.mapError_eq_error.mp unread
      exact Or.inl ⟨_, cause, rfl⟩
    · rcases Checked.bind_eq_error.mp failed with unread | ⟨_, -, failed⟩
      · obtain ⟨cause, -, rfl⟩ := Checked.mapError_eq_error.mp unread
        exact Or.inr ⟨cause, rfl⟩
      · cases failed

/-- Neither is said to be for the configuration of the network. -/
theorem message_ne_of_unread {fault : Node.Client.Fault}
    (unread : (∃ url cause, fault = .badUrl url cause) ∨ ∃ cause, fault = .badKey cause)
    (why : String) : fault.message ≠ "Invalid network configuration" ++ why := by
  intro same
  have texts := congrArg String.toList same
  rcases unread with ⟨url, cause, rfl⟩ | ⟨cause, rfl⟩
  · have told : (Node.Client.Fault.badUrl url cause).message =
        "Invalid RPC URL " ++ url ++ ": " ++ cause.message := rfl
    rw [told] at texts
    simp at texts
  · have told : (Node.Client.Fault.badKey cause).message =
        "Invalid private key: " ++ cause.message := rfl
    rw [told] at texts
    simp at texts

theorem target_fault_of_sound (sound : c.Sound) {wanted : Option String} {fault : Fault}
    (failed : Command.target c wanted = .error fault) (cause : Network.ConnectionError) :
    fault ≠ .connection cause ∧ fault ≠ .client (.connection cause) := by
  unfold Command.target at failed
  cases named : wanted.or c.defaultNetwork with
  | none =>
      rw [named] at failed
      cases failed
      exact ⟨nofun, nofun⟩
  | some name =>
      rw [named] at failed
      rcases Checked.bind_eq_error.mp failed with unknown | ⟨n, selected, failed⟩
      · obtain ⟨_, -, rfl⟩ := Checked.mapError_eq_error.mp unknown
        exact ⟨nofun, nofun⟩
      · have way := oneWay_of_select sound (Checked.mapError_eq_ok.mp selected)
        rcases Checked.bind_eq_error.mp failed with unplanned | ⟨_, -, failed⟩
        · obtain ⟨_, -, rfl⟩ := Checked.mapError_eq_error.mp unplanned
          exact ⟨nofun, nofun⟩
        · rcases Checked.bind_eq_error.mp failed with none | ⟨_, -, failed⟩
          · obtain ⟨unmade, made, rfl⟩ := Checked.mapError_eq_error.mp none
            rcases client_fault_of_oneWay way made with ⟨url, why, rfl⟩ | ⟨why, rfl⟩
            · exact ⟨nofun, nofun⟩
            · exact ⟨nofun, nofun⟩
          · obtain ⟨connection, reached⟩ := way.exists_connection
            rcases Checked.bind_eq_error.mp failed with untold | ⟨_, -, failed⟩
            · obtain ⟨_, told, -⟩ := Checked.mapError_eq_error.mp untold
              cases told.symm.trans (Network.rpcUrl_eq reached)
            · cases failed

/-- **Whatever uses the networks of a sound configuration** finds a connection for them. -/
theorem dependable_of_sound (sound : c.Sound) : Dependable c where
  listed := by
    obtain ⟨none, quiet⟩ := listNetworks_of_oneWay (c := c)
      fun entry member => (sound.networks entry member).way
    unfold networks
    rcases told : listNetworks c c.networks.entries with ⟨notices, fault⟩
    rw [told] at none quiet
    obtain rfl : fault = .none := none
    exact ⟨rfl, List.forall_mem_cons.mpr ⟨rfl, quiet⟩⟩
  default := by
    intro name default
    have known := Catalog.isSome_find?_iff.mpr (sound.default name default)
    obtain ⟨n, found⟩ := Option.isSome_iff_exists.mp known
    exact ⟨n, by rw [Networks.select, found]⟩
  connected := by
    intro name n selected
    obtain ⟨connection, reached⟩ := (oneWay_of_select sound selected).exists_connection
    exact ⟨connection, reached, Network.rpcUrl_eq reached⟩
  client := by
    intro name n fault selected failed why
    exact message_ne_of_unread (client_fault_of_oneWay (oneWay_of_select sound selected) failed) why
  target := fun _ _ failed cause => target_fault_of_sound sound failed cause

end Sound

end Command

/-! ## Accepted configurations -/

namespace Config

/-- **What a text is accepted for, and what it is good for.**  It is accepted exactly when it
says a sound configuration, and nothing that uses the networks of that configuration fails for
the way they are set up. -/
theorem ofText_accepts (env : Environment) (text : String) (c : Config) :
    (ofText env text = .ok c ↔ Says env text c ∧ c.Sound) ∧
      (ofText env text = .ok c → Command.Dependable c) := by
  refine ⟨ofText_eq_ok_iff, fun accepted => ?_⟩
  exact Command.dependable_of_sound (ofText_eq_ok_iff.mp accepted).2

/-- A text is accepted, so its network can be used everywhere. -/
theorem ofText_accepts_sample :
    ofText ⟨[]⟩ Command.Sample.configuration = .ok Command.Sample.config ∧
      Command.Dependable Command.Sample.config := by
  have accepted := Command.Sample.ofText_configuration
  exact ⟨accepted, (ofText_accepts _ _ _).2 accepted⟩

end Config

namespace Command

/-- **Networks are listed whenever the configuration can be read.** -/
theorem run_networks_done {σ : Type} {w : World σ} {path : String} {c : Config}
    (loaded : Config.ofFile w.files w.environment path = .ok c) (start : σ) :
    (run w ⟨path, .networks⟩ start).1.exit = .done := by
  simp only [run, loaded]
  exact (dependable_of_sound (Config.sound_of_ofFile loaded)).listed.1

end Command

end Rollout
