/-
# Rollout.Proofs.Command.Secrecy — keys are not told

Whatever is made known of a configuration takes no notice of redaction: what its checks say,
how it is written and dumped, its plan, its networks and their URLs, and what is told by the
commands that deploy nothing.  So configurations that differ in their keys only cannot be told
apart (`Config.seenAlike_of_alike`).
-/
import Rollout.Command.Basic
import Rollout.Config.Dump
import Rollout.Proofs.Config.Redaction

namespace Rollout

set_option autoImplicit false

/-! ## Networks -/

namespace Network

variable (n : Network) (leaves : Dump.Leaves)

/-- Which way a network is reached does not depend on its key. -/
theorem connection_redacted : n.redacted.connection = n.connection.map Connection.redacted := by
  obtain ⟨host, port, provider, -⟩ := n
  cases host <;> cases port <;> cases provider <;> rfl

theorem rpcUrl_redacted : n.redacted.rpcUrl = n.rpcUrl := by
  rw [rpcUrl, rpcUrl, connection_redacted]
  cases n.connection with
  | error fault => rfl
  | ok connection => cases connection <;> rfl

theorem Connection.dump_redacted (connection : Connection) :
    connection.redacted.dump leaves = connection.dump leaves := by
  cases connection <;> rfl

theorem dump_redacted : n.redacted.dump leaves = n.dump leaves := by
  obtain ⟨host, port, provider, -⟩ := n
  cases provider <;> rfl

theorem dump_connection_redacted (style : Dump.Style) :
    n.redacted.connection.map (fun connection => (connection.dump leaves).shown style) =
      n.connection.map fun connection => (connection.dump leaves).shown style := by
  rw [connection_redacted]
  cases n.connection with
  | error fault => rfl
  | ok connection => rw [Except.map, Except.map, Except.map, Connection.dump_redacted]

theorem checkNetwork_redacted (name : String) :
    Config.checkNetwork name n.redacted = Config.checkNetwork name n := by
  rw [Config.checkNetwork, Config.checkNetwork, connection_redacted]
  cases n.connection <;> rfl

end Network

namespace Networks

/-- What is seen of a network that is selected is seen of the redacted one. -/
theorem map_select_redacted {β : Type} {seen : Network → β}
    (blind : ∀ n : Network, seen n.redacted = seen n) (networks : Networks) (name : String) :
    (select (networks.map Network.redacted) name).map seen = (networks.select name).map seen := by
  rw [select, select, Catalog.find?_map]
  cases networks.find? name with
  | none => rfl
  | some n => exact congrArg Except.ok (blind n)

theorem dump_redacted (networks : Networks) (leaves : Dump.Leaves) :
    Networks.dump leaves (networks.map Network.redacted) = networks.dump leaves := by
  rw [dump, dump, Catalog.entries_map, List.map_map]
  congr 1
  exact List.map_congr_left fun e _ =>
    congrArg (Prod.mk (Text.Quoted.ofText e.1)) (e.2.dump_redacted leaves)

end Networks

/-! ## Configurations -/

namespace Config

variable (c : Config)

theorem check_redacted : c.redacted.check = c.check := by
  have empty : (c.networks.map Network.redacted).isEmpty = c.networks.isEmpty := by
    rw [Catalog.isEmpty, Catalog.entries_map, List.isEmpty_map, Catalog.isEmpty]
  have default : c.redacted.checkDefault = c.checkDefault := by
    simp only [checkDefault, redacted, Catalog.find?_map, Option.isSome_map]
  have each (checks : String × Network → Except Complaint Unit)
      (blind : ∀ e, checks (e.1, e.2.redacted) = checks e) :
      (c.networks.map Network.redacted).entries.forM checks = c.networks.entries.forM checks := by
    simp only [List.forM_eq_forM, Catalog.entries_map]
    induction c.networks.entries with
    | nil => rfl
    | cons e rest ih => rw [List.map_cons, List.forM_cons, List.forM_cons, ih, blind]
  rw [check, check, default]
  simp only [redacted, empty]
  rw [each _ fun e => Network.checkNetwork_redacted e.2 e.1]

theorem dump_redacted (leaves : Dump.Leaves) : c.redacted.dump leaves = c.dump leaves := by
  have networks := c.networks.dump_redacted leaves
  simp only [dump, redacted, networks]

end Config

/-! ## Commands -/

namespace Command

theorem listNetworks_redacted (c : Config) (entries : List (String × Network)) :
    listNetworks c.redacted (entries.map fun e => (e.1, e.2.redacted)) =
      listNetworks c entries := by
  induction entries with
  | nil => rfl
  | cons e rest ih =>
      obtain ⟨name, n⟩ := e
      rw [List.map_cons, listNetworks, listNetworks, ih, Network.connection_redacted]
      cases n.connection with
      | error fault => rfl
      | ok connection => cases connection <;> rfl

theorem networks_redacted (c : Config) : networks c.redacted = networks c := by
  have listed := listNetworks_redacted c c.networks.entries
  have entries : c.redacted.networks.entries =
      c.networks.entries.map fun e => (e.1, e.2.redacted) := rfl
  rw [networks, networks, entries, listed]

end Command

/-! ## What can be seen -/

namespace Config

/-- What is made known of two configurations is the same. -/
structure SeenAlike (c d : Config) : Prop where
  /-- Both pass the checks, or the same is wrong with them. -/
  checked : c.check = d.check
  written : c.document = d.document ∧ c.networks.document = d.networks.document
  dumped : ∀ leaves style, (c.dump leaves).shown style = (d.dump leaves).shown style ∧
    (c.networks.dump leaves).shown style = (d.networks.dump leaves).shown style
  built : Plan.build c.artifacts = Plan.build d.artifacts
  /-- By any name the same network is selected, as it is written and dumped, -/
  selected : ∀ name,
    (c.networks.select name).map Network.document = (d.networks.select name).map Network.document ∧
    ∀ leaves style, (c.networks.select name).map (fun n => (n.dump leaves).shown style) =
      (d.networks.select name).map fun n => (n.dump leaves).shown style
  /-- at the same URL, -/
  url : ∀ name,
    (c.networks.select name).map Network.rpcUrl = (d.networks.select name).map Network.rpcUrl
  /-- and over a connection that is dumped the same. -/
  connection : ∀ name leaves style,
    (c.networks.select name).map (fun n =>
        n.connection.map fun connection => (connection.dump leaves).shown style) =
      (d.networks.select name).map fun n =>
        n.connection.map fun connection => (connection.dump leaves).shown style
  planned : Command.plan c = Command.plan d
  listed : Command.networks c = Command.networks d

variable {c d : Config}

/-- What takes no notice of redaction does not tell keys apart. -/
theorem Alike.congr {β : Type} (alike : c.Alike d) (seen : Config → β)
    (blind : ∀ c : Config, seen c.redacted = seen c) : seen c = seen d := by
  rw [← blind c, alike_iff.mp alike, blind]

theorem Alike.select {β : Type} (alike : c.Alike d) (name : String) (seen : Network → β)
    (blind : ∀ n : Network, seen n.redacted = seen n) :
    (c.networks.select name).map seen = (d.networks.select name).map seen :=
  alike.congr (fun c => (c.networks.select name).map seen) fun c =>
    c.networks.map_select_redacted blind name

/-- **Configurations that differ in their keys only cannot be told apart** by anything that is
made known of them. -/
theorem seenAlike_of_alike (alike : c.Alike d) : SeenAlike c d where
  checked := alike.congr check check_redacted
  written := ⟨alike.congr document document_redacted,
    alike.congr (fun c => c.networks.document) fun c => c.networks.document_redacted⟩
  dumped leaves style := ⟨
    alike.congr (fun c => (c.dump leaves).shown style) fun c =>
      congrArg (Dump.shown style) (c.dump_redacted leaves),
    alike.congr (fun c => (c.networks.dump leaves).shown style) fun c =>
      congrArg (Dump.shown style) (c.networks.dump_redacted leaves)⟩
  built := congrArg Plan.build alike.artifacts
  selected name := ⟨alike.select name Network.document Network.document_redacted,
    fun leaves style => alike.select name (fun n => (n.dump leaves).shown style) fun n =>
      congrArg (Dump.shown style) (n.dump_redacted leaves)⟩
  url name := alike.select name Network.rpcUrl Network.rpcUrl_redacted
  connection name leaves style := alike.select name _ fun n =>
    n.dump_connection_redacted leaves style
  planned := by rw [Command.plan, Command.plan, alike.artifacts, alike.directory]
  listed := alike.congr Command.networks Command.networks_redacted

/-- A configuration for a network with one key or another. -/
def Sample.relayed (key : String) : Config where
  defaultNetwork := some "main"
  networks := .ofList [("main", .signing "https://node.example" (.ofText key)),
    ("local", .direct "localhost" 8545)]
  artifacts := [.contract "Token"]

/-- Two keys that are different, and of which nothing is told. -/
theorem seenAlike_keys :
    (Sample.relayed "0x01").networks.find? "main" ≠ (Sample.relayed "0x02").networks.find? "main" ∧
      SeenAlike (Sample.relayed "0x01") (Sample.relayed "0x02") := by
  refine ⟨by decide, seenAlike_of_alike ⟨rfl, rfl, ?_, rfl, rfl⟩⟩
  have home : Network.Alike (.direct "localhost" 8545) (.direct "localhost" 8545) :=
    ⟨rfl, rfl, rfl, rfl, rfl, rfl, rfl, rfl, rfl⟩
  have relay : Network.Alike (.signing "https://node.example" (.ofText "0x01"))
      (.signing "https://node.example" (.ofText "0x02")) :=
    ⟨rfl, rfl, rfl, rfl, rfl, rfl, rfl, rfl, rfl⟩
  exact .cons ⟨rfl, home⟩ (.cons ⟨rfl, relay⟩ .nil)

end Config

end Rollout
