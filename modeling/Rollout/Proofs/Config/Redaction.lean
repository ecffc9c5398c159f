/-
# Rollout.Proofs.Config.Redaction — a configuration without its keys

Redacting puts the mark in place of every key and keeps all else.  Two configurations are
alike when they differ in the keys of their providers only, and then they are the same once
they are redacted (`alike_iff`).  What redacting changes is not written either
(`document_redacted`).
-/
import Mathlib.Data.List.Forall2
import Rollout.Config.Loading
import Rollout.Proofs.Catalog

namespace Rollout

set_option autoImplicit false

/-! ## Networks -/

/-- A provider with the mark in place of its key. -/
def SigningProvider.redacted (p : SigningProvider) : SigningProvider :=
  { p with privateKey := .ofText Secret.mark }

namespace Network

def Connection.redacted : Connection → Connection
  | .direct url sender => .direct url sender
  | .signing url _ => .signing url (.ofText Secret.mark)

/-- A network with the mark in place of its key. -/
def redacted (n : Network) : Network :=
  { n with provider := n.provider.map SigningProvider.redacted }

/-- Two networks that differ in the keys of their providers only. -/
structure Alike (n m : Network) : Prop where
  host : n.host = m.host
  port : n.port = m.port
  provider : n.provider.map (·.url) = m.provider.map (·.url)
  matcher : n.matcher = m.matcher
  gas : n.gas = m.gas
  gasPrice : n.gasPrice = m.gasPrice
  sender : n.sender = m.sender
  confirmations : n.confirmations = m.confirmations
  timeout : n.timeout = m.timeout

theorem redacted_provider_eq_iff {p q : Option SigningProvider} :
    p.map SigningProvider.redacted = q.map SigningProvider.redacted ↔
      p.map (·.url) = q.map (·.url) := by
  cases p <;> cases q <;> simp [SigningProvider.redacted]

/-- Networks are alike when they are the same once they are redacted. -/
theorem alike_iff {n m : Network} : n.Alike m ↔ n.redacted = m.redacted := by
  constructor
  · rintro ⟨host, port, provider, matcher, gas, gasPrice, sender, confirmations, timeout⟩
    have provider := redacted_provider_eq_iff.mpr provider
    simp only [redacted, host, port, provider, matcher, gas, gasPrice, sender, confirmations,
      timeout]
  · intro same
    obtain ⟨host, port, provider, matcher, gas, gasPrice, sender, confirmations, timeout⟩ :=
      Network.mk.inj same
    exact ⟨host, port, redacted_provider_eq_iff.mp provider, matcher, gas, gasPrice, sender,
      confirmations, timeout⟩

theorem document_redacted (n : Network) : n.redacted.document = n.document := by
  obtain ⟨host, port, provider, -⟩ := n
  cases provider <;> rfl

end Network

/-! ## Configurations -/

namespace Config

/-- A configuration with the mark in place of every key. -/
def redacted (c : Config) : Config :=
  { c with networks := c.networks.map Network.redacted }

/-- Two configurations that differ in the keys of their networks only. -/
structure Alike (c d : Config) : Prop where
  defaultNetwork : c.defaultNetwork = d.defaultNetwork
  output : c.output = d.output
  networks : List.Forall₂ (fun e f => e.1 = f.1 ∧ Network.Alike e.2 f.2)
    c.networks.entries d.networks.entries
  directory : c.directory = d.directory
  artifacts : c.artifacts = d.artifacts

/-- **Configurations are alike when they are the same once they are redacted.** -/
theorem alike_iff {c d : Config} : c.Alike d ↔ c.redacted = d.redacted := by
  have entries : List.Forall₂ (fun e f => e.1 = f.1 ∧ Network.Alike e.2 f.2)
      c.networks.entries d.networks.entries ↔
        c.networks.map Network.redacted = d.networks.map Network.redacted := by
    have lists : c.networks.map Network.redacted = d.networks.map Network.redacted ↔
        c.networks.entries.map (fun e => (e.1, e.2.redacted)) =
          d.networks.entries.map (fun e => (e.1, e.2.redacted)) :=
      ⟨congrArg Catalog.entries, fun same => Catalog.ext_entries same⟩
    rw [lists, ← List.forall₂_eq_eq_eq, List.forall₂_map_left_iff, List.forall₂_map_right_iff]
    simp only [Prod.mk.injEq, Network.alike_iff]
  constructor
  · rintro ⟨default, output, networks, directory, artifacts⟩
    simp only [redacted, default, output, entries.mp networks, directory, artifacts]
  · intro same
    obtain ⟨default, output, networks, directory, artifacts⟩ := Config.mk.inj same
    exact ⟨default, output, entries.mpr networks, directory, artifacts⟩

end Config

theorem Networks.document_redacted (networks : Networks) :
    Networks.document (networks.map Network.redacted) = networks.document := by
  rw [document, document, Catalog.entries_map, List.map_map]
  congr 1
  exact List.map_congr_left fun e _ => congrArg (Prod.mk e.1) e.2.document_redacted

/-- **Keys are not written.** -/
theorem Config.document_redacted (c : Config) : c.redacted.document = c.document := by
  have networks := Networks.document_redacted c.networks
  simp only [document, redacted, networks]

end Rollout
