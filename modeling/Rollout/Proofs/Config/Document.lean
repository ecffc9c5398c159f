/-
# Rollout.Proofs.Config.Document — a configuration that is written is read back

Only keys are lost where a configuration is written.  Its JSON text, on one line or over
several, is read back as the configuration without its keys, whether the fields are taken as
they are written or by name, and that one is written the same (`Config.readBack`).
-/
import Rollout.Config.Loading
import Rollout.Proofs.Artifact.Document
import Rollout.Proofs.Network.Document

namespace Rollout.Config

open Document
open Layout (takes_field)

set_option autoImplicit false

variable (a : Json.Arrangement)

/-! ## Settings -/

def Settings.document (s : Settings) : Value :=
  .table [("default_network", optionalText s.defaultNetwork), ("output", optionalText s.output)]

theorem arrange_optionalText (s : Option String) :
    a.arrange (optionalText s) = optionalText s := by
  cases s with
  | none => exact a.arrange_null
  | some s => exact a.arrange_text s

theorem Settings.read_document (s : Settings) :
    Settings.layout.read .json {} (a.arrange s.document) = .ok s := by
  have default : readOption readText (a.arrange (optionalText s.defaultNetwork)) =
      .ok s.defaultNetwork := by
    rw [arrange_optionalText]
    cases s.defaultNetwork <;> rfl
  have output : readOption readPath (a.arrange (optionalText s.output)) = .ok s.output := by
    rw [arrange_optionalText]
    cases s.output <;> rfl
  have takes := (takes_field (r := Settings.layout) "default_network" (readOption readText)
    (fun d x => { d with defaultNetwork := x }) (by decide) (fun _ _ => rfl) default).append
    (takes_field (r := Settings.layout) "output" (readOption readPath)
      (fun d x => { d with output := x }) (by decide) (fun _ _ => rfl) output)
  have sorted : ["default_network", "output"].Pairwise (· < ·) := by decide
  have ordered : Catalog.Ordered [("default_network", optionalText s.defaultNetwork),
      ("output", optionalText s.output)] :=
    Catalog.ordered_of_sublist sorted (List.Sublist.refl _)
  rw [Settings.document, a.arrange_table_of_ordered ordered]
  exact takes.read_optional .json {} (by decide)

/-! ## Artifacts -/

def Deployables.document (d : Deployables) : Value :=
  .table [("directory", .text d.directory), ("deploy", .list (d.artifacts.map Artifact.document))]

theorem Deployables.read_document (d : Deployables) :
    (Deployables.layout .json).read .json {} (a.arrange d.document) = .ok d := by
  have named : readPath (a.arrange (.text d.directory)) = .ok d.directory := by
    rw [a.arrange_text]
    rfl
  have directory := takes_field (r := Deployables.layout .json) "directory" readPath
    (fun d x => { d with directory := x }) (by decide) (fun _ _ => rfl) named
  have deploy := takes_field (r := Deployables.layout .json) "deploy"
    (readList (Artifact.read .json)) (fun d x => { d with artifacts := x }) (by decide)
    (fun _ _ => rfl) (readList_arrange a (Artifact.read_document a) d.artifacts)
  have optional : ∀ f ∈ (Deployables.layout .json).fields, f.named = false := by decide
  cases a with
  | asWritten =>
      rw [Deployables.document, Json.Arrangement.arrange_asWritten_table]
      exact (directory.append deploy).read_optional .json {} optional
  | byName =>
      have sorted : ["deploy", "directory"].Pairwise (· < ·) := by decide
      have ordered : Catalog.Ordered [("deploy", Value.list (d.artifacts.map Artifact.document)),
          ("directory", .text d.directory)] :=
        Catalog.ordered_of_sublist sorted (List.Sublist.refl _)
      rw [Deployables.document, Json.Arrangement.arrange_byName_table ordered (.swap ..)]
      exact (deploy.append directory).read_optional .json {} optional

/-! ## Configurations -/

/-- A configuration is written in three parts. -/
theorem document_eq (c : Config) : c.document = .table [
    ("deployment", Settings.document ⟨c.defaultNetwork, c.output⟩),
    ("networks", c.networks.document),
    ("artifacts", Deployables.document ⟨c.directory, c.artifacts⟩)] := rfl

/-- **A configuration is read back without its keys.** -/
theorem read_document (c : Config) : Config.read .json (a.arrange c.document) = .ok c.redacted := by
  have deployment := takes_field (r := layout .json) "deployment" (Settings.layout.read .json {})
    (fun d x => { d with settings := x }) (by decide) (fun _ _ => rfl)
    (Settings.read_document a ⟨c.defaultNetwork, c.output⟩)
  have networks := takes_field (r := layout .json) "networks" (Networks.read .json)
    (fun d x => { d with networks := x }) (by decide) (fun _ _ => rfl)
    (c.networks.read_document a)
  have artifacts := takes_field (r := layout .json) "artifacts"
    ((Deployables.layout .json).read .json {}) (fun d x => { d with deployables := x })
    (by decide) (fun _ _ => rfl) (Deployables.read_document a ⟨c.directory, c.artifacts⟩)
  have draft : (layout .json).read .json {} (a.arrange c.document) =
      .ok ⟨⟨c.defaultNetwork, c.output⟩, c.networks.map Network.redacted,
        ⟨c.directory, c.artifacts⟩⟩ := by
    have required : ∀ f ∈ (layout .json).fields, f.named = true →
        f.name = "networks" ∨ f.name = "artifacts" := by decide
    rw [document_eq]
    cases a with
    | asWritten =>
        rw [Json.Arrangement.arrange_asWritten_table]
        have takes := (deployment.append networks).append artifacts
        refine takes.read .json {} fun f member named => ?_
        rcases required f member named with same | same <;> simp [same]
    | byName =>
        have sorted : ["artifacts", "deployment", "networks"].Pairwise (· < ·) := by decide
        have ordered : Catalog.Ordered [
            ("artifacts", Deployables.document ⟨c.directory, c.artifacts⟩),
            ("deployment", Settings.document ⟨c.defaultNetwork, c.output⟩),
            ("networks", c.networks.document)] :=
          Catalog.ordered_of_sublist sorted (List.Sublist.refl _)
        have order (A B C : String × Value) : [A, B, C].Perm [C, A, B] :=
          show ([A, B] ++ [C]).Perm ([C] ++ [A, B]) from List.perm_append_comm
        rw [Json.Arrangement.arrange_byName_table ordered (order ..)]
        have takes := (artifacts.append deployment).append networks
        refine takes.read .json {} fun f member named => ?_
        rcases required f member named with same | same <;> simp [same]
  rw [Config.read, draft]
  rfl

theorem nests_document (c : Config) : Json.Nests Json.Machine.depthLimit c.document := by
  have text (s : Option String) : Json.Nests 125 (optionalText s) := by
    cases s with
    | none => exact .null _
    | some s => exact .text _ s
  have whole {fields : List (String × Value)} (inside : ∀ f ∈ fields, Json.Nests 126 f.2) :
      Json.Nests Json.Machine.depthLimit (.table fields) := .table inside
  refine whole fun f member => ?_
  simp only [List.mem_cons, List.not_mem_nil, or_false] at member
  rcases member with rfl | rfl | rfl
  · refine .table fun g inside => ?_
    simp only [List.mem_cons, List.not_mem_nil, or_false] at inside
    rcases inside with rfl | rfl
    · exact text c.defaultNetwork
    · exact text c.output
  · exact c.networks.nests_document 123
  · refine .table fun g inside => ?_
    simp only [List.mem_cons, List.not_mem_nil, or_false] at inside
    rcases inside with rfl | rfl
    · exact .text ..
    · refine .list fun v listed => ?_
      obtain ⟨artifact, -, rfl⟩ := List.mem_map.mp listed
      exact artifact.nests_document 120

end Rollout.Config
