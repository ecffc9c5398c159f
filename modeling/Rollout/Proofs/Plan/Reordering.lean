/-
# Rollout.Proofs.Plan.Reordering — plans do not ask in which order libraries are listed

What an artifact depends on is a set.  Where artifacts are changed in the order of their
libraries only (`Artifact.Reordered`), the same places are available behind every front, so
the lowest order of places is the same one, and the plan holds the changed artifacts where
it held the others (`build_reordered`).
-/
import Rollout.Proofs.Plan.Building
import Rollout.Run.Payload

namespace Rollout

set_option autoImplicit false

open Relation

/-! ## Artifacts -/

/-- The same artifact but for the order in which it lists its libraries. -/
structure Artifact.Reordered (a b : Artifact) : Prop where
  libraries : b.libraries.Perm a.libraries
  rest : b = { a with libraries := b.libraries }

namespace Artifact.Reordered

theorem refl (a : Artifact) : a.Reordered a := ⟨.refl _, rfl⟩

variable {a b : Artifact} (reordered : a.Reordered b)

include reordered

theorem symm : b.Reordered a := by
  refine ⟨reordered.libraries.symm, ?_⟩
  rw [reordered.rest]

theorem name_eq : b.name = a.name := by rw [reordered.rest]

theorem kind_eq : b.kind = a.kind := by rw [reordered.rest]

theorem arguments_eq : b.arguments = a.arguments := by rw [reordered.rest]

theorem buildName_eq : b.buildName = a.buildName := by
  rw [reordered.rest]
  rfl

theorem linkName_eq : b.linkName = a.linkName := by
  rw [reordered.rest]
  rfl

theorem references_eq : b.references = a.references := by
  rw [references, references, reordered.arguments_eq]

theorem dependsOn_iff {name : String} : b.DependsOn name ↔ a.DependsOn name := by
  rw [DependsOn, DependsOn, reordered.references_eq, reordered.libraries.mem_iff]

end Artifact.Reordered

/-- Lists the libraries of the artifact with a name in another way. -/
def Artifact.relist (name : String) (libraries : List String) (a : Artifact) : Artifact :=
  if a.name = name then { a with libraries := libraries } else a

namespace Plan

def Step.mapArtifact (f : Artifact → Artifact) (step : Step) : Step :=
  { step with artifact := f step.artifact }

def mapArtifacts (f : Artifact → Artifact) (plan : Plan) : Plan :=
  ⟨plan.steps.map (Step.mapArtifact f)⟩

theorem steps_mapArtifacts (f : Artifact → Artifact) (plan : Plan) :
    (plan.mapArtifacts f).steps = plan.steps.map (Step.mapArtifact f) := rfl

theorem artifacts_mapArtifacts (f : Artifact → Artifact) (plan : Plan) :
    (plan.mapArtifacts f).artifacts = plan.artifacts.map f := by
  rw [artifacts, artifacts, steps_mapArtifacts, List.map_map, List.map_map]
  rfl

theorem mapArtifacts_ofArtifacts (f : Artifact → Artifact) (artifacts : List Artifact) :
    (ofArtifacts artifacts).mapArtifacts f = ofArtifacts (artifacts.map f) := by
  have steps : ((ofArtifacts artifacts).mapArtifacts f).steps =
      (ofArtifacts (artifacts.map f)).steps := by
    refine List.ext_getElem (by simp [mapArtifacts, ofArtifacts]) fun place _ _ => ?_
    simp [mapArtifacts, ofArtifacts, Step.mapArtifact]
  exact congrArg Plan.mk steps

theorem pick_map (f : Artifact → Artifact) (artifacts : List Artifact) (places : List Nat) :
    pick (artifacts.map f) places = (pick artifacts places).map f := by
  simp [pick, List.map_filterMap]

/-! ## The lowest order -/

/-- Graphs in which the same tasks are available have the same lowest order. -/
theorem Graph.eq_of_lowest {g g' : Graph} {order other : List Nat}
    (size : g'.size = g.size)
    (same : ∀ placed task, g.Available placed task ↔ g'.Available placed task)
    (arranged : g.Arranged order) (lowest : Stepwise g.Lowest order)
    (arranged' : g'.Arranged other) (lowest' : Stepwise g'.Lowest other) : other = order := by
  have available : Stepwise g.Available other := fun before task after split =>
    (same before task).mpr (arranged'.available before task after split)
  have lowest'' : Stepwise g.Lowest other := fun before task after split free here =>
    lowest' before task after split free ((same before free).mp here)
  have all : g.Arranged other := ⟨size ▸ arranged'.complete, available⟩
  by_contra differ
  have first := lex_of_lowest arranged lowest all differ
  have second := lex_of_lowest all lowest'' arranged (Ne.symm differ)
  exact List.lt_asymm first second

/-! ## Graphs -/

section Reordering

variable {artifacts : List Artifact} {f : Artifact → Artifact}
  (reorders : ∀ a ∈ artifacts, a.Reordered (f a))

include reorders

theorem names_map : (artifacts.map f).map (·.name) = artifacts.map (·.name) := by
  rw [List.map_map]
  exact List.map_congr_left fun a member => (reorders a member).name_eq

theorem edge_map_iff {dependent dependency : String} :
    Edge (artifacts.map f) dependent dependency ↔ Edge artifacts dependent dependency := by
  constructor
  · rintro ⟨b, member, named, depends⟩
    obtain ⟨a, listed, rfl⟩ := List.mem_map.mp member
    have same := reorders a listed
    exact ⟨a, listed, same.name_eq ▸ named, same.dependsOn_iff.mp depends⟩
  · rintro ⟨a, member, named, depends⟩
    have same := reorders a member
    exact ⟨f a, List.mem_map_of_mem member, same.name_eq.trans named,
      same.dependsOn_iff.mpr depends⟩

theorem wellFormed_map (sound : WellFormed artifacts) : WellFormed (artifacts.map f) where
  distinct := by
    rw [names_map reorders]
    exact sound.distinct
  declared := by
    intro b member name depends
    obtain ⟨a, listed, rfl⟩ := List.mem_map.mp member
    obtain ⟨c, declared, named⟩ :=
      sound.declared a listed name ((reorders a listed).dependsOn_iff.mp depends)
    exact ⟨f c, List.mem_map_of_mem declared, (reorders c declared).name_eq.trans named⟩
  libraries := by
    intro b member name linked target declared named
    obtain ⟨a, listed, rfl⟩ := List.mem_map.mp member
    obtain ⟨c, known, rfl⟩ := List.mem_map.mp declared
    have same := reorders c known
    rw [same.kind_eq]
    rw [same.name_eq] at named
    exact sound.libraries a listed name ((reorders a listed).libraries.mem_iff.mp linked) c known
      named
  acyclic := by
    have same : Edge (artifacts.map f) = Edge artifacts := by
      funext dependent dependency
      exact propext (edge_map_iff reorders)
    rw [same]
    exact sound.acyclic

/-- An artifact is ready behind the same places. -/
theorem ready_map_iff {placed : List Nat} {a : Artifact} (member : a ∈ artifacts) :
    Ready (artifacts.map f) placed (f a) ↔ Ready artifacts placed a := by
  have found : ∀ (earlier : Nat) (name : String),
      (∃ b, (artifacts.map f)[earlier]? = some b ∧ b.name = name) ↔
        ∃ b, artifacts[earlier]? = some b ∧ b.name = name := by
    intro earlier name
    rw [List.getElem?_map]
    cases there : artifacts[earlier]? with
    | none => simp
    | some b => simp [(reorders b (List.mem_of_getElem? there)).name_eq]
  simp only [Ready, (reorders a member).dependsOn_iff, found]

theorem available_map_iff (sound : WellFormed artifacts) (placed : List Nat) (place : Nat) :
    (graph artifacts).Available placed place ↔
      (graph (artifacts.map f)).Available placed place := by
  have sound' := wellFormed_map reorders sound
  rw [available_iff sound.distinct sound.declared, available_iff sound'.distinct sound'.declared,
    List.getElem?_map]
  apply and_congr_right
  intro _
  cases there : artifacts[place]? with
  | none => simp
  | some a => simp [ready_map_iff reorders (List.mem_of_getElem? there)]

/-- **The plan of reordered artifacts** is the plan of the artifacts, reordered. -/
theorem build_reordered {plan : Plan} (built : build artifacts = .ok plan) :
    build (artifacts.map f) = .ok (plan.mapArtifacts f) := by
  have sound := build_ok_iff.mp ⟨plan, built⟩
  obtain ⟨plan', built'⟩ := build_ok_iff.mpr (wellFormed_map reorders sound)
  obtain ⟨places, rfl, arranged, lowest⟩ := places_of_build built
  obtain ⟨places', rfl, arranged', lowest'⟩ := places_of_build built'
  have size : (graph (artifacts.map f)).size = (graph artifacts).size := by
    rw [size_graph, size_graph, List.length_map]
  obtain rfl := Graph.eq_of_lowest size (available_map_iff reorders sound) arranged lowest
    arranged' lowest'
  rw [built', pick_map, mapArtifacts_ofArtifacts]

theorem find?_map_eq (name : String) :
    (artifacts.map f).find? (·.name = name) = (artifacts.find? (·.name = name)).map f := by
  induction artifacts with
  | nil => rfl
  | cons first rest ih =>
      obtain ⟨here, others⟩ := List.forall_mem_cons.mp reorders
      rw [List.map_cons, List.find?_cons, List.find?_cons, here.name_eq, ih others]
      split <;> rfl

/-- Labels are those of the artifacts before. -/
theorem linkNameOf_map : Run.linkNameOf (artifacts.map f) = Run.linkNameOf artifacts := by
  funext library
  have reorders' : ∀ a ∈ artifacts.reverse, a.Reordered (f a) := fun a member =>
    reorders a (List.mem_reverse.mp member)
  rw [Run.linkNameOf, Run.linkNameOf, ← List.map_reverse, find?_map_eq reorders']
  cases found : artifacts.reverse.find? (·.name = library) with
  | none => rfl
  | some a => exact (reorders' a (List.mem_of_find?_eq_some found)).linkName_eq

theorem linkNameOf_mapArtifacts {plan : Plan} (built : build artifacts = .ok plan) :
    Run.linkNameOf (plan.mapArtifacts f).artifacts = Run.linkNameOf plan.artifacts := by
  rw [artifacts_mapArtifacts]
  exact linkNameOf_map fun a member => reorders a ((perm_of_build built).mem_iff.mp member)

end Reordering

end Plan

end Rollout
