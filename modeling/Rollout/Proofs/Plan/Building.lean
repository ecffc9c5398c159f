/-
# Rollout.Proofs.Plan.Building — which graphs have a plan, and which plan that is

`Plan.build` accepts exactly the well-formed graphs, and otherwise tells of the first
fault (`build_decides`).  The plan it makes holds every declared artifact once, each
behind what it links and refers to; among all orders with that property it is the
first one, compared by the places of declaration (`build_least`).
-/
import Rollout.Proofs.Plan.Checks
import Rollout.Proofs.Plan.Order

namespace Rollout

set_option autoImplicit false

open Relation

/-- An artifact depends on what it links and on what its constructor refers to. -/
def Artifact.DependsOn (a : Artifact) (name : String) : Prop :=
  name ∈ a.libraries ∨ name ∈ a.references

theorem Artifact.mem_dependencies {a : Artifact} {name : String} :
    name ∈ a.dependencies ↔ a.DependsOn name := by
  simp [dependencies, mem_distinct, DependsOn]

namespace Plan

/-! ## Graphs of artifacts -/

/-- Among some artifacts, the one with the first name depends on the second name. -/
def Edge (artifacts : List Artifact) (dependent dependency : String) : Prop :=
  ∃ a ∈ artifacts, a.name = dependent ∧ a.DependsOn dependency

/-- The artifacts at some places bear all the names that an artifact depends on. -/
def Ready (artifacts : List Artifact) (placed : List Nat) (a : Artifact) : Prop :=
  ∀ name, a.DependsOn name → ∃ earlier ∈ placed, ∃ b, artifacts[earlier]? = some b ∧ b.name = name

/-- An order of all artifacts, by their places of declaration, in which each stands
behind those it depends on. -/
structure DependenciesFirst (artifacts : List Artifact) (places : List Nat) : Prop where
  complete : places.Perm (List.range artifacts.length)
  behind : ∀ before place after a, places = before ++ place :: after →
    artifacts[place]? = some a → Ready artifacts before a

/-- Names are declared once, dependencies are declared, linked artifacts are libraries,
and nothing depends on itself, directly or through others. -/
structure WellFormed (artifacts : List Artifact) : Prop where
  distinct : (artifacts.map (·.name)).Nodup
  declared : ∀ a ∈ artifacts, ∀ name, a.DependsOn name → ∃ b ∈ artifacts, b.name = name
  libraries : ∀ a ∈ artifacts, ∀ name ∈ a.libraries, ∀ b ∈ artifacts, b.name = name →
    b.kind = .library
  acyclic : ∀ name, ¬ TransGen (Edge artifacts) name name

variable {artifacts : List Artifact}

theorem size_graph : (graph artifacts).size = artifacts.length := by
  simp [graph, Graph.size]

def nameAt (artifacts : List Artifact) (place : Nat) : String :=
  (artifacts[place]?.map (·.name)).getD ""

def placeOf (artifacts : List Artifact) (name : String) : Nat :=
  (place? artifacts name).getD 0

theorem nameAt_eq {place : Nat} {a : Artifact} (there : artifacts[place]? = some a) :
    nameAt artifacts place = a.name := by
  rw [nameAt, there, Option.map_some, Option.getD_some]

section Distinct

variable (distinct : (artifacts.map (·.name)).Nodup)

include distinct

/-- With distinct names, the place of a name is the one where it is declared. -/
theorem place?_eq_some_iff {name : String} {place : Nat} :
    place? artifacts name = some place ↔ ∃ b, artifacts[place]? = some b ∧ b.name = name := by
  constructor
  · intro found
    obtain ⟨inside, named, -⟩ := List.findIdx?_eq_some_iff_getElem.mp found
    exact ⟨artifacts[place], by simp [inside], by simpa using named⟩
  · rintro ⟨b, there, rfl⟩
    obtain ⟨inside, rfl⟩ := List.getElem?_eq_some_iff.mp there
    refine List.findIdx?_eq_some_iff_getElem.mpr ⟨inside, by simp, fun earlier before => ?_⟩
    intro same
    have equal : (artifacts.map (·.name))[earlier]? = (artifacts.map (·.name))[place]? := by
      simpa [inside, Nat.lt_trans before inside] using same
    have := (List.getElem?_inj (by simp; omega) distinct).mp equal
    omega

/-- A task needs those at the places of what its artifact depends on. -/
theorem needs_iff {task need : Nat} :
    (graph artifacts).Needs task need ↔
      ∃ a b, artifacts[task]? = some a ∧ artifacts[need]? = some b ∧ a.DependsOn b.name := by
  have row : (graph artifacts).needsOf task =
      ((artifacts[task]?.map fun a => a.dependencies.filterMap (place? artifacts)).getD []) := by
    simp [graph, Graph.needsOf]
  rw [Graph.Needs, row]
  cases there : artifacts[task]? with
  | none => simp
  | some a =>
      simp only [Option.map_some, Option.getD_some, List.mem_filterMap, place?_eq_some_iff distinct,
        Artifact.mem_dependencies, Option.some.injEq]
      constructor
      · rintro ⟨_, depends, b, found, rfl⟩
        exact ⟨a, b, rfl, found, depends⟩
      · rintro ⟨_, b, rfl, found, depends⟩
        exact ⟨b.name, depends, b, found, rfl⟩

theorem proper_graph : (graph artifacts).Proper where
  bounded task need needed := by
    obtain ⟨-, b, -, found, -⟩ := (needs_iff distinct).mp needed
    rw [size_graph]
    exact (List.getElem?_eq_some_iff.mp found).1
  nodup task := by
    simp only [graph, Graph.needsOf, List.getD_eq_getElem?_getD, List.getElem?_map]
    cases artifacts[task]? with
    | none => exact List.nodup_nil
    | some a =>
        refine (nodup_distinct _).filterMap fun name other place found again => ?_
        obtain ⟨b, there, named⟩ := (place?_eq_some_iff distinct).mp found
        obtain ⟨c, there', named'⟩ := (place?_eq_some_iff distinct).mp again
        rw [there] at there'
        cases there'
        exact named.symm.trans named'

theorem placeOf_eq {place : Nat} {a : Artifact} (there : artifacts[place]? = some a) :
    placeOf artifacts a.name = place := by
  rw [placeOf, (place?_eq_some_iff distinct).mpr ⟨a, there, rfl⟩, Option.getD_some]

/-- The artifact at a place depends on those at the places that it needs. -/
theorem edge_of_needs {task need : Nat} (needed : (graph artifacts).Needs task need) :
    Edge artifacts (nameAt artifacts task) (nameAt artifacts need) := by
  obtain ⟨a, b, there, found, depends⟩ := (needs_iff distinct).mp needed
  rw [nameAt_eq there, nameAt_eq found]
  exact ⟨a, List.mem_of_getElem? there, rfl, depends⟩

end Distinct

section Declared

variable (distinct : (artifacts.map (·.name)).Nodup)
  (declared : ∀ a ∈ artifacts, ∀ name, a.DependsOn name → ∃ b ∈ artifacts, b.name = name)

include distinct declared

/-- A task is available where the artifact at its place is ready. -/
theorem available_iff {placed : List Nat} {place : Nat} :
    (graph artifacts).Available placed place ↔
      place ∉ placed ∧ ∃ a, artifacts[place]? = some a ∧ Ready artifacts placed a := by
  have needs : ∀ a, artifacts[place]? = some a →
      ((∀ need ∈ (graph artifacts).needsOf place, need ∈ placed) ↔ Ready artifacts placed a) := by
    intro a there
    constructor
    · intro all name depends
      obtain ⟨b, member, rfl⟩ := declared a (List.mem_of_getElem? there) name depends
      obtain ⟨need, found⟩ := List.getElem?_of_mem member
      exact ⟨need, all need ((needs_iff distinct).mpr ⟨a, b, there, found, depends⟩), b, found, rfl⟩
    · intro ready need needed
      obtain ⟨_, b, there', found, depends⟩ := (needs_iff distinct).mp needed
      cases there.symm.trans there'
      obtain ⟨earlier, member, c, found', same⟩ := ready b.name depends
      have atNeed := (place?_eq_some_iff distinct).mpr ⟨b, found, rfl⟩
      have atEarlier := (place?_eq_some_iff distinct).mpr ⟨c, found', same⟩
      cases atNeed.symm.trans atEarlier
      exact member
  rw [Graph.Available, size_graph]
  constructor
  · rintro ⟨inside, free, all⟩
    exact ⟨free, artifacts[place], by simp [inside], (needs _ (by simp [inside])).mp all⟩
  · rintro ⟨free, a, there, ready⟩
    exact ⟨(List.getElem?_eq_some_iff.mp there).1, free, (needs a there).mpr ready⟩

/-- The orders of the graph are those in which dependencies come first. -/
theorem arranged_iff {places : List Nat} :
    (graph artifacts).Arranged places ↔ DependenciesFirst artifacts places := by
  constructor
  · rintro ⟨complete, available⟩
    rw [size_graph] at complete
    refine ⟨complete, fun before place after a split there => ?_⟩
    obtain ⟨-, b, there', ready⟩ :=
      (available_iff distinct declared).mp (available before place after split)
    cases there.symm.trans there'
    exact ready
  · rintro ⟨complete, behind⟩
    refine ⟨by rwa [size_graph], fun before place after split => ?_⟩
    have nodup : places.Nodup := complete.nodup_iff.mpr List.nodup_range
    have inside : place < artifacts.length :=
      List.mem_range.mp (complete.mem_iff.mp (by simp [split]))
    refine (available_iff distinct declared).mpr
      ⟨?_, artifacts[place], by simp [inside], behind before place after _ split (by simp [inside])⟩
    rw [split, List.nodup_append] at nodup
    exact fun member => nodup.2.2 place member place (List.mem_cons_self ..) rfl

/-- What an artifact depends on is at a place that its own place needs. -/
theorem needs_of_edge {dependent dependency : String} (edge : Edge artifacts dependent dependency) :
    (graph artifacts).Needs (placeOf artifacts dependent) (placeOf artifacts dependency) := by
  obtain ⟨a, member, rfl, depends⟩ := edge
  obtain ⟨b, member', rfl⟩ := declared a member dependency depends
  obtain ⟨task, there⟩ := List.getElem?_of_mem member
  obtain ⟨need, found⟩ := List.getElem?_of_mem member'
  have atTask : placeOf artifacts a.name = task := placeOf_eq distinct there
  have atNeed : placeOf artifacts b.name = need := placeOf_eq distinct found
  rw [atTask, atNeed]
  exact (needs_iff distinct).mpr ⟨a, b, there, found, depends⟩

theorem acyclic_iff :
    (∀ task, ¬ TransGen (graph artifacts).Needs task task) ↔
      ∀ name, ¬ TransGen (Edge artifacts) name name := by
  constructor
  · intro acyclic name cycle
    exact acyclic _ (cycle.lift (placeOf artifacts) fun _ _ => needs_of_edge distinct declared)
  · intro acyclic task cycle
    exact acyclic _ (cycle.lift (nameAt artifacts) fun _ _ => edge_of_needs distinct)

end Declared

/-! ## Plans -/

@[simp] theorem artifacts_ofArtifacts (artifacts : List Artifact) :
    (ofArtifacts artifacts).artifacts = artifacts := by
  refine List.ext_getElem (by simp [ofArtifacts, Plan.artifacts]) fun place _ _ => ?_
  simp [ofArtifacts, Plan.artifacts]

theorem index_ofArtifacts (artifacts : List Artifact) :
    (ofArtifacts artifacts).steps.map (·.index) = List.range artifacts.length := by
  refine List.ext_getElem (by simp [ofArtifacts]) fun place _ _ => ?_
  simp [ofArtifacts]

/-- Every place inside picks its artifact. -/
theorem pick_map_some (artifacts : List Artifact) {places : List Nat}
    (inside : ∀ place ∈ places, place < artifacts.length) :
    (pick artifacts places).map some = places.map (artifacts[·]?) := by
  induction places with
  | nil => rfl
  | cons first rest ih =>
      obtain ⟨here, others⟩ := List.forall_mem_cons.mp inside
      have there : artifacts[first]? = some artifacts[first] := by simp [here]
      simpa [pick, there] using ih others

/-- Where the artifacts at some places are cut, the places are. -/
theorem split_places {places : List Nat} (inside : ∀ place ∈ places, place < artifacts.length)
    {before after : List Artifact} {a : Artifact}
    (split : pick artifacts places = before ++ a :: after) :
    ∃ front place back, places = front ++ place :: back ∧ artifacts[place]? = some a ∧
      front.map (artifacts[·]?) = before.map some := by
  have same := pick_map_some artifacts inside
  rw [split, List.map_append, List.map_cons, eq_comm] at same
  obtain ⟨front, rest, rfl, atFront, atRest⟩ := List.map_eq_append_iff.mp same
  obtain ⟨place, back, rfl, there, -⟩ := List.map_eq_cons_iff.mp atRest
  exact ⟨front, place, back, rfl, there, atFront⟩

theorem pick_range : pick artifacts (List.range artifacts.length) = artifacts := by
  have := pick_map_some artifacts (fun place => List.mem_range.mp)
  refine List.map_injective_iff.mpr (Option.some_injective Artifact) ?_
  rw [this]
  exact List.ext_getElem? fun place => by
    by_cases inside : place < artifacts.length <;> simp [inside]

/-- A plan is made from an order of the graph, once the checks have passed. -/
theorem build_eq_ok_iff {plan : Plan} :
    build artifacts = .ok plan ↔ check artifacts = .ok () ∧
      ∃ places, (graph artifacts).order = .ok places ∧
        plan = ofArtifacts (pick artifacts places) := by
  rw [build, Checked.after_eq_ok]
  cases (graph artifacts).order <;>
    simp [throw, throwThe, MonadExceptOf.throw, pure, Except.pure, eq_comm]

/-- A fault is one of the checks, or else a cycle. -/
theorem build_eq_error_iff {fault : Fault} :
    build artifacts = .error fault ↔ check artifacts = .error fault ∨
      check artifacts = .ok () ∧
        ∃ blocked, (graph artifacts).order = .error blocked ∧
          fault = .cyclic ((pick artifacts blocked).map (·.name)) := by
  rw [build, Checked.after_eq_error]
  cases (graph artifacts).order <;>
    simp [throw, throwThe, MonadExceptOf.throw, pure, Except.pure, eq_comm]

/-- The checks pass exactly on the graphs that are well formed but for cycles. -/
theorem check_passes_iff :
    check artifacts = .ok () ↔ (artifacts.map (·.name)).Nodup ∧
      (∀ a ∈ artifacts, ∀ name, a.DependsOn name → ∃ b ∈ artifacts, b.name = name) ∧
      ∀ a ∈ artifacts, ∀ name ∈ a.libraries, ∀ b ∈ artifacts, b.name = name → b.kind = .library := by
  rw [check_eq_ok_iff]
  simp only [forall_not_artifactFault]
  refine and_congr_right fun _ => ?_
  constructor
  · intro sound
    refine ⟨fun a member name depends => ?_, fun a member name linked => ?_⟩
    · rcases depends with linked | referred
      · exact ((sound a member).1 name linked).1
      · exact (sound a member).2 name referred
    · exact ((sound a member).1 name linked).2
  · rintro ⟨declared, libraries⟩ a member
    exact ⟨fun name linked => ⟨declared a member name (Or.inl linked), libraries a member name linked⟩,
      fun name referred => declared a member name (Or.inr referred)⟩

/-- What the plan of a graph is: its artifacts in the lowest order of their places. -/
theorem places_of_build {plan : Plan} (built : build artifacts = .ok plan) :
    ∃ places, plan = ofArtifacts (pick artifacts places) ∧
      (graph artifacts).Arranged places ∧ Stepwise (graph artifacts).Lowest places := by
  obtain ⟨passed, places, found, rfl⟩ := build_eq_ok_iff.mp built
  have distinct := (check_passes_iff.mp passed).1
  obtain ⟨arranged, lowest⟩ := Graph.arranged_of_order (proper_graph distinct) found
  exact ⟨places, rfl, arranged, lowest⟩

theorem DependenciesFirst.inside {places : List Nat} (first : DependenciesFirst artifacts places) :
    ∀ place ∈ places, place < artifacts.length := fun _ member =>
  List.mem_range.mp (first.complete.mem_iff.mp member)

section Built

variable {plan : Plan} (built : build artifacts = .ok plan)

include built

/-- The artifacts of a plan stand in an order with dependencies first. -/
theorem order_of_build :
    ∃ places, plan = ofArtifacts (pick artifacts places) ∧ DependenciesFirst artifacts places := by
  obtain ⟨places, rfl, arranged, -⟩ := places_of_build built
  obtain ⟨distinct, declared, -⟩ := check_passes_iff.mp (build_eq_ok_iff.mp built).1
  exact ⟨places, rfl, (arranged_iff distinct declared).mp arranged⟩

theorem perm_of_build : plan.artifacts.Perm artifacts := by
  obtain ⟨places, rfl, first⟩ := order_of_build built
  have listed := first.complete.filterMap fun place => artifacts[place]?
  rw [artifacts_ofArtifacts]
  exact listed.trans (by rw [← pick, pick_range])

theorem nodup_of_build : plan.names.Nodup :=
  ((perm_of_build built).map _).nodup_iff.mpr
    (check_passes_iff.mp (build_eq_ok_iff.mp built).1).1

/-- In a plan, each artifact stands behind what it depends on. -/
theorem behind_of_build (before : List Step) (step : Step) (after : List Step)
    (split : plan.steps = before ++ step :: after) (name : String)
    (depends : step.artifact.DependsOn name) : ∃ earlier ∈ before, earlier.artifact.name = name := by
  obtain ⟨places, rfl, first⟩ := order_of_build built
  have cut : pick artifacts places =
      before.map (·.artifact) ++ step.artifact :: after.map (·.artifact) := by
    rw [← artifacts_ofArtifacts (pick artifacts places), Plan.artifacts, split]
    simp
  obtain ⟨front, place, back, rfl, there, atFront⟩ := split_places first.inside cut
  obtain ⟨earlier, member, b, found, named⟩ := first.behind front place back _ rfl there name depends
  have inBefore : some b ∈ (before.map (·.artifact)).map some := by
    rw [← atFront, List.mem_map]
    exact ⟨earlier, member, found⟩
  obtain ⟨earlierStep, member', rfl⟩ : ∃ s ∈ before, s.artifact = b := by simpa using inBefore
  exact ⟨earlierStep, member', named⟩

end Built

/-- A graph that passes the checks has a plan exactly when it has no cycle. -/
theorem order_iff_acyclic (passed : check artifacts = .ok ()) :
    (∃ places, (graph artifacts).order = .ok places) ↔
      ∀ name, ¬ TransGen (Edge artifacts) name name := by
  obtain ⟨distinct, declared, -⟩ := check_passes_iff.mp passed
  rw [Graph.order_eq_ok_iff (proper_graph distinct), acyclic_iff distinct declared]

theorem build_ok_iff : (∃ plan, build artifacts = .ok plan) ↔ WellFormed artifacts := by
  constructor
  · rintro ⟨plan, built⟩
    obtain ⟨passed, places, found, -⟩ := build_eq_ok_iff.mp built
    obtain ⟨distinct, declared, libraries⟩ := check_passes_iff.mp passed
    exact ⟨distinct, declared, libraries, (order_iff_acyclic passed).mp ⟨places, found⟩⟩
  · rintro ⟨distinct, declared, libraries, acyclic⟩
    have passed := check_passes_iff.mpr ⟨distinct, declared, libraries⟩
    obtain ⟨places, found⟩ := (order_iff_acyclic passed).mpr acyclic
    exact ⟨_, build_eq_ok_iff.mpr ⟨passed, places, found, rfl⟩⟩

/-- A fault other than a cycle is one of the checks. -/
theorem build_eq_error_of_check {fault : Fault} (other : ∀ names, fault ≠ .cyclic names) :
    build artifacts = .error fault ↔ check artifacts = .error fault := by
  rw [build_eq_error_iff]
  constructor
  · rintro (failed | ⟨-, blocked, -, same⟩)
    · exact failed
    · exact absurd same (other _)
  · exact Or.inl

theorem build_cyclic_iff :
    (∃ names, build artifacts = .error (.cyclic names)) ↔
      check artifacts = .ok () ∧ ∃ name, TransGen (Edge artifacts) name name := by
  have noCheck : ∀ names, check artifacts ≠ .error (.cyclic names) := by
    intro names failed
    rcases check_eq_error_iff.mp failed with ⟨_, same, -⟩ | ⟨-, _, a, _, -, -, found⟩
    · cases same
    · rcases found.shape with ⟨_, same⟩ | ⟨_, same⟩ <;> cases same
  simp only [build_eq_error_iff, noCheck, false_or]
  constructor
  · rintro ⟨names, passed, blocked, failed, -⟩
    refine ⟨passed, ?_⟩
    by_contra acyclic
    obtain ⟨places, found⟩ := (order_iff_acyclic passed).mpr (not_exists.mp acyclic)
    rw [found] at failed
    cases failed
  · rintro ⟨passed, name, cycle⟩
    cases found : (graph artifacts).order with
    | ok places => exact absurd cycle ((order_iff_acyclic passed).mp ⟨places, found⟩ name)
    | error blocked => exact ⟨_, passed, blocked, rfl, rfl⟩

/-! ## Main results -/

/-- What makes a plan the right one for some artifacts. -/
structure Least (artifacts : List Artifact) (plan : Plan) : Prop where
  /-- The steps are numbered from zero. -/
  numbered : plan.steps.map (·.index) = List.range artifacts.length
  /-- Every artifact is in it as often as it is declared, and nothing else. -/
  complete : plan.artifacts.Perm artifacts
  /-- No name is in it twice. -/
  distinct : plan.names.Nodup
  /-- Each artifact stands behind what it links and what its constructor refers to. -/
  behind : ∀ before step after, plan.steps = before ++ step :: after →
    ∀ name, name ∈ step.artifact.libraries ∨ name ∈ step.artifact.references →
      ∃ earlier ∈ before, earlier.artifact.name = name
  /-- By places of declaration, it comes before every other order with dependencies first,
  and at every position stands the first artifact whose dependencies are all placed. -/
  least : ∃ places, places.map (artifacts[·]?) = plan.artifacts.map some ∧
    DependenciesFirst artifacts places ∧
    (∀ other, DependenciesFirst artifacts other → other ≠ places → List.Lex (· < ·) places other) ∧
    ∀ before place after, places = before ++ place :: after →
      ∀ other a, other ∉ before → artifacts[other]? = some a → Ready artifacts before a →
        place ≤ other

/-- **The plan of a graph is its first order with dependencies first.** -/
theorem build_least {plan : Plan} (built : build artifacts = .ok plan) : Least artifacts plan := by
  obtain ⟨places, rfl, arranged, lowest⟩ := places_of_build built
  obtain ⟨distinct, declared, -⟩ := check_passes_iff.mp (build_eq_ok_iff.mp built).1
  have first := (arranged_iff distinct declared).mp arranged
  refine ⟨?_, perm_of_build built, nodup_of_build built, behind_of_build built,
    places, by simpa using (pick_map_some artifacts first.inside).symm, first,
    fun other others differ => ?_, fun before place after split other a free there ready => ?_⟩
  · have complete := (perm_of_build built).length_eq
    rw [artifacts_ofArtifacts] at complete
    rw [index_ofArtifacts, complete]
  · exact Graph.lex_of_lowest arranged lowest ((arranged_iff distinct declared).mpr others) differ
  · exact lowest before place after split other
      ((available_iff distinct declared).mpr ⟨free, a, there, ready⟩)

/-- A contract that is declared before all it needs, some of it more than once, is
deployed last. -/
theorem build_least_declared_late :
    let artifacts : List Artifact :=
      [(((Artifact.contract "App").linking "Math").withArgument (.artifact "Token")).withArgument
          (.artifact "Math"),
        (Artifact.contract "Token").linking "Math", .library "Codec",
        (Artifact.library "Math").linking "Codec"]
    ∃ plan, build artifacts = .ok plan ∧ plan.names = ["Codec", "Math", "Token", "App"] ∧
      Least artifacts plan :=
  ⟨_, rfl, rfl, build_least rfl⟩

/-- **Exactly the well-formed graphs have a plan**, and the others are refused for their
first fault: a repeated name, then a faulty dependency, then a cycle. -/
theorem build_decides (artifacts : List Artifact) :
    ((∃ plan, build artifacts = .ok plan) ↔ WellFormed artifacts) ∧
      (∀ name, build artifacts = .error (.duplicate name) ↔
        FirstRepeated (artifacts.map (·.name)) name) ∧
      (∀ dependent dependency, build artifacts = .error (.unknownDependency dependent dependency) ↔
        (artifacts.map (·.name)).Nodup ∧
          DependencyFault artifacts (.unknownDependency dependent dependency)) ∧
      (∀ dependent library, build artifacts = .error (.notALibrary dependent library) ↔
        (artifacts.map (·.name)).Nodup ∧
          DependencyFault artifacts (.notALibrary dependent library)) ∧
      ((∃ names, build artifacts = .error (.cyclic names)) ↔
        (artifacts.map (·.name)).Nodup ∧
          (∀ a ∈ artifacts, ∀ fault, ¬ ArtifactFault artifacts a fault) ∧
          ∃ name, TransGen (Edge artifacts) name name) := by
  refine ⟨build_ok_iff, fun name => ?_, fun dependent dependency => ?_,
    fun dependent library => ?_, ?_⟩
  · rw [build_eq_error_of_check (by simp), check_eq_error_iff]
    constructor
    · rintro (⟨_, same, first⟩ | ⟨-, _, a, _, -, -, found⟩)
      · cases same
        exact first
      · rcases found.shape with ⟨_, same⟩ | ⟨_, same⟩ <;> cases same
    · exact fun first => Or.inl ⟨name, rfl, first⟩
  · rw [build_eq_error_of_check (by simp), check_eq_error_iff]
    simp
  · rw [build_eq_error_of_check (by simp), check_eq_error_iff]
    simp
  · rw [build_cyclic_iff, check_eq_ok_iff, and_assoc]

end Plan

end Rollout
