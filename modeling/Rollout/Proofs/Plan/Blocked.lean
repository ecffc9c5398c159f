/-
# Rollout.Proofs.Plan.Blocked — which artifacts a cycle keeps from being placed

When the queue has no ready task left, the tasks that are not placed are those that still wait
for another.  A task that is placed has all its needs before it, so it reaches no cycle; one that
is not misses a need that is not placed either, and following these leads to a cycle
(`Graph.mem_blocked_iff`).  So the artifacts that a cyclic graph is refused with are those from
which a cycle is reached, in their order of declaration (`build_blocked`).
-/
import Rollout.Proofs.Plan.Building

namespace Rollout.Plan

set_option autoImplicit false

open Relation

/-! ## Cycles -/

section Reaching

variable {α β : Type} {needs : α → α → Prop} {needs' : β → β → Prop}

/-- Following needs from something, directly or through others, leads to a cycle; it does from
what is on one. -/
def ReachesCycle (needs : α → α → Prop) (a : α) : Prop :=
  ∃ other, ReflTransGen needs a other ∧ TransGen needs other other

/-- What reaches a cycle needs something. -/
theorem ReachesCycle.exists_need {a : α} (reaches : ReachesCycle needs a) : ∃ b, needs a b := by
  obtain ⟨other, chain, cycle⟩ := reaches
  obtain ⟨next, needed, -⟩ := TransGen.head'_iff.mp (TransGen.trans_right chain cycle)
  exact ⟨next, needed⟩

/-- Where needs are carried over, chains and cycles are. -/
theorem ReachesCycle.lift {a : α} (reaches : ReachesCycle needs a) (f : α → β)
    (carried : ∀ x y, needs x y → needs' (f x) (f y)) : ReachesCycle needs' (f a) := by
  obtain ⟨other, chain, cycle⟩ := reaches
  exact ⟨f other, chain.lift f carried, cycle.lift f carried⟩

end Reaching

/-! ## Tasks -/

namespace Graph

variable {g : Graph} {blocked placed : List Nat}

theorem not_reachesCycle_of_placed (available : Stepwise g.Available placed) {task : Nat}
    (member : task ∈ placed) : ¬ ReachesCycle g.Needs task := by
  rintro ⟨other, chain, cycle⟩
  have reached : other ∈ placed := by
    clear cycle
    induction chain with
    | refl => exact member
    | tail _ needed ih => exact needs_placed available ih needed
  obtain ⟨before, after, split⟩ := List.append_of_mem reached
  exact (available before other after split).2.1 (before_of_needs available split cycle)

/-- A task waits for another exactly when it is not placed, once nothing is available. -/
theorem missing_pos_iff (available : Stepwise g.Available placed)
    (stuck : ∀ task, ¬ g.Available placed task) {task : Nat} (inside : task < g.size) :
    0 < g.missing placed task ↔ task ∉ placed := by
  rw [Nat.pos_iff_ne_zero, ne_eq, missing_eq_zero]
  constructor
  · intro waits member
    exact waits fun need needed => needs_placed available member needed
  · intro unplaced needs
    exact stuck task ⟨inside, unplaced, needs⟩

theorem exists_blocked (proper : g.Proper) (failed : g.order = .error blocked) :
    ∃ placed, Stepwise g.Available placed ∧ (∀ task, ¬ g.Available placed task) ∧
      blocked = (List.range g.size).filter fun task => 0 < g.missing placed task := by
  obtain ⟨placed, available, -, ran, stuck⟩ := exists_run proper
  refine ⟨placed, available, stuck, ?_⟩
  simp only [Graph.order, ran] at failed
  split at failed
  next => cases failed
  next =>
    obtain rfl := Except.error.inj failed
    have count : (Queue.behind g placed).waiting.length = g.size := by simp [Queue.behind]
    rw [Queue.blocked, count]
    refine List.filter_congr fun task member => ?_
    rw [Queue.behind_waitingFor (List.mem_range.mp member)]

/-- They are told in increasing order. -/
theorem blocked_sublist (proper : g.Proper) (failed : g.order = .error blocked) :
    blocked.Sublist (List.range g.size) := by
  obtain ⟨placed, -, -, rfl⟩ := exists_blocked proper failed
  exact List.filter_sublist

/-- **The tasks that are told are those that reach a cycle.** -/
theorem mem_blocked_iff (proper : g.Proper) (failed : g.order = .error blocked) {task : Nat} :
    task ∈ blocked ↔ task < g.size ∧ ReachesCycle g.Needs task := by
  obtain ⟨placed, available, stuck, rfl⟩ := exists_blocked proper failed
  rw [List.mem_filter, List.mem_range, decide_eq_true_eq]
  refine and_congr_right fun inside => ?_
  rw [missing_pos_iff available stuck inside]
  constructor
  · intro unplaced
    exact reaches_cycle_of_stuck proper stuck inside unplaced
  · intro reaches member
    exact not_reachesCycle_of_placed available member reaches

end Graph

/-! ## Names -/

variable {artifacts : List Artifact} {names : List String}

section Declared

variable (distinct : (artifacts.map (·.name)).Nodup)

include distinct

/-- The names at blocked places stand in order of declaration. -/
theorem names_sublist {blocked : List Nat} (failed : (graph artifacts).order = .error blocked) :
    ((pick artifacts blocked).map (·.name)).Sublist (artifacts.map (·.name)) := by
  have places := Graph.blocked_sublist (proper_graph distinct) failed
  rw [size_graph] at places
  have picked : (pick artifacts blocked).Sublist (pick artifacts (List.range artifacts.length)) :=
    places.filterMap _
  rw [pick_range] at picked
  exact picked.map _

variable (declared : ∀ a ∈ artifacts, ∀ name, a.DependsOn name → ∃ b ∈ artifacts, b.name = name)

include declared

/-- A place reaches a cycle exactly when the name of its artifact does. -/
theorem reachesCycle_iff {place : Nat} {a : Artifact} (there : artifacts[place]? = some a) :
    ReachesCycle (graph artifacts).Needs place ↔ ReachesCycle (Edge artifacts) a.name := by
  constructor
  · intro reaches
    rw [← nameAt_eq there]
    exact reaches.lift _ fun _ _ => edge_of_needs distinct
  · intro reaches
    rw [← placeOf_eq distinct there]
    exact reaches.lift _ fun _ _ => needs_of_edge distinct declared

/-- The names at blocked places are those from which a cycle is reached. -/
theorem mem_names_iff {blocked : List Nat} (failed : (graph artifacts).order = .error blocked)
    (name : String) :
    name ∈ (pick artifacts blocked).map (·.name) ↔ ReachesCycle (Edge artifacts) name := by
  simp only [pick, List.mem_map, List.mem_filterMap,
    Graph.mem_blocked_iff (proper_graph distinct) failed]
  constructor
  · rintro ⟨a, ⟨place, ⟨-, reaches⟩, there⟩, rfl⟩
    exact (reachesCycle_iff distinct declared there).mp reaches
  · intro reaches
    obtain ⟨_, a, member, rfl, -⟩ := reaches.exists_need
    obtain ⟨place, there⟩ := List.getElem?_of_mem member
    have inside : place < (graph artifacts).size := by
      rw [size_graph]
      exact (List.getElem?_eq_some_iff.mp there).1
    exact ⟨a, ⟨place, ⟨inside, (reachesCycle_iff distinct declared there).mpr reaches⟩, there⟩, rfl⟩

end Declared

/-- What the names of blocked artifacts have to be. -/
structure Blocked (artifacts : List Artifact) (names : List String) : Prop where
  some : names ≠ []
  /-- They stand in order of declaration. -/
  ordered : names.Sublist (artifacts.map (·.name))
  distinct : names.Nodup
  /-- They are those from which a cycle is reached. -/
  reaching : ∀ name, name ∈ names ↔ ReachesCycle (Edge artifacts) name
  /-- None is among them that depends on no cycle, directly or through others. -/
  free : ∀ a ∈ artifacts,
    (∀ other, ReflTransGen (Edge artifacts) a.name other → ¬ TransGen (Edge artifacts) other other) →
      a.name ∉ names

/-- **A cyclic graph is refused with the artifacts that reach a cycle.** -/
theorem build_blocked (refused : build artifacts = .error (.cyclic names)) :
    Blocked artifacts names := by
  obtain ⟨passed, cyclic, cycle⟩ := build_cyclic_iff.mp ⟨names, refused⟩
  obtain ⟨distinct, declared, -⟩ := check_passes_iff.mp passed
  rcases build_eq_error_iff.mp refused with failed | ⟨-, blocked, failed, same⟩
  · rw [passed] at failed
    cases failed
  · obtain rfl := Fault.cyclic.inj same
    have ordered := names_sublist distinct failed
    have reaching := mem_names_iff distinct declared failed
    refine ⟨?_, ordered, distinct.sublist ordered, reaching, ?_⟩
    · intro empty
      have member := (reaching cyclic).mpr ⟨cyclic, .refl, cycle⟩
      rw [empty] at member
      cases member
    · intro a _ free member
      obtain ⟨other, chain, cycle⟩ := (reaching a.name).mp member
      exact free other chain cycle

/-- Two artifacts that refer to each other block a third that refers to one of them; a library
that all of them link is not blocked. -/
theorem build_blocked_pair :
    let artifacts : List Artifact :=
      [((Artifact.contract "Shop").linking "Math").withArgument (.artifact "Left"),
        .library "Math",
        ((Artifact.contract "Right").linking "Math").withArgument (.artifact "Left"),
        ((Artifact.contract "Left").linking "Math").withArgument (.artifact "Right")]
    build artifacts = .error (.cyclic ["Shop", "Right", "Left"]) ∧
      Blocked artifacts ["Shop", "Right", "Left"] :=
  ⟨rfl, build_blocked rfl⟩

end Rollout.Plan
