/-
# Rollout.Proofs.Plan.Removal — plans without an artifact that nobody depends on

A task that no other needs keeps none of them waiting.  Without it the tasks behind it move up
by one place, but what is available and which task is the lowest stay what they were
(`Graph.Without.available_iff`).  So the lowest order is the lowest order of all tasks with the
one task left out (`Graph.Without.map_shift_order`), and the plan is the plan with the one artifact
left out (`build_without`).
-/
import Rollout.Proofs.Plan.Reordering

namespace Rollout.Plan

set_option autoImplicit false

open Relation

/-! ## Places beside a gap -/

/-- Where a place goes when another is put in at `gap`. -/
def shift (gap place : Nat) : Nat := if place < gap then place else place + 1

section Shift

variable {gap place other size : Nat}

theorem shift_ne (gap place : Nat) : shift gap place ≠ gap := by
  unfold shift
  split <;> omega

theorem shift_le_shift_iff : shift gap place ≤ shift gap other ↔ place ≤ other := by
  unfold shift
  split <;> split <;> omega

theorem shift_injective (gap : Nat) : Function.Injective (shift gap) := fun _ _ same =>
  Nat.le_antisymm (shift_le_shift_iff.mp (Nat.le_of_eq same))
    (shift_le_shift_iff.mp (Nat.le_of_eq same.symm))

theorem shift_lt_iff (inside : gap ≤ size) : shift gap place < size + 1 ↔ place < size := by
  unfold shift
  split <;> omega

/-- Every place but the gap is where another goes. -/
theorem exists_shift (different : place ≠ gap) : ∃ source, shift gap source = place := by
  rcases Nat.lt_or_gt_of_ne different with before | behind
  · exact ⟨place, if_pos before⟩
  · refine ⟨place - 1, ?_⟩
    rw [shift, if_neg (by omega)]
    omega

/-- Places other than the gap come from a list of places. -/
theorem exists_map_shift (gap : Nat) (order : List Nat) :
    ∃ smaller : List Nat, smaller.map (shift gap) = order.filter (· ≠ gap) := by
  have all : order.filter (· ≠ gap) ∈ Set.range (List.map (shift gap)) := by
    rw [Set.range_list_map]
    intro place member
    exact exists_shift (by simpa using (List.mem_filter.mp member).2)
  exact all

end Shift

/-! ## Graphs without a task -/

namespace Graph

variable {g g' : Graph} {gap : Nat} {order smaller placed placed' : List Nat}

/-- One graph is the other without the task at `gap`, which no task needs. -/
structure Without (g g' : Graph) (gap : Nat) : Prop where
  size : g.size = g'.size + 1
  inside : gap ≤ g'.size
  needs : ∀ task need, g'.Needs task need ↔ g.Needs (shift gap task) (shift gap need)
  unneeded : ∀ task, ¬ g.Needs task gap

/-- Some tasks are placed in one graph when they are in the other. -/
def PlacedAlike (gap : Nat) (placed placed' : List Nat) : Prop :=
  ∀ task, task ∈ placed' ↔ shift gap task ∈ placed

/-- Cutting an order without the task cuts the order with it. -/
theorem exists_split_of_map_shift (left : smaller.map (shift gap) = order.filter (· ≠ gap))
    {before' after' : List Nat} {task : Nat} (split : smaller = before' ++ task :: after') :
    ∃ before after, order = before ++ shift gap task :: after ∧
      PlacedAlike gap before before' := by
  rw [split, List.map_append, List.map_cons, eq_comm] at left
  obtain ⟨before, rest, rfl, atFront, atRest⟩ := List.filter_eq_append_iff.mp left
  obtain ⟨skipped, after, rfl, gone, -, -⟩ := List.filter_eq_cons_iff.mp atRest
  refine ⟨before ++ skipped, after, by simp, fun other => ?_⟩
  -- What was skipped in front of the task is the gap, where nothing goes.
  have notSkipped : shift gap other ∉ skipped := fun member =>
    gone _ member (by simpa using shift_ne gap other)
  rw [List.mem_append, or_iff_left notSkipped]
  calc other ∈ before'
      ↔ shift gap other ∈ before'.map (shift gap) :=
        (List.mem_map_of_injective (shift_injective gap)).symm
    _ ↔ shift gap other ∈ before := by simp [← atFront, shift_ne]

namespace Without

variable (without : g.Without g' gap)

include without

/-- The same tasks are available. -/
theorem available_iff (alike : PlacedAlike gap placed placed') (task : Nat) :
    g'.Available placed' task ↔ g.Available placed (shift gap task) := by
  have needs : (∀ need ∈ g'.needsOf task, need ∈ placed') ↔
      ∀ need ∈ g.needsOf (shift gap task), need ∈ placed := by
    constructor
    · intro all need needed
      have different : need ≠ gap := fun same => without.unneeded _ (same ▸ needed)
      obtain ⟨source, rfl⟩ := exists_shift different
      exact (alike source).mp (all source ((without.needs task source).mpr needed))
    · intro all need needed
      exact (alike need).mpr (all _ ((without.needs task need).mp needed))
  rw [Available, Available, without.size, shift_lt_iff without.inside, alike task, needs]

/-- A task that is the lowest stays so. -/
theorem lowest_of_lowest (alike : PlacedAlike gap placed placed') {task : Nat}
    (lowest : g.Lowest placed (shift gap task)) : g'.Lowest placed' task := fun other available =>
  shift_le_shift_iff.mp (lowest _ ((without.available_iff alike other).mp available))

/-- The lowest order stays the lowest when the task is left out. -/
theorem arranged_of_map_shift (arranged : g.Arranged order) (lowest : Stepwise g.Lowest order)
    (left : smaller.map (shift gap) = order.filter (· ≠ gap)) :
    g'.Arranged smaller ∧ Stepwise g'.Lowest smaller := by
  have available : Stepwise g'.Available smaller := by
    intro before' task after' split
    obtain ⟨before, after, cut, alike⟩ := exists_split_of_map_shift left split
    exact (without.available_iff alike task).mpr (arranged.available before _ after cut)
  have full : smaller.length = g'.size := by
    have nodup := nodup_of_available arranged.available
    have member : gap ∈ order := by
      have bound := without.inside
      exact arranged.complete.mem_iff.mpr (List.mem_range.mpr (by rw [without.size]; omega))
    have count := congrArg List.length left
    have filtered : order.filter (· ≠ gap) = order.erase gap := by
      rw [nodup.erase_eq_filter]
      exact List.filter_congr fun place _ => Bool.eq_iff_iff.mpr (by simp)
    rw [List.length_map, filtered, List.length_erase_of_mem member,
      (perm_range_iff arranged.available).mp arranged.complete, without.size] at count
    omega
  refine ⟨⟨(perm_range_iff available).mpr full, available⟩, fun before' task after' split => ?_⟩
  obtain ⟨before, after, cut, alike⟩ := exists_split_of_map_shift left split
  exact without.lowest_of_lowest alike (lowest before _ after cut)

/-- **The order without the task is the order with the task left out.** -/
theorem map_shift_order (proper : g.Proper) (proper' : g'.Proper)
    (found : g.order = .ok order) (found' : g'.order = .ok smaller) :
    smaller.map (shift gap) = order.filter (· ≠ gap) := by
  obtain ⟨arranged, lowest⟩ := arranged_of_order proper found
  obtain ⟨arranged', lowest'⟩ := arranged_of_order proper' found'
  obtain ⟨rest, left⟩ := exists_map_shift gap order
  obtain ⟨arranged'', lowest''⟩ := without.arranged_of_map_shift arranged lowest left
  obtain rfl := eq_of_lowest rfl (fun _ _ => Iff.rfl) arranged'' lowest'' arranged' lowest'
  exact left

end Without

end Graph

/-! ## Artifacts -/

section Artifacts

variable {before after : List Artifact} {x : Artifact}

theorem getElem?_shift (before after : List Artifact) (x : Artifact) (place : Nat) :
    (before ++ x :: after)[shift before.length place]? = (before ++ after)[place]? := by
  unfold shift
  split
  next early => rw [List.getElem?_append_left early, List.getElem?_append_left early]
  next late =>
    rw [List.getElem?_append_right (by omega), List.getElem?_append_right (by omega),
      Nat.sub_add_comm (by omega), List.getElem?_cons_succ]

theorem mem_of_mem_without {a : Artifact} (member : a ∈ before ++ after) :
    a ∈ before ++ x :: after := by
  rcases List.mem_append.mp member with early | late
  · exact List.mem_append_left _ early
  · exact List.mem_append_right _ (List.mem_cons_of_mem x late)

variable (unneeded : ∀ a ∈ before ++ after, ¬ a.DependsOn x.name)

include unneeded

theorem wellFormed_without (sound : WellFormed (before ++ x :: after)) :
    WellFormed (before ++ after) where
  distinct := by
    have shorter : (before ++ after).Sublist (before ++ x :: after) :=
      (List.sublist_cons_self x after).append_left before
    exact sound.distinct.sublist (shorter.map _)
  declared := by
    intro a member name depends
    obtain ⟨b, declared, rfl⟩ := sound.declared a (mem_of_mem_without member) name depends
    rcases List.mem_append.mp declared with early | late
    · exact ⟨b, List.mem_append_left _ early, rfl⟩
    · rcases List.mem_cons.mp late with rfl | late
      · exact absurd depends (unneeded a member)
      · exact ⟨b, List.mem_append_right _ late, rfl⟩
  libraries := fun a member name linked b declared named =>
    sound.libraries a (mem_of_mem_without member) name linked b (mem_of_mem_without declared) named
  acyclic := by
    intro name cycle
    refine sound.acyclic name (cycle.lift id ?_)
    rintro dependent dependency ⟨a, member, named, depends⟩
    exact ⟨a, mem_of_mem_without member, named, depends⟩

/-- The graph of the artifacts without one that no other depends on. -/
theorem without_graph (sound : WellFormed (before ++ x :: after)) :
    (graph (before ++ x :: after)).Without (graph (before ++ after)) before.length where
  size := by
    simp only [size_graph, List.length_append, List.length_cons]
    omega
  inside := by
    simp only [size_graph, List.length_append]
    omega
  needs task need := by
    rw [needs_iff (wellFormed_without unneeded sound).distinct, needs_iff sound.distinct]
    simp only [getElem?_shift]
  unneeded := by
    intro task needed
    obtain ⟨a, b, there, found, depends⟩ := (needs_iff sound.distinct).mp needed
    obtain rfl : x = b := by simpa using found
    have listed := List.mem_of_getElem? there
    rcases List.mem_append.mp listed with early | late
    · exact unneeded a (List.mem_append_left _ early) depends
    · rcases List.mem_cons.mp late with rfl | late
      · exact sound.acyclic _ (.single ⟨_, listed, rfl, depends⟩)
      · exact unneeded a (List.mem_append_right _ late) depends

omit unneeded

/-- With distinct names, leaving out a place leaves out a name. -/
theorem pick_filter (distinct : ((before ++ x :: after).map (·.name)).Nodup) (places : List Nat) :
    pick (before ++ x :: after) (places.filter (· ≠ before.length)) =
      (pick (before ++ x :: after) places).filter (·.name ≠ x.name) := by
  rw [pick, pick, List.filterMap_filter, List.filter_filterMap]
  refine List.filterMap_congr fun place _ => ?_
  have atGap : (before ++ x :: after)[before.length]? = some x := by simp
  by_cases same : place = before.length
  · subst same
    rw [atGap]
    simp [Option.filter]
  · cases there : (before ++ x :: after)[place]? with
    | none => simp
    | some a =>
        have different : a.name ≠ x.name := fun named => same <| by
          rw [← placeOf_eq distinct there, named, placeOf_eq distinct atGap]
        simp [Option.filter, same, different]

end Artifacts

/-- **Leaving out an artifact that nobody depends on does not reorder the others.** -/
theorem build_without {before after : List Artifact} {x : Artifact} {plan : Plan}
    (built : build (before ++ x :: after) = .ok plan)
    (unneeded : ∀ a ∈ before ++ after, x.name ∉ a.libraries ∧ x.name ∉ a.references) :
    ∃ smaller, build (before ++ after) = .ok smaller ∧
      smaller.names = plan.names.filter (· ≠ x.name) := by
  have independent : ∀ a ∈ before ++ after, ¬ a.DependsOn x.name := fun a member =>
    not_or.mpr (unneeded a member)
  have sound := build_ok_iff.mp ⟨plan, built⟩
  have sound' := wellFormed_without independent sound
  obtain ⟨smaller, built'⟩ := build_ok_iff.mpr sound'
  refine ⟨smaller, built', ?_⟩
  obtain ⟨-, places, found, rfl⟩ := build_eq_ok_iff.mp built
  obtain ⟨-, places', found', rfl⟩ := build_eq_ok_iff.mp built'
  have left := (without_graph independent sound).map_shift_order (proper_graph sound.distinct)
    (proper_graph sound'.distinct) found found'
  have picked : pick (before ++ after) places' =
      pick (before ++ x :: after) (places'.map (shift before.length)) := by
    simp only [pick, List.filterMap_map, Function.comp_def, getElem?_shift]
  rw [names, names, artifacts_ofArtifacts, artifacts_ofArtifacts, picked, left,
    pick_filter sound.distinct, List.filter_map]
  rfl

/-- An artifact that is deployed between those it does not matter to. -/
theorem build_without_probe :
    let before := [((Artifact.contract "App").linking "Math").withArgument (.artifact "Token")]
    let probe := (Artifact.contract "Probe").linking "Math"
    let after := [Artifact.library "Math", .contract "Token"]
    ∃ plan, build (before ++ probe :: after) = .ok plan ∧
      plan.names = ["Math", "Probe", "Token", "App"] ∧
      (∀ a ∈ before ++ after, probe.name ∉ a.libraries ∧ probe.name ∉ a.references) ∧
      ∃ smaller, build (before ++ after) = .ok smaller ∧
        smaller.names = plan.names.filter (· ≠ probe.name) :=
  ⟨_, rfl, rfl, by decide, build_without rfl (by decide)⟩

end Rollout.Plan
