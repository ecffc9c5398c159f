/-
# Rollout.Proofs.Plan.Order — when tasks can be put in order, and in which

`Graph.order` succeeds exactly on graphs without cycles (`order_eq_ok_iff`).  Its
answer has every task once, behind all it needs, and comes first in the
lexicographic order among all such sequences (`lex_of_lowest`).  On a graph with a
cycle it names the tasks from which a cycle is reached.
-/
import Mathlib.Data.Fintype.Card
import Mathlib.Data.Fintype.EquivFin
import Mathlib.Logic.Relation
import Mathlib.Order.WellFounded
import Rollout.Proofs.Plan.Queue

namespace Rollout.Plan.Graph

set_option autoImplicit false

open Relation

/-- One task needs another. -/
def Needs (g : Graph) (task need : Nat) : Prop := need ∈ g.needsOf task

/-- All tasks, each once and behind those that it needs. -/
structure Arranged (g : Graph) (order : List Nat) : Prop where
  complete : order.Perm (List.range g.size)
  available : Stepwise g.Available order

variable {g : Graph} {order : List Nat}

/-! ## Sequences of available tasks -/

theorem nodup_of_available (available : Stepwise g.Available order) : order.Nodup := by
  induction order using List.reverseRecOn with
  | nil => exact List.nodup_nil
  | append_singleton front last ih =>
      obtain ⟨before, atLast⟩ := stepwise_snoc.mp available
      exact List.nodup_append.mpr ⟨ih before, List.nodup_singleton last,
        fun task member other same => fun equal =>
          atLast.2.1 (List.mem_singleton.mp same ▸ equal ▸ member)⟩

theorem lt_size_of_available (available : Stepwise g.Available order) {task : Nat}
    (member : task ∈ order) : task < g.size := by
  obtain ⟨before, after, rfl⟩ := List.append_of_mem member
  exact (available before task after rfl).1

theorem subperm_range (available : Stepwise g.Available order) :
    order.Subperm (List.range g.size) :=
  List.subperm_of_subset (nodup_of_available available) fun _ member =>
    List.mem_range.mpr (lt_size_of_available available member)

/-- As many tasks as there are, each once, are all of them. -/
theorem perm_range_iff (available : Stepwise g.Available order) :
    order.Perm (List.range g.size) ↔ order.length = g.size := by
  constructor
  · intro perm
    simpa using perm.length_eq
  · intro full
    exact (subperm_range available).perm_of_length_le (by simp [full])

/-! ## Cycles -/

/-- Whatever a placed task needs, directly or through others, stands before it. -/
theorem before_of_needs (available : Stepwise g.Available order) {before after : List Nat}
    {task other : Nat} (split : order = before ++ task :: after)
    (chain : TransGen g.Needs task other) : other ∈ before := by
  have front : Stepwise g.Available before := (split ▸ available).front
  induction chain with
  | single needed => exact (available before task after split).2.2 _ needed
  | tail _ needed ih => exact needs_placed front ih needed

/-- A graph whose tasks are all placed has no cycle. -/
theorem acyclic_of_arranged (proper : g.Proper) (arranged : g.Arranged order) (task : Nat) :
    ¬ TransGen g.Needs task task := by
  intro cycle
  have inside : task < g.size := by
    obtain ⟨last, -, needed⟩ := TransGen.tail'_iff.mp cycle
    exact proper.bounded last task needed
  have member : task ∈ order := arranged.complete.mem_iff.mpr (List.mem_range.mpr inside)
  obtain ⟨before, after, split⟩ := List.append_of_mem member
  exact (arranged.available before task after split).2.1
    (before_of_needs arranged.available split cycle)

/-- When nothing is available, a task that is not placed misses one of its needs. -/
theorem exists_missing_need (stuck : ∀ task, ¬ g.Available order task) {task : Nat}
    (inside : task < g.size) (unplaced : task ∉ order) : ∃ need, g.Needs task need ∧ need ∉ order := by
  by_contra none
  push Not at none
  exact stuck task ⟨inside, unplaced, none⟩

/-- When nothing is available, every task that is not placed reaches a cycle: following
missing needs has to come back, because there are finitely many tasks. -/
theorem reaches_cycle_of_stuck (proper : g.Proper) (stuck : ∀ task, ¬ g.Available order task)
    {task : Nat} (inside : task < g.size) (unplaced : task ∉ order) :
    ∃ other, ReflTransGen g.Needs task other ∧ TransGen g.Needs other other := by
  by_contra none
  push Not at none
  let Open := { other : Fin g.size // other.val ∉ order ∧ ReflTransGen g.Needs task other.val }
  let later : Open → Open → Prop := fun b a => TransGen g.Needs a.val.val b.val.val
  have : IsTrans Open later := ⟨fun _ _ _ first second => TransGen.trans second first⟩
  have : Std.Irrefl later := ⟨fun a cycle => none a.val.val a.property.2 cycle⟩
  have founded : WellFounded later := Finite.wellFounded_of_trans_of_irrefl later
  obtain ⟨least, -, minimal⟩ :=
    founded.has_min Set.univ ⟨⟨⟨task, inside⟩, unplaced, .refl⟩, trivial⟩
  obtain ⟨need, needed, missing⟩ :=
    exists_missing_need stuck least.val.isLt least.property.1
  let next : Open := ⟨⟨need, proper.bounded _ need needed⟩, missing, least.property.2.tail needed⟩
  exact minimal next trivial (TransGen.single needed)

/-! ## The lowest order -/

/-- Of two sequences with one front, the one that always takes the lowest available task
comes first. -/
theorem lex_of_lowest_from (front : List Nat) {order other : List Nat}
    (lowest : Stepwise g.Lowest (front ++ order)) (available : Stepwise g.Available (front ++ other))
    (sameLength : order.length = other.length) (differ : other ≠ order) :
    List.Lex (· < ·) order other := by
  induction order generalizing front other with
  | nil => exact absurd (List.length_eq_zero_iff.mp sameLength.symm) differ
  | cons first rest ih =>
      cases other with
      | nil => simp at sameLength
      | cons first' rest' =>
          have least : first ≤ first' :=
            lowest front first rest rfl first' (available front first' rest' rfl)
          rcases Nat.lt_or_eq_of_le least with smaller | rfl
          · exact .rel smaller
          · refine .cons (ih (front ++ [first]) ?_ ?_ (by simpa using sameLength) ?_)
            · simpa using lowest
            · simpa using available
            · exact fun same => differ (by rw [same])

theorem lex_of_lowest {other : List Nat} (arranged : g.Arranged order)
    (lowest : Stepwise g.Lowest order) (others : g.Arranged other) (differ : other ≠ order) :
    List.Lex (· < ·) order other :=
  lex_of_lowest_from [] (by simpa using lowest) (by simpa using others.available)
    (arranged.complete.trans others.complete.symm).length_eq differ

/-! ## What the loop ends with -/

/-- The loop ends with tasks placed in the lowest order behind which nothing is available. -/
theorem exists_run (proper : g.Proper) :
    ∃ order, Stepwise g.Available order ∧ Stepwise g.Lowest order ∧
      Queue.run g g.size (Queue.start g) = Queue.behind g order ∧
      ∀ task, ¬ g.Available order task := by
  obtain ⟨order, available, lowest, ran, ended⟩ :=
    Queue.run_behind proper g.size (stepwise_nil g.Available) (stepwise_nil g.Lowest)
  simp only [List.nil_append] at available lowest ran ended
  refine ⟨order, available, lowest, by rw [Queue.start_eq_behind, ran], fun task free => ?_⟩
  rcases ended with nothing | full
  · have := Queue.mem_behind_ready.mpr free
    simp [nothing] at this
  · have everything := (perm_range_iff available).mpr full
    exact free.2.1 (everything.mem_iff.mpr (List.mem_range.mpr free.1))

/-- The order that is found has every task behind its needs, lowest first. -/
theorem arranged_of_order (proper : g.Proper) (found : g.order = .ok order) :
    g.Arranged order ∧ Stepwise g.Lowest order := by
  obtain ⟨placed, available, lowest, ran, -⟩ := exists_run proper
  simp only [Graph.order, ran, Queue.behind] at found
  split at found
  next full =>
    cases found
    exact ⟨⟨(perm_range_iff available).mpr full, available⟩, lowest⟩
  next => cases found

/-- **An order is found exactly when there is no cycle.** -/
theorem order_eq_ok_iff (proper : g.Proper) :
    (∃ order, g.order = .ok order) ↔ ∀ task, ¬ TransGen g.Needs task task := by
  constructor
  · rintro ⟨order, found⟩
    exact acyclic_of_arranged proper (arranged_of_order proper found).1
  · intro acyclic
    obtain ⟨placed, available, -, ran, stuck⟩ := exists_run proper
    have everything : placed.Perm (List.range g.size) := by
      refine (List.perm_ext_iff_of_nodup (nodup_of_available available) List.nodup_range).mpr
        fun task => ⟨fun member => List.mem_range.mpr (lt_size_of_available available member),
          fun inside => ?_⟩
      by_contra unplaced
      obtain ⟨other, -, cycle⟩ :=
        reaches_cycle_of_stuck proper stuck (List.mem_range.mp inside) unplaced
      exact acyclic other cycle
    refine ⟨placed, ?_⟩
    simp [Graph.order, ran, Queue.behind, (perm_range_iff available).mp everything]

end Rollout.Plan.Graph
