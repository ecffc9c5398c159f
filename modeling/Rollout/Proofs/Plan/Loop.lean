/-
# Rollout.Proofs.Plan.Loop — what holds at the start of every round

The two tables are filled apart from each other, yet they tell of one graph: what a row of needs
counts, the rows of dependents name (`Tables.ofArtifacts?_eq`).  So a round takes one need off
exactly where one is counted, nothing breaks, and the queue it leaves is the one behind one more
artifact (`Loop.Behind.round_cases`).  Counters, ready places and order are therefore right at
the start of every round, the loop ends when there are no more artifacts at the latest, and what
it ends with decides what is built (`loop_invariant`).
-/
import Mathlib.Data.Finset.Card
import Rollout.Plan
import Rollout.Proofs.Plan.Building

namespace Rollout.Plan

set_option autoImplicit false

/-! ## Filling the tables -/

namespace Tables

/-- Tables with these entries. -/
def tabulate (size : Nat) (degree : Nat → Nat) (row : Nat → List Nat) : Tables :=
  ⟨(List.range size).map degree, (List.range size).map row⟩

/-- The tables of a graph. -/
def ofGraph (g : Graph) : Tables :=
  tabulate g.size (fun task => (g.needsOf task).length) g.dependents

variable {size : Nat} {degree : Nat → Nat} {row : Nat → List Nat}

theorem tabulate_congr {degree' : Nat → Nat} {row' : Nat → List Nat}
    (degrees : ∀ task < size, degree task = degree' task)
    (rows : ∀ task < size, row task = row' task) :
    tabulate size degree row = tabulate size degree' row' := by
  rw [tabulate, tabulate, Tables.mk.injEq]
  exact ⟨List.map_congr_left fun task member => degrees task (List.mem_range.mp member),
    List.map_congr_left fun task member => rows task (List.mem_range.mp member)⟩

theorem blank_eq (size : Nat) : blank size = tabulate size (fun _ => 0) fun _ => [] := by
  simp [blank, tabulate, List.map_const']

theorem set_map_range {α : Type} (f : Nat → α) (place : Nat) (a : α) :
    ((List.range size).map f).set place a =
      (List.range size).map (Function.update f place a) := by
  refine List.ext_getElem (by simp) fun i _ _ => ?_
  by_cases same : place = i
  · subst same
    simp
  · simp [List.getElem_set_ne same, Function.update_of_ne (Ne.symm same)]

/-- One need more of a place is one more that needs the other. -/
theorem note?_tabulate {place need : Nat} (inside : place < size) (bounded : need < size) :
    (tabulate size degree row).note? place need =
      some (tabulate size (Function.update degree place (degree place + 1))
        (Function.update row need (row need ++ [place]))) := by
  simp [note?, tabulate, inside, bounded, set_map_range]

/-- All needs of a place are counted there, and it is put into the row of each. -/
theorem notes_tabulate {place : Nat} (inside : place < size) {needs : List Nat}
    (nodup : needs.Nodup) (bounded : ∀ need ∈ needs, need < size) :
    needs.foldlM (note? place) (tabulate size degree row) =
      some (tabulate size (Function.update degree place (degree place + needs.length))
        fun task => if task ∈ needs then row task ++ [place] else row task) := by
  induction needs generalizing degree row with
  | nil => simp
  | cons first rest ih =>
      obtain ⟨notAgain, restNodup⟩ := List.nodup_cons.mp nodup
      obtain ⟨here, others⟩ := List.forall_mem_cons.mp bounded
      rw [List.foldlM_cons, note?_tabulate inside here]
      refine (ih restNodup others).trans (congrArg some (tabulate_congr ?_ ?_))
      · intro task _
        by_cases same : task = place
        · subst same
          simp [Nat.add_comm, Nat.add_left_comm]
        · simp [same]
      · intro task _
        by_cases same : task = first
        · subst same
          simp [notAgain]
        · simp [same]

end Tables

section Artifacts

variable {artifacts : List Artifact}

theorem needsOf_graph {task : Nat} {a : Artifact} (there : artifacts[task]? = some a) :
    (graph artifacts).needsOf task = a.dependencies.filterMap (place? artifacts) := by
  simp [graph, Graph.needsOf, there]

variable (distinct : (artifacts.map (·.name)).Nodup)
  (declared : ∀ a ∈ artifacts, ∀ name, a.DependsOn name → ∃ b ∈ artifacts, b.name = name)

include distinct declared

theorem exists_place {a : Artifact} (member : a ∈ artifacts) {name : String}
    (depends : name ∈ a.dependencies) : ∃ place b, place? artifacts name = some place ∧
      artifacts[place]? = some b ∧ b.name = name := by
  obtain ⟨b, listed, named⟩ := declared a member name (Artifact.mem_dependencies.mp depends)
  obtain ⟨place, there⟩ := List.getElem?_of_mem listed
  exact ⟨place, b, (place?_eq_some_iff distinct).mpr ⟨b, there, named⟩, there, named⟩

theorem noteAll?_eq {task : Nat} {a : Artifact} (there : artifacts[task]? = some a) (t : Tables) :
    Tables.noteAll? artifacts t (a, task) =
      ((graph artifacts).needsOf task).foldlM (Tables.note? task) t := by
  have found : ∀ name ∈ a.dependencies, ∃ place, place? artifacts name = some place := by
    intro name depends
    obtain ⟨place, -, known, -⟩ :=
      exists_place distinct declared (List.mem_of_getElem? there) depends
    exact ⟨place, known⟩
  rw [needsOf_graph there, Tables.noteAll?]
  generalize a.dependencies = names at found
  induction names generalizing t with
  | nil => rfl
  | cons first rest ih =>
      obtain ⟨⟨place, here⟩, others⟩ := List.forall_mem_cons.mp found
      rw [List.filterMap_cons_some here, List.foldlM_cons, List.foldlM_cons, here]
      exact bind_congr fun next => ih next others

/-- **The tables are those of the graph.**  What the first ones have noted of it are the needs of
the artifacts that were met. -/
theorem Tables.ofArtifacts?_eq :
    Tables.ofArtifacts? artifacts = some (Tables.ofGraph (graph artifacts)) := by
  let g := graph artifacts
  have proper : g.Proper := proper_graph distinct
  have sizes : g.size = artifacts.length := size_graph
  have front : ∀ met ≤ artifacts.length,
      (artifacts.zipIdx.take met).foldlM (Tables.noteAll? artifacts)
          (Tables.blank artifacts.length) =
        some (Tables.tabulate artifacts.length
          (fun task => if task < met then (g.needsOf task).length else 0)
          fun task => (List.range met).filter fun other => (g.needsOf other).contains task) := by
    intro met
    induction met with
    | zero => simp [Tables.blank_eq]
    | succ met ih =>
        intro inside
        have there : artifacts[met]? = some artifacts[met] := List.getElem?_eq_getElem inside
        have next : artifacts.zipIdx[met]? = some (artifacts[met], met) := by simp [there]
        rw [List.take_add_one, next, Option.toList_some, List.foldlM_append,
          ih (Nat.le_of_lt inside)]
        change (do let t ← Tables.noteAll? artifacts _ (artifacts[met], met); some t) = _
        rw [noteAll?_eq distinct declared there, Tables.notes_tabulate inside (proper.nodup met)
          fun need needed => sizes ▸ proper.bounded met need needed]
        refine congrArg some (Tables.tabulate_congr ?_ ?_)
        · intro task _
          by_cases same : task = met
          · subst same
            simp [g]
          · simp only [Function.update_of_ne same, Nat.lt_succ_iff_lt_or_eq, same, or_false]
        · intro task _
          rw [List.range_succ, List.filter_append]
          by_cases needed : task ∈ g.needsOf met <;> simp [needed, g]
  have whole := front artifacts.length (Nat.le_refl _)
  rw [List.take_of_length_le (by simp)] at whole
  rw [Tables.ofArtifacts?, whole, Tables.ofGraph, size_graph]
  refine congrArg some (Tables.tabulate_congr (fun task inside => if_pos inside) fun task _ => ?_)
  rw [Graph.dependents, size_graph]

end Artifacts

/-! ## One need less -/

namespace Loop

variable {l next : Loop} {tasks : List Nat} {task : Nat}

/-- A place that waits for something has a counter. -/
theorem waiting_of_pos (waits : 0 < l.waitingFor task) :
    l.waiting[task]? = some (l.waitingFor task) := by
  rw [Queue.waitingFor, List.getD_eq_getElem?_getD] at waits ⊢
  cases there : l.waiting[task]? with
  | none => simp [there] at waits
  | some count => rfl

/-- Where something is waited for, one need can be taken off, and with the last one the place
becomes ready. -/
theorem release?_eq (waits : 0 < l.waitingFor task) :
    l.release? task = some ⟨l.toQueue.release task,
      if l.waitingFor task = 1 then l.entered ++ [task] else l.entered⟩ := by
  obtain ⟨left, count⟩ := Nat.exists_eq_succ_of_ne_zero (Nat.pos_iff_ne_zero.mp waits)
  have there : l.waiting[task]? = some (left + 1) := by rw [waiting_of_pos waits, count]
  simp only [release?, there, Queue.release, count, Nat.succ_eq_add_one, Nat.add_sub_cancel,
    Nat.add_eq_right]
  split <;> rfl

/-- Nothing is taken off from zero. -/
theorem waits_of_release (released : l.release? task = some next) : 0 < l.waitingFor task := by
  rw [release?] at released
  split at released
  · cases released
  · cases released
  next left there => simp [Queue.waitingFor, there]

/-- Needs of several places are taken off one after another. -/
theorem exists_releases (nodup : tasks.Nodup) (wait : ∀ task ∈ tasks, 0 < l.waitingFor task) :
    ∃ next, tasks.foldlM release? l = some next ∧
      next.toQueue = tasks.foldl Queue.release l.toQueue := by
  induction tasks generalizing l with
  | nil => exact ⟨l, rfl, rfl⟩
  | cons first rest ih =>
      obtain ⟨notAgain, restNodup⟩ := List.nodup_cons.mp nodup
      obtain ⟨here, others⟩ := List.forall_mem_cons.mp wait
      rw [List.foldlM_cons, release?_eq here]
      refine ih restNodup fun task member => ?_
      have different : task ≠ first := fun equal => notAgain (equal ▸ member)
      rw [Queue.release_waitingFor, if_neg different]
      exact others task member

/-! ## What became ready -/

/-- What became ready so far was taken or is ready still, and what is ready waits for nothing. -/
structure Kept (l : Loop) : Prop where
  entered : l.entered.Perm (l.order ++ l.ready)
  settled : ∀ task ∈ l.ready, l.waitingFor task = 0

theorem perm_insertTask {tasks : List Nat} (fresh : task ∉ tasks) :
    (Queue.insertTask task tasks).Perm (task :: tasks) := by
  induction tasks with
  | nil => exact .refl _
  | cons first rest ih =>
      simp only [Queue.insertTask]
      split
      · exact .refl _
      · split
        next same => exact absurd (same ▸ List.mem_cons_self ..) fresh
        next =>
          have behind := ih fun member => fresh (List.mem_cons_of_mem _ member)
          exact (behind.cons first).trans (.swap task first rest)

/-- A place that loses its last need was not ready before. -/
theorem Kept.release (kept : l.Kept) (released : l.release? task = some next) : next.Kept := by
  have waits := waits_of_release released
  have fresh : task ∉ l.ready := fun member => Nat.ne_of_gt waits (kept.settled task member)
  obtain rfl := Option.some.inj ((release?_eq waits).symm.trans released)
  constructor
  · by_cases last : l.waitingFor task = 1
    · simp only [last, if_true, Queue.release]
      calc (l.entered ++ [task]).Perm (l.order ++ l.ready ++ [task]) :=
            kept.entered.append_right [task]
        _ = l.order ++ (l.ready ++ [task]) := List.append_assoc ..
        List.Perm _ (l.order ++ task :: l.ready) :=
            (List.perm_append_singleton task l.ready).append_left l.order
        List.Perm _ (l.order ++ Queue.insertTask task l.ready) :=
            ((perm_insertTask fresh).append_left l.order).symm
    · have more : l.waitingFor task - 1 ≠ 0 := by omega
      simpa only [last, if_false, Queue.release, more] using kept.entered
  · intro other member
    rw [Queue.release_waitingFor]
    rcases Queue.mem_release_ready.mp member with old | ⟨rfl, none⟩
    · have different : other ≠ task := fun same => fresh (same ▸ old)
      rw [if_neg different]
      exact kept.settled other old
    · rwa [Queue.release_waitingFor] at none

theorem Kept.releases (kept : l.Kept) (released : tasks.foldlM release? l = some next) :
    next.Kept := by
  induction tasks generalizing l with
  | nil =>
      cases released
      exact kept
  | cons first rest ih =>
      rw [List.foldlM_cons] at released
      obtain ⟨between, one, others⟩ := Option.bind_eq_some_iff.mp released
      exact ih (kept.release one) others

theorem kept_start (t : Tables) : (start t).Kept where
  entered := .refl _
  settled task member := by
    have zero := of_decide_eq_true (List.mem_filter.mp member).2
    simp [Queue.waitingFor, start, zero]

/-! ## Rounds -/

variable {g : Graph} {t : Tables} {order : List Nat}

theorem Kept.round (kept : l.Kept) (onward : l.round t = .onward next) : next.Kept := by
  rw [Loop.round] at onward
  split at onward
  · cases onward
  next place rest ready =>
    split at onward
    next after taken =>
      obtain rfl := Round.onward.inj onward
      obtain ⟨row, -, released⟩ := Option.bind_eq_some_iff.mp taken
      refine Kept.releases ⟨?_, fun task member => ?_⟩ released
      · simpa [ready] using kept.entered
      · exact kept.settled task (ready ▸ List.mem_cons_of_mem place member)
    · cases onward

theorem run_of_ready_nil {q : Queue} (nothing : q.ready = []) (most : Nat) :
    Queue.run g most q = q := by
  cases most with
  | zero => rfl
  | succ most => simp only [Queue.run, Queue.step?, nothing]

/-- The loop with the queue behind some artifacts. -/
structure Behind (g : Graph) (order : List Nat) (l : Loop) : Prop where
  available : Stepwise g.Available order
  queue : l.toQueue = Queue.behind g order
  kept : l.Kept

theorem behind_start (g : Graph) : Behind g [] (start (Tables.ofGraph g)) where
  available := stepwise_nil _
  kept := kept_start _
  queue := by
    have waiting : (Tables.ofGraph g).degrees = (List.range g.size).map (g.missing []) :=
      List.map_congr_left fun task _ => (g.missing_nil task).symm
    simp only [start, waiting, Queue.behind, Queue.mk.injEq, true_and, List.length_map,
      List.length_range]
    refine List.filter_congr fun task member => ?_
    have inside := List.mem_range.mp member
    rw [Bool.eq_iff_iff, decide_eq_true_eq, decide_eq_true_eq, Graph.available_iff]
    simp [inside]

/-- **A round is a step of the queue.**  It ends the loop when no place is ready; otherwise each
place in the row of the first one waits for it, and the loop is behind one more. -/
theorem Behind.round_cases (behind : Behind g order l) (proper : g.Proper) :
    (l.ready = [] ∧ l.round (Tables.ofGraph g) = .ended) ∨
      ∃ place next, l.round (Tables.ofGraph g) = .onward next ∧
        Behind g (order ++ [place]) next ∧ l.toQueue.step? g = some next.toQueue := by
  cases ready : l.ready with
  | nil => exact Or.inl ⟨rfl, by simp only [Loop.round, ready]⟩
  | cons place rest =>
      have ready' : (Queue.behind g order).ready = place :: rest := behind.queue ▸ ready
      obtain ⟨available, -⟩ := Queue.ready_cons ready'
      have row : (Tables.ofGraph g).dependents[place]? = some (g.dependents place) := by
        simp [Tables.ofGraph, Tables.tabulate, available.1]
      have wait : ∀ task ∈ g.dependents place, 0 < l.waitingFor task := by
        intro task member
        obtain ⟨inside, needed⟩ := Graph.mem_dependents.mp member
        rw [behind.queue, Queue.behind_waitingFor inside, Nat.pos_iff_ne_zero, ne_eq,
          Graph.missing_eq_zero]
        exact fun all => available.2.1 (all place needed)
      obtain ⟨next, released, left⟩ :=
        exists_releases (l := { l with order := l.order ++ [place], ready := rest })
          (g.nodup_dependents place) wait
      have taken : l.take? (Tables.ofGraph g) place rest = some next := by
        rw [take?, row]
        exact released
      have onward : l.round (Tables.ofGraph g) = .onward next := by
        simp only [Loop.round, ready, taken]
      have placed : next.toQueue = Queue.place g l.toQueue place rest := left
      refine Or.inr ⟨place, next, onward, ⟨?_, ?_, behind.kept.round onward⟩, ?_⟩
      · exact stepwise_snoc.mpr ⟨behind.available, available⟩
      · rw [placed, behind.queue, Queue.place_behind proper behind.available ready']
      · rw [placed, Queue.step?, ready]

/-! ## Runs -/

variable {rounds : Nat}

/-- **The loop is behind one more artifact after each round**, and did what the queue does. -/
theorem After.behind (after : After (Tables.ofGraph g) rounds l) (proper : g.Proper) :
    ∃ order, Behind g order l ∧ order.length = rounds ∧
      ∀ more, Queue.run g (rounds + more) (Queue.start g) = Queue.run g more l.toQueue := by
  induction after with
  | start =>
      refine ⟨[], behind_start g, rfl, fun more => ?_⟩
      rw [Nat.zero_add, (behind_start g).queue, Queue.start_eq_behind]
  | @onward rounds l next _ round ih =>
      obtain ⟨order, behind, count, ran⟩ := ih
      rcases behind.round_cases proper with ⟨-, ended⟩ | ⟨place, after, onward, further, stepped⟩
      · rw [ended] at round
        cases round
      · obtain rfl := Round.onward.inj (onward.symm.trans round)
        refine ⟨order ++ [place], further, by simp [count], fun more => ?_⟩
        rw [Nat.add_right_comm, Nat.add_assoc, ran, Queue.run, stepped]

theorem Behind.length_le (behind : Behind g order l) : order.length ≤ g.size := by
  simpa using (Graph.subperm_range behind.available).length_le

/-- A loop that has not ended before goes on. -/
theorem ended_or_after (proper : g.Proper) (rounds : Nat) :
    (∃ before last, After (Tables.ofGraph g) before last ∧
      last.round (Tables.ofGraph g) = .ended) ∨ ∃ l, After (Tables.ofGraph g) rounds l := by
  induction rounds with
  | zero => exact Or.inr ⟨_, .start⟩
  | succ rounds ih =>
      rcases ih with ended | ⟨l, after⟩
      · exact Or.inl ended
      · obtain ⟨order, behind, -, -⟩ := after.behind proper
        rcases behind.round_cases proper with ⟨-, ended⟩ | ⟨place, next, onward, -, -⟩
        · exact Or.inl ⟨rounds, l, after, ended⟩
        · exact Or.inr ⟨next, .onward after onward⟩

/-- **The loop ends**, and with what the queue ends with. -/
theorem exists_ended (proper : g.Proper) :
    ∃ rounds last, rounds ≤ g.size ∧ After (Tables.ofGraph g) rounds last ∧
      last.round (Tables.ofGraph g) = .ended ∧
      last.toQueue = Queue.run g g.size (Queue.start g) := by
  rcases ended_or_after proper (g.size + 1) with ⟨rounds, last, after, ended⟩ | ⟨l, after⟩
  · obtain ⟨order, behind, count, ran⟩ := after.behind proper
    have within : rounds ≤ g.size := count ▸ behind.length_le
    refine ⟨rounds, last, within, after, ended, ?_⟩
    rcases behind.round_cases proper with ⟨nothing, -⟩ | ⟨place, next, onward, -, -⟩
    · have stays := ran (g.size - rounds)
      rw [Nat.add_sub_cancel' within, run_of_ready_nil nothing] at stays
      exact stays.symm
    · rw [onward] at ended
      cases ended
  · obtain ⟨order, behind, count, -⟩ := after.behind proper
    have within := behind.length_le
    omega

end Loop

/-! ## Artifacts -/

section Invariant

variable {artifacts : List Artifact} {tables : Tables} {rounds : Nat} {l : Loop}

/-- How many different names an artifact depends on of which none has been taken. -/
def pending (artifacts : List Artifact) (order : List Nat) (a : Artifact) : Nat :=
  ((a.libraries ++ a.references).toFinset.filter
    (· ∉ (pick artifacts order).map (·.name))).card

/-- What holds of the loop after some rounds, at the start of the next. -/
structure LoopInvariant (artifacts : List Artifact) (tables : Tables) (rounds : Nat) (l : Loop) :
    Prop where
  /-- Every round has taken one artifact, and none was taken twice. -/
  taken : l.order.length = rounds
  distinct : l.order.Nodup
  inside : ∀ place ∈ l.order, place < artifacts.length
  bounded : rounds ≤ artifacts.length
  /-- The counter of an artifact is the number of those it depends on that were not taken. -/
  counters : l.waiting.length = artifacts.length
  counted : ∀ (place : Nat) (a : Artifact), artifacts[place]? = some a →
    l.waiting[place]? = some (pending artifacts l.order a)
  /-- Ready is what was not taken and waits for nothing, first declared first. -/
  ready : ∀ place : Nat, place ∈ l.ready ↔ place ∉ l.order ∧ l.waiting[place]? = some 0
  ascending : l.ready.Pairwise (· < ·)
  /-- No artifact has become ready twice. -/
  once : l.entered.Nodup
  entered : ∀ place, place ∈ l.entered ↔ place ∈ l.order ∨ place ∈ l.ready
  /-- The next round asks for no entry that is not there, and takes nothing off from zero. -/
  sound : l.round tables ≠ .broken

/-- What a place misses are the names that are pending. -/
theorem missing_eq_pending (distinct : (artifacts.map (·.name)).Nodup)
    (declared : ∀ a ∈ artifacts, ∀ name, a.DependsOn name → ∃ b ∈ artifacts, b.name = name)
    {place : Nat} {a : Artifact} (there : artifacts[place]? = some a) (order : List Nat) :
    (graph artifacts).missing order place = pending artifacts order a := by
  have same : ∀ name ∈ a.dependencies,
      ((place? artifacts name).map fun need => decide (need ∉ order)).getD false =
        decide (name ∉ (pick artifacts order).map (·.name)) := by
    intro name depends
    obtain ⟨need, b, known, found, named⟩ :=
      exists_place distinct declared (List.mem_of_getElem? there) depends
    rw [known, Option.map_some, Option.getD_some, decide_eq_decide, not_iff_not, List.mem_map]
    constructor
    · intro taken
      exact ⟨b, List.mem_filterMap.mpr ⟨need, taken, found⟩, named⟩
    · rintro ⟨c, picked, again⟩
      obtain ⟨other, taken, found'⟩ := List.mem_filterMap.mp picked
      have known' := (place?_eq_some_iff distinct).mpr ⟨c, found', again⟩
      exact Option.some.inj (known'.symm.trans known) ▸ taken
  have names : (a.libraries ++ a.references).toFinset = a.dependencies.toFinset :=
    Finset.ext fun name => by simp [Artifact.dependencies, mem_distinct]
  calc (graph artifacts).missing order place
      = a.dependencies.countP fun name =>
          ((place? artifacts name).map fun need => decide (need ∉ order)).getD false := by
        rw [Graph.missing, needsOf_graph there, List.countP_filterMap]
    _ = (a.dependencies.filter (· ∉ (pick artifacts order).map (·.name))).length := by
        rw [← List.countP_eq_length_filter]
        exact List.countP_congr fun name depends => Bool.eq_iff_iff.mp (same name depends)
    _ = pending artifacts order a := by
        have once : a.dependencies.Nodup := nodup_distinct _
        rw [← List.toFinset_card_of_nodup (once.filter _), List.toFinset_filter, pending, names]
        simp only [decide_eq_true_eq]

/-- The loop behind some artifacts is what it has to be. -/
theorem Loop.Behind.invariant (distinct : (artifacts.map (·.name)).Nodup)
    (declared : ∀ a ∈ artifacts, ∀ name, a.DependsOn name → ∃ b ∈ artifacts, b.name = name)
    {order : List Nat} (behind : Behind (graph artifacts) order l) :
    LoopInvariant artifacts (Tables.ofGraph (graph artifacts)) order.length l := by
  have same : l.order = order := congrArg Queue.order behind.queue
  have waiting : l.waiting = (List.range artifacts.length).map ((graph artifacts).missing order) := by
    rw [behind.queue, Queue.behind, size_graph]
  have ready : ∀ place, place ∈ l.ready ↔ place < artifacts.length ∧ place ∉ order ∧
      (graph artifacts).missing order place = 0 := by
    intro place
    rw [behind.queue, Queue.mem_behind_ready, Graph.available_iff, size_graph]
  have nodup := Graph.nodup_of_available behind.available
  have ascending : l.ready.Pairwise (· < ·) := behind.queue ▸ Queue.behind_sorted _ order
  have within := behind.length_le
  rw [size_graph] at within
  refine {
    taken := congrArg List.length same
    distinct := same ▸ nodup
    inside := fun place member =>
      size_graph ▸ Graph.lt_size_of_available behind.available (same ▸ member)
    bounded := within
    counters := by rw [waiting, List.length_map, List.length_range]
    counted := fun place a there => ?_
    ready := fun place => ?_
    ascending := ascending
    once := ?_
    entered := fun place => by rw [behind.kept.entered.mem_iff, List.mem_append]
    sound := ?_ }
  · have inside := (List.getElem?_eq_some_iff.mp there).1
    simp [waiting, same, inside, missing_eq_pending distinct declared there]
  · rw [ready, same, waiting]
    by_cases inside : place < artifacts.length <;> simp [inside]
  · refine behind.kept.entered.nodup_iff.mpr (List.nodup_append.mpr ⟨same ▸ nodup, ?_, ?_⟩)
    · exact ascending.imp Nat.ne_of_lt
    · rintro place taken _ member rfl
      exact ((ready place).mp member).2.1 (same ▸ taken)
  · rcases behind.round_cases (proper_graph distinct) with ⟨-, ended⟩ | ⟨_, _, onward, -, -⟩
    · rw [ended]
      exact Round.noConfusion
    · rw [onward]
      exact Round.noConfusion

/-- What the loop over some tables does for artifacts that pass the checks. -/
structure LoopBuilds (artifacts : List Artifact) (tables : Tables) : Prop where
  /-- The invariant holds at the start of every round. -/
  invariant : ∀ rounds l, Loop.After tables rounds l → LoopInvariant artifacts tables rounds l
  /-- The loop ends, after as many rounds as there are artifacts at most.  If all of them are in
  its order then, the plan has them in this order; if not, those whose counters are not zero are
  told. -/
  ends : ∃ rounds last, rounds ≤ artifacts.length ∧ Loop.After tables rounds last ∧
    last.round tables = .ended ∧
    build artifacts =
      if last.order.length = artifacts.length then .ok (ofArtifacts (pick artifacts last.order))
      else .error (.cyclic ((pick artifacts last.blocked).map (·.name)))

/-- **The loop that builds a plan** keeps its counters, its ready places and its order right. -/
theorem loop_invariant (passed : check artifacts = .ok ()) :
    ∃ tables, Tables.ofArtifacts? artifacts = some tables ∧ LoopBuilds artifacts tables := by
  obtain ⟨distinct, declared, -⟩ := check_passes_iff.mp passed
  have proper := proper_graph distinct
  refine ⟨_, Tables.ofArtifacts?_eq distinct declared, fun rounds l after => ?_, ?_⟩
  · obtain ⟨order, behind, rfl, -⟩ := after.behind proper
    exact behind.invariant distinct declared
  · obtain ⟨rounds, last, within, after, ended, same⟩ := Loop.exists_ended proper
    refine ⟨rounds, last, size_graph ▸ within, after, ended, ?_⟩
    rw [build, passed, Graph.order, ← same, size_graph]
    by_cases all : last.order.length = artifacts.length
    · simp only [all, if_true]
      rfl
    · simp only [all, if_false]
      rfl

/-- Links and references that are repeated count once; an artifact that becomes ready late is
taken before one that was declared behind it; a cycle is left. -/
theorem loop_invariant_tangled :
    let artifacts : List Artifact :=
      [((((Artifact.contract "App").linking "Math").linking "Math").withArgument
          (.artifact "Token")).withArgument (.artifact "Math"),
        (Artifact.contract "Token").linking "Math", .library "Math", .contract "Log",
        (Artifact.contract "Left").withArgument (.artifact "Right"),
        (Artifact.contract "Right").withArgument (.artifact "Left")]
    check artifacts = .ok () ∧
      Tables.ofArtifacts? artifacts =
        some ⟨[2, 1, 0, 0, 1, 1], [[], [0], [0, 1], [], [5], [4]]⟩ ∧
      build artifacts = .error (.cyclic ["Left", "Right"]) ∧
      ∃ tables, Tables.ofArtifacts? artifacts = some tables ∧ LoopBuilds artifacts tables :=
  ⟨rfl, rfl, rfl, loop_invariant rfl⟩

end Invariant

end Rollout.Plan
