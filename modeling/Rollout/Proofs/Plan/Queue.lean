/-
# Rollout.Proofs.Plan.Queue — what a queue of tasks says at every step

The tasks placed so far determine a queue: a task waits for as many tasks as it has
needs that are not placed, and the ready ones are those not placed that wait for
none.  `Queue.behind` is that queue.  The loop starts with it and every step keeps
it (`start_eq_behind`, `place_behind`), so the counters are never wrong, none is
taken below zero, and no task becomes ready twice.

A queue built so places each task behind its needs and always takes the lowest that
could stand in its place (`exists_run`).
-/
import Mathlib.Data.List.Sort
import Rollout.Plan

namespace Rollout.Plan

set_option autoImplicit false

/-! ## Sequences of tasks -/

/-- Every task of a sequence is in the relation with those before it. -/
def Stepwise (holds : List Nat → Nat → Prop) (order : List Nat) : Prop :=
  ∀ before task after, order = before ++ task :: after → holds before task

theorem stepwise_nil (holds : List Nat → Nat → Prop) : Stepwise holds [] := by
  intro before task after split
  simp at split

theorem stepwise_snoc {holds : List Nat → Nat → Prop} {order : List Nat} {last : Nat} :
    Stepwise holds (order ++ [last]) ↔ Stepwise holds order ∧ holds order last := by
  constructor
  · intro each
    refine ⟨fun before task after split => ?_, each order last [] rfl⟩
    exact each before task (after ++ [last]) (by simp [split])
  · rintro ⟨each, atLast⟩ before task after split
    rcases List.eq_nil_or_concat after with rfl | ⟨front, x, rfl⟩
    · obtain ⟨rfl, same⟩ := List.append_inj' split rfl
      cases same
      exact atLast
    · have longer : order ++ [last] = (before ++ task :: front) ++ [x] := by simpa using split
      exact each before task front (List.append_inj' longer rfl).1

theorem Stepwise.front {holds : List Nat → Nat → Prop} {front rest : List Nat}
    (each : Stepwise holds (front ++ rest)) : Stepwise holds front := by
  intro before task after split
  exact each before task (after ++ rest) (by simp [split])

namespace Graph

/-- Each need is a task, and is told once. -/
structure Proper (g : Graph) : Prop where
  bounded : ∀ task, ∀ need ∈ g.needsOf task, need < g.size
  nodup : ∀ task, (g.needsOf task).Nodup

/-- A task could stand next behind others: it is not among them, and its needs are. -/
def Available (g : Graph) (placed : List Nat) (task : Nat) : Prop :=
  task < g.size ∧ task ∉ placed ∧ ∀ need ∈ g.needsOf task, need ∈ placed

instance (g : Graph) (placed : List Nat) (task : Nat) : Decidable (g.Available placed task) :=
  inferInstanceAs (Decidable (_ ∧ _ ∧ _))

/-- No task that is lower could stand next. -/
def Lowest (g : Graph) (placed : List Nat) (task : Nat) : Prop :=
  ∀ other, g.Available placed other → task ≤ other

/-- How many needs of a task are not among those placed. -/
def missing (g : Graph) (placed : List Nat) (task : Nat) : Nat :=
  (g.needsOf task).countP fun need => need ∉ placed

theorem mem_dependents {g : Graph} {task other : Nat} :
    other ∈ g.dependents task ↔ other < g.size ∧ task ∈ g.needsOf other := by
  simp [dependents]

theorem nodup_dependents (g : Graph) (task : Nat) : (g.dependents task).Nodup :=
  List.nodup_range.filter _

theorem missing_eq_zero {g : Graph} {placed : List Nat} {task : Nat} :
    g.missing placed task = 0 ↔ ∀ need ∈ g.needsOf task, need ∈ placed := by
  simp [missing, List.countP_eq_zero]

/-- A task is available exactly when it is not placed and misses nothing. -/
theorem available_iff {g : Graph} {placed : List Nat} {task : Nat} :
    g.Available placed task ↔ task < g.size ∧ task ∉ placed ∧ g.missing placed task = 0 := by
  rw [missing_eq_zero, Available]

theorem missing_nil (g : Graph) (task : Nat) : g.missing [] task = (g.needsOf task).length := by
  simp [missing]

/-- Placing one more task is one need less for those that need it. -/
theorem missing_snoc {g : Graph} (proper : g.Proper) {placed : List Nat} {last : Nat}
    (fresh : last ∉ placed) (task : Nat) :
    g.missing placed task =
      g.missing (placed ++ [last]) task + if last ∈ g.needsOf task then 1 else 0 := by
  have split : ∀ needs : List Nat, needs.Nodup →
      needs.countP (fun need => need ∉ placed) =
        needs.countP (fun need => need ∉ placed ++ [last]) + if last ∈ needs then 1 else 0 := by
    intro needs nodup
    induction needs with
    | nil => rfl
    | cons first rest ih =>
        obtain ⟨notInRest, restNodup⟩ := List.nodup_cons.mp nodup
        simp only [List.countP_cons, ih restNodup]
        by_cases same : first = last
        · subst same
          simp [fresh, notInRest]
        · have other : last ≠ first := Ne.symm same
          by_cases old : first ∈ placed <;> (simp [old, same, other]; try omega)
  exact split _ (proper.nodup task)

/-- What is placed has its needs placed. -/
theorem needs_placed {g : Graph} {order : List Nat} (arranged : Stepwise g.Available order)
    {task need : Nat} (placed : task ∈ order) (needed : need ∈ g.needsOf task) : need ∈ order := by
  obtain ⟨before, after, rfl⟩ := List.append_of_mem placed
  exact List.mem_append_left _ ((arranged before task after rfl).2.2 need needed)

/-- One more placed task makes available what needed it last. -/
theorem available_snoc {g : Graph} {order : List Nat} (arranged : Stepwise g.Available order)
    {task other : Nat} (available : g.Available order task) :
    g.Available (order ++ [task]) other ↔
      (g.Available order other ∧ other ≠ task) ∨
        ((other < g.size ∧ task ∈ g.needsOf other) ∧
          ∀ need ∈ g.needsOf other, need ∈ order ++ [task]) := by
  have fresh : ∀ other, task ∈ g.needsOf other → other ∉ order ++ [task] := by
    intro other needed member
    rcases List.mem_append.mp member with old | new
    · exact available.2.1 (needs_placed arranged old needed)
    · obtain rfl := List.mem_singleton.mp new
      exact available.2.1 (available.2.2 other needed)
  constructor
  · rintro ⟨inside, free, needs⟩
    by_cases needed : task ∈ g.needsOf other
    · exact Or.inr ⟨⟨inside, needed⟩, needs⟩
    · simp only [List.mem_append, List.mem_singleton, not_or] at free
      refine Or.inl ⟨⟨inside, free.1, fun need member => ?_⟩, free.2⟩
      rcases List.mem_append.mp (needs need member) with old | new
      · exact old
      · exact absurd (List.mem_singleton.mp new ▸ member) needed
  · rintro (⟨⟨inside, free, needs⟩, different⟩ | ⟨⟨inside, needed⟩, needs⟩)
    · exact ⟨inside, by simp [free, different], fun need member =>
        List.mem_append_left _ (needs need member)⟩
    · exact ⟨inside, fresh other needed, needs⟩

end Graph

namespace Queue

/-! ## Increasing lists -/

theorem mem_insertTask {task other : Nat} {tasks : List Nat} :
    other ∈ insertTask task tasks ↔ other = task ∨ other ∈ tasks := by
  induction tasks with
  | nil => simp [insertTask]
  | cons first rest ih =>
      simp only [insertTask]
      split
      · simp
      · split
        · subst_vars
          simp
        · simp [ih, or_left_comm]

theorem pairwise_insertTask (task : Nat) {tasks : List Nat} (sorted : tasks.Pairwise (· < ·)) :
    (insertTask task tasks).Pairwise (· < ·) := by
  induction tasks with
  | nil => simp [insertTask]
  | cons first rest ih =>
      obtain ⟨least, tail⟩ := List.pairwise_cons.mp sorted
      simp only [insertTask]
      split
      next smaller =>
        refine List.pairwise_cons.mpr ⟨fun other member => ?_, sorted⟩
        rcases List.mem_cons.mp member with rfl | member
        · exact smaller
        · exact Nat.lt_trans smaller (least other member)
      next notSmaller =>
        split
        next => exact sorted
        next different =>
          refine List.pairwise_cons.mpr ⟨fun other member => ?_, ih tail⟩
          rcases mem_insertTask.mp member with rfl | member
          · omega
          · exact least other member

/-! ## Releasing -/

@[simp] theorem release_order (q : Queue) (task : Nat) : (q.release task).order = q.order := rfl

@[simp] theorem release_length (q : Queue) (task : Nat) :
    (q.release task).waiting.length = q.waiting.length := by
  simp [release]

theorem release_waitingFor (q : Queue) (task other : Nat) :
    (q.release task).waitingFor other =
      if other = task then q.waitingFor task - 1 else q.waitingFor other := by
  simp only [release, waitingFor, List.getD_eq_getElem?_getD, List.getElem?_set]
  by_cases same : task = other
  · subst same
    by_cases inside : task < q.waiting.length <;> simp [inside]
  · simp [same, Ne.symm same]

theorem mem_release_ready {q : Queue} {task other : Nat} :
    other ∈ (q.release task).ready ↔
      other ∈ q.ready ∨ (other = task ∧ (q.release task).waitingFor task = 0) := by
  rw [release_waitingFor, if_pos rfl]
  simp only [release]
  split <;> simp_all [mem_insertTask, or_comm]

theorem release_sorted {q : Queue} (task : Nat) (sorted : q.ready.Pairwise (· < ·)) :
    (q.release task).ready.Pairwise (· < ·) := by
  simp only [release]
  split
  · exact pairwise_insertTask task sorted
  · exact sorted

variable {q : Queue} {tasks : List Nat}

theorem releases_order : (tasks.foldl release q).order = q.order := by
  induction tasks generalizing q with
  | nil => rfl
  | cons first rest ih => simp [ih]

theorem releases_length : (tasks.foldl release q).waiting.length = q.waiting.length := by
  induction tasks generalizing q with
  | nil => rfl
  | cons first rest ih => simp [ih]

theorem releases_sorted (sorted : q.ready.Pairwise (· < ·)) :
    (tasks.foldl release q).ready.Pairwise (· < ·) := by
  induction tasks generalizing q with
  | nil => exact sorted
  | cons first rest ih => exact ih (release_sorted first sorted)

/-- Each released task waits for one less, and no other. -/
theorem releases_waitingFor (nodup : tasks.Nodup) (other : Nat) :
    (tasks.foldl release q).waitingFor other =
      q.waitingFor other - if other ∈ tasks then 1 else 0 := by
  induction tasks generalizing q with
  | nil => simp
  | cons first rest ih =>
      obtain ⟨notInRest, restNodup⟩ := List.nodup_cons.mp nodup
      rw [List.foldl_cons, ih restNodup, release_waitingFor]
      by_cases same : other = first
      · subst same
        simp [notInRest]
      · simp [same]

/-- What becomes ready is what was released and waits for nothing any more. -/
theorem mem_releases_ready (nodup : tasks.Nodup) {other : Nat} :
    other ∈ (tasks.foldl release q).ready ↔
      other ∈ q.ready ∨ (other ∈ tasks ∧ (tasks.foldl release q).waitingFor other = 0) := by
  induction tasks generalizing q with
  | nil => simp
  | cons first rest ih =>
      obtain ⟨notInRest, restNodup⟩ := List.nodup_cons.mp nodup
      rw [List.foldl_cons, ih restNodup, mem_release_ready]
      by_cases same : other = first
      · subst same
        simp [releases_waitingFor restNodup, notInRest]
      · simp [same]

/-! ## The queue behind some tasks -/

/-- The queue when some tasks have been placed, in this order. -/
def behind (g : Graph) (order : List Nat) : Queue where
  order := order
  waiting := (List.range g.size).map (g.missing order)
  ready := (List.range g.size).filter fun task => g.Available order task

variable {g : Graph} {order : List Nat}

theorem behind_waitingFor {task : Nat} (inside : task < g.size) :
    (behind g order).waitingFor task = g.missing order task := by
  simp [waitingFor, behind, inside]

theorem mem_behind_ready {task : Nat} : task ∈ (behind g order).ready ↔ g.Available order task := by
  simp only [behind, List.mem_filter, List.mem_range, decide_eq_true_eq]
  exact ⟨And.right, fun available => ⟨available.1, available⟩⟩

theorem behind_sorted (g : Graph) (order : List Nat) :
    (behind g order).ready.Pairwise (· < ·) :=
  List.pairwise_lt_range.filter _

theorem start_eq_behind (g : Graph) : start g = behind g [] := by
  simp only [start, behind, Queue.mk.injEq, true_and]
  constructor
  · refine List.ext_getElem (by simp [Graph.size]) fun task bound _ => ?_
    simp [Graph.missing_nil, Graph.needsOf, List.getElem?_eq_getElem (by simpa using bound)]
  · refine List.filter_congr fun task inside => ?_
    have inside : task < g.size := List.mem_range.mp inside
    rw [Bool.eq_iff_iff, decide_eq_true_eq]
    simp [Graph.available_iff, Graph.missing_nil, inside]

/-- The first ready task is available, and none that is available is lower. -/
theorem ready_cons {task : Nat} {rest : List Nat} (ready : (behind g order).ready = task :: rest) :
    g.Available order task ∧ g.Lowest order task := by
  have member : task ∈ (behind g order).ready := by simp [ready]
  refine ⟨mem_behind_ready.mp member, fun other available => ?_⟩
  have sorted := behind_sorted g order
  rw [ready] at sorted
  rcases List.mem_cons.mp (ready ▸ mem_behind_ready.mpr available) with rfl | later
  · exact Nat.le_refl other
  · exact Nat.le_of_lt ((List.pairwise_cons.mp sorted).1 other later)

/-- Without the task that is taken, the ready ones are the others that are available. -/
theorem mem_ready_tail {task other : Nat} {rest : List Nat}
    (ready : (behind g order).ready = task :: rest) :
    other ∈ rest ↔ g.Available order other ∧ other ≠ task := by
  have sorted := behind_sorted g order
  rw [ready] at sorted
  have notAgain : task ∉ rest := fun again =>
    Nat.lt_irrefl task ((List.pairwise_cons.mp sorted).1 task again)
  rw [← mem_behind_ready, ready, List.mem_cons]
  constructor
  · intro member
    exact ⟨Or.inr member, fun same => notAgain (same ▸ member)⟩
  · rintro ⟨rfl | member, different⟩
    · exact absurd rfl different
    · exact member

/-- **One step keeps the queue right.**  Placing the first ready task leaves the
queue behind the longer sequence. -/
theorem place_behind (proper : g.Proper) (arranged : Stepwise g.Available order)
    {task : Nat} {rest : List Nat} (ready : (behind g order).ready = task :: rest) :
    place g (behind g order) task rest = behind g (order ++ [task]) := by
  have available := (ready_cons ready).1
  have nodup := g.nodup_dependents task
  let taken : Queue := { behind g order with order := order ++ [task], ready := rest }
  let left := (g.dependents task).foldl release taken
  have waitingFor : ∀ other < g.size, left.waitingFor other = g.missing (order ++ [task]) other := by
    intro other inside
    have before : taken.waitingFor other = g.missing order other := behind_waitingFor inside
    rw [releases_waitingFor nodup, before, Graph.missing_snoc proper available.2.1]
    simp [Graph.mem_dependents, inside]
  have sameOrder : left.order = order ++ [task] := releases_order
  have sameWaiting : left.waiting = (behind g (order ++ [task])).waiting := by
    refine List.ext_getElem (by simp [left, releases_length, taken, behind]) fun other bound _ => ?_
    have inside : other < g.size := by simpa [left, releases_length, taken, behind] using bound
    simpa [Queue.waitingFor, bound, behind] using waitingFor other inside
  have restSorted : rest.Pairwise (· < ·) := by
    have sorted := behind_sorted g order
    rw [ready] at sorted
    exact (List.pairwise_cons.mp sorted).2
  have sameReady : left.ready = (behind g (order ++ [task])).ready := by
    refine List.Pairwise.eq_of_mem_iff (releases_sorted restSorted) (behind_sorted g _) fun other => ?_
    rw [mem_releases_ready nodup, mem_behind_ready, mem_ready_tail ready, Graph.mem_dependents,
      Graph.available_snoc arranged available]
    refine or_congr Iff.rfl (and_congr_right fun dependent => ?_)
    rw [waitingFor other dependent.1, Graph.missing_eq_zero]
  calc place g (behind g order) task rest
      = left := rfl
    _ = behind g (order ++ [task]) := by
        rcases split : left with ⟨leftOrder, leftWaiting, leftReady⟩
        simp_all [behind]

/-! ## Runs -/

/-- **The loop.**  It ends with the queue behind some longer sequence: when nothing is
ready any more, or when it has placed as many tasks as it may. -/
theorem run_behind (proper : g.Proper) (most : Nat) {order : List Nat}
    (arranged : Stepwise g.Available order) (lowest : Stepwise g.Lowest order) :
    ∃ more, Stepwise g.Available (order ++ more) ∧ Stepwise g.Lowest (order ++ more) ∧
      run g most (behind g order) = behind g (order ++ more) ∧
      ((behind g (order ++ more)).ready = [] ∨ more.length = most) := by
  induction most generalizing order with
  | zero => exact ⟨[], by simpa using arranged, by simpa using lowest, by simp [run], Or.inr rfl⟩
  | succ most ih =>
      cases ready : (behind g order).ready with
      | nil =>
          refine ⟨[], by simpa using arranged, by simpa using lowest, ?_,
            Or.inl (by simpa using ready)⟩
          simp [run, step?, ready]
      | cons task rest =>
          obtain ⟨available, least⟩ := ready_cons ready
          obtain ⟨more, arranged', lowest', ran, ended⟩ :=
            ih (stepwise_snoc.mpr ⟨arranged, available⟩) (stepwise_snoc.mpr ⟨lowest, least⟩)
          refine ⟨task :: more, by simpa using arranged', by simpa using lowest', ?_, ?_⟩
          · simpa [run, step?, ready, place_behind proper arranged ready] using ran
          · simpa using ended

end Queue

end Rollout.Plan
