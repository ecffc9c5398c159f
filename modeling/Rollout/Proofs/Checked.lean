/-
# Rollout.Proofs.Checked — computations that may stop with a fault

A chain of computations gives a result exactly when each of them does, and its
fault is the fault of the first that has one.  Over a list, the first element that
fails decides (`forM_eq_error`, `mapM_eq_error`).
-/
import Mathlib.Data.List.Forall2
import Mathlib.Data.List.Induction

namespace Rollout.Checked

set_option autoImplicit false

variable {α β ε φ : Type}

/-! ## Two computations -/

theorem bind_eq_ok {first : Except ε α} {next : α → Except ε β} {result : β} :
    first >>= next = .ok result ↔ ∃ middle, first = .ok middle ∧ next middle = .ok result := by
  cases first <;> simp [bind, Except.bind]

theorem bind_eq_error {first : Except ε α} {next : α → Except ε β} {fault : ε} :
    first >>= next = .error fault ↔
      first = .error fault ∨ ∃ middle, first = .ok middle ∧ next middle = .error fault := by
  cases first <;> simp [bind, Except.bind]

theorem after_eq_ok {check : Except ε Unit} {next : Unit → Except ε β} {result : β} :
    check >>= next = .ok result ↔ check = .ok () ∧ next () = .ok result := by
  cases check <;> simp [bind, Except.bind]

theorem after_eq_error {check : Except ε Unit} {next : Unit → Except ε β} {fault : ε} :
    check >>= next = .error fault ↔
      check = .error fault ∨ check = .ok () ∧ next () = .error fault := by
  cases check <;> simp [bind, Except.bind]

theorem mapError_eq_ok {first : Except ε α} {change : ε → φ} {result : α} :
    first.mapError change = .ok result ↔ first = .ok result := by
  cases first <;> simp [Except.mapError]

theorem mapError_eq_error {first : Except ε α} {change : ε → φ} {fault : φ} :
    first.mapError change = .error fault ↔ ∃ cause, first = .error cause ∧ change cause = fault := by
  cases first <;> simp [Except.mapError]

/-! ## Checks of every element -/

/-- The first element of a list with a fault has this one. -/
def First (faulty : α → ε → Prop) (items : List α) (fault : ε) : Prop :=
  ∃ before item after, items = before ++ item :: after ∧
    (∀ earlier ∈ before, ∀ other, ¬ faulty earlier other) ∧ faulty item fault

/-- No element has a fault exactly when none is the first. -/
theorem forall_not_first {faulty : α → ε → Prop} {items : List α} :
    (∀ fault, ¬ First faulty items fault) ↔ ∀ item ∈ items, ∀ fault, ¬ faulty item fault := by
  constructor
  · intro none
    induction items using List.reverseRecOn with
    | nil => simp
    | append_singleton front last ih =>
        have sound := ih fun fault ⟨before, item, after, split, others, found⟩ =>
          none fault ⟨before, item, after ++ [last], by simp [split], others, found⟩
        intro item member fault found
        rcases List.mem_append.mp member with inFront | atLast
        · exact sound item inFront fault found
        · obtain rfl := List.mem_singleton.mp atLast
          exact none fault ⟨front, item, [], rfl, sound, found⟩
  · rintro sound fault ⟨before, item, after, rfl, -, found⟩
    exact sound item (by simp) fault found

section Checks

variable {check : α → Except ε Unit} {items : List α}

theorem forM_cons (first : α) (rest : List α) :
    (first :: rest).forM check = check first >>= fun _ => rest.forM check := rfl

theorem forM_eq_ok : items.forM check = .ok () ↔ ∀ item ∈ items, check item = .ok () := by
  induction items with
  | nil => simp [pure, Except.pure]
  | cons first rest ih =>
      rw [forM_cons, after_eq_ok, List.forall_mem_cons, ← ih]

/-- The first element that fails decides. -/
theorem forM_eq_error {fault : ε} :
    items.forM check = .error fault ↔
      ∃ before item after, items = before ++ item :: after ∧
        (∀ earlier ∈ before, check earlier = .ok ()) ∧ check item = .error fault := by
  induction items with
  | nil => simp [pure, Except.pure]
  | cons first rest ih =>
      rw [forM_cons, after_eq_error, ih]
      constructor
      · rintro (failed | ⟨passed, before, item, after, rfl, others, failed⟩)
        · exact ⟨[], first, rest, rfl, by simp, failed⟩
        · refine ⟨first :: before, item, after, rfl, ?_, failed⟩
          exact List.forall_mem_cons.mpr ⟨passed, others⟩
      · rintro ⟨before, item, after, split, others, failed⟩
        rcases before with _ | ⟨head, before⟩
        · cases split
          exact Or.inl failed
        · cases split
          obtain ⟨passed, others⟩ := List.forall_mem_cons.mp others
          exact Or.inr ⟨passed, before, item, after, rfl, others, failed⟩

/-- A check that finds exactly some faults finds the first of a list. -/
theorem forM_eq_error_iff_first {faulty : α → ε → Prop} {fault : ε}
    (exact : ∀ item fault, check item = .error fault ↔ faulty item fault) :
    items.forM check = .error fault ↔ First faulty items fault := by
  have passes : ∀ item, check item = .ok () ↔ ∀ fault, ¬ faulty item fault := by
    intro item
    simp only [← exact]
    cases check item <;> simp
  simp only [forM_eq_error, First, passes, exact]

/-- And a list passes when no element has any. -/
theorem forM_eq_ok_iff {faulty : α → ε → Prop}
    (exact : ∀ item fault, check item = .error fault ↔ faulty item fault) :
    items.forM check = .ok () ↔ ∀ item ∈ items, ∀ fault, ¬ faulty item fault := by
  rw [forM_eq_ok]
  refine forall_congr' fun item => forall_congr' fun _ => ?_
  simp only [← exact]
  cases check item <;> simp

end Checks

/-! ## A result for every element -/

section Results

variable {compute : α → Except ε β}

theorem mapM_eq_ok {items : List α} {results : List β} :
    items.mapM compute = .ok results ↔
      List.Forall₂ (fun item result => compute item = .ok result) items results := by
  induction items generalizing results with
  | nil => simp [pure, Except.pure, eq_comm]
  | cons first rest ih =>
      simp only [List.mapM_cons, bind_eq_ok, pure, Except.pure, Except.ok.injEq,
        List.forall₂_cons_left_iff, ih]
      constructor
      · rintro ⟨result, computed, others, all, rfl⟩
        exact ⟨result, others, computed, all, rfl⟩
      · rintro ⟨result, others, computed, all, rfl⟩
        exact ⟨result, computed, others, all, rfl⟩

/-- There are results exactly when every element has one. -/
theorem exists_mapM_eq_ok {items : List α} :
    (∃ results, items.mapM compute = .ok results) ↔
      ∀ item ∈ items, ∃ result, compute item = .ok result := by
  simp only [mapM_eq_ok]
  induction items with
  | nil => simp
  | cons first rest ih =>
      rw [List.forall_mem_cons, ← ih]
      constructor
      · rintro ⟨_, _ | ⟨computed, others⟩⟩
        exact ⟨⟨_, computed⟩, _, others⟩
      · rintro ⟨⟨result, computed⟩, results, others⟩
        exact ⟨result :: results, .cons computed others⟩

/-- Where every element has a result, the results are those of the elements. -/
theorem mapM_eq_map {items : List α} {result : α → β}
    (computed : ∀ item ∈ items, compute item = .ok (result item)) :
    items.mapM compute = .ok (items.map result) := by
  rw [mapM_eq_ok, List.forall₂_map_right_iff, List.forall₂_same]
  exact computed

/-- Computations that agree on every element give the same results. -/
theorem mapM_congr {compute' : α → Except ε β} {items : List α}
    (same : ∀ item ∈ items, compute' item = compute item) :
    items.mapM compute' = items.mapM compute := by
  induction items with
  | nil => rfl
  | cons first rest ih =>
      obtain ⟨here, others⟩ := List.forall_mem_cons.mp same
      rw [List.mapM_cons, List.mapM_cons, here, ih others]

theorem foldlM_congr {compute compute' : β → α → Except ε β} {items : List α}
    (same : ∀ item ∈ items, ∀ b, compute' b item = compute b item) (b : β) :
    items.foldlM compute' b = items.foldlM compute b := by
  induction items generalizing b with
  | nil => rfl
  | cons first rest ih =>
      obtain ⟨here, others⟩ := List.forall_mem_cons.mp same
      rw [List.foldlM_cons, List.foldlM_cons, here]
      exact bind_congr (ih others)

theorem mapM_eq_error {items : List α} {fault : ε} :
    items.mapM compute = .error fault ↔
      ∃ before item after, items = before ++ item :: after ∧
        (∀ earlier ∈ before, ∃ result, compute earlier = .ok result) ∧
        compute item = .error fault := by
  induction items with
  | nil => simp [pure, Except.pure]
  | cons first rest ih =>
      simp only [List.mapM_cons, bind_eq_error, pure, Except.pure, reduceCtorEq, and_false,
        exists_false, or_false, ih]
      constructor
      · rintro (failed | ⟨result, computed, before, item, after, rfl, others, failed⟩)
        · exact ⟨[], first, rest, rfl, by simp, failed⟩
        · refine ⟨first :: before, item, after, rfl, ?_, failed⟩
          exact List.forall_mem_cons.mpr ⟨⟨result, computed⟩, others⟩
      · rintro ⟨before, item, after, split, others, failed⟩
        rcases before with _ | ⟨head, before⟩
        · cases split
          exact Or.inl failed
        · cases split
          obtain ⟨⟨result, computed⟩, others⟩ := List.forall_mem_cons.mp others
          exact Or.inr ⟨result, computed, before, item, after, rfl, others, failed⟩

end Results

end Rollout.Checked
