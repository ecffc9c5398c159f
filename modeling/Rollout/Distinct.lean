/-
# Rollout.Distinct — lists without repetition

`distinct` keeps each element of a list once, where it is met first, and that is the only list
that does (`firstAppearances_distinct`, `FirstAppearances.unique`).
-/

namespace Rollout

set_option autoImplicit false

variable {α : Type} [DecidableEq α]

/-- Appends an element that is not there yet. -/
def addNew (kept : List α) (a : α) : List α :=
  if a ∈ kept then kept else kept ++ [a]

/-- The elements of a list, each once, in the order in which they first occur. -/
def distinct (items : List α) : List α :=
  items.foldl addNew []

theorem mem_addNew {kept : List α} {a b : α} : b ∈ addNew kept a ↔ b ∈ kept ∨ b = a := by
  unfold addNew
  split <;> simp_all

theorem nodup_addNew {kept : List α} (a : α) (h : kept.Nodup) : (addNew kept a).Nodup := by
  unfold addNew
  split
  · exact h
  · rw [List.nodup_append]
    refine ⟨h, by simp, fun b hb c hc => ?_⟩
    rintro rfl
    simp_all

theorem mem_foldl_addNew {items kept : List α} {b : α} :
    b ∈ items.foldl addNew kept ↔ b ∈ kept ∨ b ∈ items := by
  induction items generalizing kept with
  | nil => simp
  | cons a rest ih => simp [ih, mem_addNew, or_assoc]

theorem nodup_foldl_addNew {items kept : List α} (h : kept.Nodup) :
    (items.foldl addNew kept).Nodup := by
  induction items generalizing kept with
  | nil => exact h
  | cons a rest ih => exact ih (nodup_addNew a h)

/-- Nothing is lost and nothing is added. -/
theorem mem_distinct {items : List α} {b : α} : b ∈ distinct items ↔ b ∈ items := by
  simp [distinct, mem_foldl_addNew]

theorem nodup_distinct (items : List α) : (distinct items).Nodup :=
  nodup_foldl_addNew (List.nodup_nil)

/-! ## First appearances -/

/-- The elements of a list, each once, in the order of their first places. -/
structure FirstAppearances (all once : List α) : Prop where
  mem : ∀ a, a ∈ once ↔ a ∈ all
  nodup : once.Nodup
  ordered : once.Pairwise fun a b => all.idxOf a < all.idxOf b

namespace FirstAppearances

variable {all once : List α}

theorem nil : FirstAppearances ([] : List α) [] :=
  ⟨fun _ => Iff.rfl, List.nodup_nil, .nil⟩

/-- An element that is met next is kept where it is new. -/
theorem addNew (appear : FirstAppearances all once) (a : α) :
    FirstAppearances (all ++ [a]) (addNew once a) where
  mem b := by rw [mem_addNew, appear.mem, List.mem_append, List.mem_singleton]
  nodup := nodup_addNew a appear.nodup
  ordered := by
    have place : ∀ b ∈ once, (all ++ [a]).idxOf b = all.idxOf b := by
      intro b member
      rw [List.idxOf_append, if_pos ((appear.mem b).mp member)]
    have before : once.Pairwise fun b c => (all ++ [a]).idxOf b < (all ++ [a]).idxOf c := by
      refine appear.ordered.imp_of_mem fun hb hc ahead => ?_
      rw [place _ hb, place _ hc]
      exact ahead
    unfold Rollout.addNew
    split
    · exact before
    · next new =>
        refine List.pairwise_append.mpr ⟨before, List.pairwise_singleton .., ?_⟩
        intro b hb c hc
        obtain rfl := List.mem_singleton.mp hc
        -- A new element stands behind everything that was met before.
        have absent : c ∉ all := fun met => new ((appear.mem c).mpr met)
        rw [place b hb, List.idxOf_append, if_neg absent]
        have inside := List.idxOf_lt_length_of_mem ((appear.mem b).mp hb)
        omega

theorem foldl (appear : FirstAppearances all once) (items : List α) :
    FirstAppearances (all ++ items) (items.foldl Rollout.addNew once) := by
  induction items generalizing all once with
  | nil => rwa [List.append_nil]
  | cons a rest ih =>
      have next := ih (appear.addNew a)
      rwa [List.append_assoc] at next

/-- They are the only list of this kind. -/
theorem unique {other : List α} (first : FirstAppearances all once)
    (second : FirstAppearances all other) : once = other := by
  have same : once.Perm other :=
    (List.perm_ext_iff_of_nodup first.nodup second.nodup).mpr fun a =>
      (first.mem a).trans (second.mem a).symm
  refine same.eq_of_pairwise (fun a b _ _ ahead behind => ?_) first.ordered second.ordered
  exact absurd ahead (Nat.lt_asymm behind)

end FirstAppearances

/-- Each element is kept where it is met first. -/
theorem firstAppearances_distinct (items : List α) : FirstAppearances items (distinct items) :=
  FirstAppearances.nil.foldl items

end Rollout
