/-
# Rollout.Proofs.Text.Runs — runs of characters at the front of a text

A run ends where a character is not of its kind.  A limit on how far one looks for it
shortens the run and changes nothing else (`takeWhile_take`).
-/
import Mathlib.Data.List.TakeWhile

namespace Rollout.Text

set_option autoImplicit false

variable {p : Char → Bool} {front rest : List Char}

theorem takeWhile_take (p : Char → Bool) (count : Nat) (cs : List Char) :
    (cs.take count).takeWhile p = (cs.takeWhile p).take count := by
  induction cs generalizing count with
  | nil => simp
  | cons c rest ih =>
      cases count with
      | zero => rfl
      | succ count =>
          simp only [List.take_succ_cons, List.takeWhile_cons]
          split
          · rw [ih, List.take_succ_cons]
          · rfl

theorem drop_length_takeWhile (p : Char → Bool) (cs : List Char) :
    cs.drop (cs.takeWhile p).length = cs.dropWhile p := by
  have whole : cs.takeWhile p ++ cs.dropWhile p = cs := List.takeWhile_append_dropWhile
  have cut : (cs.takeWhile p ++ cs.dropWhile p).drop (cs.takeWhile p).length = cs.dropWhile p :=
    List.drop_left
  rwa [whole] at cut

/-- A run is found up to what ends it. -/
theorem takeWhile_append_of_stops (inside : ∀ c ∈ front, p c = true)
    (stops : ∀ c ∈ rest.head?, p c = false) : (front ++ rest).takeWhile p = front := by
  have stopped : rest.takeWhile p = [] := by
    cases rest with
    | nil => rfl
    | cons c rest => exact List.takeWhile_cons_of_neg (by simp [stops c rfl])
  rw [List.takeWhile_append_of_pos inside, stopped, List.append_nil]

/-- A run within the limit is found. -/
theorem takeWhile_take_append_of_stops {count : Nat} (inside : ∀ c ∈ front, p c = true)
    (stops : ∀ c ∈ rest.head?, p c = false) (short : front.length ≤ count) :
    ((front ++ rest).take count).takeWhile p = front := by
  rw [takeWhile_take, takeWhile_append_of_stops inside stops, List.take_of_length_le short]

/-- Behind a run that does not reach the end stands what ends it. -/
theorem exists_of_length_takeWhile_lt {cs : List Char}
    (less : (cs.takeWhile p).length < cs.length) :
    ∃ c rest, cs = cs.takeWhile p ++ c :: rest ∧ p c = false := by
  cases behind : cs.dropWhile p with
  | nil =>
      have all : cs.takeWhile p = cs :=
        List.takeWhile_eq_self_iff.mpr (List.dropWhile_eq_nil_iff.mp behind)
      rw [all] at less
      exact absurd less (lt_irrefl _)
  | cons c rest =>
      have stopped := List.head?_dropWhile_not p cs
      rw [behind] at stopped
      refine ⟨c, rest, ?_, by simpa using stopped⟩
      rw [← behind, List.takeWhile_append_dropWhile]

/-- Behind a run that does not reach the limit stands what ends it. -/
theorem exists_of_length_takeWhile_take_lt {cs : List Char} {count : Nat}
    (less : ((cs.take count).takeWhile p).length < (cs.take count).length) :
    ∃ c rest, cs = (cs.take count).takeWhile p ++ c :: rest ∧ p c = false := by
  obtain ⟨c, rest, cut, stops⟩ := exists_of_length_takeWhile_lt less
  refine ⟨c, rest ++ cs.drop count, ?_, stops⟩
  have whole := (List.take_append_drop count cs).symm
  rw [cut, List.append_assoc] at whole
  exact whole

end Rollout.Text
