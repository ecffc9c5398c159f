/-
# Rollout.Proofs.Placeholder.Sharing — which names share a legacy placeholder

A frame is filled up to the width with underscores, so it does not show with how many of them
its core ends: two cores have one frame exactly when they are the same without those
(`framed_eq_iff`).  The core of a legacy placeholder is the front of a name.  What two names
with one placeholder can differ in is therefore what stands behind their first thirty-six
characters and the underscores that these end with (`legacy_eq_iff`).
-/
import Rollout.Proofs.Linker.Leftover
import Rollout.Proofs.Placeholder

namespace Rollout

set_option autoImplicit false

/-- What is dropped from the end are repetitions of the one character. -/
theorem Text.exists_replicate_dropEnd (c : Char) (cs : List Char) :
    ∃ count, cs = dropEnd (· = c) cs ++ List.replicate count c := by
  induction cs using List.reverseRecOn with
  | nil => exact ⟨0, rfl⟩
  | append_singleton front last ih =>
      by_cases same : last = c
      · subst same
        obtain ⟨count, split⟩ := ih
        refine ⟨count + 1, ?_⟩
        rw [dropEnd_append (by simp), List.replicate_succ', ← List.append_assoc, ← split]
      · exact ⟨0, by simp [dropEnd, same]⟩

namespace Placeholder

variable {core other : List Char}

/-- A frame makes up for the underscores that its core does not end with. -/
theorem framed_dropEnd (short : core.length ≤ width - 4) :
    framed (Text.dropEnd (· = '_') core) = framed core := by
  obtain ⟨count, split⟩ := Text.exists_replicate_dropEnd '_' core
  have total := congrArg List.length split
  rw [List.length_append, List.length_replicate] at total
  have padding : width - 2 - (Text.dropEnd (· = '_') core).length =
      count + (width - 2 - core.length) := by
    simp only [width] at short ⊢
    omega
  calc framed (Text.dropEnd (· = '_') core)
      = '_' :: '_' :: (Text.dropEnd (· = '_') core ++
          List.replicate (count + (width - 2 - core.length)) '_') := by rw [framed, padding]; rfl
    _ = '_' :: '_' :: ((Text.dropEnd (· = '_') core ++ List.replicate count '_') ++
          List.replicate (width - 2 - core.length) '_') := by
        rw [List.replicate_add, List.append_assoc]
    _ = framed core := by rw [← split]; rfl

/-- What stands between the first two underscores of a frame and its padding is the core, but
for the underscores that the core ends with. -/
theorem dropEnd_drop_framed (core : List Char) :
    Text.dropEnd (· = '_') ((framed core).drop 2) = Text.dropEnd (· = '_') core :=
  Text.dropEnd_append (fun _ member => decide_eq_true (List.eq_of_mem_replicate member)) core

/-- Two cores have one frame exactly when they differ in trailing underscores only. -/
theorem framed_eq_iff (short : core.length ≤ width - 4) (short' : other.length ≤ width - 4) :
    framed core = framed other ↔
      Text.dropEnd (· = '_') core = Text.dropEnd (· = '_') other := by
  constructor
  · intro same
    rw [← dropEnd_drop_framed core, same, dropEnd_drop_framed]
  · intro same
    rw [← framed_dropEnd short, same, framed_dropEnd short']

/-- **Legacy placeholders are forty characters long, and two names share one exactly when their
first thirty-six characters differ in trailing underscores only.** -/
theorem legacy_eq_iff (a b : List Char) :
    (legacy a).length = 40 ∧
      (legacy a = legacy b ↔
        Text.dropEnd (· = '_') (a.take 36) = Text.dropEnd (· = '_') (b.take 36)) :=
  ⟨length_legacy a, framed_eq_iff (length_core .legacy a) (length_core .legacy b)⟩

/-- Underscores are lost at the end of a name, and letters behind the thirty-sixth. -/
example : legacy "Müller__".toList = legacy "Müller".toList ∧
    legacy ("contracts/lib/ChannelLibrary.sol:Channel").toList =
      legacy ("contracts/lib/ChannelLibrary.sol:ChaLibrary").toList ∧
    legacy "_Math".toList ≠ legacy "Math".toList := by
  decide

end Placeholder

end Rollout
