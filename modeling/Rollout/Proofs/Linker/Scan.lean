/-
# Rollout.Proofs.Linker.Scan — the search for placeholders ends, and within the text

A round that starts within the text takes only bytes that are there, goes on behind the two
underscores that it found, and leaves labels without repetition, none of them empty
(`Scan.round_cases`).  So no search gets outside (`Scan.Reaches.sound`).  What it notes are the
labels of the windows that the text is cut into, and as each round takes at least two bytes it
comes to its end with them (`Scan.exists_ended`).
-/
import Rollout.Linker

namespace Rollout.Linker

set_option autoImplicit false

/-! ## Windows -/

section Windows

variable {bytes : List UInt8}

theorem slotsFrom_skip (count : Nat) (bytes : List UInt8) :
    slotsFrom count bytes = slotsFrom 0 (bytes.drop count) := by
  induction bytes generalizing count with
  | nil => rw [List.drop_nil, slotsFrom, slotsFrom]
  | cons byte rest ih =>
      cases count with
      | zero => rfl
      | succ count => exact ih count

/-- Without two underscores there is no window. -/
theorem slotsFrom_of_no_pair (none_left : pairAt? bytes = none) : slotsFrom 0 bytes = [] := by
  induction bytes with
  | nil => rfl
  | cons byte rest ih =>
      rw [pairAt?] at none_left
      rw [slotsFrom]
      split at none_left
      · cases none_left
      · next other =>
          rw [if_neg other]
          exact ih (Option.map_eq_none_iff.mp none_left)

/-- The first window starts at the first two underscores, and the others are those behind it. -/
theorem slotsFrom_of_pair {offset : Nat} (found : pairAt? bytes = some offset) :
    slotsFrom 0 bytes = (bytes.drop offset).take Placeholder.width ::
      slotsFrom 0 (bytes.drop (offset + Placeholder.width)) := by
  induction bytes generalizing offset with
  | nil => cases found
  | cons byte rest ih =>
      rw [pairAt?] at found
      rw [slotsFrom]
      split at found
      · next pair =>
          obtain rfl := Option.some.inj found
          rw [if_pos pair, slotsFrom_skip]
          rfl
      · next other =>
          obtain ⟨before, later, rfl⟩ := Option.map_eq_some_iff.mp found
          rw [if_neg other, ih later, List.drop_succ_cons, Nat.add_right_comm,
            List.drop_succ_cons]

theorem pairAt?_le {offset : Nat} (found : pairAt? bytes = some offset) :
    offset + 2 ≤ bytes.length := by
  induction bytes generalizing offset with
  | nil => cases found
  | cons byte rest ih =>
      rw [pairAt?] at found
      split at found
      · next pair =>
          obtain rfl := Option.some.inj found
          obtain ⟨more, rfl⟩ := List.head?_eq_some_iff.mp pair.2
          simp
      · obtain ⟨before, later, rfl⟩ := Option.map_eq_some_iff.mp found
        have ahead := ih later
        rw [List.length_cons]
        omega

theorem slice?_eq {start stop : Nat} (ordered : start ≤ stop) (within : stop ≤ bytes.length) :
    slice? bytes start stop = some ((bytes.drop start).take (stop - start)) := by
  rw [slice?, if_pos ⟨ordered, within⟩, List.drop_take]

end Windows

/-! ## Rounds -/

namespace Scan

variable {bytes : List UInt8} {s : Scan}

/-- A search that stands within the text, with labels none of which is empty or repeated. -/
structure Sound (bytes : List UInt8) (s : Scan) : Prop where
  within : s.position ≤ bytes.length
  distinct : s.labels.Nodup
  filled : "" ∉ s.labels

theorem sound_start (bytes : List UInt8) : Sound bytes start :=
  ⟨Nat.zero_le _, List.nodup_nil, List.not_mem_nil⟩

theorem label?_ne_empty {slot : List UInt8} : label? slot ≠ some "" := by
  intro labelled
  unfold label? at labelled
  split at labelled
  · dsimp only at labelled
    split at labelled
    · cases labelled
    · next filled =>
        have empty := congrArg String.toList (Option.some.inj labelled)
        rw [String.toList_ofList] at empty
        exact filled (List.isEmpty_iff.mpr empty)
  · cases labelled

theorem note_sound {labels : List String} (distinct : labels.Nodup) (filled : "" ∉ labels)
    (slot : List UInt8) : (note labels slot).Nodup ∧ "" ∉ note labels slot := by
  unfold note
  cases labelled : label? slot with
  | none => exact ⟨distinct, filled⟩
  | some label =>
      refine ⟨nodup_addNew label distinct, fun member => ?_⟩
      rcases mem_addNew.mp member with known | rfl
      · exact filled known
      · exact label?_ne_empty labelled

/-- The labels of some windows are noted one after another. -/
theorem foldl_note (slots : List (List UInt8)) (labels : List String) :
    slots.foldl note labels = (slots.filterMap label?).foldl addNew labels := by
  induction slots generalizing labels with
  | nil => rfl
  | cons slot rest ih =>
      rw [List.foldl_cons, ih]
      cases labelled : label? slot with
      | none => rw [List.filterMap_cons_none labelled, note, labelled]
      | some label => rw [List.filterMap_cons_some labelled, List.foldl_cons, note, labelled]

theorem slice?_rest (within : s.position ≤ bytes.length) :
    slice? bytes s.position bytes.length = some (bytes.drop s.position) := by
  rw [slice?_eq within (Nat.le_refl _), ← List.length_drop, List.take_length]

theorem round_eq_ended (within : s.position ≤ bytes.length)
    (none_left : pairAt? (bytes.drop s.position) = none) : s.round bytes = .ended := by
  simp only [round, slice?_rest within, none_left]

theorem round_eq_onward (within : s.position ≤ bytes.length) {offset : Nat} {slot : List UInt8}
    (found : pairAt? (bytes.drop s.position) = some offset)
    (taken : slice? bytes (s.position + offset)
      (min (s.position + offset + Placeholder.width) bytes.length) = some slot) :
    s.round bytes = .onward
      ⟨min (s.position + offset + Placeholder.width) bytes.length, note s.labels slot⟩ := by
  simp only [round, slice?_rest within, found, taken]

/-- A round that goes on behind a window, with the label of that noted. -/
structure Advance (bytes : List UInt8) (s : Scan) (slot : List UInt8) (next : Scan) : Prop where
  round : s.round bytes = .onward next
  ahead : s.position + 2 ≤ next.position
  within : next.position ≤ bytes.length
  labels : next.labels = note s.labels slot
  windows : slotsFrom 0 (bytes.drop s.position) = slot :: slotsFrom 0 (bytes.drop next.position)

/-- **What a round does** that starts within the text: there is no window left, and it says so,
or it goes on behind the first one. -/
theorem round_cases (within : s.position ≤ bytes.length) :
    (s.round bytes = .ended ∧ slotsFrom 0 (bytes.drop s.position) = []) ∨
      ∃ slot next, Advance bytes s slot next := by
  cases found : pairAt? (bytes.drop s.position) with
  | none => exact Or.inl ⟨round_eq_ended within found, slotsFrom_of_no_pair found⟩
  | some offset =>
      -- The end of the text may cut the window short, and then nothing stands behind it.
      let start := s.position + offset
      let stop := min (start + Placeholder.width) bytes.length
      let slot := (bytes.drop start).take Placeholder.width
      have both : offset + 2 ≤ bytes.length - s.position := by
        rw [← List.length_drop]
        exact pairAt?_le found
      have ahead : start + 2 ≤ stop := by
        simp only [start, stop, Placeholder.width]
        omega
      have taken : slice? bytes start stop = some slot := by
        rw [slice?_eq (by omega) (Nat.min_le_right ..), Option.some_inj, List.take_eq_take_iff,
          List.length_drop]
        omega
      have behind : bytes.drop stop = bytes.drop (start + Placeholder.width) := by
        rw [List.drop_eq_drop_iff]
        omega
      have windows := slotsFrom_of_pair found
      rw [List.drop_drop, List.drop_drop, ← Nat.add_assoc] at windows
      exact Or.inr ⟨slot, ⟨stop, note s.labels slot⟩, {
        round := round_eq_onward within found taken
        ahead := Nat.le_trans (by omega : s.position + 2 ≤ start + 2) ahead
        within := Nat.min_le_right ..
        labels := rfl
        windows := by rw [windows, behind] }⟩

/-- **A round keeps a search sound**, and takes nothing from outside the text. -/
theorem Sound.round (sound : Sound bytes s) :
    s.round bytes ≠ .outside ∧ ∀ next, s.round bytes = .onward next → Sound bytes next := by
  rcases round_cases sound.within with ⟨ended, -⟩ | ⟨slot, after, advance⟩
  · rw [ended]
    exact ⟨Round.noConfusion, fun _ other => Round.noConfusion other⟩
  · rw [advance.round]
    refine ⟨Round.noConfusion, fun next same => ?_⟩
    obtain rfl := Round.onward.inj same
    obtain ⟨distinct, filled⟩ := note_sound sound.distinct sound.filled slot
    rw [← advance.labels] at distinct filled
    exact ⟨advance.within, distinct, filled⟩

/-! ## Searches -/

/-- **A search stays within the text**, however far it goes. -/
theorem Reaches.sound {last : Scan} (run : Reaches bytes s last) (sound : Sound bytes s) :
    Sound bytes last := by
  induction run with
  | here => exact sound
  | onward round _ ih => exact ih (sound.round.2 _ round)

/-- **A search ends**, with the labels of the windows that were before it. -/
theorem exists_ended (within : s.position ≤ bytes.length) :
    ∃ last, Reaches bytes s last ∧ last.round bytes = .ended ∧
      last.labels =
        ((slotsFrom 0 (bytes.drop s.position)).filterMap label?).foldl addNew s.labels := by
  -- Each round leaves fewer bytes.
  induction left : bytes.length - s.position using Nat.strongRecOn generalizing s with
  | ind left ih =>
      subst left
      rcases round_cases within with ⟨ended, none_left⟩ | ⟨slot, next, advance⟩
      · refine ⟨s, .here s, ended, ?_⟩
        rw [none_left]
        rfl
      · have fewer : bytes.length - next.position < bytes.length - s.position := by
          have ahead := advance.ahead
          have inside := advance.within
          omega
        obtain ⟨last, run, ended, noted⟩ := ih _ fewer advance.within rfl
        refine ⟨last, .onward advance.round run, ended, ?_⟩
        rw [noted, advance.windows, advance.labels, ← foldl_note, ← foldl_note, List.foldl_cons]

theorem exists_ended_unlinked (l : Linker) :
    ∃ last, Reaches (Text.bytes l.code) start last ∧ last.round (Text.bytes l.code) = .ended ∧
      last.labels = l.unlinked :=
  exists_ended (s := start) (Nat.zero_le _)

end Scan

/-- What is left is told without repetition, and no label is empty. -/
theorem unlinked_sound (l : Linker) : l.unlinked.Nodup ∧ "" ∉ l.unlinked := by
  obtain ⟨last, run, -, labels⟩ := Scan.exists_ended_unlinked l
  have sound := run.sound (Scan.sound_start _)
  exact ⟨labels ▸ sound.distinct, labels ▸ sound.filled⟩

end Rollout.Linker
