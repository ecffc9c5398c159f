/-
# Rollout.Proofs.Environment.Cutting — a text cut at its references

`Cuts` takes a text apart at its references, found leftmost first and without overlap: no
reference begins in what stands in front of the next one, and the search goes on behind it.
Every text is cut so in exactly one way (`exists_cuts`, `Cuts.unique`).

Splicing puts a value in the place of each of these references and leaves everything else
(`Cuts.splice_eq`); where a value is missing, it tells of the first reference that has none
(`Cuts.splice_unset`).
-/
import Rollout.Proofs.Environment.Reference

namespace Rollout.Environment

set_option autoImplicit false

open Reference

/-! ## Cutting -/

/-- A reference with what stands between it and the one before. -/
structure Segment where
  gap : List Char
  reference : Reference

/-- No reference begins in a part of a text that stands in front of `back`. -/
def Free (gap back : List Char) : Prop :=
  ∀ s, s <:+ gap → s ≠ [] → ∀ r : Reference, r.Valid → ¬ r.written <+: s ++ back

/-- A text cut at its references, found leftmost first and without overlap, and what stands
behind the last of them. -/
inductive Cuts : List Char → List Segment → List Char → Prop
  | last (tail : List Char) (free : Free tail []) : Cuts tail [] tail
  | next (gap : List Char) (r : Reference) {rest tail : List Char} {segments : List Segment}
      (free : Free gap (r.written ++ rest)) (valid : r.Valid) (behind : Cuts rest segments tail) :
      Cuts (gap ++ (r.written ++ rest)) (⟨gap, r⟩ :: segments) tail

/-- The text with something put in the place of each reference. -/
def filled (put : Reference → List Char) (segments : List Segment) (tail : List Char) :
    List Char :=
  segments.flatMap (fun s => s.gap ++ put s.reference) ++ tail

variable {env : Environment} {cs gap back rest tail tail' : List Char}
  {segments segments' : List Segment}

@[simp] theorem filled_cons (put : Reference → List Char) (s : Segment)
    (segments : List Segment) (tail : List Char) :
    filled put (s :: segments) tail = s.gap ++ (put s.reference ++ filled put segments tail) := by
  simp [filled]

/-- Nothing is read at the front of a text exactly when no reference stands there. -/
theorem reference?_eq_none_iff :
    reference? cs = none ↔ ∀ r : Reference, r.Valid → ¬ r.written <+: cs := by
  constructor
  · rintro absent r valid ⟨rest, rfl⟩
    rw [reference?_written valid] at absent
    cases absent
  · intro none
    cases reads : reference? cs with
    | none => rfl
    | some r =>
        obtain ⟨valid, rest, rfl⟩ := reference?_eq_some_iff.mp reads
        exact absurd (List.prefix_append _ _) (none r valid)

theorem free_nil (back : List Char) : Free [] back := by
  intro s suffix some
  exact absurd (List.suffix_nil.mp suffix) some

theorem free_cons {c : Char} :
    Free (c :: gap) back ↔ reference? (c :: (gap ++ back)) = none ∧ Free gap back := by
  rw [reference?_eq_none_iff]
  constructor
  · intro free
    refine ⟨free (c :: gap) (List.suffix_refl _) (List.cons_ne_nil _ _), ?_⟩
    intro s suffix some
    exact free s (suffix.trans (List.suffix_cons c gap)) some
  · rintro ⟨here, behind⟩ s suffix some
    rcases List.suffix_cons_iff.mp suffix with rfl | suffix
    · exact here
    · exact behind s suffix some

/-- **Every text can be cut at its references.** -/
theorem exists_cuts (cs : List Char) : ∃ segments tail, Cuts cs segments tail := by
  induction cs using piecesInduction with
  | nil => exact ⟨[], [], .last [] (free_nil [])⟩
  | plain c rest absent ih =>
      obtain ⟨segments, tail, cut⟩ := ih
      cases cut with
      | last _ free =>
          refine ⟨[], c :: rest, .last _ (free_cons.mpr ⟨?_, free⟩)⟩
          rwa [List.append_nil]
      | next gap r free valid behind =>
          exact ⟨_, tail, .next (c :: gap) r (free_cons.mpr ⟨absent, free⟩) valid behind⟩
  | reference r rest valid ih =>
      obtain ⟨segments, tail, cut⟩ := ih
      exact ⟨⟨[], r⟩ :: segments, tail, .next [] r (free_nil _) valid cut⟩

/-- A cut loses nothing: with its references written out it is the text. -/
theorem Cuts.text_eq (cut : Cuts cs segments tail) : filled written segments tail = cs := by
  induction cut with
  | last tail free => rfl
  | next gap r free valid behind ih => rw [filled_cons, ih]

/-- The first reference of a text stands at one place only. -/
theorem Free.eq_of_append_eq {gap' rest' : List Char} {r r' : Reference}
    (free : Free gap (r.written ++ rest)) (valid : r.Valid)
    (free' : Free gap' (r'.written ++ rest')) (valid' : r'.Valid)
    (same : gap ++ (r.written ++ rest) = gap' ++ (r'.written ++ rest')) :
    gap = gap' ∧ r = r' ∧ rest = rest' := by
  rcases List.append_eq_append_iff.mp same with ⟨more, longer, whole⟩ | ⟨more, longer, whole⟩
  · by_cases equal : more = []
    · subst equal
      have reads := congrArg reference? whole
      rw [List.nil_append, reference?_written valid, reference?_written valid'] at reads
      obtain rfl := Option.some.inj reads
      rw [List.append_nil] at longer
      exact ⟨longer.symm, rfl, List.append_cancel_left whole⟩
    · exact absurd ⟨rest, whole⟩ (free' more ⟨gap, longer.symm⟩ equal r valid)
  · by_cases equal : more = []
    · subst equal
      have reads := congrArg reference? whole
      rw [List.nil_append, reference?_written valid, reference?_written valid'] at reads
      obtain rfl := Option.some.inj reads
      rw [List.append_nil] at longer
      exact ⟨longer, rfl, (List.append_cancel_left whole).symm⟩
    · exact absurd ⟨rest', whole⟩ (free more ⟨gap', longer.symm⟩ equal r' valid')

/-- **A text can be cut at its references in one way only.** -/
theorem Cuts.unique (cut : Cuts cs segments tail) (cut' : Cuts cs segments' tail') :
    segments' = segments ∧ tail' = tail := by
  induction cut generalizing segments' tail' with
  | last tail free =>
      cases cut' with
      | last => exact ⟨rfl, rfl⟩
      | @next gap r rest tail segments _ valid _ =>
          -- A reference would begin in the text without any.
          have some : r.written ++ rest ≠ [] := by simp [written]
          have begins := free (r.written ++ rest) (List.suffix_append _ _) some r valid
          rw [List.append_nil] at begins
          exact absurd (List.prefix_append _ _) begins
  | @next gap r rest tail segments free valid behind ih =>
      generalize whole : gap ++ (r.written ++ rest) = text at cut'
      cases cut' with
      | last _ none =>
          have some : r.written ++ rest ≠ [] := by simp [written]
          have begins := none (r.written ++ rest) ⟨gap, whole⟩ some r valid
          rw [List.append_nil] at begins
          exact absurd (List.prefix_append _ _) begins
      | next gap' r' free' valid' behind' =>
          obtain ⟨rfl, rfl, rfl⟩ := free.eq_of_append_eq valid free' valid' whole
          obtain ⟨rfl, rfl⟩ := ih behind'
          exact ⟨rfl, rfl⟩

/-! ## Splicing -/

/-- What a reference stands for: the value of its variable, also when that is empty, or what
it falls back on. -/
def Reference.value? (env : Environment) (r : Reference) : Option (List Char) :=
  ((env.find? (String.ofList r.name)).map String.toList).or r.fallback

theorem value_reference (env : Environment) (r : Reference) :
    (Piece.reference r).value env =
      match r.value? env with
      | some value => .ok value
      | none => .error (String.ofList r.name) := by
  simp only [Piece.value, Reference.value?]
  cases env.find? (String.ofList r.name) with
  | some value => rfl
  | none => cases r.fallback <;> rfl

/-- What stands in front of the first reference is left as it is. -/
theorem Free.splice_eq (free : Free gap back) :
    env.splice (gap ++ back) = (env.splice back).map (gap ++ ·) := by
  induction gap with
  | nil =>
      rw [List.nil_append]
      cases env.splice back <;> rfl
  | cons c rest ih =>
      obtain ⟨absent, free⟩ := free_cons.mp free
      rw [List.cons_append, splice_plain absent, ih free]
      cases env.splice back <;> rfl

/-- **Where every reference has a value, the values take the places of the references.** -/
theorem Cuts.splice_eq (cut : Cuts cs segments tail) {value : Reference → List Char}
    (set : ∀ s ∈ segments, s.reference.value? env = some (value s.reference)) :
    env.splice cs = .ok (filled value segments tail) := by
  induction cut with
  | last tail free =>
      have plain : env.splice (tail ++ []) = (env.splice []).map (tail ++ ·) := free.splice_eq
      rw [List.append_nil] at plain
      rw [plain]
      exact congrArg Except.ok (List.append_nil tail)
  | next gap r free valid behind ih =>
      obtain ⟨here, others⟩ := List.forall_mem_cons.mp set
      rw [free.splice_eq, splice_reference valid, value_reference, here, ih others, filled_cons]
      rfl

/-- **Otherwise the first reference without a value is told.** -/
theorem Cuts.splice_unset (cut : Cuts cs segments tail) {before after : List Segment}
    {s : Segment} (split : segments = before ++ s :: after)
    (set : ∀ earlier ∈ before, earlier.reference.value? env ≠ none)
    (unset : s.reference.value? env = none) :
    env.splice cs = .error (String.ofList s.reference.name) := by
  induction cut generalizing before with
  | last tail free => simp at split
  | next gap r free valid behind ih =>
      rw [free.splice_eq, splice_reference valid, value_reference]
      cases before with
      | nil =>
          obtain ⟨rfl, rfl⟩ := List.cons.inj split
          rw [unset]
          rfl
      | cons first more =>
          obtain ⟨rfl, rest⟩ := List.cons.inj split
          obtain ⟨here, others⟩ := List.forall_mem_cons.mp set
          obtain ⟨value, known⟩ := Option.ne_none_iff_exists'.mp here
          rw [known, ih rest others]
          rfl

end Rollout.Environment
