/-
# Rollout.Proofs.Environment.Reference — a text as its references and what is between them

A reference is read at the front of a text exactly when the text begins with one that is
well-formed (`reference?_eq_some_iff`), so a text is either empty, or begins with a plain
character, or with a reference (`piecesInduction`).

Two texts behind one another are apart when no reference reaches from the first into the
second (`Apart`); then the variables are replaced in each of them by itself
(`splice_append`).  Where two texts are apart, what is put between them without a `}` is no
part of a reference of the first (`Apart.insert`).
-/
import Rollout.Environment.Basic
import Rollout.Proofs.Checked
import Rollout.Proofs.Text.Runs

namespace Rollout.Environment

set_option autoImplicit false

/-! ## References as they are written -/

namespace Reference

def closing : Option (List Char) → List Char
  | none => ['\x7d']
  | some fallback => ':' :: '-' :: (fallback ++ ['\x7d'])

def written (r : Reference) : List Char := '$' :: '\x7b' :: (r.name ++ closing r.fallback)

/-- A name that a reference can have. -/
def IsName (name : List Char) : Prop :=
  (∃ c rest, name = c :: rest ∧ startsName c = true ∧ ∀ d ∈ rest, continuesName d = true) ∧
    name.length ≤ nameLimit

/-- A text that a reference can fall back on. -/
def IsFallback (fallback : List Char) : Prop :=
  '\x7d' ∉ fallback ∧ fallback.length ≤ fallbackLimit

/-- A reference that can be written and read. -/
structure Valid (r : Reference) : Prop where
  name : IsName r.name
  fallback : ∀ fallback ∈ r.fallback, IsFallback fallback

theorem length_written (r : Reference) : r.written.length = r.length := by
  cases r with
  | mk name fallback => cases fallback <;> simp [written, closing, Reference.length]; omega

theorem closing_stops (fallback : Option (List Char)) (rest : List Char) :
    ∀ c ∈ (closing fallback ++ rest).head?, continuesName c = false := by
  cases fallback with
  | none => rintro c ⟨⟩; decide
  | some fallback => rintro c ⟨⟩; decide

end Reference

open Reference

variable {cs front back rest name : List Char} {r : Reference}

/-- Behind a name only a fallback with its end, or the end alone, is read. -/
theorem readFallback?_sound (reads : readFallback? name cs = some r) :
    r.name = name ∧ (∀ fallback ∈ r.fallback, IsFallback fallback) ∧
      ∃ rest, cs = closing r.fallback ++ rest := by
  unfold readFallback? at reads
  split at reads
  next rest =>
    obtain rfl := Option.some.inj reads
    exact ⟨rfl, by simp, rest, rfl⟩
  next text =>
    simp only at reads
    split at reads
    next less =>
      obtain rfl := Option.some.inj reads
      obtain ⟨c, rest, cut, closes⟩ := Text.exists_of_length_takeWhile_take_lt less
      obtain rfl : c = '\x7d' := by simpa using closes
      refine ⟨rfl, ?_, rest, by simpa [closing] using cut⟩
      rintro fallback ⟨⟩
      refine ⟨fun inside => ?_, ?_⟩
      · simpa using List.mem_takeWhile_imp inside
      · exact Nat.le_of_lt_succ (less.trans_le (List.length_take_le ..))
    next => cases reads
  next => cases reads

theorem readFallback?_complete (valid : ∀ fallback ∈ r.fallback, IsFallback fallback)
    (rest : List Char) : readFallback? r.name (closing r.fallback ++ rest) = some r := by
  obtain ⟨name, fallback⟩ := r
  cases fallback with
  | none => rfl
  | some fallback =>
      obtain ⟨inside, short⟩ := valid fallback rfl
      have found : ((fallback ++ '\x7d' :: rest).take (fallbackLimit + 1)).takeWhile
          (· ≠ '\x7d') = fallback :=
        Text.takeWhile_take_append_of_stops
          (fun c member => decide_eq_true (ne_of_mem_of_not_mem member inside))
          (by simp) (Nat.le_succ_of_le short)
      have less : fallback.length <
          ((fallback ++ '\x7d' :: rest).take (fallbackLimit + 1)).length := by
        rw [List.length_take, List.length_append, List.length_cons]
        omega
      have text : closing (some fallback) ++ rest =
          ':' :: '-' :: (fallback ++ '\x7d' :: rest) := by
        simp [closing]
      simp only [text, readFallback?, found, if_pos less]

theorem reference?_sound (reads : reference? cs = some r) :
    r.Valid ∧ ∃ rest, cs = r.written ++ rest := by
  unfold reference? at reads
  split at reads
  next c text =>
    split at reads
    next starts =>
      obtain ⟨named, fallbacks, rest, behind⟩ := readFallback?_sound reads
      have run : (text.take (nameLimit - 1)).takeWhile continuesName <+: text :=
        (List.takeWhile_prefix _).trans (List.take_prefix ..)
      have short : ((text.take (nameLimit - 1)).takeWhile continuesName).length < nameLimit :=
        ((List.takeWhile_prefix _).length_le.trans (List.length_take_le ..)).trans_lt (by decide)
      rw [List.length_cons, Nat.add_sub_cancel] at behind
      refine ⟨⟨⟨⟨c, _, named, starts, fun d member => List.mem_takeWhile_imp member⟩, ?_⟩,
        fallbacks⟩, rest, ?_⟩
      · rw [named, List.length_cons]
        exact short
      · have cut := List.prefix_iff_eq_append.mp run
        rw [behind] at cut
        rw [← cut, written, named]
        simp
    next => cases reads
  next => cases reads

theorem reference?_written (valid : r.Valid) (rest : List Char) :
    reference? (r.written ++ rest) = some r := by
  obtain ⟨⟨⟨c, text, named, starts, inside⟩, short⟩, fallbacks⟩ := valid
  have enough : text.length ≤ nameLimit - 1 := by
    rw [named, List.length_cons] at short
    exact Nat.le_sub_one_of_lt short
  have run : ((text ++ (closing r.fallback ++ rest)).take (nameLimit - 1)).takeWhile
      continuesName = text :=
    Text.takeWhile_take_append_of_stops inside (closing_stops _ _) enough
  have shape : r.written ++ rest =
      '$' :: '\x7b' :: c :: (text ++ (closing r.fallback ++ rest)) := by
    simp [written, named]
  rw [shape]
  simp only [reference?, starts, if_true, run, List.length_cons, Nat.add_sub_cancel,
    List.drop_left]
  rw [← named]
  exact readFallback?_complete fallbacks rest

/-- A reference is read at the front of a text **exactly when the text begins with it**. -/
theorem reference?_eq_some_iff :
    reference? cs = some r ↔ r.Valid ∧ ∃ rest, cs = r.written ++ rest := by
  constructor
  · exact reference?_sound
  · rintro ⟨valid, rest, rfl⟩
    exact reference?_written valid rest

/-- The only closing brace of a reference is its end. -/
theorem Reference.Valid.written_eq (valid : r.Valid) :
    ∃ inside, r.written = inside ++ ['\x7d'] ∧ '\x7d' ∉ inside := by
  obtain ⟨⟨⟨c, text, named, starts, continues⟩, -⟩, fallbacks⟩ := valid
  have name : '\x7d' ∉ r.name := by
    rw [named, List.mem_cons, not_or]
    exact ⟨fun same => absurd (same ▸ starts) (by decide),
      fun member => absurd (continues _ member) (by decide)⟩
  cases fallback : r.fallback with
  | none => exact ⟨'$' :: '\x7b' :: r.name, by simp [written, closing, fallback], by simp [name]⟩
  | some text =>
      have inside := (fallbacks text fallback).1
      exact ⟨'$' :: '\x7b' :: (r.name ++ ':' :: '-' :: text), by simp [written, closing, fallback],
        by simp [name, inside]⟩

/-! ## Pieces -/

theorem piecesFrom_eq (found : List Piece) (skip : Nat) (cs : List Char) :
    piecesFrom found skip cs = found.reverse ++ pieces (cs.drop skip) := by
  induction cs generalizing found skip with
  | nil => simp [piecesFrom, pieces]
  | cons c rest ih =>
      cases skip with
      | succ skip => exact ih found skip
      | zero =>
          simp only [List.drop_zero, pieces, piecesFrom]
          cases reference? (c :: rest) with
          | none => simp only [ih, List.reverse_cons, List.reverse_nil, List.nil_append,
              List.append_assoc]
          | some r => simp only [ih, List.reverse_cons, List.reverse_nil, List.nil_append,
              List.append_assoc]

theorem pieces_plain {c : Char} (none : reference? (c :: rest) = none) :
    pieces (c :: rest) = .plain c :: pieces rest := by
  rw [pieces, piecesFrom, none]
  exact piecesFrom_eq ..

theorem pieces_reference (valid : r.Valid) (rest : List Char) :
    pieces (r.written ++ rest) = .reference r :: pieces rest := by
  have reads := reference?_written valid rest
  have behind : (r.written ++ rest).tail.drop (r.length - 1) = rest := by
    rw [← r.length_written, List.drop_tail, Nat.sub_add_cancel (by simp [written]), List.drop_left]
  have shape : r.written ++ rest = '$' :: (r.written ++ rest).tail := rfl
  rw [shape] at reads ⊢
  rw [pieces, piecesFrom, reads]
  exact (piecesFrom_eq ..).trans (congrArg _ (congrArg pieces behind))

/-- A text is empty, begins with a plain character, or begins with a reference. -/
theorem piecesInduction {motive : List Char → Prop} (nil : motive [])
    (plain : ∀ c rest, reference? (c :: rest) = none → motive rest → motive (c :: rest))
    (reference : ∀ r rest, Reference.Valid r → motive rest → motive (r.written ++ rest))
    (cs : List Char) : motive cs := by
  induction length : cs.length using Nat.strongRecOn generalizing cs with
  | ind n ih =>
      cases reads : reference? cs with
      | none =>
          cases cs with
          | nil => exact nil
          | cons c rest =>
              exact plain c rest reads (ih _ (by rw [← length]; exact Nat.lt_succ_self _) rest rfl)
      | some r =>
          obtain ⟨valid, rest, rfl⟩ := reference?_eq_some_iff.mp reads
          refine reference r rest valid (ih _ ?_ rest rfl)
          rw [← length, List.length_append]
          exact Nat.lt_add_of_pos_left (by simp [written])

theorem pieces_of_plain (plain : '$' ∉ cs) : pieces cs = cs.map .plain := by
  induction cs with
  | nil => rfl
  | cons c rest ih =>
      obtain ⟨here, behind⟩ := not_or.mp (plain ∘ List.mem_cons.mpr)
      have none : reference? (c :: rest) = none := by
        unfold reference?
        split
        next same => exact absurd (List.cons.inj same).1.symm here
        next => rfl
      rw [pieces_plain none, ih behind, List.map_cons]

/-! ## Texts behind one another -/

/-- No reference reaches from the first text into the second. -/
def Apart (front back : List Char) : Prop := pieces (front ++ back) = pieces front ++ pieces back

instance : Decidable (Apart front back) := inferInstanceAs (Decidable (_ = _))

/-- A reference that is only there when more text follows reaches into that text, up to a
closing brace. -/
theorem exists_of_reference?_append (reads : reference? (front ++ back) = some r)
    (absent : reference? front = none) :
    r.Valid ∧ ∃ inside rest, r.written = front ++ inside ++ ['\x7d'] ∧
      '\x7d' ∉ front ++ inside ∧ back = inside ++ '\x7d' :: rest := by
  obtain ⟨valid, rest, whole⟩ := reference?_eq_some_iff.mp reads
  obtain ⟨inner, closed, open_⟩ := valid.written_eq
  refine ⟨valid, ?_⟩
  rcases List.append_eq_append_iff.mp whole with ⟨beyond, reaches, same⟩ | ⟨beyond, same, -⟩
  · rcases List.eq_nil_or_concat beyond with rfl | ⟨inside, last, rfl⟩
    · rw [List.append_nil] at reaches
      rw [← reaches, ← List.append_nil r.written, reference?_written valid] at absent
      cases absent
    · rw [List.concat_eq_append, ← List.append_assoc, closed] at reaches
      obtain ⟨rfl, ends⟩ := List.append_inj' reaches rfl
      obtain rfl : '\x7d' = last := List.head_eq_of_cons_eq ends
      refine ⟨inside, rest, closed, open_, ?_⟩
      rw [same, List.concat_eq_append, List.append_assoc]
      rfl
  · rw [same, reference?_written valid] at absent
    cases absent

/-- Texts are apart where what follows makes no reference out of the end of the first. -/
theorem Apart.of_kept
    (kept : ∀ s, s <:+ front → s ≠ [] → reference? s = none → reference? (s ++ back) = none) :
    Apart front back := by
  unfold Apart
  induction front using piecesInduction with
  | nil => rfl
  | plain c rest absent ih =>
      have absent' : reference? (c :: (rest ++ back)) = none :=
        kept _ (List.suffix_refl _) (List.cons_ne_nil c rest) absent
      rw [pieces_plain absent, List.cons_append, pieces_plain absent',
        ih fun s suffix => kept s (suffix.trans (List.suffix_cons ..))]
      rfl
  | reference r rest valid ih =>
      rw [List.append_assoc, pieces_reference valid, pieces_reference valid,
        ih fun s suffix => kept s (suffix.trans (List.suffix_append ..))]
      rfl

/-- No reference reaches into a text without a closing brace. -/
theorem Apart.of_not_close (never : '\x7d' ∉ back) : Apart front back := by
  refine .of_kept fun s _ _ absent => ?_
  cases reads : reference? (s ++ back) with
  | none => rfl
  | some r =>
      obtain ⟨-, inside, rest, -, -, rfl⟩ := exists_of_reference?_append reads absent
      exact absurd (by simp) never

/-- No reference begins in a text without a dollar sign. -/
theorem Apart.of_plain (plain : '$' ∉ front) : Apart front back := by
  refine .of_kept fun s suffix some absent => ?_
  cases reads : reference? (s ++ back) with
  | none => rfl
  | some r =>
      obtain ⟨-, inside, rest, reaches, -, -⟩ := exists_of_reference?_append reads absent
      cases s with
      | nil => exact absurd rfl some
      | cons c s =>
          obtain rfl : '$' = c := List.head_eq_of_cons_eq reaches
          exact absurd (suffix.subset List.mem_cons_self) plain

/-- What does not contain the end of `inside` stands in front of it. -/
theorem exists_of_append_eq_append_cons {line inside : List Char} {c : Char}
    (same : line ++ back = inside ++ c :: rest) (absent : c ∉ line) :
    ∃ behind, inside = line ++ behind ∧ back = behind ++ c :: rest := by
  rcases List.append_eq_append_iff.mp same with ⟨behind, rfl, left⟩ | ⟨beyond, rfl, left⟩
  · exact ⟨behind, rfl, left⟩
  · cases beyond with
    | nil => exact ⟨[], by simp, left.symm⟩
    | cons d beyond =>
        obtain rfl : c = d := List.head_eq_of_cons_eq left
        exact absurd (by simp) absent

/-- A reference that a comment stands in is one without it too: only what it falls back on
can contain a `#`. -/
theorem Reference.Valid.exists_without (valid : r.Valid) {line inside : List Char}
    (reaches : r.written = front ++ ('#' :: line ++ inside) ++ ['\x7d']) :
    ∃ r' : Reference, r'.Valid ∧ r'.written = front ++ inside ++ ['\x7d'] := by
  obtain ⟨⟨c, text, named, starts, continues⟩, short⟩ := valid.name
  have name : '#' ∉ r.name := by
    rw [named, List.mem_cons, not_or]
    exact ⟨fun same => absurd (same ▸ starts) (by decide),
      fun member => absurd (continues _ member) (by decide)⟩
  have cut : r.written = front ++ '#' :: (line ++ inside ++ ['\x7d']) := by
    rw [reaches]
    simp
  cases fallback : r.fallback with
  | none =>
      have member : '#' ∈ r.written := by
        rw [cut]
        simp
      simp [written, closing, fallback, name] at member
  | some text =>
      obtain ⟨never, limit⟩ := valid.fallback text fallback
      have whole : ('$' :: '\x7b' :: (r.name ++ [':', '-'])) ++ (text ++ ['\x7d']) =
          front ++ '#' :: (line ++ inside ++ ['\x7d']) := by
        rw [← cut]
        simp [written, closing, fallback]
      obtain ⟨kept, rfl, same⟩ := exists_of_append_eq_append_cons whole (by simp [name])
      have parts : text ++ ['\x7d'] = kept ++ ('#' :: line ++ inside) ++ ['\x7d'] := by
        rw [same]
        simp
      obtain rfl := List.append_cancel_right parts
      refine ⟨⟨r.name, some (kept ++ inside)⟩, ⟨valid.name, ?_⟩, by simp [written, closing]⟩
      rintro _ ⟨⟩
      simp only [List.mem_append, not_or, List.length_append, List.length_cons] at never limit
      exact ⟨by simp [never], by rw [List.length_append]; omega⟩

theorem Apart.of_cons {c : Char} (apart : Apart (c :: front) back)
    (absent : reference? (c :: front) = none) :
    reference? (c :: front ++ back) = none ∧ Apart front back := by
  unfold Apart at apart
  rw [pieces_plain absent] at apart
  cases reads : reference? (c :: front ++ back) with
  | some r =>
      obtain ⟨valid, rest, whole⟩ := reference?_eq_some_iff.mp reads
      rw [whole, pieces_reference valid] at apart
      cases List.head_eq_of_cons_eq apart
  | none =>
      rw [List.cons_append] at reads apart
      rw [pieces_plain reads] at apart
      exact ⟨rfl, List.tail_eq_of_cons_eq apart⟩

/-- **A comment without a closing brace is no part of a reference of what stands in front**,
unless that reaches into what follows anyway. -/
theorem Apart.insert (apart : Apart front back) {line : List Char}
    (never : '\x7d' ∉ '#' :: line) : Apart front ('#' :: line ++ back) := by
  induction front using piecesInduction with
  | nil => rfl
  | plain c front absent ih =>
      obtain ⟨absentBehind, apart⟩ := apart.of_cons absent
      have absentLine : reference? (c :: front ++ ('#' :: line ++ back)) = none := by
        cases reads : reference? (c :: front ++ ('#' :: line ++ back)) with
        | none => rfl
        | some r =>
            obtain ⟨valid, inside, rest, reaches, -, same⟩ :=
              exists_of_reference?_append reads absent
            obtain ⟨inside, rfl, rfl⟩ := exists_of_append_eq_append_cons same never
            obtain ⟨r', valid', written'⟩ := valid.exists_without reaches
            have shorter : c :: front ++ (inside ++ '\x7d' :: rest) = r'.written ++ rest := by
              rw [written']
              simp
            rw [shorter, reference?_written valid'] at absentBehind
            cases absentBehind
      rw [List.cons_append] at absentLine
      unfold Apart
      rw [List.cons_append, pieces_plain absentLine, pieces_plain absent, ih apart]
      rfl
  | reference r front valid ih =>
      unfold Apart at apart ⊢
      rw [List.append_assoc, pieces_reference valid, pieces_reference valid] at apart
      rw [List.append_assoc, pieces_reference valid, pieces_reference valid,
        ih (List.tail_eq_of_cons_eq apart)]
      rfl

/-! ## What is put in -/

variable {env : Environment}

theorem splice_plain {c : Char} (absent : reference? (c :: rest) = none) :
    env.splice (c :: rest) = (env.splice rest).map (c :: ·) := by
  unfold splice
  rw [pieces_plain absent, List.mapM_cons]
  cases (pieces rest).mapM (Piece.value env) <;> rfl

theorem splice_reference {r : Reference} (valid : r.Valid) (rest : List Char) :
    env.splice (r.written ++ rest) =
      (Piece.reference r).value env >>= fun value => (env.splice rest).map (value ++ ·) := by
  unfold splice
  rw [pieces_reference valid, List.mapM_cons]
  cases (Piece.reference r).value env with
  | error name => rfl
  | ok value => cases (pieces rest).mapM (Piece.value env) <;> rfl

theorem splice_append (apart : Apart front back) :
    env.splice (front ++ back) = env.splice front >>= fun text =>
      env.splice back >>= fun text' => .ok (text ++ text') := by
  unfold splice
  rw [apart, List.mapM_append]
  cases (pieces front).mapM (Piece.value env) with
  | error name => rfl
  | ok texts =>
      cases (pieces back).mapM (Piece.value env) with
      | error name => rfl
      | ok texts' => exact congrArg Except.ok List.flatten_append

theorem splice_of_plain (plain : '$' ∉ cs) : env.splice cs = .ok cs := by
  have values : (cs.map Piece.plain).mapM (Piece.value env) = .ok (cs.map fun c => [c]) := by
    rw [List.mapM_map]
    exact Checked.mapM_eq_map fun c _ => rfl
  rw [splice, pieces_of_plain plain, values]
  exact congrArg Except.ok (by simp [← List.flatMap_def])

end Rollout.Environment
