/-
# Rollout.Proofs.Environment.Replacement — replacing in place is splicing

Putting a value in place of some bytes leaves what stands in front of them and behind them
(`replaceRange_append`).  The references of a text are replaced from the last to the first, so
each is replaced while the text up to its end is still the one it was found in.  What comes out
is the text spliced from left to right (`replaceVariables_eq_splice`).
-/
import Rollout.Environment.Basic
import Rollout.Proofs.Environment.Reference

namespace Rollout.Environment

set_option autoImplicit false

open Reference

variable {env : Environment} {front piece back rest cs : List Char}

/-! ## Bytes -/

@[simp] theorem byteCount_nil : byteCount [] = 0 := rfl

@[simp] theorem byteCount_cons (c : Char) (cs : List Char) :
    byteCount (c :: cs) = c.utf8Size + byteCount cs := rfl

@[simp] theorem byteCount_append (front back : List Char) :
    byteCount (front ++ back) = byteCount front + byteCount back := by
  induction front with
  | nil => simp
  | cons c front ih => rw [List.cons_append, byteCount_cons, byteCount_cons, ih, Nat.add_assoc]

theorem byteCount_written (r : Reference) : Environment.byteCount r.written = r.byteCount := by
  have signs : '$'.utf8Size = 1 ∧ '\x7b'.utf8Size = 1 ∧ '\x7d'.utf8Size = 1 ∧
      ':'.utf8Size = 1 ∧ '-'.utf8Size = 1 := by decide
  obtain ⟨name, fallback⟩ := r
  cases fallback with
  | none => simp [written, closing, Reference.byteCount, signs]; omega
  | some text => simp [written, closing, Reference.byteCount, signs]; omega

theorem cutBytes_append (before front back : List Char) :
    cutBytes before (byteCount front) (front ++ back) = (front.reverse ++ before, back) := by
  induction front generalizing before with
  | nil => cases back <;> rfl
  | cons c rest ih =>
      have some : byteCount (c :: rest) ≠ 0 := by
        have := c.utf8Size_pos
        simp only [byteCount_cons]
        omega
      obtain ⟨count, counted⟩ := Nat.exists_eq_succ_of_ne_zero some
      have left : count + 1 - c.utf8Size = byteCount rest := by
        rw [← Nat.succ_eq_add_one, ← counted, byteCount_cons, Nat.add_sub_cancel_left]
      rw [counted, List.cons_append, cutBytes, left, ih]
      · simp
      · intro zero
        cases zero

/-- **A value takes the place of the bytes of a piece**, and nothing else changes. -/
theorem replaceRange_append (front piece back value : List Char) :
    replaceRange (byteCount front) (byteCount front + byteCount piece) value
      (front ++ piece ++ back) = front ++ value ++ back := by
  rw [replaceRange, List.append_assoc, cutBytes_append, Nat.add_sub_cancel_left]
  simp only [cutBytes_append]
  simp

/-! ## Occurrences -/

theorem occurrencesFrom_eq (found : List Occurrence) (offset : Nat) (ps : List Piece) :
    occurrencesFrom found offset ps = found.reverse ++ occurrencesFrom [] offset ps := by
  induction ps generalizing found offset with
  | nil => simp [occurrencesFrom]
  | cons p rest ih =>
      cases p with
      | plain c => exact ih found _
      | reference r =>
          simp only [occurrencesFrom]
          rw [ih (_ :: found), ih [_]]
          simp

/-- The text when all occurrences have been replaced, the last one first. -/
def replacedFrom (env : Environment) (offset : Nat) (ps : List Piece) (cs : List Char) :
    Except String (List Char) :=
  ((occurrencesFrom [] offset ps).mapM (Occurrence.replacement env)).map
    (·.foldr Replacement.apply cs)

theorem replacedFrom_reference (offset : Nat) (r : Reference) (ps : List Piece) :
    replacedFrom env offset (.reference r :: ps) cs =
      (Piece.reference r).value env >>= fun value =>
        (replacedFrom env (offset + r.byteCount) ps cs).map
          (replaceRange offset (offset + r.byteCount) value) := by
  unfold replacedFrom
  rw [occurrencesFrom, occurrencesFrom_eq, List.reverse_singleton, List.singleton_append,
    List.mapM_cons]
  cases found : (Piece.reference r).value env with
  | error name => simp only [Occurrence.replacement, found]; rfl
  | ok value =>
      simp only [Occurrence.replacement, found]
      cases (occurrencesFrom [] (offset + r.byteCount) ps).mapM (Occurrence.replacement env) with
      | error name => rfl
      | ok replacements => rfl

/-- Replacing what is found behind a front splices what stands there and leaves the front.
The induction is on the pieces from left to right; the last to be replaced are those found
first, when all that follows them is right already. -/
theorem replacedFrom_behind (front cs : List Char) :
    replacedFrom env (byteCount front) (pieces cs) (front ++ cs) =
      (env.splice cs).map (front ++ ·) := by
  induction cs using piecesInduction generalizing front with
  | nil => rfl
  | plain c rest absent ih =>
      have behind := ih (front ++ [c])
      simp only [byteCount_append, byteCount_cons, byteCount_nil, Nat.add_zero,
        List.append_assoc, List.singleton_append] at behind
      rw [pieces_plain absent, splice_plain absent]
      simp only [replacedFrom, occurrencesFrom] at behind ⊢
      rw [behind]
      cases env.splice rest <;> rfl
  | reference r rest valid ih =>
      have behind := ih (front ++ r.written)
      rw [byteCount_append, byteCount_written, List.append_assoc] at behind
      rw [pieces_reference valid, splice_reference valid, replacedFrom_reference, behind]
      cases (Piece.reference r).value env with
      | error name => rfl
      | ok value =>
          cases env.splice rest with
          | error name => rfl
          | ok text =>
              have placed := replaceRange_append front r.written text value
              rw [byteCount_written] at placed
              simpa [Except.map, bind, Except.bind] using placed

/-- **Replacing in place, the last reference first, is splicing from left to right.** -/
theorem replaceVariables_eq_splice (env : Environment) (cs : List Char) :
    env.replaceVariables cs = env.splice cs := by
  have whole : replacedFrom env 0 (pieces cs) cs = (env.splice cs).map ([] ++ ·) :=
    replacedFrom_behind [] cs
  have same : env.replaceVariables cs = replacedFrom env 0 (pieces cs) cs := by
    unfold replaceVariables replacedFrom occurrences
    cases (occurrencesFrom [] 0 (pieces cs)).mapM (Occurrence.replacement env) <;> rfl
  rw [same, whole]
  cases env.splice cs <;> rfl

end Rollout.Environment
