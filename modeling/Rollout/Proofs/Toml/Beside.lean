/-
# Rollout.Proofs.Toml.Beside — two texts that agree up to a line

Two texts stand beside each other when they agree up to a place where both end, or where
both begin a new line (`Beside`).  A reader that stops at the line reads the same of both and
leaves rests that stand beside each other again (`Stops`).
-/
import Rollout.Proofs.Text.Runs
import Rollout.Toml.Reader

namespace Rollout.Toml

set_option autoImplicit false

/-! ## Two texts beside each other -/

/-- What two texts may go on with where they part: nothing, or a line end and anything. -/
inductive Ends : List Char → List Char → Prop
  | text : Ends [] []
  | line (u u' : List Char) : Ends ('\x0a' :: u) ('\x0a' :: u')

/-- Two texts that agree until they go on with `last` and `last'`, at most `n` characters
further on. -/
inductive Beside (last last' : List Char) : Nat → List Char → List Char → Prop
  | ends (n : Nat) : Beside last last' n last last'
  | cons {n : Nat} (c : Char) {cs cs' : List Char} (rest : Beside last last' n cs cs') :
      Beside last last' (n + 1) (c :: cs) (c :: cs')

/-- Two results that are the same, with rests beside each other. -/
inductive Alike {α : Type} (last last' : List Char) (n : Nat) :
    Option (α × List Char) → Option (α × List Char) → Prop
  | nothing : Alike last last' n none none
  | read (v : α) {rest rest' : List Char} (beside : Beside last last' n rest rest') :
      Alike last last' n (some (v, rest)) (some (v, rest'))

/-- A reader that looks no further than the line. -/
def Stops {α : Type} (p : Front α) : Prop :=
  ∀ ⦃last last' : List Char⦄, Ends last last' → ∀ ⦃n : Nat⦄ ⦃cs cs' : List Char⦄,
    Beside last last' n cs cs' → Alike last last' n (p cs) (p cs')

section

variable {α β : Type} {last last' cs cs' : List Char} {n m : Nat}

theorem Beside.mono (beside : Beside last last' n cs cs') (le : n ≤ m) :
    Beside last last' m cs cs' := by
  induction beside generalizing m with
  | ends => exact .ends m
  | cons c _ ih =>
      obtain ⟨m, rfl⟩ : ∃ m', m = m' + 1 := ⟨m - 1, by omega⟩
      exact .cons c (ih (by omega))

theorem Beside.refl (cs : List Char) : Beside [] [] cs.length cs cs := by
  induction cs with
  | nil => exact .ends 0
  | cons c rest ih => exact .cons c ih

theorem Beside.append (cs last last' : List Char) :
    Beside last last' cs.length (cs ++ last) (cs ++ last') := by
  induction cs with
  | nil => exact .ends 0
  | cons c rest ih => exact .cons c ih

theorem Beside.length_eq (beside : Beside last last' n cs cs') :
    cs.length + last'.length = cs'.length + last.length := by
  induction beside with
  | ends => omega
  | cons c _ ih => simp only [List.length_cons]; omega

/-- Behind a character of a line both texts go on. -/
theorem Beside.tail {c : Char} (ends : Ends last last') (beside : Beside last last' n (c :: cs) cs')
    (inside : c ≠ '\x0a') : ∃ m rest, n = m + 1 ∧ cs' = c :: rest ∧ Beside last last' m cs rest := by
  cases beside with
  | ends => cases ends with
    | line => exact absurd rfl inside
  | cons _ rest => exact ⟨_, _, rfl, rfl, rest⟩

/-- A character of the line stands at the front of both, or of neither. -/
theorem Beside.headed (ends : Ends last last') (beside : Beside last last' n cs cs') {c : Char}
    (inside : c ≠ '\x0a') :
    (∃ m rest rest', n = m + 1 ∧ cs = c :: rest ∧ cs' = c :: rest' ∧
      Beside last last' m rest rest') ∨
    (∀ rest, cs ≠ c :: rest) ∧ ∀ rest, cs' ≠ c :: rest := by
  cases beside with
  | ends => cases ends with
    | text => exact Or.inr ⟨by simp, by simp⟩
    | line u u' => exact Or.inr ⟨by simp [inside.symm], by simp [inside.symm]⟩
  | cons first rest =>
      by_cases same : first = c
      · subst same
        exact Or.inl ⟨_, _, _, rfl, rfl, rfl, rest⟩
      · exact Or.inr ⟨by simp [same], by simp [same]⟩

/-- A word stands at the front of both, or of neither. -/
theorem Beside.literal (ends : Ends last last') (beside : Beside last last' n cs cs')
    (word : List Char) (inside : '\x0a' ∉ word) :
    (∃ rest rest', cs = word ++ rest ∧ cs' = word ++ rest' ∧ Beside last last' n rest rest') ∨
      (∀ rest, cs ≠ word ++ rest) ∧ ∀ rest, cs' ≠ word ++ rest := by
  induction word generalizing n cs cs' with
  | nil => exact Or.inl ⟨cs, cs', rfl, rfl, beside⟩
  | cons first word ih =>
      have other : '\x0a' ≠ first := List.ne_of_not_mem_cons inside
      cases beside with
      | ends n => cases ends with
        | text => exact Or.inr ⟨by simp, by simp⟩
        | line u u' => exact Or.inr ⟨by simp [other], by simp [other]⟩
      | cons c rest =>
          by_cases same : c = first
          · subst same
            rcases ih rest (List.not_mem_of_not_mem_cons inside) with
              ⟨back, back', rfl, rfl, beside⟩ | ⟨absent, absent'⟩
            · exact Or.inl ⟨back, back', rfl, rfl, beside.mono (Nat.le_succ _)⟩
            · exact Or.inr ⟨by simpa using absent, by simpa using absent'⟩
          · exact Or.inr ⟨by simp [same], by simp [same]⟩

theorem Alike.mono {o o' : Option (α × List Char)} (alike : Alike last last' n o o') (le : n ≤ m) :
    Alike last last' m o o' := by
  cases alike with
  | nothing => exact .nothing
  | read v beside => exact .read v (beside.mono le)

theorem Alike.bind {o o' : Option (α × List Char)} {f f' : α × List Char → Option (β × List Char)}
    (alike : Alike last last' n o o')
    (next : ∀ v rest rest', Beside last last' n rest rest' →
      Alike last last' n (f (v, rest)) (f' (v, rest'))) :
    Alike last last' n (o >>= f) (o' >>= f') := by
  cases alike with
  | nothing => exact .nothing
  | read v beside => exact next v _ _ beside

theorem Alike.map {o o' : Option (α × List Char)} (alike : Alike last last' n o o') (g : α → β) :
    Alike last last' n (o.map fun (v, rest) => (g v, rest))
      (o'.map fun (v, rest) => (g v, rest)) := by
  cases alike with
  | nothing => exact .nothing
  | read v beside => exact .read (g v) beside

theorem Alike.or {o o' q q' : Option (α × List Char)} (first : Alike last last' n o o')
    (second : Alike last last' n q q') : Alike last last' n (o.or q) (o'.or q') := by
  cases first with
  | nothing => exact second
  | read v beside => exact .read v beside

theorem Alike.guard (P : Prop) [Decidable P] (v : α) (beside : Beside last last' n cs cs') :
    Alike last last' n (if P then some (v, cs) else none) (if P then some (v, cs') else none) := by
  split
  · exact .read v beside
  · exact .nothing

/-! ## Blanks, runs of characters and fixed numbers of them -/

theorem Beside.takeWhile (ends : Ends last last') (beside : Beside last last' n cs cs')
    {p : Char → Bool} (stops : p '\x0a' = false) : cs.takeWhile p = cs'.takeWhile p := by
  induction beside with
  | ends => cases ends with
    | text => rfl
    | line u u' => simp [stops]
  | cons c _ ih => simp only [List.takeWhile_cons, ih]

theorem Beside.dropWhile (ends : Ends last last') (beside : Beside last last' n cs cs')
    {p : Char → Bool} (stops : p '\x0a' = false) :
    Beside last last' n (cs.dropWhile p) (cs'.dropWhile p) := by
  induction beside with
  | ends n => cases ends with
    | text => exact .ends n
    | line u u' =>
        simp only [List.dropWhile_cons, stops]
        exact .ends n
  | cons c rest ih =>
      simp only [List.dropWhile_cons]
      split
      · exact ih.mono (Nat.le_succ _)
      · exact .cons c rest

theorem Beside.skipSpaces (ends : Ends last last') (beside : Beside last last' n cs cs') :
    Beside last last' n (skipSpaces cs) (skipSpaces cs') :=
  beside.dropWhile ends rfl

/-- So many characters from the front are the same in both and leave rests beside each other,
or in both they reach over the line. -/
theorem Beside.take (ends : Ends last last') (beside : Beside last last' n cs cs') (count : Nat) :
    (cs.take count = cs'.take count ∧ Beside last last' n (cs.drop count) (cs'.drop count)) ∨
    ((cs.take count).length < count ∨ '\x0a' ∈ cs.take count) ∧
      ((cs'.take count).length < count ∨ '\x0a' ∈ cs'.take count) := by
  induction beside generalizing count with
  | ends n =>
      cases count with
      | zero => exact Or.inl ⟨rfl, .ends n⟩
      | succ count => cases ends with
        | text => exact Or.inr ⟨Or.inl (by simp), Or.inl (by simp)⟩
        | line u u' => exact Or.inr ⟨Or.inr (by simp), Or.inr (by simp)⟩
  | cons c rest ih =>
      cases count with
      | zero => exact Or.inl ⟨rfl, .cons c rest⟩
      | succ count =>
          rcases ih count with ⟨same, beside⟩ | ⟨short, short'⟩
          · exact Or.inl ⟨by simp [same], beside.mono (Nat.le_succ _)⟩
          · refine Or.inr ⟨short.imp ?_ ?_, short'.imp ?_ ?_⟩
            all_goals simp +contextual

end

end Rollout.Toml
