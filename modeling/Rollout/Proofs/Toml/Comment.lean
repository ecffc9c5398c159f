/-
# Rollout.Proofs.Toml.Comment — lines between two expressions

Whole lines that are read by themselves are read first in any text that begins with them
(`expressionsFrom_beside`).  So a comment on a line of its own, between whole lines and what
follows them, says nothing (`expressions?_comment`).
-/
import Rollout.Proofs.Toml.Lines

namespace Rollout.Toml

set_option autoImplicit false

section

variable {last last' cs cs' : List Char} {n : Nat}

/-! ## One expression -/

theorem isPrefixOf_append (close rest : List Char) : close.isPrefixOf (close ++ rest) = true :=
  List.isPrefixOf_iff_prefix.mpr (List.prefix_append ..)

theorem stops_header {close : List Char} (inside : '\x0a' ∉ close) : Stops (header close) := by
  intro last last' ends n cs cs' beside
  refine (stops_key depthLimit ends beside).bind fun parts rest rest' beside => ?_
  rcases beside.literal ends close inside with
    ⟨after, after', rfl, rfl, behind⟩ | ⟨absent, absent'⟩
  · simp only [isPrefixOf_append, if_true, List.drop_left]
    exact .read _ behind
  · have closed {text : List Char} (absent : ∀ rest, text ≠ close ++ rest) :
        ¬ close.isPrefixOf text = true := fun opens => by
      obtain ⟨after, same⟩ := List.isPrefixOf_iff_prefix.mp opens
      exact absent after same.symm
    simp only [if_neg (closed absent), if_neg (closed absent')]
    exact .nothing

theorem expression_eq_pair {cs : List Char} (absent : ∀ rest, cs ≠ '[' :: rest) :
    expression cs = (pair (value depthLimit) cs).map fun (p, rest) => (.pair p, rest) := by
  unfold expression
  split
  next rest => exact absurd rfl (absent _)
  next rest => exact absurd rfl (absent _)
  next => rfl

theorem expression_eq_table {cs : List Char} (absent : ∀ rest, cs ≠ '[' :: rest) :
    expression ('[' :: cs) =
      (header [']'] cs).map fun ((path, name), rest) => (.table path name, rest) := by
  unfold expression
  split
  next rest same => exact absurd (List.cons.inj same).2 (absent rest)
  next rest _ same =>
    obtain ⟨-, rfl⟩ := List.cons.inj same
    rfl
  next _ table => exact absurd rfl (table cs)

/-- An expression is read of both texts, and there is something to it. -/
theorem expression_settles (ends : Ends last last') (short : last.length ≤ 1)
    (beside : Beside last last' n cs cs') {e : Expression} {rest : List Char}
    (reads : expression cs = some (e, rest)) : ∃ m rest', m < n ∧
      expression cs' = some (e, rest') ∧ Beside last last' m rest rest' := by
  rcases beside.headed ends (c := '[') (by decide) with
    ⟨m, after, after', rfl, rfl, rfl, behind⟩ | ⟨absent, absent'⟩
  · rcases behind.headed ends (c := '[') (by decide) with
      ⟨k, name, name', rfl, rfl, rfl, inside⟩ | ⟨absent, absent'⟩
    · obtain ⟨⟨found, left⟩, opened, same⟩ := Option.map_eq_some_iff.mp reads
      obtain ⟨rfl, rfl⟩ := Prod.mk.inj same
      obtain ⟨rest', opened', kept⟩ :=
        (stops_header (by decide)).settles ends short inside opened
      exact ⟨k, rest', by omega, congrArg (Option.map _) opened', kept⟩
    · rw [expression_eq_table absent] at reads
      rw [expression_eq_table absent']
      obtain ⟨⟨found, left⟩, opened, same⟩ := Option.map_eq_some_iff.mp reads
      obtain ⟨rfl, rfl⟩ := Prod.mk.inj same
      obtain ⟨rest', opened', kept⟩ :=
        (stops_header (by decide)).settles ends short behind opened
      exact ⟨m, rest', Nat.lt_succ_self m, by rw [opened']; rfl, kept⟩
  · rw [expression_eq_pair absent] at reads
    rw [expression_eq_pair absent']
    obtain ⟨⟨p, left⟩, found, same⟩ := Option.map_eq_some_iff.mp reads
    obtain ⟨rfl, rfl⟩ := Prod.mk.inj same
    obtain ⟨m, rest', less, found', kept⟩ :=
      (settles_value depthLimit).pair ends short beside found
    exact ⟨m, rest', less, by rw [found']; rfl, kept⟩

/-- The end of the line behind an expression. -/
theorem Beside.endLine? (ends : Ends last last') (beside : Beside last last' n cs cs') :
    (endLine? cs = none ∧ endLine? cs' = none) ∨
    (∃ rest rest', endLine? cs = some rest ∧ endLine? cs' = some rest' ∧
      Beside last last' n rest rest') ∨
    ∃ u u', last = '\x0a' :: u ∧ last' = '\x0a' :: u' ∧
      endLine? cs = some u ∧ endLine? cs' = some u' := by
  have behind := (beside.skipSpaces ends).skipComment ends
  unfold Toml.endLine?
  generalize Toml.skipComment (Toml.skipSpaces cs) = text,
    Toml.skipComment (Toml.skipSpaces cs') = text' at behind
  cases behind with
  | ends n => cases ends with
    | text => exact Or.inr (Or.inl ⟨[], [], rfl, rfl, .ends n⟩)
    | line u u' => exact Or.inr (Or.inr ⟨u, u', rfl, rfl, rfl, rfl⟩)
  | cons c rest =>
      simp only
      rcases (Beside.cons c rest).newline? ends with none | ⟨m, left, left', less, here, here', kept⟩ |
        past
      · exact Or.inl none
      · exact Or.inr (Or.inl ⟨left, left', here, here', kept.mono less.le⟩)
      · exact Or.inr (Or.inr past)

/-! ## Rows of expressions -/

theorem Beside.eq_of_text (beside : Beside [] [] n cs cs') : cs = cs' := by
  induction beside with
  | ends => rfl
  | cons c _ ih => rw [ih]

theorem Beside.eq_nil (ends : Ends last last') (beside : Beside last last' n cs cs')
    (past : cs = []) : last = [] ∧ last' = [] ∧ cs' = [] := by
  subst past
  cases beside with
  | ends => cases ends with
    | text => exact ⟨rfl, rfl, rfl⟩

/-- Steps enough for all lines are as good as any others. -/
theorem skipLines_enough {lines lines' : Nat} {cs : List Char} (enough : cs.length ≤ lines)
    (enough' : cs.length ≤ lines') : skipLines lines cs = skipLines lines' cs := by
  rcases (Beside.refl cs).skipLines .text (Nat.zero_le 1) enough enough' with
    same | ⟨-, _, _, none, -⟩
  · exact same.eq_of_text
  · cases none

/-- Where only blank lines and comments are left, the expressions are those read so far. -/
theorem expressionsFrom_of_nil {steps : Nat} {cs : List Char} (skipped : skipLines steps cs = [])
    (read : List Expression) : expressionsFrom (steps + 1) read cs = some read.reverse := by
  rw [expressionsFrom, skipped]

theorem expressionsFrom_nil {steps : Nat} (read : List Expression) :
    expressionsFrom (steps + 1) read [] = some read.reverse :=
  expressionsFrom_of_nil (by cases steps <;> rfl) read

/-- In front of anything but a comment stands an expression with the end of its line. -/
theorem expressionsFrom_cons {steps : Nat} {read : List Expression} {c : Char} {rest : List Char}
    (skipped : skipLines steps cs = c :: rest) (visible : c ≠ '#') :
    expressionsFrom (steps + 1) read cs = (expression (c :: rest)).bind fun (e, rest) =>
      (endLine? rest).bind fun rest => expressionsFrom steps (e :: read) rest := by
  rw [expressionsFrom, skipped]
  split
  next none => cases none
  next same => exact absurd (List.cons.inj same).1 visible
  next => rfl

/-- A comment without the end of its line ends the text. -/
theorem expressionsFrom_comment {steps : Nat} {read : List Expression} {rest : List Char}
    (skipped : skipLines steps cs = '#' :: rest) :
    expressionsFrom (steps + 1) read cs =
      if (rest.dropWhile isPlain).isEmpty then some read.reverse else none := by
  rw [expressionsFrom, skipped]
  rfl

/-- Reading goes on behind `last'` and its first line end, with all of `es` read. -/
def Continues (last' : List Char) (es : List Expression) (result : Option (List Expression)) :
    Prop :=
  ∃ left, last'.tail.length < left ∧ result = expressionsFrom left es.reverse last'.tail

theorem Continues.text (es : List Expression) : Continues [] es (some es) :=
  ⟨1, Nat.zero_lt_one, by rw [List.tail_nil, expressionsFrom_nil, List.reverse_reverse]⟩

/-- A comment at the end of one text is the end of the other. -/
theorem expressionsFrom_beside_comment (ends : Ends last last') {rest rest' : List Char}
    (behind : Beside last last' n rest rest') {steps steps' : Nat}
    (skipped : skipLines steps cs = '#' :: rest) (skipped' : skipLines steps' cs' = '#' :: rest')
    {read es : List Expression} (reads : expressionsFrom (steps + 1) read cs = some es) :
    Continues last' es (expressionsFrom (steps' + 1) read cs') := by
  rw [expressionsFrom_comment skipped] at reads
  rw [expressionsFrom_comment skipped']
  have dropped := behind.dropWhile ends (p := isPlain) rfl
  split at reads
  next silent =>
    obtain ⟨rfl, rfl, silent'⟩ := dropped.eq_nil ends (List.isEmpty_iff.mp silent)
    obtain rfl := Option.some.inj reads
    rw [silent']
    exact .text _
  next => cases reads

/-- **Whole lines that are read by themselves are read first** where more lines follow. -/
theorem expressionsFrom_beside (ends : Ends last last') (short : last.length ≤ 1)
    (beside : Beside last last' n cs cs') {steps steps' : Nat}
    (enough : n + last.length < steps) (enough' : n + last'.length < steps')
    {read es : List Expression} (reads : expressionsFrom steps read cs = some es) :
    Continues last' es (expressionsFrom steps' read cs') := by
  induction steps generalizing n cs cs' steps' read with
  | zero => cases reads
  | succ steps ih =>
      obtain ⟨steps', rfl⟩ : ∃ k, steps' = k + 1 := ⟨steps' - 1, by omega⟩
      rcases beside.skipLines ends short (Nat.le_of_lt_succ enough) (Nat.le_of_lt_succ enough')
        with behind | ⟨past, u', more, rfl, most, here⟩
      · generalize skipped : skipLines steps cs = text, skipped' : skipLines steps' cs' = text'
          at behind
        cases behind with
        | ends n => cases ends with
          | text =>
              obtain rfl := Option.some.inj ((expressionsFrom_of_nil skipped read).symm.trans reads)
              rw [expressionsFrom_of_nil skipped']
              exact .text _
          | line u u' =>
              obtain rfl : u = [] := List.eq_nil_of_length_eq_zero (by simpa using short)
              have none : expression ['\x0a'] = none := rfl
              rw [expressionsFrom_cons skipped (by decide), none] at reads
              cases reads
        | cons c behind =>
            by_cases hash : c = '#'
            · subst hash
              exact expressionsFrom_beside_comment ends behind skipped skipped' reads
            · rw [expressionsFrom_cons skipped hash] at reads
              rw [expressionsFrom_cons skipped' hash]
              obtain ⟨⟨e, rest⟩, found, reads⟩ := Option.bind_eq_some_iff.mp reads
              obtain ⟨after, ended, reads⟩ := Option.bind_eq_some_iff.mp reads
              obtain ⟨m, rest', less, found', kept⟩ :=
                expression_settles ends short (.cons c behind) found
              simp only [found', Option.bind_some]
              rcases kept.endLine? ends with ⟨none, -⟩ | ⟨left, left', here, here', kept⟩ |
                ⟨u, u', rfl, rfl, here, here'⟩
              · cases none.symm.trans ended
              · obtain rfl := Option.some.inj (here.symm.trans ended)
                rw [here', Option.bind_some]
                exact ih kept (show m + last.length < steps by omega)
                  (show m + last'.length < steps' by omega) reads
              · -- The line of the expression is the last of the front.
                obtain rfl : u = [] := List.eq_nil_of_length_eq_zero (by simpa using short)
                obtain rfl := Option.some.inj (here.symm.trans ended)
                obtain ⟨steps, rfl⟩ : ∃ k, steps = k + 1 := ⟨steps - 1, by simp at enough; omega⟩
                obtain rfl := Option.some.inj ((expressionsFrom_nil _).symm.trans reads)
                refine ⟨steps', ?_, ?_⟩
                · simp only [List.tail_cons, List.length_cons] at enough' ⊢
                  omega
                · rw [here', List.reverse_reverse]
                  rfl
      · obtain rfl := Option.some.inj ((expressionsFrom_of_nil past read).symm.trans reads)
        refine ⟨steps' + 1, ?_, ?_⟩
        · simp only [List.tail_cons, List.length_cons] at enough' ⊢
          omega
        · have same : skipLines steps' cs' = skipLines steps' u' := by
            rw [here]
            simp only [List.length_cons] at enough'
            exact skipLines_enough most (by omega)
          rw [List.reverse_reverse, List.tail_cons, expressionsFrom, same, expressionsFrom]

/-- Steps enough for a text are as good as any others. -/
theorem expressionsFrom_enough {steps steps' : Nat} {read : List Expression} {cs : List Char}
    (enough : cs.length < steps) (enough' : cs.length < steps') :
    expressionsFrom steps read cs = expressionsFrom steps' read cs := by
  have keeps {steps steps' : Nat} (enough : cs.length < steps) (enough' : cs.length < steps')
      (es : List Expression) (reads : expressionsFrom steps read cs = some es) :
      expressionsFrom steps' read cs = some es := by
    obtain ⟨left, positive, same⟩ :=
      expressionsFrom_beside .text (Nat.zero_le 1) (Beside.refl cs) enough enough' reads
    obtain ⟨left, rfl⟩ : ∃ k, left = k + 1 := ⟨left - 1, by simp at positive; omega⟩
    rw [same, List.tail_nil, expressionsFrom_nil, List.reverse_reverse]
  refine Option.ext fun es => ⟨keeps enough enough' es, keeps enough' enough es⟩

end

/-! ## A comment on a line of its own -/

/-- The two ends that a line can have. -/
def IsLineEnd (ending : List Char) : Prop := ending = ['\x0a'] ∨ ending = ['\x0d', '\x0a']

section

variable {front comment ending back : List Char} {es : List Expression}

theorem skipLines_comment (plain : ∀ c ∈ comment, isPlain c = true) (ends : IsLineEnd ending)
    (lines : Nat) :
    skipLines (lines + 1) ('#' :: comment ++ ending ++ back) = skipLines lines back := by
  have stopped : (ending ++ back).dropWhile isPlain = ending ++ back := by
    rcases ends with rfl | rfl <;> rfl
  have skipped : skipComment ('#' :: comment ++ ending ++ back) = ending ++ back := by
    rw [List.append_assoc, List.cons_append, skipComment, List.dropWhile_append_of_pos plain, stopped]
  have ended : newline? (ending ++ back) = some back := by
    rcases ends with rfl | rfl <;> rfl
  have spaced : skipSpaces ('#' :: comment ++ ending ++ back) = '#' :: comment ++ ending ++ back :=
    rfl
  rw [skipLines, spaced, skipped, ended]

theorem expressionsFrom_skip (plain : ∀ c ∈ comment, isPlain c = true) (ends : IsLineEnd ending)
    {steps : Nat} (enough : ('#' :: comment ++ ending ++ back).length < steps)
    (read : List Expression) :
    expressionsFrom steps read ('#' :: comment ++ ending ++ back) =
      expressionsFrom steps read back := by
  have longer : back.length + 1 ≤ ('#' :: comment ++ ending ++ back).length := by
    simp only [List.length_append, List.length_cons]
    omega
  obtain ⟨steps, rfl⟩ : ∃ k, steps = k + 2 := ⟨steps - 2, by omega⟩
  have same : skipLines steps back = skipLines (steps + 1) back :=
    skipLines_enough (by omega) (by omega)
  rw [expressionsFrom, skipLines_comment plain ends, same, expressionsFrom]

/-- Whole lines are read first, whatever follows them. -/
theorem expressionsFrom_append (whole : front.getLast? = some '\x0a')
    (reads : expressionsFrom (front.length + 2) [] front = some es) (back : List Char) :
    ∃ left, back.length < left ∧
      expressionsFrom ((front ++ back).length + 2) [] (front ++ back) =
        expressionsFrom left es.reverse back := by
  obtain ⟨init, rfl⟩ := List.getLast?_eq_some_iff.mp whole
  have beside := Beside.append init ['\x0a'] ('\x0a' :: back)
  have length : (init ++ ['\x0a'] ++ back).length = init.length + ('\x0a' :: back).length := by
    simp only [List.length_append, List.length_cons, List.length_nil]
    omega
  obtain ⟨left, enough, same⟩ := expressionsFrom_beside (.line [] back) (Nat.le_refl 1) beside
    (by simp only [List.length_append]; omega) (Nat.lt_add_of_pos_right Nat.two_pos) reads
  refine ⟨left, enough, ?_⟩
  rw [length, List.append_assoc]
  exact same

/-- Without a byte order mark in front, a comment between whole lines and what follows says
nothing. -/
theorem expressionsFrom_insert (whole : front.getLast? = some '\x0a')
    (reads : expressionsFrom (front.length + 2) [] front = some es)
    (plain : ∀ c ∈ comment, isPlain c = true) (ends : IsLineEnd ending) :
    expressionsFrom ((front ++ ('#' :: comment ++ ending ++ back)).length + 2) []
      (front ++ ('#' :: comment ++ ending ++ back)) =
    expressionsFrom ((front ++ back).length + 2) [] (front ++ back) := by
  obtain ⟨left, enough, same⟩ := expressionsFrom_append whole reads back
  obtain ⟨left', enough', same'⟩ :=
    expressionsFrom_append whole reads ('#' :: comment ++ ending ++ back)
  rw [same, same', expressionsFrom_skip plain ends enough']
  refine expressionsFrom_enough ?_ enough
  simp only [List.length_append, List.length_cons] at enough'
  omega

theorem expressions?_of_ne {c : Char} (visible : c ≠ '\ufeff') (cs : List Char) :
    expressions? (c :: cs) = expressionsFrom ((c :: cs).length + 2) [] (c :: cs) := by
  unfold expressions?
  split
  next same => exact absurd (List.cons.inj same).1 visible
  next => rfl

/-- **A comment between whole lines and what follows says nothing.** -/
theorem expressions?_comment (whole : front.getLast? = some '\x0a')
    (reads : expressions? front = some es) (plain : ∀ c ∈ comment, isPlain c = true)
    (ends : IsLineEnd ending) :
    expressions? (front ++ ('#' :: comment ++ ending ++ back)) = expressions? (front ++ back) := by
  cases front with
  | nil => cases whole
  | cons c front =>
      by_cases mark : c = '\ufeff'
      · subst mark
        have behind : front.getLast? = some '\x0a' := by
          cases front with
          | nil => simp at whole
          | cons next rest => rwa [List.getLast?_cons_cons] at whole
        exact expressionsFrom_insert behind reads plain ends
      · have marked (cs : List Char) := expressions?_of_ne mark cs
        exact (marked _).trans
          ((expressionsFrom_insert whole ((marked front).symm.trans reads) plain ends).trans
            (marked _).symm)

end

end Rollout.Toml
