/-
# Rollout.Proofs.Toml.Lines — readers that go over several lines

What is read of the front of a text by itself is read of it too where another line follows
(`Settles`): strings over several lines, arrays and values all end with a mark of their own,
so none of them reaches over the end of the front.
-/
import Rollout.Proofs.Toml.OneLine

namespace Rollout.Toml

open Document (Value)

set_option autoImplicit false

/-- What is read of a text that ends, or ends with its line, is read of the text with more
lines behind it. -/
def Settles {α : Type} (p : Front α) : Prop :=
  ∀ ⦃last last' : List Char⦄, Ends last last' → last.length ≤ 1 →
    ∀ ⦃n : Nat⦄ ⦃cs cs' : List Char⦄, Beside last last' n cs cs' →
      ∀ ⦃v : α⦄ ⦃rest : List Char⦄, p cs = some (v, rest) →
        ∃ rest', p cs' = some (v, rest') ∧ Beside last last' n rest rest'

theorem Stops.settles {α : Type} {p : Front α} (stops : Stops p) : Settles p := by
  intro last last' ends _ n cs cs' beside v rest read
  have alike := stops ends beside
  rw [read] at alike
  generalize p cs' = result at alike
  cases alike with
  | read _ beside => exact ⟨_, rfl, beside⟩

/-! ## Line ends -/

section

variable {last last' cs cs' : List Char} {n : Nat}

/-- The number of characters before the place where both part. -/
theorem Beside.tight (beside : Beside last last' n cs cs') : ∃ m ≤ n,
    Beside last last' m cs cs' ∧ cs.length = m + last.length ∧ cs'.length = m + last'.length := by
  induction beside with
  | ends n => exact ⟨0, Nat.zero_le n, .ends 0, by simp, by simp⟩
  | cons c _ ih =>
      obtain ⟨m, le, beside, length, length'⟩ := ih
      refine ⟨m + 1, Nat.succ_le_succ le, .cons c beside, ?_, ?_⟩
      · rw [List.length_cons, length]; omega
      · rw [List.length_cons, length']; omega

/-- At the front of both is no line end, or one with which neither is over, or the one where
they part. -/
theorem Beside.newline? (ends : Ends last last') (beside : Beside last last' n cs cs') :
    (newline? cs = none ∧ newline? cs' = none) ∨
    (∃ m rest rest', m < n ∧ newline? cs = some rest ∧ newline? cs' = some rest' ∧
      Beside last last' m rest rest') ∨
    ∃ u u', last = '\x0a' :: u ∧ last' = '\x0a' :: u' ∧
      newline? cs = some u ∧ newline? cs' = some u' := by
  cases beside with
  | ends n => cases ends with
    | text => exact Or.inl ⟨rfl, rfl⟩
    | line u u' => exact Or.inr (Or.inr ⟨u, u', rfl, rfl, rfl, rfl⟩)
  | @cons n c cs cs' rest =>
      by_cases feed : c = '\x0a'
      · subst feed
        exact Or.inr (Or.inl ⟨n, cs, cs', Nat.lt_succ_self n, rfl, rfl, rest⟩)
      · by_cases carriage : c = '\x0d'
        · subst carriage
          cases rest with
          | ends n => cases ends with
            | text => exact Or.inl ⟨rfl, rfl⟩
            | line u u' => exact Or.inr (Or.inr ⟨u, u', rfl, rfl, rfl, rfl⟩)
          | @cons n d cs cs' rest =>
              by_cases feed : d = '\x0a'
              · subst feed
                exact Or.inr (Or.inl ⟨n, cs, cs', by omega, rfl, rfl, rest⟩)
              · have none (cs : List Char) : Toml.newline? ('\x0d' :: d :: cs) = none := by
                  simp [Toml.newline?, feed]
                exact Or.inl ⟨none cs, none cs'⟩
        · have none (cs : List Char) : Toml.newline? (c :: cs) = none := by
            simp [Toml.newline?, feed, carriage]
          exact Or.inl ⟨none cs, none cs'⟩

theorem Beside.skipComment (ends : Ends last last') (beside : Beside last last' n cs cs') :
    Beside last last' n (skipComment cs) (skipComment cs') := by
  rcases beside.literal ends ['#'] (by decide) with
    ⟨rest, rest', rfl, rfl, behind⟩ | ⟨absent, absent'⟩
  · exact behind.dropWhile ends rfl
  · have kept {cs : List Char} (absent : ∀ rest, cs ≠ ['#'] ++ rest) : Toml.skipComment cs = cs := by
      unfold Toml.skipComment
      split
      next rest => exact absurd rfl (absent rest)
      next => rfl
    rw [kept absent, kept absent']
    exact beside

/-- Skipping lines, with enough steps for all of them, ends in both texts at the same place,
or goes over the place where they part. -/
theorem Beside.skipped (ends : Ends last last') (short : last.length ≤ 1)
    (skip : Nat → List Char → List Char) (front : List Char → List Char)
    (zero : ∀ cs, skip 0 cs = cs)
    (succ : ∀ lines cs, skip (lines + 1) cs =
      match Toml.newline? (front (Toml.skipSpaces cs)) with
      | some rest => skip lines rest
      | none => Toml.skipSpaces cs)
    (empty : front [] = [])
    (keeps : ∀ ⦃n : Nat⦄ ⦃cs cs' : List Char⦄, Beside last last' n cs cs' →
      Beside last last' n (front cs) (front cs'))
    (beside : Beside last last' n cs cs') {lines lines' : Nat}
    (enough : n + last.length ≤ lines) (enough' : n + last'.length ≤ lines') :
    Beside last last' n (skip lines cs) (skip lines' cs') ∨
    skip lines cs = [] ∧ ∃ u' more, last' = '\x0a' :: u' ∧ u'.length ≤ more ∧
      skip lines' cs' = skip more u' := by
  have nothing (lines : Nat) : skip lines [] = [] := by
    cases lines with
    | zero => exact zero []
    | succ lines =>
        rw [succ]
        simp [Toml.skipSpaces, empty, Toml.newline?]
  induction lines generalizing n cs cs' lines' with
  | zero =>
      obtain rfl : n = 0 := by omega
      cases ends with
      | line => simp at enough
      | text => cases beside with
        | ends =>
          rw [nothing, nothing]
          exact Or.inl (.ends 0)
  | succ lines ih =>
      have spaced := beside.skipSpaces ends
      cases lines' with
      | zero =>
          obtain rfl : n = 0 := by omega
          cases ends with
          | line => simp at enough'
          | text => cases beside with
            | ends =>
              rw [nothing, nothing]
              exact Or.inl (.ends 0)
      | succ lines' =>
          rw [succ, succ]
          rcases (keeps spaced).newline? ends with ⟨here, here'⟩ |
              ⟨m, rest, rest', less, here, here', behind⟩ | ⟨u, u', rfl, rfl, here, here'⟩
          · rw [here, here']
            exact Or.inl spaced
          · rw [here, here']
            exact (ih behind (by omega) (by omega)).imp_left fun beside => beside.mono (by omega)
          · obtain rfl : u = [] := List.eq_nil_of_length_eq_zero (by simpa using short)
            rw [here, here']
            exact Or.inr ⟨nothing lines, u', lines', rfl, by simp at enough'; omega, rfl⟩

theorem Beside.skipLines (ends : Ends last last') (short : last.length ≤ 1)
    (beside : Beside last last' n cs cs') {lines lines' : Nat}
    (enough : n + last.length ≤ lines) (enough' : n + last'.length ≤ lines') :
    Beside last last' n (skipLines lines cs) (skipLines lines' cs') ∨
    Toml.skipLines lines cs = [] ∧ ∃ u' more, last' = '\x0a' :: u' ∧ u'.length ≤ more ∧
      Toml.skipLines lines' cs' = Toml.skipLines more u' :=
  beside.skipped ends short Toml.skipLines Toml.skipComment (fun _ => rfl) (fun _ _ => rfl) rfl
    (fun _ _ _ beside => beside.skipComment ends) enough enough'

/-- A backslash that ends a line. -/
theorem Beside.joinedLine? (ends : Ends last last') (short : last.length ≤ 1)
    (beside : Beside last last' n cs cs') :
    (joinedLine? cs = none ∧ joinedLine? cs' = none) ∨
    (∃ rest rest', joinedLine? cs = some rest ∧ joinedLine? cs' = some rest' ∧
      Beside last last' n rest rest') ∨ joinedLine? cs = some [] := by
  rcases (beside.skipSpaces ends).newline? ends with ⟨here, here'⟩ |
      ⟨m, rest, rest', less, here, here', behind⟩ | ⟨u, u', rfl, rfl, here, here'⟩
  · exact Or.inl ⟨by rw [Toml.joinedLine?, here]; rfl, by rw [Toml.joinedLine?, here']; rfl⟩
  · obtain ⟨k, le, behind, length, length'⟩ := behind.tight
    have skipped := behind.skipped ends short skipBlankLines id (fun _ => rfl) (fun _ _ => rfl) rfl
      (fun _ _ _ beside => beside) length.ge length'.ge
    rw [Toml.joinedLine?, Toml.joinedLine?, here, here', Option.map_some, Option.map_some]
    rcases skipped with beside | ⟨past, -⟩
    · exact Or.inr (Or.inl ⟨_, _, rfl, rfl, beside.mono (by omega)⟩)
    · exact Or.inr (Or.inr (congrArg some past))
  · obtain rfl : u = [] := List.eq_nil_of_length_eq_zero (by simpa using short)
    rw [Toml.joinedLine?, here]
    exact Or.inr (Or.inr rfl)

/-! ## Strings over several lines -/

/-- As many characters are dropped from both as are in a run of the line. -/
theorem Beside.drop_run (ends : Ends last last') (beside : Beside last last' n cs cs')
    {p : Char → Bool} (stops : p '\x0a' = false) {count : Nat}
    (run : count ≤ (cs.takeWhile p).length) :
    Beside last last' n (cs.drop count) (cs'.drop count) := by
  induction beside generalizing count with
  | ends n =>
      have empty : last.takeWhile p = [] := by
        cases ends with
        | text => rfl
        | line u u' => simp [stops]
      obtain rfl : count = 0 := by simpa [empty] using run
      exact .ends n
  | @cons n c cs cs' behind ih =>
      cases count with
      | zero => exact .cons c behind
      | succ count =>
          rw [List.takeWhile_cons] at run
          split at run
          · exact (ih (Nat.le_of_succ_le_succ run)).mono (Nat.le_succ _)
          · cases run

/-- Marks at the front are counted and dropped in both. -/
theorem Beside.marks (ends : Ends last last') (beside : Beside last last' n cs cs') {mark : Char}
    (inside : mark ≠ '\x0a') : countMarks mark cs = countMarks mark cs' ∧
      Beside last last' n (cs.drop (countMarks mark cs)) (cs'.drop (countMarks mark cs)) := by
  have stops : decide ('\x0a' = mark) = false := decide_eq_false inside.symm
  constructor
  · rw [countMarks, countMarks, Text.takeWhile_take, Text.takeWhile_take, beside.takeWhile ends stops]
  · refine beside.drop_run ends (p := (· = mark)) stops ?_
    rw [countMarks, Text.takeWhile_take, List.length_take]
    exact Nat.min_le_right ..

theorem linesRest_nil {mark : Char} {steps : Nat} {read : List Char} :
    linesRest mark steps read [] = none := by
  cases steps <;> rfl

theorem linesRest_settles {mark : Char} (inside : mark ≠ '\x0a') (ends : Ends last last')
    (short : last.length ≤ 1) (beside : Beside last last' n cs cs') {steps steps' : Nat}
    (enough : n + last'.length ≤ steps') {read : List Char} {v : String} {rest : List Char}
    (reads : linesRest mark steps read cs = some (v, rest)) :
    ∃ rest', linesRest mark steps' read cs' = some (v, rest') ∧
      Beside last last' n rest rest' := by
  induction steps generalizing n cs cs' steps' read with
  | zero => cases reads
  | succ steps ih =>
      cases beside with
      | ends n => cases ends with
        | text => cases reads
        | line u u' =>
            obtain rfl : u = [] := List.eq_nil_of_length_eq_zero (by simpa using short)
            simp [linesRest, inside.symm, linesRest_nil, newline?] at reads
      | @cons n c cs cs' behind =>
          obtain ⟨steps', rfl⟩ : ∃ k, steps' = k + 1 := ⟨steps' - 1, by omega⟩
          -- Every way to go on leaves a text in which fewer characters are to come.
          have onward {m : Nat} {cs cs' read : List Char} (beside : Beside last last' m cs cs')
              (fewer : m ≤ n) (reads : linesRest mark steps read cs = some (v, rest)) :
              ∃ rest', linesRest mark steps' read cs' = some (v, rest') ∧
                Beside last last' (n + 1) rest rest' := by
            obtain ⟨rest', reads', beside⟩ :=
              ih beside (show m + last'.length ≤ steps' by omega) reads
            exact ⟨rest', reads', beside.mono (by omega)⟩
          obtain ⟨counted, dropped⟩ := (Beside.cons c behind).marks ends inside
          simp only [linesRest, ← counted] at reads ⊢
          split at reads
          next same =>
            rw [if_pos same]
            split at reads
            next closes =>
              obtain ⟨rfl, rfl⟩ := Prod.mk.inj (Option.some.inj reads)
              exact ⟨_, if_pos closes, dropped⟩
            next open' =>
              rw [if_neg open']
              exact onward behind (Nat.le_refl n) reads
          next other =>
            rw [if_neg other]
            split at reads
            next backslash =>
              rw [if_pos backslash]
              rcases behind.joinedLine? ends short with ⟨here, here'⟩ |
                  ⟨after, after', here, here', beside⟩ | here
              · rw [here] at reads
                rw [here']
                have escapes := stops_escaped ends behind
                generalize escaped cs = e, escaped cs' = e' at escapes reads
                cases escapes with
                | nothing => cases reads
                | read e beside => exact onward beside (Nat.le_refl n) reads
              · rw [here] at reads
                rw [here']
                exact onward beside (Nat.le_refl n) reads
              · rw [here] at reads
                cases linesRest_nil.symm.trans reads
            next plain =>
              rw [if_neg plain]
              rcases (Beside.cons c behind).newline? ends with ⟨here, here'⟩ |
                  ⟨m, after, after', less, here, here', beside⟩ | ⟨u, u', rfl, rfl, here, here'⟩
              · rw [here] at reads
                rw [here']
                simp only at reads ⊢
                split at reads
                next visible =>
                  rw [if_pos visible]
                  exact onward behind (Nat.le_refl n) reads
                next => cases reads
              · rw [here] at reads
                rw [here']
                exact onward beside (by omega) reads
              · obtain rfl : u = [] := List.eq_nil_of_length_eq_zero (by simpa using short)
                rw [here] at reads
                cases linesRest_nil.symm.trans reads

end

theorem settles_linesString {mark : Char} (inside : mark ≠ '\x0a') :
    Settles (linesString mark) := by
  intro last last' ends short n cs cs' beside v rest reads
  have read {m : Nat} {body body' : List Char} (beside : Beside last last' m body body')
      (fewer : m ≤ n) (reads : linesRest mark body.length [] body = some (v, rest)) :
      ∃ rest', linesRest mark body'.length [] body' = some (v, rest') ∧
        Beside last last' n rest rest' := by
    obtain ⟨k, le, beside, -, length'⟩ := beside.tight
    obtain ⟨rest', reads', beside⟩ :=
      linesRest_settles inside ends short beside length'.ge reads
    exact ⟨rest', reads', beside.mono (by omega)⟩
  unfold linesString at reads ⊢
  rcases beside.newline? ends with ⟨here, here'⟩ |
      ⟨m, after, after', less, here, here', behind⟩ | ⟨u, u', rfl, rfl, here, here'⟩
  · rw [here] at reads
    rw [here']
    exact read beside (Nat.le_refl n) reads
  · rw [here] at reads
    rw [here']
    exact read behind (by omega) reads
  · obtain rfl : u = [] := List.eq_nil_of_length_eq_zero (by simpa using short)
    rw [here] at reads
    cases reads

theorem string_eq_lineString {cs : List Char} (double : ∀ rest, cs ≠ ['\x22', '\x22', '\x22'] ++ rest)
    (single : ∀ rest, cs ≠ ['\x27', '\x27', '\x27'] ++ rest) : string cs = lineString cs := by
  unfold string
  split
  next rest => exact absurd rfl (double rest)
  next rest => exact absurd rfl (single rest)
  next => rfl

theorem settles_string : Settles string := by
  intro last last' ends short n cs cs' beside v rest reads
  rcases beside.literal ends ['\x22', '\x22', '\x22'] (by decide) with
    ⟨behind, behind', rfl, rfl, inside⟩ | ⟨double, double'⟩
  · exact settles_linesString (by decide) ends short inside reads
  · rcases beside.literal ends ['\x27', '\x27', '\x27'] (by decide) with
      ⟨behind, behind', rfl, rfl, inside⟩ | ⟨single, single'⟩
    · exact settles_linesString (by decide) ends short inside reads
    · rw [string_eq_lineString double single] at reads
      rw [string_eq_lineString double' single']
      exact stops_lineString.settles ends short beside reads

/-! ## Values -/

section

variable {value : Front Value} {last last' cs cs' : List Char} {n : Nat}

/-- Reading a key and its value goes at least over the equals sign. -/
theorem Settles.pair (settles : Settles value) (ends : Ends last last') (short : last.length ≤ 1)
    (beside : Beside last last' n cs cs') {p : Pair} {rest : List Char}
    (reads : pair value cs = some (p, rest)) : ∃ m rest', m < n ∧
      pair value cs' = some (p, rest') ∧ Beside last last' m rest rest' := by
  have keys := stops_key depthLimit ends beside
  unfold Toml.pair at reads ⊢
  generalize key depthLimit cs = k, key depthLimit cs' = k' at keys reads
  cases keys with
  | nothing => cases reads
  | read parts behind =>
      simp only [Option.bind_eq_bind, Option.bind_some] at reads ⊢
      split at reads
      next text =>
        obtain ⟨m, text', rfl, rfl, after⟩ := behind.tail ends (by decide)
        cases found : value (skipSpaces text) with
        | none =>
            rw [found] at reads
            cases reads
        | some result =>
            obtain ⟨v, left⟩ := result
            obtain ⟨rest', found', kept⟩ := settles ends short (after.skipSpaces ends) found
            rw [found] at reads
            obtain ⟨rfl, rfl⟩ := Prod.mk.inj (Option.some.inj reads)
            exact ⟨m, rest', Nat.lt_succ_self m, by simp [found'], kept⟩
      next => cases reads

theorem Settles.arrayRest (settles : Settles value) (empty : value [] = none)
    (ends : Ends last last') (short : last.length ≤ 1) (beside : Beside last last' n cs cs')
    {steps steps' : Nat} (enough : n + last.length < steps) (enough' : n + last'.length < steps')
    {read : List Value} {v : Value} {rest : List Char}
    (reads : arrayRest value steps read cs = some (v, rest)) :
    ∃ rest', arrayRest value steps' read cs' = some (v, rest') ∧
      Beside last last' n rest rest' := by
  induction steps generalizing n cs cs' steps' read with
  | zero => cases reads
  | succ steps ih =>
      obtain ⟨steps', rfl⟩ : ∃ k, steps' = k + 1 := ⟨steps' - 1, by omega⟩
      simp only [Toml.arrayRest] at reads ⊢
      rcases beside.skipLines ends short (Nat.le_of_lt_succ enough) (Nat.le_of_lt_succ enough')
        with behind | ⟨past, -⟩
      · generalize skipLines steps cs = items, skipLines steps' cs' = items' at behind reads
        rcases behind.literal ends [']'] (by decide) with
          ⟨after, after', rfl, rfl, left⟩ | ⟨absent, absent'⟩
        · obtain ⟨rfl, rfl⟩ := Prod.mk.inj (Option.some.inj reads)
          exact ⟨after', rfl, left⟩
        · split at reads
          next after => exact absurd rfl (absent after)
          next =>
          split
          next after => exact absurd rfl (absent' after)
          next =>
          cases found : value items with
          | none =>
              rw [found] at reads
              cases reads
          | some result =>
              obtain ⟨item, text⟩ := result
              obtain ⟨text', found', after⟩ := settles ends short behind found
              rw [found] at reads
              rw [found']
              simp only [Option.bind_eq_bind, Option.bind_some] at reads ⊢
              rcases after.skipLines ends short (Nat.le_of_lt_succ enough)
                (Nat.le_of_lt_succ enough') with after | ⟨past, -⟩
              · generalize skipLines steps text = left, skipLines steps' text' = left' at after reads
                split at reads
                next more =>
                  obtain ⟨m, more', rfl, rfl, beyond⟩ := after.tail ends (by decide)
                  obtain ⟨rest', reads', kept⟩ := ih beyond (show m + last.length < steps by omega)
                    (show m + last'.length < steps' by omega) reads
                  exact ⟨rest', reads', kept.mono (Nat.le_succ m)⟩
                next more =>
                  obtain ⟨m, more', rfl, rfl, beyond⟩ := after.tail ends (by decide)
                  obtain ⟨rfl, rfl⟩ := Prod.mk.inj (Option.some.inj reads)
                  exact ⟨more', rfl, beyond.mono (Nat.le_succ m)⟩
                next => cases reads
              · rw [past] at reads
                cases reads
      · rw [past] at reads
        simp [empty] at reads

theorem Settles.tableRest (settles : Settles value) (ends : Ends last last')
    (short : last.length ≤ 1) (beside : Beside last last' n cs cs') {steps steps' : Nat}
    (enough' : n < steps') {entries : Entries} {v : Value} {rest : List Char}
    (reads : tableRest value steps entries cs = some (v, rest)) :
    ∃ rest', tableRest value steps' entries cs' = some (v, rest') ∧
      Beside last last' n rest rest' := by
  induction steps generalizing n cs cs' steps' entries with
  | zero => cases reads
  | succ steps ih =>
      obtain ⟨steps', rfl⟩ : ∃ k, steps' = k + 1 := ⟨steps' - 1, by omega⟩
      simp only [Toml.tableRest] at reads ⊢
      cases found : Toml.pair value cs with
      | none =>
          rw [found] at reads
          cases reads
      | some result =>
          obtain ⟨p, text⟩ := result
          obtain ⟨m, text', less, found', behind⟩ := settles.pair ends short beside found
          rw [found] at reads
          rw [found']
          simp only [Option.bind_eq_bind, Option.bind_some] at reads ⊢
          cases put : entries.putDotted p.path p.name p.value with
          | none =>
              rw [put] at reads
              cases reads
          | some entries =>
              rw [put] at reads
              simp only [Option.bind_some] at reads ⊢
              have spaced := behind.skipSpaces ends
              generalize skipSpaces text = left, skipSpaces text' = left' at spaced reads
              split at reads
              next more =>
                obtain ⟨k, more', rfl, rfl, beyond⟩ := spaced.tail ends (by decide)
                obtain ⟨rest', reads', kept⟩ := ih beyond (show k < steps' by omega) reads
                exact ⟨rest', reads', kept.mono (by omega)⟩
              next more =>
                obtain ⟨k, more', rfl, rfl, beyond⟩ := spaced.tail ends (by decide)
                obtain ⟨rfl, rfl⟩ := Prod.mk.inj (Option.some.inj reads)
                exact ⟨more', rfl, beyond.mono (by omega)⟩
              next => cases reads

end

theorem value_eq_scalar {depth : Nat} {c : Char} {cs : List Char} (list : c ≠ '[')
    (table : c ≠ '\x7b') (yes : ∀ rest, c :: cs ≠ ['t', 'r', 'u', 'e'] ++ rest)
    (no : ∀ rest, c :: cs ≠ ['f', 'a', 'l', 's', 'e'] ++ rest) :
    value depth (c :: cs) = if c = '\x22' ∨ c = '\x27' then
      (string (c :: cs)).map fun (s, rest) => (.text s, rest) else number (c :: cs) := by
  unfold value
  split
  next same => exact absurd (List.cons.inj same).1 list
  next same => exact absurd (List.cons.inj same).1 table
  next rest same => exact absurd same (yes rest)
  next rest same => exact absurd same (no rest)
  next same =>
    obtain ⟨rfl, rfl⟩ := List.cons.inj same
    rfl
  next same => cases same

theorem value_true (depth : Nat) (rest : List Char) :
    value depth (['t', 'r', 'u', 'e'] ++ rest) = some (.bool true, rest) := by
  unfold value
  rfl

theorem value_false (depth : Nat) (rest : List Char) :
    value depth (['f', 'a', 'l', 's', 'e'] ++ rest) = some (.bool false, rest) := by
  unfold value
  rfl

theorem value_nil (depth : Nat) : value depth [] = none := by
  unfold value
  rfl

theorem value_feed (depth : Nat) : value depth ['\x0a'] = none := by
  rw [value_eq_scalar (by decide) (by decide) (by simp) (by simp)]
  rfl

section

variable {last last' cs cs' : List Char} {n depth : Nat} {v : Value} {rest : List Char}

/-- Everything but an array or an inline table. -/
theorem scalar_settles (ends : Ends last last') (short : last.length ≤ 1) {c : Char}
    (list : c ≠ '[') (table : c ≠ '\x7b') (beside : Beside last last' n (c :: cs) (c :: cs'))
    (reads : value depth (c :: cs) = some (v, rest)) :
    ∃ rest', value depth (c :: cs') = some (v, rest') ∧ Beside last last' n rest rest' := by
  rcases beside.literal ends ['t', 'r', 'u', 'e'] (by decide) with
    ⟨after, after', same, same', behind⟩ | ⟨yes, yes'⟩
  · cases same
    cases same'
    obtain ⟨rfl, rfl⟩ := Prod.mk.inj (Option.some.inj ((value_true depth after).symm.trans reads))
    exact ⟨after', value_true depth after', behind⟩
  · rcases beside.literal ends ['f', 'a', 'l', 's', 'e'] (by decide) with
      ⟨after, after', same, same', behind⟩ | ⟨no, no'⟩
    · cases same
      cases same'
      obtain ⟨rfl, rfl⟩ :=
        Prod.mk.inj (Option.some.inj ((value_false depth after).symm.trans reads))
      exact ⟨after', value_false depth after', behind⟩
    · rw [value_eq_scalar list table yes no] at reads
      rw [value_eq_scalar list table yes' no']
      split at reads
      next quote =>
        rw [if_pos quote]
        obtain ⟨⟨s, left⟩, found, same⟩ := Option.map_eq_some_iff.mp reads
        obtain ⟨rfl, rfl⟩ := Prod.mk.inj same
        obtain ⟨rest', found', kept⟩ := settles_string ends short beside found
        exact ⟨rest', by rw [found']; rfl, kept⟩
      next bare =>
        rw [if_neg bare]
        exact stops_number.settles ends short beside reads

theorem array_settles (nested : ∀ shallower, depth = shallower + 1 → Settles (value shallower))
    (ends : Ends last last') (short : last.length ≤ 1) (beside : Beside last last' n cs cs')
    (reads : value depth ('[' :: cs) = some (v, rest)) :
    ∃ rest', value depth ('[' :: cs') = some (v, rest') ∧ Beside last last' n rest rest' := by
  cases depth with
  | zero => cases reads
  | succ depth =>
      obtain ⟨m, le, tight, length, length'⟩ := beside.tight
      obtain ⟨rest', reads', kept⟩ := (nested depth rfl).arrayRest (value_nil depth) ends short tight
        (show m + last.length < cs.length + 2 by omega)
        (show m + last'.length < cs'.length + 2 by omega) reads
      exact ⟨rest', reads', kept.mono le⟩

theorem table_settles (nested : ∀ shallower, depth = shallower + 1 → Settles (value shallower))
    (ends : Ends last last') (short : last.length ≤ 1) (beside : Beside last last' n cs cs')
    (reads : value depth ('\x7b' :: cs) = some (v, rest)) :
    ∃ rest', value depth ('\x7b' :: cs') = some (v, rest') ∧ Beside last last' n rest rest' := by
  cases depth with
  | zero => cases reads
  | succ depth =>
      have spaced := beside.skipSpaces ends
      simp only [value] at reads ⊢
      generalize skipSpaces cs = text, skipSpaces cs' = text' at spaced reads
      rcases spaced.literal ends ['\x7d'] (by decide) with
        ⟨after, after', rfl, rfl, behind⟩ | ⟨absent, absent'⟩
      · obtain ⟨rfl, rfl⟩ := Prod.mk.inj (Option.some.inj reads)
        exact ⟨after', rfl, behind⟩
      · obtain ⟨m, le, tight, -, length'⟩ := spaced.tight
        split at reads
        next after => exact absurd rfl (absent after)
        next =>
          split
          next after => exact absurd rfl (absent' after)
          next =>
            obtain ⟨rest', reads', kept⟩ := (nested depth rfl).tableRest ends short tight
              (show m < text'.length + 2 by omega) reads
            exact ⟨rest', reads', kept.mono le⟩

end

theorem settles_value (depth : Nat) : Settles (value depth) := by
  have level (depth : Nat)
      (nested : ∀ shallower, depth = shallower + 1 → Settles (value shallower)) :
      Settles (value depth) := by
    intro last last' ends short n cs cs' beside v rest reads
    cases beside with
    | ends n => cases ends with
      | text => cases (value_nil depth).symm.trans reads
      | line u u' =>
          obtain rfl : u = [] := List.eq_nil_of_length_eq_zero (by simpa using short)
          cases (value_feed depth).symm.trans reads
    | cons c behind =>
        by_cases list : c = '['
        · subst list
          obtain ⟨rest', reads', kept⟩ := array_settles nested ends short behind reads
          exact ⟨rest', reads', kept.mono (Nat.le_succ _)⟩
        · by_cases table : c = '\x7b'
          · subst table
            obtain ⟨rest', reads', kept⟩ := table_settles nested ends short behind reads
            exact ⟨rest', reads', kept.mono (Nat.le_succ _)⟩
          · exact scalar_settles ends short list table (.cons c behind) reads
  induction depth with
  | zero => exact level 0 fun _ none => nomatch none
  | succ depth ih =>
      refine level (depth + 1) fun shallower same => ?_
      obtain rfl : depth = shallower := Nat.succ.inj same
      exact ih

end Rollout.Toml
