/-
# Rollout.Proofs.Json.Naturals — which texts are natural numbers

The digits of a number are one text of it, and with white space around them they are all of them:
a numeral with a sign, a fraction or an exponent is no natural number, one with a leading zero is
no numeral, and one of more than 64 bits is a double (`eq_toDigits_of_value?`).  That nothing else
is a number follows from what the automaton of the tokens has seen whenever it stands between two
tokens or in a numeral (`Traced`), and from the machine, which makes a list or a table of
more than one token (`ofTokens?_cases`).
-/
import Rollout.Proofs.Json.Arrangement

namespace Rollout.Json

open Rollout.Document (Value)
open Rollout.Number (digitsValue)

set_option autoImplicit false

/-! ## Numerals -/

/-- A numeral with neither sign nor fraction nor exponent is all digits, without a leading zero. -/
theorem eq_whole_of_numeral? {cs : List Char} {n : Numeral} (read : numeral? cs = some n)
    (unsigned : n.negative = false) (noFraction : n.fraction = none)
    (noExponent : n.exponent = none) :
    cs = n.whole ∧ n.whole ≠ [] ∧ (∀ c ∈ n.whole, c.isDigit = true) ∧
      (n.whole.head? = some '0' → n.whole.length = 1) := by
  unfold numeral? at read
  split at read
  next negative rest sign =>
    cases span : spanDigits rest with
    | mk whole behind =>
      obtain ⟨digits, remain⟩ := Prod.mk.inj span
      rw [span] at read
      dsimp only at read
      by_cases bad : (whole.isEmpty || whole.head? == some '0' && decide (whole.length > 1)) = true
      · rw [if_pos bad] at read
        cases read
      rw [if_neg bad] at read
      have parts : n = ⟨negative, whole, none, none⟩ ∧ behind = [] := by
        split at read
        next fraction =>
          split at read
          · cases read
          · rw [Option.bind_eq_bind, Option.bind_some] at read
            dsimp only at read
            split at read
            · cases read
              cases noFraction
            · split at read
              · obtain ⟨e, -, rfl⟩ := Option.map_eq_some_iff.mp read
                cases noExponent
              · cases read
        next =>
          rw [Option.bind_eq_bind, Option.bind_some] at read
          dsimp only at read
          split at read
          · cases read
            exact ⟨rfl, rfl⟩
          · split at read
            · obtain ⟨e, -, rfl⟩ := Option.map_eq_some_iff.mp read
              cases noExponent
            · cases read
      obtain ⟨rfl, rfl⟩ := parts
      have all : rest = whole := by
        have joined : rest.takeWhile Char.isDigit ++ rest.dropWhile Char.isDigit = rest :=
          List.takeWhile_append_dropWhile
        rw [digits, remain, List.append_nil] at joined
        exact joined.symm
      simp only [Bool.or_eq_true, List.isEmpty_iff, Bool.and_eq_true, beq_iff_eq,
        decide_eq_true_eq, not_or, not_and] at bad
      have present := List.length_pos_of_ne_nil bad.1
      refine ⟨?_, bad.1, fun c member => List.mem_takeWhile_imp (digits ▸ member), fun zero => ?_⟩
      · split at sign
        · obtain ⟨rfl, -⟩ := Prod.mk.inj sign
          cases unsigned
        · exact (Prod.mk.inj sign).2.trans all
      · exact Nat.le_antisymm (Nat.le_of_not_lt (bad.2 zero)) present

/-- Only a numeral with neither sign nor fraction nor exponent has a natural number, and only one
of 64 bits. -/
theorem plain_of_value? {n : Numeral} {k : Nat} (value : n.value? = some (.nat k)) :
    n.negative = false ∧ n.fraction = none ∧ n.exponent = none ∧ digitsValue n.whole = k ∧
      k < Number.limit64 := by
  have noFloat {x : Option Float} : x.map Value.float ≠ some (.nat k) := by
    cases x <;> exact nofun
  obtain ⟨negative, whole, fraction, exponent⟩ := n
  unfold Numeral.value? at value
  dsimp only at value
  split at value
  next =>
    split at value
    · split at value
      · exact absurd value noFloat
      next small =>
        have below : -(digitsValue whole : Int) = k := Value.int.inj (Option.some.inj value)
        have notZero : digitsValue whole ≠ 0 := fun zero => small (Or.inl zero)
        omega
    next positive =>
      split at value
      next fits =>
        have same : (digitsValue whole : Int) = k := Value.int.inj (Option.some.inj value)
        obtain rfl := Int.ofNat.inj same
        exact ⟨by simpa using positive, rfl, rfl, rfl, fits⟩
      · exact absurd value noFloat
  · exact absurd value noFloat

/-- **A numeral of a natural number consists of its digits.** -/
theorem eq_toDigits_of_value? {cs : List Char} {n : Numeral} {k : Nat}
    (read : numeral? cs = some n) (value : n.value? = some (.nat k)) :
    cs = Nat.toDigits 10 k ∧ k < Number.limit64 := by
  obtain ⟨unsigned, noFraction, noExponent, rfl, small⟩ := plain_of_value? value
  obtain ⟨rfl, present, digits, leading⟩ :=
    eq_whole_of_numeral? read unsigned noFraction noExponent
  exact ⟨(Number.toDigits_digitsValue digits present leading).symm, small⟩

/-! ## White space -/

/-- White space between tokens. -/
def IsGap (c : Char) : Prop := c = ' ' ∨ c = '\x09' ∨ c = '\x0a' ∨ c = '\x0d'

/-- The digits of a number with white space around them. -/
def IsNatural (cs : List Char) (n : Nat) : Prop :=
  ∃ before after, cs = before ++ Nat.toDigits 10 n ++ after ∧ ∀ c ∈ before ++ after, IsGap c

theorem isBreak_of_gap {c : Char} (gap : IsGap c) : isBreak c = true := by
  rcases gap with rfl | rfl | rfl | rfl <;> rfl

theorem closes_gaps {cs : List Char} (gaps : ∀ c ∈ cs, IsGap c) : Closes cs [] := by
  induction cs with
  | nil => exact closes_nil
  | cons c rest ih =>
      obtain ⟨here, others⟩ := List.forall_mem_cons.mp gaps
      have one : Closes [c] [] := fun tokens => by
        rcases here with rfl | rfl | rfl | rfl <;> rfl
      exact one.append (ih others)

/-- Digits between white space are the token of their number. -/
theorem tokens?_of_isNatural {cs : List Char} {n : Nat} (natural : IsNatural cs n)
    (small : n < Number.limit64) : tokens? cs = some [.scalar (.nat n)] := by
  obtain ⟨before, after, rfl, gaps⟩ := natural
  obtain ⟨front, back⟩ := List.forall_mem_append.mp gaps
  have number := (closes_gaps front).append_yields (yields_digits small)
  cases after with
  | nil => simpa using tokens?_of_yields number
  | cons c rest =>
      have ends := isBreak_of_gap (back c (List.mem_cons_self ..))
      exact tokens?_of_yields (number.append_closes (closes_gaps back) ends).yields

/-! ## What the automaton has seen -/

/-- What has been read when the automaton stands between two tokens, or in a numeral, and there is
no token yet but a natural number. -/
structure Traced (cs : List Char) (state : State) (tokens : List Token) : Prop where
  blank : state = .between → tokens = [] → ∀ c ∈ cs, IsGap c
  begun : ∀ read, state = .number read → tokens = [] →
    ∃ before, cs = before ++ read.reverse ∧ ∀ c ∈ before, IsGap c
  natural : ∀ n : Nat, state = .between → tokens = [.scalar (.nat n)] →
    IsNatural cs n ∧ n < Number.limit64

/-- Whether a state is inside a token that is no numeral. -/
def State.isOther : State → Bool
  | .between | .number _ => false
  | _ => true

section Trace

variable {cs : List Char} {c : Char} {state next : State} {kept tokens tokens' : List Token}

/-- What a character starts: nothing, a numeral, another token with more to come, or a token. -/
theorem start_cases (started : start tokens c = some (next, tokens')) :
    (IsGap c ∧ next = .between ∧ tokens' = tokens) ∨
      (next = .number [c] ∧ tokens' = tokens) ∨
      next.isOther = true ∨
      ∃ t, (∀ v, t ≠ .scalar v) ∧ next = .between ∧ tokens' = t :: tokens := by
  unfold start at started
  repeat' split at started
  all_goals cases started
  next gap => exact Or.inl ⟨gap, rfl, rfl⟩
  -- The six marks, the quote, a sign or digit, and a letter.
  iterate 6 exact Or.inr (Or.inr (Or.inr ⟨_, by rintro v ⟨⟩, rfl, rfl⟩))
  · exact Or.inr (Or.inr (Or.inl rfl))
  · exact Or.inr (Or.inl ⟨rfl, rfl⟩)
  · exact Or.inr (Or.inr (Or.inl rfl))

/-- Inside another token nothing is said. -/
theorem Traced.other (other : state.isOther = true) : Traced cs state tokens := by
  have outside : state ≠ .between := by
    rintro rfl
    cases other
  have noNumber (read : List Char) : state ≠ .number read := by
    rintro rfl
    cases other
  exact ⟨fun same => absurd same outside, fun read same => absurd same (noNumber read),
    fun _ same => absurd same outside⟩

/-- A numeral that has begun. -/
theorem Traced.number {read : List Char}
    (begun : tokens = [] → ∃ before, cs = before ++ read.reverse ∧ ∀ c ∈ before, IsGap c) :
    Traced cs (.number read) tokens := by
  refine ⟨nofun, fun same known none => ?_, fun _ => nofun⟩
  obtain rfl := State.number.inj known
  exact begun none

/-- A token that is no number. -/
theorem Traced.token {t : Token} (noNumber : ∀ n : Nat, t ≠ .scalar (.nat n)) :
    Traced cs .between (t :: tokens) :=
  ⟨fun _ => nofun, nofun, fun n _ same => absurd (List.cons.inj same).1 (noNumber n)⟩

/-- The next character after a token. -/
theorem Traced.start (traced : Traced cs .between tokens)
    (started : start tokens c = some (next, tokens')) : Traced (cs ++ [c]) next tokens' := by
  rcases start_cases started with ⟨gap, rfl, rfl⟩ | ⟨rfl, rfl⟩ | other |
    ⟨t, noScalar, rfl, rfl⟩
  · refine ⟨fun _ none => ?_, nofun, fun n _ one => ?_⟩
    · exact List.forall_mem_append.mpr ⟨traced.blank rfl none, List.forall_mem_singleton.mpr gap⟩
    · obtain ⟨⟨before, after, rfl, gaps⟩, small⟩ := traced.natural n rfl one
      refine ⟨⟨before, after ++ [c], by rw [List.append_assoc], ?_⟩, small⟩
      rw [← List.append_assoc]
      exact List.forall_mem_append.mpr ⟨gaps, List.forall_mem_singleton.mpr gap⟩
  · exact .number fun none => ⟨cs, rfl, traced.blank rfl none⟩
  · exact .other other
  · exact .token fun n => noScalar _

/-- The end of a token. -/
theorem Traced.finish (traced : Traced cs state kept)
    (finished : finish kept state = some tokens) : Traced cs .between tokens := by
  cases state with
  | between =>
      obtain rfl := Option.some.inj finished
      exact traced
  | number read =>
      obtain ⟨numeral, known, value⟩ := Option.bind_eq_some_iff.mp finished
      obtain ⟨v, valued, done⟩ := Option.bind_eq_some_iff.mp value
      obtain rfl := Option.some.inj done
      refine ⟨fun _ => nofun, nofun, fun n _ one => ?_⟩
      obtain ⟨same, none⟩ := List.cons.inj one
      obtain rfl := Token.scalar.inj same
      obtain ⟨before, rfl, gaps⟩ := traced.begun read rfl none
      obtain ⟨digits, small⟩ := eq_toDigits_of_value? known valued
      exact ⟨⟨before, [], by rw [digits, List.append_nil], by rwa [List.append_nil]⟩, small⟩
  | word read =>
      obtain ⟨t, known, rfl⟩ := Option.map_eq_some_iff.mp finished
      refine .token fun n => ?_
      rintro rfl
      unfold word? at known
      repeat' split at known
      all_goals cases known
  | inText | escape | code | lead | leadEscape => cases finished

/-- The digits of a code lead on in a text. -/
theorem closeCode_inside {read : List Char} {lead : Option Nat} {value : Nat}
    (closed : closeCode read lead value = some next) : next.isOther = true := by
  unfold closeCode at closed
  repeat' split at closed
  all_goals cases closed
  all_goals rfl

/-- **A character is added to what has been seen.** -/
theorem Traced.step (traced : Traced cs state tokens)
    (steps : step (state, tokens) c = some (next, tokens')) : Traced (cs ++ [c]) next tokens' := by
  cases state with
  | between => exact traced.start steps
  | number read =>
      simp only [Json.step] at steps
      split at steps
      · obtain ⟨rfl, rfl⟩ := Prod.mk.inj (Option.some.inj steps)
        refine .number fun none => ?_
        obtain ⟨before, rfl, gaps⟩ := traced.begun read rfl none
        exact ⟨before, by simp, gaps⟩
      · obtain ⟨whole, finished, started⟩ := Option.bind_eq_some_iff.mp steps
        exact (traced.finish finished).start started
  | word read =>
      simp only [Json.step] at steps
      split at steps
      · obtain ⟨rfl, rfl⟩ := Prod.mk.inj (Option.some.inj steps)
        exact .other rfl
      · obtain ⟨whole, finished, started⟩ := Option.bind_eq_some_iff.mp steps
        exact (traced.finish finished).start started
  | inText read =>
      simp only [Json.step] at steps
      repeat' split at steps
      all_goals cases steps
      · exact .token fun n => by rintro ⟨⟩
      · exact .other rfl
      · exact .other rfl
  | escape read =>
      simp only [Json.step] at steps
      split at steps
      · obtain ⟨rfl, rfl⟩ := Prod.mk.inj (Option.some.inj steps)
        exact .other rfl
      · obtain ⟨e, -, same⟩ := Option.map_eq_some_iff.mp steps
        obtain ⟨rfl, rfl⟩ := Prod.mk.inj same
        exact .other rfl
  | code read lead digits value =>
      obtain ⟨d, -, later⟩ := Option.bind_eq_some_iff.mp steps
      split at later
      · obtain ⟨closed, known, same⟩ := Option.map_eq_some_iff.mp later
        obtain ⟨rfl, rfl⟩ := Prod.mk.inj same
        exact .other (closeCode_inside known)
      · obtain ⟨rfl, rfl⟩ := Prod.mk.inj (Option.some.inj later)
        exact .other rfl
  | lead | leadEscape =>
      simp only [Json.step] at steps
      split at steps
      · obtain ⟨rfl, rfl⟩ := Prod.mk.inj (Option.some.inj steps)
        exact .other rfl
      · cases steps

/-- **What the automaton has seen after a text.** -/
theorem traced_foldlM
    (steps : cs.foldlM Json.step (.between, []) = some (state, tokens)) :
    Traced cs state tokens := by
  induction cs using List.reverseRecOn generalizing state tokens with
  | nil =>
      obtain ⟨rfl, rfl⟩ := Prod.mk.inj (Option.some.inj steps)
      exact ⟨fun _ _ => nofun, nofun, fun _ _ => nofun⟩
  | append_singleton front c ih =>
      rw [List.foldlM_append] at steps
      obtain ⟨⟨before, kept⟩, first, last⟩ := Option.bind_eq_some_iff.mp steps
      rw [List.foldlM_cons] at last
      obtain ⟨⟨behind, more⟩, here, same⟩ := Option.bind_eq_some_iff.mp last
      obtain ⟨rfl, rfl⟩ := Prod.mk.inj (Option.some.inj same)
      exact (ih first).step here

end Trace

/-- **A text is one natural number exactly when it is the digits of one of 64 bits.** -/
theorem tokens?_eq_nat_iff {cs : List Char} {n : Nat} :
    tokens? cs = some [.scalar (.nat n)] ↔ n < Number.limit64 ∧ IsNatural cs n := by
  constructor
  · intro read
    obtain ⟨⟨state, kept⟩, steps, ends⟩ := Option.bind_eq_some_iff.mp read
    obtain ⟨tokens, finished, reversed⟩ := Option.map_eq_some_iff.mp ends
    obtain rfl : tokens = [.scalar (.nat n)] := List.reverse_eq_iff.mp reversed
    exact (((traced_foldlM steps).finish finished).natural n rfl rfl).symm
  · exact fun ⟨small, natural⟩ => tokens?_of_isNatural natural small

/-! ## The value of the tokens -/

namespace Machine

/-- Values that are more than one token. -/
def IsCompound (v : Value) : Prop := (∃ items, v = .list items) ∨ ∃ fields, v = .table fields

/-- A machine inside a list or table, or behind the outermost. -/
inductive Enclosed : Machine → Prop where
  | inside (frame : Frame) (frames : List Frame) (expect : Expect) :
      Enclosed ⟨frame :: frames, expect, none⟩
  | behind {v : Value} (compound : IsCompound v) : Enclosed ⟨[], .nothing, some v⟩

variable {m next : Machine} {t : Token} {v : Value} {frame : Frame} {frames : List Frame}

theorem enclosed_place_inside (v : Value) (frame : Frame) (frames : List Frame) :
    Enclosed (place v (frame :: frames)) := by
  cases frame with
  | list => exact .inside ..
  | table => exact .inside ..

theorem enclosed_place (compound : IsCompound v) : Enclosed (place v frames) := by
  cases frames with
  | nil => exact .behind compound
  | cons frame frames => exact enclosed_place_inside v frame frames

theorem enclosed_enter {expect : Expect} (enters : enter frame expect frames = some next) :
    Enclosed next := by
  unfold enter at enters
  split at enters
  · cases enters
    exact .inside ..
  · cases enters

theorem enclosed_value (values : value (frame :: frames) t = some next) : Enclosed next := by
  cases t with
  | scalar v =>
      cases values
      exact enclosed_place_inside v frame frames
  | openList | openTable => exact enclosed_enter values
  | closeList | closeTable | comma | colon => cases values

theorem enclosed_close (closes : close frames t = some next) : Enclosed next := by
  unfold close at closes
  split at closes
  · cases closes
    exact enclosed_place (Or.inl ⟨_, rfl⟩)
  · cases closes
    exact enclosed_place (Or.inr ⟨_, rfl⟩)
  · cases closes

theorem Enclosed.step (enclosed : Enclosed m) (steps : step m t = some next) : Enclosed next := by
  cases enclosed with
  | behind compound => cases steps
  | inside frame frames expect =>
      cases expect with
      | value => exact enclosed_value steps
      | itemOrEnd =>
          simp only [Machine.step] at steps
          split at steps
          · exact enclosed_close steps
          · exact enclosed_value steps
      | next =>
          simp only [Machine.step] at steps
          split at steps
          · cases steps
            exact .inside ..
          · cases steps
            exact .inside ..
          · exact enclosed_close steps
      | key orEnd =>
          simp only [Machine.step] at steps
          split at steps
          · cases steps
            exact .inside ..
          · split at steps
            · exact enclosed_close steps
            · cases steps
          · cases steps
      | colon =>
          simp only [Machine.step] at steps
          split at steps
          · cases steps
            exact .inside ..
          · cases steps
      | nothing => cases steps

theorem Enclosed.foldlM {tokens : List Token} (enclosed : Enclosed m)
    (steps : tokens.foldlM Machine.step m = some next) : Enclosed next := by
  induction tokens generalizing m with
  | nil =>
      obtain rfl := Option.some.inj steps
      exact enclosed
  | cons t rest ih =>
      rw [List.foldlM_cons] at steps
      obtain ⟨between, first, others⟩ := Option.bind_eq_some_iff.mp steps
      exact ih (enclosed.step first) others

end Machine

/-- **A value of more than one token is a list or a table.** -/
theorem ofTokens?_cases {tokens : List Token} {v : Value} (read : ofTokens? tokens = some v) :
    tokens = [.scalar v] ∨ Machine.IsCompound v := by
  obtain ⟨last, steps, result⟩ := Option.bind_eq_some_iff.mp read
  have compound {m : Machine} {rest : List Token} (enclosed : m.Enclosed)
      (others : rest.foldlM Machine.step m = some last) : Machine.IsCompound v := by
    cases enclosed.foldlM others with
    | inside => cases result
    | behind compound => exact Option.some.inj result ▸ compound
  cases tokens with
  | nil =>
      obtain rfl := Option.some.inj steps
      cases result
  | cons t rest =>
      rw [List.foldlM_cons] at steps
      obtain ⟨m, first, others⟩ := Option.bind_eq_some_iff.mp steps
      cases t with
      | scalar w =>
          cases first
          cases rest with
          | nil =>
              obtain rfl := Option.some.inj others
              obtain rfl := Option.some.inj result
              exact Or.inl rfl
          | cons => cases others
      | openList =>
          have enters : Machine.enter (.list []) .itemOrEnd [] = some m := first
          exact Or.inr (compound (Machine.enclosed_enter enters) others)
      | openTable =>
          have enters : Machine.enter (.table [] "") (.key true) [] = some m := first
          exact Or.inr (compound (Machine.enclosed_enter enters) others)
      | closeList | closeTable | comma | colon => cases first

namespace Arrangement

variable (a : Arrangement) {text : String} {n : Nat}

/-- Only a number is arranged as one. -/
theorem arrange_eq_nat_iff {v : Value} : a.arrange v = .nat n ↔ v = .nat n := by
  cases a with
  | asWritten => exact Iff.rfl
  | byName =>
      cases v with
      | int => exact Iff.rfl
      | null | bool | float | text | date | list | tables | table => exact ⟨nofun, nofun⟩

/-- **Which texts are natural numbers**: those of the digits of one of 64 bits. -/
theorem read?_eq_nat_iff :
    a.read? text = some (.nat n) ↔ n < Number.limit64 ∧ IsNatural text.toList n := by
  rw [← tokens?_eq_nat_iff, read?_eq]
  constructor
  · intro read
    obtain ⟨v, written, arranged⟩ := Option.map_eq_some_iff.mp read
    obtain rfl := a.arrange_eq_nat_iff.mp arranged
    obtain ⟨tokens, tokenized, value⟩ := Option.bind_eq_some_iff.mp written
    rcases ofTokens?_cases value with rfl | ⟨_, other⟩ | ⟨_, other⟩
    · exact tokenized
    · cases other
    · cases other
  · intro tokenized
    have written : readAsWritten? text = some (.nat n) := by
      rw [readAsWritten?, tokenized]
      rfl
    rw [written, Option.map_some, arrange_nat]

end Arrangement

end Rollout.Json
