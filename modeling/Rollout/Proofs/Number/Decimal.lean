/-
# Rollout.Proofs.Number.Decimal — digits, and which texts are decimal numbers

The digits of a number have its value (`digitsValue_toDigits`), and do not begin with a zero
unless they are one.  No other digits without a leading zero have this value
(`toDigits_digitsValue`).

The value only grows while digits are read, so a number that is too large is found out at the
first digit that makes it so, and one that is read in the end was small all the way
(`continueBelow_eq_ok_iff`).  A text is read exactly when it denotes a number below the bound
(`readBelow_eq_ok_iff`).
-/
import Mathlib.Data.List.Induction
import Rollout.Number.Decimal

set_option autoImplicit false

namespace Rollout.Number

/-! ## Digits -/

theorem digitsValue_eq (cs : List Char) : digitsValue cs = Nat.ofDigitChars 10 cs 0 := rfl

@[simp] theorem digitsValue_toDigits (n : Nat) : digitsValue (Nat.toDigits 10 n) = n := by
  rw [digitsValue_eq, Nat.ofDigitChars_ten_toDigits]

@[simp] theorem digitsValue_zeros_append (count : Nat) (cs : List Char) :
    digitsValue (List.replicate count '0' ++ cs) = digitsValue cs := by
  rw [digitsValue_eq, Nat.ofDigitChars_append, Nat.ofDigitChars_replicate_zero, Nat.mul_zero,
    digitsValue_eq]

theorem isDigit_of_mem_toDigits {n : Nat} {c : Char} (member : c ∈ Nat.toDigits 10 n) :
    c.isDigit = true :=
  Nat.isDigit_of_mem_toDigits (by decide) (by decide) member

/-- The digits of a number that is not zero begin with a digit that is not zero. -/
theorem exists_toDigits_eq_cons {n : Nat} (positive : 0 < n) :
    ∃ c rest, Nat.toDigits 10 n = c :: rest ∧ c ≠ '0' := by
  induction n using Nat.strongRecOn with
  | ind n ih =>
      rcases Nat.lt_or_ge n 10 with small | large
      · refine ⟨n.digitChar, [], Nat.toDigits_of_lt_base small, ?_⟩
        intro zero
        have value : n.digitChar.toNat - 48 = n := Nat.toNat_digitChar_sub_48_of_lt_ten small
        rw [zero] at value
        exact absurd positive (by simp [← value])
      · obtain ⟨c, rest, front, other⟩ := ih (n / 10) (by omega) (by omega)
        refine ⟨c, rest ++ [(n % 10).digitChar], ?_, other⟩
        rw [Nat.toDigits_of_base_le (by decide) large, front]
        rfl

theorem digitsValue_concat (front : List Char) (last : Char) :
    digitsValue (front ++ [last]) = 10 * digitsValue front + (last.toNat - 48) := by
  simp [digitsValue]

theorem digitsValue_singleton (c : Char) : digitsValue [c] = c.toNat - 48 := by
  simp [digitsValue]

theorem toNat_of_isDigit {c : Char} (digit : c.isDigit = true) : 48 ≤ c.toNat ∧ c.toNat ≤ 57 :=
  Char.isDigit_iff_toNat.mp digit

theorem toDigits_of_isDigit {c : Char} (digit : c.isDigit = true) :
    Nat.toDigits 10 (c.toNat - 48) = [c] := by
  obtain ⟨low, high⟩ := toNat_of_isDigit digit
  have table : ∀ n < 58, 48 ≤ n → Nat.toDigits 10 (n - 48) = [Char.ofNat n] := by decide
  rw [table c.toNat (by omega) low, Char.ofNat_toNat]

/-- **Digits without a leading zero are the digits of their value.** -/
theorem toDigits_digitsValue {cs : List Char} (digits : ∀ c ∈ cs, c.isDigit = true)
    (present : cs ≠ []) (leading : cs.head? = some '0' → cs.length = 1) :
    Nat.toDigits 10 (digitsValue cs) = cs := by
  induction cs using List.reverseRecOn with
  | nil => exact absurd rfl present
  | append_singleton front last ih =>
      have digit : last.isDigit = true := digits last (by simp)
      by_cases alone : front = []
      · subst alone
        rw [List.nil_append, digitsValue_singleton, toDigits_of_isDigit digit]
      · have first : front.head? ≠ some '0' := by
          intro zero
          have short := leading (by rw [List.head?_append, zero]; rfl)
          rw [List.length_append, List.length_singleton, Nat.add_eq_right] at short
          exact alone (List.length_eq_zero_iff.mp short)
        have before := ih (fun c member => digits c (List.mem_append_left _ member)) alone
          fun zero => absurd zero first
        have positive : 0 < digitsValue front := by
          refine Nat.pos_of_ne_zero fun zero => first ?_
          rw [← before, zero]
          rfl
        obtain ⟨low, high⟩ := toNat_of_isDigit digit
        rw [digitsValue_concat, ← Nat.toDigits_append_toDigits (by decide) positive (by omega),
          before, toDigits_of_isDigit digit]

/-! ## Numbers below a bound -/

/-- The text of a number: an optional plus sign and at least one decimal digit. -/
def Denotes (cs : List Char) (n : Nat) : Prop :=
  ∃ digits, digits ≠ [] ∧ (∀ c ∈ digits, c.isDigit = true) ∧
    (cs = digits ∨ cs = '+' :: digits) ∧ digitsValue digits = n

variable {bound value n : Nat} {cs : List Char}

theorem digit?_eq_some_iff {c : Char} {d : Nat} :
    digit? c = some d ↔ c.isDigit = true ∧ c.toNat - 48 = d := by
  have same : ('0' ≤ c ∧ c ≤ '9') ↔ c.isDigit = true := by
    rw [Char.isDigit, Bool.and_eq_true, decide_eq_true_eq, decide_eq_true_eq]
    exact Iff.rfl
  simp only [digit?, same]
  split
  next digit => simp [digit]
  next other => simp [other]

/-- Digits make a value no smaller. -/
theorem le_ofDigitChars (cs : List Char) (value : Nat) : value ≤ Nat.ofDigitChars 10 cs value := by
  induction cs generalizing value with
  | nil => exact Nat.le_refl value
  | cons c rest ih =>
      rw [Nat.ofDigitChars_cons]
      exact Nat.le_trans (by omega) (ih _)

/-- **A value is continued by digits alone, while it stays below the bound.** -/
theorem continueBelow_eq_ok_iff (small : value < bound) :
    continueBelow bound value cs = .ok n ↔
      (∀ c ∈ cs, c.isDigit = true) ∧ Nat.ofDigitChars 10 cs value = n ∧ n < bound := by
  induction cs generalizing value with
  | nil =>
      simp only [continueBelow, Except.ok.injEq, Nat.ofDigitChars_nil]
      constructor
      · rintro rfl
        exact ⟨by simp, rfl, small⟩
      · exact fun ⟨_, same, _⟩ => same
  | cons c rest ih =>
      have onward : Nat.ofDigitChars 10 (c :: rest) value =
          Nat.ofDigitChars 10 rest (10 * value + (c.toNat - 48)) := Nat.ofDigitChars_cons
      rw [List.forall_mem_cons, onward, continueBelow]
      cases known : digit? c with
      | none =>
          have other : ¬ c.isDigit = true := fun digit => by
            rw [digit?_eq_some_iff.mpr ⟨digit, rfl⟩] at known
            cases known
          simp [other]
      | some d =>
          obtain ⟨digit, rfl⟩ := digit?_eq_some_iff.mp known
          dsimp only
          split
          next fits => simp only [ih fits, digit, true_and]
          next large =>
            -- What is too large now is not smaller in the end.
            have grows := le_ofDigitChars rest (10 * value + (c.toNat - 48))
            simp only [reduceCtorEq, false_iff]
            rintro ⟨-, same, less⟩
            omega

/-- **A text is read as a number exactly when it denotes it.** -/
theorem readBelow_eq_ok_iff (positive : 0 < bound) :
    readBelow bound cs = .ok n ↔ n < bound ∧ Denotes cs n := by
  have noPlus {rest digits : List Char} (every : ∀ c ∈ digits, c.isDigit = true) :
      '+' :: rest ≠ digits := by
    rintro rfl
    exact absurd (every '+' (List.mem_cons_self ..)) (by decide)
  unfold readBelow
  split
  next =>
    simp only [reduceCtorEq, false_iff]
    rintro ⟨-, digits, present, -, rfl | other, -⟩
    · exact present rfl
    · cases other
  next =>
    simp only [reduceCtorEq, false_iff]
    rintro ⟨-, digits, present, every, same | other, -⟩
    · exact noPlus every same
    · exact present (List.cons.inj other).2.symm
  next rest more =>
    rw [continueBelow_eq_ok_iff positive]
    constructor
    · rintro ⟨every, same, less⟩
      exact ⟨less, rest, fun none => more (by rw [none]), every, Or.inr rfl, same⟩
    · rintro ⟨less, digits, -, every, same | other, value⟩
      · exact absurd same (noPlus every)
      · obtain rfl := (List.cons.inj other).2
        exact ⟨every, value, less⟩
  next present notPlus unsigned =>
    rw [continueBelow_eq_ok_iff positive]
    constructor
    · rintro ⟨every, same, less⟩
      exact ⟨less, cs, present, every, Or.inl rfl, same⟩
    · rintro ⟨less, digits, -, every, rfl | other, value⟩
      · exact ⟨every, value, less⟩
      · exact absurd other (unsigned digits)

end Rollout.Number
