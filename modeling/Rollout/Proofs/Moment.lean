/-
# Rollout.Proofs.Moment — moments are read back

A number that is filled up with zeros to a width is read back as far as that width
(`number_padded`), and so is every part of a moment that is written as in RFC 3339, its
fraction in whichever number of digits (`readFraction_fractionText`).  A moment in one of
the years that have four digits is the moment that its text is read as (`ofText_text`).
-/
import Rollout.Moment
import Rollout.Proofs.Checked
import Rollout.Proofs.Number.Decimal
import Rollout.Proofs.Text.Runs

namespace Rollout

set_option autoImplicit false

open Checked (bind_eq_ok)
open Number (digitsValue)

theorem monthLength_le (year : Int) (month : Nat) : monthLength year month ≤ 31 := by
  unfold monthLength
  repeat' split
  all_goals decide

/-- A day of the calendar is the date of its numbers. -/
theorem Date.ofNumbers?_self (d : Date) : Date.ofNumbers? d.year d.month d.day = some d :=
  dif_pos d.valid

namespace Moment

/-! ## Numbers of a fixed width -/

section Padded

variable {width n : Nat}

theorem isDigit_of_mem_padded {c : Char} (member : c ∈ padded width n) : c.isDigit = true := by
  rcases List.mem_append.mp member with zero | digit
  · rw [List.eq_of_mem_replicate zero]
    rfl
  · exact Number.isDigit_of_mem_toDigits digit

@[simp] theorem digitsValue_padded (width n : Nat) : digitsValue (padded width n) = n := by
  rw [padded, Number.digitsValue_zeros_append, Number.digitsValue_toDigits]

theorem length_padded (positive : 0 < width) (small : n < Nat.pow 10 width) :
    (padded width n).length = width := by
  have fits : (Nat.toDigits 10 n).length ≤ width :=
    (Nat.length_toDigits_le_iff (by decide) positive).mpr small
  rw [padded, List.length_append, List.length_replicate]
  omega

/-- Something is written, and it begins with a digit. -/
theorem exists_padded_eq_cons (width n : Nat) :
    ∃ c rest, padded width n = c :: rest ∧ c.isDigit = true := by
  cases written : padded width n with
  | nil =>
      have empty : Nat.toDigits 10 n = [] := (List.append_eq_nil_iff.mp written).2
      exact absurd empty Nat.toDigits_ne_nil
  | cons c rest => exact ⟨c, rest, rfl, isDigit_of_mem_padded (written ▸ List.mem_cons_self)⟩

theorem takeWhile_padded (rest : List Char) (positive : 0 < width) (small : n < Nat.pow 10 width) :
    ((padded width n ++ rest).take width).takeWhile Char.isDigit = padded width n := by
  rw [List.take_left' (length_padded positive small)]
  exact List.takeWhile_eq_self_iff.mpr fun c member => isDigit_of_mem_padded member

theorem number_padded (rest : List Char) (positive : 0 < width) (small : n < Nat.pow 10 width) :
    number width (padded width n ++ rest) = .ok (n, rest) := by
  have written : padded width n ≠ [] := by
    obtain ⟨c, digits, written, -⟩ := exists_padded_eq_cons width n
    simp [written]
  unfold number
  rw [takeWhile_padded rest positive small]
  cases digits : padded width n with
  | nil => exact absurd digits written
  | cons c others =>
      simp only
      rw [← digits, digitsValue_padded, List.drop_left]

end Padded

/-! ## Parts -/

theorem isBlank_of_isDigit {c : Char} (digit : c.isDigit = true) : Text.isBlank c = false := by
  have bounds : 48 ≤ c.toNat ∧ c.toNat ≤ 57 := by
    simp only [Char.isDigit, Bool.and_eq_true, decide_eq_true_eq, ge_iff_le,
      UInt32.le_iff_toNat_le] at digit
    exact digit
  simp only [Text.isBlank, Bool.or_eq_false_iff, Bool.and_eq_false_imp, decide_eq_true_eq,
    decide_eq_false_iff_not, beq_eq_false_iff_ne]
  omega

theorem skipBlank_cons {c : Char} (rest : List Char) (visible : Text.isBlank c = false) :
    skipBlank (c :: rest) = c :: rest :=
  List.dropWhile_cons_of_neg (by simp [visible])

theorem skipBlank_padded (width n : Nat) (rest : List Char) :
    skipBlank (padded width n ++ rest) = padded width n ++ rest := by
  obtain ⟨c, others, written, digit⟩ := exists_padded_eq_cons width n
  rw [written]
  exact skipBlank_cons _ (isBlank_of_isDigit digit)

theorem within_padded {least most n : Nat} (rest : List Char) (low : least ≤ n) (high : n ≤ most)
    (small : n < 100) : within least most (padded 2 n ++ rest) = .ok (n, rest) := by
  unfold within
  rw [skipBlank_padded, number_padded rest (by decide) small]
  exact if_pos ⟨low, high⟩

theorem mark_cons {c : Char} (rest : List Char) (visible : Text.isBlank c = false) :
    mark c (c :: rest) = .ok rest := by
  unfold mark
  rw [skipBlank_cons rest visible]
  exact if_pos rfl

theorem readYear_yearText {year : Int} (rest : List Char) (low : 0 ≤ year)
    (high : year ≤ 9999) : readYear (yearText year ++ rest) = .ok (year, rest) := by
  have small : year.toNat < 10000 := by omega
  obtain ⟨c, others, written, digit⟩ := exists_padded_eq_cons 4 year.toNat
  rw [yearText, if_pos ⟨low, high⟩]
  unfold readYear
  rw [skipBlank_padded]
  split
  next sign =>
    rw [written] at sign
    injection sign with first
    simp [first] at digit
  next sign =>
    rw [written] at sign
    injection sign with first
    simp [first] at digit
  next =>
    rw [number_padded rest (by decide) small]
    exact congrArg (fun y => Except.ok (y, rest)) (Int.toNat_of_nonneg low)

/-- The digits behind the point are read as a fraction of a second. -/
theorem readFraction_padded {width n : Nat} {c : Char} (rest : List Char) (positive : 0 < width)
    (most : width ≤ 9) (small : n < Nat.pow 10 width) (ends : c.isDigit = false) :
    readFraction ('.' :: (padded width n ++ c :: rest)) =
      .ok (n * Nat.pow 10 (9 - width), c :: rest) := by
  have length := length_padded positive small
  have digits : ((padded width n ++ c :: rest).take 9).takeWhile Char.isDigit = padded width n :=
    Text.takeWhile_take_append_of_stops (fun c member => isDigit_of_mem_padded member)
      (by rintro _ ⟨⟩; exact ends) (length.trans_le most)
  unfold readFraction
  simp only [digits]
  cases written : padded width n with
  | nil => simp [written] at length; omega
  | cons first others =>
      simp only
      rw [← written, digitsValue_padded, List.drop_left, length,
        List.dropWhile_cons_of_neg (by simp [ends])]

/-- A fraction that is left out where it is zero is read back before the `Z`. -/
theorem readFraction_fractionText {nano : Nat} (small : nano < 1000000000) :
    readFraction (fractionText nano ++ ['Z']) = .ok (nano, ['Z']) := by
  unfold fractionText
  split
  next zero => rw [zero]; rfl
  next =>
    split
    next whole =>
      have fits : nano / 1000000 < 1000 := by omega
      have back : nano / 1000000 * 1000000 = nano := by omega
      rw [List.cons_append, readFraction_padded [] (by decide) (by decide) fits rfl]
      exact congrArg (fun n => Except.ok (n, ['Z'])) back
    next =>
      split
      next whole =>
        have fits : nano / 1000 < 1000000 := by omega
        have back : nano / 1000 * 1000 = nano := by omega
        rw [List.cons_append, readFraction_padded [] (by decide) (by decide) fits rfl]
        exact congrArg (fun n => Except.ok (n, ['Z'])) back
      next =>
        rw [List.cons_append, readFraction_padded [] (by decide) (by decide) small rfl]
        exact congrArg (fun n => Except.ok (n, ['Z'])) (Nat.mul_one nano)

/-! ## Moments -/

/-- At no offset the numbers of a moment are its own. -/
theorem ofNumbers_self (m : Moment) (possible : isYear m.date.year = true) :
    ofNumbers m.date m.hour m.minute m.second m.nano 0 = .ok m := by
  have valid := m.valid
  have early : ¬ (60 * (m.hour : Int) + m.minute - 0 < 0) := by omega
  have late : ¬ (1440 ≤ 60 * (m.hour : Int) + m.minute - 0) := by omega
  have hour : (60 * (m.hour : Int) + m.minute - 0).toNat / 60 = m.hour := by omega
  have minute : (60 * (m.hour : Int) + m.minute - 0).toNat % 60 = m.minute := by omega
  unfold ofNumbers
  simp only [if_neg early, if_neg late, hour, minute, possible, Bool.not_true, Bool.false_eq_true,
    if_false, dif_pos valid]

/-- A moment in a year of four digits is read back from its text. -/
theorem ofText_text (m : Moment) (low : 0 ≤ m.date.year) (high : m.date.year ≤ 9999) :
    ofText m.text = .ok m := by
  obtain ⟨⟨monthLow, monthHigh⟩, dayLow, dayHigh⟩ := m.date.valid
  have longest := monthLength_le m.date.year m.date.month
  obtain ⟨hour, minute, second, nano⟩ := m.valid
  have possible : isYear m.date.year = true := by
    simp only [isYear, Bool.and_eq_true, decide_eq_true_eq]
    omega
  rw [ofText, text, String.toList_ofList, chars]
  simp only [List.append_assoc, List.cons_append]
  refine bind_eq_ok.mpr ⟨_, readYear_yearText _ low high, ?_⟩
  refine bind_eq_ok.mpr ⟨_, mark_cons _ rfl, ?_⟩
  refine bind_eq_ok.mpr ⟨_, within_padded _ monthLow monthHigh (by omega), ?_⟩
  refine bind_eq_ok.mpr ⟨_, mark_cons _ rfl, ?_⟩
  refine bind_eq_ok.mpr ⟨_, within_padded _ dayLow (by omega) (by omega), ?_⟩
  refine bind_eq_ok.mpr ⟨_, rfl, ?_⟩
  refine bind_eq_ok.mpr ⟨_, within_padded _ (Nat.zero_le _) (by omega) (by omega), ?_⟩
  refine bind_eq_ok.mpr ⟨_, mark_cons _ rfl, ?_⟩
  refine bind_eq_ok.mpr ⟨_, within_padded _ (Nat.zero_le _) (by omega) (by omega), ?_⟩
  refine bind_eq_ok.mpr ⟨_, mark_cons _ rfl, ?_⟩
  refine bind_eq_ok.mpr ⟨_, within_padded _ (Nat.zero_le _) second (by omega), ?_⟩
  refine bind_eq_ok.mpr ⟨_, readFraction_fractionText nano, ?_⟩
  refine bind_eq_ok.mpr ⟨(0, []), rfl, ?_⟩
  -- Nothing is left behind the `Z`, and the numbers are those of a moment.
  simp only [skipBlank, List.dropWhile_nil, List.isEmpty_nil, Bool.not_true, Bool.false_eq_true,
    if_false, Int.natAbs_zero, possible, or_false, Nat.reduceLeDiff, Date.ofNumbers?_self]
  exact ofNumbers_self m possible

end Moment

end Rollout
