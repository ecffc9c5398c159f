/-
# Rollout.Proofs.Hex — what hex digits are read as

`alphabet` holds the digits of both letter cases.  A text of them, even in number, is
read as the bytes that are written with the same digits in lower case
(`exists_decode_eq_ok`), and nothing else is read (`decode_eq_ok_iff`).
-/
import Rollout.Hex
import Rollout.Text.Basic

namespace Rollout.Hex

set_option autoImplicit false

/-- The hex digits, of both letter cases. -/
def alphabet : List Char := "0123456789abcdefABCDEF".toList

/-- A digit is one byte, which is read as the number it stands for. -/
theorem digit_read {c : Char} (digit : c ∈ alphabet) :
    ∃ byte n, String.utf8EncodeChar c = [byte] ∧ value? byte = some n ∧ n < 16 ∧
      Hex.digit n = c.toLower := by
  have table : (alphabet.all fun c => String.utf8EncodeChar c == [UInt8.ofNat c.toNat] &&
      (value? (UInt8.ofNat c.toNat)).any fun n => n < 16 && Hex.digit n == c.toLower) = true := by
    decide
  have row := List.all_eq_true.mp table c digit
  simp only [Bool.and_eq_true, beq_iff_eq, Option.any_eq_true, decide_eq_true_eq] at row
  obtain ⟨single, n, read, small, lower⟩ := row
  exact ⟨_, n, single, read, small, lower⟩

theorem digit_mem_alphabet {n : Nat} (small : n < 16) : digit n ∈ alphabet := by
  have table : ∀ n < 16, digit n ∈ alphabet := by decide
  exact table n small

theorem mem_alphabet_of_all {cs : List Char} (digits : cs.all alphabet.contains = true) :
    ∀ c ∈ cs, c ∈ alphabet := fun c member =>
  List.contains_iff_mem.mp (List.all_eq_true.mp digits c member)

theorem mem_alphabet_of_encode {bytes : List UInt8} {c : Char} (written : c ∈ encode bytes) :
    c ∈ alphabet := by
  obtain ⟨byte, -, member⟩ := List.mem_flatMap.mp written
  have below := byte.toNat_lt
  simp only [encodeByte, List.mem_cons, List.not_mem_nil, or_false] at member
  rcases member with rfl | rfl
  · exact digit_mem_alphabet (by omega)
  · exact digit_mem_alphabet (by omega)

theorem length_encode (bytes : List UInt8) : (encode bytes).length = 2 * bytes.length := by
  induction bytes with
  | nil => rfl
  | cons first rest ih =>
      rw [encode, List.flatMap_cons, List.length_append, ← encode, ih]
      simp only [encodeByte, List.length_cons, List.length_nil]
      omega

/-- The two halves of a byte are read back as they are written. -/
theorem encodeByte_ofNat {high low : Nat} (h : high < 16) (l : low < 16) :
    encodeByte (UInt8.ofNat (16 * high + low)) = [digit high, digit low] := by
  have whole : (UInt8.ofNat (16 * high + low)).toNat = 16 * high + low := by
    rw [UInt8.toNat_ofNat']
    omega
  have front : (16 * high + low) / 16 = high := by omega
  have back : (16 * high + low) % 16 = low := by omega
  rw [encodeByte, whole, front, back]

theorem length_bytes {cs : List Char} (digits : ∀ c ∈ cs, c ∈ alphabet) :
    (Text.bytes cs).length = cs.length := by
  induction cs with
  | nil => rfl
  | cons c rest ih =>
      obtain ⟨here, others⟩ := List.forall_mem_cons.mp digits
      obtain ⟨byte, -, single, -⟩ := digit_read here
      rw [Text.bytes, List.flatMap_cons, single, ← Text.bytes, List.singleton_append,
        List.length_cons, List.length_cons, ih others]

theorem exists_decodeFrom_eq_ok (cs : List Char) (position : Nat)
    (digits : ∀ c ∈ cs, c ∈ alphabet) (even : cs.length % 2 = 0) :
    ∃ code, decodeFrom position (Text.bytes cs) = .ok code ∧ encode code = cs.map Char.toLower := by
  -- Two digits make a byte.
  match cs, digits, even with
  | [], _, _ => exact ⟨[], rfl, rfl⟩
  | [_], _, even => simp at even
  | high :: low :: rest, digits, even =>
      obtain ⟨atHigh, digits⟩ := List.forall_mem_cons.mp digits
      obtain ⟨atLow, digits⟩ := List.forall_mem_cons.mp digits
      obtain ⟨highByte, h, highSingle, highRead, highSmall, highLower⟩ := digit_read atHigh
      obtain ⟨lowByte, l, lowSingle, lowRead, lowSmall, lowLower⟩ := digit_read atLow
      obtain ⟨code, read, written⟩ := exists_decodeFrom_eq_ok rest (position + 2) digits
        (by simp only [List.length_cons] at even; omega)
      refine ⟨UInt8.ofNat (16 * h + l) :: code, ?_, ?_⟩
      · have bytes : Text.bytes (high :: low :: rest) =
            highByte :: lowByte :: Text.bytes rest := by
          simp [Text.bytes, highSingle, lowSingle]
        simp only [bytes, decodeFrom, highRead, lowRead, read]
        rfl
      · rw [encode, List.flatMap_cons, ← encode, written, encodeByte_ofNat highSmall lowSmall,
          highLower, lowLower]
        rfl

/-- **Digits, even in number, are read as the bytes that they write.** -/
theorem exists_decode_eq_ok {cs : List Char} (digits : ∀ c ∈ cs, c ∈ alphabet)
    (even : cs.length % 2 = 0) :
    ∃ code, decode (Text.bytes cs) = .ok code ∧ encode code = cs.map Char.toLower := by
  obtain ⟨code, read, written⟩ := exists_decodeFrom_eq_ok cs 0 digits even
  refine ⟨code, ?_, written⟩
  have whole : ¬ (Text.bytes cs).length % 2 = 1 := by
    rw [length_bytes digits]
    omega
  rw [decode, if_neg whole, read]

/-! ## Bytes that were written -/

/-- A digit that was written is one byte, which is read as its number. -/
theorem digit_written {n : Nat} (small : n < 16) :
    ∃ byte, String.utf8EncodeChar (digit n) = [byte] ∧ value? byte = some n := by
  have table : ∀ n < 16, String.utf8EncodeChar (digit n) = [UInt8.ofNat (digit n).toNat] ∧
      value? (UInt8.ofNat (digit n).toNat) = some n := by decide
  exact ⟨_, table n small⟩

theorem decodeFrom_encode (bytes : List UInt8) (position : Nat) :
    decodeFrom position (Text.bytes (encode bytes)) = .ok bytes := by
  induction bytes generalizing position with
  | nil => rfl
  | cons first rest ih =>
      have below := first.toNat_lt
      obtain ⟨high, highSingle, highRead⟩ := digit_written (n := first.toNat / 16) (by omega)
      obtain ⟨low, lowSingle, lowRead⟩ := digit_written (n := first.toNat % 16) (by omega)
      have written : Text.bytes (encode (first :: rest)) =
          high :: low :: Text.bytes (encode rest) := by
        simp [Text.bytes, encode, encodeByte, highSingle, lowSingle]
      have whole : 16 * (first.toNat / 16) + first.toNat % 16 = first.toNat := by omega
      simp only [written, decodeFrom, highRead, lowRead, ih, whole, UInt8.ofNat_toNat]
      rfl

/-- **Bytes that were written are read back.** -/
theorem decode_encode (bytes : List UInt8) : decode (Text.bytes (encode bytes)) = .ok bytes := by
  have even : ¬ (Text.bytes (encode bytes)).length % 2 = 1 := by
    rw [length_bytes fun _ => mem_alphabet_of_encode, length_encode]
    omega
  rw [decode, if_neg even, decodeFrom_encode]

/-! ## What is decoded -/

/-- A byte that is read stands below all bytes of longer characters. -/
theorem toNat_lt_of_read {byte : UInt8} {n : Nat} (read : value? byte = some n) :
    byte.toNat < 128 := by
  unfold value? at read
  by_cases decimal : 48 ≤ byte.toNat ∧ byte.toNat ≤ 57
  · omega
  · by_cases lower : 97 ≤ byte.toNat ∧ byte.toNat ≤ 102
    · omega
    · by_cases upper : 65 ≤ byte.toNat ∧ byte.toNat ≤ 70
      · omega
      · simp [decimal, lower, upper] at read

/-- A character whose bytes are all read is a digit. -/
theorem mem_alphabet_of_read {c : Char}
    (read : ∀ byte ∈ String.utf8EncodeChar c, ∃ n, value? byte = some n) : c ∈ alphabet := by
  have table : ∀ v < 128, value? (UInt8.ofNat v) ≠ none → Char.ofNat v ∈ alphabet := by decide
  unfold String.utf8EncodeChar at read
  by_cases single : c.val.toNat ≤ 127
  · simp only [single, if_true, List.mem_singleton, forall_eq] at read
    obtain ⟨n, read⟩ := read
    have present : value? (UInt8.ofNat c.val.toNat) ≠ none := by
      rw [read]
      exact Option.some_ne_none n
    have member := table c.val.toNat (by omega) present
    rwa [show Char.ofNat c.val.toNat = c from Char.ofNat_toNat c] at member
  · -- The first byte of a longer character is none that is read.
    have large : ∃ v, 128 ≤ v ∧ v < 256 ∧ ∃ n, value? (UInt8.ofNat v) = some n := by
      simp only [single, if_false] at read
      by_cases two : c.val.toNat ≤ 2047
      · simp only [two, if_true] at read
        exact ⟨_, by omega, by omega, read _ (List.mem_cons_self ..)⟩
      · simp only [two, if_false] at read
        by_cases three : c.val.toNat ≤ 65535
        · simp only [three, if_true] at read
          exact ⟨_, by omega, by omega, read _ (List.mem_cons_self ..)⟩
        · simp only [three, if_false] at read
          exact ⟨_, by omega, by omega, read _ (List.mem_cons_self ..)⟩
    obtain ⟨v, above, below, n, read⟩ := large
    have small := toNat_lt_of_read read
    rw [UInt8.toNat_ofNat'] at small
    omega

theorem read_of_decodeFrom {position : Nat} {bytes code : List UInt8}
    (decoded : decodeFrom position bytes = .ok code) :
    ∀ byte ∈ bytes, ∃ n, value? byte = some n := by
  match bytes with
  | [] => simp
  | [_] => cases decoded
  | high :: low :: rest =>
      cases atHigh : value? high with
      | none => simp [decodeFrom, atHigh] at decoded
      | some h =>
          cases atLow : value? low with
          | none => simp [decodeFrom, atHigh, atLow] at decoded
          | some l =>
              cases later : decodeFrom (position + 2) rest with
              | error fault => simp [decodeFrom, atHigh, atLow, later, Except.map] at decoded
              | ok more =>
                  have others := read_of_decodeFrom later
                  exact List.forall_mem_cons.mpr
                    ⟨⟨h, atHigh⟩, List.forall_mem_cons.mpr ⟨⟨l, atLow⟩, others⟩⟩

/-- **Only digits are decoded.** -/
theorem mem_alphabet_of_decode {cs : List Char} {code : List UInt8}
    (decoded : decode (Text.bytes cs) = .ok code) : ∀ c ∈ cs, c ∈ alphabet := by
  have whole : decodeFrom 0 (Text.bytes cs) = .ok code := by
    by_cases odd : (Text.bytes cs).length % 2 = 1
    · simp [decode, odd] at decoded
    · simpa [decode, odd] using decoded
  intro c member
  refine mem_alphabet_of_read fun byte inside => ?_
  exact read_of_decodeFrom whole byte (List.mem_flatMap.mpr ⟨c, member, inside⟩)

theorem encode_inj {bytes others : List UInt8} (same : encode bytes = encode others) :
    bytes = others := by
  have read := decode_encode bytes
  rw [same, decode_encode] at read
  exact (Except.ok.inj read).symm

/-- **What is decoded is exactly the digits, even in number**, to the bytes that they write. -/
theorem decode_eq_ok_iff {cs : List Char} {code : List UInt8} :
    decode (Text.bytes cs) = .ok code ↔
      ((∀ c ∈ cs, c ∈ alphabet) ∧ cs.length % 2 = 0) ∧ encode code = cs.map Char.toLower := by
  constructor
  · intro decoded
    have digits := mem_alphabet_of_decode decoded
    have even : cs.length % 2 = 0 := by
      rw [← length_bytes digits]
      by_cases odd : (Text.bytes cs).length % 2 = 1
      · simp [decode, odd] at decoded
      · omega
    obtain ⟨read, again, written⟩ := exists_decode_eq_ok digits even
    obtain rfl : code = read := Except.ok.inj (decoded.symm.trans again)
    exact ⟨⟨digits, even⟩, written⟩
  · rintro ⟨⟨digits, even⟩, written⟩
    obtain ⟨read, decoded, written'⟩ := exists_decode_eq_ok digits even
    rw [decoded, encode_inj (written.trans written'.symm)]

end Rollout.Hex
