/-
# Rollout.Proofs.Linker.Decoding — decoding accepts exactly linked hex

A text is decoded when it is hex, digits alone and even in number, and then to the bytes that it
writes (`bytes_eq_ok_iff`).  Such a text has no placeholder left, so what is left in any other
decides why it is refused: labels that are left are told, and only a text that has none is
complained of as hex.  The labels come from a search that ends on every text and never takes
bytes from outside it (`bytes_decides`).
-/
import Rollout.Proofs.Linker
import Rollout.Proofs.Linker.Scan

namespace Rollout.Linker

set_option autoImplicit false

variable {l : Linker}

/-- A text of hex digits, even in number. -/
def IsHex (l : Linker) : Prop :=
  (∀ c ∈ l.code, c ∈ Hex.alphabet) ∧ l.code.length % 2 = 0

/-- **What is decoded is exactly hex**, to the bytes that it writes. -/
theorem bytes_eq_ok_iff {code : List UInt8} :
    l.bytes = .ok code ↔ l.IsHex ∧ Hex.encode code = l.code.map Char.toLower := by
  have decoded : (Hex.decode (Text.bytes l.code)).mapError Fault.invalidHex = .ok code ↔
      l.IsHex ∧ Hex.encode code = l.code.map Char.toLower := by
    rw [Checked.mapError_eq_ok, Hex.decode_eq_ok_iff, IsHex]
  cases left : l.unlinked with
  | nil => rw [bytes_of_unlinked left, decoded]
  | cons label labels =>
      constructor
      · intro ok
        rw [bytes, left] at ok
        cases ok
      · rintro ⟨hex, -⟩
        rw [unlinked_digits hex.1] at left
        cases left

/-- Hex is decoded. -/
theorem exists_bytes_iff : (∃ code, l.bytes = .ok code) ↔ l.IsHex := by
  constructor
  · rintro ⟨code, ok⟩
    exact (bytes_eq_ok_iff.mp ok).1
  · intro hex
    obtain ⟨code, -, -, ok⟩ := exists_bytes_digits hex.1 hex.2
    exact ⟨code, ok⟩

/-- Labels are told exactly where some are left, and then all of them. -/
theorem bytes_eq_unlinked_iff {labels : List String} :
    l.bytes = .error (.unlinked labels) ↔ labels = l.unlinked ∧ l.unlinked ≠ [] := by
  cases left : l.unlinked with
  | nil =>
      rw [bytes_of_unlinked left, Checked.mapError_eq_error]
      simp
  | cons label others =>
      rw [bytes, left]
      simp [eq_comm]

/-- What is complained of as hex is every other text. -/
theorem exists_invalidHex_iff :
    (∃ fault, l.bytes = .error (.invalidHex fault)) ↔ l.unlinked = [] ∧ ¬ l.IsHex := by
  constructor
  · rintro ⟨fault, failed⟩
    have notLeft : l.unlinked = [] := by
      by_contra left
      rw [bytes_eq_unlinked_iff.mpr ⟨rfl, left⟩] at failed
      cases failed
    refine ⟨notLeft, fun hex => ?_⟩
    obtain ⟨code, ok⟩ := exists_bytes_iff.mpr hex
    rw [ok] at failed
    cases failed
  · rintro ⟨complete, other⟩
    cases result : l.bytes with
    | ok code => exact absurd (exists_bytes_iff.mp ⟨code, result⟩) other
    | error fault =>
        obtain ⟨cause, -, rfl⟩ := bytes_eq_error complete result
        exact ⟨cause, rfl⟩

/-- What decoding a text comes to, and how the search for what is left in it goes. -/
structure Decides (l : Linker) : Prop where
  /-- Exactly hex is decoded, -/
  accepts : (∃ code, l.bytes = .ok code) ↔ l.IsHex
  /-- to the bytes that it writes. -/
  decoded : ∀ code, l.bytes = .ok code ↔ l.IsHex ∧ Hex.encode code = l.code.map Char.toLower
  /-- Labels are told exactly where some are left. -/
  unlinked : ∀ labels, l.bytes = .error (.unlinked labels) ↔
    labels = l.unlinked ∧ l.unlinked ≠ []
  /-- Every other text is complained of as hex. -/
  invalid : (∃ fault, l.bytes = .error (.invalidHex fault)) ↔ l.unlinked = [] ∧ ¬ l.IsHex
  /-- The search takes no bytes from outside the text, -/
  inside : ∀ s, Scan.Reaches (Text.bytes l.code) .start s → s.round (Text.bytes l.code) ≠ .outside
  /-- and ends, with the labels that are left. -/
  ends : ∃ last, Scan.Reaches (Text.bytes l.code) .start last ∧
    last.round (Text.bytes l.code) = .ended ∧ last.labels = l.unlinked
  distinct : l.unlinked.Nodup
  filled : "" ∉ l.unlinked

/-- **Decoding accepts exactly linked hex**, and tells apart why it refuses any other text. -/
theorem bytes_decides (l : Linker) : Decides l where
  accepts := exists_bytes_iff
  decoded _ := bytes_eq_ok_iff
  unlinked _ := bytes_eq_unlinked_iff
  invalid := exists_invalidHex_iff
  inside _ run := (run.sound (Scan.sound_start _)).round.1
  ends := Scan.exists_ended_unlinked l
  distinct := (unlinked_sound l).1
  filled := (unlinked_sound l).2

end Rollout.Linker
