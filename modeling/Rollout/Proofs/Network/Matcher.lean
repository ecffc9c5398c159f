/-
# Rollout.Proofs.Network.Matcher — which JSON texts are matchers

A matcher is the text `"*"`, a number, or the text of a number (`Names`); every other JSON text is
refused.  The two ways to write a number meet in one bound: a number of more than 64 bits is a
double, and the text of one is refused digit by digit.
-/
import Rollout.Proofs.Json.Naturals
import Rollout.Proofs.Network.Document
import Rollout.Proofs.Number.Decimal

namespace Rollout.Network.Matcher

open Document

set_option autoImplicit false

/-- What the matcher of a JSON text is read as; nothing where there is no such text. -/
def ofJson? (a : Json.Arrangement) (text : String) : Option (Except Fault Matcher) :=
  (a.read? text).map read

/-- A JSON text that says which chain id: a number of no sign, fraction or exponent, or the text
of a number. -/
def Names (a : Json.Arrangement) (text : String) (id : UInt64) : Prop :=
  Json.IsNatural text.toList id.toNat ∨
    ∃ s, a.read? text = some (.text s) ∧ Number.Denotes s.toList id.toNat

/-! ## Texts -/

theorem not_denotes_star (n : Nat) : ¬ Number.Denotes "*".toList n := by
  rintro ⟨digits, present, every, same | signed, -⟩
  · exact absurd (every '*' (same ▸ List.mem_cons_self ..)) (by decide)
  · exact absurd (List.cons.inj signed).1 (by decide)

theorem ofText_eq_any_iff {s : String} : ofText s = .ok any ↔ s = "*" := by
  unfold ofText
  split
  next star => simp [star]
  next other =>
    split
    · simp [other]
    · simp [other]

theorem ofText_eq_exact_iff {s : String} {id : UInt64} :
    ofText s = .ok (exact id) ↔ Number.Denotes s.toList id.toNat := by
  unfold ofText
  split
  next star =>
    subst star
    exact iff_of_false nofun (not_denotes_star _)
  next =>
    have bound : id.toNat < Number.limit64 := id.toNat_lt
    have known : Number.readBelow Number.limit64 s.toList = .ok id.toNat ↔
        Number.Denotes s.toList id.toNat :=
      (Number.readBelow_eq_ok_iff (by decide)).trans (and_iff_right bound)
    rw [← known]
    split
    next n read =>
      obtain ⟨small, -⟩ := (Number.readBelow_eq_ok_iff (by decide)).mp read
      rw [read]
      simp only [Except.ok.injEq, exact.injEq]
      constructor
      · rintro rfl
        exact (UInt64.toNat_ofNat_of_lt' small).symm
      · rintro rfl
        exact UInt64.ofNat_toNat
    next fault read =>
      rw [read]
      simp

theorem ofText_text (m : Matcher) : ofText m.text = .ok m := by
  cases m with
  | any => rfl
  | exact id =>
      rw [ofText_eq_exact_iff, text]
      have written : (toString id.toNat).toList = Nat.toDigits 10 id.toNat := Nat.toList_repr
      rw [written]
      exact ⟨_, Nat.toDigits_ne_nil, fun c member => Number.isDigit_of_mem_toDigits member,
        Or.inl rfl, Number.digitsValue_toDigits _⟩

/-! ## Values -/

theorem read_eq_any_iff {v : Value} : read v = .ok any ↔ v = .text "*" := by
  cases v with
  | text s => simp [read, ofText_eq_any_iff]
  | int n =>
      cases n with
      | ofNat n => simp [read]
      | negSucc n => simp [read]
  | null | bool | float | date | list | tables | table => simp [read]

/-- A chain id is read from its text, or from a number that it is modulo `2 ^ 64`. -/
theorem read_eq_exact_iff {v : Value} {id : UInt64} :
    read v = .ok (exact id) ↔
      (∃ n : Nat, v = .nat n ∧ .ofNat n = id) ∨
        ∃ s, v = .text s ∧ Number.Denotes s.toList id.toNat := by
  cases v with
  | text s => simp [read, ofText_eq_exact_iff, Value.nat]
  | int n =>
      cases n with
      | ofNat n =>
          have same (m : Nat) : Value.int n = .nat m ↔ n = m := by
            rw [Value.nat, Value.int.injEq]
            exact Int.ofNat_inj
          simp [read, same]
      | negSucc n => simp [read, Value.nat]
  | null | bool | float | date | list | tables | table => simp [read, Value.nat]

section Json

variable {a : Json.Arrangement} {text : String}

theorem ofJson?_eq_any_iff :
    ofJson? a text = some (.ok any) ↔ a.read? text = some (.text "*") := by
  rw [ofJson?, Option.map_eq_some_iff]
  simp only [read_eq_any_iff, exists_eq_right]

/-- No number is read that would have to be cut to 64 bits. -/
theorem ofJson?_eq_exact_iff {id : UInt64} :
    ofJson? a text = some (.ok (exact id)) ↔ Names a text id := by
  rw [ofJson?, Option.map_eq_some_iff]
  constructor
  · rintro ⟨v, written, known⟩
    rcases read_eq_exact_iff.mp known with ⟨n, rfl, rfl⟩ | ⟨s, rfl, denotes⟩
    · obtain ⟨small, natural⟩ := a.read?_eq_nat_iff.mp written
      left
      rwa [UInt64.toNat_ofNat_of_lt' small]
    · exact Or.inr ⟨s, written, denotes⟩
  · rintro (natural | ⟨s, written, denotes⟩)
    · exact ⟨_, a.read?_eq_nat_iff.mpr ⟨id.toNat_lt, natural⟩,
        read_eq_exact_iff.mpr (Or.inl ⟨_, rfl, UInt64.ofNat_toNat⟩)⟩
    · exact ⟨_, written, read_eq_exact_iff.mpr (Or.inr ⟨s, rfl, denotes⟩)⟩

/-- A text is refused if it is neither of what is read. -/
theorem ofJson?_eq_error_iff :
    (∃ fault, ofJson? a text = some (.error fault)) ↔
      (∃ v, a.read? text = some v) ∧ a.read? text ≠ some (.text "*") ∧
        ∀ id, ¬ Names a text id := by
  simp only [ne_eq, ← ofJson?_eq_any_iff, ← ofJson?_eq_exact_iff, ofJson?]
  cases a.read? text with
  | none => simp
  | some v =>
      simp only [Option.map_some, Option.some.injEq]
      cases read v with
      | error fault => simp
      | ok m =>
          cases m with
          | any => simp
          | exact id => simp

end Json

/-- **Which JSON texts are matchers.**  `"*"` alone is the one of any chain; a chain id is a
number of 64 bits without sign, fraction and exponent, or a text that denotes one; all else is
refused.  A matcher is read back from its document and from its text. -/
theorem json_grammar (a : Json.Arrangement) :
    (∀ text,
      (ofJson? a text = some (.ok any) ↔ a.read? text = some (.text "*")) ∧
      (∀ id, ofJson? a text = some (.ok (exact id)) ↔ Names a text id) ∧
      ((∃ fault, ofJson? a text = some (.error fault)) ↔
        (∃ v, a.read? text = some v) ∧ a.read? text ≠ some (.text "*") ∧
          ∀ id, ¬ Names a text id)) ∧
    ∀ m : Matcher, ofJson? a (Json.compact m.document) = some (.ok m) ∧
      ofJson? a (Json.compact (.text m.text)) = some (.ok m) := by
  refine ⟨fun text => ⟨ofJson?_eq_any_iff, fun id => ofJson?_eq_exact_iff, ofJson?_eq_error_iff⟩,
    fun m => ⟨?_, ?_⟩⟩
  · rw [ofJson?, (a.read?_printed (m.nests_document _)).1, Option.map_some, read_document]
  · rw [ofJson?, (a.read?_printed (.text ..)).1, Option.map_some, a.arrange_text, read, ofText_text]

end Rollout.Network.Matcher
