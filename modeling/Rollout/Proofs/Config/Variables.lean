/-
# Rollout.Proofs.Config.Variables — the variables of a configuration

What is replaced in the text of a configuration, and by what: the text is cut at its references,
found leftmost first and without overlap, and each is replaced by the value of its variable or
by what it falls back on (`resolve_splices`).  Values are not looked at again, and what only
looks like a reference stays.
-/
import Rollout.Config.Loading
import Rollout.Proofs.Environment.Cutting
import Rollout.Proofs.Environment.Replacement

namespace Rollout.Config

open Environment (Cuts Reference Segment filled)

set_option autoImplicit false

variable {env : Environment}

theorem resolve_of_small {text : String} (small : text.utf8ByteSize ≤ sizeLimit) :
    resolve env text =
      ((env.splice text.toList).map String.ofList).mapError .unsetVariable := by
  rw [resolve, if_neg (Nat.not_lt.mpr small), Environment.replaceVariables_eq_splice]
  cases env.splice text.toList <;> rfl

/-- What becomes of a text that is cut at its references. -/
structure Splices (env : Environment) (text : String) (segments : List Segment)
    (tail : List Char) : Prop where
  /-- The text is the references and what stands between them. -/
  whole : filled Reference.written segments tail = text.toList
  /-- Where every reference has a value, only the references are replaced, by their values. -/
  replaced : ∀ value : Reference → List Char,
    (∀ s ∈ segments, s.reference.value? env = some (value s.reference)) →
      resolve env text = .ok (String.ofList (filled value segments tail))
  /-- Otherwise the first reference without a value is told. -/
  unset : ∀ before s after, segments = before ++ s :: after →
    (∀ earlier ∈ before, earlier.reference.value? env ≠ none) → s.reference.value? env = none →
      resolve env text = .error (.unsetVariable (String.ofList s.reference.name))

/-- **The variables of a text are replaced by one splice from left to right.**  There is one way
to cut a text at its references, found leftmost first and without overlap, and every reference
is replaced where all have a value; otherwise the first one that has none is told. -/
theorem resolve_splices (env : Environment) (text : String)
    (small : text.utf8ByteSize ≤ sizeLimit) :
    ∃ segments tail, Cuts text.toList segments tail ∧
      (∀ segments' tail', Cuts text.toList segments' tail' →
        segments' = segments ∧ tail' = tail) ∧
      Splices env text segments tail := by
  obtain ⟨segments, tail, cut⟩ := Environment.exists_cuts text.toList
  refine ⟨segments, tail, cut, fun _ _ other => cut.unique other, cut.text_eq, ?_, ?_⟩
  · intro value set
    rw [resolve_of_small small, cut.splice_eq set]
    rfl
  · intro before s after split set unset
    rw [resolve_of_small small, cut.splice_unset split set unset]
    rfl

/-- A value that looks like a reference, an empty one, and a fallback with a brace in front of
the end of the text; what is written in small letters is no reference. -/
theorem resolve_splices_once :
    let env : Environment := ⟨[("SET", "$\x7bEMPTY\x7d"), ("EMPTY", "")]⟩
    let text := "é $\x7bSET\x7d $\x7bEMPTY\x7d$\x7bUNSET:-$\x7bSET\x7d\x7d $\x7bset\x7d"
    text.utf8ByteSize ≤ sizeLimit ∧
      (∃ segments tail, Cuts text.toList segments tail ∧
        (∀ segments' tail', Cuts text.toList segments' tail' →
          segments' = segments ∧ tail' = tail) ∧
        Splices env text segments tail) ∧
      resolve env text = .ok "é $\x7bEMPTY\x7d $\x7bSET\x7d $\x7bset\x7d" :=
  ⟨by decide, resolve_splices _ _ (by decide), by rfl⟩

end Rollout.Config
