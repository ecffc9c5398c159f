/-
# Rollout.Proofs.Linker.Settled — one link settles a name

Replacing a placeholder goes through the text once, from left to right, and nothing is known of
the text: it may be no hex, and placeholders may overlap in it.  Still no placeholder stands in
what comes out that did not stand in the text, because one that reaches into digits that were
put in would begin or end with such a digit, and placeholders begin and end with an underscore
(`infix_of_infix_replace`).  So the one that was replaced is gone, and filling the hashed form
does not bring the legacy form back.  A second link of the name finds nothing to do, whatever
the address (`link_settles`).
-/
import Rollout.Proofs.Linker.Filling
import Rollout.Proofs.Linker.Slots

namespace Rollout.Linker

set_option autoImplicit false

variable {rule other : Rule} {cs : List Char}

/-! ## What stands in replaced text -/

/-- A placeholder behind digits does not begin in them. -/
theorem infix_of_infix_append_digits {ds : List Char} (digits : ∀ c ∈ ds, c ∈ Hex.alphabet)
    (found : other.placeholder <:+: ds ++ cs) : other.placeholder <:+: cs := by
  induction ds with
  | nil => exact found
  | cons d ds ih =>
      obtain ⟨here, others⟩ := List.forall_mem_cons.mp digits
      rcases List.infix_cons_iff.mp found with begins | later
      · exact absurd begins (other.not_prefix_of_digit here _)
      · exact ih others later

/-- What replaced text begins with, the text began with. -/
theorem prefix_of_prefix_replace
    (found : other.placeholder <+: replace rule.placeholder rule.digits cs) :
    other.placeholder <+: cs := by
  obtain ⟨tail, shape, width, last⟩ := other.exists_eq_cons
  rw [shape] at found ⊢
  match cs with
  | [] => exact absurd (List.prefix_nil.mp found) (List.cons_ne_nil _ _)
  | c :: cs =>
      by_cases present : rule.placeholder <+: c :: cs
      · obtain ⟨behind, here⟩ := present
        rw [← here, replace_placeholder, ← shape] at found
        match same : rule.digits with
        | [] =>
            have full := rule.full
            simp [same, Placeholder.width] at full
        | digit :: digits =>
            have hex : digit ∈ Hex.alphabet := rule.hex digit (by simp [same])
            rw [same] at found
            exact absurd found (other.not_prefix_of_digit hex _)
      · rw [replace_cons_of_absent present] at found
        obtain ⟨rfl, rest, onward⟩ := List.cons_prefix_cons.mp found
        obtain ⟨behind, rfl, -⟩ := eq_append_of_replace (by omega) (fun _ => last) onward.symm
        exact List.prefix_append ('_' :: tail) behind

/-- **Replacing brings no placeholder in.**  One that stands in replaced text stood in the text,
and it is not the one that was replaced. -/
theorem infix_of_infix_replace
    (found : other.placeholder <:+: replace rule.placeholder rule.digits cs) :
    other.placeholder <:+: cs ∧ other.placeholder ≠ rule.placeholder := by
  induction cs using rule.textInduction with
  | nil => exact absurd (List.infix_nil.mp found) other.placeholder_ne_nil
  | slot behind ih =>
      rw [replace_placeholder] at found
      obtain ⟨before, differ⟩ := ih (infix_of_infix_append_digits rule.hex found)
      exact ⟨before.trans (List.suffix_append ..).isInfix, differ⟩
  | kept c cs absent ih =>
      rw [replace_cons_of_absent absent] at found
      rcases List.infix_cons_iff.mp found with begins | later
      · rw [← replace_cons_of_absent absent] at begins
        have front := prefix_of_prefix_replace begins
        exact ⟨front.isInfix, fun same => absent (same ▸ front)⟩
      · obtain ⟨before, differ⟩ := ih later
        exact ⟨before.trans (List.suffix_cons ..).isInfix, differ⟩

theorem length_replace (rule : Rule) (cs : List Char) :
    (replace rule.placeholder rule.digits cs).length = cs.length := by
  induction cs using rule.textInduction with
  | nil => rfl
  | slot behind ih =>
      rw [replace_placeholder, List.length_append, List.length_append, ih, rule.width, rule.full]
  | kept c cs absent ih =>
      rw [replace_cons_of_absent absent, List.length_cons, List.length_cons, ih]

/-! ## Where nothing is found -/

section Absent

variable {old new : List Char} (absent : ¬ old <:+: cs)

include absent

theorem quiet_of_absent (before after : List Char) (split : cs = before ++ after)
    (_ : after ≠ []) : ¬ old <+: after ++ [] := by
  rw [List.append_nil]
  intro found
  exact absent (found.isInfix.trans (split ▸ List.suffix_append before after).isInfix)

theorem replace_of_absent : replace old new cs = cs := by
  have kept : replaceFrom old new 0 (cs ++ []) = cs ++ replaceFrom old new 0 [] :=
    replaceFrom_append (quiet_of_absent absent)
  rwa [replaceFrom, List.append_nil] at kept

theorem count_of_absent : count old cs = 0 := by
  have passed := countFrom_append (quiet_of_absent absent)
  rwa [countFrom, List.append_nil] at passed

end Absent

/-! ## One link -/

variable {l : Linker} {name : String}

/-- After a link no placeholder of the name is left, whichever way it is written. -/
theorem not_infix_link (l : Linker) (name : String) (address : Address) (form : Placeholder.Form) :
    ¬ Placeholder.write form name.toList <:+: (l.link name address).1.code := by
  let legacy := Rule.of .legacy name.toList address
  let hashed := Rule.of .hashed name.toList address
  let half := replace legacy.placeholder legacy.digits l.code
  intro found
  cases form with
  | legacy =>
      -- It would have stood there when only the legacy form was replaced.
      have last : legacy.placeholder <:+: replace hashed.placeholder hashed.digits half := found
      obtain ⟨before, -⟩ := infix_of_infix_replace last
      exact (infix_of_infix_replace before).2 rfl
  | hashed =>
      have last : hashed.placeholder <:+: replace hashed.placeholder hashed.digits half := found
      exact (infix_of_infix_replace last).2 rfl

/-- **Linking keeps the length.** -/
theorem length_link (l : Linker) (name : String) (address : Address) :
    (l.link name address).1.code.length = l.code.length := by
  let legacy := Rule.of .legacy name.toList address
  let hashed := Rule.of .hashed name.toList address
  calc (l.link name address).1.code.length
    _ = (replace legacy.placeholder legacy.digits l.code).length := length_replace hashed _
    _ = l.code.length := length_replace legacy _

/-- Where no placeholder of a name stands, a link of it does nothing. -/
theorem link_of_absent (absent : ∀ form, ¬ Placeholder.write form name.toList <:+: l.code)
    (address : Address) : l.link name address = (l, 0) := by
  have legacy : ¬ Placeholder.legacy name.toList <:+: l.code := absent .legacy
  have hashed : ¬ Placeholder.hashed name.toList <:+: l.code := absent .hashed
  unfold link
  simp only [replace_of_absent legacy, replace_of_absent hashed, count_of_absent legacy,
    count_of_absent hashed]

/-- **One link settles a name.**  Whatever the text and the name, no placeholder of the name is
left, the text keeps its length, and linking the name again finds nothing to replace, whatever
the address. -/
theorem link_settles (l : Linker) (name : String) (address : Address) :
    let linked := (l.link name address).1
    (∀ form, ¬ Placeholder.write form name.toList <:+: linked.code) ∧
      linked.code.length = l.code.length ∧
      ∀ again, linked.link name again = (linked, 0) :=
  ⟨not_infix_link l name address, length_link l name address,
    link_of_absent (not_infix_link l name address)⟩

end Rollout.Linker
