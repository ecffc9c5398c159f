/-
# Rollout.Proofs.Linker.Filling — when the order of linking does not matter

Linking is a row of replacements, each over the whole text.  What a row makes all digits
was a text of digits and placeholders of the row, with every placeholder filled
(`fills_apply`): no placeholder can be found in digits that were put in, because it begins
and ends with an underscore and is no longer than they are.

In the other direction a row fills such a text, in whatever order, when no two of its
placeholders are the same with different digits, and none of them can be read across from
the end of one into the beginning of the next (`Clear`, `apply_eq_of_fills`).  So libraries
whose placeholders are told apart are linked in any order (`linkAll_reordered`), and plain
labels with different placeholders are such ones (`Separate.discernible`).
-/
import Rollout.Proofs.Linker

namespace Rollout

set_option autoImplicit false

namespace Placeholder

/-- A placeholder can be read from inside another one, over digits, into the beginning
of a third. -/
structure Crosses (p q r : List Char) : Prop where
  cut : ∃ front back digits opening, q = front ++ back ∧ front ≠ [] ∧ back ≠ [] ∧
    (∀ c ∈ digits, c ∈ Hex.alphabet) ∧ opening <+: r ∧ p = back ++ digits ++ opening

end Placeholder

namespace Linker

/-! ## Rules -/

/-- A placeholder, and the digits that are put in its place. -/
structure Rule where
  placeholder : List Char
  digits : List Char
  width : placeholder.length = Placeholder.width
  front : placeholder.head? = some '_'
  back : placeholder.getLast? = some '_'
  full : digits.length = Placeholder.width
  hex : ∀ c ∈ digits, c ∈ Hex.alphabet

namespace Rule

/-- The rule of a library, for one of its placeholders. -/
def of (form : Placeholder.Form) (name : List Char) (address : Address) : Rule where
  placeholder := Placeholder.write form name
  digits := Hex.encode address.bytes
  width := Placeholder.length_write form name
  front := Placeholder.head?_write form name
  back := Placeholder.getLast?_write form name
  full := length_encode_address address
  hex := fun _ => Hex.mem_alphabet_of_encode

variable (rule : Rule)

/-- A placeholder begins with an underscore and ends with another. -/
theorem exists_eq_cons : ∃ rest, rule.placeholder = '_' :: rest ∧
    rest.length + 1 = Placeholder.width ∧ rest.getLast? = some '_' := by
  have width := rule.width
  have front := rule.front
  have back := rule.back
  match same : rule.placeholder with
  | [] => simp [same] at front
  | [_] => simp [same, Placeholder.width] at width
  | first :: second :: rest =>
      rw [same] at width front back
      obtain rfl : first = '_' := by simpa using front
      exact ⟨second :: rest, rfl, width, by simpa [List.getLast?_cons_cons] using back⟩

theorem placeholder_ne_nil : rule.placeholder ≠ [] := by
  obtain ⟨rest, same, -⟩ := rule.exists_eq_cons
  rw [same]
  exact List.cons_ne_nil _ _

theorem not_prefix_of_digit {c : Char} (digit : c ∈ Hex.alphabet) (cs : List Char) :
    ¬ rule.placeholder <+: c :: cs := by
  intro found
  obtain ⟨rest, same, -⟩ := rule.exists_eq_cons
  rw [same] at found
  obtain ⟨rfl, -⟩ := List.cons_prefix_cons.mp found
  exact Placeholder.underscore_not_mem_alphabet digit

end Rule

def apply (rules : List Rule) (cs : List Char) : List Char :=
  rules.foldl (fun cs rule => replace rule.placeholder rule.digits cs) cs

/-- The rules of some libraries, in the order in which they are linked. -/
def rules (linkName : String → String) (address : String → Address) (libraries : List String) :
    List Rule :=
  libraries.flatMap fun library =>
    [.of .legacy (linkName library).toList (address library),
      .of .hashed (linkName library).toList (address library)]

theorem linkAll_eq_apply (linkName : String → String) (address : String → Address)
    (libraries : List String) (l : Linker) :
    linkAll linkName address l libraries = ⟨apply (rules linkName address libraries) l.code⟩ := by
  induction libraries generalizing l with
  | nil => rfl
  | cons first rest ih =>
      show linkAll linkName address (l.link (linkName first) (address first)).1 rest = _
      rw [ih]
      rfl

theorem mem_rules {linkName : String → String} {address : String → Address}
    {libraries : List String} {rule : Rule} :
    rule ∈ rules linkName address libraries ↔
      ∃ library ∈ libraries, ∃ form, rule = .of form (linkName library).toList (address library) := by
  rw [rules, List.mem_flatMap]
  constructor
  · rintro ⟨library, member, here⟩
    simp only [List.mem_cons, List.not_mem_nil, or_false] at here
    rcases here with rfl | rfl
    · exact ⟨library, member, .legacy, rfl⟩
    · exact ⟨library, member, .hashed, rfl⟩
  · rintro ⟨library, member, form, rfl⟩
    exact ⟨library, member, by cases form <;> simp⟩

/-! ## Filling -/

/-- A text of digits and placeholders, and what it is with every placeholder filled. -/
inductive Fills (rules : List Rule) : List Char → List Char → Prop
  | nil : Fills rules [] []
  | digit {c : Char} {cs out : List Char} (digit : c ∈ Hex.alphabet) (rest : Fills rules cs out) :
      Fills rules (c :: cs) (c :: out)
  | slot {rule : Rule} {cs out : List Char} (member : rule ∈ rules) (rest : Fills rules cs out) :
      Fills rules (rule.placeholder ++ cs) (rule.digits ++ out)

section Fills

variable {rules : List Rule} {cs out : List Char}

theorem Fills.mono {more : List Rule} (fills : Fills rules cs out)
    (within : ∀ rule ∈ rules, rule ∈ more) : Fills more cs out := by
  induction fills with
  | nil => exact .nil
  | digit digit _ ih => exact .digit digit ih
  | slot member _ ih => exact .slot (within _ member) ih

theorem Fills.eq_of_nil (fills : Fills [] cs out) : out = cs := by
  induction fills with
  | nil => rfl
  | digit _ _ ih => rw [ih]
  | slot member => cases member

/-- Digits are filled as they are. -/
theorem Fills.append_digits (fills : Fills rules cs out) {ds : List Char}
    (digits : ∀ c ∈ ds, c ∈ Hex.alphabet) : Fills rules (ds ++ cs) (ds ++ out) := by
  induction ds with
  | nil => exact fills
  | cons c ds ih =>
      obtain ⟨here, others⟩ := List.forall_mem_cons.mp digits
      exact .digit here (ih others)

theorem fills_digits (digits : ∀ c ∈ cs, c ∈ Hex.alphabet) : Fills rules cs cs := by
  have nothing : Fills rules [] [] := .nil
  have all := nothing.append_digits digits
  rwa [List.append_nil] at all

/-- What a text begins with: a digit, or a placeholder. -/
theorem Fills.cons_cases {c : Char} (fills : Fills rules (c :: cs) out) :
    (c ∈ Hex.alphabet ∧ ∃ out', out = c :: out' ∧ Fills rules cs out') ∨
      ∃ rule ∈ rules, ∃ rest out', c :: cs = rule.placeholder ++ rest ∧
        out = rule.digits ++ out' ∧ Fills rules rest out' := by
  generalize same : c :: cs = text at fills
  cases fills with
  | nil => cases same
  | digit digit rest =>
      cases same
      exact Or.inl ⟨digit, _, rfl, rest⟩
  | slot member rest => exact Or.inr ⟨_, member, _, _, rfl, rfl, rest⟩

/-- Behind digits the text is filled as if it stood alone. -/
theorem Fills.of_append_digits {ds : List Char} (digits : ∀ c ∈ ds, c ∈ Hex.alphabet)
    (fills : Fills rules (ds ++ cs) out) : ∃ out', out = ds ++ out' ∧ Fills rules cs out' := by
  induction ds generalizing out with
  | nil => exact ⟨out, rfl, fills⟩
  | cons c ds ih =>
      obtain ⟨here, others⟩ := List.forall_mem_cons.mp digits
      rcases fills.cons_cases with ⟨-, out', rfl, rest⟩ | ⟨rule, -, rest, out', same, -, -⟩
      · obtain ⟨behind, rfl, alone⟩ := ih others rest
        exact ⟨behind, rfl, alone⟩
      · exact absurd ⟨rest, same.symm⟩ (rule.not_prefix_of_digit here (ds ++ cs))

end Fills

/-! ## What was replaced -/

variable {rules : List Rule} {rule : Rule}

theorem replace_nil (old new : List Char) : replace old new [] = [] := rfl

theorem replace_cons_of_absent {old new cs : List Char} {c : Char}
    (absent : ¬ old <+: c :: cs) : replace old new (c :: cs) = c :: replace old new cs := by
  have missed : ¬ old.isPrefixOf (c :: cs) = true := fun found =>
    absent (List.isPrefixOf_iff_prefix.mp found)
  rw [replace, replaceFrom, if_neg missed]
  rfl

theorem replace_placeholder (rule : Rule) (new cs : List Char) :
    replace rule.placeholder new (rule.placeholder ++ cs) =
      new ++ replace rule.placeholder new cs :=
  replaceFrom_found rule.placeholder_ne_nil cs

/-- A text is gone through as replacing does: a placeholder is taken off as a whole, and where
none begins a single character. -/
theorem Rule.textInduction (rule : Rule) {motive : List Char → Prop} (nil : motive [])
    (slot : ∀ behind, motive behind → motive (rule.placeholder ++ behind))
    (kept : ∀ c cs, ¬ rule.placeholder <+: c :: cs → motive cs → motive (c :: cs))
    (cs : List Char) : motive cs := by
  induction count : cs.length using Nat.strongRecOn generalizing cs with
  | ind count ih =>
      subst count
      match cs with
      | [] => exact nil
      | c :: cs =>
          by_cases found : rule.placeholder <+: c :: cs
          · obtain ⟨behind, here⟩ := found
            have shorter : behind.length < (c :: cs).length := by
              rw [← here, List.length_append, rule.width, Placeholder.width]
              omega
            rw [← here]
            exact slot behind (ih _ shorter behind rfl)
          · exact kept c cs found (ih _ (Nat.lt_succ_self _) cs rfl)

/-- What ends with an underscore, and is shorter than an address, was there before the
digits were put in. -/
theorem eq_append_of_replace {front rest cs : List Char} (short : front.length < Placeholder.width)
    (last : front ≠ [] → front.getLast? = some '_')
    (same : replace rule.placeholder rule.digits cs = front ++ rest) :
    ∃ behind, cs = front ++ behind ∧ rest = replace rule.placeholder rule.digits behind := by
  induction front generalizing cs with
  | nil => exact ⟨cs, rfl, same.symm⟩
  | cons c front ih =>
      match cs with
      | [] => cases same
      | d :: cs =>
          by_cases found : rule.placeholder <+: d :: cs
          · -- The digits that were put in reach beyond the front, which would end in them.
            obtain ⟨behind, here⟩ := found
            rw [← here, replace_placeholder] at same
            have inside : c :: front <+: rule.digits := by
              apply List.prefix_of_prefix_length_le ⟨rest, same.symm⟩ (List.prefix_append ..)
              rw [rule.full]
              exact Nat.le_of_lt short
            have ends := last (List.cons_ne_nil _ _)
            have digit := rule.hex _ (inside.subset (List.mem_of_getLast? ends))
            exact absurd digit Placeholder.underscore_not_mem_alphabet
          · rw [replace_cons_of_absent found, List.cons_append, List.cons.injEq] at same
            obtain ⟨rfl, same⟩ := same
            have last' : front ≠ [] → front.getLast? = some '_' := by
              intro more
              have ends := last (List.cons_ne_nil _ _)
              rwa [List.getLast?_cons_of_ne_nil more] at ends
            have short' : front.length < Placeholder.width := by
              rw [List.length_cons] at short
              omega
            obtain ⟨behind, rfl, onward⟩ := ih short' last' same
            exact ⟨behind, rfl, onward⟩

/-- **A text that is filled behind a replacement** was filled by it. -/
theorem Fills.of_replace {cs out : List Char}
    (fills : Fills rules (replace rule.placeholder rule.digits cs) out) :
    Fills (rule :: rules) cs out := by
  -- By induction on the length, because a placeholder is taken off as a whole.
  induction count : cs.length using Nat.strongRecOn generalizing cs out with
  | ind count ih =>
      subst count
      match cs with
      | [] =>
          rw [replace_nil] at fills
          exact fills.mono fun _ member => List.mem_cons_of_mem _ member
      | c :: cs =>
          by_cases found : rule.placeholder <+: c :: cs
          · obtain ⟨behind, here⟩ := found
            rw [← here, replace_placeholder] at fills
            obtain ⟨out', rfl, later⟩ := fills.of_append_digits rule.hex
            have shorter : behind.length < (c :: cs).length := by
              rw [← here, List.length_append, rule.width, Placeholder.width]
              omega
            rw [← here]
            exact .slot (List.mem_cons_self ..) (ih _ shorter later rfl)
          · rw [replace_cons_of_absent found] at fills
            rcases fills.cons_cases with ⟨digit, out', rfl, later⟩ |
              ⟨other, member, rest, out', same, rfl, later⟩
            · exact .digit digit (ih _ (Nat.lt_succ_self _) later rfl)
            · obtain ⟨tail, shape, width, last⟩ := other.exists_eq_cons
              rw [shape, List.cons_append, List.cons.injEq] at same
              obtain ⟨rfl, same⟩ := same
              obtain ⟨behind, rfl, rfl⟩ :=
                eq_append_of_replace (by omega) (fun _ => last) same
              have shorter : behind.length < ('_' :: (tail ++ behind)).length := by
                rw [List.length_cons, List.length_append]
                omega
              have whole := Fills.slot (List.mem_cons_of_mem rule member) (ih _ shorter later rfl)
              rwa [shape, List.cons_append] at whole

/-- **What becomes all digits has been filled.** -/
theorem fills_apply {cs : List Char} (digits : ∀ c ∈ apply rules cs, c ∈ Hex.alphabet) :
    Fills rules cs (apply rules cs) := by
  induction rules generalizing cs with
  | nil => exact fills_digits digits
  | cons first rest ih => exact (ih digits).of_replace

/-! ## What will be replaced -/

/-- Rules that do not get into each other's way. -/
structure Clear (rules : List Rule) : Prop where
  /-- A placeholder has one meaning. -/
  single : ∀ p ∈ rules, ∀ q ∈ rules, p.placeholder = q.placeholder → p.digits = q.digits
  /-- No placeholder is read across others. -/
  uncrossed : ∀ p ∈ rules, ∀ q ∈ rules, ∀ r ∈ rules, q.placeholder ≠ p.placeholder →
    ¬ Placeholder.Crosses p.placeholder q.placeholder r.placeholder

theorem Clear.mono {fewer : List Rule} (clear : Clear rules)
    (within : ∀ rule ∈ fewer, rule ∈ rules) : Clear fewer where
  single p hp q hq := clear.single p (within p hp) q (within q hq)
  uncrossed p hp q hq r hr := clear.uncrossed p (within p hp) q (within q hq) r (within r hr)

/-- What a text begins with, up to the length of a placeholder: digits, and then the
beginning of one placeholder, if any. -/
theorem Fills.exists_opening {cs out front : List Char} (fills : Fills rules cs out)
    (prefixed : front <+: cs) (short : front.length ≤ Placeholder.width) :
    ∃ digits opening, front = digits ++ opening ∧ (∀ c ∈ digits, c ∈ Hex.alphabet) ∧
      (opening = [] ∨ ∃ rule ∈ rules, opening <+: rule.placeholder) := by
  induction fills generalizing front with
  | nil =>
      rw [List.prefix_nil.mp prefixed]
      exact ⟨[], [], rfl, by simp, Or.inl rfl⟩
  | digit digit _ ih =>
      match front with
      | [] => exact ⟨[], [], rfl, by simp, Or.inl rfl⟩
      | d :: front =>
          obtain ⟨rfl, onward⟩ := List.cons_prefix_cons.mp prefixed
          have short' : front.length ≤ Placeholder.width := by
            rw [List.length_cons] at short
            omega
          obtain ⟨digits, opening, rfl, hex, start⟩ := ih onward short'
          exact ⟨d :: digits, opening, rfl, List.forall_mem_cons.mpr ⟨digit, hex⟩, start⟩
  | @slot rule cs out member _ _ =>
      have inside : front <+: rule.placeholder := by
        apply List.prefix_of_prefix_length_le prefixed (List.prefix_append ..)
        rw [rule.width]
        exact short
      exact ⟨[], front, rfl, by simp, Or.inr ⟨rule, member, inside⟩⟩

/-- Among clear rules, no placeholder is found inside another. -/
theorem Clear.not_found_inside (clear : Clear (rule :: rules)) {other : Rule} {cs out : List Char}
    (member : other ∈ rule :: rules) (differ : other.placeholder ≠ rule.placeholder)
    (fills : Fills (rule :: rules) cs out) {before after : List Char}
    (split : other.placeholder = before ++ after) (left : after ≠ []) :
    ¬ rule.placeholder <+: after ++ cs := by
  intro found
  have own : rule ∈ rule :: rules := List.mem_cons_self ..
  by_cases start : before = []
  · -- Both have the same width, so the one would be the other.
    rw [start, List.nil_append] at split
    rw [← split] at found
    have width : rule.placeholder.length = other.placeholder.length :=
      rule.width.trans other.width.symm
    have whole : rule.placeholder <+: other.placeholder :=
      List.prefix_of_prefix_length_le found (List.prefix_append ..) (Nat.le_of_eq width)
    exact differ (whole.eq_of_length width).symm
  · have shorter : after.length ≤ rule.placeholder.length := by
      rw [rule.width, ← other.width, split, List.length_append]
      omega
    obtain ⟨further, shape⟩ : after <+: rule.placeholder :=
      List.prefix_of_prefix_length_le (List.prefix_append ..) found shorter
    have behind : further <+: cs := by
      rw [← shape] at found
      exact (List.prefix_append_right_inj after).mp found
    have narrow : further.length ≤ Placeholder.width := by
      rw [← rule.width, ← shape, List.length_append]
      omega
    obtain ⟨digits, opening, rfl, hex, opens⟩ := fills.exists_opening behind narrow
    have crosses : ∀ third ∈ rule :: rules, opening <+: third.placeholder → False := by
      intro third inRules opens
      refine clear.uncrossed rule own other member third inRules differ ?_
      exact ⟨before, after, digits, opening, split, start, left, hex, opens, by
        rw [List.append_assoc, shape]⟩
    rcases opens with rfl | ⟨third, inRules, opens⟩
    · exact crosses rule own (List.nil_prefix)
    · exact crosses third inRules opens

/-- **Replacing one placeholder fills its slots** and leaves the others. -/
theorem Fills.replace {cs out : List Char} (fills : Fills (rule :: rules) cs out)
    (clear : Clear (rule :: rules)) :
    Fills rules (replace rule.placeholder rule.digits cs) out := by
  induction fills with
  | nil => exact .nil
  | digit digit _ ih =>
      rw [replace_cons_of_absent (rule.not_prefix_of_digit digit _)]
      exact .digit digit ih
  | @slot other cs out member fills ih =>
      by_cases same : other.placeholder = rule.placeholder
      · have digits := clear.single other member rule (List.mem_cons_self ..) same
        rw [same, replace_placeholder, digits]
        exact ih.append_digits rule.hex
      · have kept : Linker.replace rule.placeholder rule.digits (other.placeholder ++ cs) =
            other.placeholder ++ Linker.replace rule.placeholder rule.digits cs :=
          replaceFrom_append fun before after split left =>
            clear.not_found_inside member same fills split left
        have inRules : other ∈ rules := by
          rcases List.mem_cons.mp member with rfl | inRules
          · exact absurd rfl same
          · exact inRules
        rw [kept]
        exact .slot inRules ih

/-- **Clear rules fill a text**, whatever their order. -/
theorem apply_eq_of_fills {cs out : List Char} (clear : Clear rules)
    (fills : Fills rules cs out) : apply rules cs = out := by
  induction rules generalizing cs with
  | nil => exact fills.eq_of_nil.symm
  | cons first rest ih =>
      have clear' : Clear rest := clear.mono fun _ member => List.mem_cons_of_mem _ member
      exact ih clear' (fills.replace clear)

/-! ## Libraries in another order -/

/-- The placeholders of some libraries can be told from each other wherever they stand. -/
structure Discernible (label : String → String) (libraries : List String) : Prop where
  /-- Different libraries have different placeholders. -/
  apart : ∀ library ∈ libraries, ∀ other ∈ libraries, library ≠ other → ∀ form form',
    Placeholder.write form (label library).toList ≠ Placeholder.write form' (label other).toList
  /-- None is read from inside another into the beginning of a third. -/
  uncrossed : ∀ first ∈ libraries, ∀ second ∈ libraries, ∀ third ∈ libraries,
    ∀ form form' form'',
      Placeholder.write form' (label second).toList ≠ Placeholder.write form (label first).toList →
      ¬ Placeholder.Crosses (Placeholder.write form (label first).toList)
        (Placeholder.write form' (label second).toList)
        (Placeholder.write form'' (label third).toList)

section Discernible

variable {label : String → String} {address : String → Address} {libraries : List String}

theorem Discernible.mono (discernible : Discernible label libraries) {fewer : List String}
    (within : ∀ library ∈ fewer, library ∈ libraries) : Discernible label fewer where
  apart first hf other ho := discernible.apart first (within first hf) other (within other ho)
  uncrossed first hf second hs third ht :=
    discernible.uncrossed first (within first hf) second (within second hs) third (within third ht)

theorem Discernible.clear (discernible : Discernible label libraries) :
    Clear (Linker.rules label address libraries) where
  single p hp q hq same := by
    obtain ⟨library, member, form, rfl⟩ := mem_rules.mp hp
    obtain ⟨other, member', form', rfl⟩ := mem_rules.mp hq
    by_cases one : library = other
    · rw [one]
      rfl
    · exact absurd same (discernible.apart library member other member' one form form')
  uncrossed p hp q hq r hr differ := by
    obtain ⟨first, member, form, rfl⟩ := mem_rules.mp hp
    obtain ⟨second, member', form', rfl⟩ := mem_rules.mp hq
    obtain ⟨third, member'', form'', rfl⟩ := mem_rules.mp hr
    exact discernible.uncrossed first member second member' third member'' form form' form'' differ

/-- **The order of linking does not matter** for libraries that are told apart: what one
order makes all digits is the same in every other. -/
theorem linkAll_reordered (discernible : Discernible label libraries) {reordered : List String}
    (same : ∀ library, library ∈ reordered ↔ library ∈ libraries) {l : Linker}
    (digits : ∀ c ∈ (linkAll label address l libraries).code, c ∈ Hex.alphabet) :
    linkAll label address l reordered = linkAll label address l libraries := by
  rw [linkAll_eq_apply] at digits ⊢
  rw [linkAll_eq_apply]
  have fills := fills_apply digits
  have clear : Clear (Linker.rules label address reordered) :=
    (discernible.mono fun library member => (same library).mp member).clear
  have moved : Fills (Linker.rules label address reordered) l.code
      (apply (Linker.rules label address libraries) l.code) := by
    apply fills.mono
    intro rule member
    obtain ⟨library, listed, form, rfl⟩ := mem_rules.mp member
    exact mem_rules.mpr ⟨library, (same library).mpr listed, form, rfl⟩
  rw [apply_eq_of_fills clear moved]

end Discernible

end Linker

/-! ## Plain labels -/

namespace Template

/-- Plain labels whose placeholders differ are told apart everywhere. -/
theorem Separate.discernible {label : String → String} {libraries : List String}
    (separate : Separate label libraries) : Linker.Discernible label libraries where
  apart library member other member' differ form form' same :=
    differ ((separate.write_eq_iff member member').mp same).2
  uncrossed first member second member' third member'' form form' form'' differ := by
    rintro ⟨front, back, digits, opening, split, start, left, hex, ⟨more, whole⟩, across⟩
    simp only [Placeholder.write_eq_framed] at split whole across
    have onward : Placeholder.Continues
        (digits ++ Placeholder.framed (Placeholder.core form'' (label third).toList)) := by
      have next := (separate.tight form'' member'').continues []
      rw [List.append_nil] at next
      exact next.digits hex
    refine (separate.tight form' member').not_framed_in_frame (separate.tight form member) onward
      split start left ⟨more, ?_⟩
    rw [across, ← whole]
    simp only [List.append_assoc]

end Template

end Rollout
