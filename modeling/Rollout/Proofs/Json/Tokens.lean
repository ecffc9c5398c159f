/-
# Rollout.Proofs.Json.Tokens — the tokens of a text that was written

Characters that yield tokens (`Yields`) may end with a number or a word, which is a token
only at the break behind it; characters that close (`Closes`) end between two tokens.
A value without doubles and dates (`Nests`) yields its own tokens, at every level of
indentation (`yields_pretty`) and on one line (`yields_compact`).
-/
import Mathlib.Data.List.Forall2
import Mathlib.Data.List.TakeWhile
import Rollout.Json
import Rollout.Proofs.Number.Decimal

namespace Rollout.Json

open Rollout.Document (Value)
open Rollout.Number (digitsValue)

set_option autoImplicit false

/-! ## Values and their tokens -/

/-- Values that are written without loss, with at most so many lists and tables inside each
other: neither doubles nor dates, and numbers of 64 bits without a sign. -/
inductive Nests : Nat → Value → Prop where
  | null (depth : Nat) : Nests depth .null
  | bool (depth : Nat) (b : Bool) : Nests depth (.bool b)
  | nat {n : Nat} (depth : Nat) (small : n < Number.limit64) : Nests depth (.nat n)
  | text (depth : Nat) (s : String) : Nests depth (.text s)
  | list {depth : Nat} {items : List Value} (inside : ∀ v ∈ items, Nests depth v) :
      Nests (depth + 1) (.list items)
  | table {depth : Nat} {fields : List (String × Value)} (inside : ∀ f ∈ fields, Nests depth f.2) :
      Nests (depth + 1) (.table fields)

/-- Pieces with a comma between any two. -/
def separated (pieces : List (List Token)) : List Token :=
  (pieces.intersperse [.comma]).flatten

mutual

def tokensOf : Value → List Token
  | .list items => .openList :: separated (itemTokens items) ++ [.closeList]
  | .tables elements => .openList :: separated (itemTokens elements) ++ [.closeList]
  | .table fields => .openTable :: separated (fieldTokens fields) ++ [.closeTable]
  | v => [.scalar v]

def itemTokens : List Value → List (List Token)
  | [] => []
  | v :: rest => tokensOf v :: itemTokens rest

def fieldTokens : List (String × Value) → List (List Token)
  | [] => []
  | (name, v) :: rest => (.scalar (.text name) :: .colon :: tokensOf v) :: fieldTokens rest

end

/-! ## Characters that yield tokens -/

/-- From between two tokens, these characters lead to the tokens, the last of which may not
have ended. -/
def Yields (cs : List Char) (ts : List Token) : Prop :=
  ∀ tokens, ∃ state kept, cs.foldlM step (.between, tokens) = some (state, kept) ∧
    finish kept state = some (ts.reverse ++ tokens)

/-- From between two tokens, these characters lead to the tokens and between two again. -/
def Closes (cs : List Char) (ts : List Token) : Prop :=
  ∀ tokens, cs.foldlM step (.between, tokens) = some (.between, ts.reverse ++ tokens)

/-- A character that stands in no number and no word. -/
def isBreak (c : Char) : Bool := !isNumeric c && !c.isLower

section Joining

variable {cs cs' : List Char} {ts ts' : List Token} {c : Char}

theorem Closes.yields (closes : Closes cs ts) : Yields cs ts := fun tokens =>
  ⟨.between, _, closes tokens, rfl⟩

theorem Closes.append (first : Closes cs ts) (second : Closes cs' ts') :
    Closes (cs ++ cs') (ts ++ ts') := by
  intro tokens
  rw [List.foldlM_append, first tokens, List.reverse_append, List.append_assoc]
  exact second _

theorem Closes.append_yields (first : Closes cs ts) (second : Yields cs' ts') :
    Yields (cs ++ cs') (ts ++ ts') := by
  intro tokens
  obtain ⟨state, kept, steps, finished⟩ := second (ts.reverse ++ tokens)
  refine ⟨state, kept, ?_, by rw [finished, List.reverse_append, List.append_assoc]⟩
  rw [List.foldlM_append, first tokens]
  exact steps

/-- At a break the token before it ends. -/
theorem step_break {state : State} {kept tokens : List Token}
    (finished : finish kept state = some tokens) (ends : isBreak c = true) :
    step (state, kept) c = step (.between, tokens) c := by
  simp only [isBreak, Bool.and_eq_true, Bool.not_eq_true'] at ends
  cases state with
  | between =>
      obtain rfl : kept = tokens := Option.some.inj finished
      rfl
  | number read =>
      simp only [step, ends.1, Bool.false_eq_true, if_false, finished]
      rfl
  | word read =>
      simp only [step, ends.2, Bool.false_eq_true, if_false, finished]
      rfl
  | inText | escape | code | lead | leadEscape => cases finished

theorem Yields.append_closes (first : Yields cs ts) (second : Closes (c :: cs') ts')
    (ends : isBreak c = true) : Closes (cs ++ c :: cs') (ts ++ ts') := by
  intro tokens
  obtain ⟨state, kept, steps, finished⟩ := first tokens
  have behind := second (ts.reverse ++ tokens)
  rw [List.foldlM_cons, ← step_break finished ends, ← List.foldlM_cons] at behind
  rw [List.foldlM_append, steps, List.reverse_append, List.append_assoc]
  exact behind

end Joining

theorem closes_nil : Closes [] [] := fun _ => rfl

theorem closes_spaces (count : Nat) : Closes (List.replicate count ' ') [] := by
  induction count with
  | zero => exact closes_nil
  | succ count ih => exact ih

/-- The end of a line and the indentation of the next are no tokens. -/
theorem closes_line (count : Nat) : Closes ('\x0a' :: List.replicate count ' ') [] :=
  closes_spaces count

/-! ## Texts -/

theorem hexValue?_digitChar {n : Nat} (small : n < 16) : hexValue? (Nat.digitChar n) = some n := by
  have table : ∀ n < 16, hexValue? (Nat.digitChar n) = some n := by decide
  exact table n small

theorem read_hexPair {c : Char} (control : c.toNat < 0x20) (read : List Char)
    (tokens : List Token) :
    (['\x5c', 'u', '0', '0'] ++ hexPair c.toNat).foldlM step (.inText read, tokens) =
      some (.inText (c :: read), tokens) := by
  have high : hexValue? (Nat.digitChar (c.toNat / 16)) = some (c.toNat / 16) :=
    hexValue?_digitChar (by omega)
  have low : hexValue? (Nat.digitChar (c.toNat % 16)) = some (c.toNat % 16) :=
    hexValue?_digitChar (by omega)
  have zero : hexValue? '0' = some 0 := rfl
  have whole : 16 * (c.toNat / 16) + c.toNat % 16 = c.toNat := by omega
  have small : ¬ 0xD800 ≤ c.toNat := by omega
  have trail : ¬ 0xDC00 ≤ c.toNat := by omega
  simp [hexPair, step, high, low, zero, closeCode, whole, small, trail, Char.ofNat_toNat]

theorem read_escape (c : Char) (read : List Char) (tokens : List Token) :
    (escape c).foldlM step (.inText read, tokens) = some (.inText (c :: read), tokens) := by
  unfold escape
  split
  next mark =>
    rcases mark with rfl | rfl
    · rfl
    · rfl
  next mark =>
    repeat' split
    · subst c; rfl
    · subst c; rfl
    · subst c; rfl
    · subst c; rfl
    · subst c; rfl
    next control => exact read_hexPair control read tokens
    next visible =>
      simp only [not_or] at mark
      simp [step, mark.1, mark.2, visible]

theorem read_escapes (cs read : List Char) (tokens : List Token) :
    (cs.flatMap escape).foldlM step (.inText read, tokens) =
      some (.inText (cs.reverse ++ read), tokens) := by
  induction cs generalizing read with
  | nil => rfl
  | cons c rest ih =>
      rw [List.flatMap_cons, List.foldlM_append, read_escape]
      simpa using ih (c :: read)

theorem closes_quoted (s : String) : Closes (quoted s) [.scalar (.text s)] := by
  intro tokens
  rw [quoted, List.cons_append, List.foldlM_cons]
  change (s.toList.flatMap escape ++ ['\x22']).foldlM step (.inText [], tokens) = _
  rw [List.foldlM_append, read_escapes]
  simp [step, String.ofList_toList]

/-! ## Numbers -/

theorem spanDigits_toDigits (n : Nat) :
    spanDigits (Nat.toDigits 10 n) = (Nat.toDigits 10 n, []) := by
  have digits : ∀ c ∈ Nat.toDigits 10 n, c.isDigit = true := fun c member =>
    Number.isDigit_of_mem_toDigits member
  rw [spanDigits, List.takeWhile_eq_self_iff.mpr digits, List.dropWhile_eq_nil_iff.mpr digits]

/-- No digits but the single zero begin with a zero. -/
theorem toDigits_leading (n : Nat) :
    ((Nat.toDigits 10 n).head? == some '0' && decide ((Nat.toDigits 10 n).length > 1)) = false := by
  rcases Nat.eq_zero_or_pos n with rfl | positive
  · rfl
  · obtain ⟨c, rest, written, other⟩ := Number.exists_toDigits_eq_cons positive
    simp [written, other]

theorem numeral?_toDigits (n : Nat) :
    numeral? (Nat.toDigits 10 n) = some ⟨false, Nat.toDigits 10 n, none, none⟩ := by
  have present : (Nat.toDigits 10 n).isEmpty = false := by
    simp [Nat.toDigits_ne_nil]
  have leading := toDigits_leading n
  have span := spanDigits_toDigits n
  cases written : Nat.toDigits 10 n with
  | nil => exact absurd written Nat.toDigits_ne_nil
  | cons c rest =>
      have digit : c.isDigit = true := Number.isDigit_of_mem_toDigits (written ▸ List.mem_cons_self)
      have unsigned : c ≠ '-' := by
        rintro rfl
        simp at digit
      rw [written] at leading span
      unfold numeral?
      split
      next negative others first =>
        split at first
        next same => exact absurd (List.cons.inj same).1 unsigned
        next =>
          obtain ⟨rfl, rfl⟩ := Prod.mk.inj first
          simp only [span, leading, List.isEmpty_cons, Bool.or_self, Bool.false_eq_true, if_false]
          rfl

theorem value?_toDigits {n : Nat} (small : n < Number.limit64) :
    (Numeral.mk false (Nat.toDigits 10 n) none none).value? = some (.nat n) := by
  unfold Numeral.value?
  simp [Number.digitsValue_toDigits, small]

/-- Digits go on with the number that they begin. -/
theorem read_digits {cs : List Char} (digits : ∀ c ∈ cs, c.isDigit = true) (read : List Char)
    (tokens : List Token) :
    cs.foldlM step (.number read, tokens) = some (.number (cs.reverse ++ read), tokens) := by
  induction cs generalizing read with
  | nil => rfl
  | cons c rest ih =>
      obtain ⟨here, others⟩ := List.forall_mem_cons.mp digits
      have goes : step (.number read, tokens) c = some (.number (c :: read), tokens) := by
        simp [step, isNumeric, here]
      rw [List.foldlM_cons, goes]
      simpa using ih others (c :: read)

theorem start_digit {c : Char} (digit : c.isDigit = true) (tokens : List Token) :
    start tokens c = some (.number [c], tokens) := by
  have no {mark : Char} (none : mark.isDigit = false) : c ≠ mark := fun same => by
    simp [same, none] at digit
  simp only [start, no (show ' '.isDigit = false from rfl), no (show '\x09'.isDigit = false from rfl),
    no (show '\x0a'.isDigit = false from rfl), no (show '\x0d'.isDigit = false from rfl),
    no (show '['.isDigit = false from rfl), no (show ']'.isDigit = false from rfl),
    no (show '\x7b'.isDigit = false from rfl), no (show '\x7d'.isDigit = false from rfl),
    no (show ','.isDigit = false from rfl), no (show ':'.isDigit = false from rfl),
    no (show '\x22'.isDigit = false from rfl), digit, or_self, or_true, if_false, if_true]

theorem yields_digits {n : Nat} (small : n < Number.limit64) :
    Yields (Nat.toDigits 10 n) [.scalar (.nat n)] := by
  have digits : ∀ c ∈ Nat.toDigits 10 n, c.isDigit = true := fun c member =>
    Number.isDigit_of_mem_toDigits member
  have value := value?_toDigits small
  have numeral := numeral?_toDigits n
  intro tokens
  cases all : Nat.toDigits 10 n with
  | nil => exact absurd all Nat.toDigits_ne_nil
  | cons c rest =>
      rw [all] at digits value numeral
      obtain ⟨here, others⟩ := List.forall_mem_cons.mp digits
      refine ⟨.number (rest.reverse ++ [c]), tokens, ?_, ?_⟩
      · rw [List.foldlM_cons]
        change (start tokens c).bind _ = _
        rw [start_digit here]
        exact read_digits others [c] tokens
      · simp [finish, numeral, value]

theorem yields_nat {n : Nat} (small : n < Number.limit64) :
    Yields (toString (n : Int)).toList [.scalar (.nat n)] := by
  have written : (toString (n : Int)).toList = Nat.toDigits 10 n := by
    change (Nat.repr n).toList = _
    rw [Nat.toList_repr]
  exact written ▸ yields_digits small

/-! ## Words -/

theorem yields_null : Yields (compactChars .null) [.scalar .null] := fun tokens =>
  ⟨.word ['l', 'l', 'u', 'n'], tokens, rfl, rfl⟩

theorem yields_bool (b : Bool) : Yields (compactChars (.bool b)) [.scalar (.bool b)] := by
  cases b with
  | true => exact fun tokens => ⟨.word ['e', 'u', 'r', 't'], tokens, rfl, rfl⟩
  | false => exact fun tokens => ⟨.word ['e', 's', 'l', 'a', 'f'], tokens, rfl, rfl⟩

/-! ## Lists, tables and values -/

section Blocks

variable {pieces : List (List Char)} {yielded : List (List Token)}

theorem yields_joined {indent : List Char} (comma : Closes (',' :: indent) [.comma])
    (each : List.Forall₂ Yields pieces yielded) (present : pieces ≠ []) :
    Yields (joined (',' :: indent) pieces) (separated yielded) := by
  induction each with
  | nil => exact absurd rfl present
  | cons first rest ih =>
      cases rest with
      | nil => simpa [joined, separated] using first
      | cons second others =>
          have behind := ih (List.cons_ne_nil _ _)
          have front := first.append_closes comma rfl
          simpa [joined, separated] using front.append_yields behind

theorem closes_block {first last : Char} {opening closing : Token}
    (opens : Closes [first] [opening]) (ends : Closes [last] [closing]) (level : Nat)
    (each : List.Forall₂ Yields pieces yielded) :
    Closes (block first last level pieces) (opening :: separated yielded ++ [closing]) := by
  cases each with
  | nil => exact opens.append ends
  | cons one rest =>
      have mark : Closes [','] [.comma] := fun _ => rfl
      have comma : Closes (',' :: '\x0a' :: List.replicate (2 * (level + 1)) ' ') [.comma] :=
        mark.append (closes_line (2 * (level + 1)))
      have inside := yields_joined comma (.cons one rest) (List.cons_ne_nil _ _)
      have front := (opens.append (closes_line (2 * (level + 1)))).append_yields inside
      have back : Closes ('\x0a' :: (List.replicate (2 * level) ' ' ++ [last])) [closing] :=
        (closes_line (2 * level)).append ends
      simpa [block] using front.append_closes back rfl

end Blocks

theorem items_yield {items : List Value}
    (each : ∀ v ∈ items, ∀ level, Yields (prettyChars level v) (tokensOf v)) (level : Nat) :
    List.Forall₂ Yields (prettyItems level items) (itemTokens items) := by
  induction items with
  | nil => exact .nil
  | cons v rest ih =>
      obtain ⟨here, others⟩ := List.forall_mem_cons.mp each
      exact .cons (here level) (ih others)

theorem fields_yield {fields : List (String × Value)}
    (each : ∀ f ∈ fields, ∀ level, Yields (prettyChars level f.2) (tokensOf f.2)) (level : Nat) :
    List.Forall₂ Yields (prettyFields level fields) (fieldTokens fields) := by
  induction fields with
  | nil => exact .nil
  | cons field rest ih =>
      obtain ⟨name, v⟩ := field
      obtain ⟨here, others⟩ := List.forall_mem_cons.mp each
      have colon : Closes [':', ' '] [.colon] := fun _ => rfl
      have named := ((closes_quoted name).append colon).append_yields (here level)
      exact .cons (by simpa using named) (ih others)

/-- **A value that is written over several lines yields its tokens.** -/
theorem yields_pretty {depth : Nat} {v : Value} (nests : Nests depth v) (level : Nat) :
    Yields (prettyChars level v) (tokensOf v) := by
  induction nests generalizing level with
  | null => exact yields_null
  | bool _ b => exact yields_bool b
  | nat _ small => exact yields_nat small
  | text _ s => exact (closes_quoted s).yields
  | list _ ih =>
      exact (closes_block (fun _ => rfl) (fun _ => rfl) level (items_yield ih (level + 1))).yields
  | table _ ih =>
      exact (closes_block (fun _ => rfl) (fun _ => rfl) level (fields_yield ih (level + 1))).yields

/-! ## Values on one line -/

theorem compactItems_yield {items : List Value}
    (each : ∀ v ∈ items, Yields (compactChars v) (tokensOf v)) :
    List.Forall₂ Yields (compactItems items) (itemTokens items) := by
  induction items with
  | nil => exact .nil
  | cons v rest ih =>
      obtain ⟨here, others⟩ := List.forall_mem_cons.mp each
      exact .cons here (ih others)

theorem compactFields_yield {fields : List (String × Value)}
    (each : ∀ f ∈ fields, Yields (compactChars f.2) (tokensOf f.2)) :
    List.Forall₂ Yields (compactFields fields) (fieldTokens fields) := by
  induction fields with
  | nil => exact .nil
  | cons field rest ih =>
      obtain ⟨name, v⟩ := field
      obtain ⟨here, others⟩ := List.forall_mem_cons.mp each
      have colon : Closes [':'] [.colon] := fun _ => rfl
      have named := ((closes_quoted name).append colon).append_yields here
      exact .cons (by simpa using named) (ih others)

/-- Pieces between brackets on one line. -/
theorem closes_enclosed {pieces : List (List Char)} {yielded : List (List Token)}
    {first last : Char} {opening closing : Token} (opens : Closes [first] [opening])
    (ends : Closes [last] [closing]) (breaks : isBreak last = true)
    (each : List.Forall₂ Yields pieces yielded) :
    Closes (first :: joined [','] pieces ++ [last])
      (opening :: separated yielded ++ [closing]) := by
  cases each with
  | nil => exact opens.append ends
  | cons one rest =>
      have comma : Closes [','] [.comma] := fun _ => rfl
      have inside := yields_joined comma (.cons one rest) (List.cons_ne_nil _ _)
      exact (opens.append_yields inside).append_closes ends breaks

/-- **A value that is written on one line yields its tokens.** -/
theorem yields_compact {depth : Nat} {v : Value} (nests : Nests depth v) :
    Yields (compactChars v) (tokensOf v) := by
  induction nests with
  | null => exact yields_null
  | bool _ b => exact yields_bool b
  | nat _ small => exact yields_nat small
  | text _ s => exact (closes_quoted s).yields
  | list _ ih =>
      exact (closes_enclosed (fun _ => rfl) (fun _ => rfl) rfl (compactItems_yield ih)).yields
  | table _ ih =>
      exact (closes_enclosed (fun _ => rfl) (fun _ => rfl) rfl (compactFields_yield ih)).yields

theorem tokens?_of_yields {cs : List Char} {ts : List Token} (yields : Yields cs ts) :
    tokens? cs = some ts := by
  obtain ⟨state, kept, steps, finished⟩ := yields []
  simp [tokens?, steps, finished]

/-- **The tokens of a text that was written are those of the value.** -/
theorem tokens?_pretty {depth : Nat} {v : Value} (nests : Nests depth v) :
    tokens? (pretty v).toList = some (tokensOf v) := by
  rw [pretty, String.toList_ofList]
  exact tokens?_of_yields (yields_pretty nests 0)

theorem tokens?_compact {depth : Nat} {v : Value} (nests : Nests depth v) :
    tokens? (compact v).toList = some (tokensOf v) := by
  rw [compact, String.toList_ofList]
  exact tokens?_of_yields (yields_compact nests)

end Rollout.Json
