/-
# Rollout.Proofs.Json.Reading — a text that was written is read back

The tokens of a value lead the machine from any frames to the value in its place, as long as
there is room for the lists and tables inside (`reads_value`).  With the tokens of its text,
a value is read back as it was written (`readAsWritten?_pretty`, `readAsWritten?_compact`).
-/
import Rollout.Proofs.Json.Tokens

namespace Rollout.Json

open Rollout.Document (Value)

set_option autoImplicit false

namespace Machine

/-- From any frames that leave room, the tokens of the value lead to its place. -/
def Reads (depth : Nat) (v : Value) : Prop :=
  ∀ frames : List Frame, frames.length + depth ≤ depthLimit →
    (tokensOf v).foldlM step ⟨frames, .value, none⟩ = some (place v frames)

/-- No value begins with the end of a list, so an item is read as any other value. -/
theorem foldlM_itemOrEnd (v : Value) (more : List Token) (frames : List Frame) :
    (tokensOf v ++ more).foldlM step ⟨frames, .itemOrEnd, none⟩ =
      (tokensOf v ++ more).foldlM step ⟨frames, .value, none⟩ := by
  cases v <;> rfl

theorem reads_items {depth : Nat} {items : List Value} (each : ∀ v ∈ items, Reads depth v)
    (present : items ≠ []) (frames : List Frame) (room : frames.length + 1 + depth ≤ depthLimit)
    (read : List Value) :
    (separated (itemTokens items)).foldlM step ⟨.list read :: frames, .value, none⟩ =
      some ⟨.list (items.reverse ++ read) :: frames, .next, none⟩ := by
  induction items generalizing read with
  | nil => exact absurd rfl present
  | cons v rest ih =>
      obtain ⟨here, others⟩ := List.forall_mem_cons.mp each
      have one := here (.list read :: frames) (by simpa using room)
      cases rest with
      | nil => simpa [separated, itemTokens, place] using one
      | cons second more =>
          have behind := ih others (List.cons_ne_nil _ _) (v :: read)
          have cut : separated (itemTokens (v :: second :: more)) =
              tokensOf v ++ .comma :: separated (itemTokens (second :: more)) := by
            simp [separated, itemTokens]
          rw [cut, List.foldlM_append, one]
          simpa [step, place] using behind

theorem reads_fields {depth : Nat} {fields : List (String × Value)}
    (each : ∀ f ∈ fields, Reads depth f.2) (present : fields ≠ []) (frames : List Frame)
    (room : frames.length + 1 + depth ≤ depthLimit) (read : List (String × Value)) (key : String)
    (orEnd : Bool) : ∃ last,
    (separated (fieldTokens fields)).foldlM step ⟨.table read key :: frames, .key orEnd, none⟩ =
      some ⟨.table (fields.reverse ++ read) last :: frames, .next, none⟩ := by
  induction fields generalizing read key orEnd with
  | nil => exact absurd rfl present
  | cons field rest ih =>
      obtain ⟨name, v⟩ := field
      obtain ⟨here, others⟩ := List.forall_mem_cons.mp each
      have one := here (.table read name :: frames) (by simpa using room)
      cases rest with
      | nil => exact ⟨name, by simpa [separated, fieldTokens, place, step] using one⟩
      | cons second more =>
          obtain ⟨last, behind⟩ := ih others (List.cons_ne_nil _ _) ((name, v) :: read) name false
          refine ⟨last, ?_⟩
          have cut : separated (fieldTokens ((name, v) :: second :: more)) =
              .scalar (.text name) :: .colon :: (tokensOf v ++
                .comma :: separated (fieldTokens (second :: more))) := by
            simp [separated, fieldTokens]
          have named : (.scalar (.text name) :: .colon :: (tokensOf v ++
              .comma :: separated (fieldTokens (second :: more)))).foldlM step
                ⟨.table read key :: frames, .key orEnd, none⟩ =
              (tokensOf v ++ .comma :: separated (fieldTokens (second :: more))).foldlM step
                ⟨.table read name :: frames, .value, none⟩ := rfl
          rw [cut, named, List.foldlM_append, one]
          simpa [step, place] using behind

/-- **The tokens of a value are read as the value.** -/
theorem reads_value {depth : Nat} {v : Value} (nests : Nests depth v) : Reads depth v := by
  induction nests with
  | null | bool | nat | text => exact fun frames _ => rfl
  | @list depth items _ ih =>
      intro frames room
      have enters : frames.length < depthLimit := by omega
      have opened : step ⟨frames, .value, none⟩ .openList =
          some ⟨.list [] :: frames, .itemOrEnd, none⟩ := if_pos enters
      rw [tokensOf, List.cons_append, List.foldlM_cons, opened]
      cases items with
      | nil => rfl
      | cons first rest =>
          have inside := reads_items ih (List.cons_ne_nil _ _) frames (by omega) []
          have begins : ∃ more, separated (itemTokens (first :: rest)) = tokensOf first ++ more := by
            cases rest with
            | nil => exact ⟨[], by simp [separated, itemTokens]⟩
            | cons second others => exact ⟨_, by simp [separated, itemTokens]; rfl⟩
          obtain ⟨more, begins⟩ := begins
          have same := foldlM_itemOrEnd first more (.list [] :: frames)
          rw [← begins] at same
          change (separated (itemTokens (first :: rest)) ++ [Token.closeList]).foldlM step _ = _
          rw [List.foldlM_append, same, inside]
          simp [step, close]
  | @table depth fields _ ih =>
      intro frames room
      have enters : frames.length < depthLimit := by omega
      have opened : step ⟨frames, .value, none⟩ .openTable =
          some ⟨.table [] "" :: frames, .key true, none⟩ := if_pos enters
      rw [tokensOf, List.cons_append, List.foldlM_cons, opened]
      cases fields with
      | nil => rfl
      | cons first rest =>
          obtain ⟨last, inside⟩ :=
            reads_fields ih (List.cons_ne_nil _ _) frames (by omega) [] "" true
          change (separated (fieldTokens (first :: rest)) ++ [Token.closeTable]).foldlM step _ = _
          rw [List.foldlM_append, inside]
          simp [step, close]

end Machine

theorem ofTokens?_tokensOf {v : Value} (nests : Nests Machine.depthLimit v) :
    ofTokens? (tokensOf v) = some v := by
  have reads := Machine.reads_value nests [] (by simp)
  simp [ofTokens?, Machine.initial, reads, Machine.place]

/-- **A value that is written over several lines is read back.** -/
theorem readAsWritten?_pretty {v : Value} (nests : Nests Machine.depthLimit v) :
    readAsWritten? (pretty v) = some v := by
  rw [readAsWritten?, tokens?_pretty nests]
  exact ofTokens?_tokensOf nests

/-- **A value that is written on one line is read back.** -/
theorem readAsWritten?_compact {v : Value} (nests : Nests Machine.depthLimit v) :
    readAsWritten? (compact v) = some v := by
  rw [readAsWritten?, tokens?_compact nests]
  exact ofTokens?_tokensOf nests

end Rollout.Json
