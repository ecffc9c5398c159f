/-
# Rollout.Proofs.Json.Fields — what a table by name holds under each name

Of the fields of a table as they are written, the last of each name counts (`last?`).  By name a
table holds these values and no name twice (`ByName`).  Where a name was written once, both
tables hold the same under it (`ByName.lookup_of_once`).
-/
import Rollout.Proofs.Json.Arrangement

namespace Rollout.Json

open Rollout.Document (Value)

set_option autoImplicit false

variable {α : Type} {fields named : List (String × Value)} {name : String}

/-! ## Lists of fields -/

/-- The value of the last field of a name. -/
def last? (name : String) (fields : List (String × α)) : Option α :=
  fields.reverse.lookup name

/-- Without the fields of one name all others are found as before. -/
theorem lookup_filter_ne {other : String} (different : name ≠ other)
    (entries : List (String × α)) :
    (entries.filter fun e => e.1 ≠ other).lookup name = entries.lookup name := by
  induction entries with
  | nil => rfl
  | cons e rest ih =>
      by_cases removed : e.1 = other
      · have passed : (name == e.1) = false := beq_eq_false_iff_ne.mpr (removed ▸ different)
        rw [List.filter_cons_of_neg (by simpa using removed), ih, List.lookup_cons, passed]
      · rw [List.filter_cons_of_pos (by simpa using removed), List.lookup_cons, List.lookup_cons,
          ih]

theorem lookup_filter_self (other : String) (entries : List (String × α)) :
    (entries.filter fun e => e.1 ≠ other).lookup other = none := by
  rw [List.lookup_eq_none_iff]
  intro e member
  have kept : e.1 ≠ other := of_decide_eq_true (List.mem_filter.mp member).2
  exact bne_iff_ne.mpr kept.symm

/-- Where a name is met once at most, its first field is its last one. -/
theorem last?_of_countP {entries : List (String × α)}
    (once : entries.countP (·.1 = name) ≤ 1) : last? name entries = entries.lookup name := by
  rw [last?]
  cases found : entries.lookup name with
  | none =>
      rw [List.lookup_eq_none_iff] at found ⊢
      intro e member
      exact found e (List.mem_reverse.mp member)
  | some value =>
      obtain ⟨before, after, rfl, -⟩ := List.lookup_eq_some_iff.mp found
      rw [List.countP_append, List.countP_cons_of_pos (by simp)] at once
      have none_behind : after.countP (·.1 = name) = 0 := by omega
      have others := List.countP_eq_zero.mp none_behind
      refine List.lookup_eq_some_iff.mpr ⟨after.reverse, before.reverse, by simp, ?_⟩
      intro e member
      have different := others e (List.mem_reverse.mp member)
      simp only [decide_eq_true_eq] at different
      simpa using Ne.symm different

/-! ## Tables by name -/

/-- Fields hold, each name once, what the last of the written fields of that name says. -/
structure ByName (fields named : List (String × Value)) : Prop where
  distinct : (named.map (·.1)).Nodup
  lookup_eq : ∀ name, named.lookup name = (last? name fields).map byName

theorem exists_byName_table (fields : List (String × Value)) :
    ∃ named, byName (.table fields) = .table named ∧ ByName fields named := by
  refine ⟨_, byName_table fields, Catalog.nodup_names _, ?_⟩
  intro name
  rw [last?, ← Catalog.lookup_map, List.map_reverse]
  exact Catalog.find?_ofList

/-- A field by name is the last of its name among the fields as they are written. -/
theorem field?_byName (name : String) (fields : List (String × Value)) :
    (byName (.table fields)).field? name = (last? name fields).map byName := by
  obtain ⟨named, shape, rearranged⟩ := exists_byName_table fields
  rw [shape]
  exact rearranged.lookup_eq name

namespace ByName

variable (byName : ByName fields named)
include byName

theorem lookup_of_once (once : fields.countP (·.1 = name) ≤ 1) :
    named.lookup name = (fields.lookup name).map Json.byName := by
  rw [byName.lookup_eq, last?_of_countP once]

/-- Leaving out one name leaves it out by name. -/
theorem filter (other : String) :
    ByName (fields.filter fun f => f.1 ≠ other) (named.filter fun f => f.1 ≠ other) := by
  constructor
  · exact byName.distinct.sublist (List.filter_sublist.map _)
  · intro name
    rw [last?, ← List.filter_reverse]
    by_cases same : name = other
    · subst same
      rw [lookup_filter_self, lookup_filter_self, Option.map_none]
    · rw [lookup_filter_ne same, lookup_filter_ne same]
      exact byName.lookup_eq name

end ByName

end Rollout.Json
