/-
# Rollout.Proofs.Json.Arrangement — fields as they are written, and fields by name

A text is read with the fields of every table as they are written, or by name.  Both are
arrangements of one value.  They leave a table whose fields are in order of name as it is, but
for what is inside (`arrange_table_of_ordered`), and otherwise only differ in the order of its
fields (`byName_table_of_perm`).
-/
import Rollout.Proofs.Catalog
import Rollout.Proofs.Json.Reading

namespace Rollout.Json

open Rollout.Document (Value)

set_option autoImplicit false

/-! ## Values by name -/

theorem itemsByName_eq_map (items : List Value) : itemsByName items = items.map byName := by
  induction items with
  | nil => rfl
  | cons first rest ih => rw [itemsByName, ih, List.map_cons]

theorem byName_list (items : List Value) : byName (.list items) = .list (items.map byName) := by
  rw [byName, itemsByName_eq_map]

theorem fieldsByName_eq_foldl (catalog : Catalog Value) (fields : List (String × Value)) :
    fieldsByName catalog fields =
      (fields.map fun f => (f.1, byName f.2)).foldl (fun c f => c.insert f.1 f.2) catalog := by
  induction fields generalizing catalog with
  | nil => rfl
  | cons first rest ih => exact ih _

/-- By name the fields of a table are those of a catalog. -/
theorem byName_table (fields : List (String × Value)) :
    byName (.table fields) =
      .table (Catalog.ofList (fields.map fun f => (f.1, byName f.2))).entries := by
  rw [byName, fieldsByName_eq_foldl]
  rfl

/-- **By name a table has its fields in increasing order of name.** -/
theorem byName_table_of_perm {fields sorted : List (String × Value)}
    (ordered : Catalog.Ordered sorted)
    (perm : (fields.map fun f => (f.1, byName f.2)).Perm sorted) :
    byName (.table fields) = .table sorted := by
  rw [byName_table, Catalog.entries_ofList_of_perm ordered perm]

/-! ## Arrangements -/

/-- How the fields of tables are arranged. -/
inductive Arrangement where
  | asWritten
  | byName

namespace Arrangement

def arrange : Arrangement → Value → Value
  | .asWritten, v => v
  | .byName, v => Json.byName v

def read? : Arrangement → String → Option Value
  | .asWritten, text => readAsWritten? text
  | .byName, text => Json.read? text

variable (a : Arrangement)

theorem read?_eq (text : String) : a.read? text = (readAsWritten? text).map a.arrange := by
  cases a with
  | asWritten => exact (Option.map_id' (x := readAsWritten? text)).symm
  | byName => rfl

@[simp] theorem arrange_null : a.arrange .null = .null := by cases a <;> rfl

@[simp] theorem arrange_bool (b : Bool) : a.arrange (.bool b) = .bool b := by cases a <;> rfl

@[simp] theorem arrange_nat (n : Nat) : a.arrange (.nat n) = .nat n := by cases a <;> rfl

@[simp] theorem arrange_text (s : String) : a.arrange (.text s) = .text s := by cases a <;> rfl

@[simp] theorem arrange_list (items : List Value) :
    a.arrange (.list items) = .list (items.map a.arrange) := by
  cases a with
  | asWritten => exact congrArg Value.list (List.map_id' items).symm
  | byName => exact byName_list items

theorem arrange_ne_null {v : Value} (filled : v ≠ .null) : a.arrange v ≠ .null := by
  cases a with
  | asWritten => exact filled
  | byName =>
      intro empty
      apply filled
      cases v with
      | null => rfl
      | bool | int | float | text | date | list | tables | table => cases empty

/-- The fields of a table with what is inside arranged. -/
def inside (fields : List (String × Value)) : List (String × Value) :=
  fields.map fun f => (f.1, a.arrange f.2)

theorem names_inside (fields : List (String × Value)) :
    (a.inside fields).map (·.1) = fields.map (·.1) := by
  rw [inside, List.map_map]
  rfl

theorem arrange_asWritten_table (fields : List (String × Value)) :
    Arrangement.asWritten.arrange (.table fields) =
      .table (Arrangement.asWritten.inside fields) :=
  congrArg Value.table (List.map_id' fields).symm

/-- By name the fields of a table stand in increasing order of name. -/
theorem arrange_byName_table {fields sorted : List (String × Value)}
    (ordered : Catalog.Ordered sorted) (perm : fields.Perm sorted) :
    Arrangement.byName.arrange (.table fields) = .table (Arrangement.byName.inside sorted) :=
  byName_table_of_perm (List.pairwise_map.mpr ordered) (perm.map _)

/-- Fields that are in order of name stay in order. -/
theorem arrange_table_of_ordered {fields : List (String × Value)}
    (ordered : Catalog.Ordered fields) : a.arrange (.table fields) = .table (a.inside fields) := by
  cases a with
  | asWritten => exact arrange_asWritten_table fields
  | byName => exact arrange_byName_table ordered (List.Perm.refl _)

end Arrangement

/-! ## Reading back -/

/-- **A value that was written is read back**, on one line or over several, arranged. -/
theorem Arrangement.read?_printed (a : Arrangement) {v : Value}
    (nests : Nests Machine.depthLimit v) :
    a.read? (compact v) = some (a.arrange v) ∧ a.read? (pretty v) = some (a.arrange v) := by
  constructor
  · rw [read?_eq, readAsWritten?_compact nests, Option.map_some]
  · rw [read?_eq, readAsWritten?_pretty nests, Option.map_some]

end Rollout.Json
