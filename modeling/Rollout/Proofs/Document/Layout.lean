/-
# Rollout.Proofs.Document.Layout — records are read field by field

Fields that a layout takes change a draft in one way, whatever the draft (`Takes`).  Fields
behind each other are taken one after another (`Takes.append`), and a field that is written
only when it is set changes what it is read into, or nothing (`takes_optionalField`).  A table
whose fields are taken is read, if the fields that have to be there are (`Takes.read`).
-/
import Rollout.Network
import Rollout.Proofs.Checked
import Rollout.Proofs.Json.Arrangement
import Rollout.Proofs.Record

namespace Rollout.Document

set_option autoImplicit false

/-! ## Single values -/

section Values

variable (a : Json.Arrangement)

theorem readText_arrange (s : String) : readText (a.arrange (.text s)) = .ok s := by
  rw [a.arrange_text]
  rfl

theorem readUInt16_arrange (n : UInt16) : readUInt16 (a.arrange (.nat n.toNat)) = .ok n := by
  rw [a.arrange_nat, readUInt16, readBelow_nat _ n.toNat_lt, Except.map, UInt16.ofNat_toNat]

theorem readUInt64_arrange (n : UInt64) : readUInt64 (a.arrange (.nat n.toNat)) = .ok n := by
  rw [a.arrange_nat, readUInt64_nat]

theorem readOctets_arrange (format : Format) {n : Nat} (o : Octets n) :
    readOctets format n (a.arrange (.text o.text)) = .ok o := by
  rw [a.arrange_text, readOctets_text]

theorem readOption_arrange {α : Type} {read : Reader α} {v : Value} {x : α} (filled : v ≠ .null)
    (reads : read (a.arrange v) = .ok x) : readOption read (a.arrange v) = .ok (some x) := by
  have arranged := a.arrange_ne_null filled
  unfold readOption
  split
  next empty => exact absurd empty arranged
  next => rw [reads]; rfl

theorem readList_arrange {α : Type} {read : Reader α} {write : α → Value}
    (reads : ∀ x, read (a.arrange (write x)) = .ok x) (items : List α) :
    readList read (a.arrange (.list (items.map write))) = .ok items := by
  have each : items.mapM (fun x => read (a.arrange (write x))) = .ok (items.map id) :=
    Checked.mapM_eq_map fun x _ => reads x
  simpa [readList, Value.items?, List.mapM_map, Function.comp_def] using each

end Values

namespace Layout

variable {δ : Type} (r : Layout δ) (a : Json.Arrangement)

/-! ## Fields -/

/-- Fields that, with what is inside arranged, change a draft in this way. -/
def Takes (fields : List (String × Value)) (change : δ → δ) : Prop :=
  ∀ draft, r.putAll draft (a.inside fields) = .ok (change draft)

variable {r a} {fields more : List (String × Value)} {change further : δ → δ}

theorem Takes.append (first : r.Takes a fields change) (second : r.Takes a more further) :
    r.Takes a (fields ++ more) fun draft => further (change draft) := by
  intro draft
  have front : r.putAll draft (a.inside fields) = .ok (change draft) := first draft
  rw [putAll] at front
  rw [Json.Arrangement.inside, List.map_append, putAll, List.foldlM_append]
  exact front ▸ second _

theorem takes_field {β : Type} {v : Value} {x : β} (name : String) (read : Reader β)
    (set : δ → β → δ) (known : name ∈ r.names)
    (put : ∀ draft v, r.put draft name v = (read v).map (set draft))
    (reads : read (a.arrange v) = .ok x) : r.Takes a [(name, v)] fun draft => set draft x := by
  intro draft
  have contained : r.names.contains name = true := List.contains_iff_mem.mpr known
  simp only [Json.Arrangement.inside, List.map_cons, List.map_nil, putAll, List.foldlM_cons,
    List.foldlM_nil, contained, if_true, put, reads]
  rfl

/-- A field that is not written leaves what is there. -/
theorem takes_optionalField {α β : Type} {write : α → Value} {result : α → β} (name : String)
    (read : Reader β) (get : δ → Option β) (set : δ → Option β → δ) (known : name ∈ r.names)
    (put : ∀ draft v, r.put draft name v = (readOption read v).map (set draft))
    (same : ∀ draft, set draft (get draft) = draft) (filled : ∀ x, write x ≠ .null)
    (reads : ∀ x, read (a.arrange (write x)) = .ok (result x)) (o : Option α) :
    r.Takes a (optionalField name write o) fun draft =>
      set draft ((o.map result).or (get draft)) := by
  cases o with
  | none => exact fun draft => congrArg Except.ok (same draft).symm
  | some x =>
      have read := readOption_arrange a (filled x) (reads x)
      exact takes_field name (readOption _) set known put read

/-- **A table whose fields are taken is read.** -/
theorem Takes.read (takes : r.Takes a fields change) (format : Format) (draft : δ)
    (present : ∀ f ∈ r.fields, f.named = true → f.name ∈ fields.map (·.1)) :
    r.read format draft (.table (a.inside fields)) = .ok (change draft) := by
  have none : r.fields.find? (fun f =>
      f.named && !((a.inside fields).map (·.1)).contains f.name) = none := by
    rw [a.names_inside]
    refine List.find?_eq_none.mpr fun f member missing => ?_
    obtain ⟨named, absent⟩ := Bool.and_eq_true_iff.mp missing
    have there := List.contains_iff_mem.mpr (present f member named)
    rw [there] at absent
    cases absent
  have put : r.putAll draft (a.inside fields) = .ok (change draft) := takes draft
  simp only [Layout.read, Value.fields?, put, bind, Except.bind, none]

/-- So is one of a layout without fields that have to be there. -/
theorem Takes.read_optional (takes : r.Takes a fields change) (format : Format) (draft : δ)
    (optional : ∀ f ∈ r.fields, f.named = false) :
    r.read format draft (.table (a.inside fields)) = .ok (change draft) :=
  takes.read format draft fun f member named =>
    absurd ((optional f member).symm.trans named) Bool.false_ne_true

end Layout

/-! ## Fields that may be left out -/

theorem mem_optionalField {α : Type} {name : String} {write : α → Value} {o : Option α}
    {f : String × Value} :
    f ∈ optionalField name write o ↔ ∃ x, o = some x ∧ f = (name, write x) := by
  cases o <;> simp [optionalField]

/-- A field that is written at all has its name. -/
theorem sublist_names_optionalField {α : Type} (name : String) (write : α → Value)
    (o : Option α) : ((optionalField name write o).map (·.1)).Sublist [name] := by
  cases o with
  | none => exact List.nil_sublist _
  | some x => exact List.Sublist.refl _

end Rollout.Document
