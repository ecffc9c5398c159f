/-
# Rollout.Proofs.Catalog — what a catalog of a list holds

Inserting under a name leaves the entries of all other names (`mem_insertEntry_iff`), so the
catalog of a list holds under each name the last value that the list has for it
(`mem_ofList`).  A list without repeated names keeps all its entries (`perm_ofList`), in
increasing order of name (`entries_ofList_of_perm`).
-/
import Mathlib.Data.List.Induction
import Mathlib.Data.List.Nodup
import Rollout.Catalog

namespace Rollout.Catalog

set_option autoImplicit false

variable {α : Type} {entries : List (String × α)} {name : String} {value : α}

/-- Behind an entry stands no other of its name, nor of a smaller one. -/
theorem ne_of_ordered {first : String × α} (ordered : Ordered (first :: entries))
    {e : String × α} (later : e ∈ entries) (small : name < first.1 ∨ name = first.1) :
    e.1 ≠ name := by
  have behind : first.1 < e.1 := (List.pairwise_cons.mp ordered).1 e later
  rintro rfl
  rcases small with less | same
  · exact String.lt_irrefl _ (String.lt_trans less behind)
  · exact String.lt_irrefl _ (same ▸ behind)

theorem mem_insertEntry_iff (ordered : Ordered entries) {e : String × α} :
    e ∈ insertEntry name value entries ↔ e = (name, value) ∨ e.1 ≠ name ∧ e ∈ entries := by
  induction entries with
  | nil => simp [insertEntry]
  | cons first rest ih =>
      obtain ⟨other, kept⟩ := first
      have tail := (List.pairwise_cons.mp ordered).2
      simp only [insertEntry]
      split
      next small =>
        have here : other ≠ name := fun same => String.lt_irrefl _ (same ▸ small)
        have others : e ∈ rest → e.1 ≠ name := fun later =>
          ne_of_ordered ordered later (Or.inl small)
        rw [List.mem_cons]
        refine or_congr_right ⟨fun member => ⟨?_, member⟩, And.right⟩
        rcases List.mem_cons.mp member with rfl | later
        · exact here
        · exact others later
      next =>
        split
        next same =>
          subst same
          have others : e ∈ rest → e.1 ≠ name := fun later =>
            ne_of_ordered ordered later (Or.inr rfl)
          rw [List.mem_cons, List.mem_cons]
          refine or_congr_right ⟨fun later => ⟨others later, Or.inr later⟩, ?_⟩
          rintro ⟨different, rfl | later⟩
          · exact absurd rfl different
          · exact later
        next different =>
          rw [List.mem_cons, List.mem_cons, ih tail]
          constructor
          · rintro (rfl | same | ⟨other, later⟩)
            · exact Or.inr ⟨Ne.symm different, Or.inl rfl⟩
            · exact Or.inl same
            · exact Or.inr ⟨other, Or.inr later⟩
          · rintro (same | ⟨other, here | later⟩)
            · exact Or.inr (Or.inl same)
            · exact Or.inl here
            · exact Or.inr (Or.inr ⟨other, later⟩)

theorem ext_entries {c d : Catalog α} (same : c.entries = d.entries) : c = d := by
  obtain ⟨entries, ordered⟩ := c
  obtain rfl : entries = d.entries := same
  rfl

theorem nodup_names (c : Catalog α) : c.names.Nodup := by
  refine List.pairwise_map.mpr (c.ordered.imp ?_)
  intro a b less same
  exact String.lt_irrefl _ (same ▸ less)

/-- Where no name is repeated, an entry is found under its name. -/
theorem lookup_of_mem (distinct : (entries.map (·.1)).Nodup) (member : (name, value) ∈ entries) :
    entries.lookup name = some value := by
  obtain ⟨before, after, rfl⟩ := List.append_of_mem member
  refine List.lookup_eq_some_iff.mpr ⟨before, after, rfl, ?_⟩
  intro earlier inside
  rw [List.map_append, List.map_cons] at distinct
  have different := (List.nodup_append.mp distinct).2.2 earlier.1
    (List.mem_map_of_mem inside) name (List.mem_cons_self ..)
  simpa using Ne.symm different

theorem mem_of_find? {c : Catalog α} (found : c.find? name = some value) :
    (name, value) ∈ c.entries := by
  obtain ⟨before, after, split, -⟩ := List.lookup_eq_some_iff.mp found
  rw [split]
  exact List.mem_append_right _ (List.mem_cons_self ..)

/-- Something is found under the names of a catalog, and under no others. -/
theorem isSome_find?_iff {c : Catalog α} : (c.find? name).isSome ↔ name ∈ c.names := by
  rw [find?, List.lookup_isSome_iff, names]
  simp

theorem ofList_append (entry : String × α) :
    ofList (entries ++ [entry]) = (ofList entries).insert entry.1 entry.2 := by
  simp [ofList]

theorem mem_names_insert (c : Catalog α) {other : String} :
    name ∈ (c.insert other value).names ↔ name = other ∨ name ∈ c.names := by
  simp only [names, insert, List.mem_map, mem_insertEntry_iff c.ordered]
  constructor
  · rintro ⟨e, rfl | ⟨-, kept⟩, rfl⟩
    · exact Or.inl rfl
    · exact Or.inr ⟨e, kept, rfl⟩
  · rintro (rfl | ⟨e, kept, rfl⟩)
    · exact ⟨_, Or.inl rfl, rfl⟩
    · by_cases same : e.1 = other
      · exact ⟨_, Or.inl rfl, same.symm⟩
      · exact ⟨e, Or.inr ⟨same, kept⟩, rfl⟩

theorem mem_names_ofList : name ∈ (ofList entries).names ↔ name ∈ entries.map (·.1) := by
  induction entries using List.reverseRecOn with
  | nil => simp [ofList, empty, names]
  | append_singleton front entry ih =>
      rw [ofList_append, mem_names_insert, ih]
      simp [or_comm]

/-- **Under each name the catalog of a list holds the last value of that name.** -/
theorem mem_ofList :
    (name, value) ∈ (ofList entries).entries ↔ ∃ before after,
      entries = before ++ (name, value) :: after ∧ ∀ later ∈ after, later.1 ≠ name := by
  induction entries using List.reverseRecOn with
  | nil => simp [ofList, empty]
  | append_singleton front entry ih =>
      rw [ofList_append, insert, mem_insertEntry_iff (ofList front).ordered, ih]
      constructor
      · rintro (same | ⟨other, before, after, rfl, final⟩)
        · exact ⟨front, [], by rw [same], by simp⟩
        · refine ⟨before, after ++ [entry], by simp, ?_⟩
          exact List.forall_mem_append.mpr ⟨final, by simpa using Ne.symm other⟩
      · rintro ⟨before, after, split, final⟩
        rcases List.eq_nil_or_concat after with rfl | ⟨front', entry', rfl⟩
        · exact Or.inl (List.singleton_inj.mp (List.append_inj_right' split rfl)).symm
        · rw [List.concat_eq_append, ← List.cons_append, ← List.append_assoc] at split
          obtain ⟨rfl, same⟩ := List.append_inj' split rfl
          obtain rfl := List.singleton_inj.mp same
          obtain ⟨final, other⟩ := List.forall_mem_append.mp (List.concat_eq_append ▸ final)
          exact Or.inr ⟨Ne.symm (by simpa using other), before, front', rfl, final⟩

/-- What the catalog of a list holds under a name is found first from the end. -/
theorem find?_ofList : (ofList entries).find? name = entries.reverse.lookup name := by
  cases found : entries.reverse.lookup name with
  | none =>
      have absent : name ∉ (ofList entries).names := by
        rw [mem_names_ofList, List.mem_map]
        rintro ⟨e, member, rfl⟩
        simpa using List.lookup_eq_none_iff.mp found e (List.mem_reverse.mpr member)
      rw [← Option.not_isSome_iff_eq_none, isSome_find?_iff]
      exact absent
  | some value =>
      obtain ⟨after, before, split, others⟩ := List.lookup_eq_some_iff.mp found
      have turned : entries = before.reverse ++ (name, value) :: after.reverse := by
        rw [← List.reverse_reverse entries, split]
        simp
      apply lookup_of_mem (nodup_names _)
      refine mem_ofList.mpr ⟨before.reverse, after.reverse, turned, ?_⟩
      intro later inside
      simpa using Ne.symm (bne_iff_ne.mp (others later (List.mem_reverse.mp inside)))

/-- **A list without repeated names keeps its entries.** -/
theorem perm_ofList (distinct : (entries.map (·.1)).Nodup) :
    (ofList entries).entries.Perm entries := by
  have kept : (ofList entries).entries.Nodup := List.Nodup.of_map _ (nodup_names (ofList entries))
  refine (List.perm_ext_iff_of_nodup kept (List.Nodup.of_map _ distinct)).mpr ?_
  rintro ⟨name, value⟩
  rw [mem_ofList]
  constructor
  · rintro ⟨before, after, rfl, -⟩
    simp
  · intro member
    obtain ⟨before, after, rfl⟩ := List.append_of_mem member
    refine ⟨before, after, rfl, fun later inside same => ?_⟩
    rw [List.map_append, List.map_cons] at distinct
    have single := (List.nodup_append.mp distinct).2.1
    exact (List.nodup_cons.mp single).1 (List.mem_map.mpr ⟨later, inside, same⟩)

theorem nodup_of_ordered (ordered : Ordered entries) : (entries.map (·.1)).Nodup :=
  nodup_names ⟨entries, ordered⟩

/-- Entries are in order where their names are among names in order. -/
theorem ordered_of_sublist {names : List String} (sorted : names.Pairwise (· < ·))
    (among : (entries.map (·.1)).Sublist names) : Ordered entries :=
  List.pairwise_map.mp (sorted.sublist among)

/-- **The catalog of a list is the same list in increasing order of name.** -/
theorem entries_ofList_of_perm {sorted : List (String × α)} (ordered : Ordered sorted)
    (perm : entries.Perm sorted) : (ofList entries).entries = sorted := by
  have distinct : (entries.map (·.1)).Nodup :=
    (perm.map (·.1)).nodup_iff.mpr (nodup_of_ordered ordered)
  refine List.Perm.eq_of_pairwise ?_ (ofList entries).ordered ordered
    ((perm_ofList distinct).trans perm)
  intro a b _ _ less more
  exact absurd (String.lt_trans less more) (String.lt_irrefl _)

theorem ofList_entries (c : Catalog α) : ofList c.entries = c :=
  ext_entries (entries_ofList_of_perm c.ordered (List.Perm.refl _))

/-! ## Changing values -/

section Map

variable {β : Type}

def map (f : α → β) (c : Catalog α) : Catalog β where
  entries := c.entries.map fun e => (e.1, f e.2)
  ordered := List.pairwise_map.mpr (c.ordered.imp fun less => less)

@[simp] theorem entries_map (f : α → β) (c : Catalog α) :
    (c.map f).entries = c.entries.map fun e => (e.1, f e.2) := rfl

theorem lookup_map (f : α → β) (entries : List (String × α)) :
    (entries.map fun e => (e.1, f e.2)).lookup name = (entries.lookup name).map f := by
  induction entries with
  | nil => rfl
  | cons e rest ih =>
      rw [List.map_cons, List.lookup_cons, List.lookup_cons]
      cases name == e.1 with
      | true => rfl
      | false => exact ih

theorem find?_map (f : α → β) (c : Catalog α) (name : String) :
    (c.map f).find? name = (c.find? name).map f := by
  rw [find?, find?, entries_map, lookup_map]

end Map

end Rollout.Catalog
