/-
# Rollout.Catalog — values by name, in the order of their names

A catalog holds at most one value per name and lists its entries in increasing
order of name, character by character, which for UTF-8 is the order of bytes.
Inserting under a name that is taken replaces the value.
-/

namespace Rollout

set_option autoImplicit false

namespace Catalog

variable {α : Type}

/-- Puts an entry into a list that is in increasing order of name. -/
def insertEntry (name : String) (value : α) : List (String × α) → List (String × α)
  | [] => [(name, value)]
  | (other, kept) :: rest =>
      if name < other then (name, value) :: (other, kept) :: rest
      else if name = other then (name, value) :: rest
      else (other, kept) :: insertEntry name value rest

/-- The entries are in strictly increasing order of name. -/
def Ordered (entries : List (String × α)) : Prop :=
  entries.Pairwise fun a b => a.1 < b.1

theorem mem_insertEntry {name : String} {value : α} {e : String × α} {entries : List (String × α)}
    (h : e ∈ insertEntry name value entries) : e = (name, value) ∨ e ∈ entries := by
  induction entries with
  | nil => simpa [insertEntry] using h
  | cons first rest ih =>
      obtain ⟨other, kept⟩ := first
      simp only [insertEntry] at h
      split at h
      · simpa using h
      · split at h
        · rcases List.mem_cons.mp h with rfl | h
          · exact Or.inl rfl
          · exact Or.inr (List.mem_cons_of_mem _ h)
        · rcases List.mem_cons.mp h with rfl | h
          · exact Or.inr (List.mem_cons_self ..)
          · exact (ih h).imp id (List.mem_cons_of_mem _)

theorem ordered_insertEntry (name : String) (value : α) {entries : List (String × α)}
    (h : Ordered entries) : Ordered (insertEntry name value entries) := by
  induction entries with
  | nil => simp [insertEntry, Ordered]
  | cons first rest ih =>
      obtain ⟨other, kept⟩ := first
      obtain ⟨least, tail⟩ := List.pairwise_cons.mp h
      simp only [insertEntry]
      split
      next small =>
        refine List.pairwise_cons.mpr ⟨fun e he => ?_, h⟩
        rcases List.mem_cons.mp he with rfl | he
        · exact small
        · exact String.lt_trans small (least e he)
      next notSmall =>
        split
        next same =>
          subst same
          exact List.pairwise_cons.mpr ⟨least, tail⟩
        next different =>
          refine List.pairwise_cons.mpr ⟨fun e he => ?_, ih tail⟩
          rcases mem_insertEntry he with rfl | he
          · exact Decidable.byContradiction fun notGreater =>
              different (String.le_antisymm (String.not_lt.mp notGreater)
                (String.not_lt.mp notSmall))
          · exact least e he

end Catalog

/-- Values by name, in increasing order of name. -/
structure Catalog (α : Type) where
  entries : List (String × α)
  ordered : Catalog.Ordered entries

namespace Catalog

variable {α β : Type}

def empty : Catalog α := ⟨[], List.Pairwise.nil⟩

instance : Inhabited (Catalog α) := ⟨empty⟩

def isEmpty (c : Catalog α) : Bool := c.entries.isEmpty

/-- Puts a value under a name, in place of the one that was there. -/
def insert (c : Catalog α) (name : String) (value : α) : Catalog α :=
  ⟨insertEntry name value c.entries, ordered_insertEntry name value c.ordered⟩

def find? (c : Catalog α) (name : String) : Option α :=
  c.entries.lookup name

def names (c : Catalog α) : List String :=
  c.entries.map (·.1)

/-- The catalog of a list of entries; of two with one name the later counts. -/
def ofList (entries : List (String × α)) : Catalog α :=
  entries.foldl (fun c e => c.insert e.1 e.2) empty

end Catalog

end Rollout
