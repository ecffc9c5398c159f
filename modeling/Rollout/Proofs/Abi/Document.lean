/-
# Rollout.Proofs.Abi.Document — an interface is the same by name

An interface that stands alone is read as it is written, and one inside another document with the
fields of its tables by name.  Whatever is read as it is written is also read by name
(`Interface.read?_byName`): a field that counts is written once, and so found again.
-/
import Rollout.Abi.Interface
import Rollout.Proofs.Json.Fields

namespace Rollout.Abi

open Rollout.Json (ByName byName)

set_option autoImplicit false

variable {fields named : List (String × Document.Value)} {names : List String}
  {v w : Document.Value}

/-- What is read from a value is read from it by name too. -/
def Indifferent {α : Type} (read : Document.Value → Option α) : Prop :=
  ∀ v result, read v = some result → read (byName v) = some result

theorem Indifferent.mapM {α : Type} {read : Document.Value → Option α}
    (indifferent : Indifferent read) {items : List Document.Value} {results : List α}
    (all : items.mapM read = some results) :
    (items.map byName).mapM read = some results := by
  induction items generalizing results with
  | nil => exact all
  | cons first rest ih =>
      simp only [List.mapM_cons, Option.bind_eq_bind, Option.bind_eq_some_iff] at all
      obtain ⟨result, one, others, behind, done⟩ := all
      simp only [List.map_cons, List.mapM_cons, Option.bind_eq_bind, Option.bind_eq_some_iff]
      exact ⟨result, indifferent _ _ one, others, ih behind, done⟩

/-! ## Single fields -/

/-- A check that no list and no table passes does not see the order of fields. -/
theorem check_byName {check : Option Document.Value → Bool}
    (list : ∀ items, check (some (.list items)) = false)
    (table : ∀ fields, check (some (.table fields)) = false) (field : Option Document.Value) :
    check (field.map byName) = check field := by
  cases field with
  | none => rfl
  | some v =>
      cases v with
      | list items => exact (list _).trans (list _).symm
      | table fields => exact (table _).trans (table _).symm
      | null | bool | int | float | text | date | tables => rfl

theorem isName_byName (field : Option Document.Value) : isName (field.map byName) = isName field :=
  check_byName (fun _ => rfl) (fun _ => rfl) field

theorem isAbsent_byName (field : Option Document.Value) :
    isAbsent (field.map byName) = isAbsent field :=
  check_byName (fun _ => rfl) (fun _ => rfl) field

theorem isText_byName (field : Option Document.Value) : isText (field.map byName) = isText field :=
  check_byName (fun _ => rfl) (fun _ => rfl) field

theorem isFlag_byName (field : Option Document.Value) : isFlag (field.map byName) = isFlag field :=
  check_byName (fun _ => rfl) (fun _ => rfl) field

theorem isSet_byName (field : Option Document.Value) : isSet (field.map byName) = isSet field :=
  check_byName (fun _ => rfl) (fun _ => rfl) field

theorem text_byName (field : Option Document.Value) :
    (field.map byName).bind Document.Value.text? = field.bind Document.Value.text? := by
  cases field with
  | none => rfl
  | some v => cases v <;> rfl

theorem elements?_byName (v : Document.Value) :
    elements? (byName v) = (elements? v).map (·.map byName) := by
  cases v with
  | list items =>
      rw [Json.byName_list]
      rfl
  | null | bool | int | float | text | date | tables | table => rfl

theorem isMutability_byName (fits : isMutability v = true) : isMutability (byName v) = true := by
  unfold isMutability at fits
  split at fits
  · exact fits
  · exact fits
  · exact fits
  · cases fits

/-! ## Records -/

theorem once_of_nodup (distinct : (named.map (·.1)).Nodup) : once names named = true := by
  rw [once, List.all_eq_true]
  intro name _
  have single := List.nodup_iff_count_le_one.mp distinct name
  rw [List.count, List.countP_map] at single
  exact decide_eq_true single

/-- Under some names the fields by name hold what those as they are written hold first. -/
def SameUnder (names : List String) (fields named : List (String × Document.Value)) : Prop :=
  ∀ name ∈ names, named.lookup name = (fields.lookup name).map byName

/-- Names that are met once hold the same by name. -/
theorem sameUnder_of_once (rearranged : ByName fields named) (single : once names fields = true) :
    SameUnder names fields named := by
  intro name member
  have one := List.all_eq_true.mp single name member
  exact rearranged.lookup_of_once (of_decide_eq_true one)

/-- A value stands for another where every record holds the same under its names. -/
def StandsFor (v w : Document.Value) : Prop :=
  ∀ names fields, record? names v = some fields → ∃ named, record? names w = some named ∧
    SameUnder names fields named

theorem standsFor_table (rearranged : ByName fields named) :
    StandsFor (.table fields) (.table named) := by
  intro names read record
  rw [record?] at record
  split at record
  next single =>
    obtain rfl := Option.some.inj record
    refine ⟨named, ?_, ?_⟩
    · rw [record?, if_pos (once_of_nodup rearranged.distinct)]
    · exact sameUnder_of_once rearranged single
  next => cases record

theorem standsFor_list (items : List Document.Value) :
    StandsFor (.list items) (.list (items.map byName)) := by
  intro names read record
  rw [record?] at record
  split at record
  next short =>
    obtain rfl := Option.some.inj record
    refine ⟨names.zip (items.map byName), ?_, ?_⟩
    · rw [record?, if_pos (by simpa using short)]
    · intro name _
      rw [List.zip_map_right]
      exact Catalog.lookup_map byName _
  next => cases record

theorem standsFor_byName (v : Document.Value) : StandsFor v (byName v) := by
  cases v with
  | list items =>
      rw [Json.byName_list]
      exact standsFor_list items
  | table fields =>
      obtain ⟨named, shape, rearranged⟩ := Json.exists_byName_table fields
      rw [shape]
      exact standsFor_table rearranged
  | null | bool | int | float | text | date | tables =>
      intro names read record
      cases record

/-! ## Parameters -/

theorem components_byName (field : Option Document.Value) :
    (field.map byName).elim (some []) elements? =
      (field.elim (some []) elements?).map (·.map byName) := by
  cases field with
  | none => rfl
  | some v => exact elements?_byName v

/-- A parameter is read by name too.  The induction is on the levels that it may nest. -/
theorem indifferent_parameter (levels : Nat) (ofEvent : Bool) :
    Indifferent (Parameter.read? levels ofEvent) := by
  induction levels generalizing ofEvent with
  | zero =>
      intro v p read
      cases read
  | succ levels ih =>
      intro v p read
      simp only [Parameter.read?, Option.bind_eq_bind, Option.bind_eq_some_iff] at read
      obtain ⟨fields, record, components, listed, read⟩ := read
      obtain ⟨named, record', same⟩ := standsFor_byName v _ _ record
      simp only [Parameter.read?, record', Option.bind_eq_bind, Option.bind_some,
        same "name" (by decide), same "indexed" (by decide), same "internalType" (by decide),
        same "components" (by decide), same "type" (by decide), Option.isNone_map, isName_byName,
        isAbsent_byName, isFlag_byName, isText_byName, components_byName, listed, Option.map_some,
        text_byName]
      split at read
      next fits =>
        rw [if_pos fits]
        obtain ⟨text, typed, read⟩ := Option.bind_eq_some_iff.mp read
        rw [typed, Option.bind_some]
        cases components with
        | nil => exact read
        | cons first others =>
            split at read
            next impossible => cases impossible
            next suffix spelled _ =>
              obtain ⟨members, all, done⟩ := Option.bind_eq_some_iff.mp read
              rw [spelled]
              exact Option.bind_eq_some_iff.mpr ⟨members, (ih false).mapM all, done⟩
            next => cases read
      next => cases read

theorem parameters?_byName {ofEvent : Bool} {field : Option Document.Value}
    {parameters : List Parameter} (read : parameters? ofEvent field = some parameters) :
    parameters? ofEvent (field.map byName) = some parameters := by
  simp only [parameters?, Option.bind_eq_bind, Option.bind_eq_some_iff] at read
  obtain ⟨v, rfl, items, listed, all⟩ := read
  have each := (indifferent_parameter Parameter.levels ofEvent).mapM all
  simp [parameters?, elements?_byName, listed, each]

/-! ## Items -/

/-- How an item touches the state is said as well by name, where it is said once. -/
theorem mutabilityFits_byName
    (same : SameUnder (callFields []) fields named) (fits : mutabilityFits fields = true) :
    mutabilityFits named = true := by
  unfold mutabilityFits at fits ⊢
  simp only [same "stateMutability" (by decide), same "payable" (by decide),
    same "constant" (by decide), isAbsent_byName, isFlag_byName, isSet_byName,
    Bool.and_eq_true] at fits ⊢
  refine ⟨fits.1, ?_⟩
  split
  next absent => simpa only [if_pos absent] using fits.2
  next present =>
    have word := fits.2
    rw [if_neg present, Option.any_eq_true] at word
    obtain ⟨word, said, known⟩ := word
    rw [said]
    exact isMutability_byName known

/-- Fields of an item that is called, each met once, are the same by name. -/
theorem called_byName (rearranged : ByName fields named)
    (fits : (once (callFields names) fields && mutabilityFits fields) = true) :
    (once (callFields names) named && mutabilityFits named) = true ∧
      SameUnder (callFields names) fields named := by
  obtain ⟨single, touches⟩ := Bool.and_eq_true_iff.mp fits
  have same := sameUnder_of_once rearranged single
  have common : SameUnder (callFields []) fields named := by
    intro name member
    exact same name (List.mem_append_right names member)
  refine ⟨?_, same⟩
  rw [once_of_nodup rearranged.distinct, mutabilityFits_byName common touches]
  rfl

theorem readCalled?_byName {kind : String} {item : Item} (rearranged : ByName fields named)
    (read : Item.readCalled? kind fields = some item) :
    Item.readCalled? kind named = some item := by
  unfold Item.readCalled? at read ⊢
  dsimp only at read ⊢
  split at read
  -- the constructor, the fallback, the receiver and functions, then every other kind
  next =>
    split at read
    next fits =>
      obtain ⟨fits', same⟩ := called_byName rearranged fits
      obtain ⟨parameters, inputs, rfl⟩ := Option.map_eq_some_iff.mp read
      rw [if_pos fits', same "inputs" (by decide), parameters?_byName inputs, Option.map_some]
    next => cases read
  next =>
    split at read
    next fits => rwa [if_pos (called_byName rearranged fits).1]
    next => cases read
  next =>
    split at read
    next fits => rwa [if_pos (called_byName rearranged fits).1]
    next => cases read
  next =>
    split at read
    next both =>
      obtain ⟨fits, called⟩ := Bool.and_eq_true_iff.mp both
      obtain ⟨fits', same⟩ := called_byName rearranged fits
      simp only [Option.bind_eq_bind, Option.bind_eq_some_iff] at read
      obtain ⟨inputs, taken, outputs, given, done⟩ := read
      simp [fits', same "name" (by decide), same "inputs" (by decide), same "outputs" (by decide),
        isName_byName, called, parameters?_byName taken, parameters?_byName given, done]
    next => cases read
  next => cases read

/-- An item that may be a list is read from what stands for it. -/
theorem readSignalled?_of_standsFor {kind : String} {item : Item} (stands : StandsFor v w)
    (read : Item.readSignalled? kind v = some item) : Item.readSignalled? kind w = some item := by
  unfold Item.readSignalled? at read ⊢
  split at read
  next =>
    simp only [Option.bind_eq_bind, Option.bind_eq_some_iff] at read
    obtain ⟨fields, record, parameters, inputs, rest⟩ := read
    obtain ⟨named, record', same⟩ := stands _ _ record
    simpa [record', same "name" (by decide), same "inputs" (by decide),
      same "anonymous" (by decide), parameters?_byName inputs, isName_byName, isFlag_byName]
      using rest
  next =>
    simp only [Option.bind_eq_bind, Option.bind_eq_some_iff] at read
    obtain ⟨fields, record, parameters, inputs, rest⟩ := read
    obtain ⟨named, record', same⟩ := stands _ _ record
    simpa [record', same "name" (by decide), same "inputs" (by decide),
      parameters?_byName inputs, isName_byName] using rest
  next => cases read

/-- The kinds of items that are called are not those that may be lists. -/
theorem readCalled?_eq_none {kind : String} {item : Item}
    (read : Item.readSignalled? kind v = some item) : Item.readCalled? kind fields = none := by
  unfold Item.readSignalled? at read
  split at read
  · rfl
  · rfl
  · cases read

/-- **An item is read by name too.** -/
theorem indifferent_item : Indifferent Item.read? := by
  intro v item read
  unfold Item.read? at read
  split at read
  next fields =>
    obtain ⟨named, shape, rearranged⟩ := Json.exists_byName_table fields
    have others := rearranged.filter "type"
    dsimp only at read
    split at read
    next kind said =>
      split at read
      next single =>
        have said' : named.lookup "type" = some (.text kind) := by
          rw [sameUnder_of_once rearranged single "type" (List.mem_singleton_self _), said]
          rfl
        rw [shape, Item.read?, said']
        dsimp only
        rw [if_pos (once_of_nodup rearranged.distinct)]
        rcases Option.or_eq_some_iff.mp read with called | ⟨-, signalled⟩
        · rw [readCalled?_byName others called, Option.some_or]
        · rw [readCalled?_eq_none signalled, Option.none_or]
          exact readSignalled?_of_standsFor (standsFor_table others) signalled
      next => cases read
    next => cases read
  next kind others =>
    rw [Json.byName_list]
    exact readSignalled?_of_standsFor (standsFor_list others) read
  next => cases read

/-- **An interface that is read as it is written is the same by name.** -/
theorem Interface.read?_byName {abi : Interface} (read : Interface.read? v = some abi) :
    Interface.read? (byName v) = some abi := by
  simp only [Interface.read?, Option.bind_eq_bind, Option.bind_eq_some_iff] at read
  obtain ⟨written, listed, items, each, rest⟩ := read
  have each' := indifferent_item.mapM each
  simp only [Interface.read?, elements?_byName, listed, Option.map_some, Option.bind_eq_bind,
    Option.bind_some, each']
  exact rest

end Rollout.Abi
