/-
# Rollout.Proofs.Linker.Slots — linking touches exactly the slots of a library

Linking searches the text of bytecode, which knows nothing of slots.  Where names can be told
apart (`Distinguishable`), what it finds and counts is nevertheless the slots of the one name,
written in either way, wherever they stand (`count_text`).  Their places take the digits of the
address, and every other piece stays as it is and where it is (`link_slots`).
-/
import Mathlib.Data.Set.Defs
import Rollout.Proofs.Linker

namespace Rollout

set_option autoImplicit false

/-! ## Counting -/

namespace Linker

variable {old : List Char}

/-- Where nothing is found in some front of a text, nothing is counted. -/
theorem countFrom_append {front rest : List Char}
    (quiet : ∀ before after, front = before ++ after → after ≠ [] → ¬ old <+: after ++ rest) :
    countFrom old 0 (front ++ rest) = countFrom old 0 rest := by
  induction front with
  | nil => rfl
  | cons c front ih =>
      have absent : ¬ old.isPrefixOf (c :: (front ++ rest)) = true := fun found =>
        quiet [] (c :: front) rfl (List.cons_ne_nil _ _) (List.isPrefixOf_iff_prefix.mp found)
      rw [List.cons_append, countFrom, if_neg absent]
      exact ih fun before after split left => quiet (c :: before) after (by rw [split]; rfl) left

theorem countFrom_skip (front rest : List Char) :
    countFrom old front.length (front ++ rest) = countFrom old 0 rest := by
  induction front with
  | nil => rfl
  | cons c front ih => exact ih

/-- What is found is counted once, and the search goes on behind it. -/
theorem countFrom_found (filled : old ≠ []) (rest : List Char) :
    countFrom old 0 (old ++ rest) = 1 + countFrom old 0 rest := by
  cases old with
  | nil => exact absurd rfl filled
  | cons c old =>
      have found : (c :: old).isPrefixOf (c :: (old ++ rest)) = true :=
        List.isPrefixOf_iff_prefix.mpr ⟨rest, rfl⟩
      rw [List.cons_append, countFrom, if_pos found, List.length_cons, Nat.add_sub_cancel,
        countFrom_skip]

end Linker

/-! ## Slots -/

namespace Piece

/-- Whether a piece is a slot of a name, whichever way it is written. -/
def isSlotOf (name : String) : Piece → Bool
  | .digits _ => false
  | .slot _ other => other = name

/-- What stands in place of a piece once a name is linked. -/
def linked (name : String) (address : Address) : Piece → List Char
  | .digits cs => cs
  | .slot form other =>
      if other = name then Hex.encode address.bytes else Placeholder.write form other.toList

/-- Digits are hex digits, and slots are those of names in a set. -/
def Among (names : Set String) : Piece → Prop
  | .digits cs => ∀ c ∈ cs, c ∈ Hex.alphabet
  | .slot _ name => name ∈ names

theorem length_linked (name : String) (address : Address) (piece : Piece) :
    (piece.linked name address).length = (piece.text id).length := by
  cases piece with
  | digits cs => rfl
  | slot form other =>
      rw [linked, text, id, Placeholder.length_write]
      split
      · exact Linker.length_encode_address address
      · exact Placeholder.length_write form other.toList

theorem text_fill (name : String) (address : Address) (piece : Piece) :
    (piece.fill (fun _ => address) [name]).text id = piece.linked name address := by
  cases piece with
  | digits cs => rfl
  | slot form other =>
      by_cases same : other = name
      · simp [fill, linked, text, same]
      · simp [fill, linked, text, same]

end Piece

namespace Template

/-- Names that are plain, and no two of which have a placeholder in common. -/
structure Distinguishable (names : Set String) : Prop where
  plain : ∀ name ∈ names, Placeholder.Plain name.toList
  apart : ∀ name ∈ names, ∀ other ∈ names, name ≠ other → ∀ form,
    Placeholder.write form name.toList ≠ Placeholder.write form other.toList

def slotNames (template : Template) : List String :=
  template.filterMap fun
    | .digits _ => none
    | .slot _ name => some name

variable {label : String → String} {libraries : List String} {template : Template}

/-- **What is counted are the slots.** -/
theorem count_text (separate : Separate label libraries)
    (within : ∀ piece ∈ template, piece.Within libraries) (form : Placeholder.Form)
    {library : String} (member : library ∈ libraries) :
    Linker.count (Placeholder.write form (label library).toList) (text label template) =
      template.countP (Piece.isSlot form library) := by
  rw [Linker.count]
  induction template with
  | nil => rfl
  | cons piece rest ih =>
      obtain ⟨here, others⟩ := List.forall_mem_cons.mp within
      have onward := continues_text separate others
      rw [text_cons, List.countP_cons, ← ih others]
      cases same : piece.isSlot form library with
      | true =>
          obtain rfl := Piece.isSlot_iff.mp same
          rw [Piece.text, if_pos rfl, Nat.add_comm]
          refine Linker.countFrom_found ?_ _
          rw [← List.length_pos_iff, Placeholder.length_write]
          decide
      | false =>
          rw [if_neg Bool.false_ne_true, Nat.add_zero]
          exact Linker.countFrom_append (separate.not_prefix_piece member here same onward)

/-- Once the legacy slots are filled, the hashed ones are left to be counted. -/
theorem countP_put (library : String) (cs : List Char) (template : Template) :
    template.countP (Piece.isSlot .legacy library) +
        (template.map (Piece.put .legacy library cs)).countP (Piece.isSlot .hashed library) =
      template.countP (Piece.isSlotOf library) := by
  induction template with
  | nil => rfl
  | cons piece rest ih =>
      rw [List.map_cons, List.countP_cons, List.countP_cons, List.countP_cons, ← ih]
      have here : (if piece.isSlot .legacy library = true then 1 else 0) +
          (if (piece.put .legacy library cs).isSlot .hashed library = true then 1 else 0) =
            if piece.isSlotOf library = true then 1 else 0 := by
        cases piece with
        | digits ds => rfl
        | slot form other =>
            cases form <;> by_cases same : other = library <;>
              simp [Piece.isSlot, Piece.put, Piece.isSlotOf, same]
      omega

theorem text_eq_flatMap (template : Template) (name : String) (address : Address) :
    text id (template.map (Piece.fill (fun _ => address) [name])) =
      template.flatMap (Piece.linked name address) := by
  rw [text, List.flatMap_map]
  exact List.flatMap_congr fun piece _ => piece.text_fill name address

theorem length_flatMap_linked (name : String) (address : Address) (template : Template) :
    (template.flatMap (Piece.linked name address)).length = (text id template).length := by
  rw [text, List.length_flatMap, List.length_flatMap]
  congr 1
  exact List.map_congr_left fun piece _ => piece.length_linked name address

section Distinguishable

variable {names : Set String} (apart : Distinguishable names)

include apart

/-- Of names that can be told apart, those that bytecode has slots of are a list. -/
theorem Distinguishable.separate (among : ∀ piece ∈ template, piece.Among names) {name : String}
    (member : name ∈ names) : Separate id (name :: slotNames template) := by
  have inside : ∀ library ∈ name :: slotNames template, library ∈ names := by
    intro library listed
    rcases List.mem_cons.mp listed with rfl | slotted
    · exact member
    · obtain ⟨piece, here, found⟩ := List.mem_filterMap.mp slotted
      cases piece with
      | digits cs => cases found
      | slot form other =>
          obtain rfl : other = library := Option.some.inj found
          exact among _ here
  refine ⟨fun library listed => apart.plain library (inside library listed), ?_⟩
  intro library listed other listed' differ
  exact apart.apart library (inside library listed) other (inside other listed') differ

omit apart in
theorem within_slotNames (among : ∀ piece ∈ template, piece.Among names) (name : String) :
    ∀ piece ∈ template, piece.Within (name :: slotNames template) := by
  intro piece here
  cases piece with
  | digits cs => exact among _ here
  | slot form other =>
      exact List.mem_cons_of_mem _ (List.mem_filterMap.mpr ⟨_, here, rfl⟩)

/-- **Linking touches exactly the slots of a name.**  It tells how many there are, written in
either way.  The bytecode keeps its length, and every piece its place: there the digits of the
address stand where a slot of the name was, and any other piece as it was. -/
theorem link_slots (among : ∀ piece ∈ template, piece.Among names) {name : String}
    (member : name ∈ names) (address : Address) :
    let result := Linker.link ⟨text id template⟩ name address
    result.2 = template.countP (Piece.isSlotOf name) ∧
      result.1.code = template.flatMap (Piece.linked name address) ∧
      result.1.code.length = (text id template).length ∧
      ∀ before piece after, template = before ++ piece :: after →
        (result.1.code.drop (text id before).length).take (piece.text id).length =
          piece.linked name address := by
  have separate := apart.separate among member
  have within := within_slotNames among name
  have listed : name ∈ name :: slotNames template := List.mem_cons_self ..
  have code : (Linker.link ⟨text id template⟩ name address).1.code =
      template.flatMap (Piece.linked name address) := by
    have filled := link_text separate within (fun _ => address) listed
    rw [id] at filled
    rw [filled, text_eq_flatMap]
  have within' : ∀ piece ∈ template.map (Piece.put .legacy name (Hex.encode address.bytes)),
      piece.Within (name :: slotNames template) := by
    intro piece placed
    obtain ⟨original, here, rfl⟩ := List.mem_map.mp placed
    exact (within original here).put .legacy name fun _ => Hex.mem_alphabet_of_encode
  refine ⟨?_, code, ?_, ?_⟩
  · -- The hashed slots are counted in what comes of filling the legacy ones.
    have legacy := count_text separate within .legacy listed
    have filled := replace_text separate within .legacy listed (Hex.encode address.bytes)
    have hashed := count_text separate within' .hashed listed
    simp only [Placeholder.write, id] at legacy filled hashed
    show Linker.count _ _ + Linker.count _ (Linker.replace _ _ _) = _
    rw [legacy, filled, hashed, countP_put]
  · rw [code, length_flatMap_linked]
  · rintro before piece after rfl
    rw [code, List.flatMap_append, List.flatMap_cons, ← length_flatMap_linked name address before,
      List.drop_left, ← piece.length_linked name address, List.take_left]

end Distinguishable

/-! ## Two libraries beside each other -/

/-- Slots of two libraries in both forms, some of them directly beside each other. -/
def Sample.beside : Template :=
  [.digits "60A0".toList, .slot .legacy "Math", .slot .hashed "Codec", .slot .hashed "Math",
    .digits [], .slot .legacy "Codec", .slot .legacy "Math", .digits ['f']]

theorem Sample.hashed_ne :
    Placeholder.hashed "Math".toList ≠ Placeholder.hashed "Codec".toList := by
  have math : (Placeholder.hashed "Math".toList)[3]? = some '1' := by decide +kernel
  have codec : (Placeholder.hashed "Codec".toList)[3]? = some 'b' := by decide +kernel
  intro same
  rw [same, codec] at math
  cases math

theorem Sample.distinguishable : Distinguishable {"Math", "Codec"} := by
  refine ⟨?_, ?_⟩
  · rintro name (rfl | rfl)
    · exact ⟨by decide, by decide, by decide, by decide, by decide, by decide⟩
    · exact ⟨by decide, by decide, by decide, by decide, by decide, by decide⟩
  · rintro name (rfl | rfl) other (rfl | rfl) differ form
    · exact absurd rfl differ
    · cases form with
      | legacy => decide
      | hashed => exact Sample.hashed_ne
    · cases form with
      | legacy => decide
      | hashed => exact Sample.hashed_ne.symm
    · exact absurd rfl differ

theorem Sample.among : ∀ piece ∈ Sample.beside, piece.Among {"Math", "Codec"} := by
  have math : "Math" ∈ ({"Math", "Codec"} : Set String) := Or.inl rfl
  have codec : "Codec" ∈ ({"Math", "Codec"} : Set String) := Or.inr rfl
  simp only [Sample.beside, List.forall_mem_cons]
  have front := Hex.mem_alphabet_of_all (by decide : "60A0".toList.all Hex.alphabet.contains = true)
  have back := Hex.mem_alphabet_of_all (by decide : ['f'].all Hex.alphabet.contains = true)
  exact ⟨front, math, codec, math, List.forall_mem_nil _, codec, math, back,
    List.forall_mem_nil _⟩

/-- An address whose bytes all differ, some of them with a letter or a zero in front. -/
def Sample.address : Address :=
  ⟨[0x5b, 0x38, 0xda, 0x6a, 0x70, 0x1c, 0x56, 0x85, 0x45, 0xdc, 0xfc, 0xb0, 0x3f, 0xcb, 0x87,
    0x5e, 0x0f, 0xbe, 0xdd, 0xc4], rfl⟩

/-- Of five slots three are those of the one library, and its digits stand there. -/
theorem link_slots_beside :
    let result := Linker.link ⟨text id Sample.beside⟩ "Math" Sample.address
    result.2 = 3 ∧
      result.1.code = "60A05b38da6a701c568545dcfcb03fcb875e0fbeddc4".toList ++
        (Placeholder.hashed "Codec".toList ++
        ("5b38da6a701c568545dcfcb03fcb875e0fbeddc4".toList ++
        ("__Codec_________________________________".toList ++
        "5b38da6a701c568545dcfcb03fcb875e0fbeddc4f".toList))) ∧
      (result.1.code.drop 44).take Placeholder.width = Placeholder.hashed "Codec".toList := by
  obtain ⟨counted, code, -, places⟩ := link_slots Sample.distinguishable Sample.among
    (Or.inl rfl : "Math" ∈ ({"Math", "Codec"} : Set String)) Sample.address
  have place := places (Sample.beside.take 2) (.slot .hashed "Codec") (Sample.beside.drop 3) rfl
  rw [Piece.text, id, Placeholder.length_write] at place
  exact ⟨counted, code, place⟩

end Template

end Rollout
