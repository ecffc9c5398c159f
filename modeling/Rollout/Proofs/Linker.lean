/-
# Rollout.Proofs.Linker — linking fills the slots of compiled bytecode

Compiled bytecode is a row of pieces, each a run of hex digits or the placeholder of a
library (`Piece`).  Where the labels of the libraries are plain and their placeholders
differ (`Separate`), replacing a placeholder changes exactly its slots (`replace_text`),
and linking libraries one after another puts the digits of its address into every slot
of each (`linkAll_text`).  What comes out is all digits, and decodes
(`exists_bytes_digits`).
-/
import Rollout.Linker
import Rollout.Proofs.Checked
import Rollout.Proofs.Placeholder

namespace Rollout

set_option autoImplicit false

/-! ## Texts without blanks at their ends -/

namespace Text

variable {p : Char → Bool} {cs : List Char}

theorem dropWhile_eq_self (first : ∀ c, cs.head? = some c → p c = false) : cs.dropWhile p = cs := by
  cases cs with
  | nil => rfl
  | cons c rest => simp [first c rfl]

theorem trimBy_eq_self (first : ∀ c, cs.head? = some c → p c = false)
    (last : ∀ c, cs.getLast? = some c → p c = false) : trimBy p cs = cs := by
  have front : cs.reverse.dropWhile p = cs.reverse :=
    dropWhile_eq_self fun c here => last c (by rw [List.getLast?_eq_head?_reverse, here])
  rw [trimBy, dropWhile_eq_self first, dropEnd, front, List.reverse_reverse]

end Text

namespace Linker

/-! ## Replacing -/

variable {old new : List Char}

/-- Where nothing is found in some front of a text, it is kept. -/
theorem replaceFrom_append {front rest : List Char}
    (quiet : ∀ before after, front = before ++ after → after ≠ [] → ¬ old <+: after ++ rest) :
    replaceFrom old new 0 (front ++ rest) = front ++ replaceFrom old new 0 rest := by
  induction front with
  | nil => rfl
  | cons c front ih =>
      have absent : ¬ old.isPrefixOf (c :: (front ++ rest)) = true := fun found =>
        quiet [] (c :: front) rfl (List.cons_ne_nil _ _) (List.isPrefixOf_iff_prefix.mp found)
      rw [List.cons_append, replaceFrom, if_neg absent, List.cons_append]
      congr 1
      exact ih fun before after split left => quiet (c :: before) after (by rw [split]; rfl) left

theorem replaceFrom_skip (front rest : List Char) :
    replaceFrom old new front.length (front ++ rest) = replaceFrom old new 0 rest := by
  induction front with
  | nil => rfl
  | cons c front ih => exact ih

/-- What is found is replaced, and the search goes on behind it. -/
theorem replaceFrom_found (filled : old ≠ []) (rest : List Char) :
    replaceFrom old new 0 (old ++ rest) = new ++ replaceFrom old new 0 rest := by
  cases old with
  | nil => exact absurd rfl filled
  | cons c old =>
      have found : (c :: old).isPrefixOf (c :: (old ++ rest)) = true :=
        List.isPrefixOf_iff_prefix.mpr ⟨rest, rfl⟩
      rw [List.cons_append, replaceFrom, if_pos found, List.length_cons, Nat.add_sub_cancel,
        replaceFrom_skip]

theorem length_encode_address (address : Address) :
    (Hex.encode address.bytes).length = Placeholder.width := by
  rw [Hex.length_encode, address.length_eq]
  rfl

/-- Links libraries one after another, each to its address. -/
def linkAll (linkName : String → String) (address : String → Address) (l : Linker)
    (libraries : List String) : Linker :=
  libraries.foldl (fun l library => (l.link (linkName library) (address library)).1) l

end Linker

/-! ## Templates -/

/-- A piece of bytecode as compilers write it. -/
inductive Piece where
  | digits (cs : List Char)
  /-- The place of a library's address. -/
  | slot (form : Placeholder.Form) (library : String)

namespace Piece

/-- The text of a piece, when `label` gives the labels of libraries. -/
def text (label : String → String) : Piece → List Char
  | .digits cs => cs
  | .slot form library => Placeholder.write form (label library).toList

/-- Digits are hex digits, and slots are those of some libraries. -/
def Within (libraries : List String) : Piece → Prop
  | .digits cs => ∀ c ∈ cs, c ∈ Hex.alphabet
  | .slot _ library => library ∈ libraries

/-- Digits are hex digits, whatever the slots are. -/
def IsHex : Piece → Prop
  | .digits cs => ∀ c ∈ cs, c ∈ Hex.alphabet
  | .slot _ _ => True

/-- A piece in which the slots of one library, written in one way, are filled. -/
def put (form : Placeholder.Form) (library : String) (cs : List Char) : Piece → Piece
  | .digits ds => .digits ds
  | .slot form' library' =>
      if form' = form ∧ library' = library then .digits cs else .slot form' library'

/-- Whether a piece is the slot of a library, written in one way. -/
def isSlot (form : Placeholder.Form) (library : String) : Piece → Bool
  | .digits _ => false
  | .slot form' library' => form' = form ∧ library' = library

/-- A piece in which the slots of some libraries are filled with their addresses. -/
def fill (address : String → Address) (libraries : List String) : Piece → Piece
  | .digits cs => .digits cs
  | .slot form library =>
      if library ∈ libraries then .digits (Hex.encode (address library).bytes)
      else .slot form library

variable {piece : Piece} {libraries : List String}

theorem isSlot_iff {form : Placeholder.Form} {library : String} :
    piece.isSlot form library = true ↔ piece = .slot form library := by
  cases piece <;> simp [isSlot]

theorem put_of_not_isSlot {form : Placeholder.Form} {library : String} {cs : List Char}
    (other : piece.isSlot form library = false) : piece.put form library cs = piece := by
  cases piece with
  | digits ds => rfl
  | slot form' library' =>
      rw [put, if_neg]
      simpa [isSlot] using other

theorem Within.isHex (within : piece.Within libraries) : piece.IsHex := by
  cases piece with
  | digits cs => exact within
  | slot form library => trivial

theorem Within.put (within : piece.Within libraries) (form : Placeholder.Form) (library : String)
    {cs : List Char} (digits : ∀ c ∈ cs, c ∈ Hex.alphabet) :
    (piece.put form library cs).Within libraries := by
  cases piece with
  | digits ds => exact within
  | slot form' other =>
      rw [Piece.put]
      split
      · exact digits
      · exact within

theorem Within.fill (within : piece.Within libraries) (address : String → Address)
    (linked : List String) : (piece.fill address linked).Within libraries := by
  cases piece with
  | digits ds => exact within
  | slot form other =>
      rw [Piece.fill]
      split
      · exact fun _ => Hex.mem_alphabet_of_encode
      · exact within

@[simp] theorem fill_nil (address : String → Address) (piece : Piece) :
    piece.fill address [] = piece := by
  cases piece <;> simp [fill]

theorem fill_cons (address : String → Address) (first : String) (rest : List String)
    (piece : Piece) :
    (piece.fill address [first]).fill address rest = piece.fill address (first :: rest) := by
  cases piece with
  | digits cs => rfl
  | slot form library =>
      by_cases same : library = first
      · simp [fill, same]
      · simp [fill, same]

end Piece

/-- Bytecode that waits for addresses. -/
abbrev Template := List Piece

namespace Template

/-- The bytecode before linking. -/
def text (label : String → String) (template : Template) : List Char :=
  template.flatMap (Piece.text label)

/-- The bytecode with the digits of its address in every slot. -/
def filled (address : String → Address) (template : Template) : List Char :=
  template.flatMap fun
    | .digits cs => cs
    | .slot _ library => Hex.encode (address library).bytes

def outside (template : Template) : List Char :=
  template.flatMap fun
    | .digits cs => cs
    | .slot _ _ => []

/-- The labels of some libraries are plain, and their placeholders differ. -/
structure Separate (label : String → String) (libraries : List String) : Prop where
  plain : ∀ library ∈ libraries, Placeholder.Plain (label library).toList
  apart : ∀ library ∈ libraries, ∀ other ∈ libraries, library ≠ other → ∀ form,
    Placeholder.write form (label library).toList ≠ Placeholder.write form (label other).toList

variable {label : String → String} {libraries : List String} {template : Template}

theorem text_cons (piece : Piece) (rest : Template) :
    text label (piece :: rest) = piece.text label ++ text label rest := rfl

section Separate

variable (separate : Separate label libraries)

include separate

theorem Separate.tight (form : Placeholder.Form) {library : String}
    (member : library ∈ libraries) :
    Placeholder.Tight (Placeholder.core form (label library).toList) :=
  (separate.plain library member).tight form

/-- A legacy placeholder never reads like a hashed one. -/
theorem Separate.legacy_ne_hashed {library : String} (member : library ∈ libraries)
    (name : List Char) :
    Placeholder.write .legacy (label library).toList ≠ Placeholder.write .hashed name := by
  intro same
  have plain := separate.plain library member
  rw [Placeholder.write_eq_framed] at same
  obtain ⟨c, rest, first⟩ := List.exists_cons_of_ne_nil plain.nonempty
  have core : Placeholder.core .legacy (label library).toList = c :: rest := first
  rw [core] at same
  simp only [Placeholder.framed, Placeholder.write, Placeholder.hashed, List.cons_append,
    List.nil_append, List.cons.injEq, true_and] at same
  exact plain.dollar (by rw [first, same.1]; exact List.mem_cons_self ..)

/-- Placeholders are those of one library, written in one way. -/
theorem Separate.write_eq_iff {form form' : Placeholder.Form} {library other : String}
    (member : library ∈ libraries) (member' : other ∈ libraries) :
    Placeholder.write form (label library).toList = Placeholder.write form' (label other).toList ↔
      form = form' ∧ library = other := by
  constructor
  · intro same
    have oneForm : form = form' → library = other := by
      rintro rfl
      by_cases one : library = other
      · exact one
      · exact absurd same (separate.apart library member other member' one form)
    cases form <;> cases form'
    · exact ⟨rfl, oneForm rfl⟩
    · exact absurd same (separate.legacy_ne_hashed member _)
    · exact absurd same.symm (separate.legacy_ne_hashed member' _)
    · exact ⟨rfl, oneForm rfl⟩
  · rintro ⟨rfl, rfl⟩
    rfl

/-- Bytecode goes on with digits up to a placeholder. -/
theorem continues_text (within : ∀ piece ∈ template, piece.Within libraries) :
    Placeholder.Continues (text label template) := by
  induction template with
  | nil => exact .nil
  | cons piece rest ih =>
      obtain ⟨here, others⟩ := List.forall_mem_cons.mp within
      rw [text_cons]
      cases piece with
      | digits cs => exact .digits here (ih others)
      | slot form library =>
          rw [Piece.text, Placeholder.write_eq_framed]
          exact (separate.tight form here).continues _

/-! ## Linking -/

/-- A placeholder begins at its own slot only, and not at or inside another one. -/
theorem Separate.not_prefix_slot {form form' : Placeholder.Form} {library other : String}
    (member : library ∈ libraries) (member' : other ∈ libraries)
    (differ : ¬ (form' = form ∧ other = library)) {rest : List Char}
    (onward : Placeholder.Continues rest) {before after : List Char}
    (split : Placeholder.write form' (label other).toList = before ++ after) (left : after ≠ []) :
    ¬ Placeholder.write form (label library).toList <+: after ++ rest := by
  intro found
  by_cases start : before = []
  · -- At the front, both would be the same placeholder.
    rw [start, List.nil_append] at split
    have width : (Placeholder.write form (label library).toList).length = after.length := by
      rw [← split, Placeholder.length_write, Placeholder.length_write]
    have whole : Placeholder.write form (label library).toList <+: after :=
      List.prefix_of_prefix_length_le found (List.prefix_append ..) (Nat.le_of_eq width)
    obtain ⟨rfl, rfl⟩ := (separate.write_eq_iff member member').mp
      ((whole.eq_of_length width).trans split.symm)
    exact differ ⟨rfl, rfl⟩
  · rw [Placeholder.write_eq_framed] at split found
    exact (separate.tight form' member').not_framed_in_frame (separate.tight form member) onward
      split start left found

/-- A placeholder begins nowhere in a piece that is not its slot. -/
theorem Separate.not_prefix_piece {form : Placeholder.Form} {library : String}
    (member : library ∈ libraries) {piece : Piece} (within : piece.Within libraries)
    (other : piece.isSlot form library = false) {rest : List Char}
    (onward : Placeholder.Continues rest) (before after : List Char)
    (split : piece.text label = before ++ after) (left : after ≠ []) :
    ¬ Placeholder.write form (label library).toList <+: after ++ rest := by
  cases piece with
  | digits ds =>
      have digits : ∀ c ∈ after, c ∈ Hex.alphabet := by
        intro c inside
        apply within c
        rw [show ds = before ++ after from split]
        exact List.mem_append_right _ inside
      rw [Placeholder.write_eq_framed]
      exact (separate.tight form member).not_framed_in_digits digits left
  | slot form' library' =>
      refine separate.not_prefix_slot member within (fun same => ?_) onward split left
      simp [Piece.isSlot, same] at other

/-- **Replacing a placeholder fills its slots** and changes nothing else. -/
theorem replace_text (within : ∀ piece ∈ template, piece.Within libraries)
    (form : Placeholder.Form) {library : String} (member : library ∈ libraries) (cs : List Char) :
    Linker.replace (Placeholder.write form (label library).toList) cs (text label template) =
      text label (template.map (Piece.put form library cs)) := by
  rw [Linker.replace]
  induction template with
  | nil => rfl
  | cons piece rest ih =>
      obtain ⟨here, others⟩ := List.forall_mem_cons.mp within
      have onward := continues_text separate others
      rw [List.map_cons, text_cons, text_cons, ← ih others]
      cases same : piece.isSlot form library with
      | true =>
          obtain rfl := Piece.isSlot_iff.mp same
          rw [Piece.put, if_pos ⟨rfl, rfl⟩, Piece.text, Piece.text]
          refine Linker.replaceFrom_found ?_ _
          rw [← List.length_pos_iff, Placeholder.length_write]
          decide
      | false =>
          rw [Piece.put_of_not_isSlot same]
          exact Linker.replaceFrom_append (separate.not_prefix_piece member here same onward)

theorem link_text (within : ∀ piece ∈ template, piece.Within libraries)
    (address : String → Address) {library : String} (member : library ∈ libraries) :
    (Linker.link ⟨text label template⟩ (label library) (address library)).1 =
      ⟨text label (template.map (Piece.fill address [library]))⟩ := by
  let cs := Hex.encode (address library).bytes
  have within' : ∀ piece ∈ template.map (Piece.put .legacy library cs),
      piece.Within libraries := by
    intro piece placed
    obtain ⟨original, here, rfl⟩ := List.mem_map.mp placed
    exact (within original here).put .legacy library fun _ => Hex.mem_alphabet_of_encode
  have legacy := replace_text separate within .legacy member cs
  have hashed := replace_text separate within' .hashed member cs
  simp only [Linker.link, Placeholder.write] at legacy hashed ⊢
  rw [legacy, hashed, List.map_map]
  congr 2
  refine List.map_congr_left fun piece _ => ?_
  cases piece with
  | digits cs => rfl
  | slot form other =>
      cases form <;> by_cases same : other = library <;>
        simp [Piece.put, Piece.fill, same, cs]

/-- **Linking fills every slot of the libraries that are linked.** -/
theorem linkAll_text (within : ∀ piece ∈ template, piece.Within libraries)
    (address : String → Address) {linkName : String → String} {linked : List String}
    (members : ∀ library ∈ linked, library ∈ libraries ∧ linkName library = label library) :
    Linker.linkAll linkName address ⟨text label template⟩ linked =
      ⟨text label (template.map (Piece.fill address linked))⟩ := by
  induction linked generalizing template with
  | nil =>
      rw [List.map_id'' (Piece.fill_nil address)]
      rfl
  | cons first rest ih =>
      obtain ⟨⟨member, named⟩, others⟩ := List.forall_mem_cons.mp members
      have within' : ∀ piece ∈ template.map (Piece.fill address [first]),
          piece.Within libraries := by
        intro piece placed
        obtain ⟨original, here, rfl⟩ := List.mem_map.mp placed
        exact (within original here).fill address [first]
      have onward := ih within' others
      rw [Linker.linkAll] at onward ⊢
      rw [List.foldl_cons, named, link_text separate within address member, onward, List.map_map]
      congr 2
      exact List.map_congr_left fun piece _ => piece.fill_cons address first rest

end Separate

/-! ## Taking bytecode in -/

/-- A character at an end of bytecode is no blank. -/
theorem not_isBlank {c : Char} (edge : c ∈ Hex.alphabet ∨ c = '_') : Text.isBlank c = false := by
  have table : (Hex.alphabet.all fun c => !Text.isBlank c) = true := by decide
  rcases edge with digit | rfl
  · simpa using List.all_eq_true.mp table c digit
  · rfl

/-- Bytecode starts with a digit or an underscore, -/
theorem head_text (hex : ∀ piece ∈ template, piece.IsHex) {c : Char}
    (first : (text label template).head? = some c) : c ∈ Hex.alphabet ∨ c = '_' := by
  induction template with
  | nil => simp [text] at first
  | cons piece rest ih =>
      obtain ⟨here, others⟩ := List.forall_mem_cons.mp hex
      rw [text_cons, List.head?_append] at first
      cases piece with
      | digits cs =>
          cases cs with
          | nil => exact ih others first
          | cons d cs =>
              cases first
              exact Or.inl (here _ (List.mem_cons_self ..))
      | slot form library =>
          rw [Piece.text, Placeholder.head?_write] at first
          cases first
          exact Or.inr rfl

/-- and ends with one. -/
theorem last_text (hex : ∀ piece ∈ template, piece.IsHex) {c : Char}
    (last : (text label template).getLast? = some c) : c ∈ Hex.alphabet ∨ c = '_' := by
  induction template with
  | nil => simp [text] at last
  | cons piece rest ih =>
      obtain ⟨here, others⟩ := List.forall_mem_cons.mp hex
      rw [text_cons, List.getLast?_append] at last
      cases later : (text label rest).getLast? with
      | some d =>
          rw [later] at last
          cases last
          exact ih others later
      | none =>
          rw [later, Option.none_or] at last
          cases piece with
          | digits cs => exact Or.inl (here c (List.mem_of_getLast? last))
          | slot form library =>
              rw [Piece.text, Placeholder.getLast?_write] at last
              cases last
              exact Or.inr rfl

/-- What stands behind a digit is bytecode again. -/
theorem exists_text_tail (hex : ∀ piece ∈ template, piece.IsHex) {d : Char} {cs : List Char}
    (split : text label template = d :: cs) (digit : d ≠ '_') :
    ∃ behind : Template, cs = text label behind ∧ ∀ piece ∈ behind, piece.IsHex := by
  induction template with
  | nil => cases split
  | cons piece rest ih =>
      obtain ⟨here, others⟩ := List.forall_mem_cons.mp hex
      rw [text_cons] at split
      cases piece with
      | digits ds =>
          cases ds with
          | nil => exact ih others split
          | cons e ds =>
              obtain ⟨-, rfl⟩ := List.cons.inj split
              refine ⟨.digits ds :: rest, rfl, List.forall_mem_cons.mpr ⟨?_, others⟩⟩
              exact fun c member => here c (List.mem_cons_of_mem _ member)
      | slot form library =>
          have first := congrArg List.head? split
          rw [List.head?_append, Piece.text, Placeholder.head?_write] at first
          exact absurd (Option.some.inj first).symm digit

theorem ofBytecode_text (hex : ∀ piece ∈ template, piece.IsHex) :
    Linker.ofBytecode (String.ofList (text label template)) = ⟨text label template⟩ := by
  have trimmed : Text.trim (text label template) = text label template :=
    Text.trimBy_eq_self (fun c first => not_isBlank (head_text hex first)) fun c last =>
      not_isBlank (last_text hex last)
  have unmarked : Hex.withoutMarker (text label template) = text label template := by
    -- Behind a zero stands a digit or an underscore, and so no marker.
    have noMarker : ∀ x rest, text label template = '0' :: x :: rest → x ≠ 'x' ∧ x ≠ 'X' := by
      intro x rest same
      obtain ⟨behind, tail, hex'⟩ := exists_text_tail hex same (by decide)
      rcases head_text hex' (by rw [← tail]; rfl) with digit | rfl
      · constructor
        · rintro rfl
          exact absurd digit (by decide)
        · rintro rfl
          exact absurd digit (by decide)
      · exact ⟨by decide, by decide⟩
    unfold Hex.withoutMarker
    split
    · next rest same => exact absurd rfl (noMarker _ _ same).1
    · next rest same => exact absurd rfl (noMarker _ _ same).2
    · rfl
  rw [Linker.ofBytecode, String.toList_ofList, trimmed, unmarked]

/-! ## Linked bytecode -/

theorem text_fill (within : ∀ piece ∈ template, piece.Within libraries)
    (address : String → Address) :
    text label (template.map (Piece.fill address libraries)) = filled address template := by
  induction template with
  | nil => rfl
  | cons piece rest ih =>
      obtain ⟨here, others⟩ := List.forall_mem_cons.mp within
      rw [List.map_cons, text_cons, ih others]
      cases piece with
      | digits cs => rfl
      | slot form library =>
          have member : library ∈ libraries := here
          rw [Piece.fill, if_pos member]
          rfl

theorem filled_mem_alphabet (within : ∀ piece ∈ template, piece.Within libraries)
    (address : String → Address) : ∀ c ∈ filled address template, c ∈ Hex.alphabet := by
  intro c member
  obtain ⟨piece, placed, inside⟩ := List.mem_flatMap.mp member
  cases piece with
  | digits cs => exact within _ placed c inside
  | slot form library => exact Hex.mem_alphabet_of_encode inside

theorem length_filled (address : String → Address) (template : Template) :
    (filled address template).length % 2 = (outside template).length % 2 := by
  induction template with
  | nil => rfl
  | cons piece rest ih =>
      rw [filled, outside, List.flatMap_cons, List.flatMap_cons, ← filled, ← outside,
        List.length_append, List.length_append]
      cases piece with
      | digits cs =>
          show (cs.length + _) % 2 = (cs.length + _) % 2
          omega
      | slot form library =>
          have width : (Hex.encode (address library).bytes).length = 40 :=
            Linker.length_encode_address _
          show ((Hex.encode (address library).bytes).length + _) % 2 = (0 + _) % 2
          omega

end Template

/-! ## Decoding -/

namespace Linker

theorem slotsFrom_append_quiet {front rest : List UInt8}
    (absent : ∀ byte ∈ front, byte ≠ underscore) :
    slotsFrom 0 (front ++ rest) = slotsFrom 0 rest := by
  induction front with
  | nil => rfl
  | cons byte front ih =>
      obtain ⟨here, others⟩ := List.forall_mem_cons.mp absent
      rw [List.cons_append, slotsFrom, if_neg (fun both => here both.1), ih others]

/-- The bytes of digits are no underscores. -/
theorem ne_underscore_of_digits {cs : List Char} (digits : ∀ c ∈ cs, c ∈ Hex.alphabet) :
    ∀ byte ∈ Text.bytes cs, byte ≠ underscore := by
  intro byte member
  obtain ⟨c, here, inside⟩ := List.mem_flatMap.mp member
  obtain ⟨only, n, single, read, -⟩ := Hex.digit_read (digits c here)
  rw [single, List.mem_singleton] at inside
  rintro rfl
  rw [← inside] at read
  cases read

theorem unlinked_digits {cs : List Char} (digits : ∀ c ∈ cs, c ∈ Hex.alphabet) :
    unlinked ⟨cs⟩ = [] := by
  have none_left : slotsFrom 0 (Text.bytes cs ++ []) = slotsFrom 0 [] :=
    slotsFrom_append_quiet (ne_underscore_of_digits digits)
  rw [List.append_nil] at none_left
  rw [unlinked, none_left]
  rfl

/-- Digits, even in number, decode to the bytes that they write. -/
theorem exists_bytes_digits {cs : List Char} (digits : ∀ c ∈ cs, c ∈ Hex.alphabet)
    (even : cs.length % 2 = 0) :
    ∃ code, Hex.decode (Text.bytes cs) = .ok code ∧ Hex.encode code = cs.map Char.toLower ∧
      bytes ⟨cs⟩ = .ok code := by
  obtain ⟨code, decoded, written⟩ := Hex.exists_decode_eq_ok digits even
  refine ⟨code, decoded, written, ?_⟩
  rw [bytes, unlinked_digits digits]
  simp only [decoded]
  rfl

/-! ## Text without placeholders -/

variable {l : Linker}

theorem bytes_of_unlinked (complete : l.unlinked = []) :
    l.bytes = (Hex.decode (Text.bytes l.code)).mapError .invalidHex := by
  rw [bytes, complete]

/-- Once no placeholder is left, only the digits can be at fault. -/
theorem bytes_eq_error {fault : Fault} (complete : l.unlinked = [])
    (failed : l.bytes = .error fault) :
    ∃ cause, Hex.decode (Text.bytes l.code) = .error cause ∧ fault = .invalidHex cause := by
  rw [bytes_of_unlinked complete, Checked.mapError_eq_error] at failed
  obtain ⟨cause, undecoded, rfl⟩ := failed
  exact ⟨cause, undecoded, rfl⟩

theorem mem_alphabet_of_bytes {code : List UInt8} (complete : l.unlinked = [])
    (decoded : l.bytes = .ok code) : ∀ c ∈ l.code, c ∈ Hex.alphabet := by
  rw [bytes_of_unlinked complete, Checked.mapError_eq_ok] at decoded
  exact Hex.mem_alphabet_of_decode decoded

end Linker

end Rollout
