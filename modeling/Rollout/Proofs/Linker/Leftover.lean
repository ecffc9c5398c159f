/-
# Rollout.Proofs.Linker.Leftover — what is left to link in compiled bytecode

The search for placeholders knows nothing of slots: it looks for two underscores anywhere and
takes the width of a placeholder from there on.  In compiled bytecode it stays in step with the
slots nevertheless, whatever underscores the names have, because no digit is an underscore and
every slot begins with two (`slotsFrom_text`).  A window is then the text of a slot, and between
its underscores stand the front of the name or its hash (`label?_slot`).  So what is left are the
labels of the slots, in the order in which they first appear (`unlinked_text`).
-/
import Mathlib.Data.List.TakeWhile
import Rollout.Proofs.Linker
import Rollout.Proofs.Linker.Scan

namespace Rollout

set_option autoImplicit false

/-! ## ASCII texts and their ends -/

namespace Text

variable {cs : List Char}

theorem ascii_of_all (every : cs.all (fun c => c.toNat < 128) = true) :
    ∀ c ∈ cs, c.toNat < 128 := by
  simpa using every

theorem utf8EncodeChar_of_ascii {c : Char} (ascii : c.toNat < 128) :
    String.utf8EncodeChar c = [UInt8.ofNat c.toNat] := by
  have single : c.val.toNat ≤ 127 := Nat.le_of_lt_succ ascii
  simp only [String.utf8EncodeChar, single, if_true]
  rfl

theorem bytes_of_ascii (ascii : ∀ c ∈ cs, c.toNat < 128) :
    bytes cs = cs.map fun c => UInt8.ofNat c.toNat := by
  rw [bytes, List.map_eq_flatMap]
  exact List.flatMap_congr fun c member => utf8EncodeChar_of_ascii (ascii c member)

theorem isAscii_bytes (ascii : ∀ c ∈ cs, c.toNat < 128) : isAscii (bytes cs) = true := by
  rw [bytes_of_ascii ascii, isAscii, List.all_map, List.all_eq_true]
  intro c member
  have small := ascii c member
  simp only [Function.comp_apply, decide_eq_true_eq, UInt8.lt_iff_toNat_lt, UInt8.toNat_ofNat']
  exact Nat.lt_of_le_of_lt (Nat.mod_le ..) small

theorem ofAscii_bytes (ascii : ∀ c ∈ cs, c.toNat < 128) :
    ofAscii (bytes cs) = String.ofList cs := by
  rw [bytes_of_ascii ascii, ofAscii, List.map_map]
  congr 1
  refine (List.map_congr_left fun c member => ?_).trans (List.map_id cs)
  have small := ascii c member
  have whole : (UInt8.ofNat c.toNat).toNat = c.toNat := by
    rw [UInt8.toNat_ofNat']
    omega
  rw [Function.comp_apply, whole]
  exact Char.ofNat_toNat c

variable {p : Char → Bool} {front back : List Char}

theorem trimBy_append_left (every : ∀ c ∈ front, p c = true) (cs : List Char) :
    trimBy p (front ++ cs) = trimBy p cs := by
  rw [trimBy, List.dropWhile_append_of_pos every, trimBy]

theorem dropEnd_append (every : ∀ c ∈ back, p c = true) (cs : List Char) :
    dropEnd p (cs ++ back) = dropEnd p cs := by
  have reversed : ∀ c ∈ back.reverse, p c = true := fun c member =>
    every c (List.mem_reverse.mp member)
  rw [dropEnd, List.reverse_append, List.dropWhile_append_of_pos reversed, dropEnd]

/-- What is trimmed off may stand at either end. -/
theorem trimBy_append_right (every : ∀ c ∈ back, p c = true) (cs : List Char) :
    trimBy p (cs ++ back) = trimBy p cs := by
  rw [trimBy, trimBy, List.dropWhile_append]
  split
  · next gone =>
      rw [List.isEmpty_iff.mp gone, List.dropWhile_eq_nil_iff.mpr every]
  · exact dropEnd_append every _

end Text

namespace Placeholder

theorem trimBy_framed (core : List Char) :
    Text.trimBy (· = '_') (framed core) = Text.trimBy (· = '_') core := by
  have padding : ∀ count, ∀ c ∈ List.replicate count '_', decide (c = '_') = true := by
    intro count c member
    exact decide_eq_true (List.eq_of_mem_replicate member)
  rw [framed, List.cons_append, List.cons_append]
  exact (Text.trimBy_append_left (padding 2) _).trans (Text.trimBy_append_right (padding _) core)

theorem ascii_of_mem_alphabet {c : Char} (digit : c ∈ Hex.alphabet) : c.toNat < 128 := by
  have table : (Hex.alphabet.all fun c => c.toNat < 128) = true := rfl
  exact Text.ascii_of_all table c digit

theorem ascii_framed {core : List Char} (ascii : ∀ c ∈ core, c.toNat < 128) :
    ∀ c ∈ framed core, c.toNat < 128 := by
  intro c member
  simp only [framed, List.cons_append, List.mem_cons, List.mem_append, List.mem_replicate] at member
  rcases member with rfl | rfl | inside | ⟨-, rfl⟩
  · decide
  · decide
  · exact ascii c inside
  · decide

end Placeholder

/-! ## Slots -/

namespace Piece

/-- Digits are hex digits, and what is written of a name is ASCII: of its hash always, and of
itself where it is. -/
def IsAscii : Piece → Prop
  | .digits cs => ∀ c ∈ cs, c ∈ Hex.alphabet
  | .slot .legacy name => ∀ c ∈ name.toList, c.toNat < 128
  | .slot .hashed _ => True

theorem IsAscii.isHex {piece : Piece} (ascii : piece.IsAscii) : piece.IsHex := by
  cases piece with
  | digits cs => exact ascii
  | slot form name => trivial

/-- What names a hashed slot: the front of the hash between dollar signs. -/
def hashLabel (name : String) : String :=
  String.ofList ('$' :: Hex.encode ((Keccak.hash (Text.bytes name.toList)).take 17) ++ ['$'])

theorem hashLabel_ne {name other : String} (first : other.toList.head? ≠ some '$') :
    hashLabel name ≠ other := by
  rintro rfl
  rw [hashLabel, String.toList_ofList] at first
  exact first rfl

/-- What names a slot.  A legacy slot has the front of its name without the underscores at
either end, if anything is left of it. -/
def label? : Piece → Option String
  | .digits _ => none
  | .slot .legacy name =>
      match Text.trimBy (· = '_') (name.toList.take 36) with
      | [] => none
      | front => some (String.ofList front)
  | .slot .hashed name => some (hashLabel name)

variable {form : Placeholder.Form} {name : String}

theorem ascii_core (ascii : IsAscii (.slot form name)) :
    ∀ c ∈ Placeholder.core form name.toList, c.toNat < 128 := by
  intro c member
  cases form with
  | legacy => exact ascii c (List.mem_of_mem_take member)
  | hashed =>
      simp only [Placeholder.core, List.cons_append, List.mem_cons, List.mem_append,
        List.not_mem_nil, or_false] at member
      rcases member with rfl | digit | rfl
      · decide
      · exact Placeholder.ascii_of_mem_alphabet (Hex.mem_alphabet_of_encode digit)
      · decide

/-- Between the underscores of a slot stands its label. -/
theorem label?_eq (form : Placeholder.Form) (name : String) :
    label? (.slot form name) =
      match Text.trimBy (· = '_') (Placeholder.core form name.toList) with
      | [] => none
      | inner => some (String.ofList inner) := by
  cases form with
  | legacy => rfl
  | hashed =>
      have kept : Text.trimBy (· = '_') (Placeholder.core .hashed name.toList) =
          Placeholder.core .hashed name.toList := by
        apply Text.trimBy_eq_self
        · rintro c first
          cases first
          rfl
        · intro c last
          rw [Placeholder.core, List.getLast?_append] at last
          cases last
          rfl
      rw [kept]
      rfl

end Piece

namespace Linker

theorem label?_slot {form : Placeholder.Form} {name : String}
    (ascii : Piece.IsAscii (.slot form name)) :
    label? (Text.bytes (Placeholder.write form name.toList)) =
      Piece.label? (.slot form name) := by
  have plain := Placeholder.ascii_framed (Piece.ascii_core ascii)
  rw [Placeholder.write_eq_framed, Piece.label?_eq, label?, if_pos (Text.isAscii_bytes plain),
    Text.ofAscii_bytes plain, String.toList_ofList, Placeholder.trimBy_framed]
  cases Text.trimBy (· = '_') (Placeholder.core form name.toList) <;> rfl

/-- A window that starts with two underscores is taken as a whole. -/
theorem slotsFrom_window {inner rest : List UInt8} (full : inner.length + 2 = Placeholder.width) :
    slotsFrom 0 (underscore :: underscore :: inner ++ rest) =
      (underscore :: underscore :: inner) :: slotsFrom 0 rest := by
  have width : (underscore :: underscore :: inner).length = Placeholder.width := full
  have found : pairAt? (underscore :: underscore :: inner ++ rest) = some 0 := rfl
  rw [slotsFrom_of_pair found, List.drop_zero, Nat.zero_add, ← width, List.take_left,
    List.drop_left]

theorem slotsFrom_slot {form : Placeholder.Form} {name : String}
    (ascii : Piece.IsAscii (.slot form name)) (rest : List UInt8) :
    slotsFrom 0 (Text.bytes (Placeholder.write form name.toList) ++ rest) =
      Text.bytes (Placeholder.write form name.toList) :: slotsFrom 0 rest := by
  have plain := Placeholder.ascii_framed (Piece.ascii_core ascii)
  have width := Placeholder.length_write form name.toList
  rw [Placeholder.write_eq_framed] at width ⊢
  rw [Text.bytes_of_ascii plain]
  refine slotsFrom_window ?_
  rw [List.length_map]
  exact width

end Linker

namespace Template

variable {template : Template}

/-- **The search stays in step with the slots.**  Its windows have their labels. -/
theorem slotsFrom_text (ascii : ∀ piece ∈ template, piece.IsAscii) :
    (Linker.slotsFrom 0 (Text.bytes (text id template))).filterMap Linker.label? =
      template.filterMap Piece.label? := by
  induction template with
  | nil => rfl
  | cons piece rest ih =>
      obtain ⟨here, others⟩ := List.forall_mem_cons.mp ascii
      rw [text_cons, Text.bytes, List.flatMap_append, ← Text.bytes, ← Text.bytes]
      cases piece with
      | digits cs =>
          rw [Piece.text, Linker.slotsFrom_append_quiet (Linker.ne_underscore_of_digits here),
            ih others]
          rfl
      | slot form name =>
          rw [Piece.text, id, Linker.slotsFrom_slot here, List.filterMap_cons,
            Linker.label?_slot here, ih others]
          rfl

/-- **What is left in compiled bytecode**, which is taken in as it is, are the labels of its
slots, each once, in the order in which they first appear. -/
theorem unlinked_text (ascii : ∀ piece ∈ template, piece.IsAscii) :
    let l := Linker.ofBytecode (String.ofList (text id template))
    l.code = text id template ∧
      FirstAppearances (template.filterMap Piece.label?) l.unlinked := by
  have wrapped : Linker.ofBytecode (String.ofList (text id template)) = ⟨text id template⟩ :=
    ofBytecode_text fun piece member => (ascii piece member).isHex
  intro l
  rw [show l = ⟨text id template⟩ from wrapped]
  refine ⟨rfl, ?_⟩
  rw [Linker.unlinked, slotsFrom_text ascii]
  exact firstAppearances_distinct _

/-! ## Underscores within names -/

/-- Slots beside each other and at the very end, with names that have underscores in all places
or nothing else, that are too long, or that come again. -/
def Sample.crowded : Template :=
  [.digits "6".toList, .slot .legacy "a__b", .slot .legacy "", .slot .legacy "_a__b_",
    .digits "00FF".toList, .slot .hashed "Ünï", .slot .legacy "____",
    .slot .legacy "contracts/lib/ChannelLibrary.sol:ChannelLibrary", .slot .hashed "Ünï",
    .slot .legacy "a__b"]

theorem Sample.ascii_crowded : ∀ piece ∈ Sample.crowded, piece.IsAscii := by
  simp only [Sample.crowded, List.forall_mem_cons]
  exact ⟨Hex.mem_alphabet_of_all rfl, Text.ascii_of_all rfl, Text.ascii_of_all rfl,
    Text.ascii_of_all rfl, Hex.mem_alphabet_of_all rfl, trivial, Text.ascii_of_all rfl,
    Text.ascii_of_all rfl, trivial, Text.ascii_of_all rfl, List.forall_mem_nil _⟩

theorem Sample.label?_crowded :
    Sample.crowded.filterMap Piece.label? =
      ["a__b", "a__b", Piece.hashLabel "Ünï", "contracts/lib/ChannelLibrary.sol:Cha",
        Piece.hashLabel "Ünï", "a__b"] := rfl

/-- Three labels are left of eight slots. -/
theorem unlinked_text_crowded :
    (∀ piece ∈ Sample.crowded, piece.IsAscii) ∧
      (Linker.ofBytecode (String.ofList (text id Sample.crowded))).unlinked =
        ["a__b", Piece.hashLabel "Ünï", "contracts/lib/ChannelLibrary.sol:Cha"] := by
  refine ⟨Sample.ascii_crowded, ?_⟩
  obtain ⟨-, appear⟩ := unlinked_text Sample.ascii_crowded
  rw [Sample.label?_crowded] at appear
  have once : ∀ label ≠ "a__b", label ≠ "contracts/lib/ChannelLibrary.sol:Cha" →
      distinct ["a__b", "a__b", label, "contracts/lib/ChannelLibrary.sol:Cha", label, "a__b"] =
        ["a__b", label, "contracts/lib/ChannelLibrary.sol:Cha"] := by
    intro label other other'
    simp [distinct, addNew, other, other'.symm]
  rw [appear.unique (firstAppearances_distinct _)]
  exact once _ (Piece.hashLabel_ne (by decide)) (Piece.hashLabel_ne (by decide))

end Template

end Rollout
