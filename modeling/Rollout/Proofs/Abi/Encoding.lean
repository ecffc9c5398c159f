/-
# Rollout.Proofs.Abi.Encoding — encoded values are decoded

`Stands` says that some bytes stand at an offset of others.  The head and the tail of a list of
values stand somewhere in what is encoded, and with them every word and every body, each at the
offset that the head tells (`decodeFrom?_of_stands`).  Offsets and lengths are numbers of one
word, so this needs what is encoded to be shorter than `wordLimit` bytes; then values come back
for the types that accept them (`decode?_encode`).
-/
import Mathlib.Data.List.Forall2
import Mathlib.Data.Nat.ModEq
import Rollout.Abi.Value

namespace Rollout.Abi

set_option autoImplicit false

/-- How many numbers there are of one word. -/
def wordLimit : Nat := Nat.pow 2 256

/-! ## Numbers -/

theorem length_bigEndian (width n : Nat) : (bigEndian width n).length = width := by
  induction width generalizing n with
  | zero => rfl
  | succ width ih => rw [bigEndian, List.length_append, ih, List.length_singleton]

theorem number_append_singleton (bs : List UInt8) (b : UInt8) :
    number (bs ++ [b]) = 256 * number bs + b.toNat := by
  simp [number]

theorem number_bigEndian (width n : Nat) : number (bigEndian width n) = n % 256 ^ width := by
  induction width generalizing n with
  | zero => simp [bigEndian, number, Nat.mod_one]
  | succ width ih =>
      have byte : (UInt8.ofNat (n % 256)).toNat = n % 256 := by simp
      rw [bigEndian, number_append_singleton, ih, byte, pow_succ', Nat.mod_mul, Nat.add_comm]

theorem length_wordBytes (n : Nat) : (wordBytes n).length = 32 := length_bigEndian 32 n

theorem number_wordBytes {n : Nat} (small : n < wordLimit) : number (wordBytes n) = n := by
  have limit : wordLimit = 256 ^ 32 := by decide
  rw [wordBytes, number_bigEndian, Nat.mod_eq_of_lt (limit ▸ small)]

/-! ## Places -/

/-- Some bytes stand at an offset of others. -/
def Stands (data : List UInt8) (offset : Nat) (piece : List UInt8) : Prop :=
  ∃ front back, front.length = offset ∧ data = front ++ (piece ++ back)

variable {data piece piece' : List UInt8} {offset place : Nat}

theorem Stands.left (stands : Stands data offset (piece ++ piece')) : Stands data offset piece := by
  obtain ⟨front, back, length, rfl⟩ := stands
  exact ⟨front, piece' ++ back, length, by simp⟩

theorem Stands.right (stands : Stands data offset (piece ++ piece')) :
    Stands data (offset + piece.length) piece' := by
  obtain ⟨front, back, length, rfl⟩ := stands
  exact ⟨front ++ piece, back, by simp [length], by simp⟩

theorem Stands.length_le (stands : Stands data offset piece) :
    offset + piece.length ≤ data.length := by
  obtain ⟨front, back, rfl, rfl⟩ := stands
  simp only [List.length_append]
  omega

theorem Stands.slice? (stands : Stands data offset piece) :
    slice? data offset piece.length = some piece := by
  have inside := stands.length_le
  obtain ⟨front, back, rfl, rfl⟩ := stands
  rw [Abi.slice?, if_pos inside, List.drop_left, List.take_left]

theorem Stands.numberAt? {n : Nat} (stands : Stands data offset (wordBytes n))
    (small : n < wordLimit) : numberAt? data offset = some n := by
  have read := stands.slice?
  rw [length_wordBytes] at read
  rw [Abi.numberAt?, read, Option.map_some, number_wordBytes small]

/-! ## Types of values -/

variable {type : DataType} {v : Value}

/-- A value of one word has one type. -/
theorem eq_type_of_acceptsWord {w : Word} (accepted : type.acceptsWord w = true) :
    type = w.type := by
  cases w with
  | address a => cases type <;> first | rfl | cases accepted
  | uint n =>
      cases type with
      | uint bits => exact congrArg DataType.uint (by simpa [DataType.acceptsWord] using accepted)
      | _ => cases accepted
  | bool b => cases type <;> first | rfl | cases accepted

theorem eq_type_of_accepts {w : Word} (accepted : type.accepts (.word w) = true) :
    type = w.type := by
  apply eq_type_of_acceptsWord
  cases type <;> exact accepted

theorem eq_string_of_accepts {s : String} (accepted : type.accepts (.string s) = true) :
    type = .string := by
  cases type <;> first | rfl | cases accepted

theorem eq_bytes_of_accepts {bs : List UInt8} (accepted : type.accepts (.bytes bs) = true) :
    type = .bytes := by
  cases type <;> first | rfl | cases accepted

/-- A list is accepted by the lists of what accepts each element. -/
theorem exists_list_of_accepts {items : List Word} (accepted : type.accepts (.list items) = true) :
    ∃ element, type = .list element ∧ ∀ w ∈ items, element.acceptsWord w = true := by
  cases type with
  | list element => exact ⟨element, rfl, by simpa [DataType.accepts] using accepted⟩
  | _ => cases accepted

/-! ## Values of one word -/

theorem Word.length_encode (w : Word) : w.encode.length = 32 := by
  cases w with
  | address a => simp [Word.encode, a.length_eq]
  | uint n => exact length_wordBytes _
  | bool b => exact length_wordBytes _

/-- What stands in the head takes one word. -/
theorem length_of_head {word : List UInt8} (placed : v.placement = .head word) :
    word.length = 32 := by
  cases v with
  | word w =>
      obtain rfl := Placement.head.inj placed
      exact w.length_encode
  | string | bytes | list => cases placed

theorem ofList?_bytes {n : Nat} (o : Octets n) : Octets.ofList? n o.bytes = some o := by
  rw [Octets.ofList?, dif_pos o.length_eq]

theorem decodeWord?_encode (w : Word) : decodeWord? w.type w.encode = some w := by
  cases w with
  | address a =>
      have behind : (Word.address a).encode.drop 12 = a.bytes := by simp [Word.encode]
      rw [Word.type, decodeWord?, behind, ofList?_bytes, Option.map_some]
  | uint n =>
      have small : n.toNat < wordLimit := n.isLt
      rw [Word.type, decodeWord?, if_pos rfl, Word.encode, number_wordBytes small,
        BitVec.ofNat_toNat, BitVec.setWidth_eq]
  | bool b =>
      have read : number (Word.bool b).encode = b.toNat :=
        number_wordBytes (Nat.lt_of_le_of_lt b.toNat_le (by decide))
      rw [Word.type, decodeWord?, read]
      cases b <;> rfl

theorem wordsAt?_of_stands {element : DataType} {items : List Word}
    (accepted : ∀ w ∈ items, element.acceptsWord w = true)
    (stands : Stands data offset (items.flatMap Word.encode)) :
    wordsAt? element data items.length offset = some items := by
  induction items generalizing offset with
  | nil => rfl
  | cons w rest ih =>
      obtain ⟨here, others⟩ := List.forall_mem_cons.mp accepted
      rw [List.flatMap_cons] at stands
      have word := stands.left.slice?
      have behind := ih others stands.right
      rw [Word.length_encode] at word behind
      have first : decodeWord? element w.encode = some w := by
        rw [eq_type_of_acceptsWord here]
        exact decodeWord?_encode w
      simp [wordsAt?, word, first, behind]

theorem length_le_flatMap_encode (items : List Word) :
    items.length ≤ (items.flatMap Word.encode).length := by
  induction items with
  | nil => exact Nat.le_refl 0
  | cons w rest ih =>
      rw [List.flatMap_cons, List.length_cons, List.length_append, w.length_encode]
      omega

/-! ## Values in the tail -/

theorem bytesAt?_of_stands {bs : List UInt8} (stands : Stands data offset (encodeBytes bs))
    (small : data.length < wordLimit) : bytesAt? data offset = some bs := by
  rw [encodeBytes] at stands
  have content : Stands data (offset + 32) bs := by
    have behind := stands.right
    rw [length_wordBytes, padded] at behind
    exact behind.left
  have fits : bs.length < wordLimit := by
    have := content.length_le
    omega
  simp [bytesAt?, stands.left.numberAt? fits, content.slice?]

theorem text?_bytes (s : String) : text? (Text.bytes s.toList) = some s := by
  rw [text?, Text.fromUTF8?_bytes, String.ofList_toList]

theorem decodeAt?_head {word : List UInt8} (accepted : type.accepts v = true)
    (placed : v.placement = .head word) (stands : Stands data place word) :
    decodeAt? data place type = some v := by
  have read := stands.slice?
  rw [length_of_head placed] at read
  cases v with
  | word w =>
      obtain rfl := Placement.head.inj placed
      obtain rfl := eq_type_of_accepts accepted
      have decoded := decodeWord?_encode w
      cases w <;> simp_all [Word.type, decodeAt?]
  | string | bytes | list => cases placed

/-- A value in the tail is read where its word in the head points to. -/
theorem decodeAt?_tail {body : List UInt8} (accepted : type.accepts v = true)
    (placed : v.placement = .tail body) (points : Stands data place (wordBytes offset))
    (stands : Stands data offset body) (small : data.length < wordLimit) :
    decodeAt? data place type = some v := by
  have inside := stands.length_le
  have pointer : numberAt? data place = some offset := points.numberAt? (by omega)
  cases v with
  | word w => cases placed
  | string s =>
      obtain rfl := Placement.tail.inj placed
      obtain rfl := eq_string_of_accepts accepted
      simp [decodeAt?, pointer, bytesAt?_of_stands stands small, text?_bytes]
  | bytes bs =>
      obtain rfl := Placement.tail.inj placed
      obtain rfl := eq_bytes_of_accepts accepted
      simp [decodeAt?, pointer, bytesAt?_of_stands stands small]
  | list items =>
      obtain rfl := Placement.tail.inj placed
      obtain ⟨element, rfl, each⟩ := exists_list_of_accepts accepted
      have words := stands.right
      rw [length_wordBytes] at words
      have fits : items.length < wordLimit := by
        have within := words.length_le
        have count := length_le_flatMap_encode items
        omega
      simp [decodeAt?, pointer, stands.left.numberAt? fits, wordsAt?_of_stands each words]

/-! ## Lists of values -/

theorem length_head (offset : Nat) (values : List Value) :
    (encodeFrom offset values).1.length = 32 * values.length := by
  induction values generalizing offset with
  | nil => rfl
  | cons v rest ih =>
      rw [encodeFrom]
      cases placed : v.placement with
      | head word =>
          have one := length_of_head placed
          simp [ih, one]
          omega
      | tail body =>
          simp [ih, length_wordBytes]
          omega

/-- **Values are read back from where their head and their tail stand.**  The induction is on
the values; the head of the others follows the word of the first one, and their tail its body. -/
theorem decodeFrom?_of_stands {types : List DataType} {values : List Value}
    (accepted : List.Forall₂ (fun type v => type.accepts v = true) types values)
    (head : Stands data place (encodeFrom offset values).1)
    (tail : Stands data offset (encodeFrom offset values).2) (small : data.length < wordLimit) :
    decodeFrom? data place types = some values := by
  induction accepted generalizing place offset with
  | nil => rfl
  | @cons type v types rest here others ih =>
      rw [encodeFrom] at head tail
      cases placed : v.placement with
      | head word =>
          simp only [placed] at head tail
          have first := decodeAt?_head here placed head.left
          have behind := head.right
          rw [length_of_head placed] at behind
          simp [decodeFrom?, first, ih behind tail]
      | tail body =>
          simp only [placed] at head tail
          have first := decodeAt?_tail here placed head.left tail.left small
          have behind := head.right
          rw [length_wordBytes] at behind
          simp [decodeFrom?, first, ih behind tail.right]

/-- **Encoded values are decoded.** -/
theorem decode?_encode {types : List DataType} {values : List Value}
    (accepted : List.Forall₂ (fun type v => type.accepts v = true) types values)
    (small : (encode values).length < wordLimit) :
    decode? types (encode values) = some values := by
  have whole : encode values = (encodeFrom (32 * values.length) values).1 ++
      (encodeFrom (32 * values.length) values).2 := rfl
  have all : Stands (encode values) 0 ((encodeFrom (32 * values.length) values).1 ++
      (encodeFrom (32 * values.length) values).2) := ⟨[], [], rfl, by simp [whole]⟩
  have tail := all.right
  rw [length_head, Nat.zero_add] at tail
  exact decodeFrom?_of_stands accepted all.left tail small

end Rollout.Abi
