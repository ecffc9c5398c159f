/-
# Rollout.Abi.Value — values of calls and their encoding

Every value is laid out in words of thirty-two bytes.  A value of one word
stands in its place in the head; texts, byte strings and lists stand in the
tail, and the word in their place is the offset of their first byte.  `encode`
writes a list of values so; `decode?` reads one back for given types.
-/
import Rollout.Abi.DataType
import Rollout.Octets

namespace Rollout.Abi

set_option autoImplicit false

/-- A value that takes one word. -/
inductive Word where
  | address (a : Address)
  | uint (n : BitVec 256)
  | bool (b : Bool)
  deriving DecidableEq

inductive Value where
  | word (w : Word)
  | string (s : String)
  | bytes (bs : List UInt8)
  | list (items : List Word)
  deriving DecidableEq

/-! ## Types of values -/

def Word.type : Word → DataType
  | .address _ => .address
  | .uint _ => .uint 256
  | .bool _ => .bool

def DataType.acceptsWord : DataType → Word → Bool
  | .address, .address _ => true
  | .uint bits, .uint _ => bits = 256
  | .bool, .bool _ => true
  | _, _ => false

/-- Whether a type has a value; an empty list is a list of anything. -/
def DataType.accepts : DataType → Value → Bool
  | type, .word w => type.acceptsWord w
  | .string, .string _ => true
  | .bytes, .bytes _ => true
  | .list element, .list items => items.all element.acceptsWord
  | _, _ => false

/-- The type of a value as messages show it; a list is typed by its first element. -/
def Value.typeText : Value → String
  | .word w => w.type.text
  | .string _ => DataType.string.text
  | .bytes _ => DataType.bytes.text
  | .list [] => "<none>"
  | .list (first :: _) => (DataType.list first.type).text

/-! ## Encoding -/

/-- The lowest `width` bytes of a number, highest first. -/
def bigEndian : (width : Nat) → (n : Nat) → List UInt8
  | 0, _ => []
  | width + 1, n => bigEndian width (n / 256) ++ [UInt8.ofNat (n % 256)]

def wordBytes (n : Nat) : List UInt8 := bigEndian 32 n

/-- The number that big-endian bytes stand for. -/
def number (bs : List UInt8) : Nat :=
  bs.foldl (fun n b => 256 * n + b.toNat) 0

def Word.encode : Word → List UInt8
  | .address a => List.replicate 12 0 ++ a.bytes
  | .uint n => wordBytes n.toNat
  | .bool b => wordBytes b.toNat

/-- Bytes followed by zeros up to a whole number of words. -/
def padded (bs : List UInt8) : List UInt8 :=
  bs ++ List.replicate ((32 - bs.length % 32) % 32) 0

/-- A byte string in the tail: its length, then its bytes. -/
def encodeBytes (bs : List UInt8) : List UInt8 :=
  wordBytes bs.length ++ padded bs

/-- Where a value stands. -/
inductive Placement where
  /-- The word stands in the head. -/
  | head (word : List UInt8)
  /-- The body stands in the tail. -/
  | tail (body : List UInt8)

def Value.placement : Value → Placement
  | .word w => .head w.encode
  | .string s => .tail (encodeBytes (Text.bytes s.toList))
  | .bytes bs => .tail (encodeBytes bs)
  | .list items => .tail (wordBytes items.length ++ items.flatMap Word.encode)

/-- The head and the tail of a list of values whose first tail stands at `offset`. -/
def encodeFrom (offset : Nat) : List Value → List UInt8 × List UInt8
  | [] => ([], [])
  | first :: rest =>
      match first.placement with
      | .head word =>
          let (head, tail) := encodeFrom offset rest
          (word ++ head, tail)
      | .tail body =>
          let (head, tail) := encodeFrom (offset + body.length) rest
          (wordBytes offset ++ head, body ++ tail)

def encode (values : List Value) : List UInt8 :=
  let (head, tail) := encodeFrom (32 * values.length) values
  head ++ tail

/-! ## Decoding -/

def slice? (data : List UInt8) (offset length : Nat) : Option (List UInt8) :=
  if offset + length ≤ data.length then some ((data.drop offset).take length) else none

def numberAt? (data : List UInt8) (offset : Nat) : Option Nat :=
  (slice? data offset 32).map number

def decodeWord? : DataType → List UInt8 → Option Word
  | .address, bs => (Octets.ofList? 20 (bs.drop 12)).map .address
  | .uint bits, bs => if bits = 256 then some (.uint (.ofNat 256 (number bs))) else none
  | .bool, bs =>
      match number bs with
      | 0 => some (.bool false)
      | 1 => some (.bool true)
      | _ => none
  | _, _ => none

def bytesAt? (data : List UInt8) (offset : Nat) : Option (List UInt8) := do
  let length ← numberAt? data offset
  slice? data (offset + 32) length

def wordsAt? (element : DataType) (data : List UInt8) : (count offset : Nat) → Option (List Word)
  | 0, _ => some []
  | count + 1, offset => do
      let first ← decodeWord? element (← slice? data offset 32)
      let rest ← wordsAt? element data count (offset + 32)
      return first :: rest

def text? (bs : List UInt8) : Option String :=
  String.fromUTF8? (ByteArray.mk bs.toArray)

/-- Reads the value of a type whose word stands at `place` of the head. -/
def decodeAt? (data : List UInt8) (place : Nat) : DataType → Option Value
  | .string => do return .string (← text? (← bytesAt? data (← numberAt? data place)))
  | .bytes => do return .bytes (← bytesAt? data (← numberAt? data place))
  | .list element => do
      let offset ← numberAt? data place
      let count ← numberAt? data offset
      return .list (← wordsAt? element data count (offset + 32))
  | type => do return .word (← decodeWord? type (← slice? data place 32))

/-- Reads values of given types, the first of which stands at `place`. -/
def decodeFrom? (data : List UInt8) : Nat → List DataType → Option (List Value)
  | _, [] => some []
  | place, type :: rest => do
      let first ← decodeAt? data place type
      return first :: (← decodeFrom? data (place + 32) rest)

def decode? (types : List DataType) (data : List UInt8) : Option (List Value) :=
  decodeFrom? data 0 types

end Rollout.Abi
