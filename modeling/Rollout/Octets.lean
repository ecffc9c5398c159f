/-
# Rollout.Octets — addresses and hashes as a fixed number of bytes

`Octets n` is a list of exactly `n` bytes: an address has twenty, a transaction
hash thirty-two.  They are written as lower-case hex behind `0x`; text meant for
people shows an address with the mixed case that carries its checksum.
-/
import Rollout.Hex
import Rollout.Keccak
import Rollout.Text.Basic
import Rollout.Text.Quoted

namespace Rollout

set_option autoImplicit false

/-- Exactly `n` bytes. -/
structure Octets (n : Nat) where
  bytes : List UInt8
  length_eq : bytes.length = n
  deriving DecidableEq

abbrev Address := Octets 20

abbrev TxHash := Octets 32

namespace Octets

variable {n : Nat}

def ofList? (n : Nat) (bytes : List UInt8) : Option (Octets n) :=
  if h : bytes.length = n then some ⟨bytes, h⟩ else none

def repeated (n : Nat) (byte : UInt8) : Octets n :=
  ⟨List.replicate n byte, List.length_replicate ..⟩

instance : Inhabited (Octets n) := ⟨repeated n 0⟩

/-- The last bytes of a longer sequence. -/
def takeLast (m : Nat) (o : Octets n) (h : m ≤ n) : Octets m :=
  ⟨o.bytes.drop (n - m), by simp [o.length_eq]; omega⟩

def text (o : Octets n) : String := Hex.prefixed o.bytes

inductive Fault where
  | oddDigits
  | wrongLength
  | badByte (byte : UInt8) (position : Nat)
  deriving DecidableEq, Repr

def Fault.message : Fault → String
  | .oddDigits => "odd number of digits"
  | .wrongLength => "invalid string length"
  | .badByte byte position =>
      "invalid character " ++ Text.Quoted.ofChar (Char.ofNat byte.toNat) ++
        " at position " ++ toString position

/-- Reads hex digits, with or without their marker.  An odd number of digits is
found first, then a wrong number, then a character that is no digit. -/
def ofText (n : Nat) (s : String) : Except Fault (Octets n) :=
  let digits := Text.bytes (Hex.withoutMarker s.toList)
  if digits.length % 2 = 1 then .error .oddDigits
  else if digits.length ≠ 2 * n then .error .wrongLength
  else match Hex.decodeFrom 0 digits with
    | .ok bytes => (ofList? n bytes).elim (.error .wrongLength) .ok
    | .error .oddLength => .error .oddDigits
    | .error (.badByte byte position) => .error (.badByte byte position)

/-- The hex digits in mixed case: a letter is upper-case where the digit of the
hash of the lower-case digits at its place is eight or more. -/
def checksummed (a : Address) : String :=
  let digits := Hex.encode a.bytes
  let guide := Hex.encode (Keccak.hash (Text.bytes digits))
  "0x" ++ String.ofList (List.zipWith
    (fun c g => if '8' ≤ g then c.toUpper else c) digits guide)

end Octets

end Rollout
