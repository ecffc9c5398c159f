/-
# Rollout.Hex — bytes written as pairs of hex digits

Writing uses lower-case digits, high half first (`encode`).  Reading takes the bytes of a text,
accepts both letter cases and names the first fault: a text with an odd number of bytes is
refused before any digit is looked at, then the leftmost byte that is no digit is reported with
its position.

Bytes that a URL has to escape are written as a percent sign and two digits, in upper case
(`Text.Percent`); every percent sign that two digits follow is read back, and all else is left
as it is.
-/
import Rollout.Text.Basic

set_option autoImplicit false

namespace Rollout.Hex

/-! ## Digits -/

def digit (n : Nat) : Char :=
  if n < 10 then Char.ofNat (48 + n) else Char.ofNat (87 + n)

/-- The number that a byte stands for when it is a hex digit of either case. -/
def value? (byte : UInt8) : Option Nat :=
  if 48 ≤ byte.toNat ∧ byte.toNat ≤ 57 then some (byte.toNat - 48)
  else if 97 ≤ byte.toNat ∧ byte.toNat ≤ 102 then some (byte.toNat - 87)
  else if 65 ≤ byte.toNat ∧ byte.toNat ≤ 70 then some (byte.toNat - 55)
  else none

/-! ## Writing -/

def encodeByte (byte : UInt8) : List Char :=
  [digit (byte.toNat / 16), digit (byte.toNat % 16)]

/-- The digits of a list of bytes, two for each. -/
def encode (bytes : List UInt8) : List Char :=
  bytes.flatMap encodeByte

/-- The digits as a string, without any marker in front. -/
def text (bytes : List UInt8) : String :=
  String.ofList (encode bytes)

/-- The digits as a string behind the marker `0x`. -/
def prefixed (bytes : List UInt8) : String :=
  "0x" ++ text bytes

/-! ## Reading -/

/-- A text without its marker `0x` or `0X`; only one is taken away. -/
def withoutMarker : List Char → List Char
  | '0' :: 'x' :: rest => rest
  | '0' :: 'X' :: rest => rest
  | cs => cs

inductive Fault where
  /-- The text has an odd number of bytes. -/
  | oddLength
  /-- The byte at this position is no hex digit. -/
  | badByte (byte : UInt8) (position : Nat)
  deriving DecidableEq, Repr

/-- Reads pair after pair, where the first byte stands at `position`. -/
def decodeFrom (position : Nat) : List UInt8 → Except Fault (List UInt8)
  | [] => .ok []
  | [_] => .error .oddLength
  | high :: low :: rest =>
      match value? high, value? low with
      | none, _ => .error (.badByte high position)
      | some _, none => .error (.badByte low (position + 1))
      | some h, some l =>
          (decodeFrom (position + 2) rest).map (UInt8.ofNat (16 * h + l) :: ·)

/-- Reads a text of hex pairs; an odd length is found before a bad digit. -/
def decode (bytes : List UInt8) : Except Fault (List UInt8) :=
  if bytes.length % 2 = 1 then .error .oddLength else decodeFrom 0 bytes

end Rollout.Hex

namespace Rollout.Text.Percent

/-! ## Percent signs -/

def digit (n : Nat) : Char :=
  if n < 10 then Char.ofNat (48 + n) else Char.ofNat (55 + n)

def encodeByte (byte : UInt8) : List Char :=
  ['%', digit (byte.toNat / 16), digit (byte.toNat % 16)]

/-- A text in which some characters are escaped. -/
def encode (escaped : Char → Bool) (cs : List Char) : List Char :=
  cs.flatMap fun c => if escaped c then (Text.bytes [c]).flatMap encodeByte else [c]

def decode : List UInt8 → List UInt8
  | 37 :: high :: low :: rest =>
      match Hex.value? high, Hex.value? low with
      | some h, some l => UInt8.ofNat (16 * h + l) :: decode rest
      | _, _ => 37 :: decode (high :: low :: rest)
  | byte :: rest => byte :: decode rest
  | [] => []

end Rollout.Text.Percent
