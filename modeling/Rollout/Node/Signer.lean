/-
# Rollout.Node.Signer — accounts that sign here, and the curve they are points of

The points of `y² = x³ + 7` over a prime field, with the point at infinity, form a group of
prime order under the chord-and-tangent law.  A private key is a number of 32 bytes, from one up
to and without the order of the group.  Its account is the multiple of the base point by the
key, and is named by the last twenty bytes of the hash of that point.
-/
import Rollout.Octets

set_option autoImplicit false

namespace Rollout.Node

namespace Curve

/-! ## The field -/

def prime : Nat := Nat.pow 2 256 - Nat.pow 2 32 - 977

/-- A power in the field, by repeated squaring. -/
def power (base exponent : Nat) : Nat :=
  if exponent = 0 then 1
  else
    let root := power (base * base % prime) (exponent / 2)
    if exponent % 2 = 0 then root else base * root % prime
termination_by exponent
decreasing_by omega

/-- The inverse of a number other than zero, by the little theorem of Fermat. -/
def inverse (a : Nat) : Nat := power a (prime - 2)

def sub (a b : Nat) : Nat := (a + prime - b) % prime

/-! ## The group -/

inductive Point where
  | infinity
  | affine (x y : Nat)
  deriving DecidableEq, Repr

/-- The third point of the line through `(x, y)` with a slope, mirrored; `other` is
the first coordinate of the second point. -/
def reflect (slope x y other : Nat) : Point :=
  let third := sub (sub (slope * slope % prime) x) other
  .affine third (sub (slope * sub x third % prime) y)

/-- The sum of two points: by the chord through them, or the tangent at one. -/
def add : Point → Point → Point
  | .infinity, q => q
  | p, .infinity => p
  | .affine x y, .affine u v =>
      if x ≠ u then reflect (sub v y * inverse (sub u x) % prime) x y u
      else if y = v ∧ y ≠ 0 then reflect (3 * x * x * inverse (2 * y % prime) % prime) x y x
      else .infinity

/-- The sum of `n` times a point, by repeated doubling. -/
def multiple (n : Nat) (p : Point) : Point :=
  if n = 0 then .infinity
  else
    let half := multiple (n / 2) (add p p)
    if n % 2 = 0 then half else add p half
termination_by n
decreasing_by omega

def base : Point := .affine
  0x79BE667EF9DCBBAC55A06295CE870B07029BFCDB2DCE28D959F2815B16F81798
  0x483ADA7726A3C4655DA4FBFC0E1108A8FD17B448A68554199C47D08FFB10D4B8

/-- The number of points. -/
def order : Nat := 0xFFFFFFFFFFFFFFFFFFFFFFFFFFFFFFFEBAAEDCE6AF48A03BBFD25E8CD0364141

end Curve

/-! ## Keys -/

structure PrivateKey where
  value : Nat
  positive : 0 < value
  small : value < Curve.order
  deriving DecidableEq

namespace PrivateKey

inductive Fault where
  | notOctets (fault : Octets.Fault)
  | outOfRange
  deriving DecidableEq, Repr

def Fault.message : Fault → String
  | .notOctets fault => fault.message
  | .outOfRange => "signature error"

/-- The number that bytes stand for, highest first. -/
def number (bytes : List UInt8) : Nat :=
  bytes.foldl (fun n byte => 256 * n + byte.toNat) 0

/-- The bytes of a number, highest first. -/
def octets (count n : Nat) : List UInt8 :=
  (List.range count).reverse.map fun place => UInt8.ofNat (n / Nat.pow 256 place % 256)

def ofText (s : String) : Except Fault PrivateKey := do
  let bytes ← (Octets.ofText 32 s).mapError .notOctets
  let value := number bytes.bytes
  if h : 0 < value ∧ value < Curve.order then return ⟨value, h.1, h.2⟩
  else throw .outOfRange

def pointBytes : Curve.Point → List UInt8
  | .infinity => []
  | .affine x y => octets 32 x ++ octets 32 y

def address (key : PrivateKey) : Address :=
  let hash := Keccak.hash (pointBytes (Curve.multiple key.value Curve.base))
  ((Octets.ofList? 32 hash).getD default).takeLast 20 (by decide)

end PrivateKey

end Rollout.Node
