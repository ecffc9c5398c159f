/-
# Rollout.Number.Decimal — decimal numbers, and the doubles they stand for

A natural number is an optional plus sign and at least one decimal digit; leading zeros are
allowed.  The digits are read from the left, and the first of two faults met on the way decides:
a character that is no digit, or a value at or above the bound.

Of the doubles, `double?` gives the nearest one.  `Significand` gathers the digits for as long
as they stay below `2^64`; the power of ten that is left over is then multiplied in, or divided
out, among doubles.  The result is close to the decimal, but where the significand or the power
is not a double itself it need not be the nearest one.
-/

set_option autoImplicit false

namespace Rollout.Number

/-! ## Natural numbers -/

/-- One more than the largest number of 64 bits. -/
def limit64 : Nat := Nat.pow 2 64

inductive Fault where
  | empty
  | invalidDigit
  | tooLarge
  deriving DecidableEq, Repr

def Fault.message : Fault → String
  | .empty => "cannot parse integer from empty string"
  | .invalidDigit => "invalid digit found in string"
  | .tooLarge => "number too large to fit in target type"

def digit? (c : Char) : Option Nat :=
  if '0' ≤ c ∧ c ≤ '9' then some (c.toNat - 48) else none

/-- Continues the number `value` with the digits that follow. -/
def continueBelow (bound value : Nat) : List Char → Except Fault Nat
  | [] => .ok value
  | c :: rest =>
      match digit? c with
      | none => .error .invalidDigit
      | some d =>
          if 10 * value + d < bound then continueBelow bound (10 * value + d) rest
          else .error .tooLarge

def readBelow (bound : Nat) (cs : List Char) : Except Fault Nat :=
  match cs with
  | [] => .error .empty
  | ['+'] => .error .invalidDigit
  | '+' :: rest => continueBelow bound 0 rest
  | _ => continueBelow bound 0 cs

/-! ## The nearest double -/

/-- The number that decimal digits denote. -/
def digitsValue (cs : List Char) : Nat :=
  cs.foldl (fun n c => 10 * n + (c.toNat - 48)) 0

/-- The double nearest to `± digits · 10^e`, unless that is infinite. -/
def double? (negative : Bool) (digits : Nat) (e : Int) : Option Float :=
  let sign (x : Float) := if negative then -x else x
  let size : Int := (Nat.toDigits 10 digits).length + e
  if digits = 0 ∨ size < -400 then some (sign 0.0)
  else if 400 < size then none
  else
    let x := Float.ofScientific digits (e < 0) e.natAbs
    if x.isInf then none else some (sign x)

/-! ## Significands of 64 bits -/

/-- A number `value · 10^exponent`, and whether another digit would make the value
too large. -/
structure Significand where
  value : Nat := 0
  exponent : Int := 0
  isFull : Bool := false
  deriving DecidableEq, Repr

namespace Significand

def admits (s : Significand) (c : Char) : Bool :=
  !s.isFull && 10 * s.value + (c.toNat - 48) < limit64

def append (s : Significand) (c : Char) : Significand :=
  { s with value := 10 * s.value + (c.toNat - 48) }

/-- Takes up a digit before the point; where it finds no place it still moves the
point. -/
def addWhole (s : Significand) (c : Char) : Significand :=
  if s.admits c then s.append c else { s with exponent := s.exponent + 1, isFull := true }

/-- Takes up a digit behind the point; where it finds no place it is lost. -/
def addFraction (s : Significand) (c : Char) : Significand :=
  if s.admits c then { s.append c with exponent := s.exponent - 1 }
  else { s with isFull := true }

/-- The significand of the digits before and behind a point.  The digits behind it get
a try of their own. -/
def ofDigits (whole fraction : List Char) : Significand :=
  fraction.foldl addFraction { whole.foldl addWhole {} with isFull := false }

end Significand

def tenTo (n : Nat) : Float := Float.ofScientific 1 false n

/-- The largest power of ten that is a finite double. -/
def greatestPower : Nat := 308

/-- Divides by a power of ten, in steps where the power is no double. -/
def divideByTenTo (x : Float) (n : Nat) : Float :=
  if _ : n ≤ greatestPower then x / tenTo n
  else if x == 0.0 then x
  else divideByTenTo (x / tenTo greatestPower) (n - greatestPower)
termination_by n
decreasing_by
  have positive : 0 < n := Nat.lt_of_le_of_lt (Nat.zero_le _) (Nat.lt_of_not_le ‹¬ n ≤ _›)
  exact Nat.sub_lt positive (by decide)

/-- A double near `± s · 10^e`, unless that is infinite. -/
def Significand.double? (negative : Bool) (s : Significand) (e : Int) : Option Float :=
  let x := (UInt64.ofNat s.value).toFloat
  let power := s.exponent + e
  let scaled : Option Float :=
    if power < 0 then some (divideByTenTo x power.natAbs)
    else if power.toNat ≤ greatestPower then
      let y := x * tenTo power.toNat
      if y.isInf then none else some y
    else if x == 0.0 then some x
    else none
  scaled.map fun y => if negative then -y else y

end Rollout.Number
