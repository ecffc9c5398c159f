/-
# Rollout.Number.Shortest — the shortest decimal that reads back as a double

A finite positive double is `m · 2^q`.  The reals that round to it form an
interval whose ends lie half a unit away (a quarter below, when `m` is the
smallest mantissa of its binade) and belong to it when `m` is even.  Among the
decimals `d · 10^p` in that interval the one with the largest `p` is chosen, and
of two such the nearer.  All comparisons are between natural numbers.
-/

namespace Rollout.Number

set_option autoImplicit false

/-- A positive decimal `digits · 10^exponent`. -/
structure Scientific where
  digits : Nat
  exponent : Int
  deriving DecidableEq, Repr

/-- A positive rational number by numerator and denominator. -/
structure Ratio where
  num : Nat
  den : Nat

namespace Ratio

def binary (n : Nat) (e : Int) : Ratio :=
  if 0 ≤ e then ⟨n * Nat.pow 2 e.toNat, 1⟩ else ⟨n, Nat.pow 2 (-e).toNat⟩

def decimal (n : Nat) (e : Int) : Ratio :=
  if 0 ≤ e then ⟨n * Nat.pow 10 e.toNat, 1⟩ else ⟨n, Nat.pow 10 (-e).toNat⟩

def lt (a b : Ratio) : Bool := a.num * b.den < b.num * a.den

def le (a b : Ratio) : Bool := a.num * b.den ≤ b.num * a.den

/-- The largest `d` with `d · 10^p` at most the number. -/
def floorAt (r : Ratio) (p : Int) : Nat :=
  if 0 ≤ p then r.num / (r.den * Nat.pow 10 p.toNat)
  else r.num * Nat.pow 10 (-p).toNat / r.den

def distance (a b : Ratio) : Ratio :=
  ⟨(a.num * b.den - b.num * a.den) + (b.num * a.den - a.num * b.den), a.den * b.den⟩

end Ratio

structure Binary where
  mantissa : Nat
  exponent : Int

namespace Binary

/-- The mantissa and exponent of a finite double with its sign cleared. -/
def ofBits (bits : UInt64) : Binary :=
  let fraction : Nat := bits.toNat % Nat.pow 2 52
  let biased : Nat := bits.toNat / Nat.pow 2 52 % Nat.pow 2 11
  if biased = 0 then ⟨fraction, -1074⟩ else ⟨fraction + Nat.pow 2 52, (biased : Int) - 1075⟩

def value (b : Binary) : Ratio := .binary b.mantissa b.exponent

/-- The lower end of the interval that rounds to the double. -/
def lower (b : Binary) : Ratio :=
  if b.mantissa = Nat.pow 2 52 ∧ -1074 < b.exponent then
    .binary (4 * b.mantissa - 1) (b.exponent - 2)
  else .binary (2 * b.mantissa - 1) (b.exponent - 1)

/-- The upper end of the interval that rounds to the double. -/
def upper (b : Binary) : Ratio := .binary (2 * b.mantissa + 1) (b.exponent - 1)

/-- Whether a decimal reads back as the double. -/
def admits (b : Binary) (d : Scientific) : Bool :=
  let r := Ratio.decimal d.digits d.exponent
  if b.mantissa % 2 = 0 then b.lower.le r && r.le b.upper else b.lower.lt r && r.lt b.upper

/-- The decimal on the grid of `10^p` that reads back as the double, the nearer
of two; a tie goes to the even one. -/
def onGrid (b : Binary) (p : Int) : Option Scientific :=
  let below : Scientific := ⟨b.value.floorAt p, p⟩
  let above : Scientific := ⟨b.value.floorAt p + 1, p⟩
  match b.admits below, b.admits above with
  | false, false => none
  | true, false => some below
  | false, true => some above
  | true, true =>
      let down := b.value.distance (.decimal below.digits p)
      let up := b.value.distance (.decimal above.digits p)
      if down.lt up then some below
      else if up.lt down then some above
      else if below.digits % 2 = 0 then some below else some above

/-- The exponent of the leading digit of the double. -/
def magnitude (b : Binary) : Int :=
  match (List.range 700).find? fun (i : Nat) => 0 < b.value.floorAt (345 - (i : Int)) with
  | some i => 345 - (i : Int)
  | none => -355

/-- The decimal with the fewest digits that reads back as the double: the grids
are tried from the one above the leading digit downwards, and the one of
seventeen digits always holds such a decimal. -/
def shortest (b : Binary) : Scientific :=
  ((List.range 20).findSome? fun (i : Nat) => b.onGrid (b.magnitude + 1 - (i : Int))).getD
    ⟨b.mantissa, 0⟩

end Binary

/-! ## Text -/

structure FloatStyle where
  /-- The least and greatest decimal exponents of positional notation; beyond
  them an exponent is written.  `none` writes every number positionally. -/
  positional : Option (Int × Int)
  notANumber : String
  infinite : String

/-- Digits with a point after the first `n`, zeros filled in on either side. -/
def positionalText (digits : List Char) (n : Int) : List Char :=
  if n ≤ 0 then ['0', '.'] ++ List.replicate (-n).toNat '0' ++ digits
  else if (digits.length : Int) ≤ n then
    digits ++ List.replicate (n.toNat - digits.length) '0' ++ ['.', '0']
  else digits.take n.toNat ++ '.' :: digits.drop n.toNat

/-- Digits with a point after the first one, and an exponent with its sign. -/
def exponentText (digits : List Char) (e : Int) : List Char :=
  let point := match digits with
    | first :: second :: rest => first :: '.' :: second :: rest
    | few => few
  point ++ ['e', if e < 0 then '-' else '+'] ++ Nat.toDigits 10 e.natAbs

def Scientific.text (style : FloatStyle) (d : Scientific) : List Char :=
  let digits := Nat.toDigits 10 d.digits
  let e : Int := d.exponent + digits.length - 1
  match style.positional with
  | none => positionalText digits (e + 1)
  | some (least, greatest) =>
      if least ≤ e ∧ e ≤ greatest then positionalText digits (e + 1) else exponentText digits e

/-- The text of a double: shortest digits, always with a point or an exponent. -/
def floatText (style : FloatStyle) (x : Float) : String :=
  if x.isNaN then style.notANumber
  else
    let bits := x.toBits
    let sign := if bits.toNat / Nat.pow 2 63 = 1 then "-" else ""
    let magnitude := UInt64.ofNat (bits.toNat % Nat.pow 2 63)
    if x.isInf then sign ++ style.infinite
    else if magnitude = 0 then sign ++ "0.0"
    else sign ++ String.ofList ((Binary.ofBits magnitude).shortest.text style)

end Rollout.Number
