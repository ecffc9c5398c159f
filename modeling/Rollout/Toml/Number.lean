/-
# Rollout.Toml.Number — numbers and dates of TOML

Digits may be grouped by single underscores.  Integers have 64 bits; a double that
would be infinite is refused, infinity has a name of its own.  Dates and times are
checked against the calendar and kept in their normal form.
-/
import Rollout.Document
import Rollout.Moment
import Rollout.Number.Decimal
import Rollout.Toml.Text

namespace Rollout.Toml

open Document (Value)
open Number (digitsValue double?)

set_option autoImplicit false

/-! ## Numbers -/

/-- Digits with single underscores between them; at least one digit. -/
def digitGroup (isDigit : Char → Bool) : Front (List Char) := fun cs =>
  let run := cs.takeWhile fun c => isDigit c || c = '_'
  let rest := cs.drop run.length
  if grouped run then some (run.filter (· ≠ '_'), rest) else none
where
  /-- Starts and ends with a digit, and no two underscores are neighbours. -/
  grouped (run : List Char) : Bool :=
    run.head?.any isDigit && run.getLast?.any isDigit &&
      (run.zip run.tail).all fun (a, b) => !(a = '_' && b = '_')

/-- An optional sign: whether the number is negative. -/
def sign : List Char → Bool × List Char
  | '-' :: rest => (true, rest)
  | '+' :: rest => (false, rest)
  | cs => (false, cs)

/-- Decimal digits without a leading zero. -/
def decimal : Front (List Char)
  | '0' :: rest => some (['0'], rest)
  | cs => digitGroup Char.isDigit cs

/-- The value of digits in a base. -/
def valueIn (base : Nat) (digits : List Char) : Nat :=
  digits.foldl (fun n c => base * n + (hexValue? c).getD 0) 0

/-- An integer in a base, behind its marker. -/
def based (base : Nat) : Front Value := fun cs => do
  let (digits, rest) ← digitGroup (fun c => (hexValue? c).any (· < base)) cs
  let n := valueIn base digits
  if n < Nat.pow 2 63 then return (.nat n, rest) else none

def decimalInteger : Front Value := fun cs => do
  let (negative, unsigned) := sign cs
  let (digits, rest) ← decimal unsigned
  let n : Int := digitsValue digits
  let n := if negative then -n else n
  if -(Nat.pow 2 63 : Int) ≤ n ∧ n < Nat.pow 2 63 then return (.int n, rest) else none

def integer : Front Value
  | '0' :: 'x' :: rest => based 16 rest
  | '0' :: 'o' :: rest => based 8 rest
  | '0' :: 'b' :: rest => based 2 rest
  | cs => decimalInteger cs

def fraction : Front (List Char)
  | '.' :: rest => digitGroup Char.isDigit rest
  | cs => some ([], cs)

def exponent : Front Int
  | c :: rest =>
      if c = 'e' ∨ c = 'E' then do
        let (negative, unsigned) := sign rest
        let (digits, rest) ← digitGroup Char.isDigit unsigned
        let n : Int := digitsValue digits
        return (if negative then -n else n, rest)
      else some (0, c :: rest)
  | [] => some (0, [])

/-- A double with a fraction or an exponent. -/
def finite : Front Value := fun cs => do
  let (negative, unsigned) := sign cs
  let (whole, afterWhole) ← decimal unsigned
  let (part, afterPart) ← fraction afterWhole
  let (e, rest) ← exponent afterPart
  if rest.length = afterWhole.length then none
  else
    let x := double? negative (digitsValue (whole ++ part)) (e - part.length)
    match x with
    | some x => return (.float x, rest)
    | none => if negative then return (.float (-1.0 / 0.0), rest) else none

def special : Front Value := fun cs =>
  let (negative, unsigned) := sign cs
  let signed (x : Float) := if negative then -x else x
  match unsigned with
  | 'i' :: 'n' :: 'f' :: rest => some (.float (signed (1.0 / 0.0)), rest)
  | 'n' :: 'a' :: 'n' :: rest => some (.float (signed (0.0 / 0.0)), rest)
  | _ => none

/-! ## Dates -/

/-- So many decimal digits with a value within bounds. -/
def fixed (count least most : Nat) : Front Nat := fun cs =>
  let digits := cs.take count
  let n := digitsValue digits
  if digits.length = count ∧ digits.all Char.isDigit ∧ least ≤ n ∧ n ≤ most then
    some (n, cs.drop count)
  else none

def mark (c : Char) : List Char → Option (List Char)
  | first :: rest => if first = c then some rest else none
  | [] => none

def date : Front (List Char) := fun cs => do
  let (year, rest) ← fixed 4 0 9999 cs
  let (month, rest) ← fixed 2 1 12 (← mark '-' rest)
  let (day, rest) ← fixed 2 1 (monthLength year month) (← mark '-' rest)
  return (Moment.padded 4 year ++ '-' :: Moment.padded 2 month ++ '-' :: Moment.padded 2 day, rest)

/-- The digits of a fraction, of which nine count and trailing zeros do not. -/
def secondFraction : Front (List Char)
  | '.' :: rest =>
      match rest.takeWhile Char.isDigit with
      | [] => none
      | digits =>
          let kept := ((digits.take 9).reverse.dropWhile (· = '0')).reverse
          some (if kept.isEmpty then [] else '.' :: kept, rest.drop digits.length)
  | cs => some ([], cs)

def time : Front (List Char) := fun cs => do
  let (hour, rest) ← fixed 2 0 23 cs
  let (minute, rest) ← fixed 2 0 59 (← mark ':' rest)
  let (second, rest) ← fixed 2 0 60 (← mark ':' rest)
  let (part, rest) ← secondFraction rest
  return (Moment.padded 2 hour ++ ':' :: Moment.padded 2 minute ++ ':' :: Moment.padded 2 second
    ++ part, rest)

/-- An offset from UTC in its normal form, empty when there is none; that of no hours and
no minutes has a plus sign. -/
def offset : Front (List Char)
  | [] => some ([], [])
  | c :: rest =>
      if c = 'Z' ∨ c = 'z' then some (['Z'], rest)
      else if c = '+' ∨ c = '-' then do
        let (hour, rest) ← fixed 2 0 23 rest
        let (minute, rest) ← fixed 2 0 59 (← mark ':' rest)
        let sign := if hour = 0 ∧ minute = 0 then '+' else c
        return (sign :: Moment.padded 2 hour ++ ':' :: Moment.padded 2 minute, rest)
      else some ([], c :: rest)

/-- A time of day and an offset behind a date. -/
def timeOfDate : Front (List Char)
  | c :: rest =>
      if c = 'T' ∨ c = 't' ∨ c = ' ' then do
        let (t, rest) ← time rest
        let (o, rest) ← offset rest
        return ('T' :: t ++ o, rest)
      else none
  | [] => none

/-- A date with or without a time, or a time alone. -/
def dateTime : Front Value := fun cs =>
  match date cs with
  | some (d, rest) =>
      let (t, rest) := (timeOfDate rest).getD ([], rest)
      some (.date (String.ofList (d ++ t)), rest)
  | none => (time cs).map fun (t, rest) => (.date (String.ofList t), rest)

def number : Front Value := fun cs =>
  (dateTime cs).or ((finite cs).or ((special cs).or (integer cs)))

end Rollout.Toml
