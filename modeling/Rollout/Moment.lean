/-
# Rollout.Moment — points in time, written as in RFC 3339

A moment is a civil date and a time of day in UTC.  It is written with `Z` and
with as many digits of the second as it needs, in groups of three.  Reading is
more generous: any offset is accepted and carried out, blanks may stand between
the parts, and a space may stand for the `T`.
-/
import Rollout.Document
import Rollout.Number.Decimal
import Rollout.Text.Basic

namespace Rollout

open Document
open Number (digitsValue)

set_option autoImplicit false

/-! ## Dates -/

def isLeap (year : Int) : Bool :=
  year % 4 = 0 && (year % 100 ≠ 0 || year % 400 = 0)

def monthLength (year : Int) (month : Nat) : Nat :=
  if month = 2 then if isLeap year then 29 else 28
  else if month = 4 ∨ month = 6 ∨ month = 9 ∨ month = 11 then 30
  else 31

theorem monthLength_pos (year : Int) (month : Nat) : 28 ≤ monthLength year month := by
  unfold monthLength
  repeat' split
  all_goals decide

structure Date where
  year : Int
  month : Nat
  day : Nat
  valid : (1 ≤ month ∧ month ≤ 12) ∧ 1 ≤ day ∧ day ≤ monthLength year month
  deriving DecidableEq

namespace Date

/-- The date with these numbers, when there is one. -/
def ofNumbers? (year : Int) (month day : Nat) : Option Date :=
  if h : (1 ≤ month ∧ month ≤ 12) ∧ 1 ≤ day ∧ day ≤ monthLength year month then
    some ⟨year, month, day, h⟩
  else none

def next (d : Date) : Date :=
  if h : d.day < monthLength d.year d.month then
    ⟨d.year, d.month, d.day + 1, d.valid.1, by omega, h⟩
  else if h : d.month < 12 then
    ⟨d.year, d.month + 1, 1, ⟨by omega, h⟩, by omega,
      Nat.le_trans (by decide) (monthLength_pos d.year (d.month + 1))⟩
  else ⟨d.year + 1, 1, 1, by decide, by omega,
      Nat.le_trans (by decide) (monthLength_pos (d.year + 1) 1)⟩

def previous (d : Date) : Date :=
  if h : 1 < d.day then
    ⟨d.year, d.month, d.day - 1, d.valid.1, by omega, by have := d.valid.2; omega⟩
  else if h : 1 < d.month then
    ⟨d.year, d.month - 1, monthLength d.year (d.month - 1),
      ⟨by omega, by have := d.valid.1; omega⟩,
      Nat.le_trans (by decide) (monthLength_pos d.year (d.month - 1)), Nat.le_refl _⟩
  else ⟨d.year - 1, 12, 31, by decide, by decide, by simp [monthLength]⟩

end Date

/-- A point in time in UTC; the second sixty is a leap second. -/
structure Moment where
  date : Date
  hour : Nat
  minute : Nat
  second : Nat
  /-- Billionths of a second. -/
  nano : Nat
  valid : hour < 24 ∧ minute < 60 ∧ second ≤ 60 ∧ nano < 1000000000
  deriving DecidableEq

namespace Moment

def epoch : Moment := ⟨⟨1970, 1, 1, by decide⟩, 0, 0, 0, 0, by decide⟩

instance : Inhabited Moment := ⟨epoch⟩

/-! ## Writing -/

/-- The decimal digits of a number, filled up with zeros to a width. -/
def padded (width n : Nat) : List Char :=
  let digits := Nat.toDigits 10 n
  List.replicate (width - digits.length) '0' ++ digits

/-- A year has four digits; one outside of those has a sign. -/
def yearText (year : Int) : List Char :=
  if 0 ≤ year ∧ year ≤ 9999 then padded 4 year.toNat
  else (if year < 0 then '-' else '+') :: padded 4 year.natAbs

/-- The fraction of a second in the fewest groups of three digits. -/
def fractionText (nano : Nat) : List Char :=
  if nano = 0 then []
  else if nano % 1000000 = 0 then '.' :: padded 3 (nano / 1000000)
  else if nano % 1000 = 0 then '.' :: padded 6 (nano / 1000)
  else '.' :: padded 9 nano

def chars (m : Moment) : List Char :=
  yearText m.date.year ++ '-' :: padded 2 m.date.month ++ '-' :: padded 2 m.date.day ++
    'T' :: padded 2 m.hour ++ ':' :: padded 2 m.minute ++ ':' :: padded 2 m.second ++
    fractionText m.nano ++ ['Z']

def text (m : Moment) : String := String.ofList m.chars

/-! ## Reading -/

inductive Fault where
  | tooShort
  | tooLong
  | invalid
  | outOfRange
  /-- In UTC the moment would be before the first year or behind the last. -/
  | impossible
  deriving DecidableEq, Repr

def Fault.message : Fault → String
  | .tooShort => "premature end of input"
  | .tooLong => "trailing input"
  | .invalid => "input contains invalid characters"
  | .outOfRange => "input is out of range"
  | .impossible => "no possible date and time matching input"

def skipBlank (cs : List Char) : List Char := cs.dropWhile Text.isBlank

/-- Reads one digit up to `most` digits. -/
def number (most : Nat) (cs : List Char) : Except Fault (Nat × List Char) :=
  match (cs.take most).takeWhile Char.isDigit with
  | [] => .error (if cs.isEmpty then .tooShort else .invalid)
  | digits => .ok (digitsValue digits, cs.drop digits.length)

/-- Reads a number of up to two digits within bounds. -/
def within (least most : Nat) (cs : List Char) : Except Fault (Nat × List Char) := do
  let (n, rest) ← number 2 (skipBlank cs)
  if least ≤ n ∧ n ≤ most then return (n, rest) else throw .outOfRange

def mark (c : Char) (cs : List Char) : Except Fault (List Char) :=
  match skipBlank cs with
  | [] => .error .tooShort
  | first :: rest => if first = c then .ok rest else .error .invalid

/-- Reads any number of digits of a year, which go up to `most`. -/
def signedYear (most : Nat) (cs : List Char) : Except Fault (Nat × List Char) := do
  let (n, rest) ← number cs.length cs
  if n ≤ most then return (n, rest) else throw .outOfRange

/-- Reads a year: up to four digits, or any number behind a sign that make an integer of
32 bits. -/
def readYear (cs : List Char) : Except Fault (Int × List Char) :=
  match skipBlank cs with
  | '-' :: rest => (signedYear (Nat.pow 2 31) rest).map fun (n, rest) => (-(n : Int), rest)
  | '+' :: rest => (signedYear (Nat.pow 2 31 - 1) rest).map fun (n, rest) => ((n : Int), rest)
  | rest => (number 4 rest).map fun (n, rest) => ((n : Int), rest)

/-- Reads the fraction of a second, of which nine digits count. -/
def readFraction (cs : List Char) : Except Fault (Nat × List Char) :=
  match cs with
  | '.' :: rest =>
      match (rest.take 9).takeWhile Char.isDigit with
      | [] => .error (if rest.isEmpty then .tooShort else .invalid)
      | digits =>
          .ok (digitsValue digits * Nat.pow 10 (9 - digits.length),
            (rest.drop digits.length).dropWhile Char.isDigit)
  | _ => .ok (0, cs)

/-- Reads two digits; a text of less than two bytes is too short. -/
def twoDigits (cs : List Char) : Except Fault (Nat × List Char) :=
  match cs with
  | a :: b :: rest =>
      if a.isDigit && b.isDigit then .ok (digitsValue [a, b], rest) else .error .invalid
  | [a] => .error (if a.toNat < 128 then .tooShort else .invalid)
  | [] => .error .tooShort

/-- Reads hours and minutes of an offset, as minutes. -/
def readOffsetSize (cs : List Char) : Except Fault (Nat × List Char) := do
  let (hours, rest) ← twoDigits cs
  let (minutes, rest) ← twoDigits (rest.dropWhile fun c => c = ':' || Text.isBlank c)
  if minutes < 60 then return (60 * hours + minutes, rest) else throw .outOfRange

/-- Reads an offset from UTC in minutes, east of it positive. -/
def readOffset (cs : List Char) : Except Fault (Int × List Char) :=
  match cs with
  | [] => .error .tooShort
  | c :: rest =>
      if (cs.take 3).map Char.toUpper = ['U', 'T', 'C'] then .ok (0, cs.drop 3)
      else if c = 'Z' ∨ c = 'z' then .ok (0, rest)
      else if c = '+' then (readOffsetSize rest).map fun (n, rest) => ((n : Int), rest)
      else if c = '-' ∨ c = '\u2212' then
        (readOffsetSize rest).map fun (n, rest) => (-(n : Int), rest)
      else .error .invalid

/-- The years that a moment can fall into. -/
def isYear (year : Int) : Bool := -262143 ≤ year && year ≤ 262142

/-- The moment with these numbers at an offset of so many minutes. -/
def ofNumbers (date : Date) (hour minute second nano : Nat) (offset : Int) :
    Except Fault Moment :=
  let total : Int := 60 * hour + minute - offset
  let (date, total) :=
    if total < 0 then (date.previous, total + 1440)
    else if 1440 ≤ total then (date.next, total - 1440)
    else (date, total)
  let hour := total.toNat / 60
  let minute := total.toNat % 60
  if !isYear date.year then .error .impossible
  else if h : hour < 24 ∧ minute < 60 ∧ second ≤ 60 ∧ nano < 1000000000 then
    .ok ⟨date, hour, minute, second, nano, h⟩
  else .error .outOfRange

def ofChars (cs : List Char) : Except Fault Moment := do
  let (year, rest) ← readYear cs
  let (month, rest) ← within 1 12 (← mark '-' rest)
  let (day, rest) ← within 1 31 (← mark '-' rest)
  let rest ← match rest with
    | [] => .error .tooShort
    | c :: rest => if c = 'T' ∨ c = 't' ∨ c = ' ' then .ok rest else .error .invalid
  let (hour, rest) ← within 0 23 rest
  let (minute, rest) ← within 0 59 (← mark ':' rest)
  let (second, rest) ← within 0 60 (← mark ':' rest)
  let (nano, rest) ← readFraction rest
  let (offset, rest) ← readOffset (skipBlank rest)
  if !(skipBlank rest).isEmpty then throw .tooLong
  if 1440 ≤ offset.natAbs ∨ !isYear year then throw .outOfRange
  match Date.ofNumbers? year month day with
  | none => throw .outOfRange
  | some date => ofNumbers date hour minute second nano offset

def ofText (s : String) : Except Fault Moment := ofChars s.toList

def read : Reader Moment
  | .text s => (ofText s).mapError fun fault => .other fault.message
  | v => .error (.wrongType v.shape "an RFC 3339 formatted date and time string")

def document (m : Moment) : Value := .text m.text

end Moment

end Rollout
