/-
# Rollout.Node.Host — the host of a URL

A host is a domain name or an address of four or sixteen bytes.  A name whose last
label is a number has to be an address of four bytes, which may be written with
fewer parts, in octal or in hex.  An address of sixteen bytes stands in brackets and
is written with the longest run of zero groups left out.
-/
import Rollout.Hex
import Rollout.Node.Domain

namespace Rollout.Node

set_option autoImplicit false

inductive Url.Fault where
  | relative
  | emptyHost
  | badPort
  | badDomain
  | badCharacter
  | badAddress4
  | badAddress6
  deriving DecidableEq, Repr

def Url.Fault.message : Url.Fault → String
  | .relative => "relative URL without a base"
  | .emptyHost => "empty host"
  | .badPort => "invalid port number"
  | .badDomain => "invalid international domain name"
  | .badCharacter => "invalid domain character"
  | .badAddress4 => "invalid IPv4 address"
  | .badAddress6 => "invalid IPv6 address"

inductive Host where
  | domain (name : String)
  /-- An address of four bytes, as a number. -/
  | address4 (value : Nat)
  /-- An address of eight groups of two bytes. -/
  | address6 (groups : List Nat)
  deriving DecidableEq, Repr

namespace Host

/-! ## Numbers -/

def digit? (base : Nat) (c : Char) : Option Nat :=
  let n := c.toNat
  let value := if 48 ≤ n ∧ n ≤ 57 then n - 48
    else if 97 ≤ n ∧ n ≤ 102 then n - 87
    else if 65 ≤ n ∧ n ≤ 70 then n - 55
    else base
  if value < base then some value else none

def number? (base : Nat) (cs : List Char) : Option Nat :=
  cs.foldlM (fun n c => (digit? base c).map (base * n + ·)) 0

/-! ## Addresses of four bytes -/

/-- A part of an address: decimal, octal behind a zero, or hex behind `0x`. -/
def part? : List Char → Option Nat
  | [] => none
  | '0' :: 'x' :: rest => number? 16 rest
  | '0' :: 'X' :: rest => number? 16 rest
  | ['0'] => some 0
  | '0' :: rest => number? 8 rest
  | cs => number? 10 cs

def labels (cs : List Char) : List (List Char) :=
  let all := Text.pieces (· = '.') cs
  if all.getLast? = some [] then all.dropLast else all

def endsInNumber (cs : List Char) : Bool :=
  match (labels cs).getLast? with
  | some last => (!last.isEmpty && last.all Char.isDigit) || (part? last).isSome
  | none => false

/-- The address with these parts; the last fills all the bytes that are left. -/
def address4? (parts : List Nat) : Option Nat :=
  match parts.reverse with
  | [] => none
  | last :: others =>
      if others.length < 4 ∧ others.all (· < 256) ∧ last < Nat.pow 256 (4 - others.length) then
        some (others.reverse.zipIdx.foldl
          (fun sum (n, place) => sum + n * Nat.pow 256 (3 - place)) last)
      else none

def readAddress4 (cs : List Char) : Option Nat :=
  ((labels cs).mapM part?).bind address4?

/-! ## Addresses of sixteen bytes -/

/-- A group of one to four hex digits. -/
def group? (cs : List Char) : Option Nat :=
  if cs.isEmpty || 4 < cs.length then none else number? 16 cs

def byte? (cs : List Char) : Option Nat :=
  if cs.isEmpty || (cs.head? = some '0' && 1 < cs.length) then none
  else match number? 10 cs with
    | some n => if n < 256 then some n else none
    | none => none

/-- The two groups of four decimal bytes. -/
def dotted? (cs : List Char) : Option (List Nat) :=
  match (Text.pieces (· = '.') cs).mapM byte? with
  | some [a, b, c, d] => some [256 * a + b, 256 * c + d]
  | _ => none

/-- The groups between colons; the last may be given as four decimal bytes. -/
def groups? : List (List Char) → Option (List Nat)
  | [] => some []
  | [last] => if last.contains '.' then dotted? last else (group? last).map ([·])
  | first :: rest => do return (← group? first) :: (← groups? rest)

/-- The groups on one side of a double colon; there may be none. -/
def side? (cs : List Char) : Option (List Nat) :=
  if cs.isEmpty then some [] else groups? (Text.pieces (· = ':') cs)

def splitDouble : List Char → Option (List Char × List Char)
  | ':' :: ':' :: rest => some ([], rest)
  | c :: rest => (splitDouble rest).map fun (left, right) => (c :: left, right)
  | [] => none

def readAddress6 (cs : List Char) : Option (List Nat) := do
  match splitDouble cs with
  | none =>
      let groups ← side? cs
      if groups.length = 8 then some groups else none
  | some (left, right) =>
      if left.contains '.' then none
      else
        let left ← side? left
        let right ← side? right
        let given := left.length + right.length
        if given < 8 then some (left ++ List.replicate (8 - given) 0 ++ right) else none

/-! ## Reading -/

def read (cs : List Char) : Except Url.Fault Host :=
  match cs with
  | '[' :: rest =>
      if rest.getLast? = some ']' then
        match readAddress6 rest.dropLast with
        | some groups => .ok (.address6 groups)
        | none => .error .badAddress6
      else .error .badAddress6
  | _ =>
      let name := String.fromUTF8?
        (ByteArray.mk (Text.Percent.decode (Text.bytes cs)).toArray)
      match name.bind fun s => Domain.ofChars? s.toList with
      | none => .error .badDomain
      | some [] => .error .emptyHost
      | some name =>
          if endsInNumber name then
            match readAddress4 name with
            | some value => .ok (.address4 value)
            | none => .error .badAddress4
          else .ok (.domain (String.ofList name))

/-- Characters that no host has. -/
def barred : List Char :=
  ['\x00', ' ', '#', '/', ':', '<', '>', '?', '@', '[', '\x5c', ']', '^', '|']

/-- Whether a character is a control character or beyond ASCII. -/
def isUnprintable (c : Char) : Bool := c.toNat < 32 || 126 < c.toNat

/-- Reads the host of another URL, which is kept as it is written. -/
def readPlain (cs : List Char) : Except Url.Fault Host :=
  match cs with
  | '[' :: _ => read cs
  | _ =>
      if cs.any barred.contains then .error .badCharacter
      else .ok (.domain (String.ofList (Text.Percent.encode isUnprintable cs)))

/-! ## Writing -/

/-- The bytes of an address, highest first. -/
def dottedText (value : Nat) : String :=
  ".".intercalate ([3, 2, 1, 0].map fun place => toString (value / Nat.pow 256 place % 256))

/-- How many zeros groups start with. -/
def zeros (groups : List Nat) : Nat := (groups.takeWhile (· = 0)).length

/-- The place and the length of the longest run of zero groups; the first of equals. -/
def longestRun (groups : List Nat) : Nat × Nat :=
  (List.range groups.length).foldl
    (fun best place =>
      let length := zeros (groups.drop place)
      if best.2 < length then (place, length) else best)
    (0, 0)

/-- Groups between colons, in hex. -/
def colonText (groups : List Nat) : String :=
  ":".intercalate (groups.map fun n => String.ofList (Nat.toDigits 16 n))

/-- The text of eight groups; a run of at least two zeros is left out. -/
def groupsText (groups : List Nat) : String :=
  let (place, length) := longestRun groups
  if length < 2 then colonText groups
  else colonText (groups.take place) ++ "::" ++ colonText (groups.drop (place + length))

def text : Host → String
  | .domain name => name
  | .address4 value => dottedText value
  | .address6 groups => "[" ++ groupsText groups ++ "]"

end Host

end Rollout.Node
