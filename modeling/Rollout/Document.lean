/-
# Rollout.Document — documents, and typed values out of them

JSON and TOML texts are both read into one type of values.  Numbers are kept apart as they were
written: `int` holds the integers of 64 bits, signed or not, and everything else numeric is a
`float`.  `date` is a TOML date or time in its own text, and `tables` a TOML array that its
tables make with their headers; it reads as a list.  The fields of a `table` stand in the order
in which readers meet them: by name in JSON, as written in TOML.

A reader turns a value into a typed one or names the first fault.  Faults are causes;
`Fault.message` words them.  Records are read field by field in the order of the document, and a
field that is missing is found only after every field that is there has been read
(`Layout.read`).  A record may also be written as a list of its fields in the order of their
declaration.  JSON and TOML differ in a few places only, so readers that depend on it take the
`Format`.
-/
import Rollout.Number.Shortest
import Rollout.Octets
import Rollout.Text.Quoted

set_option autoImplicit false

namespace Rollout.Document

/-! ## Values -/

inductive Value where
  | null
  | bool (b : Bool)
  | int (n : Int)
  | float (x : Float)
  | text (s : String)
  | date (s : String)
  | list (items : List Value)
  | tables (elements : List Value)
  | table (fields : List (String × Value))
  deriving Inhabited

namespace Value

def field? (name : String) : Value → Option Value
  | .table fields => fields.lookup name
  | _ => none

def items? : Value → Option (List Value)
  | .list items => some items
  | .tables elements => some elements
  | _ => none

def text? : Value → Option String
  | .text s => some s
  | _ => none

def nat (n : Nat) : Value := .int n

end Value

/-! ## Readers -/

inductive Format where
  | json
  | toml
  deriving DecidableEq, Repr

/-! ## Faults -/

inductive Shape where
  | null
  | bool (b : Bool)
  | int (n : Int)
  | float (x : Float)
  | text (s : String)
  | list
  | table
  /-- The bare name of a variant that carries a value. -/
  | bareVariant

inductive Fault where
  | missingField (name : String)
  | wrongType (found : Shape) (wanted : String)
  | wrongValue (found : Shape) (wanted : String)
  | wrongLength (found : Nat) (wanted : String)
  | unknownVariant (name : String) (known : List String)
  /-- A fault worded by the kind of value that was read. -/
  | other (message : String)

/-- What a value looks like to a reader that wants something else. -/
def Value.shape : Value → Shape
  | .null => .null
  | .bool b => .bool b
  | .int n => .int n
  | .float x => .float x
  | .text s => .text s
  | .date _ => .table
  | .list _ => .list
  | .tables _ => .list
  | .table _ => .table

/-- How doubles are shown: JSON writes large and small ones with an exponent,
TOML never does. -/
def Format.floatStyle : Format → Number.FloatStyle
  | .json => ⟨some (-5, 15), "NaN", "inf"⟩
  | .toml => ⟨none, "NaN", "inf"⟩

def Shape.message (format : Format) : Shape → String
  | .null => "null"
  | .bool b => s!"boolean `{b}`"
  | .int n => s!"integer `{n}`"
  | .float x => "floating point `" ++ Number.floatText format.floatStyle x ++ "`"
  | .text s => "string " ++ Text.Quoted.ofText s
  | .list => "sequence"
  | .table => "map"
  | .bareVariant => "unit variant"

def choices : List String → String
  | [a] => s!"`{a}`"
  | [a, b] => s!"`{a}` or `{b}`"
  | known => "one of " ++ ", ".intercalate (known.map fun a => s!"`{a}`")

def Fault.message (format : Format) : Fault → String
  | .missingField name => s!"missing field `{name}`"
  | .wrongType found wanted => "invalid type: " ++ found.message format ++ ", expected " ++ wanted
  | .wrongValue found wanted => "invalid value: " ++ found.message format ++ ", expected " ++ wanted
  | .wrongLength found wanted => s!"invalid length {found}, expected {wanted}"
  | .unknownVariant name known => s!"unknown variant `{name}`, expected " ++ choices known
  | .other message => message

/-! ## Single values -/

abbrev Reader (α : Type) := Value → Except Fault α

def readText : Reader String
  | .text s => .ok s
  | v => .error (.wrongType v.shape "a string")

def readPath : Reader String
  | .text s => .ok s
  | v => .error (.wrongType v.shape "path string")

def readBool : Reader Bool
  | .bool b => .ok b
  | v => .error (.wrongType v.shape "a boolean")

/-- An integer from zero up to, and without, `bound`. -/
def readBelow (bound : Nat) (wanted : String) : Reader Nat
  | .int n => if 0 ≤ n ∧ n < bound then .ok n.toNat else .error (.wrongValue (.int n) wanted)
  | v => .error (.wrongType v.shape wanted)

def readUInt8 : Reader UInt8 := fun v => (readBelow (Nat.pow 2 8) "u8" v).map UInt8.ofNat

def readUInt16 : Reader UInt16 := fun v => (readBelow (Nat.pow 2 16) "u16" v).map UInt16.ofNat

def readUInt64 : Reader UInt64 := fun v => (readBelow (Nat.pow 2 64) "u64" v).map UInt64.ofNat

/-- Nothing is the null of JSON; TOML leaves the field out instead. -/
def readOption {α : Type} (read : Reader α) : Reader (Option α)
  | .null => .ok none
  | v => (read v).map some

def readList {α : Type} (read : Reader α) : Reader (List α) := fun v =>
  match v.items? with
  | some items => items.mapM read
  | none => .error (.wrongType v.shape "a sequence")

/-- The fields of a value that reads as a table; a date is a table of one. -/
def Value.fields? : Value → Option (List (String × Value))
  | .table fields => some fields
  | .date s => some [("$__toml_private_datetime", .text s)]
  | _ => none

/-- The fields of a table of like values, in the order of the document. -/
def readFields {α : Type} (read : Reader α) : Reader (List (String × α)) := fun v =>
  match v.fields? with
  | some fields => fields.mapM fun (name, item) => (read item).map (name, ·)
  | none => .error (.wrongType v.shape "a map")

/-! ## Bytes -/

/-- A list longer than its reader looked at is refused in JSON only. -/
def checkConsumed {α : Type} (format : Format) (found consumed : Nat) (a : α) : Except Fault α :=
  if format = .json ∧ consumed < found then
    .error (.wrongLength found "fewer elements in array")
  else .ok a

/-- Reads exactly `n` bytes out of a list.  A list that is too long is refused at
the byte after the last; something else than a byte there ends the reading. -/
def readOctetList (format : Format) (n : Nat) (items : List Value) :
    Except Fault (Octets n) := do
  let bytes ← (items.take n).mapM readUInt8
  match Octets.ofList? n bytes with
  | none => .error (.wrongLength bytes.length s!"exactly {n} bytes")
  | some octets =>
      match items.drop n with
      | [] => .ok octets
      | next :: _ =>
          match readUInt8 next with
          | .ok _ => .error (.wrongLength (n + 1) s!"exactly {n} bytes")
          | .error _ => checkConsumed format items.length (n + 1) octets

/-- An address or a hash: hex text or a list of its bytes. -/
def readOctets (format : Format) (n : Nat) : Reader (Octets n) := fun v =>
  match v.items?, v with
  | some items, _ => readOctetList format n items
  | none, .text s => (Octets.ofText n s).mapError fun fault => .other fault.message
  | none, _ => .error (.wrongType v.shape (s!"{n} bytes, represented as a hex string of length " ++
      s!"{2 * n}, an array of u8, or raw bytes"))

def readBytes : Reader (List UInt8) := fun v =>
  match v.items?, v with
  | some items, _ => items.mapM readUInt8
  | none, .text s =>
      (Hex.decode (Text.bytes (Hex.withoutMarker s.toList))).mapError fun _ =>
        .wrongValue (.text s) "a valid hex string"
  | none, _ => .error (.wrongType v.shape
      "a variable number of bytes represented as a hex string, an array of u8, or raw bytes")

/-! ## Numbers of 256 bits -/

/-- The value of a digit in bases up to 36. -/
def digitOf? (c : Char) : Option Nat :=
  if '0' ≤ c ∧ c ≤ '9' then some (c.toNat - 48)
  else if 'a' ≤ c ∧ c ≤ 'z' then some (c.toNat - 87)
  else if 'A' ≤ c ∧ c ≤ 'Z' then some (c.toNat - 55)
  else none

/-- Continues a number of 256 bits with the digits that follow; underscores are
passed over. -/
def continueWord (base value : Nat) : List Char → Option Nat
  | [] => some value
  | c :: rest =>
      if c = '_' then continueWord base value rest
      else match digitOf? c with
        | none => none
        | some d =>
            if d < base ∧ base * value + d < Nat.pow 2 256 then
              continueWord base (base * value + d) rest
            else none

/-- Reads a number of 256 bits: decimal, or in the base that its marker names. -/
def word? : List Char → Option Nat
  | '0' :: marker :: rest =>
      if marker = 'x' ∨ marker = 'X' then continueWord 16 0 rest
      else if marker = 'o' ∨ marker = 'O' then continueWord 8 0 rest
      else if marker = 'b' ∨ marker = 'B' then continueWord 2 0 rest
      else continueWord 10 0 ('0' :: marker :: rest)
  | cs => continueWord 10 0 cs

/-- A number of 256 bits: text, or in JSON an integer that is not negative. -/
def readWord (format : Format) : Reader (BitVec 256) := fun v =>
  let wanted := "a 32 byte hex string"
  match v with
  | .text s =>
      match word? s.toList with
      | some n => .ok (.ofNat 256 n)
      | none => .error (.wrongValue (.text s) wanted)
  | .int n =>
      if format = .json ∧ 0 ≤ n then .ok (.ofNat 256 n.toNat)
      else .error (.wrongType (.int n) wanted)
  | _ => .error (.wrongType v.shape wanted)

/-! ## Records -/

/-- A field of a record: its name, and whether it has to be there when fields are
written by name and when they are written as a list. -/
structure Field where
  name : String
  named : Bool
  listed : Bool

def Field.required (name : String) : Field := ⟨name, true, true⟩

def Field.optional (name : String) : Field := ⟨name, false, false⟩

/-- A field that may be left out where fields have names, because its value may be
nothing, but keeps its place in a list. -/
def Field.nullable (name : String) : Field := ⟨name, false, true⟩

/-- How a record is laid out: its label in messages, its fields in the order of
declaration, and how a field's value is put into the draft. -/
structure Layout (δ : Type) where
  label : String
  fields : List Field
  put : δ → String → Value → Except Fault δ

namespace Layout

variable {δ : Type}

def names (r : Layout δ) : List String := r.fields.map (·.name)

/-- Puts the fields of a table into a draft, in order; unknown ones are passed over. -/
def putAll (r : Layout δ) (draft : δ) (fields : List (String × Value)) : Except Fault δ :=
  fields.foldlM (fun d (name, v) => if r.names.contains name then r.put d name v else .ok d) draft

/-- The record's length as messages give it. -/
def arity (r : Layout δ) : String :=
  s!"struct {r.label} with {r.fields.length} element" ++ if r.fields.length = 1 then "" else "s"

def read (r : Layout δ) (format : Format) (draft : δ) (v : Value) : Except Fault δ :=
  match v.fields?, v.items? with
  | some fields, _ => do
      let d ← r.putAll draft fields
      match r.fields.find? fun f => f.named && !(fields.map (·.1)).contains f.name with
      | some missing => .error (.missingField missing.name)
      | none => .ok d
  | none, some items => do
      let d ← r.putAll draft (r.names.zip items)
      match (r.fields.zipIdx.drop items.length).find? fun (f, _) => f.listed with
      | some (_, place) => .error (.wrongLength place r.arity)
      | none => checkConsumed format items.length r.fields.length d
  | none, none => .error (.wrongType v.shape s!"struct {r.label}")

end Layout

/-! ## Variants -/

/-- A choice between named variants: the bare name, or the name with a value. -/
def readVariant (format : Format) : Reader (String × Option Value) := fun v =>
  match v with
  | .text name => .ok (name, none)
  | .table [(name, payload)] => .ok (name, some payload)
  | .table fields =>
      match format with
      | .json => .error (.wrongValue .table "map with a single key")
      | .toml => .error (.other (if fields.isEmpty then
          "wanted exactly 1 element, found 0 elements"
        else "wanted exactly 1 element, more than 1 element"))
  | _ =>
      match format with
      | .json => .error (.wrongType v.shape "string or map")
      | .toml => .error (.other "wanted string or table")

end Rollout.Document
