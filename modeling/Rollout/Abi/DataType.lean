/-
# Rollout.Abi.DataType — the types of constructor parameters

A type is a named one, a list or array of another, or a tuple.  `DataType.text`
writes it in messages, and `ofSpecifier` finds the type that an interface writes.  A
type that is well written need not exist: that is found only when a value is checked
against it.
-/
import Rollout.Abi.Specifier

namespace Rollout.Abi

set_option autoImplicit false

inductive DataType where
  | address
  | function
  | bool
  | string
  | bytes
  | uint (bits : Nat)
  | int (bits : Nat)
  | fixedBytes (length : Nat)
  /-- Any number of elements. -/
  | list (element : DataType)
  /-- A fixed number of elements. -/
  | array (element : DataType) (length : Nat)
  | tuple (members : List DataType)
  deriving Inhabited

namespace DataType

/-! ## Text -/

mutual

/-- The type as messages show it; a tuple of one keeps a comma. -/
def text : DataType → String
  | address => "address"
  | function => "function"
  | bool => "bool"
  | string => "string"
  | bytes => "bytes"
  | uint bits => "uint" ++ toString bits
  | int bits => "int" ++ toString bits
  | fixedBytes length => "bytes" ++ toString length
  | list element => element.text ++ "[]"
  | array element length => element.text ++ "[" ++ toString length ++ "]"
  | tuple [member] => "(" ++ member.text ++ ",)"
  | tuple members => "(" ++ ",".intercalate (texts members) ++ ")"

def texts : List DataType → List String
  | [] => []
  | first :: rest => first.text :: texts rest

end

/-! ## Types by name -/

/-- Why a text names no type. -/
inductive Fault where
  | unknown (name : String)
  | size (name : String)
  | malformed (text : String) (fault : Specifier.Fault)
  deriving DecidableEq, Repr

def Fault.message : Fault → String
  | .unknown name => "invalid type string: " ++ name
  | .size name => "invalid size for type: " ++ name
  | .malformed text fault => fault.message text

/-- The value of a text of decimal digits, when it has some and nothing else. -/
def number? (cs : List Char) : Option Nat :=
  if cs.isEmpty || !cs.all Char.isDigit then none else some (Number.digitsValue cs)

/-- The type with a name.  Widths of integers are multiples of eight up to 256,
lengths of byte strings go up to 32. -/
def ofName (name : String) : Except Fault DataType :=
  match name with
  | "address" => .ok address
  | "function" => .ok function
  | "bool" => .ok bool
  | "string" => .ok string
  | "bytes" => .ok bytes
  | "uint" => .ok (uint 256)
  | "int" => .ok (int 256)
  | _ =>
      match name.toList with
      | 'b' :: 'y' :: 't' :: 'e' :: 's' :: size =>
          sized fixedBytes (fun n => 0 < n ∧ n ≤ 32) size
      | 'u' :: 'i' :: 'n' :: 't' :: size => sized uint (fun n => 0 < n ∧ n ≤ 256 ∧ n % 8 = 0) size
      | 'i' :: 'n' :: 't' :: size => sized int (fun n => 0 < n ∧ n ≤ 256 ∧ n % 8 = 0) size
      | _ => .error (.unknown name)
where
  /-- A type of a size that is fit for it. -/
  sized (type : Nat → DataType) (fits : Nat → Bool) (size : List Char) : Except Fault DataType :=
    match number? size with
    | some n => if fits n then .ok (type n) else .error (.size name)
    | none => .error (.size name)

/-- The type with sizes behind it: a list or an array for each of them. -/
def withSizes (type : DataType) (sizes : List (Option Nat)) : DataType :=
  sizes.foldl (fun type size => size.elim (list type) (array type)) type

mutual

/-- The type that is written; the first name in it that is none is the fault. -/
def ofSpecifier : Specifier → Except Fault DataType
  | .name name sizes => (ofName name).map (·.withSizes sizes)
  | .tuple members sizes => (ofSpecifiers members).map fun ms => (tuple ms).withSizes sizes

def ofSpecifiers : List Specifier → Except Fault (List DataType)
  | [] => .ok []
  | first :: rest => do return (← ofSpecifier first) :: (← ofSpecifiers rest)

end

end DataType

end Rollout.Abi
