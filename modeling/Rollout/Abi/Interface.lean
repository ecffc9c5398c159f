/-
# Rollout.Abi.Interface — what an interface says about the constructor

The interface of a contract is a list of described items, of which at most one
is the constructor.  Of every item the shape is checked; what is kept is the
types of the constructor's parameters (`Interface.read?`).  Functions, events, errors,
the fallback, the receiving function and the names of parameters are read and left
out: nothing that deploys asks for them.  `Interface.encode` checks arguments against
the types and encodes them.
-/
import Rollout.Abi.Value
import Rollout.Document

namespace Rollout.Abi

set_option autoImplicit false

/-- A parameter: its type as the interface writes it, and the type that is, unless
there is none of that name. -/
structure Parameter where
  text : String
  type : Except DataType.Fault DataType

/-- The parameters of the constructor, when one is declared. -/
structure Interface where
  constructor : Option (List Parameter) := none

def Interface.empty : Interface := {}

/-! ## Records -/

def elements? : Document.Value → Option (List Document.Value)
  | .list items => some items
  | _ => none

/-- Whether some names are each met at most once. -/
def once (names : List String) (fields : List (String × Document.Value)) : Bool :=
  names.all fun name => fields.countP (·.1 = name) ≤ 1

/-- The fields of a record, by name or as a list in the order of the names. -/
def record? (names : List String) : Document.Value → Option (List (String × Document.Value))
  | .table fields => if once names fields then some fields else none
  | .list items => if items.length ≤ names.length then some (names.zip items) else none
  | _ => none

/-- Whether a field is a name; an empty one will do. -/
def isName : Option Document.Value → Bool
  | some (.text s) => s.isEmpty || Specifier.isName s.toList
  | _ => false

def isAbsent : Option Document.Value → Bool
  | none => true
  | some .null => true
  | _ => false

def isText : Option Document.Value → Bool
  | some (.text _) => true
  | _ => false

def isFlag : Option Document.Value → Bool
  | some (.bool _) => true
  | _ => false

def isSet : Option Document.Value → Bool
  | some (.bool b) => b
  | _ => false

/-! ## Parameters -/

def Parameter.fields : List String := ["name", "type", "indexed", "internalType", "components"]

/-- A tuple of members, with the sizes that the text of its type gives. -/
def tupleType (text : String) (members : Except DataType.Fault (List DataType)) :
    Except DataType.Fault DataType := do
  let specifier ← (Specifier.read text).mapError (.malformed text)
  return (DataType.tuple (← members)).withSizes specifier.outerSizes

/-- Reads a parameter, nested at most so many levels deep; one with components is
a tuple of them.  Only a parameter of an event may say whether it is indexed. -/
def Parameter.read? : (levels : Nat) → (ofEvent : Bool) → Document.Value → Option Parameter
  | 0, _, _ => none
  | levels + 1, ofEvent, v => do
      let fields ← record? Parameter.fields v
      let name := fields.lookup "name"
      let indexed := fields.lookup "indexed"
      let internalType := fields.lookup "internalType"
      let components ← ((fields.lookup "components").elim (some []) elements?)
      if (name.isNone || isName name) && (isAbsent indexed || ofEvent && isFlag indexed) &&
          (isAbsent internalType || isText internalType) then
        let text ← (fields.lookup "type").bind Document.Value.text?
        match components, text.toList with
        | [], _ =>
            match Specifier.read text with
            | .ok specifier => some ⟨text, DataType.ofSpecifier specifier⟩
            | .error _ => none
        | _, 't' :: 'u' :: 'p' :: 'l' :: 'e' :: suffix => do
            let members ← components.mapM (Parameter.read? levels false)
            some ⟨"(" ++ ",".intercalate (members.map (·.text)) ++ ")" ++ String.ofList suffix,
              tupleType text (members.mapM (·.type))⟩
        | _, _ => none
      else none

/-- Documents nest no deeper than this. -/
def Parameter.levels : Nat := 128

def parameters? (ofEvent : Bool) (field : Option Document.Value) : Option (List Parameter) := do
  (← elements? (← field)).mapM (Parameter.read? Parameter.levels ofEvent)

/-! ## Items -/

def mutabilities : List String := ["pure", "view", "nonpayable", "payable"]

/-- Whether a value is a way to touch the state: its name, or its name with nothing. -/
def isMutability : Document.Value → Bool
  | .text s => mutabilities.contains s
  | .table [(s, .null)] => mutabilities.contains s
  | .table [(s, .table [])] => mutabilities.contains s
  | _ => false

/-- Whether an item says well how it touches the state: in one word, or by two flags
of which one at most is set. -/
def mutabilityFits (fields : List (String × Document.Value)) : Bool :=
  let word := fields.lookup "stateMutability"
  let payable := fields.lookup "payable"
  let constant := fields.lookup "constant"
  (isAbsent payable || isFlag payable) && (isAbsent constant || isFlag constant) &&
    if isAbsent word then !(isSet payable && isSet constant) else word.any isMutability

inductive Item where
  | constructor (parameters : List Parameter)
  | fallback
  | receive
  | named

/-- The fields of an item that is called, besides those that all such items have. -/
def callFields (fields : List String) : List String :=
  fields ++ ["stateMutability", "payable", "constant"]

/-- Reads an item of a kind that is given as a table only. -/
def Item.readCalled? (kind : String) (fields : List (String × Document.Value)) : Option Item :=
  let fits (names : List String) := once (callFields names) fields && mutabilityFits fields
  match kind with
  | "constructor" =>
      if fits ["inputs"] then (parameters? false (fields.lookup "inputs")).map .constructor
      else none
  | "fallback" => if fits [] then some .fallback else none
  | "receive" => if fits [] then some .receive else none
  | "function" =>
      if fits ["name", "inputs", "outputs"] && isName (fields.lookup "name") then do
        let _ ← parameters? false (fields.lookup "inputs")
        let _ ← parameters? false (fields.lookup "outputs")
        some .named
      else none
  | _ => none

/-- Reads an item of a kind that is given as a table or a list. -/
def Item.readSignalled? (kind : String) (v : Document.Value) : Option Item :=
  match kind with
  | "event" => do
      let fields ← record? ["name", "inputs", "anonymous"] v
      let _ ← parameters? true (fields.lookup "inputs")
      if isName (fields.lookup "name") && isFlag (fields.lookup "anonymous") then some .named
      else none
  | "error" => do
      let fields ← record? ["name", "inputs"] v
      let _ ← parameters? false (fields.lookup "inputs")
      if isName (fields.lookup "name") then some .named else none
  | _ => none

/-- Reads one item; its kind stands in a field or at the front of a list. -/
def Item.read? : Document.Value → Option Item
  | .table fields =>
      let others := fields.filter fun field => field.1 ≠ "type"
      match fields.lookup "type" with
      | some (.text kind) =>
          if once ["type"] fields then
            (Item.readCalled? kind others).or (Item.readSignalled? kind (.table others))
          else none
      | _ => none
  | .list (.text kind :: others) => Item.readSignalled? kind (.list others)
  | _ => none

/-- The lists of parameters of the constructors among some items. -/
def constructors (items : List Item) : List (List Parameter) :=
  items.filterMap fun
    | .constructor parameters => some parameters
    | _ => none

def Item.isFallback : Item → Bool
  | .fallback => true
  | _ => false

def Item.isReceive : Item → Bool
  | .receive => true
  | _ => false

/-- Reads an interface: a list of items, with one constructor, one fallback and
one receiver at most. -/
def Interface.read? (v : Document.Value) : Option Interface := do
  let items ← (← elements? v).mapM Item.read?
  if items.countP Item.isFallback ≤ 1 ∧ items.countP Item.isReceive ≤ 1 then
    match constructors items with
    | [] => some {}
    | [parameters] => some ⟨some parameters⟩
    | _ => none
  else none

/-! ## Encoding arguments -/

/-- Why arguments cannot be encoded. -/
inductive Fault where
  | noConstructor (given : Nat)
  | wrongCount (declared given : Nat)
  | unusableType (fault : DataType.Fault)
  | wrongType (declared given : String)
  deriving DecidableEq

def Fault.message : Fault → String
  | .noConstructor given =>
      s!"{given} constructor arguments given but the ABI declares no constructor"
  | .wrongCount declared given =>
      s!"encode length mismatch: expected {declared} types, got {given}"
  | .unusableType fault => fault.message
  | .wrongType declared given =>
      "type mismatch: expected type \"" ++ declared ++ "\", got value with type \"" ++ given ++ "\""

/-- Checks values against parameters from left to right. -/
def checkTypes : List Parameter → List Abi.Value → Except Fault Unit
  | p :: parameters, v :: values =>
      match p.type with
      | .error fault => .error (.unusableType fault)
      | .ok type =>
          if type.accepts v then checkTypes parameters values
          else .error (.wrongType type.text v.typeText)
  | _, _ => .ok ()

/-- Encodes the arguments of the constructor: their number is checked first, then
each against its type. -/
def Interface.encode (i : Interface) (values : List Abi.Value) : Except Fault (List UInt8) :=
  match i.constructor with
  | some parameters =>
      if values.length = parameters.length then
        (checkTypes parameters values).map fun _ => Abi.encode values
      else .error (.wrongCount parameters.length values.length)
  | none => if values.isEmpty then .ok [] else .error (.noConstructor values.length)

end Rollout.Abi
