/-
# Rollout.Toml.Reader — TOML texts as values

A document is a sequence of expressions, one to a line: key and value, the header
of a table, or the header of an element of an array of tables.  Blank lines and
comments between them say nothing.  `expressions?` takes a text apart and
`Entries` put it together; a text that is malformed or gives one name twice has
no value.
-/
import Rollout.Toml.Number
import Rollout.Toml.Table

namespace Rollout.Toml

open Document (Value)

set_option autoImplicit false

/-! ## Values -/

/-- How deep arrays and inline tables may nest, and how many parts a key may have. -/
def depthLimit : Nat := 79

/-- The items of an array behind its bracket, the last of those before first.  A comma
may follow the last one. -/
def arrayRest (value : Front Value) : (steps : Nat) → (read : List Value) → Front Value
  | 0, _, _ => none
  | steps + 1, read, cs =>
      match skipLines steps cs with
      | ']' :: rest => some (.list read.reverse, rest)
      | cs => do
          let (v, rest) ← value cs
          match skipLines steps rest with
          | ',' :: rest => arrayRest value steps (v :: read) rest
          | ']' :: rest => some (.list (v :: read).reverse, rest)
          | _ => none

/-- A key with its value: the leading parts, the last part and the value. -/
structure Pair where
  path : List String
  name : String
  value : Value

def pair (value : Front Value) : Front Pair := fun cs => do
  let (parts, rest) ← key depthLimit cs
  match rest with
  | '=' :: rest =>
      let (v, rest) ← value (skipSpaces rest)
      return (⟨parts.dropLast, parts.getLastD "", v⟩, rest)
  | _ => none

/-- The pairs of an inline table behind its brace, which stand on one line. -/
def tableRest (value : Front Value) : (steps : Nat) → Entries → Front Value
  | 0, _, _ => none
  | steps + 1, entries, cs => do
      let (p, rest) ← pair value cs
      let entries ← entries.putDotted p.path p.name p.value
      match skipSpaces rest with
      | ',' :: rest => tableRest value steps entries rest
      | '\x7d' :: rest => some (.table (documents entries), rest)
      | _ => none

/-- A value, in which arrays and inline tables nest at most so deep. -/
def value : (depth : Nat) → Front Value
  | depth, '[' :: rest =>
      match depth with
      | 0 => none
      | depth + 1 => arrayRest (value depth) (rest.length + 2) [] rest
  | depth, '\x7b' :: rest =>
      match depth with
      | 0 => none
      | depth + 1 =>
          match skipSpaces rest with
          | '\x7d' :: rest => some (.table [], rest)
          | rest => tableRest (value depth) (rest.length + 2) [] rest
  | _, 't' :: 'r' :: 'u' :: 'e' :: rest => some (.bool true, rest)
  | _, 'f' :: 'a' :: 'l' :: 's' :: 'e' :: rest => some (.bool false, rest)
  | _, c :: rest =>
      if c = '\x22' ∨ c = '\x27' then (string (c :: rest)).map fun (s, rest) => (.text s, rest)
      else number (c :: rest)
  | _, [] => none

/-! ## Expressions -/

inductive Expression where
  | pair (p : Pair)
  | table (path : List String) (name : String)
  | element (path : List String) (name : String)

/-- A header behind its opening bracket or brackets, `close` of which end it. -/
def header (close : List Char) : Front (List String × String) := fun cs => do
  let (parts, rest) ← key depthLimit cs
  if close.isPrefixOf rest then return ((parts.dropLast, parts.getLastD ""), rest.drop close.length)
  else none

def expression : Front Expression
  | '[' :: '[' :: rest => (header [']', ']'] rest).map fun ((path, name), rest) =>
      (.element path name, rest)
  | '[' :: rest => (header [']'] rest).map fun ((path, name), rest) => (.table path name, rest)
  | cs => (pair (value depthLimit) cs).map fun (p, rest) => (.pair p, rest)

/-- The expressions of a text, behind those read before, which are in reverse. -/
def expressionsFrom : (steps : Nat) → (read : List Expression) → List Char →
    Option (List Expression)
  | 0, _, _ => none
  | steps + 1, read, cs =>
      match skipLines steps cs with
      | [] => some read.reverse
      | '#' :: rest => if (rest.dropWhile isPlain).isEmpty then some read.reverse else none
      | cs => do
          let (e, rest) ← expression cs
          expressionsFrom steps (e :: read) (← endLine? rest)

/-- The expressions of a text, which may start with a byte order mark. -/
def expressions? (cs : List Char) : Option (List Expression) :=
  let cs := match cs with
    | '\ufeff' :: rest => rest
    | _ => cs
  expressionsFrom (cs.length + 2) [] cs

/-! ## Documents -/

/-- A document under construction: its entries and the table that is open. -/
structure Draft where
  entries : Entries := []
  table : List String := []

def Draft.add (d : Draft) : Expression → Option Draft
  | .pair p => (d.entries.putAt d.table p.path p.name p.value).map fun entries =>
      { d with entries := entries }
  | .table path name => (d.entries.openTable path name).map fun entries =>
      ⟨entries, path ++ [name]⟩
  | .element path name => (d.entries.openElement path name).map fun entries =>
      ⟨entries, path ++ [name]⟩

def ofExpressions? (es : List Expression) : Option Value :=
  (es.foldlM Draft.add {}).map fun d => .table (documents d.entries)

def read? (text : String) : Option Value := do
  ofExpressions? (← expressions? text.toList)

end Rollout.Toml
