/-
# Rollout.Toml.Table — tables as they grow while a TOML text is read

A table keeps how it came to be, because that decides what may still be added to
it: one with a header of its own is never opened again, one that dotted keys made
is only extended by dotted keys, and one that is there only because a header
below it was met may still get its own header.
-/
import Rollout.Document

namespace Rollout.Toml

open Document (Value)

set_option autoImplicit false

/-- How a table came to be. -/
inductive Origin where
  /-- It has a header, is the whole document, or an element of an array of tables. -/
  | header
  /-- A header below it was met. -/
  | implied
  /-- Dotted keys lead through it. -/
  | dotted
  deriving DecidableEq, Repr

inductive Node where
  | value (v : Value)
  | table (origin : Origin) (entries : List (String × Node))
  /-- An array of tables, each with its entries. -/
  | tables (elements : List (List (String × Node)))
  deriving Inhabited

/-- The entries of a table, in the order in which they were put there. -/
abbrev Entries := List (String × Node)

namespace Entries

/-- Replaces the node under a name, or appends it. -/
def set (name : String) (node : Node) : Entries → Entries
  | [] => [(name, node)]
  | (other, kept) :: rest =>
      if other = name then (name, node) :: rest else (other, kept) :: set name node rest

def erase (name : String) (entries : Entries) : Entries :=
  entries.filter fun e => e.1 ≠ name

/-- A change of the entries of a table, given how the table came to be. -/
abbrev Change := Origin → Entries → Option Entries

def changeLast (change : Entries → Option Entries) : List Entries → Option (List Entries)
  | [] => none
  | [last] => (change last).map ([·])
  | first :: rest => (changeLast change rest).map (first :: ·)

/-- Changes the table at a path.  Tables on the way that are not there yet are made
with the origin `made`; in an array of tables the last one counts.  A path of
dotted keys does not lead through tables that have a header. -/
def changeAt (made : Origin) (change : Change) : (path : List String) → Change
  | [], origin, entries => change origin entries
  | name :: rest, _, entries =>
      match List.lookup name entries with
      | none => (changeAt made change rest made []).map fun inner =>
          entries ++ [(name, .table made inner)]
      | some (.value _) => none
      | some (.tables elements) =>
          (changeLast (changeAt made change rest .header) elements).map fun elements =>
            set name (.tables elements) entries
      | some (.table origin inner) =>
          if made = .dotted ∧ origin = .header then none
          else (changeAt made change rest origin inner).map fun inner =>
            set name (.table origin inner) entries

/-- Puts a value under a name that is free. -/
def put (name : String) (v : Value) : Entries → Option Entries := fun entries =>
  match List.lookup name entries with
  | none => some (entries ++ [(name, .value v)])
  | some _ => none

/-- Puts a value under a dotted key.  Dotted keys extend no table that headers made. -/
def putDotted (path : List String) (name : String) (v : Value) (entries : Entries) :
    Option Entries :=
  changeAt .dotted (fun origin inner =>
    if path.isEmpty || origin = .dotted then put name v inner else none) path .header entries

/-- Opens the table with a header.  One that was implied moves to the end of its
parent. -/
def openTable (path : List String) (name : String) (entries : Entries) : Option Entries :=
  changeAt .implied (fun _ inner =>
    match List.lookup name inner with
    | none => some (inner ++ [(name, .table .header [])])
    | some (.table .implied kept) => some (erase name inner ++ [(name, .table .header kept)])
    | some _ => none) path .header entries

def openElement (path : List String) (name : String) (entries : Entries) : Option Entries :=
  changeAt .implied (fun _ inner =>
    match List.lookup name inner with
    | none => some (inner ++ [(name, .tables [[]])])
    | some (.tables elements) => some (set name (.tables (elements ++ [[]])) inner)
    | some _ => none) path .header entries

/-- Puts a value under a dotted key of the table at a path. -/
def putAt (table path : List String) (name : String) (v : Value) (entries : Entries) :
    Option Entries :=
  changeAt .implied (fun _ inner => putDotted path name v inner) table .header entries

end Entries

mutual

def Node.document : Node → Value
  | .value v => v
  | .table _ entries => .table (documents entries)
  | .tables elements => .tables (elementDocuments elements)

def documents : List (String × Node) → List (String × Value)
  | [] => []
  | (name, node) :: rest => (name, node.document) :: documents rest

def elementDocuments : List (List (String × Node)) → List Value
  | [] => []
  | entries :: rest => .table (documents entries) :: elementDocuments rest

end

end Rollout.Toml
