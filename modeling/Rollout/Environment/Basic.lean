/-
# Rollout.Environment.Basic — variables of the environment, and in a text

A variable that is set keeps its value: `define` only adds.  Values are texts: a variable whose
value is no UTF-8 is not in an environment and counts as one that is not set.

A reference is a name between `${` and `}`, with an optional text to fall back on behind `:-`.
A text is taken apart from left to right into references and single characters (`pieces`), and
every reference is replaced by its value (`splice`).  What is put in is not looked at again.

In place, the references are found first, each with the bytes that it takes up (`occurrences`),
and then their values are looked up.  They are put in from the last to the first, so that a
value that is longer or shorter than its reference leaves the places of those before it right
(`replaceVariables`).
-/

set_option autoImplicit false

namespace Rollout

/-- The values of the variables that are set. -/
structure Environment where
  definitions : List (String × String)
  deriving Inhabited

namespace Environment

/-- What a definition says of a name.  It is looked up in the text `NAME=value`, so that
a name may reach into the value: of `X=B=c` the name `X=B` has the value `c`. -/
def valueIn? (name : String) (definition : String × String) : Option String :=
  let text := definition.1.toList ++ '=' :: definition.2.toList
  let front := name.toList ++ ['=']
  if front.isPrefixOf text then some (String.ofList (text.drop front.length)) else none

/-- The value of a variable, in the first definition that has one. -/
def find? (env : Environment) (name : String) : Option String :=
  env.definitions.findSome? (valueIn? name)

def define (env : Environment) (name value : String) : Environment :=
  match env.find? name with
  | some _ => env
  | none => ⟨env.definitions ++ [(name, value)]⟩

/-! ## References -/

structure Reference where
  name : List Char
  fallback : Option (List Char)
  deriving DecidableEq, Repr

def nameLimit : Nat := 128

def fallbackLimit : Nat := 256

def startsName (c : Char) : Bool := ('A' ≤ c && c ≤ 'Z') || c = '_'

def continuesName (c : Char) : Bool := startsName c || c.isDigit

/-- Reads what follows a name: the end, or a fallback and the end. -/
def readFallback? (name : List Char) : List Char → Option Reference
  | '\x7d' :: _ => some ⟨name, none⟩
  | ':' :: '-' :: rest =>
      let window := rest.take (fallbackLimit + 1)
      let fallback := window.takeWhile (· ≠ '\x7d')
      if fallback.length < window.length then some ⟨name, some fallback⟩ else none
  | _ => none

def reference? : List Char → Option Reference
  | '$' :: '\x7b' :: c :: rest =>
      if startsName c then
        let name := c :: (rest.take (nameLimit - 1)).takeWhile continuesName
        readFallback? name (rest.drop (name.length - 1))
      else none
  | _ => none

def Reference.length (r : Reference) : Nat :=
  match r.fallback with
  | none => r.name.length + 3
  | some fallback => r.name.length + fallback.length + 5

inductive Piece where
  | plain (c : Char)
  | reference (r : Reference)
  deriving DecidableEq, Repr

/-- The pieces of a text behind its first `skip` characters, after those found so far,
which are in reverse. -/
def piecesFrom (found : List Piece) : (skip : Nat) → List Char → List Piece
  | _, [] => found.reverse
  | skip + 1, _ :: rest => piecesFrom found skip rest
  | 0, c :: rest =>
      match reference? (c :: rest) with
      | some r => piecesFrom (.reference r :: found) (r.length - 1) rest
      | none => piecesFrom (.plain c :: found) 0 rest

def pieces (cs : List Char) : List Piece := piecesFrom [] 0 cs

/-- What stands in place of a piece, or the name of a variable that is not set. -/
def Piece.value (env : Environment) : Piece → Except String (List Char)
  | .plain c => .ok [c]
  | .reference r =>
      match env.find? (String.ofList r.name), r.fallback with
      | some value, _ => .ok value.toList
      | none, some fallback => .ok fallback
      | none, none => .error (String.ofList r.name)

/-- Replaces every reference, or names the first variable that has no value. -/
def splice (env : Environment) (cs : List Char) : Except String (List Char) :=
  ((pieces cs).mapM (Piece.value env)).map List.flatten

/-! ## Places -/

def byteCount (cs : List Char) : Nat := cs.foldr (fun c count => c.utf8Size + count) 0

def Reference.byteCount (r : Reference) : Nat :=
  match r.fallback with
  | none => Environment.byteCount r.name + 3
  | some fallback => Environment.byteCount r.name + Environment.byteCount fallback + 5

/-- A reference in a text: its first byte and the byte behind its last one. -/
structure Occurrence where
  start : Nat
  stop : Nat
  reference : Reference
  deriving DecidableEq, Repr

/-- The references among pieces that stand behind `offset` bytes, after those found so
far, which are in reverse. -/
def occurrencesFrom (found : List Occurrence) : (offset : Nat) → List Piece → List Occurrence
  | _, [] => found.reverse
  | offset, .plain c :: rest => occurrencesFrom found (offset + c.utf8Size) rest
  | offset, .reference r :: rest =>
      occurrencesFrom (⟨offset, offset + r.byteCount, r⟩ :: found) (offset + r.byteCount) rest

def occurrences (cs : List Char) : List Occurrence := occurrencesFrom [] 0 (pieces cs)

/-! ## Replacing -/

/-- Moves the first `count` bytes of a text onto `front`, which is in reverse. -/
def cutBytes (front : List Char) : (count : Nat) → List Char → List Char × List Char
  | 0, cs => (front, cs)
  | _, [] => (front, [])
  | count, c :: rest => cutBytes (c :: front) (count - c.utf8Size) rest

/-- Puts a value in place of the bytes from `start` up to `stop`. -/
def replaceRange (start stop : Nat) (value cs : List Char) : List Char :=
  let (front, rest) := cutBytes [] start cs
  let (_, back) := cutBytes [] (stop - start) rest
  front.reverseAux (value ++ back)

structure Replacement where
  start : Nat
  stop : Nat
  value : List Char

/-- The replacement of an occurrence, or the name of a variable that is not set. -/
def Occurrence.replacement (env : Environment) (o : Occurrence) : Except String Replacement :=
  ((Piece.reference o.reference).value env).map (⟨o.start, o.stop, ·⟩)

def Replacement.apply (r : Replacement) (cs : List Char) : List Char :=
  replaceRange r.start r.stop r.value cs

/-- Replaces every reference, the last one first, or names the first variable that has no
value. -/
def replaceVariables (env : Environment) (cs : List Char) : Except String (List Char) := do
  let replacements ← (occurrences cs).mapM (Occurrence.replacement env)
  return replacements.foldr Replacement.apply cs

end Environment

end Rollout
