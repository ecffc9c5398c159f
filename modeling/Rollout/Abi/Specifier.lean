/-
# Rollout.Abi.Specifier — how types are written

A type is written as a name or as a tuple of types, with brackets behind it: `[]` for
a list and `[n]` for an array of `n` elements.  The word `tuple` may stand in front of
a tuple, blanks before its members and its end, and a comma behind the last member.
`read` takes a whole text apart; when that fails, the fault tells where reading
stopped, and `Fault.message` points there.
-/
import Rollout.Number.Decimal

namespace Rollout.Abi

set_option autoImplicit false

/-- A type as it is written; its sizes are those in the brackets behind it. -/
inductive Specifier where
  | name (name : String) (sizes : List (Option Nat))
  | tuple (members : List Specifier) (sizes : List (Option Nat))

namespace Specifier

/-! ## Names -/

def startsName (c : Char) : Bool := c.isAlpha || c = '_' || c = '$'

def continuesName (c : Char) : Bool := startsName c || c.isDigit

def isName : List Char → Bool
  | [] => false
  | c :: rest => startsName c && rest.all continuesName

/-! ## Faults -/

/-- What keeps a text from being a type. -/
inductive Problem where
  | unexpected
  | expected (c : Char)
  | zeroSize
  | largeSize
  | deep
  deriving DecidableEq, Repr

def Problem.message : Problem → String
  | .unexpected => ""
  | .expected c => "expected \x60" ++ String.singleton c ++ "\x60"
  | .zeroSize => "number would be zero for non-zero type"
  | .largeSize => "number too large to fit in target type"
  | .deep => "recursion limit reached"

/-- Where reading stopped and why. -/
structure Fault where
  /-- The text that was not read. -/
  rest : List Char
  problem : Problem
  /-- Whether reading ends here, although a shorter type might do. -/
  isFinal : Bool
  deriving DecidableEq, Repr

/-- The line in which some text ends, counted from zero, and the number of its
characters. -/
def position (before : List Char) : Nat × Nat :=
  (before.count '\x0a', (before.reverse.takeWhile (· ≠ '\x0a')).length)

/-- A text of several lines, of which the one is shown in which reading stopped. -/
def pointIntoLines (cs rest : List Char) : String :=
  let before := cs.take (cs.length - rest.length)
  let (line, column) :=
    if rest.isEmpty then ((position before.dropLast).1, (position before.dropLast).2 + 1)
    else position before
  let number := toString (line + 1)
  let margin := String.ofList (List.replicate number.length ' ')
  s!"parse error at line {number}, column {column + 1}\n" ++ margin ++ " |\n" ++
    number ++ " | " ++ ((String.ofList cs).splitOn "\n").getD line "" ++ "\n" ++
    margin ++ " | " ++ String.ofList (List.replicate column ' ') ++ "^\n"

/-- A text with a mark below the place where reading stopped. -/
def pointInto (cs rest : List Char) : String :=
  if cs.contains '\x0a' then pointIntoLines cs rest
  else
    let offset := (String.ofList cs).utf8ByteSize - (String.ofList rest).utf8ByteSize
    String.ofList cs ++ "\n" ++ String.ofList (List.replicate offset ' ') ++ "^\n"

def Fault.message (text : String) (f : Fault) : String :=
  "parser error:\n" ++ pointInto text.toList f.rest ++ f.problem.message

/-! ## Sizes -/

/-- Takes something off the front of a text. -/
abbrev Front (α : Type) := List Char → Except Fault (α × List Char)

/-- The number between brackets, when there is one; `behind` is what follows it. -/
def length? (digits behind : List Char) : Except Fault (Option Nat) :=
  let n := Number.digitsValue digits
  if digits.isEmpty then .ok none
  else if n = 0 then .error ⟨behind, .zeroSize, false⟩
  else if n < Nat.pow 2 64 then .ok (some n)
  else .error ⟨behind, .largeSize, false⟩

/-- One pair of brackets. -/
def size : Front (Option Nat)
  | '[' :: rest => do
      let behind := rest.dropWhile Char.isDigit
      let length ← length? (rest.takeWhile Char.isDigit) behind
      match behind with
      | ']' :: rest => return (length, rest)
      | _ => throw ⟨behind, .expected ']', true⟩
  | cs => .error ⟨cs, .expected '[', false⟩

/-- The brackets that follow others; it is no fault if there are none. -/
def furtherSizes : (steps : Nat) → Front (List (Option Nat))
  | 0, cs => .ok ([], cs)
  | steps + 1, cs =>
      match size cs with
      | .ok (first, rest) =>
          (furtherSizes steps rest).map fun (others, rest) => (first :: others, rest)
      | .error fault => if fault.isFinal then .error fault else .ok ([], cs)

/-- All brackets behind a name or a tuple. -/
def sizes : Front (List (Option Nat)) := fun cs =>
  if cs.head? = some '[' then do
    let (first, rest) ← size cs
    let (others, rest) ← furtherSizes rest.length rest
    return (first :: others, rest)
  else .ok ([], cs)

/-! ## Names and tuples -/

/-- A name.  One with a full stop in it is an enumeration of another contract, whose
values are bytes. -/
def root : Front String
  | [] => .error ⟨[], .unexpected, false⟩
  | c :: rest =>
      if startsName c then
        match rest.dropWhile continuesName with
        | '.' :: rest => .ok ("uint8", rest.dropWhile continuesName)
        | others => .ok (String.ofList (c :: rest.takeWhile continuesName), others)
      else .error ⟨c :: rest, .unexpected, false⟩

def skipSpaces (cs : List Char) : List Char := cs.dropWhile fun c => c = ' ' || c = '\x09'

/-- The members of a tuple behind its first one, each behind a comma. -/
def furtherMembers (member : Front Specifier) : (steps : Nat) → Front (List Specifier)
  | steps + 1, ',' :: rest =>
      match member (skipSpaces rest) with
      | .ok (first, rest) =>
          (furtherMembers member steps rest).map fun (others, rest) => (first :: others, rest)
      | .error fault => if fault.isFinal then .error fault else .ok ([], ',' :: rest)
  | _, cs => .ok ([], cs)

/-- The members of a tuple behind its parenthesis. -/
def members (member : Front Specifier) : Front (List Specifier) := fun cs =>
  match skipSpaces cs with
  | ')' :: rest => .ok ([], rest)
  | cs => do
      let (first, rest) ← member cs
      let (others, rest) ← furtherMembers member rest.length rest
      let rest := match rest with
        | ',' :: rest => skipSpaces rest
        | _ => skipSpaces rest
      match rest with
      | ')' :: rest => return (first :: others, rest)
      | _ => throw ⟨rest, .expected ')', true⟩

/-- A type whose members are read with `member`. -/
def front (member : Front Specifier) : Front Specifier := fun cs =>
  let parenthesized (rest : List Char) : Except Fault (Specifier × List Char) := do
    let (ms, rest) ← members member rest
    let (ss, rest) ← sizes rest
    return (.tuple ms ss, rest)
  match cs with
  | '(' :: rest => parenthesized rest
  | 't' :: 'u' :: 'p' :: 'l' :: 'e' :: '(' :: rest => parenthesized rest
  | _ => do
      let (word, rest) ← root cs
      let (ss, rest) ← sizes rest
      return (.name word ss, rest)

/-- A type in which members nest at most so deep. -/
def nested : (depth : Nat) → Front Specifier
  | 0 => front fun cs => .error ⟨cs, .deep, true⟩
  | depth + 1 => front (nested depth)

def depthLimit : Nat := 79

def read (s : String) : Except Fault Specifier := do
  match ← nested depthLimit s.toList with
  | (specifier, []) => return specifier
  | (_, rest) => throw ⟨rest, .unexpected, true⟩

def outerSizes : Specifier → List (Option Nat)
  | .name _ sizes => sizes
  | .tuple _ sizes => sizes

end Specifier

end Rollout.Abi
