/-
# Rollout.Toml.Text — strings, keys and blanks of TOML

Every reader takes the front of a text and gives what it read with the rest.
Strings stand between one or three quotes of either kind; the double quotes
allow escapes.  A key is one or more bare or quoted parts with dots between.
-/

namespace Rollout.Toml

set_option autoImplicit false

/-- A reader of the front of a text. -/
abbrev Front (α : Type) := List Char → Option (α × List Char)

/-! ## Blanks -/

def isSpace (c : Char) : Bool := c = ' ' || c = '\x09'

def skipSpaces (cs : List Char) : List Char := cs.dropWhile isSpace

/-- Whether a character may stand in a comment or a string: all but the controls,
of which the tab is allowed. -/
def isPlain (c : Char) : Bool :=
  c = '\x09' || (0x20 ≤ c.toNat && c.toNat ≠ 0x7F)

/-- What follows a line end at the front. -/
def newline? : List Char → Option (List Char)
  | '\x0a' :: rest => some rest
  | '\x0d' :: '\x0a' :: rest => some rest
  | _ => none

/-- What follows a comment at the front; without one nothing is skipped. -/
def skipComment : List Char → List Char
  | '#' :: rest => rest.dropWhile isPlain
  | cs => cs

/-- What follows spaces, an optional comment and the end of the line; the end of the
text ends a line too. -/
def endLine? (cs : List Char) : Option (List Char) :=
  match skipComment (skipSpaces cs) with
  | [] => some []
  | rest => newline? rest

/-- Skips spaces, comments and line ends, at most so many lines. -/
def skipLines : Nat → List Char → List Char
  | 0, cs => cs
  | lines + 1, cs =>
      let after := skipSpaces cs
      match newline? (skipComment after) with
      | some rest => skipLines lines rest
      | none => after

/-! ## Strings -/

def hexValue? (c : Char) : Option Nat :=
  if '0' ≤ c ∧ c ≤ '9' then some (c.toNat - 48)
  else if 'a' ≤ c ∧ c ≤ 'f' then some (c.toNat - 87)
  else if 'A' ≤ c ∧ c ≤ 'F' then some (c.toNat - 55)
  else none

/-- The character whose number stands in so many hex digits at the front. -/
def codePoint (count : Nat) : Front Char := fun cs => do
  let digits := cs.take count
  if digits.length < count then none
  else
    let n ← digits.foldlM (fun n c => (hexValue? c).map (16 * n + ·)) 0
    if h : n.isValidChar then return (Char.ofNatAux n h, cs.drop count) else none

/-- The character that the rest of an escape stands for. -/
def escaped : Front Char
  | 'b' :: rest => some ('\x08', rest)
  | 't' :: rest => some ('\x09', rest)
  | 'n' :: rest => some ('\x0a', rest)
  | 'f' :: rest => some ('\x0c', rest)
  | 'r' :: rest => some ('\x0d', rest)
  | 'u' :: rest => codePoint 4 rest
  | 'U' :: rest => codePoint 8 rest
  | c :: rest => if c = '\x22' ∨ c = '\x5c' then some (c, rest) else none
  | [] => none

/-- The rest of a string between double quotes; `read` is what came before, in reverse. -/
def basicRest : (steps : Nat) → (read : List Char) → Front String
  | steps + 1, read, c :: rest =>
      if c = '\x22' then some (String.ofList read.reverse, rest)
      else if c = '\x5c' then
        match escaped rest with
        | some (e, rest) => basicRest steps (e :: read) rest
        | none => none
      else if isPlain c then basicRest steps (c :: read) rest
      else none
  | _, _, _ => none

def literalRest : Front String := fun cs =>
  match cs.dropWhile fun c => isPlain c && c ≠ '\x27' with
  | '\x27' :: rest =>
      some (String.ofList (cs.takeWhile fun c => isPlain c && c ≠ '\x27'), rest)
  | _ => none

/-- How many marks stand at the front, counted up to five. -/
def countMarks (mark : Char) (cs : List Char) : Nat :=
  ((cs.take 5).takeWhile (· = mark)).length

/-- Skips spaces and line ends, at most so many lines. -/
def skipBlankLines : Nat → List Char → List Char
  | 0, cs => cs
  | lines + 1, cs =>
      match newline? (skipSpaces cs) with
      | some rest => skipBlankLines lines rest
      | none => skipSpaces cs

/-- What follows a backslash that ends a line: the blanks up to the next character are
passed over. -/
def joinedLine? (cs : List Char) : Option (List Char) :=
  (newline? (skipSpaces cs)).map fun rest => skipBlankLines rest.length rest

/-- The rest of a string over several lines between three marks.  Up to two marks may
stand before the three that close it.  Line ends are read as line feeds; escapes are
read between double quotes only. -/
def linesRest (mark : Char) : (steps : Nat) → (read : List Char) → Front String
  | steps + 1, read, c :: rest =>
      if c = mark then
        let marks := countMarks mark (c :: rest)
        if 3 ≤ marks then
          some (String.ofList (List.replicate (marks - 3) mark ++ read).reverse,
            (c :: rest).drop marks)
        else linesRest mark steps (c :: read) rest
      else if c = '\x5c' ∧ mark = '\x22' then
        match joinedLine? rest with
        | some after => linesRest mark steps read after
        | none =>
            match escaped rest with
            | some (e, rest) => linesRest mark steps (e :: read) rest
            | none => none
      else match newline? (c :: rest) with
        | some rest => linesRest mark steps ('\x0a' :: read) rest
        | none => if isPlain c then linesRest mark steps (c :: read) rest else none
  | _, _, _ => none

/-- A string over several lines behind its opening marks; a line end right there does
not belong to it. -/
def linesString (mark : Char) : Front String := fun cs =>
  let body := (newline? cs).getD cs
  linesRest mark body.length [] body

def lineString : Front String
  | '\x22' :: rest => basicRest ((rest.takeWhile (· ≠ '\x0a')).length + 1) [] rest
  | '\x27' :: rest => literalRest rest
  | _ => none

def string : Front String
  | '\x22' :: '\x22' :: '\x22' :: rest => linesString '\x22' rest
  | '\x27' :: '\x27' :: '\x27' :: rest => linesString '\x27' rest
  | cs => lineString cs

/-! ## Keys -/

def isBare (c : Char) : Bool := c.isAlphanum || c = '_' || c = '-'

def keyPart : Front String := fun cs => do
  let cs := skipSpaces cs
  let (part, rest) ←
    if (cs.takeWhile isBare).isEmpty then lineString cs
    else some (String.ofList (cs.takeWhile isBare), cs.dropWhile isBare)
  return (part, skipSpaces rest)

def key : (most : Nat) → Front (List String)
  | 0, _ => none
  | most + 1, cs => do
      let (part, rest) ← keyPart cs
      match rest with
      | '.' :: rest =>
          let (parts, rest) ← key most rest
          return (part :: parts, rest)
      | _ => return ([part], rest)

end Rollout.Toml
