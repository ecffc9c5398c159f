/-
# Rollout.Environment.Dotenv — variables kept in a file

Each line of the file defines a variable: `NAME=value`, optionally behind
`export`.  Quoted values may go on over several lines, and values may refer to
variables.  `load` defines what the lines say up to the first one that is
malformed; a variable that is set already keeps its value.
-/
import Rollout.Environment.Basic
import Rollout.Text.Basic
import Rollout.Text.Word

namespace Rollout.Environment.Dotenv

set_option autoImplicit false

/-! ## Lines -/

/-- Where the reading of a line stands, as far as it decides whether the line ends. -/
inductive LineState where
  | complete
  | blank
  | escape
  | strong
  | strongEscape
  | weak
  | weakEscape
  | comment
  deriving DecidableEq, Repr

def LineState.next (c : Char) : LineState → LineState
  | .blank =>
      if c = '#' then .comment
      else if c = '\x5c' then .escape
      else if c = '\x22' then .weak
      else if c = '\x27' then .strong
      else .complete
  | .complete =>
      if c = '\x5c' then .escape
      else if c = '\x22' then .weak
      else if c = '\x27' then .strong
      else if Text.isBlank c && c ≠ '\x0a' && c ≠ '\x0d' then .blank
      else .complete
  | .escape => .complete
  | .weak => if c = '\x5c' then .weakEscape else if c = '\x22' then .complete else .weak
  | .weakEscape => .weak
  | .strong => if c = '\x5c' then .strongEscape else if c = '\x27' then .complete else .strong
  | .strongEscape => .strong
  | .comment => .comment

/-- Reads on from a state to the end of the line or the start of a comment; what was
read, in reverse, is kept without the comment's mark. -/
def scan (read : List Char) : LineState → List Char → List Char × LineState
  | state, [] => (read, state)
  | state, c :: rest =>
      match state.next c with
      | .comment => (read, .comment)
      | next => scan (c :: read) next rest

inductive Progress where
  /-- A line to be read. -/
  | line (text : List Char)
  /-- The next physical line belongs to this one. -/
  | more (read : List Char) (state : LineState)

/-- A line without the line end it closes with; `read` is in reverse. -/
def withoutEnd (read : List Char) : List Char :=
  match read with
  | '\x0a' :: '\x0d' :: rest => rest.reverse
  | '\x0a' :: rest => rest.reverse
  | _ => read.reverse

def addLine (read : List Char) (state : LineState) (text : List Char) : Progress :=
  let whole := read.reverse ++ text
  if (whole.dropWhile Text.isBlank).head? = some '#' then .line []
  else match scan read state text with
    | (read, .comment) => .line read.reverse
    | (read, .complete) => .line (withoutEnd read)
    | (read, state) => .more read state

/-! ## Values -/

/-- Where the reading of a value stands.  `quoted` tells whether double quotes are
open. -/
inductive Mode where
  | base (quoted : Bool)
  | escaped (quoted : Bool)
  | strong
  /-- Behind a dollar sign; the name so far is in reverse. -/
  | variable (quoted : Bool) (name : List Char)
  /-- Behind a dollar sign and a brace. -/
  | braced (quoted : Bool) (name : List Char)
  /-- Behind a blank: only blanks or a comment may follow. -/
  | ending
  | comment

structure Draft where
  mode : Mode
  output : List Char

/-- Appends the value of a variable, whose name is in reverse. -/
def substitute (env : Environment) (name output : List Char) : List Char :=
  ((env.find? (String.ofList name.reverse)).getD "").toList.reverse ++ output

def escape? (c : Char) : Option Char :=
  if c = '\x5c' ∨ c = '\x27' ∨ c = '\x22' ∨ c = '$' ∨ c = ' ' then some c
  else if c = 'n' then some '\x0a'
  else none

def baseStep (quoted : Bool) (output : List Char) (c : Char) : Draft :=
  if c = '$' then ⟨.variable quoted [], output⟩
  else if c = '\x5c' then ⟨.escaped quoted, output⟩
  else if c = '\x22' then ⟨.base (!quoted), output⟩
  else if quoted then ⟨.base true, c :: output⟩
  else if c = '\x27' then ⟨.strong, output⟩
  else if c = ' ' ∨ c = '\x09' then ⟨.ending, output⟩
  else ⟨.base false, c :: output⟩

def step (env : Environment) (d : Draft) (c : Char) : Option Draft :=
  match d.mode with
  | .base quoted => some (baseStep quoted d.output c)
  | .escaped quoted => (escape? c).map fun e => ⟨.base quoted, e :: d.output⟩
  | .strong => some (if c = '\x27' then ⟨.base false, d.output⟩ else ⟨.strong, c :: d.output⟩)
  | .variable quoted name =>
      if Text.isWord c then some ⟨.variable quoted (c :: name), d.output⟩
      else if c = '\x7b' ∧ name.isEmpty then some ⟨.braced quoted [], d.output⟩
      else
        let output := substitute env name d.output
        some (if c = '$' then ⟨.variable quoted [], output⟩ else ⟨.base quoted, c :: output⟩)
  | .braced quoted name =>
      some (if c = '\x7d' then ⟨.base quoted, substitute env name d.output⟩
        else ⟨.braced quoted (c :: name), d.output⟩)
  | .ending =>
      if c = ' ' ∨ c = '\x09' then some d
      else if c = '#' then some { d with mode := .comment }
      else none
  | .comment => some d

/-- The value at its end: quotes and braces have to be closed. -/
def finish (env : Environment) (d : Draft) : Option (List Char) :=
  match d.mode with
  | .base true => none
  | .escaped true => none
  | .strong => none
  | .variable true _ => none
  | .braced _ _ => none
  | .variable false name => some (substitute env name d.output).reverse
  | _ => some d.output.reverse

def value? (env : Environment) (cs : List Char) : Option (List Char) := do
  finish env (← cs.foldlM (step env) ⟨.base false, []⟩)

/-! ## Definitions -/

def skipBlank (cs : List Char) : List Char := cs.dropWhile Text.isBlank

def name? (cs : List Char) : Option (List Char × List Char) :=
  let isPart (c : Char) := c.isAlphanum || c = '_' || c = '.'
  if cs.head?.any fun c => c.isAlpha || c = '_' then
    some (cs.takeWhile isPart, skipBlank (cs.dropWhile isPart))
  else none

/-- What follows an equals sign and blanks. -/
def assigned? : List Char → Option (List Char)
  | '=' :: rest => some (skipBlank rest)
  | _ => none

/-- A name and the text assigned to it; `export` may stand before the name. -/
def assignment? (cs : List Char) : Option (List Char × List Char) := do
  let (name, rest) ← name? cs
  match assigned? rest with
  | some text => return (name, text)
  | none =>
      if name = "export".toList then
        let (name, rest) ← name? rest
        return (name, ← assigned? rest)
      else none

/-- Defines what a line says; nothing in an empty line or a comment. -/
def define? (env : Environment) (line : List Char) : Option Environment :=
  match skipBlank (Text.dropEnd Text.isBlank line) with
  | [] => some env
  | '#' :: _ => some env
  | cs => do
      let (name, text) ← assignment? cs
      let value ← if text.isEmpty || text.head? = some '#' then some [] else value? env text
      return env.define (String.ofList name) (String.ofList value)

/-! ## Files -/

def physicalLines (content : List UInt8) : List (List UInt8) :=
  let step (b : UInt8) (lines : List (List UInt8)) : List (List UInt8) :=
    match lines with
    | [] => [[b]]
    | line :: rest => if b = 10 then [b] :: line :: rest else (b :: line) :: rest
  content.foldr step []

def decode? (bytes : List UInt8) : Option (List Char) :=
  (String.fromUTF8? (ByteArray.mk bytes.toArray)).map String.toList

/-- Defines what lines say up to the first that is malformed, that is not text, or that
the file ends in the middle of. -/
def loadLines (env : Environment) (read : List Char) (state : LineState) :
    List (List UInt8) → Environment
  | [] => env
  | bytes :: rest =>
      match decode? bytes with
      | none => env
      | some text =>
          match addLine read state text with
          | .more read state => loadLines env read state rest
          | .line line =>
              match define? env line with
              | some env => loadLines env [] .complete rest
              | none => env

def withoutMark : List UInt8 → List UInt8
  | 0xEF :: 0xBB :: 0xBF :: rest => rest
  | bytes => bytes

def load (env : Environment) (content : List UInt8) : Environment :=
  loadLines env [] .complete (physicalLines (withoutMark content))

end Rollout.Environment.Dotenv
