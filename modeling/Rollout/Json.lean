/-
# Rollout.Json — JSON texts

A text is taken character by character through an automaton whose state is the token under
construction (`State`); finished tokens are collected in reverse.  White space is the space, the
tab and the two line ends.  Numbers and strings are checked as soon as they end, so a text has
either all its tokens or none.

The tokens are taken one by one by a machine that keeps the lists and tables still open (`Frame`)
and what may come next (`Expect`).  At most 127 lists and tables may be open at once.
`readAsWritten?` keeps every field of a table in its place; `read?` then gives them by name, and
of two fields with one name the later counts.

Values are written in two layouts: `compact` without any white space, and `pretty` with one item
or field per line, two spaces for each level; an empty list or table is written without a line
break.  Fields keep the order they have in the value.
-/
import Rollout.Catalog
import Rollout.Document
import Rollout.Number.Decimal
import Rollout.Number.Shortest

set_option autoImplicit false

namespace Rollout.Json

open Document (Value)
open Number (digitsValue Significand)

/-! ## Tokens -/

/-- A token; scalars already carry their value. -/
inductive Token where
  | openList
  | closeList
  | openTable
  | closeTable
  | comma
  | colon
  | scalar (v : Value)

/-! ## Numbers -/

def spanDigits (cs : List Char) : List Char × List Char :=
  (cs.takeWhile Char.isDigit, cs.dropWhile Char.isDigit)

/-- The parts of a number: sign, whole digits, digits after the point, exponent. -/
structure Numeral where
  negative : Bool
  whole : List Char
  fraction : Option (List Char)
  exponent : Option Int

/-- Reads an exponent behind its letter: an optional sign and digits. -/
def exponent? (cs : List Char) : Option Int :=
  let (negative, ds) := match cs with
    | '-' :: rest => (true, rest)
    | '+' :: rest => (false, rest)
    | _ => (false, cs)
  if ds.isEmpty || !ds.all Char.isDigit then none
  else some (if negative then -(digitsValue ds : Int) else digitsValue ds)

/-- Splits a numeral into its parts; whole digits have no leading zero. -/
def numeral? (cs : List Char) : Option Numeral := do
  let (negative, unsigned) := match cs with
    | '-' :: rest => (true, rest)
    | _ => (false, cs)
  let (whole, rest) := spanDigits unsigned
  if whole.isEmpty || (whole.head? == some '0' && whole.length > 1) then none
  let (fraction, rest) ← match rest with
    | '.' :: rest =>
        let (digits, rest) := spanDigits rest
        if digits.isEmpty then none else some (some digits, rest)
    | _ => some (none, rest)
  match rest with
  | [] => some ⟨negative, whole, fraction, none⟩
  | c :: rest =>
      if c = 'e' ∨ c = 'E' then (exponent? rest).map fun e => ⟨negative, whole, fraction, some e⟩
      else none

/-- The value of a numeral: an integer of 64 bits where it is one and has neither
fraction nor exponent, else a double.  Minus zero is a double. -/
def Numeral.value? (n : Numeral) : Option Value :=
  let whole := digitsValue n.whole
  let asDouble :=
    ((Significand.ofDigits n.whole (n.fraction.getD [])).double? n.negative
      (n.exponent.getD 0)).map Value.float
  match n.fraction, n.exponent with
  | none, none =>
      if n.negative then
        if whole = 0 ∨ Nat.pow 2 63 < whole then asDouble else some (.int (-(whole : Int)))
      else if whole < Number.limit64 then some (.nat whole) else asDouble
  | _, _ => asDouble

/-! ## The automaton -/

/-- What is being read; texts are kept in reverse. -/
inductive State where
  | between
  | number (read : List Char)
  | word (read : List Char)
  | inText (read : List Char)
  /-- Behind a backslash. -/
  | escape (read : List Char)
  /-- Inside the four digits of `\u`; `lead` is a high surrogate that came before. -/
  | code (read : List Char) (lead : Option Nat) (digits : Nat) (value : Nat)
  /-- Behind a high surrogate, where a backslash must follow. -/
  | lead (read : List Char) (value : Nat)
  /-- Behind a high surrogate and a backslash, where `u` must follow. -/
  | leadEscape (read : List Char) (value : Nat)

def hexValue? (c : Char) : Option Nat :=
  if '0' ≤ c ∧ c ≤ '9' then some (c.toNat - 48)
  else if 'a' ≤ c ∧ c ≤ 'f' then some (c.toNat - 87)
  else if 'A' ≤ c ∧ c ≤ 'F' then some (c.toNat - 55)
  else none

def shortEscape? : Char → Option Char
  | 'b' => some '\x08'
  | 't' => some '\x09'
  | 'n' => some '\x0a'
  | 'f' => some '\x0c'
  | 'r' => some '\x0d'
  | '/' => some '/'
  | c => if c = '\x22' ∨ c = '\x5c' then some c else none

/-- The state behind the last digit of `\u`: surrogates must come in pairs. -/
def closeCode (read : List Char) (lead : Option Nat) (value : Nat) : Option State :=
  match lead with
  | none =>
      if 0xD800 ≤ value ∧ value < 0xDC00 then some (.lead read value)
      else if 0xDC00 ≤ value ∧ value < 0xE000 then none
      else some (.inText (Char.ofNat value :: read))
  | some high =>
      if 0xDC00 ≤ value ∧ value < 0xE000 then
        some (.inText (Char.ofNat (0x10000 + (high - 0xD800) * 0x400 + (value - 0xDC00)) :: read))
      else none

def isNumeric (c : Char) : Bool :=
  c.isDigit || c == '-' || c == '+' || c == '.' || c == 'e' || c == 'E'

def word? (read : List Char) : Option Token :=
  if read = ['t', 'r', 'u', 'e'] then some (.scalar (.bool true))
  else if read = ['f', 'a', 'l', 's', 'e'] then some (.scalar (.bool false))
  else if read = ['n', 'u', 'l', 'l'] then some (.scalar .null)
  else none

/-- The step at a character that starts a token or stands between two. -/
def start (tokens : List Token) (c : Char) : Option (State × List Token) :=
  if c = ' ' ∨ c = '\x09' ∨ c = '\x0a' ∨ c = '\x0d' then some (.between, tokens)
  else if c = '[' then some (.between, .openList :: tokens)
  else if c = ']' then some (.between, .closeList :: tokens)
  else if c = '\x7b' then some (.between, .openTable :: tokens)
  else if c = '\x7d' then some (.between, .closeTable :: tokens)
  else if c = ',' then some (.between, .comma :: tokens)
  else if c = ':' then some (.between, .colon :: tokens)
  else if c = '\x22' then some (.inText [], tokens)
  else if c = '-' ∨ c.isDigit then some (.number [c], tokens)
  else if c.isLower then some (.word [c], tokens)
  else none

/-- The tokens with the one that ends here, for a state outside texts. -/
def finish (tokens : List Token) : State → Option (List Token)
  | .between => some tokens
  | .number read => do
      let n ← numeral? read.reverse
      return .scalar (← n.value?) :: tokens
  | .word read => (word? read.reverse).map (· :: tokens)
  | _ => none

def step (now : State × List Token) (c : Char) : Option (State × List Token) :=
  let (state, tokens) := now
  match state with
  | .between => start tokens c
  | .number read =>
      if isNumeric c then some (.number (c :: read), tokens)
      else do start (← finish tokens state) c
  | .word read =>
      if c.isLower then some (.word (c :: read), tokens)
      else do start (← finish tokens state) c
  | .inText read =>
      if c = '\x22' then some (.between, .scalar (.text (String.ofList read.reverse)) :: tokens)
      else if c = '\x5c' then some (.escape read, tokens)
      else if c.toNat < 0x20 then none
      else some (.inText (c :: read), tokens)
  | .escape read =>
      if c = 'u' then some (.code read none 0 0, tokens)
      else (shortEscape? c).map fun e => (.inText (e :: read), tokens)
  | .code read lead digits value => do
      let d ← hexValue? c
      if digits = 3 then (closeCode read lead (16 * value + d)).map (·, tokens)
      else some (.code read lead (digits + 1) (16 * value + d), tokens)
  | .lead read value => if c = '\x5c' then some (.leadEscape read value, tokens) else none
  | .leadEscape read value => if c = 'u' then some (.code read (some value) 0 0, tokens) else none

def tokens? (cs : List Char) : Option (List Token) := do
  let (state, tokens) ← cs.foldlM step (.between, [])
  (finish tokens state).map List.reverse

/-! ## Values -/

inductive Frame where
  /-- The items so far, the last one first. -/
  | list (items : List Value)
  /-- The fields so far, the last one first, and the name of the one being read. -/
  | table (fields : List (String × Value)) (key : String)

inductive Expect where
  | value
  /-- The first item of a list, or its end. -/
  | itemOrEnd
  /-- A comma or the end of the innermost frame. -/
  | next
  /-- A field's name; with `orEnd` the end of the table too. -/
  | key (orEnd : Bool)
  | colon
  /-- Nothing: the value is complete. -/
  | nothing

/-- The machine between two tokens: open frames, innermost first, and the value
when it is complete. -/
structure Machine where
  frames : List Frame
  expect : Expect
  result : Option Value

namespace Machine

def depthLimit : Nat := 127

def initial : Machine := ⟨[], .value, none⟩

/-- A complete value takes its place in the innermost frame. -/
def place (v : Value) : List Frame → Machine
  | [] => ⟨[], .nothing, some v⟩
  | .list items :: frames => ⟨.list (v :: items) :: frames, .next, none⟩
  | .table fields key :: frames => ⟨.table ((key, v) :: fields) key :: frames, .next, none⟩

def enter (frame : Frame) (expect : Expect) (frames : List Frame) : Option Machine :=
  if frames.length < depthLimit then some ⟨frame :: frames, expect, none⟩ else none

/-- The step at a token where a value may stand. -/
def value (frames : List Frame) : Token → Option Machine
  | .scalar v => some (place v frames)
  | .openList => enter (.list []) .itemOrEnd frames
  | .openTable => enter (.table [] "") (.key true) frames
  | _ => none

def close : List Frame → Token → Option Machine
  | .list items :: frames, .closeList => some (place (.list items.reverse) frames)
  | .table fields _ :: frames, .closeTable => some (place (.table fields.reverse) frames)
  | _, _ => none

def step (m : Machine) (t : Token) : Option Machine :=
  match m.expect with
  | .value => value m.frames t
  | .itemOrEnd => match t with
      | .closeList => close m.frames t
      | _ => value m.frames t
  | .next => match t, m.frames with
      | .comma, .list _ :: _ => some { m with expect := .value }
      | .comma, .table _ _ :: _ => some { m with expect := .key false }
      | _, _ => close m.frames t
  | .key orEnd => match t, m.frames with
      | .scalar (.text name), .table fields _ :: frames =>
          some ⟨.table fields name :: frames, .colon, none⟩
      | .closeTable, _ => if orEnd then close m.frames t else none
      | _, _ => none
  | .colon => match t with
      | .colon => some { m with expect := .value }
      | _ => none
  | .nothing => none

end Machine

def ofTokens? (tokens : List Token) : Option Value := do
  (← tokens.foldlM Machine.step .initial).result

/-- Reads a JSON text; tables hold all fields in the order of the text. -/
def readAsWritten? (text : String) : Option Value := do
  ofTokens? (← tokens? text.toList)

/-! ## Fields by name -/

mutual

/-- The value with the fields of every table by name, the later of two that share one. -/
def byName : Value → Value
  | .list items => .list (itemsByName items)
  | .table fields => .table (fieldsByName .empty fields).entries
  | v => v

def itemsByName : List Value → List Value
  | [] => []
  | first :: rest => byName first :: itemsByName rest

def fieldsByName (catalog : Catalog Value) : List (String × Value) → Catalog Value
  | [] => catalog
  | (name, v) :: rest => fieldsByName (catalog.insert name (byName v)) rest

end

/-- Reads a JSON text; tables hold their fields by name. -/
def read? (text : String) : Option Value := (readAsWritten? text).map byName

/-! ## Printing -/

/-- Doubles are positional from `10^-5` up to sixteen whole digits, and written
with an exponent beyond. -/
def floatStyle : Number.FloatStyle := ⟨some (-5, 15), "null", "null"⟩

def hexPair (n : Nat) : List Char :=
  [Nat.digitChar (n / 16), Nat.digitChar (n % 16)]

def escape (c : Char) : List Char :=
  if c = '\x22' ∨ c = '\x5c' then ['\x5c', c]
  else if c = '\x08' then ['\x5c', 'b']
  else if c = '\x09' then ['\x5c', 't']
  else if c = '\x0a' then ['\x5c', 'n']
  else if c = '\x0c' then ['\x5c', 'f']
  else if c = '\x0d' then ['\x5c', 'r']
  else if c.toNat < 0x20 then ['\x5c', 'u', '0', '0'] ++ hexPair c.toNat
  else [c]

def quoted (s : String) : List Char :=
  '\x22' :: s.toList.flatMap escape ++ ['\x22']

def joined (separator : List Char) (pieces : List (List Char)) : List Char :=
  (pieces.intersperse separator).flatten

/-- Pieces between brackets, one per line at the given level; none at all stand
together. -/
def block (first last : Char) (level : Nat) (pieces : List (List Char)) : List Char :=
  let line (n : Nat) := '\x0a' :: List.replicate (2 * n) ' '
  if pieces.isEmpty then [first, last]
  else first :: line (level + 1) ++ joined (',' :: line (level + 1)) pieces ++ line level ++ [last]

mutual

def compactChars : Value → List Char
  | .null => ['n', 'u', 'l', 'l']
  | .bool true => ['t', 'r', 'u', 'e']
  | .bool false => ['f', 'a', 'l', 's', 'e']
  | .int n => (toString n).toList
  | .float x => (Number.floatText floatStyle x).toList
  | .text s => quoted s
  | .date s => quoted s
  | .list items => '[' :: joined [','] (compactItems items) ++ [']']
  | .tables elements => '[' :: joined [','] (compactItems elements) ++ [']']
  | .table fields => '\x7b' :: joined [','] (compactFields fields) ++ ['\x7d']

def compactItems : List Value → List (List Char)
  | [] => []
  | v :: rest => compactChars v :: compactItems rest

def compactFields : List (String × Value) → List (List Char)
  | [] => []
  | (name, v) :: rest => (quoted name ++ ':' :: compactChars v) :: compactFields rest

end

mutual

/-- The text with one item or field per line, nested at a level. -/
def prettyChars (level : Nat) : Value → List Char
  | .list items => block '[' ']' level (prettyItems (level + 1) items)
  | .tables elements => block '[' ']' level (prettyItems (level + 1) elements)
  | .table fields => block '\x7b' '\x7d' level (prettyFields (level + 1) fields)
  | v => compactChars v

def prettyItems (level : Nat) : List Value → List (List Char)
  | [] => []
  | v :: rest => prettyChars level v :: prettyItems level rest

def prettyFields (level : Nat) : List (String × Value) → List (List Char)
  | [] => []
  | (name, v) :: rest =>
      (quoted name ++ ':' :: ' ' :: prettyChars level v) :: prettyFields level rest

end

def compact (v : Value) : String := String.ofList (compactChars v)

def pretty (v : Value) : String := String.ofList (prettyChars 0 v)

end Rollout.Json
