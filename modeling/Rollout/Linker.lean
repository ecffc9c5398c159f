/-
# Rollout.Linker — library addresses in bytecode

A compiler leaves forty characters where the address of a library will stand.  The legacy form
of such a placeholder holds the front of the library's name between underscores, the hashed form
the front of the hash of the name between dollar signs (`Placeholder`).

Bytecode comes as hex text with placeholders in it.  `link` puts an address in place of both
placeholders of a name.  `unlinked` lists the labels of the placeholders that are left: it looks
for two underscores, takes the forty bytes from there on, and goes on behind them.  `bytes`
decodes a text that has none left.  `Scan` is the same search round by round, over positions in
the bytes of the text: bytes that are not there cannot be taken, and no round asks for any.
-/
import Rollout.Distinct
import Rollout.Hex
import Rollout.Keccak
import Rollout.Octets
import Rollout.Text.Basic

set_option autoImplicit false

namespace Rollout

/-! ## Placeholders -/

namespace Placeholder

/-- The number of characters of a placeholder, those of an address in hex. -/
def width : Nat := 40

/-- Two underscores, up to thirty-six characters of the name, and underscores up
to the width. -/
def legacy (name : List Char) : List Char :=
  let kept := name.take (width - 4)
  '_' :: '_' :: kept ++ List.replicate (width - 2 - kept.length) '_'

/-- The first seventeen bytes of the hash of the name. -/
def hashed (name : List Char) : List Char :=
  ['_', '_', '$'] ++ Hex.encode ((Keccak.hash (Text.bytes name)).take 17) ++ ['$', '_', '_']

theorem length_legacy (name : List Char) : (legacy name).length = width := by
  simp only [legacy, width, List.length_append, List.length_cons, List.length_take,
    List.length_replicate]
  omega

end Placeholder

/-! ## Bytecode -/

/-- Hex text under linking. -/
structure Linker where
  code : List Char
  deriving DecidableEq

namespace Linker

/-- The text of bytecode without blanks at its ends and without its marker. -/
def ofBytecode (bytecode : String) : Linker :=
  ⟨Hex.withoutMarker (Text.trim bytecode.toList)⟩

/-! ## Linking -/

/-- Replaces `old` from left to right behind the first `skip` characters, which
are dropped. -/
def replaceFrom (old new : List Char) : (skip : Nat) → List Char → List Char
  | _, [] => []
  | skip + 1, _ :: rest => replaceFrom old new skip rest
  | 0, c :: rest =>
      if old.isPrefixOf (c :: rest) then new ++ replaceFrom old new (old.length - 1) rest
      else c :: replaceFrom old new 0 rest

/-- Replaces every occurrence of `old`, from left to right. -/
def replace (old new cs : List Char) : List Char := replaceFrom old new 0 cs

/-- How often `old` occurs from left to right behind the first `skip` characters. -/
def countFrom (old : List Char) : (skip : Nat) → List Char → Nat
  | _, [] => 0
  | skip + 1, _ :: rest => countFrom old skip rest
  | 0, c :: rest =>
      if old.isPrefixOf (c :: rest) then 1 + countFrom old (old.length - 1) rest
      else countFrom old 0 rest

/-- How often `old` occurs, counted from left to right without overlap. -/
def count (old cs : List Char) : Nat := countFrom old 0 cs

/-- Puts the digits of an address in place of both placeholders of a name, first the
legacy one; also tells how many were replaced. -/
def link (l : Linker) (name : String) (address : Address) : Linker × Nat :=
  let digits := Hex.encode address.bytes
  let legacy := Placeholder.legacy name.toList
  let hashed := Placeholder.hashed name.toList
  let code := replace legacy digits l.code
  (⟨replace hashed digits code⟩, count legacy l.code + count hashed code)

/-! ## What is left -/

def underscore : UInt8 := 95

/-- The windows that start at two underscores, behind the first `skip` bytes. -/
def slotsFrom : (skip : Nat) → List UInt8 → List (List UInt8)
  | _, [] => []
  | skip + 1, _ :: rest => slotsFrom skip rest
  | 0, b :: rest =>
      if b = underscore ∧ rest.head? = some underscore then
        (b :: rest).take Placeholder.width :: slotsFrom (Placeholder.width - 1) rest
      else slotsFrom 0 rest

/-- The label of a window: what its underscores surround, if that is ASCII. -/
def label? (slot : List UInt8) : Option String :=
  if Text.isAscii slot then
    let inner := Text.trimBy (· = '_') (Text.ofAscii slot).toList
    if inner.isEmpty then none else some (String.ofList inner)
  else none

/-- The labels of the placeholders that are left, each once. -/
def unlinked (l : Linker) : List String :=
  distinct ((slotsFrom 0 (Text.bytes l.code)).filterMap label?)

/-! ## The result -/

inductive Fault where
  | unlinked (labels : List String)
  | invalidHex (fault : Hex.Fault)
  deriving DecidableEq

def hexMessage : Hex.Fault → String
  | .oddLength => "Odd number of digits"
  | .badByte byte position =>
      "Invalid character " ++ Text.Quoted.ofChar (Char.ofNat byte.toNat) ++
        " at position " ++ toString position

def Fault.message : Fault → String
  | .unlinked labels =>
      "Bytecode still references unlinked libraries: " ++ ", ".intercalate labels
  | .invalidHex fault => "Invalid bytecode hex: " ++ hexMessage fault

/-- The bytecode, when no placeholder is left and the text is hex. -/
def bytes (l : Linker) : Except Fault (List UInt8) :=
  match l.unlinked with
  | [] => (Hex.decode (Text.bytes l.code)).mapError .invalidHex
  | labels => .error (.unlinked labels)

/-! ## The search, round by round -/

/-- The bytes from `start` up to `stop`, if they are there. -/
def slice? (bytes : List UInt8) (start stop : Nat) : Option (List UInt8) :=
  if start ≤ stop ∧ stop ≤ bytes.length then some ((bytes.take stop).drop start) else none

/-- How many bytes stand before the first two underscores. -/
def pairAt? : List UInt8 → Option Nat
  | [] => none
  | byte :: rest =>
      if byte = underscore ∧ rest.head? = some underscore then some 0
      else (pairAt? rest).map (· + 1)

/-- Where the search stands, and the labels it has noted. -/
structure Scan where
  position : Nat
  labels : List String

namespace Scan

def start : Scan := ⟨0, []⟩

inductive Round where
  /-- No two underscores are left. -/
  | ended
  | onward (next : Scan)
  /-- Bytes were asked for that are not there. -/
  | outside

/-- Notes the label of a window, if it has one that is new. -/
def note (labels : List String) (slot : List UInt8) : List String :=
  match label? slot with
  | some label => addNew labels label
  | none => labels

def round (bytes : List UInt8) (s : Scan) : Round :=
  match slice? bytes s.position bytes.length with
  | none => .outside
  | some rest =>
      match pairAt? rest with
      | none => .ended
      | some offset =>
          let start := s.position + offset
          let stop := min (start + Placeholder.width) bytes.length
          match slice? bytes start stop with
          | none => .outside
          | some slot => .onward ⟨stop, note s.labels slot⟩

/-- What a search comes to in any number of rounds. -/
inductive Reaches (bytes : List UInt8) : Scan → Scan → Prop
  | here (s : Scan) : Reaches bytes s s
  | onward {s next last : Scan} (round : s.round bytes = .onward next)
      (rest : Reaches bytes next last) : Reaches bytes s last

end Scan

end Linker

end Rollout
