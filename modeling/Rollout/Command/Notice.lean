/-
# Rollout.Command.Notice — what the commands tell their reader

A command tells its reader one thing after another.  Complaints go to the stream for errors,
everything else to the stream for output, each with a line break at its end.

On a terminal texts have styles.  A style is put on a text by a sequence in front of it and
taken off by one behind it.  A text that takes styles off itself gets its style back after each
of them.
-/
import Rollout.Environment.Basic
import Rollout.Report

set_option autoImplicit false

namespace Rollout.Command

/-! ## Styles -/

inductive Colour where
  | red
  | green
  | yellow
  | blue
  | cyan
  deriving DecidableEq, Repr

def Colour.code : Colour → String
  | .red => "31"
  | .green => "32"
  | .yellow => "33"
  | .blue => "34"
  | .cyan => "36"

inductive Style where
  | bold
  | dim
  | coloured (colour : Colour)
  | boldColoured (colour : Colour)
  deriving DecidableEq, Repr

namespace Style

def code : Style → String
  | .bold => "1"
  | .dim => "2"
  | .coloured colour => colour.code
  | .boldColoured colour => "1;" ++ colour.code

def on (s : Style) : String := "\x1b[" ++ s.code ++ "m"

def off : String := "\x1b[0m"

def paint (shown : Bool) (s : Style) (text : String) : String :=
  if shown then s.on ++ (off ++ s.on).intercalate (text.splitOn off) ++ off else text

/-- Whether styles are shown: variables may force or forbid them, and otherwise only a
terminal shows them. -/
def areShown (env : Environment) (terminal : Bool) : Bool :=
  if (env.find? "CLICOLOR_FORCE").any (· ≠ "0") then true
  else if (env.find? "NO_COLOR").isSome then false
  else terminal && (env.find? "CLICOLOR").all (· ≠ "0")

end Style

/-! ## Notices -/

inductive Notice where
  /-- A title with a line below it. -/
  | header (text : String)
  | heading (text : String)
  /-- A line as it is. -/
  | plain (text : String)
  | setting (key value : String)
  /-- A step of a plan by its number, which counts from one. -/
  | step (number : Nat) (name : String) (details : List String)
  /-- A record; its name is filled up to a width. -/
  | record (width : Nat) (record : Record)
  | info (text : String)
  | success (text : String)
  | warning (text : String)
  | error (text : String)
  deriving DecidableEq

namespace Notice

def isError : Notice → Bool
  | .error _ => true
  | _ => false

/-- A text with blanks behind it, up to a number of characters. -/
def padded (width : Nat) (text : String) : String :=
  text ++ String.ofList (List.replicate (width - text.length) ' ')

def underline (text : String) : String :=
  String.ofList (List.replicate text.length '─')

def place (r : Record) : String :=
  "tx " ++ r.transaction.text ++ " block " ++ toString r.block.toNat

def text (shown : Bool) : Notice → String
  | .header text =>
      "\n" ++ Style.paint shown (.boldColoured .cyan) text ++ "\n" ++
        Style.paint shown (.coloured .cyan) (underline text) ++ "\n"
  | .heading text => "\n" ++ Style.paint shown .bold ("▸ " ++ text) ++ "\n"
  | .plain text => text ++ "\n"
  | .setting key value => "  " ++ Style.paint shown .bold (key ++ ":") ++ " " ++ value ++ "\n"
  | .step number name details =>
      "  " ++ toString number ++ ". " ++ name ++ " (" ++ "; ".intercalate details ++ ")\n"
  | .record width r =>
      "  " ++ Style.paint shown .bold (padded width r.artifact) ++ "  " ++
        Style.paint shown (.coloured .green) r.address.checksummed ++ "  " ++
        Style.paint shown .dim (place r) ++ "\n"
  | .info text => Style.paint shown (.boldColoured .blue) "ℹ" ++ " " ++ text ++ "\n"
  | .success text => Style.paint shown (.boldColoured .green) "✓" ++ " " ++ text ++ "\n"
  | .warning text =>
      Style.paint shown (.boldColoured .yellow) "⚠" ++ " " ++
        Style.paint shown (.coloured .yellow) text ++ "\n"
  | .error text =>
      Style.paint shown (.boldColoured .red) "✗" ++ " " ++
        Style.paint shown (.coloured .red) text ++ "\n"

/-- The records of a run, with their names in one column as wide as the longest name
has bytes. -/
def ofRecords (records : List Record) : List Notice :=
  let width := (records.map (·.artifact.utf8ByteSize)).foldl max 0
  records.map (.record width)

end Notice

def outputText (shown : Bool) (notices : List Notice) : String :=
  String.join ((notices.filter fun n => !n.isError).map (Notice.text shown))

def errorText (shown : Bool) (notices : List Notice) : String :=
  String.join ((notices.filter Notice.isError).map (Notice.text shown))

end Rollout.Command
