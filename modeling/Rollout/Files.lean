/-
# Rollout.Files — files as the library sees them

The library never touches a disk.  It is given `Files`, which tell what stands at a path and
whether a file can be written there.  A path that cannot be followed to its end, for whatever
reason, counts as one where nothing stands (`Files.holds`).

A text is read back from its bytes, so it is read from a file that holds them
(`Files.readText_of_look`); and where a text can be read something stands.  What is read at a
path depends on what stands there alone (`Files.readText_congr`).
-/
import Rollout.Text.Basic

set_option autoImplicit false

namespace Rollout

namespace Files

inductive Refusal where
  | notFound
  | notADirectory
  | isADirectory
  /-- The path, or a part of it, is too long. -/
  | nameTooLong
  /-- There is a zero byte in the path. -/
  | zeroByte
  /-- The bytes are not UTF-8. -/
  | notText
  /-- Another reason, in the words of the system. -/
  | other (message : String)
  deriving DecidableEq, Repr

def Refusal.message : Refusal → String
  | .notFound => "No such file or directory (os error 2)"
  | .notADirectory => "Not a directory (os error 20)"
  | .isADirectory => "Is a directory (os error 21)"
  | .nameTooLong => "File name too long (os error 36)"
  | .zeroByte => "file name contained an unexpected NUL byte"
  | .notText => "stream did not contain valid UTF-8"
  | .other message => message

inductive Entry where
  | file (content : List UInt8)
  | directory
  /-- Something that is not given out to be read. -/
  | unreadable (why : Refusal)
  | absent (why : Refusal)
  deriving DecidableEq

end Files

/-- What stands where, and where a file cannot be written. -/
structure Files where
  look : String → Files.Entry
  refusal? : String → Option Files.Refusal

namespace Files

/-! ## Paths -/

def isAbsolute (path : String) : Bool := path.toList.head? = some '/'

/-- A path within a directory; an absolute path stays as it is. -/
def join (directory path : String) : String :=
  if isAbsolute path || directory.isEmpty then path
  else if directory.toList.getLast? = some '/' then directory ++ path
  else directory ++ "/" ++ path

/-! ## What is read -/

/-- Whether anything stands at a path that can be followed. -/
def holds (files : Files) (path : String) : Bool :=
  match files.look path with
  | .absent _ => false
  | _ => true

def decodeText (content : List UInt8) : Except Refusal String :=
  match String.fromUTF8? (ByteArray.mk content.toArray) with
  | some text => .ok text
  | none => .error .notText

def readText (files : Files) (path : String) : Except Refusal String :=
  match files.look path with
  | .file content => decodeText content
  | .directory => .error .isADirectory
  | .unreadable why => .error why
  | .absent why => .error why

variable {files : Files} {path text : String}

theorem decodeText_bytes (text : String) : decodeText (Text.bytes text.toList) = .ok text := by
  unfold decodeText
  rw [Text.fromUTF8?_bytes, String.ofList_toList]

theorem readText_of_look (held : files.look path = .file (Text.bytes text.toList)) :
    files.readText path = .ok text := by
  rw [readText, held]
  exact decodeText_bytes text

theorem holds_of_readText (content : files.readText path = .ok text) : files.holds path = true := by
  unfold readText at content
  unfold holds
  cases found : files.look path with
  | file bytes => rfl
  | directory => rfl
  | unreadable why => rfl
  | absent why =>
      rw [found] at content
      cases content

section Congr

variable {others : Files} (same : others.look path = files.look path)

include same

theorem readText_congr : others.readText path = files.readText path := by
  rw [readText, readText, same]

theorem holds_congr : others.holds path = files.holds path := by
  rw [holds, holds, same]

end Congr

end Files

end Rollout
