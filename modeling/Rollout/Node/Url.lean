/-
# Rollout.Node.Url — where a node is

A text is read as a URL the way browsers do: blanks at its ends and line breaks within do not
count, schemes and domains are put into small letters, a port that is the usual one of its scheme
is left out, and characters that a part of a URL must not hold are escaped.

A path is cut at its slashes, and its segments are followed: one dot stays where it is and two
lead back.  Nothing leads back behind the letter of a drive, which only the path of a file starts
with in earnest.
-/
import Rollout.Hex
import Rollout.Node.Host
import Rollout.Number.Decimal
import Rollout.Text.Basic

set_option autoImplicit false

namespace Rollout.Node

namespace Url

/-! ## Escapes -/

/-- Characters that are escaped everywhere. -/
def isControl (c : Char) : Bool := c.toNat < 32 || 126 < c.toNat

def escapedInFragment (c : Char) : Bool := isControl c || " \x22<>\x60".toList.contains c

def escapedInPath (c : Char) : Bool := escapedInFragment c || "#?\x7b\x7d".toList.contains c

def escapedInUser (c : Char) : Bool := escapedInPath c || "/:;=@[\x5c]^|".toList.contains c

def escapedInQuery (web : Bool) (c : Char) : Bool :=
  isControl c || " \x22#<>".toList.contains c || (web && c == '\x27')

/-- A part of a URL with its escapes. -/
def escaped (test : Char → Bool) (cs : List Char) : String :=
  String.ofList (Text.Percent.encode test cs)

/-! ## Segments -/

/-- Segments that stand for the same place. -/
def isDot (segment : String) : Bool := [".", "%2e"].contains segment.toLower

/-- Segments that lead back. -/
def isDoubleDot (segment : String) : Bool :=
  ["..", ".%2e", "%2e.", "%2e%2e"].contains segment.toLower

/-- The letter of a drive, behind which stands a colon or a bar. -/
def drive? : List Char → Option Char
  | [letter, ':'] => if letter.isAlpha then some letter else none
  | [letter, '|'] => if letter.isAlpha then some letter else none
  | _ => none

def isDrive (segment : String) : Bool := (drive? segment.toList).isSome

/-- The place above some segments, the innermost first: nothing is above the root, and a
drive is not left. -/
def leave : List String → List String
  | [] => []
  | last :: above => if isDrive last then last :: above else above

/-- A segment as it is kept; the first one of a file may be a drive, which has a colon. -/
def kept (ofFile : Bool) (above : List String) (segment : String) : String :=
  match drive? segment.toList with
  | some letter => if ofFile && above.isEmpty then String.ofList [letter, ':'] else segment
  | none => segment

/-- Follows segments; `above` are the segments so far, the innermost first. -/
def follow (ofFile : Bool) (above : List String) : List String → List String
  | [] => above.reverse
  | [last] =>
      if isDoubleDot last then ("" :: leave above).reverse
      else if isDot last then ("" :: above).reverse
      else (kept ofFile above last :: above).reverse
  | segment :: rest =>
      if isDoubleDot segment then follow ofFile (leave above) rest
      else if isDot segment then follow ofFile above rest
      else follow ofFile (kept ofFile above segment :: above) rest

/-! ## Paths -/

inductive PathStyle where
  /-- Only slashes divide segments. -/
  | plain
  /-- Backslashes do as well. -/
  | web
  /-- Backslashes do as well, the first segment may be a drive, and slashes at the start
  count once. -/
  | file
  deriving DecidableEq, Repr

/-- Whether a character divides segments. -/
def PathStyle.divides (style : PathStyle) (c : Char) : Bool :=
  c = '/' || (c = '\x5c' && style ≠ .plain)

/-- The segments of a path behind its first slash. -/
def segments (style : PathStyle) (cs : List Char) : List String :=
  follow (style = .file) [] ((Text.pieces style.divides cs).map (escaped escapedInPath))

/-- The segments of a path; its first slash may be missing. -/
def rootedSegments (style : PathStyle) (cs : List Char) : List String :=
  match cs with
  | [] => segments style []
  | c :: rest => if style.divides c then segments style rest else segments style (c :: rest)

def pathText (style : PathStyle) (segments : List String) : String :=
  "/" ++ "/".intercalate (if style = .file then segments.dropWhile String.isEmpty else segments)

end Url

/-! ## URLs -/

/-- Who asks; name and password are escaped. -/
structure Url.User where
  name : String
  password : Option String
  deriving DecidableEq, Repr

/-- A URL in its normal form; what is escaped is escaped already. -/
structure Url where
  scheme : String
  user : Option Url.User := none
  /-- The host, where the scheme asks for one; it may be empty. -/
  host : Option Host := none
  port : Option Nat := none
  path : String
  query : Option String := none
  fragment : Option String := none
  deriving DecidableEq, Repr

namespace Url

/-! ## Schemes -/

/-- The schemes of the web with their usual ports. -/
def usualPorts : List (String × Nat) :=
  [("http", 80), ("https", 443), ("ws", 80), ("wss", 443), ("ftp", 21)]

def isWeb (scheme : String) : Bool := (usualPorts.lookup scheme).isSome

/-- How the paths of a scheme are read. -/
def styleOf (scheme : String) : PathStyle :=
  if isWeb scheme then .web else if scheme = "file" then .file else .plain

def isSchemeChar (c : Char) : Bool := c.isAlphanum || c == '+' || c == '-' || c == '.'

def splitScheme (cs : List Char) : Option (String × List Char) :=
  let name := cs.takeWhile isSchemeChar
  match name.head?, cs.drop name.length with
  | some first, ':' :: rest =>
      if first.isAlpha then some (String.ofList (name.map Char.toLower), rest) else none
  | _, _ => none

/-! ## Users -/

/-- The text before and behind the last character of a kind. -/
def splitLast (c : Char) (cs : List Char) : Option (List Char × List Char) :=
  if cs.contains c then
    some (((cs.reverse.dropWhile (· ≠ c)).drop 1).reverse, (cs.reverse.takeWhile (· ≠ c)).reverse)
  else none

namespace User

/-- A name and a password behind a colon; with neither nobody asks. -/
def ofChars (cs : List Char) : Option User :=
  let name := cs.takeWhile (· ≠ ':')
  let password := cs.drop (name.length + 1)
  if name.isEmpty && password.isEmpty then none
  else some ⟨escaped escapedInUser name,
    if password.isEmpty then none else some (escaped escapedInUser password)⟩

/-- The text in front of the host. -/
def text (u : User) : String :=
  u.name ++ u.password.elim "" (":" ++ ·) ++ "@"

/-- Whether an escaped text stands for UTF-8. -/
def isReadable (s : String) : Bool :=
  (String.fromUTF8? (ByteArray.mk (Text.Percent.decode (Text.bytes s.toList)).toArray)).isSome

/-- Whether a request can hand name and password over beside the URL. -/
def isHandedOver (u : User) : Bool :=
  isReadable u.name && (!u.name.isEmpty || u.password.any isReadable)

end User

/-! ## Hosts and ports -/

/-- How many characters the host takes; a colon in brackets does not end it. -/
def hostLength (bracketed : Bool) : List Char → Nat
  | [] => 0
  | c :: rest =>
      if c = ':' ∧ !bracketed then 0
      else if c = '[' then hostLength true rest + 1
      else if c = ']' then hostLength false rest + 1
      else hostLength bracketed rest + 1

/-- The port behind a colon, unless it is the usual one, and what follows it; only a
backslash may, with which the path starts. -/
def readPort (scheme : String) (cs : List Char) : Except Fault (Option Nat × List Char) :=
  let digits := cs.takeWhile Char.isDigit
  let rest := cs.drop digits.length
  if rest.head?.any (· ≠ '\x5c') then .error .badPort
  else if digits.isEmpty then .ok (none, rest)
  else match Number.readBelow 65536 ('0' :: digits) with
    | .ok port => .ok (if usualPorts.lookup scheme = some port then none else some port, rest)
    | .error _ => .error .badPort

structure Authority where
  user : Option User := none
  host : Option Host := none
  port : Option Nat := none

/-- The host of a URL; only with a scheme that is not for the web it may be empty, and
only when nothing stands beside it. -/
def readHost (scheme : String) (alone : Bool) (cs : List Char) : Except Fault Host :=
  if cs.isEmpty then
    if isWeb scheme || !alone then .error .emptyHost else .ok (.domain "")
  else if isWeb scheme then Host.read cs
  else Host.readPlain cs

/-- Reads what stands between the two slashes and the path; also gives what already
belongs to the path.  Nothing but the end of the text may follow an at sign alone. -/
def readAuthority (scheme : String) (atEnd : Bool) (cs : List Char) :
    Except Fault (Authority × List Char) := do
  if cs = ['@'] ∧ !atEnd then throw .emptyHost
  let (before, place) := (splitLast '@' cs).getD ([], cs)
  let user := User.ofChars before
  let name := place.take (hostLength false place)
  let rest := place.drop name.length
  let host ← readHost scheme (user.isNone && rest.isEmpty) name
  match rest with
  | ':' :: rest => do
      let (port, rest) ← readPort scheme rest
      return (⟨user, some host, port⟩, rest)
  | _ => return (⟨user, some host, none⟩, [])

/-! ## Reading -/

/-- A text without control characters and spaces at its ends, nor tabs and line
breaks within. -/
def clean (cs : List Char) : List Char :=
  let blank (c : Char) := decide (c.toNat ≤ 32)
  let inner := (cs.dropWhile blank).reverse.dropWhile blank |>.reverse
  inner.filter fun c => c ≠ '\x09' ∧ c ≠ '\x0a' ∧ c ≠ '\x0d'

/-- What stands before, between and behind the first question mark and the first
number sign. -/
def splitTail (cs : List Char) : List Char × Option (List Char) × Option (List Char) :=
  let front := cs.takeWhile (· ≠ '#')
  let fragment := if cs.contains '#' then some (cs.drop (front.length + 1)) else none
  let path := front.takeWhile (· ≠ '?')
  let query := if front.contains '?' then some (front.drop (path.length + 1)) else none
  (path, query, fragment)

/-- Whether a character ends the part between the two slashes and the path. -/
def endsAuthority (style : PathStyle) (c : Char) : Bool :=
  style.divides c || c = '?' || c = '#'

/-- A URL from what follows its authority. -/
def withTail (scheme : String) (authority : Authority) (path : List Char → String)
    (cs : List Char) : Url :=
  let (front, query, fragment) := splitTail cs
  { scheme, user := authority.user, host := authority.host, port := authority.port,
    path := path front,
    query := query.map (escaped (escapedInQuery (styleOf scheme ≠ .plain))),
    fragment := fragment.map (escaped escapedInFragment) }

/-- The path of a URL that has an authority; only one for the web is never empty. -/
def placePath (style : PathStyle) (cs : List Char) : String :=
  if cs.isEmpty && style = .plain then "" else pathText style (rootedSegments style cs)

/-- Reads what follows the slashes in front of an authority. -/
def readPlace (scheme : String) (cs : List Char) : Except Fault Url := do
  let style := styleOf scheme
  let span := cs.takeWhile fun c => !endsAuthority style c
  let tail := cs.drop span.length
  let (authority, rest) ← readAuthority scheme tail.isEmpty span
  return withTail scheme authority (placePath style) (rest ++ tail)

/-- The URL of a file on a host; a path that starts with a drive needs no host. -/
def onHost (host : Host) (segments : List Char → List String) (cs : List Char) : Url :=
  let named := !((segments (splitTail cs).1).head?.any isDrive)
  withTail "file" { host := some (if named then host else .domain "") }
    (fun path => pathText .file (segments path)) cs

/-- Reads the URL of a file.  Its host may be left out, and the one that runs the program
is not named. -/
def readFile (cs : List Char) : Except Fault Url := do
  let slashes := (cs.takeWhile PathStyle.file.divides).length
  if slashes < 2 then return onHost (.domain "") (rootedSegments .file) cs
  let rest := cs.drop 2
  let span := rest.takeWhile fun c => !endsAuthority .file c
  let tail := rest.drop span.length
  if (drive? span).isSome then return onHost (.domain "") (segments .file) rest
  if span.isEmpty then return onHost (.domain "") (segments .file) tail
  match ← Host.read span with
  | .domain "localhost" => return onHost (.domain "") (segments .file) tail
  | host => return onHost host (rootedSegments .file) tail

def read (s : String) : Except Fault Url :=
  match splitScheme (clean s.toList) with
  | none => .error .relative
  | some (scheme, rest) =>
      match styleOf scheme with
      | .web => readPlace scheme (rest.dropWhile PathStyle.web.divides)
      | .file => readFile rest
      | .plain =>
          match rest with
          | '/' :: '/' :: rest => readPlace scheme rest
          | '/' :: _ => .ok (withTail scheme {} (placePath .plain) rest)
          | _ => .ok (withTail scheme {} (escaped isControl) rest)

/-! ## Writing -/

def authorityText (u : Url) : String :=
  u.user.elim "" User.text ++ u.host.elim "" Host.text ++
    u.port.elim "" fun port => ":" ++ toString port

/-- What stands before the path.  A path without a host must not be taken for a host. -/
def placeText (u : Url) : String :=
  if u.host.isSome then "//" ++ u.authorityText
  else if u.path.startsWith "//" then "/."
  else ""

def text (u : Url) : String :=
  u.scheme ++ ":" ++ u.placeText ++ u.path ++ u.query.elim "" ("?" ++ ·) ++
    u.fragment.elim "" ("#" ++ ·)

/-- The URL of a request, without who asks if that is handed over beside it. -/
def requested (u : Url) : Url :=
  { u with user := u.user.filter fun user => !user.isHandedOver }

/-- The most bytes of a URL that a request can be sent to. -/
def requestLimit : Nat := 65534

/-- Characters that a name may have, but not one that a request can be sent to. -/
def unsendable : List Char := ['\x22', '\x60', '\x7b', '\x7d']

def isSendable (u : Url) : Bool :=
  ["http", "https"].contains u.scheme && u.requested.text.utf8ByteSize ≤ requestLimit &&
    u.host.all fun host => !host.text.toList.any unsendable.contains

def failure (u : Url) : String :=
  (if u.isSendable then "error sending request" else "builder error") ++
    " for url (" ++ u.requested.text ++ ")"

end Url

end Rollout.Node
