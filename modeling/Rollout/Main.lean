/-
# Rollout.Main — the program on its command line

This layer reads variables and files before the command runs, and prints and writes
afterwards what came of it.  It has no way to talk to a node: every node is one that
cannot be reached, so no step is ever confirmed and no time is taken.
-/
import Rollout.Command.Basic

open Rollout

set_option autoImplicit false

namespace Rollout.Main

/-! ## The environment -/

def definition? (bytes : List UInt8) : Option (String × String) := do
  let text ← String.fromUTF8? (ByteArray.mk bytes.toArray)
  let name := text.toList.takeWhile (· ≠ '=')
  return (String.ofList name, String.ofList (text.toList.drop (name.length + 1)))

/-- The pieces of a list of bytes between zeros. -/
def zeroEnded (bytes : List UInt8) : List (List UInt8) :=
  (bytes.foldr (fun byte pieces =>
    match pieces with
    | first :: rest => if byte = 0 then [] :: first :: rest else (byte :: first) :: rest
    | [] => [[byte]]) [[]])

/-- The variables that the program was started with. -/
def environment : IO Environment := do
  let bytes ← IO.FS.readBinFile "/proc/self/environ"
  return ⟨(zeroEnded bytes.toList).filterMap definition?⟩

/-! ## Files -/

/-- What an error of the system says about a path. -/
def entryOfError : IO.Error → Files.Entry
  | .noFileOrDirectory _ _ _ => .absent .notFound
  | .inappropriateType _ 21 _ => .directory
  | .inappropriateType _ 20 _ => .absent .notADirectory
  | error => .absent (.other (toString error))

/-- What stands at a path that gave another error: something that can be followed to, but
not read, or nothing. -/
def sealedEntry (path : String) (why : Files.Refusal) : IO Files.Entry :=
  tryCatch (do let _ ← IO.FS.realPath path; return .unreadable why) fun _ => return .absent why

def look (path : String) : IO Files.Entry :=
  tryCatch (do return .file (← IO.FS.readBinFile path).toList) fun error =>
    match entryOfError error with
    | .absent (.other reason) => sealedEntry path (.other reason)
    | entry => return entry

/-- Why a file cannot be written at a path. -/
def refusal? (path : String) : IO (Option Files.Refusal) := do
  match ← look path with
  | .file _ => return none
  | .directory => return some .isADirectory
  | .unreadable _ => return none
  | .absent why =>
      let folder := Config.parent path
      match ← look (if folder.isEmpty then "." else folder) with
      | .directory => return if path.isEmpty then some why else none
      | .file _ => return some .notADirectory
      | .unreadable why | .absent why => return some why

/-- The files at some paths, and whether others can be written. -/
def snapshot (toRead toWrite : List String) : IO Files := do
  let entries ← toRead.mapM fun path => return (path, ← look path)
  let refusals ← toWrite.mapM fun path => return (path, ← refusal? path)
  return ⟨fun path => (entries.lookup path).getD (.absent .notFound),
    fun path => (refusals.lookup path).join⟩

def outputPaths (c : Config) : List String :=
  c.artifacts.flatMap fun a => Build.Source.paths c.directory a.buildName

/-- The file that a command may write. -/
def reportPaths (c : Config) : Command.Action → List String
  | .deploy _ output => (output.or c.output).toList
  | _ => []

def filesFor (env : Environment) (i : Command.Invocation) : IO Files := do
  let first := [i.config, Config.definitionsPath]
  let files ← snapshot first []
  match Config.ofFile files env i.config with
  | .error _ => return files
  | .ok c => snapshot (first ++ outputPaths c) (reportPaths c i.action)

/-! ## Running -/

def carryOut (env : Environment) (r : Command.Request) : IO UInt32 := do
  let files ← match r with
    | .version => snapshot [] []
    | .command i => filesFor env i
  let world : Command.World Unit :=
    ⟨files, env, fun _ => .unreachable, .idle, fun _ => .epoch⟩
  let (ending, _) := Command.answer world r ()
  let stdout ← IO.getStdout
  let shown := Command.showsStyles world (← stdout.isTty)
  stdout.putStr (Command.outputText shown ending.notices)
  stdout.flush
  (← IO.getStderr).putStr (Command.errorText shown ending.notices)
  for (path, text) in ending.written do
    IO.FS.writeFile path text
  return ending.exit.code.toUInt32

end Rollout.Main

/-- Runs the program; arguments that make no sense end it like a refusal. -/
def main (arguments : List String) : IO UInt32 := do
  let env ← Rollout.Main.environment
  match Command.Request.ofArguments? env arguments with
  | some r => Rollout.Main.carryOut env r
  | none => do
      (← IO.getStderr).putStr Command.usage
      return Command.Exit.refused.code.toUInt32
