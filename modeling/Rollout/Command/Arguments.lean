/-
# Rollout.Command.Arguments — what the program is asked to do

Options stand before or behind the word that names the command; the one behind counts.
An option is given with one letter or a word, its value in the same argument or in the
next, and at most once on either side.  Behind two hyphens nothing is an option.  Before
the command the version of the program may be asked for, and then nothing else matters.
-/
import Rollout.Environment.Basic

namespace Rollout.Command

set_option autoImplicit false

inductive Action where
  | plan
  | networks
  | deploy (network output : Option String)
  deriving DecidableEq, Repr

structure Invocation where
  /-- The path of the configuration. -/
  config : String
  action : Action
  deriving DecidableEq, Repr

/-! ## Options -/

/-- An option; each has a value. -/
inductive Flag where
  | config
  | logLevel
  | output
  deriving DecidableEq, Repr

namespace Flag

def letter : Flag → Char
  | .config => 'c'
  | .logLevel => 'l'
  | .output => 'o'

def word : Flag → String
  | .config => "config"
  | .logLevel => "log-level"
  | .output => "output"

/-- Whether a value fits; a path is never empty. -/
def fits : Flag → String → Bool
  | .logLevel, _ => true
  | _, value => !value.isEmpty

def common : List Flag := [.config, .logLevel]

end Flag

inductive Token where
  | word
  | divider
  | option (flag : Flag) (value : Option String)
  | unknown
  deriving DecidableEq, Repr

/-- An option by its word, with the value behind an equals sign. -/
def longToken (known : List Flag) (cs : List Char) : Token :=
  let name := cs.takeWhile (· ≠ '=')
  let value := if cs.contains '=' then some (String.ofList (cs.drop (name.length + 1))) else none
  match known.find? fun flag => flag.word == String.ofList name with
  | some flag => .option flag value
  | none => .unknown

/-- An option by its letter, with the value right behind it. -/
def shortToken (known : List Flag) (letter : Char) (cs : List Char) : Token :=
  match known.find? (·.letter == letter), cs with
  | none, _ => .unknown
  | some flag, [] => .option flag none
  | some flag, '=' :: value => .option flag (some (String.ofList value))
  | some flag, value => .option flag (some (String.ofList value))

/-- What an argument is where some options are known. -/
def Token.ofArgument (known : List Flag) (argument : String) : Token :=
  match argument.toList with
  | ['-', '-'] => .divider
  | '-' :: '-' :: cs => longToken known cs
  | '-' :: letter :: cs => shortToken known letter cs
  | _ => .word

/-! ## Arguments -/

/-- The options and words on one side of the command. -/
structure Given where
  values : List (Flag × String) := []
  words : List String := []

namespace Given

def value? (g : Given) (flag : Flag) : Option String := g.values.lookup flag

def add? (g : Given) (flag : Flag) (value : String) : Option Given :=
  if (g.value? flag).isNone && flag.fits value then
    some { g with values := (flag, value) :: g.values }
  else none

def read? (known : List Flag) (g : Given) : List String → Option Given
  | [] => some g
  | argument :: rest =>
      match Token.ofArgument known argument with
      | .unknown => none
      | .divider => some { g with words := g.words ++ rest }
      | .word => read? known { g with words := g.words ++ [argument] } rest
      | .option flag (some value) => do read? known (← g.add? flag value) rest
      | .option flag none =>
          match rest with
          | [] => none
          | value :: rest =>
              if Token.ofArgument known value = .word then do
                read? known (← g.add? flag value) rest
              else none

end Given

/-- What stands before the word that names the command. -/
inductive Opening where
  /-- The version is asked for. -/
  | version
  /-- Options, then the command and what follows it. -/
  | command (before : Given) (name : String) (rest : List String)

def asksVersion (argument : String) : Bool :=
  match argument.toList with
  | '-' :: 'V' :: _ => true
  | cs => cs = "--version".toList

def Opening.read? (known : List Flag) (g : Given) : List String → Option Opening
  | [] => none
  | argument :: rest =>
      if asksVersion argument then some .version
      else match Token.ofArgument known argument with
        | .unknown => none
        | .divider => none
        | .word => some (.command g argument rest)
        | .option flag (some value) => do Opening.read? known (← g.add? flag value) rest
        | .option flag none =>
            match rest with
            | [] => none
            | value :: rest =>
                if Token.ofArgument known value = .word then do
                  Opening.read? known (← g.add? flag value) rest
                else none

/-! ## Invocations -/

def flagsOf (command : String) : List Flag :=
  if command = "deploy" then .output :: Flag.common else Flag.common

/-- What a command does with its words and options. -/
def Action.ofGiven? (command : String) (g : Given) : Option Action :=
  match command, g.words with
  | "plan", [] => some .plan
  | "networks", [] => some .networks
  | "deploy", [] => some (.deploy none (g.value? .output))
  | "deploy", [network] => some (.deploy (some network) (g.value? .output))
  | _, _ => none

def configVariable : String := "DEPLOYER_CONFIG"

def defaultConfig : String := "deployer.toml"

/-- The path of the configuration.  The variable is looked at on each side of the
command on which the option is missing, and must not be empty there. -/
def configPath? (env : Environment) (before behind : Option String) : Option String :=
  match behind, before, env.find? configVariable with
  | some path, some _, _ => some path
  | _, _, some "" => none
  | some path, none, _ => some path
  | none, some path, _ => some path
  | none, none, some path => some path
  | none, none, none => some defaultConfig

inductive Request where
  | version
  | command (invocation : Invocation)
  deriving DecidableEq, Repr

/-- What the program is asked for, unless the arguments make no sense. -/
def Request.ofArguments? (env : Environment) (arguments : List String) : Option Request := do
  match ← Opening.read? Flag.common {} arguments with
  | .version => return .version
  | .command before name rest =>
      let behind ← Given.read? (flagsOf name) {} rest
      let action ← Action.ofGiven? name behind
      let path ← configPath? env (before.value? .config) (behind.value? .config)
      return .command ⟨path, action⟩

def usage : String :=
  "usage: deployer [-c FILE] [-l LEVEL] plan | networks | deploy [NETWORK] [-o FILE]\n"

end Rollout.Command
