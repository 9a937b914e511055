import TemplateBundler.CommandLine.Arguments
import TemplateBundler.Config.Basic

/-!
# Invocations

The arguments of an invocation are those before the name of a command, the name, and those behind
it. A switch of every command counts wherever it stands; a value behind the name goes before one in
front of it, and both before the environment.
-/

namespace TemplateBundler.CommandLine

inductive LogLevel where
  | debug
  | off
deriving DecidableEq, Repr

def LogLevel.text : LogLevel → String
  | debug => "debug"
  | off => "off"

structure Settings where
  /-- `none` leaves it to the environment. -/
  logLevel : Option LogLevel
  noColor : Bool
  config : Option FilePath
  overrides : Overrides
deriving DecidableEq, Repr, Inhabited

inductive Command where
  /-- Stores the artifacts of key paths. -/
  | build (keyPaths : List String) (force : Bool)
  /-- Handles one request. -/
  | get (url method : String)
  /-- Lists the tree. -/
  | tree (showPaths : Bool)
deriving DecidableEq, Repr, Inhabited

structure Invocation where
  settings : Settings
  command : Command
deriving DecidableEq, Repr, Inhabited

/-! ## Algorithm -/

/-- Help on what the words name, one command at most. -/
def helpOn : List String → Refusal
  | [] => .help
  | [name] => if Level.isName name then .help else .unknownCommand
  | _ => .unknownCommand

/-- Reads up to the name of a command, and gives what is left behind it. -/
def readTop (r : Reading) : List String → Except Refusal (Reading × Option (Level × List String))
  | [] => .ok (r, none)
  | argument :: rest =>
    let isOpen := !r.closed && !r.wantsValue
    match if isOpen then Level.ofName? argument else none with
    | some level => .ok (r, some (level, rest))
    | none =>
      if isOpen && argument == Level.helpName then .error (helpOn rest)
      else
        match r.step .top argument with
        | .ok r => readTop r rest
        | .error e => .error e

/-- The value of a switch, the one behind the command's name first. -/
def valueOf (top inner : Reading) (s : Switch) : Option String := inner.value? s <|> top.value? s

def settingsOf (fallback? : Option String) (top inner : Reading) : Settings :=
  let isOn (s : Switch) : Bool := (valueOf top inner s).isSome
  { logLevel := if isOn .verbose then some .debug else if isOn .quiet then some .off else none
    noColor := isOn .noColor
    config := (valueOf top inner .config <|> fallback?).map FilePath.mk
    overrides :=
      { source := (valueOf top inner .source).map FilePath.mk
        publicDirectory := (valueOf top inner .publicDirectory).map FilePath.mk
        urlPrefix := valueOf top inner .urlPrefix
        global := valueOf top inner .global
        reload := if isOn .reload then some true else none } }

/-- The command of a level whose arguments are read. -/
def commandOf (level : Level) (r : Reading) : Except Refusal Command :=
  match level with
  | .build => .ok (.build r.words (r.has .force))
  | .get =>
    match r.words.head? with
    | some url => .ok (.get url ((r.value? .method).getD "GET"))
    | none => .error .missingArgument
  | .tree => .ok (.tree (r.has .paths))
  | .top => .error .missingCommand

/-- What arguments without a command are refused for. -/
def withoutCommand (fallback? : Option String) (r : Reading) : Refusal :=
  if r.given.isEmpty && fallback?.isNone then .nothingGiven else .missingCommand

/-- The invocation that arguments ask for; the environment may name a configuration. -/
def Invocation.ofArguments (fallback? : Option String) (arguments : List String) :
    Except Refusal Invocation := do
  match ← readTop .empty arguments with
  | (top, none) =>
    let top ← top.finish fallback?
    .error (withoutCommand fallback? top)
  | (top, some (level, rest)) =>
    let inner ← rest.foldlM (Reading.step level) .empty
    let inner ← inner.finish fallback?
    inner.check
    let command ← commandOf level inner
    let top ← top.finish fallback?
    top.check
    .ok ⟨settingsOf fallback? top inner, command⟩

end TemplateBundler.CommandLine
