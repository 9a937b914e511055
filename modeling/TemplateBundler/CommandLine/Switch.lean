/-!
# Switches of the command line

A switch is what an argument with leading dashes stands for: a flag, or an option that takes a value.
Most belong to every command and may stand before its name as well.
-/

namespace TemplateBundler.CommandLine

inductive Switch where
  | verbose
  | quiet
  | config
  | noColor
  | source
  | publicDirectory
  | urlPrefix
  | global
  | reload
  | force
  | method
  | paths
  | help
  | version
deriving DecidableEq, Repr, Inhabited

/-- Where an argument stands: before the name of a command, or behind it. -/
inductive Level where
  | top
  | build
  | get
  | tree
deriving DecidableEq, Repr, Inhabited

namespace Switch

/-- The name that two dashes introduce. -/
def long : Switch → String
  | verbose => "verbose"
  | quiet => "quiet"
  | config => "config"
  | noColor => "no-color"
  | source => "source"
  | publicDirectory => "public"
  | urlPrefix => "prefix"
  | global => "global"
  | reload => "reload"
  | force => "force"
  | method => "method"
  | paths => "paths"
  | help => "help"
  | version => "version"

/-- The letter that one dash introduces. -/
def short? : Switch → Option Char
  | verbose => some 'v'
  | quiet => some 'q'
  | config => some 'c'
  | force => some 'f'
  | method => some 'X'
  | help => some 'h'
  | version => some 'V'
  | _ => none

def takesValue : Switch → Bool
  | config | source | publicDirectory | urlPrefix | global | method => true
  | _ => false

/-- Whether the value is a path, which may not be empty. -/
def isPath : Switch → Bool
  | config | source | publicDirectory => true
  | _ => false

end Switch

namespace Level

def everywhere : List Switch :=
  [.verbose, .quiet, .config, .noColor, .source, .publicDirectory, .urlPrefix, .global, .reload,
    .help]

def switches : Level → List Switch
  | top => everywhere ++ [.version]
  | build => everywhere ++ [.force]
  | get => everywhere ++ [.method]
  | tree => everywhere ++ [.paths]

def long? (l : Level) (name : String) : Option Switch := l.switches.find? (·.long == name)

def short? (l : Level) (c : Char) : Option Switch := l.switches.find? (·.short? == some c)

/-- How many words may stand at a level, if not any number. -/
def room? : Level → Option Nat
  | top | tree => some 0
  | get => some 1
  | build => none

/-- The level behind the name of a command. -/
def ofName? : String → Option Level
  | "build" => some build
  | "get" => some get
  | "tree" => some tree
  | _ => none

/-- The name that asks for help on a command. -/
def helpName : String := "help"

def isName (s : String) : Bool := (ofName? s).isSome || s == helpName

end Level

end TemplateBundler.CommandLine
