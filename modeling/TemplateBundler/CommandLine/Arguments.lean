import TemplateBundler.CommandLine.Switch

/-!
# Reading the arguments of one level

Arguments are taken from left to right. A switch is complete when the next one or a word begins, or
at the end; only then are its value and a second use of it looked at. After `--` everything is a word.
-/

namespace TemplateBundler.CommandLine

/-- Why arguments do not make a command. -/
inductive Refusal where
  /-- Help was asked for. -/
  | help
  | version
  /-- Nothing at all was given. -/
  | nothingGiven
  | missingCommand
  | unknownCommand
  | unknownArgument
  /-- A flag was given a value. -/
  | valueNotTaken
  /-- A value is missing, or it is empty where it may not be. -/
  | invalidValue
  /-- A switch was given twice, or with one that rules it out. -/
  | conflict
  | missingArgument
deriving DecidableEq, Repr, Inhabited

def Refusal.exitCode : Refusal → Nat
  | help | version => 0
  | _ => 2

/-- What was read at a level so far. -/
structure Reading where
  /-- The switches, each with its value; that of a flag is empty. -/
  given : List (Switch × String)
  words : List String
  /-- A switch that takes a value, and the value if it came already. -/
  waiting : Option (Switch × Option String)
  /-- Whether `--` has been read. -/
  closed : Bool
deriving Repr, Inhabited

namespace Reading

/-! ## Algorithm -/

def empty : Reading := ⟨[], [], none, false⟩

def value? (r : Reading) (s : Switch) : Option String := r.given.lookup s

def has (r : Reading) (s : Switch) : Bool := (r.value? s).isSome

/-- Takes a switch with its value. -/
def record (r : Reading) (s : Switch) (value : String) : Except Refusal Reading :=
  if r.has s then .error .conflict
  else if s.isPath && value.isEmpty then .error .invalidValue
  else .ok { r with given := r.given ++ [(s, value)] }

/-- Completes the switch that is waiting. -/
def settle (r : Reading) : Except Refusal Reading :=
  match r.waiting with
  | none => .ok r
  | some (_, none) => .error .invalidValue
  | some (s, some value) => { r with waiting := none }.record s value

/-- Whether the next argument is a value, whatever it is, unless it is a switch. -/
def wantsValue (r : Reading) : Bool :=
  match r.waiting with
  | some (_, none) => !r.closed
  | _ => false

def flag (r : Reading) (s : Switch) : Except Refusal Reading := do
  let r ← r.settle
  match s with
  | .help => .error .help
  | .version => .error .version
  | s => r.record s ""

/-- Takes a switch whose value stands in the same argument. -/
def attached (r : Reading) (s : Switch) (value : List Char) : Except Refusal Reading := do
  let r ← r.settle
  r.record s (String.ofList value)

/-- Takes a switch whose value is still to come. -/
def await (r : Reading) (s : Switch) : Except Refusal Reading := do
  let r ← r.settle
  .ok { r with waiting := some (s, none) }

/-- Takes a name behind two dashes, perhaps with a value behind an equals sign. -/
def long (r : Reading) (level : Level) (text : List Char) : Except Refusal Reading :=
  match level.long? (String.ofList (text.takeWhile (· ≠ '='))) with
  | none => .error .unknownArgument
  | some s =>
    match text.dropWhile (· ≠ '=') with
    | _ :: value => if s.takesValue then r.attached s value else .error .valueNotTaken
    | [] => if s.takesValue then r.await s else r.flag s

/-- Takes letters behind one dash. A letter that takes a value takes the rest as its value. -/
def letters (level : Level) : List Char → Reading → Except Refusal Reading
  | [], r => .ok r
  | c :: cs, r =>
    match level.short? c with
    | none => .error .unknownArgument
    | some s =>
      if s.takesValue then
        match cs with
        | [] => r.await s
        | '=' :: value | value => r.attached s value
      else do
        let r ← r.flag s
        letters level cs r

/-- Whether one more word may stand at a level. -/
def hasRoom (r : Reading) (level : Level) : Bool :=
  match level.room? with
  | some n => r.words.length < n
  | none => true

/-- What a word too many is taken for. Before the name of a command it is taken for one, unless it
is one and `--` keeps it from being read so. -/
def stray (r : Reading) (level : Level) (text : String) : Refusal :=
  if level = .top && !(r.closed && Level.isName text) then .unknownCommand else .unknownArgument

def word (r : Reading) (level : Level) (text : String) : Except Refusal Reading :=
  if r.hasRoom level then do
    let r ← r.settle
    .ok { r with words := r.words ++ [text] }
  else .error (r.stray level text)

/-- Takes one argument. -/
def step (level : Level) (r : Reading) (argument : String) : Except Refusal Reading :=
  if r.closed then r.word level argument
  else
    match argument.toList with
    | ['-', '-'] => .ok { r with closed := true }
    | '-' :: '-' :: text => r.long level text
    | '-' :: c :: cs => letters level (c :: cs) r
    | _ =>
      match r.waiting with
      | some (s, none) => .ok { r with waiting := some (s, some argument) }
      | _ => r.word level argument

/-- What holds of a level once its arguments are read. The environment may name a configuration
where no argument does. -/
def finish (r : Reading) (fallback? : Option String) : Except Refusal Reading := do
  let r ← r.settle
  if !r.has .config && fallback? == some "" then .error .invalidValue else .ok r

/-- Refuses switches that rule each other out. -/
def check (r : Reading) : Except Refusal Unit :=
  if r.has .verbose && r.has .quiet then .error .conflict else .ok ()

end Reading

end TemplateBundler.CommandLine
