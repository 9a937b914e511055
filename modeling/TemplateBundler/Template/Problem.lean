import TemplateBundler.Template.Expression

/-!
# What can go wrong while a template renders

`Problem.causes` is the chain of messages, the outermost first.
-/

namespace TemplateBundler.Template

inductive Problem where
  | missing (path : String)
  | missingEvaluated (path evaluated : String)
  | keyNotEvaluated (path : String) (cause : Problem)
  | keyNotUsable (key path : String)
  | unknownFilter (name : String)
  | filterFailed (name : String) (cause : Problem)
  | filterInput (name json expected : String)
  | filterArgument (name argument json expected : String)
  | noLength
  | noDefaultValue
  | notNumber (path : String)
  | textInArithmetic (s : String)
  | boolInArithmetic (b : Bool)
  | joinInArithmetic (shown : String)
  | noNumberInArithmetic
  | overflow (left right : Int) (op : Arithmetic) (signed : Bool)
  | remainderByZero (left right : String)
  | comparisonToNaN
  | notJoinable (path : String)
  | loopContainer (shown : String)
  | keyValueLoopOverItems (container : String)
  | loopWithoutKey (container : String)
  | notIterable (container : String)
  | outsideLoop (word : String)
  | tooDeep
deriving Inhabited

namespace Problem

/-- A text between backquotes. -/
def ticked (s : String) : String := "\x60" ++ s ++ "\x60"

def missingText (path : String) : String :=
  "Variable " ++ ticked path ++ " not found in context while rendering 'unit'"

def sign : Arithmetic → String
  | .add => "+"
  | .sub => "-"
  | .mul => "x"
  | .div => "/"
  | .rem => "%"

def message : Problem → String
  | missing path => missingText path
  | missingEvaluated path evaluated =>
    missingText path ++ ": the evaluated version was " ++ ticked evaluated ++
      ". Maybe the index is out of bounds?"
  | keyNotEvaluated path cause =>
    "Variable " ++ path ++ " can not be evaluated because: " ++ cause.message
  | keyNotUsable key path =>
    "Only variables evaluating to String or Number can be used as index (" ++ ticked key ++ " of " ++
      ticked path ++ ")"
  | unknownFilter name => "Filter '" ++ name ++ "' not found"
  | filterFailed name _ => "Filter call '" ++ name ++ "' failed"
  | filterInput name json expected =>
    "Filter " ++ ticked name ++ " was called on an incorrect value: got " ++ ticked json ++
      " but expected a " ++ expected
  | filterArgument name argument json expected =>
    "Filter " ++ ticked name ++ " received an incorrect type for arg " ++ ticked argument ++ ": got " ++
      ticked json ++ " but expected a " ++ expected
  | noLength =>
    "Filter " ++ ticked "length" ++
      " was used on a value that isn't an array, an object, or a string."
  | noDefaultValue => "The " ++ ticked "default" ++ " filter requires a " ++ ticked "value" ++ " argument."
  | notNumber path =>
    "Variable " ++ ticked path ++ " was used in a math operation but is not a number"
  | textInArithmetic s => "Tried to do math with a string: " ++ ticked s
  | boolInArithmetic b => "Tried to do math with a boolean: " ++ ticked (toString b)
  | joinInArithmetic shown => "Tried to do math with a string concatenation: " ++ shown
  | noNumberInArithmetic => "Tried to do math with an expression not resulting in a number"
  | overflow left right op signed =>
    toString left ++ " " ++ sign op ++ " " ++ toString right ++ " results in an out of bounds " ++
      if signed then "i64" else "u64"
  | remainderByZero left right => "Tried to do a modulo by zero: " ++ left ++ "/" ++ right
  | comparisonToNaN => "Comparison to NaN"
  | notJoinable path => "Tried to concat a value that is not a string or a number from ident " ++ path
  | loopContainer shown =>
    "Forloop containers have to be an ident or a function call (tried to iterate on '" ++ shown ++ "')"
  | keyValueLoopOverItems container =>
    "Tried to iterate using key value on variable " ++ ticked container ++
      ", but it isn't an object/map"
  | loopWithoutKey container =>
    "Tried to iterate using key value on variable " ++ ticked container ++ ", but it is missing a key"
  | notIterable container =>
    "Tried to iterate on a container (" ++ ticked container ++ ") that has a unsupported type"
  | outsideLoop word => "Attempted " ++ ticked word ++ " while not in " ++ ticked "for loop"
  | tooDeep => "Blocks are nested too deep"

def causes : Problem → List String
  | filterFailed name cause => (filterFailed name cause).message :: cause.causes
  | p => [p.message]

end Problem

end TemplateBundler.Template
