import TemplateBundler.Text.Quoted
import TemplateBundler.Tree.Traversal

/-!
# The bindings of an artifact

An artifact assigns to each unit of a subtree its renderer's code. The target of the top unit is the
root variable; that of a unit below adds one member access per name on the way down, a dot and the
name where it is an identifier and the quoted name in brackets elsewhere.
-/

namespace TemplateBundler.Artifact

/-! ## Algorithm -/

def startsIdentifier (c : Char) : Bool := c.isAlpha || c == '_' || c == '$'

def continuesIdentifier (c : Char) : Bool := startsIdentifier c || c.isDigit

/-- Whether a text can follow a dot in a script. Only ASCII letters count. -/
def isIdentifier (s : String) : Bool :=
  match s.toList with
  | c :: cs => startsIdentifier c && cs.all continuesIdentifier
  | [] => false

def access (name : String) : String :=
  if isIdentifier name then "." ++ name else "[" ++ Text.json name ++ "]"

/-- The names from `top`, left out, down to a unit below it. -/
def namesBelow (t : UnitTree) (top i : Nat) : List String :=
  (((i :: t.ancestors i).takeWhile (· ≠ top)).map t.name).reverse

def target (t : UnitTree) (top i : Nat) : String :=
  Conventions.rootVariable ++ String.join ((namesBelow t top i).map access)

def codeOf (t : UnitTree) (i : Nat) : String :=
  match t.unit? i with
  | some u => u.renderer.code
  | none => ""

/-- The assignment of one unit, on a line of its own. -/
def binding (t : UnitTree) (top i : Nat) : String := target t top i ++ " = " ++ codeOf t i ++ ";\n"

/-- The assignments of a subtree, each unit before those below it. -/
def bindings (t : UnitTree) (top : Nat) : List String := (t.descendants top).map (binding t top)

end TemplateBundler.Artifact
