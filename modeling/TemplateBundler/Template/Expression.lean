import TemplateBundler.Template.Path
import TemplateBundler.Text.Decimal
import TemplateBundler.Text.Pieces
import TemplateBundler.Text.Quoted

/-!
# Expressions

An expression is a term with the filters applied to it, and may be negated; the three are kept apart
because a condition, a sum and a printed value look at them differently. `Term.described` is how a
message shows a term that cannot stand where it does. Texts that are joined are one text, unless
something else stands between them (`Term.ofJoined`).
-/

namespace TemplateBundler.Template

inductive Arithmetic where
  | add | sub | mul | div | rem
deriving DecidableEq

inductive Comparison where
  | eq | ne | ge | gt | le | lt
deriving DecidableEq

/-- What `~` may join. -/
inductive Joinable where
  | int (n : Int)
  | float (x : Float)
  | text (s : String)
  | path (p : Path)

mutual

inductive Term where
  | int (n : Int)
  | float (x : Float)
  | bool (b : Bool)
  | text (s : String)
  | path (p : Path)
  | arithmetic (op : Arithmetic) (left right : Expr)
  | comparison (op : Comparison) (left right : Expr)
  | and (left right : Expr)
  | or (left right : Expr)
  | joined (parts : List Joinable)
  | list (items : List Expr)

inductive Expr where
  | mk (negated : Bool) (term : Term) (filters : List Filter)

inductive Filter where
  | mk (name : String) (arguments : List Argument)

inductive Argument where
  | mk (name : String) (value : Expr)

end

def Expr.ofTerm (t : Term) : Expr := .mk false t []

def Expr.term : Expr → Term
  | .mk _ term _ => term

def Expr.filters : Expr → List Filter
  | .mk _ _ filters => filters

def Argument.name : Argument → String
  | .mk name _ => name

/-- The expression with its negation set to `b`, whatever it was. -/
def Expr.setNegated (b : Bool) (e : Expr) : Expr := .mk b e.term e.filters

/-! ## Joined texts -/

/-- The parts with texts that stand next to each other as one, and empty texts left out; `text` is
what the texts before come to. -/
def mergeTexts (text : String) : List Joinable → List Joinable
  | [] => close text []
  | .text s :: parts => mergeTexts (text ++ s) parts
  | p :: parts => close text (p :: mergeTexts "" parts)
where
  close (text : String) (parts : List Joinable) : List Joinable :=
    if text = "" then parts else .text text :: parts

/-- The parts with `~` between them. -/
def Term.ofJoined (parts : List Joinable) : Term :=
  match mergeTexts "" parts with
  | [] => .text ""
  | [.text s] => .text s
  | merged => .joined merged

/-! ## Descriptions -/

def Arithmetic.described : Arithmetic → String
  | add => "Add"
  | sub => "Sub"
  | mul => "Mul"
  | div => "Div"
  | rem => "Modulo"

def Comparison.described : Comparison → String
  | eq => "Eq"
  | ne => "NotEq"
  | ge => "Gte"
  | gt => "Gt"
  | le => "Lte"
  | lt => "Lt"

def Joinable.described : Joinable → String
  | int n => "Int(" ++ toString n ++ ")"
  | float x => "Float(" ++ Text.shownNumber x ++ ")"
  | text s => "String(" ++ Text.shown s ++ ")"
  | path p => "Ident(" ++ Text.shown p.text ++ ")"

def operation (kind left right operator : String) : String :=
  Text.inBraces kind ("lhs: " ++ left ++ ", rhs: " ++ right ++ ", operator: " ++ operator)

mutual

def Term.described : Term → String
  | .int n => "Int(" ++ toString n ++ ")"
  | .float x => "Float(" ++ Text.shownNumber x ++ ")"
  | .bool b => "Bool(" ++ toString b ++ ")"
  | .text s => "String(" ++ Text.shown s ++ ")"
  | .path p => "Ident(" ++ Text.shown p.text ++ ")"
  | .arithmetic op l r => "Math(" ++ operation "MathExpr" l.described r.described op.described ++ ")"
  | .comparison op l r => "Logic(" ++ operation "LogicExpr" l.described r.described op.described ++ ")"
  | .and l r => "Logic(" ++ operation "LogicExpr" l.described r.described "And" ++ ")"
  | .or l r => "Logic(" ++ operation "LogicExpr" l.described r.described "Or" ++ ")"
  | .joined parts => "StringConcat(" ++ Text.inBraces "StringConcat"
      ("values: [" ++ Text.listed ", " (parts.map Joinable.described) ++ "]") ++ ")"
  | .list items => "Array([" ++ Text.listed ", " (describedItems items) ++ "])"

def Expr.described : Expr → String
  | .mk negated term filters =>
    Text.inBraces "Expr" ("val: " ++ term.described ++ ", negated: " ++ toString negated ++ ", filters: [" ++
      Text.listed ", " (describedFilters filters) ++ "]")

def describedItems : List Expr → List String
  | [] => []
  | e :: items => e.described :: describedItems items

def describedFilters : List Filter → List String
  | [] => []
  | f :: filters => f.described :: describedFilters filters

def Filter.described : Filter → String
  | .mk name arguments =>
    Text.inBraces "FunctionCall" ("name: " ++ Text.shown name ++ ", args: \x7b" ++
      Text.listed ", " (describedArguments arguments) ++ "\x7d")

def describedArguments : List Argument → List String
  | [] => []
  | a :: arguments => a.described :: describedArguments arguments

def Argument.described : Argument → String
  | .mk name value => Text.shown name ++ ": " ++ value.described

end

end TemplateBundler.Template
