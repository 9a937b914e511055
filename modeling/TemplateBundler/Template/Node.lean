import TemplateBundler.Template.Expression
import TemplateBundler.Text.Ranges

/-!
# Template bodies

A body is a list of nodes. A tag may ask, at either of its edges, for the blanks next to it to go:
`trimmed` carries that out. A text loses its leading blanks where the edge before it asks, and its
trailing blanks where the edge after it asks; an edge that meets another tag asks for nothing. The
body that a loop over nothing has instead keeps all of its blanks.
-/

namespace TemplateBundler.Template

/-- Whether a tag takes the blanks before and after it away. -/
structure Edges where
  before : Bool
  after : Bool
deriving DecidableEq, Inhabited

mutual

inductive Node where
  | text (s : String)
  | comment (edges : Edges)
  | raw (start : Edges) (s : String) (stop : Edges)
  | print (edges : Edges) (value : Expr)
  | assign (edges : Edges) (name : String) (value : Expr)
  | leave (edges : Edges)
  | next (edges : Edges)
  | branch (arms : List Arm) (otherwise : Option Arm) (stop : Edges)
  | loop (start : Edges) (key : Option String) (item : String) (container : Expr)
      (body empty : List Node) (stop : Edges)
  | block (start : Edges) (name : String) (body : List Node) (stop : Edges)

/-- One arm of a branch; the arm without a condition has `none`. -/
inductive Arm where
  | mk (edges : Edges) (condition : Option Expr) (body : List Node)

end

def Arm.edges : Arm → Edges
  | .mk edges _ _ => edges

/-! ## Algorithm -/

/-- Whether the node takes the blanks before it away. -/
def Node.asksBefore : Node → Bool
  | .text _ => false
  | .comment e | .print e _ | .assign e _ _ | .leave e | .next e => e.before
  | .raw e _ _ | .loop e _ _ _ _ _ _ | .block e _ _ _ => e.before
  | .branch (arm :: _) _ _ => arm.edges.before
  | .branch [] _ _ => false

/-- Whether the node takes the blanks after it away. -/
def Node.asksAfter : Node → Bool
  | .text _ => false
  | .comment e | .print e _ | .assign e _ _ | .leave e | .next e => e.after
  | .raw _ _ e | .branch _ _ e | .loop _ _ _ _ _ _ e | .block _ _ _ e => e.after

/-- What stands before the rest of a body asks of the text before it; `right` is asked by the edge
that ends the body. -/
def asksBefore (right : Bool) : List Node → Bool
  | [] => right
  | n :: _ => n.asksBefore

/-- A text without the blanks at the sides that ask for it. -/
def trimSides (left right : Bool) (s : String) : String :=
  let cs := if left then Text.trimStart s.toList else s.toList
  String.ofList (if right then Text.trimEnd cs else cs)

mutual

/-- One node with its own bodies trimmed; `left` and `right` say whether its neighbours ask it to
give up blanks, which only a text has. -/
def trimNode (left right : Bool) : Node → Node
  | .text s => .text (trimSides left right s)
  | .comment e => .comment e
  | .raw start s stop => .raw start (trimSides start.after stop.before s) stop
  | .print e v => .print e v
  | .assign e name v => .assign e name v
  | .leave e => .leave e
  | .next e => .next e
  | .branch arms otherwise stop =>
    let last := match otherwise with
      | some arm => arm.edges.before
      | none => stop.before
    .branch (trimArms last arms) (trimOtherwise stop.before otherwise) stop
  | .loop start key item container body empty stop =>
    .loop start key item container (trimBody start.after stop.before body) empty stop
  | .block start name body stop => .block start name (trimBody start.after stop.before body) stop

/-- A body between an edge that asks as `left` says and one that asks as `right` says. -/
def trimBody (left right : Bool) : List Node → List Node
  | [] => []
  | n :: nodes => trimNode left (asksBefore right nodes) n :: trimBody n.asksAfter right nodes

/-- The arms of a branch; `last` says whether the edge that ends the last of them asks. -/
def trimArms (last : Bool) : List Arm → List Arm
  | [] => []
  | a :: arms =>
    let right := match arms with
      | next :: _ => next.edges.before
      | [] => last
    trimArm right a :: trimArms last arms

def trimArm (right : Bool) : Arm → Arm
  | .mk edges condition body => .mk edges condition (trimBody edges.after right body)

def trimOtherwise (right : Bool) : Option Arm → Option Arm
  | some arm => some (trimArm right arm)
  | none => none

end

/-- The blocks that stand in a body or in other blocks of it, in their order, with their bodies. -/
def blocksOf : List Node → List (String × List Node)
  | [] => []
  | .block _ name body _ :: nodes => (name, body) :: (blocksOf body ++ blocksOf nodes)
  | _ :: nodes => blocksOf nodes

end TemplateBundler.Template
