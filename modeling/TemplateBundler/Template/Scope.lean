import TemplateBundler.Template.Path
import TemplateBundler.Template.Problem
import TemplateBundler.Template.Value

/-!
# Variables in scope

Names are looked up from the innermost frame outwards and last in the context the template is
rendered with. A frame holds what was assigned in it and, inside a loop, the current item. A name
whose members are not found in one frame is looked up in the next one, as if it were not there.
-/

namespace TemplateBundler.Template

/-- The current round of a loop. -/
structure Round where
  keyName : Option String
  itemName : String
  key : String
  item : Value
  index : Nat
  count : Nat

structure Frame where
  assigned : List (String × Value)
  round : Option Round

structure Scope where
  /-- The innermost frame first. -/
  frames : List Frame
  context : Value

/-- A path without brackets: the name before its first dot, and the text behind it, which is empty
where there are no members to follow. -/
structure Route where
  head : String
  tail : List Char

namespace Route

def ofText (cs : List Char) : Route :=
  ⟨String.ofList (cs.takeWhile (· ≠ '.')), (cs.dropWhile (· ≠ '.')).drop 1⟩

def keys (r : Route) : List String := Path.keys r.tail

end Route

namespace Round

/-- What the loop itself offers on a route. -/
def find? (r : Round) (route : Route) : Option Value :=
  if route.tail.isEmpty && r.keyName == some route.head then some (.text r.key)
  else if route.head == "loop" then
    match String.ofList route.tail with
    | "index" => some (.int (r.index + 1))
    | "index0" => some (.int r.index)
    | "first" => some (.bool (r.index == 0))
    | "last" => some (.bool (r.index + 1 == r.count))
    | _ => none
  else if route.head == r.itemName then r.item.follow? route.keys
  else none

end Round

def Frame.find? (f : Frame) (route : Route) : Option Value :=
  ((f.assigned.lookup route.head).bind fun v => v.follow? route.keys) <|>
    (f.round.bind fun r => r.find? route)

namespace Scope

def ofContext (context : List (String × Value)) : Scope := ⟨[⟨[], none⟩], .map context⟩

def find? (s : Scope) (route : Route) : Option Value :=
  (s.frames.findSome? fun f => f.find? route) <|> s.context.follow? (route.head :: route.keys)

/-- Assigns in the innermost frame. -/
def assign (s : Scope) (name : String) (v : Value) : Scope :=
  match s.frames with
  | f :: frames => { s with frames := { f with assigned := (name, v) :: f.assigned } :: frames }
  | [] => s

/-- The scope inside a round of a loop. -/
def enter (s : Scope) (r : Round) : Scope := { s with frames := ⟨[], some r⟩ :: s.frames }

/-- The scope around the innermost frame. -/
def exit (s : Scope) : Scope := { s with frames := s.frames.drop 1 }

end Scope

/-! ## Paths -/

/-- How a value is written in a path where it is a key. -/
def keyText? : Value → Option String
  | .text k => some ("\"" ++ k ++ "\"")
  | .int n => some (toString n)
  | .float x => some (Text.jsonNumber x)
  | _ => none

/-- Puts the value of the bracketed path `k` of the path `whole` in its place in `cs`. -/
def substitute (whole : String) (k : List Char) (v : Except Problem Value) (cs : List Char) :
    Except Problem (List Char) :=
  match v with
  | .error e => .error (.keyNotEvaluated whole e)
  | .ok v =>
    match keyText? v with
    | some t => .ok (Path.replaceFirst ('[' :: k ++ [']']) ('.' :: t.toList) cs)
    | none => .error (.keyNotUsable (String.ofList k) whole)

def orElse (found : Option Value) (problem : Problem) : Except Problem Value :=
  match found with
  | some v => .ok v
  | none => .error problem

namespace Scope

/-- The value of a path from its text, whose brackets are at most `n` deep. -/
def evaluate (s : Scope) : Nat → List Char → Except Problem Value
  | 0, cs => .error (.missing (String.ofList cs))
  | n + 1, cs =>
    if cs.contains '[' then do
      let whole := String.ofList cs
      let filled ← (Path.inner cs).foldlM (fun text k => substitute whole k (s.evaluate n k) text) cs
      let text := Path.dotted filled
      orElse (s.find? (.ofText text)) (.missingEvaluated whole (String.ofList text))
    else orElse (s.find? (.ofText cs)) (.missing (String.ofList cs))

def lookup (s : Scope) (p : Path) : Except Problem Value :=
  s.evaluate (p.text.length + 1) p.text.toList

end Scope

end TemplateBundler.Template
