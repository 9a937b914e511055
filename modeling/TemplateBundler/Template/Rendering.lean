import TemplateBundler.Template.Evaluation
import TemplateBundler.Template.Node

/-!
# Rendering a template

A body renders its nodes in order until one of them leaves the round of the loop it stands in.
Assignments reach the end of the frame they are made in: the template, or one round of a loop.
-/

namespace TemplateBundler.Template

/-- How a body ends: at its end, or by leaving the round or the whole loop. -/
inductive Flow where
  | done
  | next
  | leave
deriving DecidableEq

/-- Text rendered so far, the way the rendering ended, and the scope after it. -/
structure Rendered where
  text : String
  flow : Flow
  scope : Scope

abbrev Run := Scope → Except Problem Rendered

namespace Run

def emit (text : String) : Run := fun s => .ok ⟨text, .done, s⟩

/-- `second` after `first`, unless `first` leaves. -/
def andThen (first second : Run) : Run := fun s => do
  let r ← first s
  match r.flow with
  | .done =>
    let q ← second r.scope
    .ok { q with text := r.text ++ q.text }
  | _ => .ok r

/-- `break` and `continue` need a loop around them. -/
def jump (flow : Flow) (word : String) : Run := fun s =>
  match s.frames with
  | ⟨_, some _⟩ :: _ => .ok ⟨"", flow, s⟩
  | _ => .error (.outsideLoop word)

/-- The rounds of a loop one after the other. -/
def rounds (body : Run) : List Round → Run
  | [] => emit ""
  | r :: rest => fun s => do
    let one ← body (s.enter r)
    let after := one.scope.exit
    match one.flow with
    | .leave => .ok ⟨one.text, .done, after⟩
    | _ =>
      let more ← rounds body rest after
      .ok { more with text := one.text ++ more.text }

end Run

/-! ## Loops -/

/-- What a loop calls its container, where it may run over it at all. -/
def containerName : Term → Except Problem String
  | .path p => .ok p.text
  | .list _ => .ok "an array literal"
  | t => .error (.loopContainer t.described)

/-- The rounds over a list of keys and items. -/
def roundsOver (keyName : Option String) (itemName : String) (entries : List (String × Value)) :
    List Round :=
  entries.zipIdx.map fun (entry, i) => ⟨keyName, itemName, entry.1, entry.2, i, entries.length⟩

/-- What a loop visits: the items of a list, the characters of a text, the entries of a map. -/
def entriesOf (keyName : Option String) (container : String) (v : Value) :
    Except Problem (List (String × Value)) :=
  match v, keyName with
  | .list _, some _ | .text _, some _ => .error (.keyValueLoopOverItems container)
  | .list items, none => .ok (items.map fun v => ("", v))
  | .text s, none => .ok (s.toList.map fun c => ("", .text (toString c)))
  | .map _, none => .error (.loopWithoutKey container)
  | .map entries, some _ => .ok entries
  | _, _ => .error (.notIterable container)

def loopRounds (s : Scope) (keyName : Option String) (itemName : String) (container : Expr) :
    Except Problem (List Round) := do
  let name ← containerName container.term
  let v ← (container.reading s).value false
  let entries ← entriesOf keyName name v
  .ok (roundsOver keyName itemName entries)

/-! ## Nodes -/

/-- What rendering depends on besides the scope. -/
structure Setting where
  escaped : Bool
  /-- How the block of a name renders, where the template has one. -/
  block? : String → Option Run

mutual

def renderNode (setting : Setting) : Node → Run
  | .text t => Run.emit t
  | .comment _ => Run.emit ""
  | .raw _ t _ => Run.emit t
  | .print _ e => fun s => do
    let v ← (e.reading s).value setting.escaped
    .ok ⟨v.shownText, .done, s⟩
  | .assign _ name e => fun s => do
    let v ← (e.reading s).value false
    .ok ⟨"", .done, s.assign name v⟩
  | .leave _ => Run.jump .leave "break"
  | .next _ => Run.jump .next "continue"
  | .branch arms otherwise _ => renderArms setting (renderOtherwise setting otherwise) arms
  | .loop _ key item container body empty _ => fun s => do
    let rounds ← loopRounds s key item container
    if rounds.isEmpty then renderBody setting empty s
    else Run.rounds (renderBody setting body) rounds s
  | .block _ name body _ => fun s =>
    match setting.block? name with
    | some run => run s
    | none => renderBody setting body s

def renderBody (setting : Setting) : List Node → Run
  | [] => Run.emit ""
  | n :: nodes => (renderNode setting n).andThen (renderBody setting nodes)

/-- The first arm whose condition holds; `last` stands behind them all. -/
def renderArms (setting : Setting) (last : Run) : List Arm → Run
  | [] => last
  | a :: arms => renderArm setting (renderArms setting last arms) a

def renderArm (setting : Setting) (otherwise : Run) : Arm → Run
  | .mk _ none body => renderBody setting body
  | .mk _ (some condition) body => fun s => do
    if ← (condition.reading s).truth setting.escaped then renderBody setting body s else otherwise s

def renderOtherwise (setting : Setting) : Option Arm → Run
  | some arm => renderArm setting (Run.emit "") arm
  | none => Run.emit ""

end

/-- A body whose blocks are those in `blocks`, at most `depth` of them inside each other. A block
that is not among them renders the body it has where it stands. -/
def renderWithin (escaped : Bool) (blocks : List (String × List Node)) : Nat → List Node → Run
  | 0, _ => fun _ => .error .tooDeep
  | depth + 1, body => renderBody
      ⟨escaped, fun name => (blocks.lookup name).map (renderWithin escaped blocks depth)⟩ body

/-- How deep blocks go at most. -/
def maxDepth : Nat := 1000

/-- The text of a template in a context. A block renders as it is declared at the top of the
template or in another such block, also where it is declared once more. -/
def render (escaped : Bool) (body : List Node) (context : List (String × Value)) :
    Except Problem String :=
  (renderWithin escaped (blocksOf body) maxDepth body (.ofContext context)).map Rendered.text

end TemplateBundler.Template
