import TemplateBundler.Text.Decimal
import TemplateBundler.Text.Pieces
import TemplateBundler.Text.Quoted

/-!
# Values a template works on

`Value.text` is what a value prints as inside a template, `Value.json` how a message shows it. The
entries of a map are kept in the order of their keys, which is the order a loop visits them in.
-/

namespace TemplateBundler.Template

inductive Value where
  | null
  | bool (b : Bool)
  | int (n : Int)
  | float (x : Float)
  | text (s : String)
  | list (items : List Value)
  | map (entries : List (String × Value))
deriving Inhabited

namespace Value

/-! ## Algorithm -/

mutual

/-- What the value prints as. -/
def shownText : Value → String
  | null => ""
  | bool b => if b then "true" else "false"
  | int n => toString n
  | float x => Text.positional x
  | text s => s
  | list items => "[" ++ shownItems items ++ "]"
  | map _ => "[object]"

def shownItems : List Value → String
  | [] => ""
  | [v] => shownText v
  | v :: w :: items => shownText v ++ ", " ++ shownItems (w :: items)

end

mutual

/-- The value as JSON without blanks. -/
def json : Value → String
  | null => "null"
  | bool b => if b then "true" else "false"
  | int n => toString n
  | float x => Text.jsonNumber x
  | text s => Text.json s
  | list items => "[" ++ Text.listed "," (jsonItems items) ++ "]"
  | map entries => "\x7b" ++ Text.listed "," (jsonEntries entries) ++ "\x7d"

def jsonItems : List Value → List String
  | [] => []
  | v :: items => json v :: jsonItems items

def jsonEntries : List (String × Value) → List String
  | [] => []
  | (k, v) :: entries => (Text.json k ++ ":" ++ json v) :: jsonEntries entries

end

def isTrue : Value → Bool
  | null => false
  | bool b => b
  | int n => n != 0
  | float x => x != 0
  | text s => s != ""
  | list items => !items.isEmpty
  | map entries => !entries.isEmpty

/-- A number as a float, for comparisons and mixed arithmetic. -/
def float? : Value → Option Float
  | int n => some (if n < 0 then -(Float.ofNat n.natAbs) else Float.ofNat n.natAbs)
  | float x => some x
  | _ => none

mutual

/-- Equality part by part; an integer never equals a float. -/
def same : Value → Value → Bool
  | null, null => true
  | bool a, bool b => a == b
  | int a, int b => a == b
  | float a, float b => a == b
  | text a, text b => a == b
  | list as, list bs => sameItems as bs
  | map as, map bs => sameEntries as bs
  | _, _ => false

def sameItems : List Value → List Value → Bool
  | [], [] => true
  | a :: as, b :: bs => same a b && sameItems as bs
  | _, _ => false

def sameEntries : List (String × Value) → List (String × Value) → Bool
  | [], [] => true
  | (j, a) :: as, (k, b) :: bs => j == k && same a b && sameEntries as bs
  | _, _ => false

end

/-- A list index: digits without a leading zero. -/
def index? (key : String) : Option Nat :=
  match key.toList with
  | [] => none
  | '0' :: _ :: _ => none
  | cs => if cs.all Char.isDigit then some (cs.foldl (fun n c => n * 10 + (c.toNat - 48)) 0) else none

/-- The member of a map or list under a key. -/
def member? (v : Value) (key : String) : Option Value :=
  match v with
  | map entries => entries.lookup key
  | list items => (index? key).bind fun i => items[i]?
  | _ => none

/-- The value reached by following keys one after the other. -/
def follow? (v : Value) : List String → Option Value
  | [] => some v
  | key :: keys => (v.member? key).bind fun w => w.follow? keys

end Value

end TemplateBundler.Template
