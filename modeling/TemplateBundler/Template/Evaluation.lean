import TemplateBundler.Template.Scope
import TemplateBundler.Text.Case
import TemplateBundler.Text.Ranges
import TemplateBundler.Word

/-!
# Evaluating expressions

An expression has three readings: the value it prints, its truth in a condition, and its number in
arithmetic. Each takes whether texts are escaped; only texts that come from a literal, a path or a
filter are, and not where `safe` is the last filter.
-/

namespace TemplateBundler.Template

/-! ## Escaping -/

def escapeChar (c : Char) : List Char :=
  match c with
  | '&' => "&amp;".toList
  | '<' => "&lt;".toList
  | '>' => "&gt;".toList
  | '"' => "&quot;".toList
  | '/' => "&#x2F;".toList
  | c => if c.toNat = 39 then "&#x27;".toList else [c]

def escape (s : String) : String := String.ofList (s.toList.flatMap escapeChar)

/-! ## Filters -/

def text? (filter : String) : Value → Except Problem String
  | .text s => .ok s
  | v => .error (.filterInput filter v.json "String")

def list? (filter : String) : Value → Except Problem (List Value)
  | .list items => .ok items
  | v => .error (.filterInput filter v.json "Vec<Value>")

/-- A separator may spell a line end or a tab with a backslash. -/
def unescapeSeparator : List Char → List Char
  | '\\' :: 'n' :: cs => '\n' :: unescapeSeparator cs
  | '\\' :: 't' :: cs => '\t' :: unescapeSeparator cs
  | c :: cs => c :: unescapeSeparator cs
  | [] => []

def separator (arguments : List (String × Value)) : Except Problem String :=
  match arguments.lookup "sep" with
  | none => .ok ""
  | some (.text s) => .ok (String.ofList (unescapeSeparator s.toList))
  | some v => .error (.filterArgument "truncate" "sep" v.json "String")

abbrev FilterFunction := List (String × Value) → Value → Except Problem Value

def filterFunction? : String → Option FilterFunction
  | "upper" => some fun _ v => (text? "upper" v).map fun s => .text (Text.upper s)
  | "lower" => some fun _ v => (text? "lower" v).map fun s => .text (Text.lower s)
  | "trim" => some fun _ v => (text? "trim" v).map fun s => .text (String.ofList (Text.trim s.toList))
  | "first" => some fun _ v => (list? "first" v).map fun items => items.head?.getD (.text "")
  | "last" => some fun _ v => (list? "last" v).map fun items => items.getLast?.getD (.text "")
  | "length" => some fun _ v =>
    match v with
    | .list items => .ok (.int items.length)
    | .map entries => .ok (.int entries.length)
    | .text s => .ok (.int s.length)
    | _ => .error .noLength
  | "join" => some fun arguments v => do
    let items ← list? "join" v
    let sep ← separator arguments
    .ok (.text (Text.listed sep (items.map Value.shownText)))
  | _ => none

/-! ## Arithmetic -/

/-- The number of a float, where it has one. -/
def ofFloat (x : Float) : Option Value := if x.isNaN || x.isInf then none else some (.float x)

/-- An operation on two numbers: exact where both have 64 bits with a sign or both without, else on
floats. -/
def exactly (op : Arithmetic) (whole : Int → Int → Int) (inexact : Float → Float → Float)
    (a b : Value) : Except Problem (Option Value) :=
  match a, b with
  | .int m, .int n =>
    let r := whole m n
    if Word.isSigned 64 m && Word.isSigned 64 n then
      if Word.isSigned 64 r then .ok (some (.int r)) else .error (.overflow m n op true)
    else if 0 ≤ m && 0 ≤ n then
      if Word.isUnsigned 64 r then .ok (some (.int r)) else .error (.overflow m n op false)
    else .ok (inFloats a b)
  | a, b => .ok (inFloats a b)
where
  inFloats (a b : Value) : Option Value :=
    match a.float?, b.float? with
    | some x, some y => ofFloat (inexact x y)
    | _, _ => none

/-- A quotient that is whole is an integer again. -/
def divide (a b : Value) : Option Value :=
  match a.float?, b.float? with
  | some x, some y =>
    let q := x / y
    if q.isNaN then none
    else if q.round == q && q.isFinite then some (.int q.toInt64.toInt)
    else ofFloat q
  | _, _ => none

/-- Arithmetic on two numbers; `left` and `right` are how a message shows the operands. -/
def calculate (op : Arithmetic) (left right : String) (a b : Value) :
    Except Problem (Option Value) :=
  match op with
  | .add => exactly .add (· + ·) (· + ·) a b
  | .sub => exactly .sub (· - ·) (· - ·) a b
  | .mul => exactly .mul (· * ·) (· * ·) a b
  | .div => .ok (divide a b)
  | .rem =>
    match a, b with
    | .int _, .int 0 => .error (.remainderByZero left right)
    | _, _ => exactly .rem Int.tmod Text.floatRemainder a b

/-! ## Readings -/

/-- A comparison of a number with something else is false, negated or not. -/
inductive Verdict where
  | holds (b : Bool)
  | incomparable

def Verdict.negatedIf (negated : Bool) : Verdict → Bool
  | holds b => b != negated
  | incomparable => false

/-- What a term means before negation and filters. -/
structure TermReading where
  value : Bool → Except Problem Value
  truth : Bool → Except Problem Verdict
  number : Bool → Except Problem (Option Value)

structure Reading where
  value : Bool → Except Problem Value
  truth : Bool → Except Problem Bool
  number : Bool → Except Problem (Option Value)

namespace TermReading

/-- A term that is true exactly where its value is. -/
def ofValue (v : Bool → Except Problem Value) (number : Except Problem (Option Value)) :
    TermReading :=
  ⟨v, fun e => (v e).map fun v => .holds v.isTrue, fun _ => number⟩

def ofConstant (v : Value) (number : Except Problem (Option Value)) : TermReading :=
  ofValue (fun _ => .ok v) number

def ofPath (s : Scope) (p : Path) : TermReading :=
  let found := s.lookup p
  ofValue (fun _ => found) <| found.bind fun v =>
    match v with
    | .int _ | .float _ => .ok (some v)
    | _ => .error (.notNumber p.text)

/-- A term that is a number, or no number at all. -/
def ofNumber (number : Bool → Except Problem (Option Value)) : TermReading :=
  ⟨fun e => (number e).map fun n => n.getD (.text "NaN"),
    fun e => (number e).map fun n => .holds ((n.map Value.isTrue).getD false), number⟩

def ofTruth (truth : Bool → Except Problem Verdict) : TermReading :=
  ⟨fun e => (truth e).map fun t => .bool (t.negatedIf false), truth,
    fun _ => .error .noNumberInArithmetic⟩

def arithmetic (op : Arithmetic) (left right : String) (l r : Reading) : TermReading :=
  ofNumber fun e => do
    let a ← l.number e
    let b ← r.number e
    match a, b with
    | some a, some b => calculate op left right a b
    | _, _ => .ok none

/-- Order is between numbers; `none` stands for equality. -/
def order? : Comparison → Option (Float → Float → Bool)
  | .ge => some fun x y => x ≥ y
  | .gt => some fun x y => x > y
  | .le => some fun x y => x ≤ y
  | .lt => some fun x y => x < y
  | .eq | .ne => none

def equal (expected : Bool) (a b : Value) : Verdict :=
  match a.float?, b.float? with
  | some x, some y => .holds ((x == y) == expected)
  | none, none => .holds (a.same b == expected)
  | _, _ => .incomparable

def comparison (op : Comparison) (l r : Reading) : TermReading :=
  ofTruth fun e =>
    match order? op with
    | some holds => do
      let a ← l.number e
      let b ← r.number e
      match a.bind Value.float?, b.bind Value.float? with
      | some x, some y => .ok (.holds (holds x y))
      | _, _ => .error .comparisonToNaN
    | none => do
      let a ← l.value e
      let b ← r.value e
      .ok (equal (op == .eq) a b)

def and (l r : Reading) : TermReading :=
  ofTruth fun e => do
    if ← l.truth e then (r.truth e).map .holds else .ok (.holds false)

def or (l r : Reading) : TermReading :=
  ofTruth fun e => do
    if ← l.truth e then .ok (.holds true) else (r.truth e).map .holds

/-- The text a part of a joined text contributes. -/
def joinedPart (s : Scope) : Joinable → Except Problem String
  | .int n => .ok (toString n)
  | .float x => .ok (Text.positional x)
  | .text t => .ok t
  | .path p => do
    match ← s.lookup p with
    | .text t => .ok t
    | .int n => .ok (toString n)
    | .float x => .ok (Text.jsonNumber x)
    | _ => .error (.notJoinable p.text)

def joinedShown : Joinable → String
  | .text t => "'" ++ t ++ "'"
  | .path p => p.text
  | _ => "unknown"

def joined (s : Scope) (parts : List Joinable) : TermReading :=
  ofValue
    (fun _ => (parts.mapM (joinedPart s)).map fun texts => .text (texts.foldl (· ++ ·) ""))
    (.error (.joinInArithmetic (Text.listed " ~ " (parts.map joinedShown))))

end TermReading

/-- A filter with its arguments read. -/
structure FilterReading where
  name : String
  arguments : List (String × Reading)

namespace FilterReading

/-- Arguments are never escaped. -/
def values (f : FilterReading) : Except Problem (List (String × Value)) :=
  f.arguments.mapM fun (name, r) => (r.value false).map fun v => (name, v)

/-- The filtered value. `safe` and `default` leave a value alone, and whether it is escaped. -/
def apply (f : FilterReading) : Value × Bool → Except Problem (Value × Bool)
  | (v, escapable) =>
    if f.name == "safe" || f.name == "default" then .ok (v, escapable)
    else
      match filterFunction? f.name with
      | none => .error (.unknownFilter f.name)
      | some function =>
        match f.values.bind fun arguments => function arguments v with
        | .ok w => .ok (w, true)
        | .error e => .error (.filterFailed f.name e)

def defaultValue (f : FilterReading) (escaped : Bool) : Except Problem Value :=
  match f.arguments.lookup "value" with
  | some r => r.value escaped
  | none => .error .noDefaultValue

end FilterReading

/-- Terms whose text is escaped when it is printed. -/
def Term.isEscapable : Term → Bool
  | .text _ | .path _ => true
  | _ => false

namespace Reading

/-- The value before filters. A path that is missing or null takes the default, where the first
filter is one; a missing path that is negated is true at once, filters or not (`none`). -/
def unfiltered (negated : Bool) (term : Term) (t : TermReading) (filters : List FilterReading)
    (escaped : Bool) : Except Problem (Option Value) :=
  let fallback := filters.head?.filter fun f => f.name == "default"
  match term, t.value escaped, fallback with
  | .path _, .ok .null, some f => (f.defaultValue escaped).map some
  | .path _, .error _, some f => (f.defaultValue escaped).map some
  | .path _, .error e, none => if negated then .ok none else .error e
  | .comparison .., _, _ | .and .., _, _ | .or .., _, _ =>
    (t.truth escaped).map fun v => some (.bool (v.negatedIf negated))
  | _, v, _ => v.map some

def valueOf (negated : Bool) (term : Term) (t : TermReading) (filters : List FilterReading)
    (escaped : Bool) : Except Problem Value := do
  match ← unfiltered negated term t filters escaped with
  | none => .ok (.bool true)
  | some v =>
    let (w, escapable) ← filters.foldlM (fun w f => f.apply w) (v, term.isEscapable)
    let safe := (filters.getLast?.map FilterReading.name) == some "safe"
    if negated then .ok (.bool (!w.isTrue))
    else
      match w with
      | .text s => .ok (.text (if escaped && escapable && !safe then escape s else s))
      | w => .ok w

/-- An expression from its parts. A path that cannot be evaluated is false in a condition, negated
or not, unless its value says otherwise. The value of a joined text is negated once already, and
then a second time. -/
def ofParts (negated : Bool) (term : Term) (t : TermReading) (filters : List FilterReading) :
    Reading where
  value := valueOf negated term t filters
  truth := fun escaped =>
    match term with
    | .path _ =>
      match valueOf negated term t filters escaped with
      | .ok v => .ok v.isTrue
      | .error _ => .ok false
    | .joined _ => (valueOf negated term t filters escaped).map fun v => v.isTrue != negated
    | _ => (t.truth escaped).map fun v => v.negatedIf negated
  number := fun escaped =>
    if filters.isEmpty then t.number escaped
    else
      match valueOf negated term t filters escaped with
      | .ok (.int n) => .ok (some (.int n))
      | .ok (.float x) => .ok (some (.float x))
      | .ok _ => .error .noNumberInArithmetic
      | .error e => .error e

end Reading

mutual

def Expr.reading (s : Scope) : Expr → Reading
  | .mk negated term filters => .ofParts negated term (term.reading s) (filterReadings s filters)

def Term.reading (s : Scope) : Term → TermReading
  | .int n => .ofNumber fun _ => .ok (some (.int n))
  | .float x => .ofNumber fun _ => .ok (some (.float x))
  | .bool b => .ofConstant (.bool b) (.error (.boolInArithmetic b))
  | .text t => .ofConstant (.text t) (.error (.textInArithmetic t))
  | .path p => .ofPath s p
  | .arithmetic op l r => .arithmetic op l.described r.described (l.reading s) (r.reading s)
  | .comparison op l r => .comparison op (l.reading s) (r.reading s)
  | .and l r => .and (l.reading s) (r.reading s)
  | .or l r => .or (l.reading s) (r.reading s)
  | .joined parts => .joined s parts
  | .list items =>
    let rs := itemReadings s items
    .ofValue (fun e => (rs.mapM fun (r : Reading) => r.value e).map .list) (.error .noNumberInArithmetic)

def itemReadings (s : Scope) : List Expr → List Reading
  | [] => []
  | e :: items => e.reading s :: itemReadings s items

def filterReadings (s : Scope) : List Filter → List FilterReading
  | [] => []
  | f :: filters => f.reading s :: filterReadings s filters

def Filter.reading (s : Scope) : Filter → FilterReading
  | .mk name arguments => ⟨name, argumentReadings s arguments⟩

def argumentReadings (s : Scope) : List Argument → List (String × Reading)
  | [] => []
  | a :: arguments => a.reading s :: argumentReadings s arguments

def Argument.reading (s : Scope) : Argument → String × Reading
  | .mk name value => (name, value.reading s)

end

end TemplateBundler.Template
