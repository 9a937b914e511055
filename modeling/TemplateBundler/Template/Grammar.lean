import TemplateBundler.Template.Node
import TemplateBundler.Text.Decimal
import TemplateBundler.Text.Reader
import TemplateBundler.Word

/-!
# Reading a template

A template is text with three kinds of tags in it: printed expressions, comments, and statements.
Choice is ordered everywhere, as in a parsing expression grammar; inside a tag only space, tab and
line ends separate tokens. `parse?` is `none` for a text outside the grammar, and for one that
declares a block twice.
-/

namespace TemplateBundler.Template

open Text (Reader)
open Text.Reader

/-! ## Tokens -/

def isGap (c : Char) : Bool := c == ' ' || c == '\t' || c == '\r' || c == '\n'

def gap : Reader Unit := do
  let _ ← chars isGap
  pure ()

/-- Skips what separates tokens, then reads `p`. -/
def token {α : Type} (p : Reader α) : Reader α := gap *> p

def symbol (s : String) : Reader Unit := token (text s)

/-- A word operator, with one separating character after it. -/
def operatorWord (s : String) : Reader Unit := do
  symbol s
  let _ ← char isGap
  pure ()

/-- At least one character that separates tokens. -/
def separation : Reader Unit := do
  let _ ← chars1 isGap
  pure ()

/-- The word that opens a statement, with what separates it from the rest. -/
def keyword (s : String) : Reader Unit := symbol s *> separation

def isLetter (c : Char) : Bool := c.isAlpha || c == '_'

def isNameChar (c : Char) : Bool := isLetter c || c.isDigit

def name : Reader String := do
  let c ← char isLetter
  let cs ← chars isNameChar
  pure (String.ofList (c :: cs))

/-- A whole number without leading zeros, perhaps negative. -/
def numeral : Reader (Bool × List Char) := do
  let negative ← flag (text "-")
  let digits ← (text "0" *> pure ['0']) <|> chars1 Char.isDigit
  pure (negative, digits)

def natOf (digits : List Char) : Nat := digits.foldl (fun n c => n * 10 + (c.toNat - 48)) 0

/-- An integer has 64 bits. -/
def int : Reader Int := do
  let (negative, digits) ← numeral
  let n : Int := if negative then -(natOf digits) else natOf digits
  if Word.isSigned 64 n then pure n else failure

def float : Reader Float := do
  let (negative, digits) ← numeral
  text "."
  let places ← chars1 Char.isDigit
  let x := Text.ofDecimal (natOf (digits ++ places)) (-places.length)
  pure (if negative then -x else x)

/-- The quotes and the backquote. -/
def isMark (c : Char) : Bool := isQuote c || c.toNat == 96

/-- A text between two equal marks. -/
def quotedText : Reader String := do
  let mark ← char isMark
  let cs ← chars (· ≠ mark)
  let _ ← char (· == mark)
  pure (String.ofList cs)

/-! ## Paths -/

/-- One step of a path; in brackets stands a number, a text or a path. -/
def pathStep (inner : Reader Unit) : Reader Unit :=
  (do text "."
      let _ ← chars1 isNameChar
      pure ())
  <|> (do text "["
          (do let _ ← numeral
              pure ())
            <|> (do
              let _ ← quotedText
              pure ())
            <|> inner
          text "]")

def path : Reader Path := do
  let cs ← written (nested (fun inner _ => do
    let _ ← name
    let _ ← many (pathStep (inner ()))
    pure ()) ())
  pure ⟨String.ofList cs⟩

/-! ## Expressions -/

def boolean : Reader Bool :=
  (text "true" *> pure true) <|> (text "false" *> pure false)
    <|> (text "True" *> pure true) <|> (text "False" *> pure false)

/-- A word that reads as a boolean is never a path. -/
def basicValue : Reader Term :=
  (.bool <$> boolean) <|> (.path <$> path) <|> (.float <$> float) <|> (.int <$> int)

def arithmeticOp : Reader Arithmetic :=
  (symbol "+" *> pure .add) <|> (symbol "-" *> pure .sub) <|> (symbol "*" *> pure .mul)
    <|> (symbol "/" *> pure .div) <|> (symbol "%" *> pure .rem)

def Arithmetic.isSum (op : Arithmetic) : Bool := op == .add || op == .sub

/-- The chain of operations as one expression, products first and each level from the left; `sum` is
the part left of the product that is being built. -/
def arithmeticChain (sum : Option (Arithmetic × Expr)) (product : Expr) :
    List (Arithmetic × Expr) → Expr
  | [] => close sum product
  | (op, e) :: rest =>
    if op.isSum then arithmeticChain (some (op, close sum product)) e rest
    else arithmeticChain sum (.ofTerm (.arithmetic op product e)) rest
where
  close (sum : Option (Arithmetic × Expr)) (product : Expr) : Expr :=
    match sum with
    | some (op, left) => .ofTerm (.arithmetic op left product)
    | none => product

/-- Operands with operations between them. -/
def calculation (operand : Reader Expr) : Reader Expr := do
  let first ← operand
  let rest ← many (do
    let op ← arithmeticOp
    let e ← operand
    pure (op, e))
  pure (arithmeticChain none first rest)

def basicTerm : Reader Term :=
  Expr.term <$> nested (fun inner _ =>
    calculation ((symbol "(" *> inner () <* symbol ")") <|> (.ofTerm <$> token basicValue))) ()

def joinable : Reader Joinable :=
  (.float <$> float) <|> (.int <$> int) <|> (.text <$> quotedText) <|> (.path <$> path)

def textTerm : Reader Term :=
  (do let first ← token joinable
      let rest ← many (symbol "~" *> token joinable)
      if rest.isEmpty then failure else pure (.ofJoined (first :: rest)))
  <|> (.text <$> token quotedText)

def comparisonOp : Reader Comparison :=
  (symbol "<=" *> pure .le) <|> (symbol ">=" *> pure .ge) <|> (symbol ">" *> pure .gt)
    <|> (symbol "<" *> pure .lt) <|> (symbol "==" *> pure .eq) <|> (symbol "!=" *> pure .ne)

/-- The three places an expression stands in. -/
inductive Form where
  | logic
  | operand
  | list

/-- A chain of `and` and `or` (marked `true`), `and` first and each level from the left. -/
def logicChain (alternative : Option Expr) (conjunction : Expr) : List (Bool × Expr) → Expr
  | [] => close alternative conjunction
  | (isOr, e) :: rest =>
    if isOr then logicChain (some (close alternative conjunction)) e rest
    else logicChain alternative (.ofTerm (.and conjunction e)) rest
where
  close (alternative : Option Expr) (conjunction : Expr) : Expr :=
    match alternative with
    | some left => .ofTerm (.or left conjunction)
    | none => conjunction

/-- The last argument of each name. -/
def lastOfEach : List Argument → List Argument
  | [] => []
  | a :: arguments =>
    if arguments.any fun b => b.name == a.name then lastOfEach arguments
    else a :: lastOfEach arguments

section

variable (inner : Form → Reader Expr)

def argument : Reader Argument := do
  let n ← token name
  symbol "="
  let value ← inner .logic <|> inner .list
  pure (.mk n value)

def filter : Reader Filter :=
  (do let n ← token name
      symbol "("
      let arguments ← option (sepBy1 (argument inner) (symbol ",") <* option (symbol ","))
      symbol ")"
      pure (.mk n (lastOfEach (arguments.getD []))))
  <|> ((fun n => .mk n []) <$> token name)

def filters : Reader (List Filter) := many (symbol "|" *> filter inner)

def filtered (p : Reader Term) : Reader Expr := do
  let t ← p
  let fs ← filters inner
  pure (.mk false t fs)

/-- Filters apply to a whole calculation, and go on as an operand of the next. -/
def comparand : Reader Expr :=
  filtered inner textTerm <|> calculation (filtered inner basicTerm)

/-- One comparison at most. -/
def comparison : Reader Expr := do
  let left ← comparand inner
  (do let op ← comparisonOp
      let right ← comparand inner
      pure (.ofTerm (.comparison op left right)))
    <|> pure left

/-- Parentheses take no negation: one that the inner expression begins with is lost. -/
def operand : Reader Expr :=
  (do let negated ← flag (operatorWord "not")
      let e ← comparison inner
      pure (e.setNegated negated))
  <|> (do symbol "("
          let e ← inner .logic
          symbol ")"
          pure (e.setNegated false))

def logic : Reader Expr := do
  let first ← operand inner
  let rest ← many (do
    let isOr ← (operatorWord "or" *> pure true) <|> (operatorWord "and" *> pure false)
    let e ← operand inner
    pure (isOr, e))
  pure (logicChain none first rest)

def list : Reader Expr := do
  symbol "["
  let items ← many (inner .operand <* symbol ",")
  let last ← option (inner .operand)
  symbol "]"
  let fs ← filters inner
  pure (.mk false (.list (items ++ last.toList)) fs)

end

def expression : Form → Reader Expr :=
  nested fun inner form =>
    match form with
    | .logic => logic inner
    | .operand => operand inner
    | .list => list inner

/-- What can be printed or assigned. -/
def value : Reader Expr := expression .logic <|> expression .list

/-- What a loop can run over. -/
def container : Reader Expr := filtered expression basicTerm <|> expression .list

/-! ## Tags -/

def between {α : Type} (opening closing : String) (p : Reader α) : Reader (Edges × α) := do
  text opening
  let before ← flag (text "-")
  let a ← p
  gap
  let after ← (text "-" *> text closing *> pure true) <|> (text closing *> pure false)
  pure (⟨before, after⟩, a)

def tag {α : Type} (p : Reader α) : Reader (Edges × α) := between "\x7b%" "%\x7d" p

def keywordTag (word : String) : Reader Edges := (·.1) <$> tag (symbol word)

/-- Whether a tag opens here. -/
def opensTag (c d : Char) : Bool :=
  c == '\x7b' && (d == '\x7b' || d == '%' || d == '#')

/-- The characters before the first opening of a tag. -/
def plainText : List Char → List Char × List Char
  | [] => ([], [])
  | [c] => ([c], [])
  | c :: d :: cs =>
    if opensTag c d then ([], c :: d :: cs)
    else
      let (front, rest) := plainText (d :: cs)
      (c :: front, rest)

def textNode : Reader Node := fun cs =>
  let (front, rest) := plainText cs
  if front.isEmpty then none else some (.text (String.ofList front), rest)

/-- The end of a comment, and whether it takes the blanks behind it away. -/
def commentEnd : Reader Bool := (text "-#\x7d" *> pure true) <|> (text "#\x7d" *> pure false)

/-- A comment has a character at least. -/
def comment : Reader Edges := do
  text "\x7b#"
  let before ← flag (text "-")
  notAt commentEnd
  let (_, after) ← textBefore commentEnd
  pure ⟨before, after⟩

def commentNode : Reader Node := .comment <$> comment

def printNode : Reader Node := do
  let (edges, v) ← between "\x7b\x7b" "\x7d\x7d" value
  pure (.print edges v)

def assignNode : Reader Node := do
  let (edges, n, v) ← tag do
    keyword "set"
    let n ← token name
    symbol "="
    let v ← value
    pure (n, v)
  pure (.assign edges n v)

/-- Everything up to the closing tag is text. -/
def rawNode : Reader Node := do
  let start ← keywordTag "raw"
  let (s, stop) ← textBefore (keywordTag "endraw")
  pure (.raw start (String.ofList s) stop)

/-! ## Bodies -/

/-- Where a node stands: a loop body has `break` and `continue` but no blocks. -/
inductive Place where
  | outside
  | insideLoop

section

variable (inner : Place → Reader Node)

def body (place : Place) : Reader (List Node) := many (inner place)

def branchNode (place : Place) : Reader Node := do
  let (edges, condition) ← tag (keyword "if" *> expression .logic)
  let nodes ← body inner place
  let others ← many (do
    let (e, c) ← tag (keyword "elif" *> expression .logic)
    let ns ← body inner place
    pure (Arm.mk e (some c) ns))
  let otherwise ← option (do
    let e ← keywordTag "else"
    let ns ← body inner place
    pure (Arm.mk e none ns))
  let stop ← keywordTag "endif"
  pure (.branch (.mk edges (some condition) nodes :: others) otherwise stop)

/-- The names of a loop: the one before a comma, if any, is the key's. The comma follows it at
once. -/
def loopNames : Reader (Option String × String) := do
  let first ← name
  (do text ","
      let second ← token name
      pure (some first, second))
    <|> pure (none, first)

/-- A loop may have several bodies for the case that it runs over nothing; the last one counts. -/
def loopNode : Reader Node := do
  let (start, (key, item), items) ← tag do
    keyword "for"
    let names ← loopNames
    separation
    keyword "in"
    let items ← container
    pure (names, items)
  let nodes ← body inner .insideLoop
  let empties ← many (keywordTag "else" *> body inner .insideLoop)
  let stop ← keywordTag "endfor"
  pure (.loop start key item items nodes (empties.getLast?.getD []) stop)

def blockNode : Reader Node := do
  let (start, n) ← tag (keyword "block" *> token name)
  let nodes ← body inner .outside
  let (stop, _) ← tag (symbol "endblock" *> option (token name))
  pure (.block start n nodes stop)

def placedNode : Place → Reader Node
  | .outside => blockNode inner
  | .insideLoop => (.leave <$> keywordTag "break") <|> (.next <$> keywordTag "continue")

def node (place : Place) : Reader Node :=
  textNode <|> printNode <|> commentNode <|> assignNode <|> rawNode <|> branchNode inner place
    <|> loopNode inner <|> placedNode inner place

end

/-- A template. The comments it begins with are no part of its body, and ask for no blanks to go. -/
def template : Reader (List Node) := many comment *> many (nested node .outside)

def distinct : List String → Bool
  | [] => true
  | n :: names => !names.contains n && distinct names

/-- The body of a template, its blanks trimmed. -/
def parse? (source : List Char) : Option (List Node) :=
  (all? template source).bind fun ns =>
    let body := trimBody false false ns
    if distinct ((blocksOf body).map Prod.fst) then some body else none

end TemplateBundler.Template
