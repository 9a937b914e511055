import TemplateBundler.Text.Reader
import TemplateBundler.Toml.Scalar

/-!
# The shape of a TOML document

A document is a list of statements: headers, which open a table or add one to an array of tables,
and assignments. Here keys and single values are still as they are written; `statements?` is `none`
only where brackets, separators and lines do not fit together. A byte order mark at the start does
not count.
-/

namespace TemplateBundler.Toml

open Text (Reader)
open Text.Reader

/-- A value as it is written. -/
inductive Written where
  | scalar (cs : List Char)
  | array (items : List Written)
  | table (assignments : List (List (List Char) × Written))

/-- A dotted key is written as one part or more. -/
inductive Statement where
  | header (isArray : Bool) (path : List (List Char))
  | assignment (path : List (List Char)) (value : Written)

/-! ## Blanks and lines -/

def comment : Reader Unit := do
  text "#"
  let _ ← chars isPlain
  pure ()

/-- Spaces, and a comment where there is one. -/
def lineRest : Reader Unit := do
  spaces
  let _ ← option comment
  pure ()

/-- Spaces, comments and line ends. -/
def gaps : Reader Unit := do
  let _ ← many (lineRest *> lineEnd)
  spaces

/-! ## Texts -/

/-- Everything up to the mark, and the mark; without the mark, everything there is. -/
def upToMark (mark : String) (piece : Reader Unit) : Reader Unit := do
  let _ ← many (notAt (text mark) *> piece)
  let _ ← option (text mark)
  pure ()

/-- One character that satisfies `p`. -/
def one (p : Char → Bool) : Reader Unit := do
  let _ ← char p
  pure ()

/-- A backslash takes a quotation mark or a backslash behind it along. -/
def escapedOr (p : Char → Bool) : Reader Unit := text "\\\\" <|> text "\\\"" <|> one p

/-- At most two marks that belong to a text right before its closing marks. -/
def lastMarks (p : Char → Bool) : Reader Unit := do
  let _ ← option (one p)
  let _ ← option (one p)
  pure ()

/-- A text with its marks. One that is not closed goes on to the end of its line, or of the document
if its marks are three. -/
def quoted : Reader (List Char) :=
  written (text quotes *> upToMark quotes (escapedOr fun _ => true) *> lastMarks isQuote)
    <|> written (text apostrophes *> upToMark apostrophes (one fun _ => true) *>
      lastMarks isApostrophe)
    <|> written (text "\"" *> upToMark "\"" (escapedOr (· != '\n')))
    <|> written (text "'" *> upToMark "'" (one (· != '\n')))

/-! ## Keys and values -/

/-- A character that can stand in a key or value without marks. -/
def isBare (c : Char) : Bool :=
  !(isSpace c || isQuote c || isApostrophe c || "\r\n,=#[]\x7b\x7d".toList.contains c)

/-- A key, which may be empty here. -/
def simpleKey : Reader (List Char) := quoted <|> chars fun c => isBare c && c != '.'

/-- Keys with dots between them. -/
def path : Reader (List (List Char)) := sepBy1 (spaces *> simpleKey <* spaces) (text ".")

/-- A date with the time that follows it after one space. -/
def spacedDatetime : Reader Unit := do
  let _ ← exactly Char.isDigit 4
  text "-"
  let _ ← exactly Char.isDigit 2
  text "-"
  let _ ← exactly Char.isDigit 2
  text " "
  one Char.isDigit

def scalar : Reader (List Char) :=
  quoted <|> written (spacedDatetime *> chars isBare) <|> chars1 isBare

section

variable (inner : Reader Written)

/-- Items may stand on several lines, and a comma may follow the last one. -/
def array : Reader Written := do
  text "["
  let items ← option (sepBy1 (gaps *> inner <* gaps) (text ",") <* option (text ","))
  gaps
  text "]"
  pure (.array (items.getD []))

/-- A key and its value. A value that is not there has no characters. -/
def assignment (blanks : Reader Unit) : Reader (List (List Char) × Written) := do
  let keys ← path
  blanks
  text "="
  blanks
  let v ← inner <|> pure (.scalar [])
  pure (keys, v)

/-- An inline table, like an array, may stand on several lines. -/
def inlineTable : Reader Written := do
  text "\x7b"
  let assignments ←
    option (sepBy1 (gaps *> assignment inner gaps <* gaps) (text ",") <* option (text ","))
  gaps
  text "\x7d"
  pure (.table (assignments.getD []))

end

/-- A value with brackets at most this deep. -/
def value : Nat → Reader Written
  | 0 => .scalar <$> scalar
  | depth + 1 => array (value depth) <|> inlineTable (value depth) <|> (.scalar <$> scalar)

def maxDepth : Nat := 80

/-! ## Documents -/

def statement : Reader Statement :=
  (do text "[["
      let keys ← path
      text "]]"
      pure (.header true keys))
  <|> (do text "["
          let keys ← path
          text "]"
          pure (.header false keys))
  <|> ((fun a => .assignment a.1 a.2) <$> assignment (value maxDepth) spaces)

/-- A line with a statement or without. -/
def line : Reader (Option Statement) := do
  spaces
  let s ← option statement
  lineRest
  pure s

def lines : Reader (List Statement) := do
  let ls ← sepBy1 line lineEnd
  pure (ls.filterMap id)

def withoutMark : List Char → List Char
  | c :: cs => if c.toNat = 0xFEFF then cs else c :: cs
  | [] => []

def statements? (source : List Char) : Option (List Statement) := all? lines (withoutMark source)

end TemplateBundler.Toml
