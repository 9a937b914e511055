import TemplateBundler.Text.Decimal
import TemplateBundler.Text.Reader
import TemplateBundler.Toml.Value
import TemplateBundler.Word

/-!
# Keys and single values

Each of them is given as it is written, with its quotation marks where it has any. A text is taken
piece by piece, and the first piece that is wrong is the error.
-/

namespace TemplateBundler.Toml

open Text (Reader)
open Text.Reader

/-! ## Characters -/

def isSpace (c : Char) : Bool := c == ' ' || c == '\t'

def spaces : Reader Unit := do
  let _ ← chars isSpace
  pure ()

def lineEnd : Reader Unit := text "\r\n" <|> text "\n"

/-- Control characters, the tab aside, stand nowhere but at the end of a line. -/
def isPlain (c : Char) : Bool := c == '\t' || (c.toNat ≥ 32 && c.toNat ≠ 127)

def isBareKeyChar (c : Char) : Bool := c.isAlphanum || c == '-' || c == '_'

/-- The double quote. -/
def isQuote (c : Char) : Bool := c.toNat == 34

/-- The single quote. -/
def isApostrophe (c : Char) : Bool := c.toNat == 39

/-! ## Texts -/

def isHex (c : Char) : Bool := c.isDigit || ('a' ≤ c && c ≤ 'f') || ('A' ≤ c && c ≤ 'F')

def digitValue (c : Char) : Nat :=
  if c.isDigit then c.toNat - 48 else if c.toNat ≥ 97 then c.toNat - 87 else c.toNat - 55

def numberOf (base : Nat) (digits : List Char) : Nat :=
  digits.foldl (fun n c => n * base + digitValue c) 0

/-- Exactly `n` characters that satisfy `p`. -/
def exactly (p : Char → Bool) (n : Nat) : Reader (List Char) := fun cs =>
  if (cs.take n).length = n ∧ (cs.take n).all p then some (cs.take n, cs.drop n) else none

/-- What a piece of a text stands for. -/
abbrev Decoded := Except Error (List Char)

/-- The character of a code with `n` hexadecimal digits. -/
def coded (n : Nat) : Reader Decoded := do
  let digits ← exactly isHex n
  let code := numberOf 16 digits
  pure (if code.isValidChar then .ok [Char.ofNat code] else .error .noCharacter)

def escaped : Reader Decoded := do
  text "\\"
  let c ← char fun _ => true
  match c with
  | 'b' => pure (.ok [Char.ofNat 8])
  | 't' => pure (.ok ['\t'])
  | 'n' => pure (.ok ['\n'])
  | 'f' => pure (.ok [Char.ofNat 12])
  | 'r' => pure (.ok ['\r'])
  | 'e' => pure (.ok [Char.ofNat 27])
  | '"' => pure (.ok ['"'])
  | '\\' => pure (.ok ['\\'])
  | 'x' => coded 2
  | 'u' => coded 4
  | 'U' => coded 8
  | _ => failure

def plainPiece (p : Char → Bool) : Reader Decoded := .ok <$> chars1 fun c => isPlain c && p c

/-- A line end inside a text stands for itself. -/
def keptLineEnd : Reader Decoded :=
  (text "\r\n" *> pure (.ok ['\r', '\n'])) <|> (text "\n" *> pure (.ok ['\n']))

/-- A backslash at the end of a line drops the blanks up to the next character. -/
def joinedLine : Reader Decoded := do
  text "\\"
  spaces
  lineEnd
  let _ ← many (spaces *> lineEnd)
  spaces
  pure (.ok [])

/-- A text of such pieces; any other character is wrong. -/
def ofPieces (piece : Reader Decoded) (cs : List Char) : Except Error String := do
  let wrong : Reader Decoded := (fun _ => .error .malformed) <$> char fun _ => true
  let decoded ← orMalformed (all? (many (piece <|> wrong)) cs)
  let pieces ← decoded.mapM id
  .ok (String.ofList pieces.flatten)

/-- What stands between two equal marks. -/
def between? (mark : String) (cs : List Char) : Option (List Char) :=
  let rest := cs.drop mark.length
  if mark.toList.isPrefixOf cs && mark.toList.isSuffixOf rest then
    some (rest.take (rest.length - mark.length))
  else none

/-- A line end right behind the opening mark does not count. -/
def withoutFirstLineEnd (cs : List Char) : List Char :=
  match lineEnd cs with
  | some (_, rest) => rest
  | none => cs

def quotes : String := "\"\"\""

def apostrophes : String := "'''"

/-- A text over several lines is written between marks of three. -/
def isMultiLine (cs : List Char) : Bool :=
  quotes.toList.isPrefixOf cs || apostrophes.toList.isPrefixOf cs

/-- A text on one line. -/
def lineText (cs : List Char) : Except Error String :=
  if cs.head?.any isQuote then do
    ofPieces (plainPiece (· != '\\') <|> escaped) (← orMalformed (between? "\"" cs))
  else do
    ofPieces (plainPiece fun _ => true) (← orMalformed (between? "'" cs))

def multiLineText (cs : List Char) : Except Error String :=
  if cs.head?.any isQuote then do
    let inside ← orMalformed (between? quotes cs)
    ofPieces (plainPiece (· != '\\') <|> keptLineEnd <|> joinedLine <|> escaped)
      (withoutFirstLineEnd inside)
  else do
    let inside ← orMalformed (between? apostrophes cs)
    ofPieces (plainPiece (fun _ => true) <|> keptLineEnd) (withoutFirstLineEnd inside)

def isQuoted (cs : List Char) : Bool := cs.head?.any fun c => isQuote c || isApostrophe c

/-! ## Numbers -/

/-- Digits, with single underscores between them only. -/
def digitGroups (p : Char → Bool) : Reader (List Char) := do
  let groups ← sepBy1 (chars1 p) (text "_")
  pure groups.flatten

/-- Whether there is a minus sign; a plus sign may stand as well. -/
def sign : Reader Bool := (text "-" *> pure true) <|> (text "+" *> pure false) <|> pure false

/-- Decimal digits without leading zeros. -/
def wholeDigits : Reader (List Char) := do
  let digits ← digitGroups Char.isDigit
  match digits with
  | '0' :: _ :: _ => failure
  | _ => pure digits

def based (opening : String) (base : Nat) (p : Char → Bool) : Reader Int := do
  text opening
  let digits ← digitGroups p
  pure (numberOf base digits : Nat)

/-- An integer has 128 bits, with a sign or without. -/
def integer : Reader Value := do
  let n ← based "0x" 16 isHex <|> based "0o" 8 (fun c => '0' ≤ c && c ≤ '7')
    <|> based "0b" 2 (fun c => c == '0' || c == '1')
    <|> (do
      let negative ← sign
      let digits ← wholeDigits
      let n : Int := (numberOf 10 digits : Nat)
      pure (if negative then -n else n))
  pure (if Word.isSigned 128 n || Word.isUnsigned 128 n then .integer n else .tooLarge)

def exponent : Reader Int := do
  let _ ← char fun c => c == 'e' || c == 'E'
  let negative ← sign
  let digits ← digitGroups Char.isDigit
  let n : Int := (numberOf 10 digits : Nat)
  pure (if negative then -n else n)

/-- No double has a first digit this many places from the point. -/
def farPlace : Int := 400

/-- The double of `digits * 10 ^ e`, unless that is too large for one. -/
def scientific? (digits : Nat) (e : Int) : Option Float :=
  let first := e + (Nat.toDigits 10 digits).length
  if digits = 0 || first < -farPlace then some 0
  else if first > farPlace then none
  else
    let x := Text.ofDecimal digits e
    if x.isInf then none else some x

/-- A number with a fraction or an exponent, where a double can hold it. -/
def decimal : Reader (Option Float) := do
  let whole ← wholeDigits
  let places ← option (text "." *> digitGroups Char.isDigit)
  let e ← option exponent
  if places.isNone && e.isNone then failure
  else
    let places := places.getD []
    pure (scientific? (numberOf 10 (whole ++ places)) (e.getD 0 - places.length))

def float : Reader Value := do
  let negative ← sign
  let x ← decimal <|> (text "inf" *> pure (some (1.0 / 0.0)))
    <|> (text "nan" *> pure (some (0.0 / 0.0)))
  pure (match x with
    | some x => .float (if negative then -x else x)
    | none => .tooLarge)

/-! ## Dates and times -/

/-- A number of `n` digits between two bounds. -/
def bounded (n low high : Nat) : Reader Nat := do
  let digits ← exactly Char.isDigit n
  let v := numberOf 10 digits
  if low ≤ v ∧ v ≤ high then pure v else failure

def isLeap (year : Nat) : Bool := year % 4 == 0 && (year % 100 != 0 || year % 400 == 0)

def daysIn (year month : Nat) : Nat :=
  if month = 2 then if isLeap year then 29 else 28
  else if month = 4 ∨ month = 6 ∨ month = 9 ∨ month = 11 then 30
  else 31

def date : Reader Unit := do
  let year ← bounded 4 0 9999
  text "-"
  let month ← bounded 2 1 12
  text "-"
  let _ ← bounded 2 1 (daysIn year month)
  pure ()

/-- A time of day; the seconds may be left out. -/
def time : Reader Unit := do
  let _ ← bounded 2 0 23
  text ":"
  let _ ← bounded 2 0 59
  let _ ← option (do
    text ":"
    let _ ← bounded 2 0 60
    option (text "." *> chars1 Char.isDigit))
  pure ()

def offset : Reader Unit :=
  text "Z" <|> text "z" <|> (do
    let _ ← char fun c => c == '+' || c == '-'
    let _ ← bounded 2 0 23
    text ":"
    let _ ← bounded 2 0 59
    pure ())

def datetime : Reader Unit :=
  (do date
      let _ ← option (do
        let _ ← char fun c => c == 'T' || c == 't' || c == ' '
        time
        option offset)
      pure ())
  <|> time

/-! ## Meanings -/

def plainValue : Reader Value :=
  (text "true" *> pure (.boolean true)) <|> (text "false" *> pure (.boolean false))

/-- The first of several readers that reads the whole text. -/
def firstWhole? (readers : List (Reader Value)) (cs : List Char) : Option Value :=
  readers.findSome? fun p => all? p cs

/-- The value that is written as `cs`. -/
def scalarOf (cs : List Char) : Except Error Value :=
  if isMultiLine cs then (multiLineText cs).map .text
  else if isQuoted cs then (lineText cs).map .text
  else orMalformed (firstWhole? [plainValue, datetime *> pure .datetime, float, integer] cs)

/-- The key that is written as `cs`. -/
def keyOf (cs : List Char) : Except Error String :=
  if isMultiLine cs then .error .malformed
  else if isQuoted cs then lineText cs
  else if cs.isEmpty || cs.any (fun c => !isBareKeyChar c) then .error .malformed
  else .ok (String.ofList cs)

end TemplateBundler.Toml
