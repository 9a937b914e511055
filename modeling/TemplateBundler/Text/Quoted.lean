import TemplateBundler.Text.Visible

/-!
# Quoted texts

`json` writes a text as a JSON string: the quote, the backslash and the control characters are
escaped, all else stands as it is. `readJson` reads such a literal back:

    readJson (jsonChars cs ++ '"' :: rest) = some (cs, rest)        (readJson_jsonChars)

`shown` writes a text for a diagnostic: what does not show is spelled by its code point.
-/

namespace TemplateBundler.Text

/-! ## Algorithm -/

/-- The lowercase hexadecimal digit of `d < 16`. -/
def hexDigit (d : Nat) : Char := if d < 10 then Char.ofNat (48 + d) else Char.ofNat (87 + d)

/-- The value of a digit that `hexDigit` writes. -/
def hexValue (c : Char) : Nat := if c.toNat < 58 then c.toNat - 48 else c.toNat - 87

/-- The letter that stands for a control character after a backslash. -/
def shortEscape? (c : Char) : Option Char :=
  if c = '\n' then some 'n'
  else if c = '\r' then some 'r'
  else if c = '\t' then some 't'
  else if c.toNat = 8 then some 'b'
  else if c.toNat = 12 then some 'f'
  else none

def jsonChar (c : Char) : List Char :=
  if c = '"' ∨ c = '\\' then ['\\', c]
  else
    match shortEscape? c with
    | some letter => ['\\', letter]
    | none =>
      if c.toNat < 32 then ['\\', 'u', '0', '0', hexDigit (c.toNat / 16), hexDigit (c.toNat % 16)]
      else [c]

def jsonChars (cs : List Char) : List Char := cs.flatMap jsonChar

def json (text : String) : String := String.ofList ('"' :: (jsonChars text.toList ++ ['"']))

/-- The character that a letter after a backslash stands for. -/
def unescape? (letter : Char) : Option Char :=
  if letter = '"' ∨ letter = '\\' then some letter
  else if letter = 'n' then some '\n'
  else if letter = 'r' then some '\r'
  else if letter = 't' then some '\t'
  else if letter = 'b' then some (Char.ofNat 8)
  else if letter = 'f' then some (Char.ofNat 12)
  else none

/-- Reads the inside of a literal up to the closing quote, and gives what follows it. -/
def readJson : List Char → Option (List Char × List Char)
  | [] => none
  | c :: rest =>
    if c = '"' then some ([], rest)
    else if c = '\\' then
      match rest with
      | 'u' :: h1 :: h2 :: h3 :: h4 :: more =>
        (readJson more).map fun r =>
          (Char.ofNat (((hexValue h1 * 16 + hexValue h2) * 16 + hexValue h3) * 16 + hexValue h4) :: r.1,
            r.2)
      | letter :: more =>
        (unescape? letter).bind fun d => (readJson more).map fun r => (d :: r.1, r.2)
      | [] => none
    else (readJson rest).map fun r => (c :: r.1, r.2)

/-- The hexadecimal digits of a number without leading zeros. -/
def hexDigits (n : Nat) : List Char :=
  if n < 16 then [hexDigit n] else hexDigits (n / 16) ++ [hexDigit (n % 16)]

def shownChar (c : Char) : List Char :=
  if c.toNat = 0 then ['\\', '0']
  else if c = '"' ∨ c = '\\' then ['\\', c]
  else if c = '\n' then ['\\', 'n']
  else if c = '\r' then ['\\', 'r']
  else if c = '\t' then ['\\', 't']
  else if shows c then [c]
  else '\\' :: 'u' :: '\x7b' :: (hexDigits c.toNat ++ ['\x7d'])

def shown (text : String) : String :=
  String.ofList ('"' :: (text.toList.flatMap shownChar ++ ['"']))

/-- Named fields, between braces. -/
def inBraces (name fields : String) : String := name ++ " \x7b " ++ fields ++ " \x7d"

/-! ## Lemmas -/

theorem json_eq (text : String) :
    (json text).toList = '"' :: (jsonChars text.toList ++ ['"']) := by
  simp [json]

theorem hexValue_hexDigit : ∀ d, d < 16 → hexValue (hexDigit d) = d := by decide

theorem jsonChars_cons (c : Char) (cs : List Char) : jsonChars (c :: cs) = jsonChar c ++ jsonChars cs :=
  rfl

theorem readJson_plain {c : Char} (h1 : c ≠ '"') (h2 : c ≠ '\\') (rest : List Char) :
    readJson (c :: rest) = (readJson rest).map fun r => (c :: r.1, r.2) := by
  rw [readJson.eq_def]; simp [h1, h2]

theorem readJson_letter {letter c : Char} (h : unescape? letter = some c) (rest : List Char) :
    readJson ('\\' :: letter :: rest) = (readJson rest).map fun r => (c :: r.1, r.2) := by
  have hu : letter ≠ 'u' := by rintro rfl; simp [unescape?] at h
  rw [readJson.eq_def]; simp [hu, h]

theorem readJson_code (h1 h2 h3 h4 : Char) (rest : List Char) :
    readJson ('\\' :: 'u' :: h1 :: h2 :: h3 :: h4 :: rest) =
      (readJson rest).map fun r =>
        (Char.ofNat (((hexValue h1 * 16 + hexValue h2) * 16 + hexValue h3) * 16 + hexValue h4) :: r.1,
          r.2) := by
  rw [readJson.eq_def]; simp

theorem readJson_jsonChar (c : Char) (rest : List Char) :
    readJson (jsonChar c ++ rest) = (readJson rest).map fun r => (c :: r.1, r.2) := by
  unfold jsonChar
  split
  · next h => exact readJson_letter (by simp [unescape?, h]) rest
  · next h =>
    rw [not_or] at h
    split
    · next letter hl =>
      refine readJson_letter ?_ rest
      unfold shortEscape? at hl
      split at hl
      · next hc => subst hc; injection hl with hl; subst hl; decide
      split at hl
      · next hc => subst hc; injection hl with hl; subst hl; decide
      split at hl
      · next hc => subst hc; injection hl with hl; subst hl; decide
      split at hl
      · next hc =>
        injection hl with hl; subst hl
        rw [← Char.ofNat_toNat c, hc]; decide
      split at hl
      · next hc =>
        injection hl with hl; subst hl
        rw [← Char.ofNat_toNat c, hc]; decide
      · cases hl
    · split
      · next hlt =>
        have hz : hexValue '0' = 0 := by decide
        simp only [List.cons_append, List.nil_append, readJson_code,
          hexValue_hexDigit (c.toNat / 16) (by omega), hexValue_hexDigit (c.toNat % 16) (by omega), hz]
        have : ((0 * 16 + 0) * 16 + c.toNat / 16) * 16 + c.toNat % 16 = c.toNat := by omega
        rw [this, Char.ofNat_toNat]
      · exact readJson_plain h.1 h.2 rest

/-- A literal reads back as the text it was written from, whatever follows it. -/
theorem readJson_jsonChars (cs rest : List Char) :
    readJson (jsonChars cs ++ '"' :: rest) = some (cs, rest) := by
  induction cs with
  | nil => rw [readJson.eq_def]; simp [jsonChars]
  | cons c cs ih => rw [jsonChars_cons, List.append_assoc, readJson_jsonChar, ih]; rfl

end TemplateBundler.Text
