/-!
# Paths

A path names a value by a variable and the members to follow from it, as in `a.b[0]['c d'][e.f]`.
It is looked up by its text. `inner` are the paths between its brackets: their values take their
places, one after the other. What is left of the brackets then turns into dots and quotation marks
(`dotted`), and `keys` are the parts between the dots.
-/

namespace TemplateBundler.Template

/-- A variable and the members to follow from it, as they are written. -/
structure Path where
  text : String
deriving DecidableEq

/-- The single quote. -/
def isApostrophe (c : Char) : Bool := c.toNat == 39

/-- The double quote and the single quote. -/
def isQuote (c : Char) : Bool := c.toNat == 34 || isApostrophe c

namespace Path

/-! ## Algorithm -/

/-- What stands between outermost brackets, unless it starts with a quote. Inside of brackets,
`inside` is their depth with the characters read so far, the last one first; at the first
character the depth is zero. -/
def bracketed (inside : Option (Nat × List Char)) : List Char → List (List Char)
  | [] => []
  | c :: cs =>
    match inside with
    | none => bracketed (if c = '[' then some (0, []) else none) cs
    | some (0, _) => bracketed (if isQuote c then none else some (1, [c])) cs
    | some (depth + 1, seen) =>
      if c = ']' then
        if depth = 0 then seen.reverse :: bracketed none cs
        else bracketed (some (depth, c :: seen)) cs
      else bracketed (some (if c = '[' then depth + 2 else depth + 1, c :: seen)) cs

/-- A number between brackets, of 64 bits, is a key of its own. -/
def isIndex (cs : List Char) : Bool :=
  let digits := if cs.head? = some '+' then cs.drop 1 else cs
  !digits.isEmpty && digits.all Char.isDigit &&
    digits.foldl (fun n c => n * 10 + (c.toNat - 48)) 0 < 0x10000000000000000

/-- The paths between brackets, in their order. -/
def inner (cs : List Char) : List (List Char) := (bracketed none cs).filter fun k => !isIndex k

/-- Puts `v` in the place of the first `w`, or at the end where there is none. -/
def replaceFirst (w v : List Char) : List Char → List Char
  | [] => v
  | c :: cs =>
    if w.isPrefixOf (c :: cs) then v ++ (c :: cs).drop w.length else c :: replaceFirst w v cs

/-- Brackets as dots and quotation marks: `['` and `["` become `."`, and `']` becomes `"`. -/
def dotted : List Char → List Char
  | [] => []
  | [c] => mark c
  | c :: d :: cs =>
    if c = '[' && isQuote d then '.' :: '"' :: dotted cs
    else if isApostrophe c && d = ']' then '"' :: dotted cs
    else mark c ++ dotted (d :: cs)
where
  /-- A character on its own; a slash is spelled so that it can stand in a key. -/
  mark (c : Char) : List Char :=
    if c = '/' then ['~', '1'] else if c = '[' then ['.'] else if c = ']' then [] else [c]

/-- The parts between dots and quotes that are not empty. A dot between quotes belongs to its part,
and so does any character behind a backslash; `part` holds what is read of it, the last character
first. -/
def parts (double single escaped : Bool) (part : List Char) : List Char → List (List Char)
  | [] => cut part []
  | c :: cs =>
    if c = '\\' then parts double single true (c :: part) cs
    else if escaped then parts double single false (c :: part) cs
    else if isApostrophe c then cut part (parts double (!single) false [] cs)
    else if isQuote c then cut part (parts (!double) single false [] cs)
    else if c = '.' && !double && !single then cut part (parts double single false [] cs)
    else parts double single false (c :: part) cs
where
  cut (part : List Char) (rest : List (List Char)) : List (List Char) :=
    if part.isEmpty then rest else part.reverse :: rest

/-- The key that a part spells: `~1` is a slash and `~0` a tilde. -/
def spelled : List Char → List Char
  | '~' :: '1' :: cs => '/' :: spelled cs
  | '~' :: '0' :: cs => '~' :: spelled cs
  | c :: cs => c :: spelled cs
  | [] => []

/-- The keys to follow. -/
def keys (cs : List Char) : List String :=
  (parts false false false [] cs).map fun p => String.ofList (spelled p)

end Path

end TemplateBundler.Template
