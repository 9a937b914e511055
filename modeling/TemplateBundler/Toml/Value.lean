/-!
# TOML values

What a document assigns to its keys. The fields of a date or time are of no use here, so all of them
are one value.
-/

namespace TemplateBundler.Toml

inductive Value where
  | text (s : String)
  | integer (n : Int)
  | float (x : Float)
  /-- A number that fits into no type. It may stand in a document, but not be used. -/
  | tooLarge
  | boolean (b : Bool)
  | datetime
  | array (items : List Value)
  | table (entries : List (String × Value))
deriving Inhabited

/-- Why a text is no document. -/
inductive Error where
  | malformed
  /-- An escape gives a code that no character has. -/
  | noCharacter
deriving DecidableEq, Repr, Inhabited

def orMalformed {α : Type} : Option α → Except Error α
  | some a => .ok a
  | none => .error .malformed

mutual

/-- Whether all numbers in a value can be used. -/
def Value.isUsable : Value → Bool
  | .tooLarge => false
  | .array items => usableItems items
  | .table entries => usableEntries entries
  | _ => true

def usableItems : List Value → Bool
  | [] => true
  | v :: items => v.isUsable && usableItems items

def usableEntries : List (String × Value) → Bool
  | [] => true
  | (_, v) :: entries => v.isUsable && usableEntries entries

end

end TemplateBundler.Toml
