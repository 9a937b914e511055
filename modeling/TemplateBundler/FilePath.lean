import TemplateBundler.KeyPath

/-!
# File paths

A path is its text, as the program put it together: joining resolves neither `.` nor `..`, and an
absolute right side replaces the left one. `components` is the view that `parent` works on:
repeated and trailing separators and inner `.` components do not count.
-/

namespace TemplateBundler

structure FilePath where
  text : String
deriving DecidableEq, Repr, Inhabited

namespace FilePath

/-! ## Algorithm -/

def isAbsolute (p : FilePath) : Bool := p.text.toList.head? == some '/'

/-- `base` followed by `p`, with one separator between them where `base` is not empty and does not
end in one; an absolute `p` stands alone. -/
def join (base p : FilePath) : FilePath :=
  if p.isAbsolute then p
  else if base.text.isEmpty || base.text.toList.getLast? == some '/' then ⟨base.text ++ p.text⟩
  else ⟨base.text ++ "/" ++ p.text⟩

def joinAll (base : FilePath) (names : List String) : FilePath :=
  names.foldl (fun p name => p.join ⟨name⟩) base

/-- One component per segment of a key path, from the empty path on. -/
def ofKeyPath (k : KeyPath) : FilePath := joinAll ⟨""⟩ k.segments

/-- A path without what follows its last component, `none` for a path that has no component. -/
def upTo (cs : List Char) : List Char :=
  -- the separators and inner "." components that end `cs`, taken off from the right
  let rec trim : List Char → List Char
    | '/' :: rest => if rest.isEmpty then ['/'] else trim rest
    | '.' :: '/' :: rest => if rest.isEmpty then ['/'] else trim ('/' :: rest)
    | cs => cs
  (trim cs.reverse).reverse

/-- The path without its last component; `none` where no component is left to take. -/
def parent? (p : FilePath) : Option FilePath :=
  let whole := upTo p.text.toList
  if whole.isEmpty || whole == ['/'] then none
  else
    let before := (whole.reverse.dropWhile (· ≠ '/')).reverse
    some ⟨String.ofList (upTo before)⟩

/-- At most `n` paths: a path, its parent, and so on upwards. -/
def upwards : Nat → FilePath → List FilePath
  | 0, _ => []
  | n + 1, p =>
    match p.parent? with
    | some parent => p :: upwards n parent
    | none => [p]

/-- A path and all that lie above it; each is shorter than the one before. -/
def ancestors (p : FilePath) : List FilePath := upwards (p.text.length + 1) p

/-- The name of a file cut at its last dot: what stands before it and, unless the only dot leads,
the extension after it. -/
def splitName (name : String) : String × Option String :=
  let reversed := name.toList.reverse
  let tail := reversed.takeWhile (· ≠ '.')
  let front := (reversed.dropWhile (· ≠ '.')).drop 1
  if name == ".." || front.isEmpty then (name, none)
  else (String.ofList front.reverse, some (String.ofList tail.reverse))

def stem (name : String) : String := (splitName name).1

def extension? (name : String) : Option String := (splitName name).2

/-- Takes slashes and backslashes off the end, unless nothing else is there. -/
def trimSeparators (p : FilePath) : FilePath :=
  let kept := (p.text.toList.reverse.dropWhile (fun c => c == '/' || c == '\\')).reverse
  if kept.isEmpty then p else ⟨String.ofList kept⟩

/-! ## Lemmas -/

theorem join_absolute (base p : FilePath) (h : p.isAbsolute = true) : base.join p = p := by
  simp [join, h]

end FilePath

end TemplateBundler
