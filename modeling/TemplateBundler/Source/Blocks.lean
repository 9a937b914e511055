import TemplateBundler.Text.Ends
import TemplateBundler.Text.Ranges

/-!
# Inline blocks of a template file

A delimiter line is two slashes, two dashes, spaces and tabs, a name without white space, a dot and the template
extension, with or without a carriage return at its end. What stands before the first delimiter
line is the primary body; each delimiter line opens a block of its name, whose body runs from the
next line to the next delimiter line.

    delimiter? ext cs = some (name, rest) → name ≠ [] ∧ rest.length < cs.length
                                                        (delimiter?_name_ne_nil, delimiter?_lt)
-/

namespace TemplateBundler.Source

/-! ## Algorithm -/

/-- `cs` stands at the end of a line or of the text, and is what is left from the line end on. -/
def lineEnd? (cs : List Char) : Option (List Char) :=
  match cs with
  | [] | '\n' :: _ => some cs
  | '\r' :: [] => some []
  | '\r' :: '\n' :: rest => some ('\n' :: rest)
  | _ => none

/-- Reads a dot, the extension and the end of the line. -/
def extensionEnd? (ext cs : List Char) : Option (List Char) :=
  (Text.after? ('.' :: ext) cs).bind lineEnd?

/-- The longest name of at most `n` characters, not empty, that the dot and the extension follow. -/
def longestName? (ext cs : List Char) : Nat → Option (List Char × List Char)
  | 0 => none
  | n + 1 =>
    match extensionEnd? ext (cs.drop (n + 1)) with
    | some rest => some (cs.take (n + 1), rest)
    | none => longestName? ext cs n

/-- Reads a delimiter line at the start of `cs`: its name, and the text from its line end on. -/
def delimiter? (ext cs : List Char) : Option (List Char × List Char) :=
  (Text.after? ['/', '/', '-', '-'] cs).bind fun cs =>
    let cs := cs.dropWhile fun c => c == ' ' || c == '\t'
    longestName? ext cs (cs.takeWhile fun c => !Text.isBlank c).length

/-! ## Lemmas -/

theorem lineEnd?_le {cs rest : List Char} (h : lineEnd? cs = some rest) :
    rest.length ≤ cs.length := by
  unfold lineEnd? at h
  split at h <;> simp_all

theorem extensionEnd?_lt {ext cs rest : List Char} (h : extensionEnd? ext cs = some rest) :
    rest.length < cs.length := by
  simp only [extensionEnd?, Option.bind_eq_some_iff] at h
  obtain ⟨mid, h1, h2⟩ := h
  have := lineEnd?_le h2
  rw [Text.eq_append_of_after? h1]
  simp only [List.cons_append, List.length_cons, List.length_append]
  omega

theorem longestName?_lt {ext cs name rest : List Char} {n : Nat}
    (h : longestName? ext cs n = some (name, rest)) : rest.length < cs.length := by
  induction n with
  | zero => simp [longestName?] at h
  | succ n ih =>
    simp only [longestName?] at h
    split at h
    · next r hr =>
      simp only [Option.some.injEq, Prod.mk.injEq] at h
      have := extensionEnd?_lt hr
      rw [List.length_drop] at this
      obtain ⟨-, rfl⟩ := h
      omega
    · exact ih h

theorem longestName?_ne_nil {ext cs name rest : List Char} {n : Nat}
    (h : longestName? ext cs n = some (name, rest)) : name ≠ [] := by
  induction n with
  | zero => simp [longestName?] at h
  | succ n ih =>
    simp only [longestName?] at h
    split at h
    · next r hr =>
      simp only [Option.some.injEq, Prod.mk.injEq] at h
      have := extensionEnd?_lt hr
      rw [List.length_drop] at this
      obtain ⟨rfl, -⟩ := h
      intro h0
      have := congrArg List.length h0
      simp only [List.length_take, List.length_nil] at this
      omega
    · exact ih h

theorem delimiter?_lt {ext cs name rest : List Char} (h : delimiter? ext cs = some (name, rest)) :
    rest.length < cs.length := by
  simp only [delimiter?, Option.bind_eq_some_iff] at h
  obtain ⟨mid, h1, h2⟩ := h
  have h3 := longestName?_lt h2
  have h4 : (mid.dropWhile fun c => c == ' ' || c == '\t').length ≤ mid.length :=
    (List.dropWhile_suffix _).length_le
  rw [Text.eq_append_of_after? h1]
  simp only [List.cons_append, List.length_cons, List.length_append]
  omega

theorem delimiter?_name_ne_nil {ext cs name rest : List Char}
    (h : delimiter? ext cs = some (name, rest)) : name ≠ [] := by
  simp only [delimiter?, Option.bind_eq_some_iff] at h
  obtain ⟨_, -, h2⟩ := h
  exact longestName?_ne_nil h2

/-! ## Splitting -/

/-- Only at the start of a line does a delimiter count. -/
def delimiterAt? (ext : List Char) (lineStart : Bool) (cs : List Char) :
    Option (List Char × List Char) :=
  if lineStart then delimiter? ext cs else none

theorem delimiterAt?_lt {ext cs name rest : List Char} {lineStart : Bool}
    (h : delimiterAt? ext lineStart cs = some (name, rest)) : rest.length < cs.length := by
  unfold delimiterAt? at h
  split at h
  · exact delimiter?_lt h
  · cases h

/-- The body that the text starts with, and the blocks after it. -/
def splitFrom (ext : List Char) (lineStart : Bool) :
    List Char → List Char × List (List Char × List Char)
  | [] => ([], [])
  | c :: cs =>
    match _h : delimiterAt? ext lineStart (c :: cs) with
    | some (name, rest) =>
      let (body, blocks) := splitFrom ext true (rest.drop 1)
      ([], (name, body) :: blocks)
    | none =>
      let (body, blocks) := splitFrom ext (c == '\n') cs
      (c :: body, blocks)
termination_by cs => cs.length
decreasing_by
  · have := delimiterAt?_lt _h
    simp only [List.length_drop, List.length_cons] at this ⊢
    omega
  · simp

end TemplateBundler.Source

namespace TemplateBundler

/-- A template file cut at its delimiter lines, which belong to neither side. -/
structure SplitText where
  primary : String
  blocks : List (String × String)
deriving DecidableEq, Repr

/-- Cuts `text` at the delimiter lines of the extension `ext`. -/
def SplitText.ofText (ext text : String) : SplitText :=
  let (primary, blocks) := Source.splitFrom ext.toList true text.toList
  ⟨String.ofList primary, blocks.map fun b => (String.ofList b.1, String.ofList b.2)⟩

end TemplateBundler
