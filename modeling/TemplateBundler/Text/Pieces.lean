/-!
# Cutting a text at a separator and joining it again

`pieces` keeps every piece, the empty ones too, so nothing is lost:

    joinWith sep (pieces sep cs) = cs                                      (joinWith_pieces)
    ps ≠ [] → (∀ p ∈ ps, sep ∉ p) → pieces sep (joinWith sep ps) = ps      (pieces_joinWith)

`cut` and `glue` are the same two functions on `String`.
-/

namespace TemplateBundler.Text

/-! ## Algorithm -/

/-- The pieces between the occurrences of `sep`, at least one. -/
def pieces (sep : Char) : List Char → List (List Char)
  | [] => [[]]
  | c :: cs =>
    if c = sep then [] :: pieces sep cs
    else
      match pieces sep cs with
      | [] => [[c]]
      | p :: ps => (c :: p) :: ps

/-- The pieces with `sep` between each two. -/
def joinWith (sep : Char) : List (List Char) → List Char
  | [] => []
  | [p] => p
  | p :: q :: ps => p ++ sep :: joinWith sep (q :: ps)

def cut (sep : Char) (text : String) : List String :=
  (pieces sep text.toList).map String.ofList

def glue (sep : Char) (parts : List String) : String :=
  String.ofList (joinWith sep (parts.map String.toList))

/-- The pieces that are not empty. -/
def cutNonempty (sep : Char) (text : String) : List String :=
  (cut sep text).filter (· ≠ "")

/-- The parts with the text `sep` between each two. -/
def listed (sep : String) : List String → String
  | [] => ""
  | [p] => p
  | p :: q :: ps => p ++ sep ++ listed sep (q :: ps)

/-! ## Lemmas -/

theorem pieces_ne_nil (sep : Char) (cs : List Char) : pieces sep cs ≠ [] := by
  cases cs with
  | nil => simp [pieces]
  | cons c cs =>
    simp only [pieces]
    split
    · simp
    · split <;> simp

theorem not_mem_of_mem_pieces (sep : Char) (cs : List Char) : ∀ p ∈ pieces sep cs, sep ∉ p := by
  induction cs with
  | nil => simp [pieces]
  | cons c cs ih =>
    intro p hp
    simp only [pieces] at hp
    split at hp
    · rcases List.mem_cons.1 hp with rfl | hp
      · simp
      · exact ih p hp
    · next hc =>
      split at hp
      · next h0 => exact absurd h0 (pieces_ne_nil sep cs)
      · next q qs hq =>
        rw [hq] at ih
        rcases List.mem_cons.1 hp with rfl | hp
        · simp only [List.mem_cons, not_or]
          exact ⟨fun h => hc h.symm, ih q (by simp)⟩
        · exact ih p (by simp [hp])

theorem joinWith_pieces (sep : Char) (cs : List Char) : joinWith sep (pieces sep cs) = cs := by
  induction cs with
  | nil => simp [pieces, joinWith]
  | cons c cs ih =>
    simp only [pieces]
    cases hp : pieces sep cs with
    | nil => exact absurd hp (pieces_ne_nil sep cs)
    | cons p ps =>
      rw [hp] at ih
      by_cases hc : c = sep
      · rw [if_pos hc, joinWith, ih, hc]; rfl
      · rw [if_neg hc]
        cases ps with
        | nil => simpa [joinWith] using ih
        | cons q qs => simpa [joinWith] using ih

theorem pieces_of_not_mem {sep : Char} {p : List Char} (h : sep ∉ p) : pieces sep p = [p] := by
  induction p with
  | nil => rfl
  | cons c cs ih =>
    simp only [List.mem_cons, not_or] at h
    simp only [pieces, if_neg (fun e => h.1 (Eq.symm e)), ih h.2]

theorem pieces_append_sep {sep : Char} {p : List Char} (h : sep ∉ p) (cs : List Char) :
    pieces sep (p ++ sep :: cs) = p :: pieces sep cs := by
  induction p with
  | nil => simp [pieces]
  | cons c p ih =>
    simp only [List.mem_cons, not_or] at h
    simp only [List.cons_append, pieces, if_neg (fun e => h.1 (Eq.symm e)), ih h.2]

theorem pieces_joinWith {sep : Char} {ps : List (List Char)} (hne : ps ≠ [])
    (h : ∀ p ∈ ps, sep ∉ p) : pieces sep (joinWith sep ps) = ps := by
  induction ps with
  | nil => exact absurd rfl hne
  | cons p ps ih =>
    cases ps with
    | nil => exact pieces_of_not_mem (h p (by simp))
    | cons q qs =>
      rw [joinWith, pieces_append_sep (h p (by simp)),
        ih (by simp) (fun r hr => h r (List.mem_cons_of_mem _ hr))]

end TemplateBundler.Text
