/-!
# What a text starts with and ends in

    after? p cs = some rest ↔ cs = p ++ rest          (after?_eq_some_iff)
    before? s cs = some rest ↔ cs = rest ++ s         (before?_eq_some_iff)
-/

namespace TemplateBundler.Text

/-! ## Algorithm -/

/-- What follows the text `p` where `cs` starts with it. -/
def after? (p cs : List Char) : Option (List Char) :=
  match p, cs with
  | [], cs => some cs
  | _ :: _, [] => none
  | c :: p, d :: cs => if c = d then after? p cs else none

/-- What stands before the text `s` where `cs` ends in it. -/
def before? (s cs : List Char) : Option (List Char) :=
  (after? s.reverse cs.reverse).map List.reverse

/-! ## Lemmas -/

theorem after?_append (p rest : List Char) : after? p (p ++ rest) = some rest := by
  induction p with
  | nil => rfl
  | cons c p ih => simp [after?, ih]

theorem eq_append_of_after? {p cs rest : List Char} (h : after? p cs = some rest) :
    cs = p ++ rest := by
  induction p generalizing cs with
  | nil => simp only [after?, Option.some.injEq] at h; simp [h]
  | cons c p ih =>
    cases cs with
    | nil => simp [after?] at h
    | cons d cs =>
      simp only [after?] at h
      split at h
      · next hc => rw [hc, ih h]; rfl
      · cases h

theorem after?_eq_some_iff {p cs rest : List Char} : after? p cs = some rest ↔ cs = p ++ rest := by
  constructor
  · exact eq_append_of_after?
  · rintro rfl
    exact after?_append p rest

theorem before?_eq_some_iff {s cs rest : List Char} :
    before? s cs = some rest ↔ cs = rest ++ s := by
  simp only [before?, Option.map_eq_some_iff, after?_eq_some_iff]
  constructor
  · rintro ⟨front, h, rfl⟩
    have := congrArg List.reverse h
    simpa using this
  · rintro rfl
    exact ⟨rest.reverse, by simp, by simp⟩

end TemplateBundler.Text
