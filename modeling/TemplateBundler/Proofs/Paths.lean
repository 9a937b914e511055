import Mathlib.Data.List.Basic
import Mathlib.Data.List.TakeWhile
import TemplateBundler.Disk.Paths

/-!
# The names of a path and of its parent

A path without its last component loses the separators and inner `.` components before it as well.
What it names is still a front part of what the path names, up to components `.`, which lead nowhere
else:

    p.parent? = some q → p is trimmed →
      names p = names q ++ dots ++ [last]                              (parent?_spec)
-/

namespace TemplateBundler

namespace Text

theorem pieces_append (sep : Char) (xs ys : List Char) :
    pieces sep (xs ++ sep :: ys) = pieces sep xs ++ pieces sep ys := by
  induction xs with
  | nil => simp [pieces]
  | cons c xs ih =>
    rw [List.cons_append, pieces, ih, pieces]
    split
    · rfl
    · cases hp : pieces sep xs with
      | nil => exact absurd hp (pieces_ne_nil sep xs)
      | cons p ps => rfl

end Text

namespace FilePath

/-! ## Names -/

/-- The names in a text that is a path. -/
def namesIn (cs : List Char) : List String :=
  ((Text.pieces '/' cs).map String.ofList).filter (· ≠ "")

/-- The names to follow for a path, a separator at its end left out. -/
def names (p : FilePath) : List String := Text.cutNonempty '/' p.text

theorem names_eq (p : FilePath) : p.names = namesIn p.text.toList := rfl

theorem namesIn_append (xs ys : List Char) :
    namesIn (xs ++ '/' :: ys) = namesIn xs ++ namesIn ys := by
  unfold namesIn
  rw [Text.pieces_append, List.map_append, List.filter_append]

theorem namesIn_nil : namesIn [] = [] := by
  simp [namesIn, Text.pieces]

theorem namesIn_of_not_mem {cs : List Char} (h : '/' ∉ cs) (hne : cs ≠ []) :
    namesIn cs = [String.ofList cs] := by
  have htext : String.ofList cs ≠ "" := by simpa using hne
  simp [namesIn, Text.pieces_of_not_mem h, htext]

/-! ## Trimming -/

/-- Nothing is left to take off the end. -/
def Trimmed (p : FilePath) : Prop := upTo.trim p.text.toList.reverse = p.text.toList.reverse

theorem length_trim_le (cs : List Char) : (upTo.trim cs).length ≤ cs.length := by
  fun_induction upTo.trim cs with
  | case1 rest h => simp
  | case2 rest h ih => simp only [List.length_cons]; omega
  | case3 rest h => simp
  | case4 rest h ih => simp only [List.length_cons] at ih ⊢; omega
  | case5 cs => exact Nat.le_refl _

theorem trim_trim (cs : List Char) : upTo.trim (upTo.trim cs) = upTo.trim cs := by
  fun_induction upTo.trim cs with
  | case1 rest h => rfl
  | case2 rest h ih => exact ih
  | case3 rest h => rfl
  | case4 rest h ih => exact ih
  | case5 cs h h' => rw [upTo.trim.eq_def]; split <;> simp_all

theorem getLast?_trim (cs : List Char) : (upTo.trim cs).getLast? = cs.getLast? := by
  fun_induction upTo.trim cs with
  | case1 rest h =>
    rw [List.isEmpty_iff] at h
    rw [h]
  | case2 rest h ih =>
    rw [ih]
    cases rest with
    | nil => exact absurd rfl h
    | cons c cs => rfl
  | case3 rest h =>
    rw [List.isEmpty_iff] at h
    rw [h]
    rfl
  | case4 rest h ih => rw [ih]; rfl
  | case5 cs => rfl

/-- What trimming takes off leads nowhere else. -/
theorem namesIn_trim (cs : List Char) : ∃ dots, (∀ x ∈ dots, x = ".") ∧
    namesIn cs.reverse = namesIn (upTo.trim cs).reverse ++ dots := by
  have hone : namesIn ['.'] = ["."] := by decide
  fun_induction upTo.trim cs with
  | case1 rest h =>
    rw [List.isEmpty_iff] at h
    exact ⟨[], by simp, by rw [h]; rfl⟩
  | case2 rest h ih =>
    obtain ⟨dots, hdots, hnames⟩ := ih
    refine ⟨dots, hdots, ?_⟩
    rw [List.reverse_cons, namesIn_append, namesIn_nil, List.append_nil, hnames]
  | case3 rest h =>
    rw [List.isEmpty_iff] at h
    exact ⟨["."], by simp, by rw [h]; decide⟩
  | case4 rest h ih =>
    obtain ⟨dots, hdots, hnames⟩ := ih
    rw [List.reverse_cons, namesIn_append, namesIn_nil, List.append_nil] at hnames
    refine ⟨dots ++ ["."], ?_, ?_⟩
    · intro x hx
      rcases List.mem_append.1 hx with hx | hx
      · exact hdots x hx
      · exact List.mem_singleton.1 hx
    · rw [List.reverse_cons, List.reverse_cons, List.append_assoc, List.singleton_append,
        namesIn_append, hone, hnames, List.append_assoc]
  | case5 cs => exact ⟨[], by simp, by rw [List.append_nil]⟩

/-- A path that ends in a name is trimmed. -/
theorem trimmed_of_names {p : FilePath} {front : List String} {last : String}
    (h : p.names = front ++ [last]) (hdot : last ≠ ".")
    (hsep : p.text.toList.getLast? ≠ some '/') : p.Trimmed := by
  unfold Trimmed
  rw [← List.head?_reverse] at hsep
  have htext := List.reverse_reverse p.text.toList
  generalize p.text.toList.reverse = cs at hsep htext
  rw [upTo.trim.eq_def]
  split
  · exact absurd rfl hsep
  · next rest _ =>
    have hone : namesIn ['.'] = ["."] := by decide
    rw [names_eq, ← htext, List.reverse_cons, List.reverse_cons, List.append_assoc,
      List.singleton_append, namesIn_append, hone] at h
    exact absurd (List.singleton_inj.1 (List.append_inj' h rfl).2).symm hdot
  · rfl

/-- Without a component to take off nothing is left, or the top alone. -/
theorem text_of_parent?_eq_none {p : FilePath} (ht : p.Trimmed) (h : p.parent? = none) :
    p.text = "" ∨ p.text = "/" := by
  have hwhole : upTo p.text.toList = p.text.toList := by
    unfold Trimmed at ht
    rw [upTo, ht, List.reverse_reverse]
  simp only [parent?, hwhole, Bool.or_eq_true, List.isEmpty_iff, beq_iff_eq] at h
  split at h
  · next hnone =>
    rcases hnone with hnil | htop
    · exact Or.inl (String.toList_injective hnil)
    · exact Or.inr (String.toList_injective htop)
  · cases h

theorem trimmed_upTo (cs : List Char) : Trimmed ⟨String.ofList (upTo cs)⟩ := by
  unfold Trimmed upTo
  rw [String.toList_ofList, List.reverse_reverse, trim_trim]

theorem head?_upTo (cs : List Char) : (upTo cs).head? = cs.head? := by
  rw [upTo, List.head?_reverse, getLast?_trim, List.getLast?_reverse]

theorem namesIn_upTo (cs : List Char) : ∃ dots, (∀ x ∈ dots, x = ".") ∧
    namesIn cs = namesIn (upTo cs) ++ dots := by
  have h := namesIn_trim cs.reverse
  rwa [List.reverse_reverse] at h

/-! ## Parents -/

/-- A path that is trimmed and has a parent ends in a name. -/
theorem Trimmed.split {p : FilePath} (ht : p.Trimmed) (hne : p.text.toList ≠ [])
    (htop : p.text.toList ≠ ['/']) : ∃ before last, p.text.toList = before ++ last ∧ '/' ∉ last ∧
      last ≠ [] ∧ (before = [] ∨ ∃ front, before = front ++ ['/'] ∧ last ≠ ['.']) ∧
      (p.text.toList.reverse.dropWhile (· ≠ '/')).reverse = before := by
  have hsplit := List.takeWhile_append_dropWhile (p := (· ≠ '/')) (l := p.text.toList.reverse)
  have hback := congrArg List.reverse hsplit
  rw [List.reverse_append, List.reverse_reverse] at hback
  unfold Trimmed at ht
  generalize htw : p.text.toList.reverse.takeWhile (· ≠ '/') = tail at hsplit hback
  generalize hdw : p.text.toList.reverse.dropWhile (· ≠ '/') = rest at hsplit hback
  have hmem : '/' ∉ tail := by
    intro h
    rw [← htw] at h
    simpa using List.mem_takeWhile_imp h
  have hhead : rest = [] ∨ ∃ front, rest = '/' :: front := by
    cases hr : rest with
    | nil => exact Or.inl rfl
    | cons c front =>
      right
      have hc := List.head?_dropWhile_not (· ≠ '/') p.text.toList.reverse
      rw [hdw, hr] at hc
      simp only [List.head?_cons, decide_not, Bool.not_eq_eq_eq_not, Bool.not_false,
        decide_eq_true_eq] at hc
      exact ⟨front, by rw [hc]⟩
  refine ⟨rest.reverse, tail.reverse, hback.symm, by simpa using hmem, ?_, ?_, rfl⟩
  · -- a separator at the end would be taken off
    intro hnil
    rw [List.reverse_eq_nil_iff] at hnil
    rw [hnil, List.nil_append] at hsplit
    rcases hhead with hr | ⟨front, hr⟩
    · rw [hr] at hsplit
      exact hne (by simpa using hsplit.symm)
    · rw [← hsplit, hr, upTo.trim] at ht
      split at ht
      · next h =>
        rw [List.isEmpty_iff] at h
        rw [hr, h] at hsplit
        exact htop (by simpa using (congrArg List.reverse hsplit).symm)
      · have := length_trim_le front
        rw [ht, List.length_cons] at this
        omega
  · rcases hhead with hr | ⟨front, hr⟩
    · exact Or.inl (by rw [hr]; rfl)
    · refine Or.inr ⟨front.reverse, by rw [hr, List.reverse_cons], ?_⟩
      -- and so would a last component that is a dot
      intro hdot
      have htail : tail = ['.'] := by simpa using congrArg List.reverse hdot
      rw [← hsplit, hr, htail, List.singleton_append, upTo.trim] at ht
      split at ht
      · exact absurd (congrArg List.length ht) (by simp)
      · have := length_trim_le ('/' :: front)
        simp only [ht, List.length_cons] at this
        omega

/-- **The names of a parent.** -/
theorem parent?_spec {p q : FilePath} (ht : p.Trimmed) (h : p.parent? = some q) :
    q.Trimmed ∧ q.isAbsolute = p.isAbsolute ∧ ∃ dots last, (∀ x ∈ dots, x = ".") ∧
      p.names = q.names ++ dots ++ [last] ∧ (last = "." → p.names = ["."]) ∧
      p.text.toList.getLast? ≠ some '/' := by
  have hwhole : upTo p.text.toList = p.text.toList := by
    unfold Trimmed at ht
    rw [upTo, ht, List.reverse_reverse]
  unfold parent? at h
  simp only [hwhole, Bool.or_eq_true, List.isEmpty_iff, beq_iff_eq] at h
  split at h
  · cases h
  next hnot =>
  rw [not_or] at hnot
  obtain ⟨before, last, htext, hlast, hne, hbefore, hcut⟩ := ht.split hnot.1 hnot.2
  rw [hcut, Option.some.injEq] at h
  subst h
  obtain ⟨dots, hdots, hnames⟩ := namesIn_upTo before
  refine ⟨trimmed_upTo before, ?_, dots, String.ofList last, hdots, ?_, ?_, ?_⟩
  · rw [isAbsolute, isAbsolute, String.toList_ofList, head?_upTo, htext]
    rcases hbefore with rfl | ⟨front, rfl, -⟩
    · cases last with
      | nil => exact absurd rfl hne
      | cons c cs =>
        simp only [List.mem_cons, not_or] at hlast
        simp [Ne.symm hlast.1]
    · cases front <;> rfl
  · rw [names_eq, names_eq, String.toList_ofList, htext, ← hnames]
    rcases hbefore with rfl | ⟨front, rfl, -⟩
    · rw [List.nil_append, namesIn_of_not_mem hlast hne, namesIn_nil]
      rfl
    · rw [List.append_assoc, List.singleton_append, namesIn_append, namesIn_append, namesIn_nil,
        List.append_nil, namesIn_of_not_mem hlast hne]
  · intro hdot
    have hchars : last = ['.'] := by simpa using congrArg String.toList hdot
    rcases hbefore with rfl | ⟨front, -, hnodot⟩
    · rw [names_eq, htext, List.nil_append, hchars]
      decide
    · exact absurd hchars hnodot
  · rw [htext, List.getLast?_append_of_ne_nil _ hne]
    exact fun hslash => hlast (List.mem_of_getLast? hslash)

end FilePath

end TemplateBundler
