import TemplateBundler.Source.Blocks

/-!
# Lines and delimiter lines

A delimiter line is read from the front, with the longest name that the rest of the line allows. A
name holds no white space though, so the form of a line (`IsDelimiter`) leaves no choice, and what
is read is always a whole line. A split then goes line by line, and so do proofs about it
(`delimiter_induction`).

    '\n' ∉ ext → (delimiter? ext cs = some (name, rest) ↔
      ∃ line, IsDelimiter ext name line ∧ EndsLine rest ∧ cs = line ++ rest)
                                                                        (delimiter?_eq_some_iff)
    '\n' ∉ ext → IsDelimiter ext name r → EndsLine rest →
      splitFrom ext true (r ++ rest) = ([], (name, body) :: blocks)
        where splitFrom ext true (rest.drop 1) = (body, blocks)            (splitFrom_delimiter)
-/

namespace TemplateBundler

namespace Text

/-! ## Lines -/

/-- The lines of a text, each with the line feed that ends it; the last may have none. -/
def lines : List Char → List (List Char)
  | [] => []
  | c :: cs =>
    if c = '\n' then [c] :: lines cs
    else
      match lines cs with
      | [] => [[c]]
      | line :: rest => (c :: line) :: rest

/-- A line without its line feed. -/
def run (line : List Char) : List Char := line.takeWhile (· != '\n')

/-- The text is over, or goes on with a line feed. -/
def EndsLine (rest : List Char) : Prop := rest = [] ∨ ∃ cs, rest = '\n' :: cs

theorem EndsLine.take {rest : List Char} (h : EndsLine rest) : EndsLine (rest.take 1) := by
  rcases h with rfl | ⟨cs, rfl⟩
  · exact Or.inl rfl
  · exact Or.inr ⟨[], rfl⟩

theorem run_append {r rest : List Char} (hr : '\n' ∉ r) (hrest : EndsLine rest) :
    run (r ++ rest) = r := by
  have hall : ∀ c ∈ r, (c != '\n') = true := fun c hc => bne_iff_ne.2 fun e => hr (e ▸ hc)
  rw [run, List.takeWhile_append_of_pos hall]
  rcases hrest with rfl | ⟨cs, rfl⟩ <;> simp

theorem not_mem_run (line : List Char) : '\n' ∉ run line := by
  intro h
  have hne := List.all_eq_true.1 List.all_takeWhile _ h
  exact bne_iff_ne.1 hne rfl

theorem append_inj_of_endsLine {r r' rest rest' : List Char} (hr : '\n' ∉ r) (hr' : '\n' ∉ r')
    (hrest : EndsLine rest) (hrest' : EndsLine rest') (h : r ++ rest = r' ++ rest') :
    r = r' ∧ rest = rest' := by
  obtain rfl : r = r' := by rw [← run_append hr hrest, h, run_append hr' hrest']
  exact ⟨rfl, List.append_cancel_left h⟩

theorem lines_append {r rest : List Char} (hr : '\n' ∉ r) (hrest : EndsLine rest)
    (hne : r ++ rest ≠ []) : lines (r ++ rest) = (r ++ rest.take 1) :: lines (rest.drop 1) := by
  induction r with
  | nil =>
    rcases hrest with rfl | ⟨cs, rfl⟩
    · exact absurd rfl hne
    · rw [List.nil_append, lines, if_pos rfl]
      rfl
  | cons c r ih =>
    rw [List.mem_cons, not_or] at hr
    rw [List.cons_append, lines, if_neg (Ne.symm hr.1)]
    by_cases hnil : r ++ rest = []
    · obtain ⟨rfl, rfl⟩ := List.append_eq_nil_iff.1 hnil
      rfl
    · rw [ih hr.2 hnil]
      rfl

/-- A text is empty, or a first line with the text behind it. -/
@[elab_as_elim]
theorem line_induction {P : List Char → Prop} (nil : P [])
    (line : ∀ r rest, '\n' ∉ r → EndsLine rest → r ++ rest ≠ [] → P (rest.drop 1) →
      P (r ++ rest)) (cs : List Char) : P cs := by
  induction hn : cs.length using Nat.strongRecOn generalizing cs with
  | _ n ih =>
    by_cases hne : cs = []
    · rw [hne]
      exact nil
    have hrest : EndsLine (cs.dropWhile (· != '\n')) := by
      cases hdrop : cs.dropWhile (· != '\n') with
      | nil => exact Or.inl rfl
      | cons c rest =>
        have hc := List.head_dropWhile_not (· != '\n') (l := cs) (by simp [hdrop])
        simp only [hdrop, List.head_cons, bne_eq_false_iff_eq] at hc
        exact Or.inr ⟨rest, by rw [hc]⟩
    have hparts : run cs ++ cs.dropWhile (· != '\n') = cs := List.takeWhile_append_dropWhile
    rw [← hparts] at hne ⊢
    refine line _ _ (not_mem_run cs) hrest hne (ih _ ?_ _ rfl)
    have hlen := congrArg List.length hparts
    have hpos := List.length_pos_iff.2 hne
    rw [List.length_append] at hlen hpos
    rw [List.length_drop]
    omega

end Text

namespace Source

open Text

/-! ## Delimiter lines -/

/-- The line opens a block of `name`: two slashes, two dashes, spaces and tabs, the name, a dot, the
extension, and a carriage return or none. -/
def IsDelimiter (ext name line : List Char) : Prop :=
  ∃ blanks ret, line = ['/', '/', '-', '-'] ++ (blanks ++ (name ++ ('.' :: ext ++ ret))) ∧
    (∀ c ∈ blanks, c = ' ' ∨ c = '\t') ∧ name ≠ [] ∧ (∀ c ∈ name, isBlank c = false) ∧
    (ret = [] ∨ ret = ['\r'])

theorem lineEnd?_eq_some_iff {cs rest : List Char} : lineEnd? cs = some rest ↔
    EndsLine rest ∧ ∃ ret, (ret = [] ∨ ret = ['\r']) ∧ cs = ret ++ rest := by
  constructor
  · intro h
    unfold lineEnd? at h
    split at h
    · cases h
      exact ⟨Or.inl rfl, [], Or.inl rfl, rfl⟩
    · next cs =>
      cases h
      exact ⟨Or.inr ⟨cs, rfl⟩, [], Or.inl rfl, rfl⟩
    · cases h
      exact ⟨Or.inl rfl, _, Or.inr rfl, rfl⟩
    · next cs =>
      cases h
      exact ⟨Or.inr ⟨cs, rfl⟩, _, Or.inr rfl, rfl⟩
    · cases h
  · rintro ⟨rfl | ⟨cs, rfl⟩, ret, rfl | rfl, rfl⟩ <;> rfl

theorem extensionEnd?_eq_some_iff {ext cs rest : List Char} : extensionEnd? ext cs = some rest ↔
    EndsLine rest ∧ ∃ ret, (ret = [] ∨ ret = ['\r']) ∧ cs = '.' :: ext ++ ret ++ rest := by
  simp only [extensionEnd?, Option.bind_eq_some_iff, after?_eq_some_iff, lineEnd?_eq_some_iff]
  constructor
  · rintro ⟨_, rfl, hrest, ret, hret, rfl⟩
    exact ⟨hrest, ret, hret, (List.append_assoc _ _ _).symm⟩
  · rintro ⟨hrest, ret, hret, rfl⟩
    exact ⟨_, List.append_assoc _ _ _, hrest, ret, hret, rfl⟩

theorem eq_append_of_longestName? {ext cs name rest : List Char} {n : Nat}
    (h : longestName? ext cs n = some (name, rest)) :
    ∃ tail, cs = name ++ tail ∧ name.length ≤ n ∧ extensionEnd? ext tail = some rest := by
  induction n with
  | zero => cases h
  | succ n ih =>
    rw [longestName?] at h
    split at h
    · next rest' hrest =>
      cases h
      exact ⟨_, (List.take_append_drop (n + 1) cs).symm, List.length_take_le _ _, hrest⟩
    · obtain ⟨tail, hcs, hle, hrest⟩ := ih h
      exact ⟨tail, hcs, Nat.le_succ_of_le hle, hrest⟩

theorem exists_longestName? {ext name tail rest : List Char} {n : Nat} (hname : name ≠ [])
    (hle : name.length ≤ n) (h : extensionEnd? ext tail = some rest) :
    ∃ found, longestName? ext (name ++ tail) n = some found := by
  induction n with
  | zero => exact absurd (List.length_eq_zero_iff.1 (Nat.le_zero.1 hle)) hname
  | succ n ih =>
    rw [longestName?]
    split
    · exact ⟨_, rfl⟩
    · next hnone =>
      rcases Nat.le_succ_iff.1 hle with hle | heq
      · exact ih hle
      · rw [← Nat.succ_eq_add_one, ← heq, List.drop_left, h] at hnone
        cases hnone

theorem exists_isDelimiter {ext cs name rest : List Char}
    (h : delimiter? ext cs = some (name, rest)) :
    ∃ line, IsDelimiter ext name line ∧ EndsLine rest ∧ cs = line ++ rest := by
  simp only [delimiter?, Option.bind_eq_some_iff, after?_eq_some_iff] at h
  obtain ⟨mid, rfl, h⟩ := h
  have hne := longestName?_ne_nil h
  obtain ⟨tail, hmid, hle, hend⟩ := eq_append_of_longestName? h
  obtain ⟨hrest, ret, hret, rfl⟩ := extensionEnd?_eq_some_iff.1 hend
  refine ⟨_, ⟨mid.takeWhile fun c => c == ' ' || c == '\t', ret, rfl, ?_, hne, ?_, hret⟩, hrest,
    ?_⟩
  · intro c hc
    simpa using List.all_eq_true.1 List.all_takeWhile c hc
  · -- the name is no longer than the run of characters that are not blank
    intro c hc
    rw [hmid] at hle
    have hfront : name <+: (name ++ ('.' :: ext ++ ret ++ rest)).takeWhile fun c => !isBlank c :=
      List.prefix_of_prefix_length_le (List.prefix_append _ _) (List.takeWhile_prefix _) hle
    simpa using List.all_eq_true.1 List.all_takeWhile c (hfront.subset hc)
  · have hparts := List.takeWhile_append_dropWhile (p := fun c => c == ' ' || c == '\t') (l := mid)
    rw [hmid] at hparts
    calc ['/', '/', '-', '-'] ++ mid
        = ['/', '/', '-', '-'] ++ ((mid.takeWhile fun c => c == ' ' || c == '\t') ++
            (name ++ ('.' :: ext ++ ret ++ rest))) := by rw [hparts]
      _ = _ := by simp only [List.append_assoc]

/-! ## A line has one name -/

/-- The name ends where the last dot with the extension begins, also where the name itself holds the
extension. -/
theorem name_inj {ext name name' ret ret' : List Char} (hname : ∀ c ∈ name, isBlank c = false)
    (hname' : ∀ c ∈ name', isBlank c = false) (hret : ret = [] ∨ ret = ['\r'])
    (hret' : ret' = [] ∨ ret' = ['\r'])
    (h : name ++ ('.' :: ext ++ ret) = name' ++ ('.' :: ext ++ ret')) : name = name' := by
  have hreturn : isBlank '\r' = true := by decide
  have hcount : ∀ n : List Char, (∀ c ∈ n, isBlank c = false) → n.count '\r' = 0 := by
    intro n hn
    refine List.count_eq_zero.2 fun hmem => ?_
    rw [hn _ hmem] at hreturn
    cases hreturn
  -- names hold no carriage return, so both lines end in one or neither does
  have hsame : ret = ret' := by
    have hc := congrArg (List.count '\r') h
    simp only [List.count_append, hcount name hname, hcount name' hname'] at hc
    rcases hret with rfl | rfl <;> rcases hret' with rfl | rfl <;> simp at hc ⊢
  subst hsame
  exact List.append_cancel_right h

theorem dropWhile_blanks {blanks name : List Char} (hblanks : ∀ c ∈ blanks, c = ' ' ∨ c = '\t')
    (hne : name ≠ []) (hname : ∀ c ∈ name, isBlank c = false) (tail : List Char) :
    (blanks ++ (name ++ tail)).dropWhile (fun c => c == ' ' || c == '\t') = name ++ tail := by
  rw [List.dropWhile_append_of_pos (by simpa using hblanks)]
  obtain ⟨c, name, rfl⟩ := List.exists_cons_of_ne_nil hne
  have hc : isBlank c = false := hname c List.mem_cons_self
  refine List.dropWhile_cons_of_neg fun hblank => ?_
  simp only [Bool.or_eq_true, beq_iff_eq] at hblank
  rcases hblank with rfl | rfl <;> exact absurd hc (by decide)

theorem IsDelimiter.name_eq {ext name name' line : List Char} (h : IsDelimiter ext name line)
    (h' : IsDelimiter ext name' line) : name = name' := by
  obtain ⟨blanks, ret, rfl, hblanks, hne, hname, hret⟩ := h
  obtain ⟨blanks', ret', heq, hblanks', hne', hname', hret'⟩ := h'
  have htail := congrArg (List.dropWhile fun c => c == ' ' || c == '\t')
    (List.append_cancel_left heq)
  rw [dropWhile_blanks hblanks hne hname, dropWhile_blanks hblanks' hne' hname'] at htail
  exact name_inj hname hname' hret hret' htail

/-- A delimiter line is one line. -/
theorem IsDelimiter.not_mem {ext name line : List Char} (h : IsDelimiter ext name line)
    (hext : '\n' ∉ ext) : '\n' ∉ line := by
  obtain ⟨blanks, ret, rfl, hblanks, -, hname, hret⟩ := h
  have hfeed : isBlank '\n' = true := by decide
  simp only [List.mem_append, List.mem_cons, not_or]
  refine ⟨by decide, fun hc => ?_, fun hc => ?_, ⟨by decide, hext⟩, fun hc => ?_⟩
  · rcases hblanks _ hc with hc | hc <;> exact absurd hc (by decide)
  · rw [hname _ hc] at hfeed
    cases hfeed
  · rcases hret with rfl | rfl
    · cases hc
    · exact absurd hc (by decide)

/-- **What is read as a delimiter line is what has its form.** -/
theorem delimiter?_eq_some_iff {ext : List Char} (hext : '\n' ∉ ext) (cs name rest : List Char) :
    delimiter? ext cs = some (name, rest) ↔
      ∃ line, IsDelimiter ext name line ∧ EndsLine rest ∧ cs = line ++ rest := by
  constructor
  · exact exists_isDelimiter
  · rintro ⟨line, hline, hrest, rfl⟩
    have hsome : ∃ found, delimiter? ext (line ++ rest) = some found := by
      obtain ⟨blanks, ret, rfl, hblanks, hne, hname, hret⟩ := hline
      have hend : extensionEnd? ext ('.' :: ext ++ ret ++ rest) = some rest :=
        extensionEnd?_eq_some_iff.2 ⟨hrest, ret, hret, rfl⟩
      have hcs : ['/', '/', '-', '-'] ++ (blanks ++ (name ++ ('.' :: ext ++ ret))) ++ rest =
          ['/', '/', '-', '-'] ++ (blanks ++ (name ++ ('.' :: ext ++ ret ++ rest))) := by
        simp only [List.append_assoc]
      rw [hcs, delimiter?, after?_append, Option.bind_some]
      dsimp only
      rw [dropWhile_blanks hblanks hne hname]
      refine exists_longestName? hne ?_ hend
      rw [List.takeWhile_append_of_pos (by simpa using hname), List.length_append]
      exact Nat.le_add_right _ _
    obtain ⟨⟨name', rest'⟩, hread⟩ := hsome
    obtain ⟨line', hline', hrest', heq⟩ := exists_isDelimiter hread
    obtain ⟨rfl, rfl⟩ := append_inj_of_endsLine (hline.not_mem hext) (hline'.not_mem hext) hrest
      hrest' heq
    rw [hread, hline.name_eq hline']

theorem delimiter?_eq_none {ext : List Char} (hext : '\n' ∉ ext) {r rest : List Char}
    (hr : '\n' ∉ r) (hplain : ∀ name, ¬ IsDelimiter ext name r) (hrest : EndsLine rest) :
    delimiter? ext (r ++ rest) = none := by
  cases hread : delimiter? ext (r ++ rest) with
  | none => rfl
  | some found =>
    obtain ⟨line, hline, hrest', heq⟩ := exists_isDelimiter hread
    obtain ⟨rfl, -⟩ := append_inj_of_endsLine hr (hline.not_mem hext) hrest hrest' heq
    exact absurd hline (hplain _)

/-! ## The delimiter lines of a text -/

def IsDelimiterLine (ext line : List Char) : Prop := ∃ name, IsDelimiter ext name (run line)

instance (ext : List Char) : DecidablePred (IsDelimiterLine ext) := fun line =>
  decidable_of_iff ((delimiter? ext (run line)).isSome = true) <| by
    rw [Option.isSome_iff_exists]
    constructor
    · rintro ⟨⟨name, rest⟩, h⟩
      obtain ⟨r, hr, hrest, heq⟩ := exists_isDelimiter h
      rcases hrest with rfl | ⟨cs, rfl⟩
      · rw [List.append_nil] at heq
        exact ⟨name, heq ▸ hr⟩
      · exact absurd (heq ▸ List.mem_append_right r List.mem_cons_self) (not_mem_run line)
    · rintro ⟨name, h⟩
      -- the extension is a part of the line, so it holds no line feed either
      have hext : '\n' ∉ ext := by
        obtain ⟨blanks, ret, heq, -⟩ := h
        intro hmem
        exact not_mem_run line (heq ▸ by simp [hmem])
      exact ⟨(name, []), (delimiter?_eq_some_iff hext _ _ _).2
        ⟨_, h, Or.inl rfl, (List.append_nil _).symm⟩⟩

/-- The delimiter lines, with their line feeds. -/
def delimiterLines (ext cs : List Char) : List (List Char) :=
  (lines cs).filter (IsDelimiterLine ext ·)

/-- No line is a delimiter line. -/
def Plain (ext cs : List Char) : Prop := ∀ line ∈ lines cs, ¬ IsDelimiterLine ext line

instance (ext cs : List Char) : Decidable (Plain ext cs) :=
  inferInstanceAs (Decidable (∀ line ∈ lines cs, ¬ IsDelimiterLine ext line))

theorem plain_iff_delimiterLines (ext cs : List Char) :
    Plain ext cs ↔ delimiterLines ext cs = [] := by
  rw [Plain, delimiterLines, List.filter_eq_nil_iff]
  simp only [decide_eq_true_eq]

/-- A text is empty, or a delimiter line or another line with the text behind it. -/
@[elab_as_elim]
theorem delimiter_induction {ext : List Char} {P : List Char → Prop} (nil : P [])
    (delimiter : ∀ name r rest, '\n' ∉ r → IsDelimiter ext name r → EndsLine rest →
      P (rest.drop 1) → P (r ++ rest))
    (plain : ∀ r rest, '\n' ∉ r → (∀ name, ¬ IsDelimiter ext name r) → EndsLine rest →
      r ++ rest ≠ [] → P (rest.drop 1) → P (r ++ rest)) (cs : List Char) : P cs := by
  induction cs using line_induction with
  | nil => exact nil
  | line r rest hr hrest hne ih =>
    by_cases h : ∃ name, IsDelimiter ext name r
    · obtain ⟨name, h⟩ := h
      exact delimiter name r rest hr h hrest ih
    · exact plain r rest hr (not_exists.1 h) hrest hne ih

section
variable {ext r rest : List Char} (hr : '\n' ∉ r) (hrest : EndsLine rest)

include hr hrest

theorem delimiterLines_delimiter {name : List Char} (h : IsDelimiter ext name r) :
    delimiterLines ext (r ++ rest) = (r ++ rest.take 1) :: delimiterLines ext (rest.drop 1) := by
  have hne : r ++ rest ≠ [] := by
    obtain ⟨blanks, ret, rfl, -⟩ := h
    exact List.cons_ne_nil _ _
  have hline : IsDelimiterLine ext (r ++ rest.take 1) :=
    ⟨name, (run_append hr hrest.take).symm ▸ h⟩
  rw [delimiterLines, lines_append hr hrest hne, List.filter_cons_of_pos (by simpa using hline)]
  rfl

theorem delimiterLines_plain (hne : r ++ rest ≠ []) (h : ∀ name, ¬ IsDelimiter ext name r) :
    delimiterLines ext (r ++ rest) = delimiterLines ext (rest.drop 1) := by
  have hline : ¬ IsDelimiterLine ext (r ++ rest.take 1) := by
    rw [IsDelimiterLine, run_append hr hrest.take]
    exact not_exists.2 h
  rw [delimiterLines, lines_append hr hrest hne, List.filter_cons_of_neg (by simpa using hline)]
  rfl

end

/-! ## What a split does with one line -/

theorem splitFrom_nil (ext : List Char) (lineStart : Bool) :
    splitFrom ext lineStart [] = ([], []) := by
  rw [splitFrom]

theorem splitFrom_of_some {ext cs name rest : List Char}
    (h : delimiter? ext cs = some (name, rest)) :
    splitFrom ext true cs = ([], (name, (splitFrom ext true (rest.drop 1)).1) ::
      (splitFrom ext true (rest.drop 1)).2) := by
  cases cs with
  | nil => cases h
  | cons c cs =>
    rw [splitFrom]
    split
    · next hsome =>
      cases hsome.symm.trans h
      rfl
    · next hnone => cases hnone.symm.trans h

theorem splitFrom_of_none {ext cs : List Char} (h : delimiter? ext cs = none) :
    splitFrom ext true cs = splitFrom ext false cs := by
  cases cs with
  | nil => rw [splitFrom_nil, splitFrom_nil]
  | cons c cs =>
    rw [splitFrom, splitFrom]
    split
    · next hsome => cases hsome.symm.trans h
    · rfl

/-- Inside a line no delimiter line begins. -/
theorem splitFrom_inside (ext : List Char) {r rest : List Char} (hr : '\n' ∉ r)
    (hrest : EndsLine rest) :
    splitFrom ext false (r ++ rest) = (r ++ rest.take 1 ++ (splitFrom ext true (rest.drop 1)).1,
      (splitFrom ext true (rest.drop 1)).2) := by
  induction r with
  | nil =>
    rcases hrest with rfl | ⟨cs, rfl⟩
    · simp [splitFrom_nil]
    · rw [List.nil_append, splitFrom]
      rfl
  | cons c r ih =>
    rw [List.mem_cons, not_or] at hr
    have hc : (c == '\n') = false := beq_false_of_ne (Ne.symm hr.1)
    rw [List.cons_append, splitFrom]
    split
    · next h => cases h
    · rw [hc, ih hr.2]
      rfl

section
variable {ext : List Char} (hext : '\n' ∉ ext) {r rest : List Char} (hrest : EndsLine rest)

include hext hrest

theorem splitFrom_delimiter {name : List Char} (h : IsDelimiter ext name r) :
    splitFrom ext true (r ++ rest) = ([], (name, (splitFrom ext true (rest.drop 1)).1) ::
      (splitFrom ext true (rest.drop 1)).2) :=
  splitFrom_of_some ((delimiter?_eq_some_iff hext _ _ _).2 ⟨r, h, hrest, rfl⟩)

theorem splitFrom_plain (hr : '\n' ∉ r) (h : ∀ name, ¬ IsDelimiter ext name r) :
    splitFrom ext true (r ++ rest) = (r ++ rest.take 1 ++ (splitFrom ext true (rest.drop 1)).1,
      (splitFrom ext true (rest.drop 1)).2) := by
  rw [splitFrom_of_none (delimiter?_eq_none hext hr h hrest), splitFrom_inside ext hr hrest]

end

end Source

end TemplateBundler
