import Mathlib.Order.Defs.Unbundled
import TemplateBundler.Text.Reader

/-!
# What readers leave

A relation between a text and what a reader leaves of it (`Leaves`) holds for readers that are put
together when it holds for their parts, as soon as it is reflexive and transitive: a bind leaves what
its second reader leaves of what the first one left, a choice is one of its two readers, and a
repetition and a family described in terms of itself go by the bound on their depth.
-/

namespace TemplateBundler.Text.Reader

variable {α β ι : Type} {p q : Reader α} {cs rest : List Char}

/-! ## Results -/

theorem bind_eq_some_iff {f : α → Reader β} {b : β} : (p >>= f) cs = some (b, rest) ↔
    ∃ a mid, p cs = some (a, mid) ∧ f a mid = some (b, rest) := by
  constructor
  · intro h
    obtain ⟨⟨a, mid⟩, hp, hf⟩ := Option.bind_eq_some_iff.1 h
    exact ⟨a, mid, hp, hf⟩
  · rintro ⟨a, mid, hp, hf⟩
    exact Option.bind_eq_some_iff.2 ⟨(a, mid), hp, hf⟩

theorem seqRight_eq_some_iff {r : Reader β} {b : β} : (p *> r) cs = some (b, rest) ↔
    ∃ a mid, p cs = some (a, mid) ∧ r mid = some (b, rest) :=
  bind_eq_some_iff (f := fun _ => r)

theorem orElse_eq : (p <|> q) cs = (p cs).orElse fun _ => q cs := by
  simp only [HOrElse.hOrElse, OrElse.orElse, Alternative.orElse]
  cases p cs with
  | none => rfl
  | some r => rfl

theorem orElse_of_none (h : p cs = none) : (p <|> q) cs = q cs := by
  rw [orElse_eq, h]
  rfl

theorem orElse_of_some {r : α × List Char} (h : p cs = some r) : (p <|> q) cs = some r := by
  rw [orElse_eq, h]
  rfl

theorem orElse_cases {r : α × List Char} (h : (p <|> q) cs = some r) :
    p cs = some r ∨ p cs = none ∧ q cs = some r := by
  cases hp : p cs with
  | none => exact .inr ⟨rfl, (orElse_of_none hp).symm.trans h⟩
  | some r' => exact .inl ((orElse_of_some hp).symm.trans h)

theorem char_eq_some_iff {f : Char → Bool} {c : Char} :
    char f cs = some (c, rest) ↔ f c = true ∧ cs = c :: rest := by
  cases cs with
  | nil => simp [char]
  | cons d cs =>
    simp only [char, List.cons.injEq]
    split
    · next hd =>
      simp only [Option.some.injEq, Prod.mk.injEq]
      exact ⟨fun h => ⟨h.1 ▸ hd, h⟩, fun h => h.2⟩
    · next hd => exact ⟨fun h => (by cases h), fun h => absurd (h.2.1 ▸ h.1) hd⟩

/-- `chars` takes what it can. -/
theorem chars_eq_some_iff {f : Char → Bool} {front : List Char} : chars f cs = some (front, rest) ↔
    cs = front ++ rest ∧ front.all f = true ∧ (rest.head?.all fun c => !f c) = true := by
  constructor
  · intro h
    refine ⟨chars_append h, ?_⟩
    rw [chars, Option.some.injEq, Prod.mk.injEq] at h
    obtain ⟨rfl, rfl⟩ := h
    refine ⟨List.all_takeWhile, ?_⟩
    have hstop := List.head?_dropWhile_not f cs
    cases hdrop : cs.dropWhile f with
    | nil => rfl
    | cons c rest =>
      rw [hdrop] at hstop
      exact congrArg (!·) hstop
  · rintro ⟨rfl, hfront, hrest⟩
    have hall : ∀ c ∈ front, f c = true := List.all_eq_true.1 hfront
    have hstop : rest.takeWhile f = [] ∧ rest.dropWhile f = rest := by
      cases rest with
      | nil => exact ⟨rfl, rfl⟩
      | cons c rest =>
        have hc : ¬f c = true := by simpa using hrest
        rw [List.takeWhile_cons, List.dropWhile_cons, if_neg hc, if_neg hc]
        exact ⟨rfl, rfl⟩
    rw [chars, List.takeWhile_append_of_pos hall, List.dropWhile_append_of_pos hall, hstop.1,
      hstop.2, List.append_nil]

/-- A text is cut in one way only where a class ends. -/
theorem chars_inj {f : Char → Bool} {front front' rest' : List Char}
    (h : front ++ rest = front' ++ rest') (hfront : front.all f = true)
    (hfront' : front'.all f = true) (hrest : (rest.head?.all fun c => !f c) = true)
    (hrest' : (rest'.head?.all fun c => !f c) = true) : front = front' ∧ rest = rest' := by
  have hread := chars_eq_some_iff.2 ⟨rfl, hfront, hrest⟩
  rw [chars_eq_some_iff.2 ⟨h, hfront', hrest'⟩, Option.some.injEq, Prod.mk.injEq] at hread
  exact ⟨hread.1.symm, hread.2.symm⟩

theorem head_all_of_imp {f g : Char → Bool} (himp : ∀ c, f c = true → g c = true) 
    (h : (cs.head?.all fun c => !g c) = true) : (cs.head?.all fun c => !f c) = true := by
  cases cs with
  | nil => rfl
  | cons c cs =>
    have hc : ¬g c = true := by simpa using h
    simpa using fun hf => hc (himp c hf)

theorem textBefore_eq_some {stop : Reader α} {t : List Char} {a : α}
    (h : textBefore stop cs = some ((t, a), rest)) : ∃ s, cs = t ++ s ∧ stop s = some (a, rest) := by
  induction cs generalizing t with
  | nil =>
    obtain ⟨⟨a', rest'⟩, hread, h⟩ := Option.map_eq_some_iff.1 h
    cases h
    exact ⟨[], rfl, hread⟩
  | cons c cs ih =>
    rw [textBefore] at h
    split at h
    · next r hread =>
      cases h
      exact ⟨c :: cs, rfl, hread⟩
    · obtain ⟨⟨⟨t', a'⟩, rest'⟩, hread, h⟩ := Option.map_eq_some_iff.1 h
      cases h
      obtain ⟨s, rfl, hs⟩ := ih hread
      exact ⟨s, rfl, hs⟩

theorem notAt_char_iff {f : Char → Bool} {u : Unit} :
    notAt (char f) cs = some (u, rest) ↔ (cs.head?.all fun c => !f c) = true ∧ rest = cs := by
  cases cs with
  | nil => simp [notAt, char, eq_comm]
  | cons c cs => cases hc : f c <;> simp [notAt, char, hc, eq_comm]

/-! ## Relations -/

/-- The relation holds between each text that the reader reads from and what it leaves of it. -/
def Leaves (R : List Char → List Char → Prop) (p : Reader α) : Prop :=
  ∀ ⦃cs : List Char⦄ ⦃a : α⦄ ⦃rest : List Char⦄, p cs = some (a, rest) → R cs rest

variable {R : List Char → List Char → Prop}

theorem leaves_failure : Leaves R (failure : Reader α) := by
  intro cs a rest h
  cases h

theorem Leaves.orElse (hp : Leaves R p) (hq : Leaves R q) : Leaves R (p <|> q) := by
  intro cs a rest h
  rcases orElse_cases h with h | ⟨-, h⟩
  · exact hp h
  · exact hq h

theorem Leaves.written (hp : Leaves R p) : Leaves R (written p) := by
  intro cs front rest h
  obtain ⟨⟨a, rest'⟩, hread, hrest⟩ := Option.map_eq_some_iff.1 h
  cases hrest
  exact hp hread

/-- A family whose members leave what the relation says, where those one level deeper do. -/
theorem leaves_nested {step : (ι → Reader α) → ι → Reader α}
    (hstep : ∀ inner, (∀ i, Leaves R (inner i)) → ∀ i, Leaves R (step inner i)) (i : ι) :
    Leaves R (nested step i) := by
  suffices h : ∀ bound i, Leaves R (levels step bound i) from fun cs a rest hread => h cs i hread
  intro bound
  induction bound with
  | nil => exact fun i => hstep _ (fun _ => leaves_failure) i
  | cons _ bound ih => exact fun i => hstep _ ih i

variable [IsPreorder (List Char) R]

theorem leaves_pure (a : α) : Leaves R (pure a : Reader α) := by
  intro cs b rest h
  cases h
  exact Std.Refl.refl cs

theorem Leaves.bind {f : α → Reader β} (hp : Leaves R p) (hf : ∀ a, Leaves R (f a)) :
    Leaves R (p >>= f) := by
  intro cs b rest h
  obtain ⟨a, mid, hfirst, hsecond⟩ := bind_eq_some_iff.1 h
  exact IsTrans.trans cs mid rest (hp hfirst) (hf a hsecond)

theorem Leaves.map (f : α → β) (hp : Leaves R p) : Leaves R (f <$> p) :=
  hp.bind fun a => leaves_pure (f a)

theorem Leaves.seqRight {r : Reader β} (hr : Leaves R r) (hp : Leaves R p) : Leaves R (r *> p) :=
  hr.bind fun _ => hp

theorem Leaves.seqLeft {r : Reader β} (hp : Leaves R p) (hr : Leaves R r) : Leaves R (p <* r) :=
  hp.bind fun a => hr.bind fun _ => leaves_pure a

theorem Leaves.option (hp : Leaves R p) : Leaves R (option p) :=
  (hp.map some).orElse (leaves_pure none)

theorem Leaves.flag (hp : Leaves R p) : Leaves R (flag p) :=
  (hp.seqRight (leaves_pure true)).orElse (leaves_pure false)

theorem Leaves.many (hp : Leaves R p) : Leaves R (many p) := by
  suffices h : ∀ bound, Leaves R (upTo p bound) from fun cs a rest hread => h cs hread
  intro bound
  induction bound with
  | nil => exact leaves_pure []
  | cons _ bound ih =>
    exact Leaves.orElse (hp.bind fun a => ih.bind fun as => leaves_pure (a :: as)) (leaves_pure [])

theorem Leaves.sepBy1 {r : Reader β} (hp : Leaves R p) (hr : Leaves R r) :
    Leaves R (sepBy1 p r) :=
  hp.bind fun a => (hr.seqRight hp).many.bind fun as => leaves_pure (a :: as)

end TemplateBundler.Text.Reader
