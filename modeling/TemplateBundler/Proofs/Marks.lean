import TemplateBundler.Proofs.Preorder

/-!
# How far a mark reaches

A mark stores its time on the unit and climbs from parent to parent, past units without freshness of
their own, up to the first that is as fresh. `Passes t time i u` says that the climb from `i` raises
`u`.

    (t.mark i time).own? i = some time                                             (own?_mark_self)
    Passes t time i u → (t.mark i time).own? u = some time                    (own?_mark_of_passes)
    u ≠ i → ¬ Passes t time i u → (t.mark i time).own? u = t.own? u       (own?_mark_of_not_passes)
-/

namespace TemplateBundler.UnitTree

/-! ## Ancestors -/

theorem mem_ancestors_iff (t : UnitTree) (i a : Nat) :
    a ∈ t.ancestors i ↔ ∃ p, t.parent? i = some p ∧ (a = p ∨ a ∈ t.ancestors p) := by
  cases hp : t.parent? i with
  | none => simp [ancestors_of_none hp]
  | some p => simp [ancestors_eq hp]

theorem lt_of_mem_ancestors_size {t : UnitTree} {i a : Nat} (h : a ∈ t.ancestors i) :
    i < t.units.size := by
  obtain ⟨p, hp, -⟩ := (mem_ancestors_iff t i a).1 h
  exact lt_of_parent? hp

theorem ancestors_trans {t : UnitTree} {a b c : Nat} (hab : a ∈ t.ancestors b)
    (hbc : b ∈ t.ancestors c) : a ∈ t.ancestors c := by
  induction c using Nat.strongRecOn with
  | _ c ih =>
    obtain ⟨p, hp, hb⟩ := (mem_ancestors_iff t c b).1 hbc
    refine (mem_ancestors_iff t c a).2 ⟨p, hp, Or.inr ?_⟩
    rcases hb with rfl | hb
    · exact hab
    · exact ih p (parent?_lt hp) hb

theorem lineage_trans {t : UnitTree} {a b c : Nat} (hab : a ∈ t.lineage b) (hbc : b ∈ t.lineage c) :
    a ∈ t.lineage c := by
  rcases List.mem_cons.1 hab with rfl | hab
  · exact hbc
  · rcases List.mem_cons.1 hbc with rfl | hbc
    · exact List.mem_cons_of_mem _ hab
    · exact List.mem_cons_of_mem _ (ancestors_trans hab hbc)

/-- The ancestors of a unit stand one above the other. -/
theorem ancestors_total {t : UnitTree} {a b c : Nat} (ha : a ∈ t.ancestors c)
    (hb : b ∈ t.ancestors c) : a = b ∨ a ∈ t.ancestors b ∨ b ∈ t.ancestors a := by
  induction c using Nat.strongRecOn with
  | _ c ih =>
    obtain ⟨p, hp, ha⟩ := (mem_ancestors_iff t c a).1 ha
    obtain ⟨q, hq, hb⟩ := (mem_ancestors_iff t c b).1 hb
    obtain rfl := Option.some.inj (hp.symm.trans hq)
    rcases ha with rfl | ha
    · rcases hb with rfl | hb
      · exact Or.inl rfl
      · exact Or.inr (Or.inr hb)
    · rcases hb with rfl | hb
      · exact Or.inr (Or.inl ha)
      · exact ih p (parent?_lt hp) ha hb

theorem ancestors_congr {t t' : UnitTree} (h : ∀ i, t'.face? i = t.face? i) (i : Nat) :
    t'.ancestors i = t.ancestors i := by
  induction i using Nat.strongRecOn with
  | _ i ih =>
    cases hp : t.parent? i with
    | none => rw [ancestors_of_none hp, ancestors_of_none ((parent?_congr (h i)).trans hp)]
    | some p =>
      rw [ancestors_eq hp, ancestors_eq ((parent?_congr (h i)).trans hp), ih p (parent?_lt hp)]

theorem ancestors_insert {t : UnitTree} {p : Nat} (hp : p < t.units.size) (n : String)
    (r : Renderer) (o : Origin) (f : Option Time) {i : Nat} (hi : i ≠ t.units.size) :
    (t.insert p n r o f).1.ancestors i = t.ancestors i := by
  induction i using Nat.strongRecOn with
  | _ i ih =>
    have hparent : (t.insert p n r o f).1.parent? i = t.parent? i := by
      rw [parent?_insert hp, if_neg hi]
    cases hq : t.parent? i with
    | none => rw [ancestors_of_none hq, ancestors_of_none (hparent.trans hq)]
    | some q =>
      have := lt_of_parent? hq
      have hlt := parent?_lt hq
      rw [ancestors_eq hq, ancestors_eq (hparent.trans hq), ih q hlt (by omega)]

theorem ancestors_insert_self {t : UnitTree} {p : Nat} (hp : p < t.units.size) (n : String)
    (r : Renderer) (o : Origin) (f : Option Time) :
    (t.insert p n r o f).1.ancestors t.units.size = t.lineage p := by
  have hparent : (t.insert p n r o f).1.parent? t.units.size = some p := by
    rw [parent?_insert hp, if_pos rfl]
  rw [ancestors_eq hparent, ancestors_insert hp n r o f (Nat.ne_of_lt hp), lineage]

/-! ## The way of a mark -/

theorem lt_of_own? {t : UnitTree} {i : Nat} {x : Time} (h : t.own? i = some x) :
    i < t.units.size := by
  obtain ⟨u, hu, -⟩ := Option.bind_eq_some_iff.1 h
  exact unit?_lt hu

theorem own?_setOwn {t : UnitTree} {i : Nat} (hi : i < t.units.size) (time : Time) (u : Nat) :
    (t.setOwn i time).own? u = if i = u then some time else t.own? u := by
  simp only [own?, unit?_setOwn]
  by_cases hiu : i = u
  · subst hiu
    obtain ⟨v, hv⟩ := unit?_isSome hi
    rw [if_pos rfl, if_pos rfl, hv]
    rfl
  · rw [if_neg hiu, if_neg hiu]

/-- `u` lies above `i` and stores a freshness, and up to there everything stored is older than the
time. -/
def Passes (t : UnitTree) (time : Time) (i u : Nat) : Prop :=
  u ∈ t.ancestors i ∧ (t.own? u).isSome ∧
    ∀ w ∈ t.ancestors i, w = u ∨ u ∈ t.ancestors w → ∀ x, t.own? w = some x → x < time

theorem not_passes_of_none {t : UnitTree} {time : Time} {i u : Nat} (h : t.parent? i = none) :
    ¬ Passes t time i u := by
  intro hpass
  obtain ⟨p, hp, -⟩ := (mem_ancestors_iff t i u).1 hpass.1
  rw [h] at hp
  cases hp

/-- The way starts at the parent. -/
theorem passes_iff {t : UnitTree} {time : Time} {i p u : Nat} (hp : t.parent? i = some p) :
    Passes t time i u ↔ (∀ x, t.own? p = some x → x < time) ∧
      ((u = p ∧ (t.own? p).isSome) ∨ Passes t time p u) := by
  have hanc := ancestors_eq hp
  constructor
  · rintro ⟨hu, hsome, hold⟩
    rw [hanc] at hu hold
    rcases List.mem_cons.1 hu with rfl | hu
    · exact ⟨hold u List.mem_cons_self (Or.inl rfl), Or.inl ⟨rfl, hsome⟩⟩
    · refine ⟨hold p List.mem_cons_self (Or.inr hu), Or.inr ⟨hu, hsome, fun w hw => ?_⟩⟩
      exact hold w (List.mem_cons_of_mem _ hw)
  · rintro ⟨hold, ⟨rfl, hsome⟩ | ⟨hu, hsome, hrest⟩⟩
    · refine ⟨hanc ▸ List.mem_cons_self, hsome, fun w hw hwu => ?_⟩
      rw [hanc] at hw
      rcases List.mem_cons.1 hw with rfl | hw
      · exact hold
      · have hlt := lt_of_mem_ancestors hw
        rcases hwu with rfl | hwu
        · exact absurd hlt (Nat.lt_irrefl w)
        · have := lt_of_mem_ancestors hwu
          omega
    · refine ⟨hanc ▸ List.mem_cons_of_mem _ hu, hsome, fun w hw hwu => ?_⟩
      rw [hanc] at hw
      rcases List.mem_cons.1 hw with rfl | hw
      · exact hold
      · exact hrest w hw hwu

/-- Storing a freshness further down changes nothing on the way. -/
theorem passes_setOwn {t : UnitTree} {i p u : Nat} {time : Time} (hi : i < t.units.size)
    (hpi : p ≤ i) : Passes (t.setOwn i time) time p u ↔ Passes t time p u := by
  have hanc : ∀ j, (t.setOwn i time).ancestors j = t.ancestors j :=
    ancestors_congr (face?_setOwn t i time)
  have hown : ∀ w ∈ t.ancestors p, (t.setOwn i time).own? w = t.own? w := by
    intro w hw
    have hlt := lt_of_mem_ancestors hw
    rw [own?_setOwn hi, if_neg (by omega)]
  unfold Passes
  simp only [hanc]
  constructor
  · rintro ⟨hu, hsome, hold⟩
    refine ⟨hu, hown u hu ▸ hsome, fun w hw hwu x hx => hold w hw hwu x ?_⟩
    rw [hown w hw, hx]
  · rintro ⟨hu, hsome, hold⟩
    refine ⟨hu, by rw [hown u hu]; exact hsome, fun w hw hwu x hx => hold w hw hwu x ?_⟩
    rw [← hown w hw, hx]

/-- Units that store nothing have a parent. -/
def Rooted (t : UnitTree) : Prop := ∀ a, a < t.units.size → t.own? a = none → (t.parent? a).isSome

theorem rooted_setOwn {t : UnitTree} (ht : t.Rooted) {i : Nat} (hi : i < t.units.size)
    (time : Time) : (t.setOwn i time).Rooted := by
  intro a ha hnone
  rw [size_setOwn] at ha
  rw [parent?_congr (face?_setOwn t i time a)]
  rw [own?_setOwn hi] at hnone
  split at hnone
  · cases hnone
  · exact ht a ha hnone

/-- **What a climb raises.** -/
theorem own?_raise {t : UnitTree} (ht : t.Rooted) (time : Time) (i u : Nat) :
    (Passes t time i u → (raise time t (t.ancestors i)).own? u = some time) ∧
      (¬ Passes t time i u → (raise time t (t.ancestors i)).own? u = t.own? u) := by
  induction i using Nat.strongRecOn generalizing t with
  | _ i ih =>
    cases hp : t.parent? i with
    | none =>
      rw [ancestors_of_none hp]
      exact ⟨fun h => absurd h (not_passes_of_none hp), fun _ => rfl⟩
    | some p =>
      have hlt := parent?_lt hp
      have hsize : p < t.units.size := Nat.lt_trans hlt (lt_of_parent? hp)
      rw [passes_iff hp, ancestors_eq hp, raise]
      cases hown : t.own? p with
      | none =>
        have hparent := ht p hsize hown
        have hstay : (t.parent? p).isNone = false := by
          obtain ⟨q, hq⟩ := Option.isSome_iff_exists.1 hparent
          rw [hq]
          rfl
        simp only [hstay, Bool.false_eq_true, if_false]
        obtain ⟨hyes, hno⟩ := ih p hlt ht
        constructor
        · rintro ⟨-, ⟨-, h⟩ | h⟩
          · cases h
          · exact hyes h
        · intro h
          exact hno fun hpass =>
            h ⟨fun x hx => absurd hx (Option.some_ne_none x).symm, Or.inr hpass⟩
      | some x =>
        simp only
        by_cases hx : time ≤ x
        · -- a unit that is as fresh ends the climb
          rw [if_pos hx]
          exact ⟨fun h => absurd (h.1 x rfl) (Int.not_lt.2 hx), fun _ => rfl⟩
        · rw [if_neg hx]
          have hanc := ancestors_congr (face?_setOwn t p time) p
          obtain ⟨hyes, hno⟩ := ih p hlt (rooted_setOwn ht hsize time)
          rw [passes_setOwn hsize (Nat.le_refl p), hanc] at hyes hno
          have hself : ¬ Passes t time p p := fun h => Nat.lt_irrefl p (lt_of_mem_ancestors h.1)
          have hold : ∀ y, some x = some y → y < time := by
            intro y hy
            obtain rfl := Option.some.inj hy
            exact Int.not_le.1 hx
          constructor
          · rintro ⟨-, ⟨rfl, -⟩ | h⟩
            · rw [hno hself, own?_setOwn hsize, if_pos rfl]
            · exact hyes h
          · intro h
            have hup : u ≠ p := fun e => h ⟨hold, Or.inl ⟨e, rfl⟩⟩
            rw [hno fun hpass => h ⟨hold, Or.inr hpass⟩, own?_setOwn hsize, if_neg (Ne.symm hup)]

section Mark
variable {t : UnitTree} (ht : t.Rooted) {i : Nat} (hi : i < t.units.size) (time : Time)

include ht hi

theorem own?_mark_of_passes {u : Nat} (h : Passes t time i u) :
    (t.mark i time).own? u = some time := by
  unfold mark
  rw [← ancestors_congr (face?_setOwn t i time)]
  exact (own?_raise (rooted_setOwn ht hi time) time i u).1
    ((passes_setOwn hi (Nat.le_refl i)).2 h)

theorem own?_mark_of_not_passes {u : Nat} (hu : u ≠ i) (h : ¬ Passes t time i u) :
    (t.mark i time).own? u = t.own? u := by
  unfold mark
  rw [← ancestors_congr (face?_setOwn t i time)]
  rw [(own?_raise (rooted_setOwn ht hi time) time i u).2
    fun hpass => h ((passes_setOwn hi (Nat.le_refl i)).1 hpass)]
  rw [own?_setOwn hi, if_neg (Ne.symm hu)]

theorem own?_mark_self : (t.mark i time).own? i = some time := by
  have hself : ¬ Passes t time i i := fun h => Nat.lt_irrefl i (lt_of_mem_ancestors h.1)
  unfold mark
  rw [← ancestors_congr (face?_setOwn t i time)]
  rw [(own?_raise (rooted_setOwn ht hi time) time i i).2
    fun hpass => hself ((passes_setOwn hi (Nat.le_refl i)).1 hpass)]
  rw [own?_setOwn hi, if_pos rfl]

end Mark

end TemplateBundler.UnitTree
