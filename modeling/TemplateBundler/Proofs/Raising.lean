import TemplateBundler.Proofs.Marks
import TemplateBundler.Proofs.Reachability

/-!
# Marks and the freshness of ancestors

At each unit of its way a climb ends, stores the time or goes on (`raise_cons_cases`). It stores the
time over an older one, and at the top of a tree that stores nothing there. So a mark makes an
ancestor less fresh in one case only: the ancestor reports the epoch, since neither it nor anything
above it stores a freshness, and a time before the epoch reaches the top.

    t.freshness a ≤ (t.mark u time).freshness a ↔ Time.never ≤ time ∨
      (something is stored at `a` or above it) ∨ (something above `u` is as fresh as `time`)
-/

namespace TemplateBundler.UnitTree

/-! ## The way up to the root -/

theorem parent?_setOwn (t : UnitTree) (i : Nat) (time : Time) (u : Nat) :
    (t.setOwn i time).parent? u = t.parent? u :=
  parent?_congr (face?_setOwn t i time u)

theorem ancestors_mark (t : UnitTree) (i : Nat) (time : Time) (u : Nat) :
    (t.mark i time).ancestors u = t.ancestors u :=
  ancestors_congr (face?_mark t i time) u

theorem nodup_ancestors (t : UnitTree) (i : Nat) : (t.ancestors i).Nodup := by
  induction i using Nat.strongRecOn with
  | _ i ih =>
    cases hp : t.parent? i with
    | none => simp [ancestors_of_none hp]
    | some p =>
      rw [ancestors_eq hp, List.nodup_cons]
      exact ⟨fun h => Nat.lt_irrefl p (lt_of_mem_ancestors h), ih p (parent?_lt hp)⟩

/-- Above every unit the root stands last. -/
theorem Linked.exists_ancestors_concat {t : UnitTree} (ht : t.Linked) {i : Nat} (hi : i ≠ rootId)
    (hlt : i < t.units.size) : ∃ as, t.ancestors i = as ++ [rootId] := by
  induction i using Nat.strongRecOn with
  | _ i ih =>
    obtain ⟨p, hp⟩ := Option.isSome_iff_exists.1 (ht.parent?_isSome i hi hlt)
    have hpi := parent?_lt hp
    rw [ancestors_eq hp]
    by_cases hroot : p = rootId
    · rw [hroot, ancestors_of_none ht.parent?_root]
      exact ⟨[], rfl⟩
    · obtain ⟨as, has⟩ := ih p hpi hroot (Nat.lt_trans hpi hlt)
      rw [has]
      exact ⟨p :: as, rfl⟩

theorem Linked.rootId_mem_lineage {t : UnitTree} (ht : t.Linked) {i : Nat}
    (hlt : i < t.units.size) : rootId ∈ t.lineage i := by
  by_cases hi : i = rootId
  · rw [hi]
    exact List.mem_cons_self
  · obtain ⟨as, has⟩ := ht.exists_ancestors_concat hi hlt
    rw [lineage, has]
    simp

/-! ## The steps of a climb -/

theorem own?_setOwn_of_ne {t : UnitTree} {i u : Nat} (h : i ≠ u) (time : Time) :
    (t.setOwn i time).own? u = t.own? u := by
  simp only [own?, unit?_setOwn, if_neg h]

/-- A climb ends at a unit that is as fresh. -/
def Halts (t : UnitTree) (time : Time) (a : Nat) : Prop := ∃ x, t.own? a = some x ∧ time ≤ x

/-- A climb stores the time on a unit that is older, or that stores nothing and is the top. -/
def Takes (t : UnitTree) (time : Time) (a : Nat) : Prop :=
  (∃ x, t.own? a = some x ∧ x < time) ∨ (t.own? a = none ∧ t.parent? a = none)

theorem Halts.congr {t t' : UnitTree} {time : Time} {a : Nat} (h : t'.own? a = t.own? a) :
    Halts t' time a ↔ Halts t time a := by
  unfold Halts
  rw [h]

theorem Takes.congr {t t' : UnitTree} {time : Time} {a : Nat} (h : t'.own? a = t.own? a)
    (hp : t'.parent? a = t.parent? a) : Takes t' time a ↔ Takes t time a := by
  unfold Takes
  rw [h, hp]

theorem Takes.not_halts {t : UnitTree} {time : Time} {a : Nat} (h : Takes t time a) :
    ¬ Halts t time a := by
  rintro ⟨y, hy, hle⟩
  rcases h with ⟨x, hx, hlt⟩ | ⟨hnone, -⟩
  · rw [hx] at hy
    obtain rfl := Option.some.inj hy
    exact Int.not_lt.2 hle hlt
  · rw [hnone] at hy
    cases hy

section Step
variable {t : UnitTree} {time : Time} {a : Nat} (as : List Nat)

theorem raise_of_halts (h : Halts t time a) : raise time t (a :: as) = t := by
  obtain ⟨x, hx, hle⟩ := h
  rw [raise, hx]
  exact if_pos hle

theorem raise_of_takes (h : Takes t time a) :
    raise time t (a :: as) = raise time (t.setOwn a time) as := by
  rcases h with ⟨x, hx, hlt⟩ | ⟨hnone, htop⟩
  · rw [raise, hx]
    exact if_neg (Int.not_le.2 hlt)
  · rw [raise, hnone, htop]
    rfl

theorem raise_of_follows (hnone : t.own? a = none) (hp : (t.parent? a).isSome) :
    raise time t (a :: as) = raise time t as := by
  obtain ⟨p, hp⟩ := Option.isSome_iff_exists.1 hp
  rw [raise, hnone, hp]
  rfl

/-- **What a climb can do at a unit.** -/
theorem raise_cons_cases (t : UnitTree) (time : Time) (a : Nat) (as : List Nat) :
    (Halts t time a ∧ raise time t (a :: as) = t) ∨
      (Takes t time a ∧ raise time t (a :: as) = raise time (t.setOwn a time) as) ∨
      (t.own? a = none ∧ (t.parent? a).isSome ∧ raise time t (a :: as) = raise time t as) := by
  cases hown : t.own? a with
  | some x =>
    rcases Int.lt_or_le x time with hlt | hle
    · have h : Takes t time a := Or.inl ⟨x, hown, hlt⟩
      exact Or.inr (Or.inl ⟨h, raise_of_takes as h⟩)
    · have h : Halts t time a := ⟨x, hown, hle⟩
      exact Or.inl ⟨h, raise_of_halts as h⟩
  | none =>
    cases hp : t.parent? a with
    | none =>
      have h : Takes t time a := Or.inr ⟨hown, hp⟩
      exact Or.inr (Or.inl ⟨h, raise_of_takes as h⟩)
    | some p =>
      have hp : (t.parent? a).isSome := by rw [hp]; rfl
      exact Or.inr (Or.inr ⟨rfl, rfl, raise_of_follows as hown hp⟩)

end Step

/-! ## What a climb leaves -/

/-- A climb stores the time where it is taken, and changes no freshness but that. -/
theorem own?_raise_cases (time : Time) (t : UnitTree) (as : List Nat) (w : Nat) :
    (raise time t as).own? w = t.own? w ∨
      (w ∈ as ∧ Takes t time w ∧ (raise time t as).own? w = some time) := by
  induction as generalizing t with
  | nil => exact Or.inl rfl
  | cons a as ih =>
    rcases raise_cons_cases t time a as with ⟨-, heq⟩ | ⟨htakes, heq⟩ | ⟨-, -, heq⟩
    · exact Or.inl (congrArg (fun s => own? s w) heq)
    · rw [heq]
      by_cases haw : a = w
      · subst haw
        by_cases hsize : a < t.units.size
        · refine Or.inr ⟨List.mem_cons_self, htakes, ?_⟩
          rcases ih (t.setOwn a time) with h | ⟨-, -, h⟩
          · rw [h, own?_setOwn hsize, if_pos rfl]
          · exact h
        · rcases ih (t.setOwn a time) with h | ⟨-, -, h⟩
          · left
            rw [h]
            simp only [own?, unit?_setOwn, unit?_eq_none (Nat.le_of_not_lt hsize), if_true,
              Option.map_none]
          · exact Or.inr ⟨List.mem_cons_self, htakes, h⟩
      · have hown := own?_setOwn_of_ne haw (t := t) time
        rcases ih (t.setOwn a time) with h | ⟨hmem, hw, h⟩
        · exact Or.inl (h.trans hown)
        · exact Or.inr ⟨List.mem_cons_of_mem _ hmem,
            (Takes.congr hown (parent?_setOwn t a time w)).1 hw, h⟩
    · rw [heq]
      exact (ih t).imp_right fun h => ⟨List.mem_cons_of_mem _ h.1, h.2⟩

theorem own?_raise_of_notMem {time : Time} {t : UnitTree} {as : List Nat} {w : Nat} (h : w ∉ as) :
    (raise time t as).own? w = t.own? w :=
  (own?_raise_cases time t as w).resolve_right fun hw => h hw.1

theorem raise_append_of_halts {time : Time} {t : UnitTree} {as : List Nat}
    (h : ∃ a ∈ as, Halts t time a) (bs : List Nat) : raise time t (as ++ bs) = raise time t as := by
  induction as generalizing t with
  | nil =>
    obtain ⟨a, ha, -⟩ := h
    cases ha
  | cons a as ih =>
    obtain ⟨b, hb, hhalts⟩ := h
    rw [List.cons_append]
    rcases raise_cons_cases t time a as with ⟨hend, -⟩ | ⟨htakes, -⟩ | ⟨hnone, hp, -⟩
    · rw [raise_of_halts _ hend, raise_of_halts _ hend]
    · -- the unit where the climb ends is a later one
      have hne : a ≠ b := by
        rintro rfl
        exact htakes.not_halts hhalts
      have hb := (List.mem_cons.1 hb).resolve_left hne.symm
      rw [raise_of_takes _ htakes, raise_of_takes _ htakes]
      exact ih ⟨b, hb, (Halts.congr (own?_setOwn_of_ne hne time)).2 hhalts⟩
    · have hne : b ≠ a := by
        rintro rfl
        obtain ⟨x, hx, -⟩ := hhalts
        rw [hnone] at hx
        cases hx
      have hb := (List.mem_cons.1 hb).resolve_left hne
      rw [raise_of_follows _ hnone hp, raise_of_follows _ hnone hp]
      exact ih ⟨b, hb, hhalts⟩

theorem raise_append_of_not_halts {time : Time} {t : UnitTree} {as : List Nat} (hnd : as.Nodup)
    (h : ∀ a ∈ as, ¬ Halts t time a) (bs : List Nat) :
    raise time t (as ++ bs) = raise time (raise time t as) bs := by
  induction as generalizing t with
  | nil => rfl
  | cons a as ih =>
    rw [List.nodup_cons] at hnd
    rw [List.cons_append]
    rcases raise_cons_cases t time a as with ⟨hend, -⟩ | ⟨htakes, -⟩ | ⟨hnone, hp, -⟩
    · exact absurd hend (h a List.mem_cons_self)
    · rw [raise_of_takes _ htakes, raise_of_takes _ htakes]
      refine ih hnd.2 fun b hb hhalts => h b (List.mem_cons_of_mem _ hb) ?_
      have hne : a ≠ b := fun e => hnd.1 (e ▸ hb)
      exact (Halts.congr (own?_setOwn_of_ne hne time)).1 hhalts
    · rw [raise_of_follows _ hnone hp, raise_of_follows _ hnone hp]
      exact ih hnd.2 fun b hb => h b (List.mem_cons_of_mem _ hb)

/-! ## Freshness after a mark -/

theorem freshness_of_own? {t : UnitTree} {i : Nat} {x : Time} (h : t.own? i = some x) :
    t.freshness i = x := by
  rw [freshness, List.findSome?_cons, h]
  rfl

theorem freshness_of_parent? {t : UnitTree} {i p : Nat} (h : t.own? i = none)
    (hp : t.parent? i = some p) : t.freshness i = t.freshness p := by
  rw [freshness, freshness, List.findSome?_cons, h, ancestors_eq hp]

theorem freshness_of_bare {t : UnitTree} {i : Nat} (h : ∀ w ∈ t.lineage i, t.own? w = none) :
    t.freshness i = Time.never := by
  have hnone : (i :: t.ancestors i).findSome? t.own? = none := List.findSome?_eq_none_iff.2 h
  rw [freshness, hnone]
  rfl

theorem freshness_of_top {t : UnitTree} {i : Nat} (hp : t.parent? i = none) :
    t.freshness i = (t.own? i).getD Time.never := by
  rw [freshness, ancestors_of_none hp, List.findSome?_cons]
  cases t.own? i <;> rfl

section Mark
variable {t : UnitTree} {u : Nat} (time : Time)

theorem parent?_mark (i : Nat) : (t.mark u time).parent? i = t.parent? i :=
  parent?_congr (face?_mark t u time i)

theorem own?_mark_cases {w : Nat} (hw : w ≠ u) : (t.mark u time).own? w = t.own? w ∨
    (w ∈ t.ancestors u ∧ Takes t time w ∧ (t.mark u time).own? w = some time) := by
  have hown := own?_setOwn_of_ne hw.symm (t := t) time
  rcases own?_raise_cases time (t.setOwn u time) (t.ancestors u) w with h | ⟨hmem, htakes, h⟩
  · exact Or.inl (h.trans hown)
  · exact Or.inr ⟨hmem, (Takes.congr hown (parent?_setOwn t u time w)).1 htakes, h⟩

/-- What stores nothing and has a parent to follow is passed by. -/
theorem own?_mark_of_follows {w : Nat} (hw : w ≠ u) (hnone : t.own? w = none)
    (hp : (t.parent? w).isSome) : (t.mark u time).own? w = none := by
  rcases own?_mark_cases time hw with h | ⟨-, htakes, -⟩
  · rw [h, hnone]
  · rcases htakes with ⟨x, hx, -⟩ | ⟨-, htop⟩
    · rw [hnone] at hx
      cases hx
    · rw [htop] at hp
      cases hp

/-- An ancestor that reports something stored does not become less fresh. -/
theorem freshness_le_mark_of_stored {a : Nat} (ha : a ∈ t.ancestors u)
    (h : ∃ w ∈ t.lineage a, (t.own? w).isSome) : t.freshness a ≤ (t.mark u time).freshness a := by
  induction a using Nat.strongRecOn with
  | _ a ih =>
    have hne : a ≠ u := Nat.ne_of_lt (lt_of_mem_ancestors ha)
    cases hown : t.own? a with
    | some x =>
      rw [freshness_of_own? hown]
      rcases own?_mark_cases time hne with hsame | ⟨-, htakes, htime⟩
      · exact Int.le_of_eq (freshness_of_own? (hsame.trans hown)).symm
      · rw [freshness_of_own? htime]
        rcases htakes with ⟨y, hy, hlt⟩ | ⟨hnone, -⟩
        · rw [hown] at hy
          obtain rfl := Option.some.inj hy
          exact Int.le_of_lt hlt
        · rw [hown] at hnone
          cases hnone
    | none =>
      -- what is reported is stored further up
      obtain ⟨w, hw, hsome⟩ := h
      have hwa : w ≠ a := by
        rintro rfl
        rw [hown] at hsome
        cases hsome
      have hw := (List.mem_cons.1 hw).resolve_left hwa
      obtain ⟨p, hp, hwp⟩ := (mem_ancestors_iff t a w).1 hw
      have hpa : p ∈ t.ancestors a := (mem_ancestors_iff t a p).2 ⟨p, hp, Or.inl rfl⟩
      have hnone := own?_mark_of_follows time hne hown (by rw [hp]; rfl)
      rw [freshness_of_parent? hown hp,
        freshness_of_parent? hnone ((parent?_mark time a).trans hp)]
      exact ih p (parent?_lt hp) (ancestors_trans hpa ha) ⟨w, List.mem_cons.2 hwp, hsome⟩

/-- Where nothing is stored up to the root, what the root reports is reported. -/
theorem Linked.freshness_mark_of_bare (ht : t.Linked) {a : Nat} (ha : a ∈ t.ancestors u)
    (h : ∀ w ∈ t.lineage a, t.own? w = none) :
    (t.mark u time).freshness a = (t.mark u time).freshness rootId := by
  induction a using Nat.strongRecOn with
  | _ a ih =>
    by_cases hroot : a = rootId
    · rw [hroot]
    · have hlt := lt_of_mem_ancestors ha
      have hsize := Nat.lt_trans hlt (lt_of_mem_ancestors_size ha)
      obtain ⟨p, hp⟩ := Option.isSome_iff_exists.1 (ht.parent?_isSome a hroot hsize)
      have hpa : p ∈ t.ancestors a := (mem_ancestors_iff t a p).2 ⟨p, hp, Or.inl rfl⟩
      have hnone := own?_mark_of_follows time (Nat.ne_of_lt hlt) (h a List.mem_cons_self)
        (by rw [hp]; rfl)
      rw [freshness_of_parent? hnone ((parent?_mark time a).trans hp)]
      refine ih p (parent?_lt hp) (ancestors_trans hpa ha) fun w hw => h w ?_
      rw [lineage_eq hp]
      exact List.mem_cons_of_mem _ hw

/-- A root that stores nothing stores the time of a climb that reaches it. -/
theorem Linked.own?_mark_root (ht : t.Linked) (hu : u ≠ rootId) (hsize : u < t.units.size)
    (hnone : t.own? rootId = none) :
    ((∃ w ∈ t.ancestors u, Halts t time w) → (t.mark u time).own? rootId = none) ∧
      ((∀ w ∈ t.ancestors u, ¬ Halts t time w) → (t.mark u time).own? rootId = some time) := by
  obtain ⟨as, has⟩ := ht.exists_ancestors_concat hu hsize
  have hnd := nodup_ancestors t u
  have hbelow : ∀ w ∈ t.ancestors u, u ≠ w := fun w hw => Nat.ne_of_gt (lt_of_mem_ancestors hw)
  rw [has] at hnd hbelow
  obtain ⟨hndas, -, hdisjoint⟩ := List.nodup_append.1 hnd
  have hroot : rootId ∉ as := fun hmem =>
    hdisjoint rootId hmem rootId (List.mem_singleton.2 rfl) rfl
  have hhalts : ∀ w ∈ as ++ [rootId], Halts (t.setOwn u time) time w ↔ Halts t time w :=
    fun w hw => Halts.congr (own?_setOwn_of_ne (hbelow w hw) time)
  have hown : (raise time (t.setOwn u time) as).own? rootId = none := by
    rw [own?_raise_of_notMem hroot, own?_setOwn_of_ne hu, hnone]
  rw [UnitTree.mark, has]
  constructor
  · rintro ⟨w, hw, hend⟩
    have hwas : w ∈ as := by
      refine (List.mem_append.1 hw).resolve_right fun hlast => ?_
      obtain ⟨x, hx, -⟩ := hend
      rw [List.mem_singleton.1 hlast, hnone] at hx
      cases hx
    rw [raise_append_of_halts ⟨w, hwas, (hhalts w hw).2 hend⟩, hown]
  · intro hgo
    have hgo' : ∀ w ∈ as, ¬ Halts (t.setOwn u time) time w := fun w hw hend =>
      hgo w (List.mem_append_left _ hw) ((hhalts w (List.mem_append_left _ hw)).1 hend)
    have htop : (raise time (t.setOwn u time) as).parent? rootId = none := by
      rw [parent?_congr (face?_raise _ _ _ _), parent?_setOwn]
      exact ht.parent?_root
    rw [raise_append_of_not_halts hndas hgo', raise_of_takes [] (Or.inr ⟨hown, htop⟩), raise]
    rw [own?_setOwn (by rw [size_raise, size_setOwn]; exact ht.root_lt), if_pos rfl]

end Mark

/-- **When a mark makes an ancestor less fresh, and when it does not.** -/
theorem freshness_le_mark_iff {t : UnitTree} (h : t.Made) {u a : Nat} (ha : a ∈ t.ancestors u)
    (time : Time) : t.freshness a ≤ (t.mark u time).freshness a ↔
      Time.never ≤ time ∨ (∃ w ∈ t.lineage a, (t.own? w).isSome) ∨
        ∃ w ∈ t.ancestors u, ∃ x, t.own? w = some x ∧ time ≤ x := by
  have ht := h.linked
  by_cases hstored : ∃ w ∈ t.lineage a, (t.own? w).isSome
  · exact iff_of_true (freshness_le_mark_of_stored time ha hstored) (Or.inr (Or.inl hstored))
  have hbare : ∀ w ∈ t.lineage a, t.own? w = none := fun w hw =>
    Option.not_isSome_iff_eq_none.1 fun hsome => hstored ⟨w, hw, hsome⟩
  have hsize := lt_of_mem_ancestors_size ha
  have hu : u ≠ rootId := by
    rintro rfl
    exact Nat.not_lt_zero a (lt_of_mem_ancestors ha)
  have hroot : t.own? rootId = none :=
    hbare rootId (ht.rootId_mem_lineage (Nat.lt_trans (lt_of_mem_ancestors ha) hsize))
  obtain ⟨hhalted, hreached⟩ := ht.own?_mark_root time hu hsize hroot
  rw [freshness_of_bare hbare, ht.freshness_mark_of_bare time ha hbare,
    freshness_of_top ((parent?_mark time rootId).trans ht.parent?_root)]
  by_cases hhalts : ∃ w ∈ t.ancestors u, Halts t time w
  · rw [hhalted hhalts]
    exact iff_of_true (Int.le_refl _) (Or.inr (Or.inr hhalts))
  · have hgo : ∀ w ∈ t.ancestors u, ¬ Halts t time w := fun w hw hend => hhalts ⟨w, hw, hend⟩
    rw [hreached hgo]
    refine ⟨Or.inl, fun h => ?_⟩
    exact h.resolve_right fun h => h.elim hstored hhalts

/-- A file below a root that stores nothing. -/
def bareTree : UnitTree :=
  ((ofRoot .empty (.root ⟨"v"⟩) none 0).insert 0 "a" .empty (.file ⟨"v/a.tmpl"⟩) none).1

theorem made_bareTree : bareTree.Made := .insert (.ofRoot _ _ _ _) (by decide) _ _ _ _

/-- The root reports the epoch, and an earlier time once the file is marked with it. -/
theorem exists_lowered_ancestor : ∃ (t : UnitTree) (u a : Nat) (time : Time), t.Made ∧
    a ∈ t.ancestors u ∧ (t.mark u time).freshness a < t.freshness a := by
  have hanc : bareTree.ancestors 1 = [0] := by cbv
  have hroot : bareTree.own? 0 = none := by decide
  have htop : bareTree.parent? 0 = none := by decide
  have hgo : ∀ w ∈ bareTree.ancestors 1, ¬ Halts bareTree (-5) w := by
    rintro w hw ⟨x, hx, -⟩
    rw [hanc] at hw
    rw [List.mem_singleton.1 hw, hroot] at hx
    cases hx
  have hmarked : (bareTree.mark 1 (-5)).own? 0 = some (-5) :=
    (made_bareTree.linked.own?_mark_root (-5) (by decide) (by decide) hroot).2 hgo
  refine ⟨bareTree, 1, 0, -5, made_bareTree, by rw [hanc]; exact List.mem_cons_self, ?_⟩
  rw [freshness_of_own? hmarked, freshness_of_top htop, hroot]
  decide

/-- A file below a block below a file that stores a freshness, and a root that stores none. -/
def nestedTree : UnitTree :=
  let file := ((ofRoot .empty (.root ⟨"v"⟩) none 0).insert 0 "a" .empty (.file ⟨"v/a.tmpl"⟩)
    (some 3)).1
  let block := (file.insert 1 "b" .empty (.block ⟨"v/a.tmpl"⟩ "b") none).1
  (block.insert 2 "c" .empty (.file ⟨"v/a/b/c.tmpl"⟩) none).1

theorem made_nestedTree : nestedTree.Made :=
  .insert (.insert (.insert (.ofRoot _ _ _ _) (by decide) _ _ _ _) (by decide) _ _ _ _) (by decide)
    _ _ _ _

/-- The mark ends at the file of the nested tree and gets to the root of the bare one. -/
theorem freshness_le_mark_nestedTree :
    (nestedTree.Made ∧ nestedTree.ancestors 3 = [2, 1, 0] ∧ ∀ a ∈ nestedTree.ancestors 3,
      nestedTree.freshness a ≤ (nestedTree.mark 3 (-5)).freshness a) ∧
    bareTree.Made ∧ 0 ∈ bareTree.ancestors 1 ∧
      ¬ bareTree.freshness 0 ≤ (bareTree.mark 1 (-5)).freshness 0 := by
  have hnested : nestedTree.ancestors 3 = [2, 1, 0] := by cbv
  have hbare : 0 ∈ bareTree.ancestors 1 := by
    have hanc : bareTree.ancestors 1 = [0] := by cbv
    rw [hanc]
    exact List.mem_cons_self
  have hmem : 1 ∈ nestedTree.ancestors 3 := by
    rw [hnested]
    decide
  have hown : nestedTree.own? 1 = some 3 := by cbv
  refine ⟨⟨made_nestedTree, hnested, fun a ha => ?_⟩, made_bareTree, hbare, fun hle => ?_⟩
  · exact (freshness_le_mark_iff made_nestedTree ha (-5)).2
      (Or.inr (Or.inr ⟨1, hmem, 3, hown, by decide⟩))
  · have hnone : ∀ w, w ≤ 1 → bareTree.own? w = none := by decide
    rcases (freshness_le_mark_iff made_bareTree hbare (-5)).1 hle with h | ⟨w, hw, hsome⟩ |
        ⟨w, hw, x, hx, -⟩
    · exact absurd h (by decide)
    · rw [hnone w (Nat.le_succ_of_le (le_of_mem_lineage hw))] at hsome
      cases hsome
    · rw [hnone w (Nat.le_of_lt (lt_of_mem_ancestors hw))] at hx
      cases hx

/-! ## Ordered trees -/

/-- A part of a tree that has the parent of each of its units, such as all units or those in reach
of the root. -/
def Upward (t : UnitTree) (S : Set Nat) : Prop := ∀ i ∈ S, ∀ p, t.parent? i = some p → p ∈ S

/-- What a unit of the part stores is no newer than what an ancestor stores. -/
def OrderedOn (t : UnitTree) (S : Set Nat) : Prop :=
  ∀ i ∈ S, ∀ a ∈ t.ancestors i, ∀ x y, t.own? i = some x → t.own? a = some y → x ≤ y

theorem Upward.mem_of_ancestor {t : UnitTree} {S : Set Nat} (h : t.Upward S) {i a : Nat}
    (hi : i ∈ S) (ha : a ∈ t.ancestors i) : a ∈ S := by
  induction i using Nat.strongRecOn with
  | _ i ih =>
    obtain ⟨p, hp, ha⟩ := (mem_ancestors_iff t i a).1 ha
    rcases ha with rfl | ha
    · exact h i hi a hp
    · exact ih p (parent?_lt hp) (h i hi p hp) ha

theorem upward_univ (t : UnitTree) : t.Upward Set.univ := fun _ _ _ _ => trivial

theorem Linked.upward_reachable {t : UnitTree} (ht : t.Linked) : t.Upward {i | t.Reachable i} := by
  intro i hi p hp
  rcases Relation.ReflTransGen.cases_tail hi with hroot | ⟨q, hq, hmem⟩
  · rw [hroot, ht.parent?_root] at hp
    cases hp
  · rw [ht.parent?_of_mem q i hmem] at hp
    exact Option.some.inj hp ▸ hq

section Ordered
variable {t : UnitTree} {S : Set Nat} (hS : t.Upward S) (ho : t.OrderedOn S) {u : Nat} (hu : u ∈ S)
  {time : Time}

include hS ho hu

/-- Where a climb does not come by, it has met something as fresh, and nothing above is older. -/
theorem OrderedOn.le_of_not_passes {a : Nat} (ha : a ∈ t.ancestors u) {y : Time}
    (hy : t.own? a = some y) (h : ¬ Passes t time u a) : time ≤ y := by
  refine Int.not_lt.1 fun hlt => h ⟨ha, by rw [hy]; rfl, fun w hw hwa x hx => ?_⟩
  have hxy : x ≤ y := by
    rcases hwa with rfl | hwa
    · rw [hx] at hy
      exact Int.le_of_eq (Option.some.inj hy)
    · exact ho w (hS.mem_of_ancestor hu hw) a hwa x y hx hy
  exact Int.lt_of_le_of_lt hxy hlt

variable (ht : t.Rooted) (hlt : u < t.units.size)

include ht hlt

/-- The ancestors of a marked unit take the time as a maximum. -/
theorem OrderedOn.own?_mark_ancestor {a : Nat} (ha : a ∈ t.ancestors u) :
    (t.mark u time).own? a = (t.own? a).map (max · time) := by
  have hne : a ≠ u := Nat.ne_of_lt (lt_of_mem_ancestors ha)
  by_cases hpass : Passes t time u a
  · obtain ⟨y, hy⟩ := Option.isSome_iff_exists.1 hpass.2.1
    have hyt := hpass.2.2 a ha (Or.inl rfl) y hy
    rw [own?_mark_of_passes ht hlt time hpass, hy, Option.map_some,
      Int.max_eq_right (Int.le_of_lt hyt)]
  · rw [own?_mark_of_not_passes ht hlt time hne hpass]
    cases hy : t.own? a with
    | none => rfl
    | some y => rw [Option.map_some, Int.max_eq_left (ho.le_of_not_passes hS hu ha hy hpass)]

theorem OrderedOn.freshness_mark_ancestor (hroot : (t.own? rootId).isSome) (hlinked : t.Linked)
    {a : Nat} (ha : a ∈ t.ancestors u) :
    (t.mark u time).freshness a = max (t.freshness a) time := by
  induction a using Nat.strongRecOn with
  | _ a ih =>
    have hown : (t.mark u time).own? a = (t.own? a).map (max · time) :=
      ho.own?_mark_ancestor hS hu ht hlt ha
    cases hx : t.own? a with
    | some x =>
      rw [hx] at hown
      rw [freshness_of_own? hx, freshness_of_own? hown]
    | none =>
      rw [hx] at hown
      have hne : a ≠ rootId := by
        rintro rfl
        rw [hx] at hroot
        cases hroot
      have hsize := Nat.lt_trans (lt_of_mem_ancestors ha) hlt
      obtain ⟨p, hp⟩ := Option.isSome_iff_exists.1 (hlinked.parent?_isSome a hne hsize)
      have hpa : p ∈ t.ancestors a := (mem_ancestors_iff t a p).2 ⟨p, hp, Or.inl rfl⟩
      rw [freshness_of_parent? hx hp, freshness_of_parent? hown ((parent?_mark time a).trans hp)]
      exact ih p (parent?_lt hp) (ancestors_trans hpa ha)

/-- A mark that is no older than what is below it keeps the order. -/
theorem OrderedOn.mark (htime : ∀ i ∈ S, u ∈ t.ancestors i → ∀ x, t.own? i = some x → x ≤ time) :
    (t.mark u time).OrderedOn S := by
  intro i hi a ha x y hx hy
  rw [ancestors_mark] at ha
  -- what a unit above the marked one stores is no older than the time
  have habove : a ∈ t.ancestors u → time ≤ y := by
    intro hau
    rw [ho.own?_mark_ancestor hS hu ht hlt hau, Option.map_eq_some_iff] at hy
    obtain ⟨z, -, rfl⟩ := hy
    exact Int.le_max_right z time
  by_cases hiu : i = u
  · subst hiu
    rw [own?_mark_self ht hlt time] at hx
    exact Option.some.inj hx ▸ habove ha
  by_cases hanc : i ∈ t.ancestors u
  · have hau := ancestors_trans ha hanc
    rw [ho.own?_mark_ancestor hS hu ht hlt hanc, Option.map_eq_some_iff] at hx
    rw [ho.own?_mark_ancestor hS hu ht hlt hau, Option.map_eq_some_iff] at hy
    obtain ⟨x, hx, rfl⟩ := hx
    obtain ⟨y, hy, rfl⟩ := hy
    have hxy := ho i hi a ha x y hx hy
    exact Int.max_le.2 ⟨Int.le_trans hxy (Int.le_max_left y time), Int.le_max_right y time⟩
  · have hx' : t.own? i = some x := by
      rw [← own?_mark_of_not_passes ht hlt time hiu fun h => hanc h.1, hx]
    by_cases hau : a = u
    · subst hau
      rw [own?_mark_self ht hlt time] at hy
      exact Option.some.inj hy ▸ htime i hi ha x hx'
    by_cases hmem : a ∈ t.ancestors u
    · rw [ho.own?_mark_ancestor hS hu ht hlt hmem, Option.map_eq_some_iff] at hy
      obtain ⟨y, hy, rfl⟩ := hy
      exact Int.le_trans (ho i hi a ha x y hx' hy) (Int.le_max_left y time)
    · rw [own?_mark_of_not_passes ht hlt time hau fun h => hmem h.1] at hy
      exact ho i hi a ha x y hx' hy

end Ordered

/-- What a mark makes of a tree in which a part is ordered. -/
structure MarkedInOrder (t : UnitTree) (S : Set Nat) (u : Nat) (time : Time) : Prop where
  ordered : (t.mark u time).OrderedOn S
  marked : (t.mark u time).own? u = some time
  ancestors : ∀ a ∈ t.ancestors u, (t.mark u time).freshness a = max (t.freshness a) time
  others : ∀ i, i ≠ u → i ∉ t.ancestors u → (t.mark u time).own? i = t.own? i
  /-- Units that store nothing, such as blocks, report what the unit above them reports. -/
  followers : ∀ i, i ≠ rootId → i ≠ u → i < t.units.size → t.own? i = none →
    (t.mark u time).own? i = none ∧ ∃ p, t.parent? i = some p ∧
      (t.mark u time).freshness i = (t.mark u time).freshness p

/-- **Marks keep ordered trees ordered**, and then ancestors take the time as a maximum, although
the climb ends early. -/
theorem markedInOrder_of_made {t : UnitTree} (h : t.Made) (hroot : (t.own? rootId).isSome)
    {S : Set Nat} (hS : t.Upward S) (ho : t.OrderedOn S) {u : Nat} (hu : u ∈ S)
    (hlt : u < t.units.size) {time : Time}
    (htime : ∀ i ∈ S, u ∈ t.ancestors i → ∀ x, t.own? i = some x → x ≤ time) :
    MarkedInOrder t S u time := by
  have ht := h.linked
  have hrooted : t.Rooted := by
    intro a ha hnone
    refine ht.parent?_isSome a ?_ ha
    rintro rfl
    rw [hnone] at hroot
    cases hroot
  refine ⟨ho.mark hS hu hrooted hlt htime, own?_mark_self hrooted hlt time,
    fun a ha => ho.freshness_mark_ancestor hS hu hrooted hlt hroot ht ha, fun i hi hanc => ?_,
    fun i hi hne hsize hnone => ?_⟩
  · exact own?_mark_of_not_passes hrooted hlt time hi fun hpass => hanc hpass.1
  · obtain ⟨p, hp⟩ := Option.isSome_iff_exists.1 (ht.parent?_isSome i hi hsize)
    have hstill := own?_mark_of_follows time hne hnone (by rw [hp]; rfl)
    exact ⟨hstill, p, hp, freshness_of_parent? hstill ((parent?_mark time i).trans hp)⟩

/-- A file with a block that has a file below it. The first one took the place of a file that stores
`old`. -/
def layeredTree (old : Time) : UnitTree :=
  let replaced := ((ofRoot .empty (.root ⟨"v"⟩) (some 100) 0).insert 0 "a" .empty
    (.file ⟨"v/a.tmpl"⟩) (some old)).1
  let file := (replaced.insert 0 "a" .empty (.file ⟨"v/a.tmpl"⟩) (some 100)).1
  let block := (file.insert 2 "b" .empty (.block ⟨"v/a.tmpl"⟩ "b") none).1
  (block.insert 3 "c" .empty (.file ⟨"v/a/b/c.tmpl"⟩) none).1

theorem made_layeredTree (old : Time) : (layeredTree old).Made := by
  have h : ∀ n : Nat, 0 < n + 1 := Nat.succ_pos
  exact .insert (.insert (.insert (.insert (.ofRoot _ _ _ _) (h 0) _ _ _ _) (h 1) _ _ _ _)
    (show 2 < 3 by decide) _ _ _ _) (show 3 < 4 by decide) _ _ _ _

theorem orderedOn_layeredTree (old : Time) {S : Set Nat} (h : 1 ∈ S → old ≤ 100) :
    (layeredTree old).OrderedOn S := by
  intro i hi a ha x y hx hy
  have hroot : (layeredTree old).own? 0 = some 100 := by cbv
  -- below the root, only the two files of its own directory store a freshness
  have hbelow : (layeredTree old).ancestors i = [0] → x ≤ 100 → x ≤ y := by
    intro hanc hle
    rw [hanc, List.mem_singleton] at ha
    rw [ha, hroot] at hy
    rw [← Option.some.inj hy]
    exact hle
  have hsize : (layeredTree old).units.size = 5 := by cbv
  have hlt : i < 5 := hsize ▸ lt_of_own? hx
  obtain rfl | rfl | rfl | hdeep : i = 0 ∨ i = 1 ∨ i = 2 ∨ (i = 3 ∨ i = 4) := by omega
  · have hanc : (layeredTree old).ancestors 0 = [] := by cbv
    rw [hanc] at ha
    cases ha
  · have hown : (layeredTree old).own? 1 = some old := by cbv
    rw [hown] at hx
    refine hbelow (by cbv) ?_
    rw [← Option.some.inj hx]
    exact h hi
  · have hown : (layeredTree old).own? 2 = some 100 := by cbv
    rw [hown] at hx
    exact hbelow (by cbv) (Int.le_of_eq (Option.some.inj hx).symm)
  · have hnone : (layeredTree old).own? i = none := by
      rcases hdeep with rfl | rfl
      · cbv
      · cbv
    rw [hnone] at hx
    cases hx

/-- All of the tree is in order where the replaced file is old, and else what is in reach is. -/
theorem markedInOrder_layeredTree :
    ((layeredTree 50).Made ∧ (layeredTree 50).OrderedOn Set.univ ∧
      MarkedInOrder (layeredTree 50) Set.univ 4 250) ∧
    ((layeredTree 900).Made ∧ (layeredTree 900).OrderedOn {i | (layeredTree 900).Reachable i} ∧
      MarkedInOrder (layeredTree 900) {i | (layeredTree 900).Reachable i} 4 250) := by
  have hsize : ∀ old, (layeredTree old).units.size = 5 := by
    intro old
    cbv
  have hroot : ∀ old, ((layeredTree old).own? rootId).isSome = true := by
    intro old
    cbv
  have hleaf : ∀ (old : Time) (S : Set Nat), ∀ i ∈ S, 4 ∈ (layeredTree old).ancestors i →
      ∀ x, (layeredTree old).own? i = some x → x ≤ 250 := by
    intro old S i _ hi x hx
    have hlt := lt_of_own? hx
    rw [hsize] at hlt
    have := lt_of_mem_ancestors hi
    omega
  have hlast : ∀ old, 4 < (layeredTree old).units.size := by
    intro old
    rw [hsize]
    decide
  have hall : (layeredTree 50).OrderedOn Set.univ := orderedOn_layeredTree 50 fun _ => by decide
  have hlinked := (made_layeredTree 900).linked
  have hdown : (layeredTree 900).descendants 0 = [0, 2, 3, 4] := by cbv
  have hreach : ∀ i, (layeredTree 900).Reachable i ↔ i ∈ [0, 2, 3, 4] := by
    intro i
    rw [hlinked.reachable_iff, ← hdown]
    exact (hlinked.mem_descendants hlinked.root_lt i).symm
  have hpart : (layeredTree 900).OrderedOn {i | (layeredTree 900).Reachable i} :=
    orderedOn_layeredTree 900 fun hi => absurd ((hreach 1).1 hi) (by decide)
  refine ⟨⟨made_layeredTree 50, hall, ?_⟩, made_layeredTree 900, hpart, ?_⟩
  · exact markedInOrder_of_made (made_layeredTree 50) (hroot 50) (upward_univ _) hall trivial
      (hlast 50) (hleaf 50 Set.univ)
  · exact markedInOrder_of_made (made_layeredTree 900) (hroot 900) hlinked.upward_reachable hpart
      ((hreach 4).2 (by decide)) (hlast 900) (hleaf 900 _)

end TemplateBundler.UnitTree
