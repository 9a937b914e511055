import TemplateBundler.Proofs.Raising

/-!
# Marks of unrelated units commute

The ways up from two units, neither of them above the other, are apart until they join, if they do
(`exists_fork`). Below that unit the two climbs change different units, and what one of them stores
does not end the other. From there on both raise the same units, and the later time counts
(`raise_comm`). So the marks give the same tree in either order, also where one climb ends early and
units above stay older than what is below them.

    t.Apart u v → (t.mark u s).mark v time = (t.mark v time).mark u s            (Apart.mark_comm)
-/

namespace TemplateBundler.UnitTree

/-! ## Storing in either order -/

theorem eq_of_unit? {t t' : UnitTree} (h : ∀ i, t.unit? i = t'.unit? i)
    (hb : t.builtAt = t'.builtAt) : t = t' :=
  UnitTree.ext (Array.ext_getElem? h) hb

theorem setOwn_comm (t : UnitTree) {i j : Nat} (h : i ≠ j) (s time : Time) :
    (t.setOwn i s).setOwn j time = (t.setOwn j time).setOwn i s := by
  refine eq_of_unit? (fun k => ?_) rfl
  simp only [unit?_setOwn]
  by_cases hi : i = k
  · rw [if_pos hi, if_pos hi, if_neg (hi ▸ h.symm), if_neg (hi ▸ h.symm)]
  · rw [if_neg hi, if_neg hi]

theorem setOwn_setOwn (t : UnitTree) (i : Nat) (s time : Time) :
    (t.setOwn i s).setOwn i time = t.setOwn i time := by
  refine eq_of_unit? (fun k => ?_) rfl
  simp only [unit?_setOwn]
  split
  · rw [Option.map_map]
    rfl
  · rfl

/-! ## Two climbs over different units -/

theorem raise_setOwn {as : List Nat} {i : Nat} (hi : i ∉ as) (t : UnitTree) (s time : Time) :
    raise time (t.setOwn i s) as = (raise time t as).setOwn i s := by
  induction as generalizing t with
  | nil => rfl
  | cons a as ih =>
    rw [List.mem_cons, not_or] at hi
    obtain ⟨hia, hi⟩ := hi
    have hown := own?_setOwn_of_ne hia (t := t) s
    have hparent := parent?_setOwn t i s a
    rcases raise_cons_cases t time a as with ⟨hhalts, heq⟩ | ⟨htakes, heq⟩ | ⟨hnone, hp, heq⟩
    · rw [heq, raise_of_halts as ((Halts.congr hown).2 hhalts)]
    · rw [heq, raise_of_takes as ((Takes.congr hown hparent).2 htakes), setOwn_comm t hia, ih hi]
    · rw [heq, raise_of_follows as (hown.trans hnone) (hparent ▸ hp), ih hi]

theorem raise_raise_of_disjoint {as bs : List Nat} (h : as.Disjoint bs) (t : UnitTree)
    (s time : Time) : raise time (raise s t as) bs = raise s (raise time t bs) as := by
  induction as generalizing t with
  | nil => rfl
  | cons a as ih =>
    obtain ⟨ha, h⟩ := List.disjoint_cons_left.1 h
    have hown : (raise time t bs).own? a = t.own? a := own?_raise_of_notMem ha
    have hparent := parent?_congr (face?_raise time t bs a)
    rcases raise_cons_cases t s a as with ⟨hhalts, heq⟩ | ⟨htakes, heq⟩ | ⟨hnone, hp, heq⟩
    · rw [heq, raise_of_halts as ((Halts.congr hown).2 hhalts)]
    · rw [heq, raise_of_takes as ((Takes.congr hown hparent).2 htakes), ih h, raise_setOwn ha]
    · rw [heq, raise_of_follows as (hown.trans hnone) (hparent ▸ hp), ih h]

/-! ## Two climbs over the same units -/

section Same
variable {s time : Time} (hle : s ≤ time) {cs : List Nat} (hnd : cs.Nodup)

include hle

theorem Takes.mono {t : UnitTree} {a : Nat} (h : Takes t s a) : Takes t time a :=
  h.imp_left fun ⟨x, hx, hlt⟩ => ⟨x, hx, Int.lt_of_lt_of_le hlt hle⟩

include hnd

/-- What was raised to a time ends the climb to an earlier one. -/
theorem raise_raise_of_ge {t : UnitTree} (hsize : ∀ c ∈ cs, c < t.units.size) :
    raise s (raise time t cs) cs = raise time t cs := by
  induction cs generalizing t with
  | nil => rfl
  | cons c cs ih =>
    obtain ⟨hc, hnd⟩ := List.nodup_cons.1 hnd
    have hcs : ∀ b ∈ cs, b < t.units.size := fun b hb => hsize b (List.mem_cons_of_mem _ hb)
    rcases raise_cons_cases t time c cs with ⟨⟨x, hx, hxt⟩, heq⟩ | ⟨-, heq⟩ | ⟨hnone, hp, heq⟩
    · rw [heq, raise_of_halts cs ⟨x, hx, Int.le_trans hle hxt⟩]
    · have hown : (raise time (t.setOwn c time) cs).own? c = some time := by
        rw [own?_raise_of_notMem hc, own?_setOwn (hsize c List.mem_cons_self), if_pos rfl]
      rw [heq, raise_of_halts cs ⟨time, hown, hle⟩]
    · have hown : (raise time t cs).own? c = none := (own?_raise_of_notMem hc).trans hnone
      have hparent := parent?_congr (face?_raise time t cs c)
      rw [heq, raise_of_follows cs hown (hparent ▸ hp), ih hnd hcs]

/-- A climb to a later time leaves nothing of one to an earlier time. -/
theorem raise_raise_of_le {t : UnitTree} (hsize : ∀ c ∈ cs, c < t.units.size) :
    raise time (raise s t cs) cs = raise time t cs := by
  induction cs generalizing t with
  | nil => rfl
  | cons c cs ih =>
    obtain ⟨hc, hnd⟩ := List.nodup_cons.1 hnd
    have hlt := hsize c List.mem_cons_self
    have hcs : ∀ b ∈ cs, b < t.units.size := fun b hb => hsize b (List.mem_cons_of_mem _ hb)
    rcases raise_cons_cases t s c cs with ⟨-, heq⟩ | ⟨htakes, heq⟩ | ⟨hnone, hp, heq⟩
    · rw [heq]
    · have hown : ((raise s t cs).setOwn c s).own? c = some s := by
        rw [own?_setOwn (by rw [size_raise]; exact hlt), if_pos rfl]
      rw [heq, raise_setOwn hc, raise_of_takes cs (htakes.mono hle), raise_setOwn hc]
      rcases Int.lt_or_eq_of_le hle with hlate | rfl
      · rw [raise_of_takes cs (Or.inl ⟨s, hown, hlate⟩), setOwn_setOwn, raise_setOwn hc,
          ih hnd hcs]
      · exact raise_of_halts cs ⟨s, hown, Int.le_refl s⟩
    · have hown : (raise s t cs).own? c = none := (own?_raise_of_notMem hc).trans hnone
      have hparent := parent?_congr (face?_raise s t cs c)
      rw [heq, raise_of_follows cs hown (hparent ▸ hp), raise_of_follows cs hnone hp, ih hnd hcs]

end Same

theorem raise_comm {t : UnitTree} {cs : List Nat} (hnd : cs.Nodup)
    (hsize : ∀ c ∈ cs, c < t.units.size) (s time : Time) :
    raise time (raise s t cs) cs = raise s (raise time t cs) cs := by
  rcases Int.le_total s time with hle | hle
  · rw [raise_raise_of_le hle hnd hsize, raise_raise_of_ge hle hnd hsize]
  · rw [raise_raise_of_le hle hnd hsize, raise_raise_of_ge hle hnd hsize]

/-! ## Ways up that join -/

theorem exists_lineage_append {t : UnitTree} {a c : Nat} (h : a ∈ t.lineage c) :
    ∃ bs, t.lineage c = bs ++ t.lineage a := by
  induction c using Nat.strongRecOn with
  | _ c ih =>
    rcases List.mem_cons.1 h with rfl | h
    · exact ⟨[], rfl⟩
    · obtain ⟨p, hp, ha⟩ := (mem_ancestors_iff t c a).1 h
      obtain ⟨bs, hbs⟩ := ih p (parent?_lt hp) (List.mem_cons.2 ha)
      exact ⟨c :: bs, by rw [lineage_eq hp, hbs, List.cons_append]⟩

theorem nodup_lineage (t : UnitTree) (i : Nat) : (t.lineage i).Nodup :=
  List.nodup_cons.2 ⟨fun h => Nat.lt_irrefl i (lt_of_mem_ancestors h), nodup_ancestors t i⟩

/-- Two ways up are apart to some point, and one and the same from there on. -/
theorem exists_lineage_fork (t : UnitTree) (u v : Nat) : ∃ us vs cs, t.lineage u = us ++ cs ∧
    t.lineage v = vs ++ cs ∧ us.Disjoint (t.lineage v) ∧ vs.Disjoint (t.lineage u) := by
  induction u using Nat.strongRecOn with
  | _ u ih =>
    by_cases hu : u ∈ t.lineage v
    · obtain ⟨vs, hvs⟩ := exists_lineage_append hu
      have hnd := nodup_lineage t v
      rw [hvs] at hnd
      exact ⟨[], vs, t.lineage u, rfl, hvs, List.disjoint_nil_left _,
        List.disjoint_of_nodup_append hnd⟩
    · cases hp : t.parent? u with
      | none =>
        have hline : t.lineage u = [u] := by rw [lineage, ancestors_of_none hp]
        refine ⟨[u], t.lineage v, [], by rw [hline]; rfl, by rw [List.append_nil],
          List.singleton_disjoint.2 hu, ?_⟩
        rw [hline]
        exact List.disjoint_singleton.2 hu
      | some p =>
        obtain ⟨us, vs, cs, hus, hvs, hleft, hright⟩ := ih p (parent?_lt hp)
        have huvs : u ∉ vs := fun h => hu (by rw [hvs]; exact List.mem_append_left _ h)
        refine ⟨u :: us, vs, cs, by rw [lineage_eq hp, hus]; rfl, hvs,
          List.disjoint_cons_left.2 ⟨hu, hleft⟩, ?_⟩
        rw [lineage_eq hp]
        exact List.disjoint_cons_right.2 ⟨huvs, hright⟩

/-- The ways up from two unrelated units: up to where they join, no unit of the one is on the
other. -/
theorem exists_fork {t : UnitTree} {u v : Nat} (hu : u ∉ t.lineage v) (hv : v ∉ t.lineage u) :
    ∃ us vs cs, t.ancestors u = us ++ cs ∧ t.ancestors v = vs ++ cs ∧
      us.Disjoint (t.lineage v) ∧ vs.Disjoint (t.lineage u) := by
  obtain ⟨us, vs, cs, hus, hvs, hleft, hright⟩ := exists_lineage_fork t u v
  cases us with
  | nil =>
    refine absurd ?_ hu
    rw [hvs, ← List.nil_append cs, ← hus]
    exact List.mem_append_right _ List.mem_cons_self
  | cons u' us =>
    cases vs with
    | nil =>
      refine absurd ?_ hv
      rw [hus, ← List.nil_append cs, ← hvs]
      exact List.mem_append_right _ List.mem_cons_self
    | cons v' vs =>
      exact ⟨us, vs, cs, (List.cons.inj hus).2, (List.cons.inj hvs).2,
        (List.disjoint_cons_left.1 hleft).2, (List.disjoint_cons_left.1 hright).2⟩

/-! ## A mark below and above a fork -/

/-- What a mark does to the unit and to the first units above it. -/
def markBelow (time : Time) (u : Nat) (us : List Nat) (t : UnitTree) : UnitTree :=
  raise time (t.setOwn u time) us

section Below
variable {t : UnitTree} {u v : Nat} {us vs cs : List Nat} (s time : Time)

theorem markBelow_raise (hu : u ∉ cs) (hus : us.Disjoint cs) :
    markBelow s u us (raise time t cs) = raise time (markBelow s u us t) cs := by
  unfold markBelow
  rw [← raise_setOwn hu, raise_raise_of_disjoint hus]

theorem markBelow_comm (huv : u ≠ v) (hu : u ∉ vs) (hv : v ∉ us) (hus : us.Disjoint vs) :
    markBelow time v vs (markBelow s u us t) = markBelow s u us (markBelow time v vs t) := by
  unfold markBelow
  rw [← raise_setOwn hv, ← raise_setOwn hu, raise_raise_of_disjoint hus, setOwn_comm t huv]

variable (h : t.ancestors u = us ++ cs)

include h

theorem halts_setOwn_iff {a : Nat} (ha : a ∈ us) :
    Halts (t.setOwn u time) time a ↔ Halts t time a := by
  have hau : a < u := lt_of_mem_ancestors (h ▸ List.mem_append_left cs ha)
  exact Halts.congr (own?_setOwn_of_ne (Nat.ne_of_gt hau) time)

theorem mark_of_halts (hend : ∃ a ∈ us, Halts t time a) :
    t.mark u time = markBelow time u us t := by
  obtain ⟨a, ha, hend⟩ := hend
  rw [mark, h, raise_append_of_halts ⟨a, ha, (halts_setOwn_iff time h ha).2 hend⟩, markBelow]

theorem mark_of_not_halts (hgo : ¬ ∃ a ∈ us, Halts t time a) :
    t.mark u time = raise time (markBelow time u us t) cs := by
  have hnd := nodup_ancestors t u
  rw [h] at hnd
  rw [mark, h, raise_append_of_not_halts (List.Nodup.of_append_left hnd) fun a ha hend => ?_,
    markBelow]
  exact hgo ⟨a, ha, (halts_setOwn_iff time h ha).1 hend⟩

end Below

/-- A mark changes the freshness of the unit and of its ancestors only. -/
theorem own?_mark_of_notMem {t : UnitTree} {u w : Nat} (h : w ∉ t.lineage u) (time : Time) :
    (t.mark u time).own? w = t.own? w := by
  have hw : w ≠ u := fun e => h (e ▸ List.mem_cons_self)
  exact (own?_mark_cases time hw).resolve_right fun hmem => h (List.mem_cons_of_mem _ hmem.1)

/-- Neither of the units is the other one or above it. -/
def Apart (t : UnitTree) (u v : Nat) : Prop := u ∉ t.lineage v ∧ v ∉ t.lineage u

theorem Apart.symm {t : UnitTree} {u v : Nat} (h : t.Apart u v) : t.Apart v u := ⟨h.2, h.1⟩

theorem Apart.mark {t : UnitTree} {u v : Nat} (h : t.Apart u v) (w : Nat) (time : Time) :
    (t.mark w time).Apart u v := by
  unfold Apart lineage
  rw [ancestors_mark, ancestors_mark]
  exact h

theorem Apart.mark_comm {t : UnitTree} {u v : Nat} (h : t.Apart u v) (s time : Time) :
    (t.mark u s).mark v time = (t.mark v time).mark u s := by
  obtain ⟨us, vs, cs, hus, hvs, hleft, hright⟩ := exists_fork h.1 h.2
  have hus' : (t.mark v time).ancestors u = us ++ cs := (ancestors_mark t v time u).trans hus
  have hvs' : (t.mark u s).ancestors v = vs ++ cs := (ancestors_mark t u s v).trans hvs
  -- what ends the one climb below the fork is out of reach of the other
  have huend : (∃ a ∈ us, Halts (t.mark v time) s a) ↔ ∃ a ∈ us, Halts t s a :=
    exists_congr fun a => and_congr_right fun ha =>
      Halts.congr (own?_mark_of_notMem (hleft ha) time)
  have hvend : (∃ a ∈ vs, Halts (t.mark u s) time a) ↔ ∃ a ∈ vs, Halts t time a :=
    exists_congr fun a => and_congr_right fun ha => Halts.congr (own?_mark_of_notMem (hright ha) s)
  have hmemu : ∀ a ∈ cs, a ∈ t.ancestors u := fun a ha => hus ▸ List.mem_append_right us ha
  have hmemv : ∀ a ∈ cs, a ∈ t.ancestors v := fun a ha => hvs ▸ List.mem_append_right vs ha
  have hucs : u ∉ cs := fun hc => h.1 (List.mem_cons_of_mem _ (hmemv u hc))
  have hvcs : v ∉ cs := fun hc => h.2 (List.mem_cons_of_mem _ (hmemu v hc))
  have huscs : us.Disjoint cs := fun a ha hc => hleft ha (List.mem_cons_of_mem _ (hmemv a hc))
  have hvscs : vs.Disjoint cs := fun a ha hc => hright ha (List.mem_cons_of_mem _ (hmemu a hc))
  have hbelow : markBelow time v vs (markBelow s u us t) =
      markBelow s u us (markBelow time v vs t) := by
    have huv : u ≠ v := fun e => h.1 (e ▸ List.mem_cons_self)
    refine markBelow_comm s time huv (fun h => hright h List.mem_cons_self)
      (fun h => hleft h List.mem_cons_self) fun a ha hb => hleft ha (List.mem_cons_of_mem _ ?_)
    rw [hvs]
    exact List.mem_append_left cs hb
  by_cases hul : ∃ a ∈ us, Halts t s a
  · rw [mark_of_halts s hus hul, mark_of_halts s hus' (huend.2 hul)]
    rw [mark_of_halts s hus hul] at hvend hvs'
    by_cases hvl : ∃ a ∈ vs, Halts t time a
    · rw [mark_of_halts time hvs' (hvend.2 hvl), mark_of_halts time hvs hvl, hbelow]
    · rw [mark_of_not_halts time hvs' (hvend.not.2 hvl), mark_of_not_halts time hvs hvl, hbelow,
        markBelow_raise s time hucs huscs]
  · rw [mark_of_not_halts s hus hul, mark_of_not_halts s hus' (huend.not.2 hul)]
    rw [mark_of_not_halts s hus hul] at hvend hvs'
    by_cases hvl : ∃ a ∈ vs, Halts t time a
    · rw [mark_of_halts time hvs' (hvend.2 hvl), mark_of_halts time hvs hvl, ← hbelow,
        markBelow_raise time s hvcs hvscs]
    · -- both climbs get past the fork
      have hnd : cs.Nodup := List.Nodup.of_append_right (hus ▸ nodup_ancestors t u)
      have hsize : ∀ c ∈ cs, c < (markBelow time v vs (markBelow s u us t)).units.size := by
        intro c hc
        have hlt := lt_of_mem_ancestors (hmemu c hc)
        have husize := lt_of_mem_ancestors_size (hmemu c hc)
        simp only [markBelow, size_raise, size_setOwn]
        omega
      rw [mark_of_not_halts time hvs' (hvend.not.2 hvl), mark_of_not_halts time hvs hvl,
        markBelow_raise time s hvcs hvscs, markBelow_raise s time hucs huscs, ← hbelow,
        raise_comm hnd hsize]

/-! ## Top theorem -/

/-- Marks in a row. -/
def markAll (t : UnitTree) (marks : List (Nat × Time)) : UnitTree :=
  marks.foldl (fun t m => t.mark m.1 m.2) t

theorem markAll_perm {marks marks' : List (Nat × Time)} (hperm : marks.Perm marks') {t : UnitTree}
    (h : marks.Pairwise fun m m' => t.Apart m.1 m'.1) : t.markAll marks = t.markAll marks' := by
  induction hperm generalizing t with
  | nil => rfl
  | cons m _ ih =>
    refine ih ((List.pairwise_cons.1 h).2.imp fun hapart => ?_)
    exact hapart.mark m.1 m.2
  | swap m m' marks =>
    have hapart := (List.pairwise_cons.1 h).1 m List.mem_cons_self
    exact congrArg (fun t => markAll t marks) (hapart.mark_comm m'.2 m.2)
  | trans hperm _ ih ih' => exact (ih h).trans (ih' (hperm.pairwise h Apart.symm))

/-- How marks of units that are not related go together. -/
structure MarksCommute (t : UnitTree) : Prop where
  pair : ∀ u v, u ≠ v → u ∉ t.ancestors v → v ∉ t.ancestors u → ∀ s time,
    (t.mark u s).mark v time = (t.mark v time).mark u s
  /-- The order of any number of them does not matter, such as of those of files. -/
  order : ∀ marks marks', marks.Perm marks' →
    (marks.Pairwise fun m m' => m.1 ≠ m'.1 ∧ m.1 ∉ t.ancestors m'.1 ∧ m'.1 ∉ t.ancestors m.1) →
      t.markAll marks = t.markAll marks'

/-- **Marks of unrelated units commute**, in every tree and for all times. -/
theorem marksCommute (t : UnitTree) : t.MarksCommute := by
  have hapart : ∀ {u v : Nat}, u ≠ v ∧ u ∉ t.ancestors v ∧ v ∉ t.ancestors u → t.Apart u v :=
    fun ⟨hne, hu, hv⟩ => ⟨fun h => (List.mem_cons.1 h).elim hne hu,
      fun h => (List.mem_cons.1 h).elim hne.symm hv⟩
  exact ⟨fun u v hne hu hv s time => (hapart ⟨hne, hu, hv⟩).mark_comm s time,
    fun marks marks' hperm h => markAll_perm hperm (h.imp hapart)⟩

end TemplateBundler.UnitTree
