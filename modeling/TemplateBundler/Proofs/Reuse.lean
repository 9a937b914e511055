import TemplateBundler.Gate
import TemplateBundler.Proofs.Freshness

/-!
# When a reused artifact is current

The gate reuses an artifact that is as new as its unit is fresh. The artifact then holds every
template below the unit as it is now, but for those that the unit does not hear: a template as old
as the epoch below an empty unit leaves no trace above that unit.

    CurrentWhereReused d t i ↔ NothingMissed d t i                 (Built.current_iff_nothingMissed)
-/

namespace TemplateBundler.Source

open UnitTree

/-- Whenever the gate reuses an artifact of the unit, no template in it is newer. -/
def CurrentWhereReused (d : Disk) (t : UnitTree) (i : Nat) : Prop :=
  ∀ time, Gate.decide t i (some time) false = .reused →
    ∀ j path, j ∈ t.descendants i → origin? t j = some (.file path) → timeOf d path ≤ time

/-- The unit whose freshness a unit has: that of its file for a block, and else itself. -/
def ownerOf (t : UnitTree) (i : Nat) : Nat :=
  match origin? t i with
  | some (.block _ _) => (t.parent? i).getD i
  | _ => i

/-- Every template at `i` or below that its owner does not hear, as old as the epoch and behind an
empty unit, is no newer than what the owner started with or than another template heard there. -/
def NothingMissed (d : Disk) (t : UnitTree) (i : Nat) : Prop :=
  ∀ j path, j ∈ t.descendants i → origin? t j = some (.file path) → timeOf d path ≤ Time.never →
    ¬ Clear t j (ownerOf t i) →
    ∃ time, timeOf d path ≤ time ∧
      (((origin? t (ownerOf t i)).bind (base? (timeOf d)) = some time) ∨
      Heard (timeOf d) t (ownerOf t i) time)

/-- A unit that starts with a freshness is its own owner. -/
theorem ownerOf_eq_self {d : Disk} {t : UnitTree} {i : Nat} {o : Origin} {b : Time}
    (hi : origin? t i = some o) (hb : base? (timeOf d) o = some b) : ownerOf t i = i := by
  unfold ownerOf
  rw [hi]
  cases o with
  | block path n => cases hb
  | root path => rfl
  | file path => rfl
  | directory path => rfl

theorem ownerOf_block {t : UnitTree} {i p : Nat} {path : FilePath} {n : String}
    (hi : origin? t i = some (.block path n)) (hp : t.parent? i = some p) : ownerOf t i = p := by
  unfold ownerOf
  rw [hi, hp]
  rfl

section Built
variable [Template.Language] {d : Disk} {settings : BuildSettings} {root : FilePath} {t : UnitTree}
  (h : Built d settings root t) {i : Nat} {o : Origin} (hi : origin? t i = some o)

include h hi

/-- The owner starts with a freshness of its own, and stands at the unit or above. -/
theorem Built.ownerOf_spec : t.freshness i = t.freshness (ownerOf t i) ∧
    ownerOf t i ∈ t.lineage i ∧
    ∃ o' b, origin? t (ownerOf t i) = some o' ∧ base? (timeOf d) o' = some b := by
  cases hb : base? (timeOf d) o with
  | some b =>
    rw [ownerOf_eq_self hi hb]
    exact ⟨rfl, List.mem_cons_self, o, b, hi, hb⟩
  | none =>
    cases o with
    | root path => cases hb
    | file path => cases hb
    | directory path => cases hb
    | block path n =>
      obtain ⟨p, hp, hfile, hfresh⟩ := h.freshness_block hi
      rw [ownerOf_block hi hp, lineage_eq hp]
      exact ⟨hfresh, List.mem_cons_of_mem _ List.mem_cons_self, _, _, hfile, rfl⟩

/-- **When the gate reuses current artifacts only.** -/
theorem Built.current_iff_nothingMissed : CurrentWhereReused d t i ↔ NothingMissed d t i := by
  obtain ⟨hfresh, hlineage, o', b, ho, hb⟩ := h.ownerOf_spec hi
  have hown := h.own?_eq_some ho hb
  have hdescend : ∀ j, j ∈ t.descendants i → ownerOf t i ∈ t.lineage j := by
    intro j hj
    obtain ⟨ns, hns⟩ := (h.linked.mem_descendants (lt_of_origin? hi) j).1 hj
    exact lineage_trans hlineage (mem_lineage_of_follow h.linked hns)
  constructor
  · intro hcurrent j path hj hpath _ _
    refine ⟨t.freshness i, ?_, ?_⟩
    · exact hcurrent _ ((Gate.decide_eq_reused_iff t i _).2 (Int.le_refl _)) j path hj hpath
    · rw [ho, hfresh]
      exact h.exact.attained _ o' _ ho hown
  · intro hmissed time hreused j path hj hpath
    rw [Gate.decide_eq_reused_iff, hfresh] at hreused
    refine Int.le_trans ?_ hreused
    rcases List.mem_cons.1 (hdescend j hj) with he | hbelow
    · -- the owner itself
      rw [he] at ho hown ⊢
      obtain rfl := Option.some.inj (hpath.symm.trans ho)
      exact h.exact.base_le j _ _ _ ho rfl hown
    · by_cases hheard : Time.never < timeOf d path ∨ Clear t j (ownerOf t i)
      · exact h.exact.heard_le _ _ _ ⟨j, path, hpath, rfl, hbelow, hheard⟩ hown
      · rw [not_or] at hheard
        obtain ⟨x, hx, hbase | hsound⟩ :=
          hmissed j path hj hpath (Int.not_lt.1 hheard.1) hheard.2
        · rw [ho, Option.bind_some] at hbase
          exact Int.le_trans hx (h.exact.base_le _ o' x _ ho hbase hown)
        · exact Int.le_trans hx (h.exact.heard_le _ _ _ hsound hown)

end Built

/-- **When the gate reuses current artifacts only**, in a built tree. -/
theorem currentWhereReused_iff [Template.Language] {d : Disk} (hd : d.WellFormed)
    {settings : BuildSettings} {root : FilePath} {builtAt : Time} {t : UnitTree}
    (hb : build d settings root builtAt = .ok t) {k : KeyPath} {i : Nat}
    (hi : t.resolve k = some i) :
    CurrentWhereReused d t i ↔ NothingMissed d t i := by
  have h := built_of_build hd hb
  obtain ⟨o, ho⟩ := exists_origin? (h.linked.follow_lt h.linked.root_lt hi)
  exact h.current_iff_nothingMissed ho

theorem currentWhereReused_iff_smallSource : ∃ t,
    build (smallSource 5 9) smallSettings ⟨"views"⟩ 12 = .ok t ∧ t.resolve ⟨["a"]⟩ = some 1 ∧
    (CurrentWhereReused (smallSource 5 9) t 1 ↔ NothingMissed (smallSource 5 9) t 1) := by
  obtain ⟨a, d, c, hb⟩ := build_smallSource 5 9
  have hi : (smallTree 5 9 a d c).resolve ⟨["a"]⟩ = some 1 := by cbv
  exact ⟨_, hb, hi, currentWhereReused_iff (wellFormed_smallSource 5 9) hb hi⟩

/-- Both templates are older than the epoch, and the lower one stands behind an empty unit. -/
theorem exists_reused_older_than_template : ∃ t i j path,
    build (smallSource (-200000) (-100000)) smallSettings ⟨"views"⟩ 12 = .ok t ∧
    t.resolve ⟨["a"]⟩ = some i ∧ Gate.decide t i (some (-150000)) false = .reused ∧
    j ∈ t.descendants i ∧ origin? t j = some (.file path) ∧
    ¬ timeOf (smallSource (-200000) (-100000)) path ≤ -150000 := by
  obtain ⟨a, d, c, hb⟩ := build_smallSource (-200000) (-100000)
  refine ⟨_, 1, 4, ⟨"views/a/b/c.tmpl"⟩, hb, by cbv, by cbv, ?_, by cbv, ?_⟩
  · have hdescend : (smallTree (-200000) (-100000) a d c).descendants 1 = [1, 2, 3, 4] := by cbv
    rw [hdescend]
    decide
  · have hs : (smallSource (-200000) (-100000)).status ⟨"views/a/b/c.tmpl"⟩ =
        .ok (["views", "a", "b", "c.tmpl"], .file (.text "low") (-100000)) :=
      status_smallSource (-200000) (-100000)
        (["views", "a", "b", "c.tmpl"], .file (.text "low") (-100000)) (by simp [smallSource])
    rw [(readText_of_status hs).2]
    decide

end TemplateBundler.Source
