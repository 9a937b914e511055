import Mathlib.Data.List.Perm.Subperm
import TemplateBundler.Proofs.Resolution
import TemplateBundler.Tree.Traversal

/-!
# The order of the traversal

`preorder` is the recursive order: a unit, then the orders of its children one after the other. The
traversal with a stack gives the same list, since no unit comes twice and the number of units is
enough to reach them all. So the units below a unit are those that names lead to from it, and the
key paths of a tree are those that lead from its root, each once.

    t.descendants i = t.preorder i                                     (descendants_eq_preorder)
    j ∈ t.preorder i ↔ ∃ ns, t.follow i ns = some j                               (mem_preorder)
    k ∈ t.keyPaths ↔ k.segments ≠ [] ∧ (t.resolve k).isSome                       (mem_keyPaths)
-/

namespace TemplateBundler.UnitTree

/-! ## The way up -/

/-- A unit and its ancestors, upwards. -/
def lineage (t : UnitTree) (i : Nat) : List Nat := i :: t.ancestors i

theorem lineage_eq {t : UnitTree} {i p : Nat} (h : t.parent? i = some p) :
    t.lineage i = i :: t.lineage p := by
  unfold lineage
  rw [ancestors_eq h]

theorem le_of_mem_lineage {t : UnitTree} {i a : Nat} (h : a ∈ t.lineage i) : a ≤ i := by
  rcases List.mem_cons.1 h with rfl | h
  · exact Nat.le_refl _
  · exact Nat.le_of_lt (lt_of_mem_ancestors h)

theorem mem_lineage_of_follow {t : UnitTree} (ht : t.Linked) {i j : Nat} {ns : List String}
    (h : t.follow i ns = some j) : i ∈ t.lineage j := by
  induction ns using List.reverseRecOn generalizing j with
  | nil =>
    obtain rfl := Option.some.inj h
    exact List.mem_cons_self
  | append_singleton ns n ih =>
    rw [follow_concat, Option.bind_eq_some_iff] at h
    obtain ⟨p, hp, hc⟩ := h
    rw [lineage_eq (ht.parent?_of_mem p j (mem_children_of_child? hc))]
    exact List.mem_cons_of_mem _ (ih hp)

/-- Of the children of a unit one at most stands on the way up from another unit. -/
theorem eq_of_mem_lineage {t : UnitTree} {i a b j : Nat} (ha : t.parent? a = some i)
    (hb : t.parent? b = some i) (haj : a ∈ t.lineage j) (hbj : b ∈ t.lineage j) : a = b := by
  induction j using Nat.strongRecOn with
  | _ j ih =>
    cases hp : t.parent? j with
    | none =>
      rw [lineage, ancestors_of_none hp, List.mem_singleton] at haj hbj
      exact haj.trans hbj.symm
    | some p =>
      have hai := parent?_lt ha
      have hbi := parent?_lt hb
      rw [lineage_eq hp] at haj hbj
      rcases List.mem_cons.1 haj with rfl | hap
      · rcases List.mem_cons.1 hbj with rfl | hbp
        · rfl
        · obtain rfl := Option.some.inj (ha.symm.trans hp)
          have := le_of_mem_lineage hbp
          omega
      · rcases List.mem_cons.1 hbj with rfl | hbp
        · obtain rfl := Option.some.inj (hb.symm.trans hp)
          have := le_of_mem_lineage hap
          omega
        · exact ih p (parent?_lt hp) hap hbp

/-! ## The recursive order -/

/-- A unit and the units below it, each before its own children. The recursion ends since children
stand behind their parent, as those of a linked tree do. -/
def preorder (t : UnitTree) (i : Nat) : List Nat :=
  i :: (t.children i).flatMap fun c =>
    if i < c ∧ c < t.units.size then t.preorder c else []
termination_by t.units.size - i

theorem Linked.preorder_eq {t : UnitTree} (ht : t.Linked) (i : Nat) :
    t.preorder i = i :: (t.children i).flatMap t.preorder := by
  rw [preorder]
  congr 1
  apply List.flatMap_congr
  intro c hc
  rw [if_pos (ht.child_lt hc)]

/-- Units in a row are followed by the same units when the children of the first one come in its
place. -/
theorem Linked.flatMap_preorder_cons {t : UnitTree} (ht : t.Linked) (i : Nat) (ids : List Nat) :
    (i :: ids).flatMap t.preorder = i :: (t.children i ++ ids).flatMap t.preorder := by
  rw [List.flatMap_cons, ht.preorder_eq, List.flatMap_append, List.cons_append]

theorem Linked.mem_preorder {t : UnitTree} (ht : t.Linked) (i j : Nat) :
    j ∈ t.preorder i ↔ ∃ ns, t.follow i ns = some j := by
  generalize hn : t.units.size - i = n
  induction n using Nat.strongRecOn generalizing i with
  | _ n ih =>
    rw [ht.preorder_eq, List.mem_cons, List.mem_flatMap]
    constructor
    · rintro (rfl | ⟨c, hc, hj⟩)
      · exact ⟨[], rfl⟩
      · have hlt := ht.child_lt hc
        obtain ⟨ns, hns⟩ := (ih (t.units.size - c) (by omega) c rfl).1 hj
        refine ⟨t.name c :: ns, ?_⟩
        rw [follow_cons, (ht.child?_eq_some_iff i c _).2 ⟨hc, rfl⟩, Option.bind_some]
        exact hns
    · rintro ⟨ns, hns⟩
      cases ns with
      | nil => exact Or.inl (Option.some.inj hns).symm
      | cons m ns =>
        right
        rw [follow_cons, Option.bind_eq_some_iff] at hns
        obtain ⟨c, hc, hns⟩ := hns
        have hmem := mem_children_of_child? hc
        have hlt := ht.child_lt hmem
        exact ⟨c, hmem, (ih (t.units.size - c) (by omega) c rfl).2 ⟨ns, hns⟩⟩

theorem Linked.nodup_preorder {t : UnitTree} (ht : t.Linked) (i : Nat) : (t.preorder i).Nodup := by
  generalize hn : t.units.size - i = n
  induction n using Nat.strongRecOn generalizing i with
  | _ n ih =>
    rw [ht.preorder_eq, List.nodup_cons, List.nodup_flatMap]
    refine ⟨fun h => ?_, fun c hc => ?_, ?_⟩
    · obtain ⟨c, hc, hi⟩ := List.mem_flatMap.1 h
      obtain ⟨ns, hns⟩ := (ht.mem_preorder c i).1 hi
      have := le_of_mem_lineage (mem_lineage_of_follow ht hns)
      have := ht.child_lt hc
      omega
    · have := ht.child_lt hc
      exact ih (t.units.size - c) (by omega) c rfl
    · refine (ht.children_nodup i).pairwise_of_forall_ne fun a ha b hb hab => ?_
      intro j hja hjb
      obtain ⟨ms, hms⟩ := (ht.mem_preorder a j).1 hja
      obtain ⟨ns, hns⟩ := (ht.mem_preorder b j).1 hjb
      exact hab (eq_of_mem_lineage (ht.parent?_of_mem i a ha) (ht.parent?_of_mem i b hb)
        (mem_lineage_of_follow ht hms) (mem_lineage_of_follow ht hns))

/-- A unit below another one comes after its parent. -/
theorem Linked.parent_before {t : UnitTree} (ht : t.Linked) {i j : Nat} (hj : j ∈ t.preorder i)
    (hne : j ≠ i) :
    ∃ p before after,
      t.parent? j = some p ∧ t.preorder i = before ++ j :: after ∧ p ∈ before := by
  generalize hn : t.units.size - i = n
  induction n using Nat.strongRecOn generalizing i with
  | _ n ih =>
    have hbelow := (List.mem_cons.1 (ht.preorder_eq i ▸ hj)).resolve_left hne
    obtain ⟨c, hc, hjc⟩ := List.mem_flatMap.1 hbelow
    obtain ⟨front, back, hsplit⟩ := List.append_of_mem hc
    have hparts : t.preorder i =
        i :: front.flatMap t.preorder ++ (t.preorder c ++ back.flatMap t.preorder) := by
      rw [ht.preorder_eq, hsplit, List.flatMap_append, List.flatMap_cons]
      rfl
    by_cases hcj : j = c
    · subst hcj
      refine ⟨i, i :: front.flatMap t.preorder,
        (t.children j).flatMap t.preorder ++ back.flatMap t.preorder, ht.parent?_of_mem i j hc, ?_,
        List.mem_cons_self⟩
      rw [hparts, ht.preorder_eq j]
      rfl
    · have hlt := ht.child_lt hc
      obtain ⟨p, before, after, hp, hpre, hmem⟩ :=
        ih (t.units.size - c) (by omega) hjc hcj rfl
      refine ⟨p, i :: front.flatMap t.preorder ++ before, after ++ back.flatMap t.preorder, hp, ?_,
        List.mem_append_right _ hmem⟩
      rw [hparts, hpre]
      simp only [List.append_assoc, List.cons_append]

theorem Linked.length_preorder_le {t : UnitTree} (ht : t.Linked) {i : Nat}
    (hi : i < t.units.size) : (t.preorder i).length ≤ t.units.size := by
  have hsub : t.preorder i ⊆ List.range t.units.size := by
    intro j hj
    obtain ⟨ns, hns⟩ := (ht.mem_preorder i j).1 hj
    exact List.mem_range.2 (ht.follow_lt hi hns)
  have := (ht.nodup_preorder i).subperm hsub |>.length_le
  rwa [List.length_range] at this

/-! ## The traversal gives this order -/

theorem Linked.visit_eq {t : UnitTree} (ht : t.Linked) (n : Nat) (ids : List Nat)
    (h : (ids.flatMap t.preorder).length ≤ n) : t.visit n ids = ids.flatMap t.preorder := by
  induction n generalizing ids with
  | zero => rw [List.length_eq_zero_iff.1 (Nat.le_zero.1 h)]; rfl
  | succ n ih =>
    cases ids with
    | nil => rfl
    | cons i ids =>
      rw [ht.flatMap_preorder_cons, List.length_cons] at h
      rw [ht.flatMap_preorder_cons, visit, ih _ (by omega)]

theorem Linked.descendants_eq_preorder {t : UnitTree} (ht : t.Linked) {i : Nat}
    (hi : i < t.units.size) : t.descendants i = t.preorder i := by
  unfold descendants
  have hone : [i].flatMap t.preorder = t.preorder i := List.flatMap_singleton _ _
  rw [ht.visit_eq _ _ (by rw [hone]; exact ht.length_preorder_le hi), hone]

theorem Linked.descendants_eq {t : UnitTree} (ht : t.Linked) {i : Nat} (hi : i < t.units.size) :
    t.descendants i = i :: (t.children i).flatMap t.descendants := by
  rw [ht.descendants_eq_preorder hi, ht.preorder_eq]
  congr 1
  refine List.flatMap_congr fun c hc => ?_
  rw [ht.descendants_eq_preorder (ht.child_lt hc).2]

theorem Linked.mem_descendants {t : UnitTree} (ht : t.Linked) {i : Nat} (hi : i < t.units.size)
    (j : Nat) : j ∈ t.descendants i ↔ ∃ ns, t.follow i ns = some j := by
  rw [ht.descendants_eq_preorder hi, ht.mem_preorder]

/-! ## Key paths -/

/-- Every unit but the root has a name. -/
def Named (t : UnitTree) : Prop := ∀ i p, t.parent? i = some p → t.name i ≠ ""

theorem Linked.names_of_lineage {t : UnitTree} (ht : t.Linked) {i : Nat} {ns : List String}
    (h : t.follow rootId ns = some i) :
    (((t.lineage i).filter fun j => (t.parent? j).isSome).map t.name).reverse = ns := by
  induction ns using List.reverseRecOn generalizing i with
  | nil =>
    obtain rfl := Option.some.inj h
    rw [lineage, ancestors_of_none ht.parent?_root, List.filter_cons_of_neg]
    · rfl
    · rw [ht.parent?_root]
      exact Bool.false_ne_true
  | append_singleton ns n ih =>
    rw [follow_concat, Option.bind_eq_some_iff] at h
    obtain ⟨p, hp, hc⟩ := h
    have hparent := ht.parent?_of_mem p i (mem_children_of_child? hc)
    rw [lineage_eq hparent, List.filter_cons_of_pos (by rw [hparent]; rfl), List.map_cons,
      List.reverse_cons, ih hp, name_of_child? hc]

theorem Linked.ne_empty_of_follow {t : UnitTree} (ht : t.Linked) (hn : t.Named) {i : Nat}
    {ns : List String} (h : t.follow rootId ns = some i) : ∀ n ∈ ns, n ≠ "" := by
  induction ns using List.reverseRecOn generalizing i with
  | nil => intro n hmem; cases hmem
  | append_singleton ns m ih =>
    rw [follow_concat, Option.bind_eq_some_iff] at h
    obtain ⟨p, hp, hc⟩ := h
    intro n hmem
    rcases List.mem_append.1 hmem with hmem | hmem
    · exact ih hp n hmem
    · rw [List.mem_singleton.1 hmem, ← name_of_child? hc]
      exact hn i p (ht.parent?_of_mem p i (mem_children_of_child? hc))

theorem Linked.keyPath_of_follow {t : UnitTree} (ht : t.Linked) (hn : t.Named) {i : Nat}
    {ns : List String} (h : t.follow rootId ns = some i) : t.keyPath i = ⟨ns⟩ := by
  have hns := ht.names_of_lineage h
  unfold lineage at hns
  unfold keyPath
  rw [hns, KeyPath.ofSegments_of_forall_ne (ht.ne_empty_of_follow hn h)]

/-- A key path leads to the unit below the root that has it. -/
theorem Linked.resolve_eq_some_iff {t : UnitTree} (ht : t.Linked) (hn : t.Named) (k : KeyPath)
    (i : Nat) : t.resolve k = some i ↔ i ∈ t.descendants rootId ∧ t.keyPath i = k := by
  rw [resolve_eq, ht.mem_descendants ht.root_lt]
  constructor
  · intro h
    exact ⟨⟨k.segments, h⟩, ht.keyPath_of_follow hn h⟩
  · rintro ⟨⟨ns, hns⟩, rfl⟩
    rw [ht.keyPath_of_follow hn hns]
    exact hns

theorem Linked.keyPaths_eq {t : UnitTree} (ht : t.Linked) :
    t.keyPaths = ((t.children rootId).flatMap t.preorder).map t.keyPath := by
  unfold keyPaths
  rw [ht.descendants_eq_preorder ht.root_lt, ht.preorder_eq]
  rfl

theorem Linked.nodup_keyPaths {t : UnitTree} (ht : t.Linked) (hn : t.Named) : t.keyPaths.Nodup := by
  have hnd := ht.nodup_preorder rootId
  rw [ht.preorder_eq, List.nodup_cons] at hnd
  have hfollow : ∀ i ∈ (t.children rootId).flatMap t.preorder,
      ∃ ns, t.follow rootId ns = some i := by
    intro i hi
    rw [← ht.mem_preorder, ht.preorder_eq]
    exact List.mem_cons_of_mem _ hi
  rw [ht.keyPaths_eq]
  refine hnd.2.map_on fun i hi j hj hij => ?_
  obtain ⟨ms, hms⟩ := hfollow i hi
  obtain ⟨ns, hns⟩ := hfollow j hj
  rw [ht.keyPath_of_follow hn hms, ht.keyPath_of_follow hn hns, KeyPath.mk.injEq] at hij
  subst hij
  exact Option.some.inj (hms.symm.trans hns)

theorem Linked.mem_keyPaths {t : UnitTree} (ht : t.Linked) (hn : t.Named) (k : KeyPath) :
    k ∈ t.keyPaths ↔ k.segments ≠ [] ∧ (t.resolve k).isSome := by
  have hroot : rootId ∉ (t.children rootId).flatMap t.preorder := by
    have hnd := ht.nodup_preorder rootId
    rw [ht.preorder_eq, List.nodup_cons] at hnd
    exact hnd.1
  have hmem : ∀ i, i ∈ (t.children rootId).flatMap t.preorder ↔
      i ≠ rootId ∧ ∃ ns, t.follow rootId ns = some i := by
    intro i
    rw [← ht.mem_preorder, ht.preorder_eq, List.mem_cons]
    constructor
    · intro h
      exact ⟨fun e => hroot (e ▸ h), Or.inr h⟩
    · rintro ⟨hne, h | h⟩
      · exact absurd h hne
      · exact h
  rw [ht.keyPaths_eq, List.mem_map, resolve_eq]
  constructor
  · rintro ⟨i, hi, rfl⟩
    obtain ⟨hne, ns, hns⟩ := (hmem i).1 hi
    rw [ht.keyPath_of_follow hn hns]
    refine ⟨fun e => hne ?_, by rw [hns]; rfl⟩
    rw [show ns = [] from e] at hns
    exact (Option.some.inj hns).symm
  · rintro ⟨hne, hsome⟩
    obtain ⟨i, hi⟩ := Option.isSome_iff_exists.1 hsome
    refine ⟨i, (hmem i).2 ⟨fun e => hne ?_, k.segments, hi⟩, ht.keyPath_of_follow hn hi⟩
    exact ht.follow_inj hi (e ▸ rfl)

end TemplateBundler.UnitTree
