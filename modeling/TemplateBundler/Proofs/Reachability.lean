import Mathlib.Logic.Relation
import TemplateBundler.Proofs.Bindings
import TemplateBundler.Proofs.Growth

/-!
# Units in reach of the root

A key path goes down the lists of children and searches them by name; the key path of a unit is read
off on the way up, over the parent links. An insertion leaves units behind that know their parent
but stand in no list. On all others the two ways are inverse:

    t.resolve k = some i ↔ t.Reachable i ∧ t.keyPath i = k                 (resolve_iff_reachable)

So the units in reach have different key paths, and those of a tree are listed once each.
-/

namespace TemplateBundler.UnitTree

/-- A tree that insertions of units with a name and marks made of a root. -/
inductive NamedMade : UnitTree → Prop
  | ofRoot (r : Renderer) (o : Origin) (f : Option Time) (now : Time) : NamedMade (ofRoot r o f now)
  | insert {t : UnitTree} (h : NamedMade t) {p : Nat} (hp : p < t.units.size) {n : String}
      (hn : n ≠ "") (r : Renderer) (o : Origin) (f : Option Time) : NamedMade (t.insert p n r o f).1
  | mark {t : UnitTree} (h : NamedMade t) {i : Nat} (hi : i < t.units.size) (time : Time) :
      NamedMade (t.mark i time)

theorem NamedMade.made {t : UnitTree} (h : t.NamedMade) : t.Made := by
  induction h with
  | ofRoot r o f now => exact .ofRoot r o f now
  | insert _ hp _ r o f ih => exact .insert ih hp _ r o f
  | mark _ hi time ih => exact .mark ih hi time

theorem NamedMade.linked {t : UnitTree} (h : t.NamedMade) : t.Linked := h.made.linked

theorem NamedMade.named {t : UnitTree} (h : t.NamedMade) : t.Named := by
  induction h with
  | ofRoot r o f now => exact Source.named_ofRoot r o f now
  | insert _ hp hn r o f ih => exact Source.named_insert ih hp hn r o f
  | mark _ _ time ih => exact Source.named_mark ih _ time

/-! ## Reach -/

/-- Lists of children lead from a unit down to another one. -/
def Below (t : UnitTree) (i : Nat) : Nat → Prop :=
  Relation.ReflTransGen (fun p c => c ∈ t.children p) i

/-- Lists of children lead from the root to the unit. -/
def Reachable (t : UnitTree) : Nat → Prop :=
  Relation.ReflTransGen (fun p c => c ∈ t.children p) rootId

theorem reachable_root (t : UnitTree) : t.Reachable rootId := .refl

theorem Linked.below_iff {t : UnitTree} (ht : t.Linked) (i j : Nat) :
    t.Below i j ↔ ∃ ns, t.follow i ns = some j := by
  constructor
  · intro h
    induction h with
    | refl => exact ⟨[], rfl⟩
    | @tail p c _ hc ih =>
      obtain ⟨ns, hns⟩ := ih
      refine ⟨ns ++ [t.name c], ?_⟩
      rw [follow_concat, hns, Option.bind_some, ht.child?_eq_some_iff]
      exact ⟨hc, rfl⟩
  · rintro ⟨ns, hns⟩
    induction ns using List.reverseRecOn generalizing j with
    | nil =>
      obtain rfl := Option.some.inj hns
      exact .refl
    | append_singleton ns n ih =>
      rw [follow_concat, Option.bind_eq_some_iff] at hns
      obtain ⟨p, hp, hc⟩ := hns
      exact (ih p hp).tail (mem_children_of_child? hc)

theorem Linked.mem_descendants_iff_below {t : UnitTree} (ht : t.Linked) {i : Nat}
    (hi : i < t.units.size) (j : Nat) : j ∈ t.descendants i ↔ t.Below i j := by
  rw [ht.mem_descendants hi, ht.below_iff]

theorem Linked.reachable_iff {t : UnitTree} (ht : t.Linked) (i : Nat) :
    t.Reachable i ↔ ∃ ns, t.follow rootId ns = some i :=
  ht.below_iff rootId i

section
variable {t : UnitTree} (ht : t.Linked) (hn : t.Named)

include ht hn

theorem Linked.resolve_iff_reachable (k : KeyPath) (i : Nat) :
    t.resolve k = some i ↔ t.Reachable i ∧ t.keyPath i = k := by
  rw [ht.resolve_eq_some_iff hn, ht.mem_descendants ht.root_lt, ht.reachable_iff]

theorem Linked.mem_keyPaths_iff_reachable (k : KeyPath) :
    k ∈ t.keyPaths ↔ ∃ i, i ≠ rootId ∧ t.Reachable i ∧ t.keyPath i = k := by
  have hroot : t.keyPath rootId = .root := ((ht.resolve_iff_reachable hn .root _).1 rfl).2
  simp only [ht.mem_keyPaths hn, Option.isSome_iff_exists, ht.resolve_iff_reachable hn]
  constructor
  · rintro ⟨hne, i, hi, rfl⟩
    refine ⟨i, ?_, hi, rfl⟩
    rintro rfl
    exact hne (congrArg KeyPath.segments hroot)
  · rintro ⟨i, hne, hi, rfl⟩
    refine ⟨fun hnil => hne ?_, i, hi, rfl⟩
    have hresolve := (ht.resolve_iff_reachable hn _ i).2 ⟨hi, rfl⟩
    rw [resolve_eq, hnil] at hresolve
    exact (Option.some.inj hresolve).symm

end

/-! ## Top theorem -/

/-- How the key paths lead to the units of a tree. -/
structure KeyPathsLead (t : UnitTree) : Prop where
  leads_iff : ∀ i, t.Reachable i ↔ t.resolve (t.keyPath i) = some i
  keyPath_eq : ∀ k i, t.resolve k = some i → t.keyPath i = k
  distinct : ∀ i j, t.Reachable i → t.Reachable j → t.keyPath i = t.keyPath j → i = j
  /-- A unit below the root is listed once, -/
  listed : ∀ i, i ≠ rootId → t.Reachable i → t.keyPaths.count (t.keyPath i) = 1
  /-- and no other key path is. -/
  listed_only : ∀ k ∈ t.keyPaths, ∃ i, i ≠ rootId ∧ t.Reachable i ∧ t.keyPath i = k
  /-- An artifact tells the key path that its unit was asked for with. -/
  recorded : ∀ k i, t.resolve k = some i → ∀ global time,
    (Artifact.generate t i global time).keyPath = k

/-- **The way down and the way up are inverse** on the units in reach. -/
theorem keyPathsLead_of_namedMade {t : UnitTree} (h : t.NamedMade) : t.KeyPathsLead := by
  have hresolve := h.linked.resolve_iff_reachable h.named
  have hmem := h.linked.mem_keyPaths_iff_reachable h.named
  have hkeyPath : ∀ k i, t.resolve k = some i → t.keyPath i = k := fun k i hi =>
    ((hresolve k i).1 hi).2
  refine ⟨fun i => ?_, hkeyPath, fun i j hi hj hij => ?_, fun i hne hi => ?_,
    fun k hk => (hmem k).1 hk, fun k i hi _ _ => hkeyPath k i hi⟩
  · rw [hresolve, and_iff_left rfl]
  · have hdown := (hresolve _ i).2 ⟨hi, rfl⟩
    rw [hij, (hresolve _ j).2 ⟨hj, rfl⟩] at hdown
    exact (Option.some.inj hdown).symm
  · exact List.count_eq_one_of_mem (h.linked.nodup_keyPaths h.named)
      ((hmem _).2 ⟨i, hne, hi, rfl⟩)

theorem namedMade_patchedTree : Artifact.patchedTree.NamedMade :=
  .mark (.insert (.insert (.insert (.insert (.insert (.ofRoot _ _ _ _)
    (by decide) (by decide) _ _ _) (by decide) (by decide) _ _ _) (by decide) (by decide) _ _ _)
    (by decide) (by decide) _ _ _) (by decide) (by decide) _ _ _) (by decide) _

theorem keyPathsLead_patchedTree :
    Artifact.patchedTree.NamedMade ∧ Artifact.patchedTree.KeyPathsLead :=
  ⟨namedMade_patchedTree, keyPathsLead_of_namedMade namedMade_patchedTree⟩

end TemplateBundler.UnitTree
