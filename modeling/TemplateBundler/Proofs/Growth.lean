import Mathlib.Logic.Relation
import TemplateBundler.Proofs.Outline
import TemplateBundler.Proofs.Preorder

/-!
# How a tree grows

A build takes three kinds of steps: it adds the unit of a template file and marks it with the time
of the file, it adds a block below the unit of its file, and it adds an empty unit for a directory
that has none (`Step`). Whatever a new unit takes the place of is a block without children, so no
step loses a file. `times` tells the modification time of each file.

    Grows times t t' → t.Linked → t'.Linked                                        (Grows.linked)
-/

namespace TemplateBundler.Source

open UnitTree

/-- Where the unit came from. -/
def origin? (t : UnitTree) (i : Nat) : Option Origin := (t.unit? i).map TemplateUnit.origin

theorem origin?_insert {t : UnitTree} {p : Nat} (hp : p < t.units.size) (n : String) (r : Renderer)
    (o : Origin) (f : Option Time) (i : Nat) :
    origin? (t.insert p n r o f).1 i = if i = t.units.size then some o else origin? t i := by
  unfold origin?
  rw [unit?_insert hp]
  by_cases hi : i = t.units.size
  · rw [if_pos hi, if_pos hi]
    rfl
  · rw [if_neg hi, if_neg hi]
    split
    · next hip =>
      subst hip
      cases t.unit? i <;> rfl
    · rfl

theorem origin?_congr {t t' : UnitTree} {i : Nat} (h : t'.face? i = t.face? i) :
    origin? t' i = origin? t i := by
  have hf : ∀ s : UnitTree, origin? s i = (s.face? i).map TemplateUnit.origin := by
    intro s
    unfold face? origin?
    cases s.unit? i <;> rfl
  rw [hf, hf, h]

theorem lt_of_origin? {t : UnitTree} {i : Nat} {o : Origin} (h : origin? t i = some o) :
    i < t.units.size := by
  obtain ⟨u, hu, -⟩ := Option.map_eq_some_iff.1 h
  exact unit?_lt hu

theorem exists_origin? {t : UnitTree} {i : Nat} (hi : i < t.units.size) :
    ∃ o, origin? t i = some o := by
  obtain ⟨u, hu⟩ := unit?_isSome hi
  exact ⟨u.origin, by rw [origin?, hu, Option.map_some]⟩

/-- Below `p` the name is free, or a block without children has it. -/
def Vacant (t : UnitTree) (p : Nat) (n : String) : Prop :=
  ∀ c, t.child? p n = some c →
    t.children c = [] ∧ ∃ path name, origin? t c = some (.block path name)

/-- One step of a build, at a unit that names lead to. -/
inductive Step (times : FilePath → Time) : UnitTree → UnitTree → Prop
  | file {t : UnitTree} {p : Nat} {K : List String} (f : Compiled) :
      t.follow rootId K = some p → f.name ≠ "" → f.time = times f.path → Vacant t p f.name →
      Step times t (placeUnit p t f)
  | block {t : UnitTree} {p : Nat} {K : List String} (path : FilePath) (b : String × Renderer) :
      t.follow rootId K = some p → b.1 ≠ "" → origin? t p = some (.file path) → Vacant t p b.1 →
      Step times t (placeBlock path p t b)
  | folder {t : UnitTree} {p : Nat} {K : List String} (name : String) (path : FilePath) :
      t.follow rootId K = some p → name ≠ "" → t.child? p name = none →
      Step times t (t.insert p name .empty (.directory path) (some Time.never)).1

/-- Any number of steps. -/
def Grows (times : FilePath → Time) : UnitTree → UnitTree → Prop :=
  Relation.ReflTransGen (Step times)

/-! ## Links and names -/

theorem Step.linked {times : FilePath → Time} {t t' : UnitTree} (h : Step times t t')
    (ht : t.Linked) : t'.Linked := by
  cases h with
  | file f => exact (ht.insert _ _ _ _ _).mark _ _
  | block path b => exact ht.insert _ _ _ _ _
  | folder name path => exact ht.insert _ _ _ _ _

theorem Grows.linked {times : FilePath → Time} {t t' : UnitTree} (h : Grows times t t')
    (ht : t.Linked) : t'.Linked := by
  induction h with
  | refl => exact ht
  | tail _ hlast ih => exact hlast.linked ih

/-- What every step from a linked tree keeps, a build keeps. -/
theorem Grows.keeps {times : FilePath → Time} {P : UnitTree → Prop}
    (hstep : ∀ t t', Step times t t' → t.Linked → P t → P t') {t t' : UnitTree}
    (h : Grows times t t') (hlinked : t.Linked) (ht : P t) : P t' := by
  induction h with
  | refl => exact ht
  | tail hrun hlast ih => exact hstep _ _ hlast (Grows.linked hrun hlinked) ih

theorem named_insert {t : UnitTree} (ht : t.Named) {p : Nat} (hp : p < t.units.size) {n : String}
    (hn : n ≠ "") (r : Renderer) (o : Origin) (f : Option Time) : (t.insert p n r o f).1.Named := by
  intro i q hq
  rw [parent?_insert hp] at hq
  rw [name_insert hp]
  split
  · exact hn
  · next hi =>
    rw [if_neg hi] at hq
    exact ht i q hq

theorem named_mark {t : UnitTree} (ht : t.Named) (i : Nat) (time : Time) :
    (t.mark i time).Named := by
  intro j q hq
  rw [parent?_congr (face?_mark t i time j)] at hq
  rw [name_congr (face?_mark t i time j)]
  exact ht j q hq

theorem named_ofRoot (r : Renderer) (o : Origin) (f : Option Time) (now : Time) :
    (ofRoot r o f now).Named := by
  intro i p hp
  rw [parent?_ofRoot] at hp
  cases hp

theorem Step.named {times : FilePath → Time} {t t' : UnitTree} (h : Step times t t')
    (ht : t.Linked) (hn : t.Named) : t'.Named := by
  cases h with
  | file f hp hne =>
    exact named_mark (named_insert hn (ht.follow_lt ht.root_lt hp) hne _ _ _) _ _
  | block path b hp hne => exact named_insert hn (ht.follow_lt ht.root_lt hp) hne _ _ _
  | folder name path hp hne => exact named_insert hn (ht.follow_lt ht.root_lt hp) hne _ _ _

theorem Grows.named {times : FilePath → Time} {t t' : UnitTree} (h : Grows times t t')
    (ht : t.Linked) (hn : t.Named) : t'.Named :=
  h.keeps (fun _ _ => Step.named) ht hn

/-! ## No file is lost -/

/-- Names lead to every unit but to blocks without children. -/
def Kept (t : UnitTree) : Prop :=
  ∀ i, i < t.units.size → (∃ K, t.follow rootId K = some i) ∨
    (t.children i = [] ∧ ∃ path n, origin? t i = some (.block path n))

theorem Kept.insert {t : UnitTree} (ht : t.Linked) (hk : Kept t) {p : Nat} {K : List String}
    (hp : t.follow rootId K = some p) {n : String} (hv : Vacant t p n) (r : Renderer) (o : Origin)
    (f : Option Time) : Kept (t.insert p n r o f).1 := by
  have hlt := ht.follow_lt ht.root_lt hp
  -- a block without children stays one, unless it is the parent
  have hblock : ∀ i, i < t.units.size → i ≠ p → t.children i = [] →
      (∃ path m, origin? t i = some (.block path m)) →
      (t.insert p n r o f).1.children i = [] ∧
        ∃ path m, origin? (t.insert p n r o f).1 i = some (.block path m) := by
    rintro i hi hip hnil ⟨path, m, ho⟩
    refine ⟨by rw [children_insert hlt, if_neg hip, hnil], path, m, ?_⟩
    rw [origin?_insert hlt, if_neg (Nat.ne_of_lt hi), ho]
  intro i hi
  rw [size_insert hlt] at hi
  by_cases hnew : i = t.units.size
  · refine Or.inl ⟨K ++ [n], ?_⟩
    rw [ht.follow_insert hp, if_pos rfl, hnew]
  have hi : i < t.units.size := by omega
  rcases hk i hi with ⟨k, hki⟩ | ⟨hnil, ho⟩
  · by_cases hpre : K ++ [n] <+: k
    · obtain ⟨ns, rfl⟩ := hpre
      rw [follow_append, follow_concat, hp, Option.bind_some, Option.bind_eq_some_iff] at hki
      obtain ⟨c, hc, hns⟩ := hki
      obtain ⟨hnil, ho⟩ := hv c hc
      have hci : c = i := by
        cases ns with
        | nil => exact Option.some.inj hns
        | cons m ns =>
          rw [follow_cons, Option.bind_eq_some_iff] at hns
          obtain ⟨e, he, -⟩ := hns
          have hmem := mem_children_of_child? he
          rw [hnil] at hmem
          exact absurd hmem List.not_mem_nil
      subst hci
      have hpc := (ht.child_lt (mem_children_of_child? hc)).1
      exact Or.inr (hblock c hi (Nat.ne_of_gt hpc) hnil ho)
    · refine Or.inl ⟨k, ?_⟩
      have hne : k ≠ K ++ [n] := fun e => hpre (e ▸ List.prefix_rfl)
      rw [ht.follow_insert hp, if_neg hne, if_neg hpre, hki]
  · by_cases hip : i = p
    · subst hip
      refine Or.inl ⟨K, ?_⟩
      have hne : K ≠ K ++ [n] := by simp
      rw [ht.follow_insert hp, if_neg hne, if_neg (not_concat_prefix_self K n), hp]
    · exact Or.inr (hblock i hi hip hnil ho)

theorem Kept.mark {t : UnitTree} (hk : Kept t) (i : Nat) (time : Time) : Kept (t.mark i time) := by
  have hface := face?_mark t i time
  intro j hj
  rw [size_mark] at hj
  rw [children_congr (hface j), origin?_congr (hface j)]
  simp only [follow_congr hface]
  exact hk j hj

theorem Step.kept {times : FilePath → Time} {t t' : UnitTree} (h : Step times t t') (ht : t.Linked)
    (hk : Kept t) : Kept t' := by
  cases h with
  | file f hp _ _ hv => exact (hk.insert ht hp hv _ _ _).mark _ _
  | block path b hp _ _ hv => exact hk.insert ht hp hv _ _ _
  | folder name path hp _ hnone =>
    refine hk.insert ht hp (fun c hc => ?_) _ _ _
    rw [hnone] at hc
    cases hc

theorem Grows.kept {times : FilePath → Time} {t t' : UnitTree} (h : Grows times t t')
    (ht : t.Linked) (hk : Kept t) : Kept t' :=
  h.keeps (fun _ _ => Step.kept) ht hk

/-! ## Blocks belong to files -/

/-- The parent of a block is the unit of its file. -/
def Owned (t : UnitTree) : Prop :=
  ∀ i path n, origin? t i = some (.block path n) →
    ∃ p, t.parent? i = some p ∧ origin? t p = some (.file path)

theorem Owned.insert {t : UnitTree} (hb : Owned t) {p : Nat} (hp : p < t.units.size) (n : String)
    (r : Renderer) (o : Origin) (f : Option Time)
    (ho : ∀ path m, o = .block path m → origin? t p = some (.file path)) :
    Owned (t.insert p n r o f).1 := by
  intro i path m hi
  rw [origin?_insert hp] at hi
  split at hi
  · next hnew =>
    refine ⟨p, by rw [parent?_insert hp, if_pos hnew], ?_⟩
    rw [origin?_insert hp, if_neg (Nat.ne_of_lt hp)]
    exact ho path m (Option.some.inj hi)
  · next hnew =>
    obtain ⟨q, hq, hfile⟩ := hb i path m hi
    refine ⟨q, by rw [parent?_insert hp, if_neg hnew, hq], ?_⟩
    rw [origin?_insert hp, if_neg (Nat.ne_of_lt (lt_of_origin? hfile)), hfile]

theorem Step.owned {times : FilePath → Time} {t t' : UnitTree} (h : Step times t t') (ht : t.Linked)
    (hb : Owned t) : Owned t' := by
  cases h with
  | @file p K f hp _ _ _ =>
    have hface := face?_mark (t.insert p f.name f.renderer (.file f.path) none).1
      t.units.size f.time
    have hins := hb.insert (ht.follow_lt ht.root_lt hp) f.name f.renderer (.file f.path) none
      fun _ _ h => Origin.noConfusion h
    intro i path m hi
    unfold placeUnit at hi ⊢
    rw [origin?_congr (hface i)] at hi
    obtain ⟨q, hq, hfile⟩ := hins i path m hi
    exact ⟨q, (parent?_congr (hface i)).trans hq, (origin?_congr (hface q)).trans hfile⟩
  | block path b hp _ hfile _ =>
    refine hb.insert (ht.follow_lt ht.root_lt hp) _ _ _ _ fun path' m h => ?_
    obtain ⟨rfl, -⟩ := (Origin.block.injEq _ _ _ _).mp h
    exact hfile
  | folder name path hp =>
    exact hb.insert (ht.follow_lt ht.root_lt hp) _ _ _ _ fun _ _ h => Origin.noConfusion h

theorem Grows.owned {times : FilePath → Time} {t t' : UnitTree} (h : Grows times t t')
    (ht : t.Linked) (hb : Owned t) : Owned t' :=
  h.keeps (fun _ _ => Step.owned) ht hb

/-! ## The root alone -/

theorem eq_rootId_of_origin? {root : FilePath} {builtAt : Time} {i : Nat} {o : Origin}
    (h : origin? (treeOf.rootOnly root builtAt) i = some o) : i = rootId ∧ o = .root root := by
  cases i with
  | zero => exact ⟨rfl, (Option.some.inj h).symm⟩
  | succ i => cases h

theorem kept_rootOnly (root : FilePath) (builtAt : Time) : Kept (treeOf.rootOnly root builtAt) := by
  intro i hi
  obtain rfl : i = rootId := Nat.lt_one_iff.1 hi
  exact Or.inl ⟨[], rfl⟩

theorem owned_rootOnly (root : FilePath) (builtAt : Time) :
    Owned (treeOf.rootOnly root builtAt) := by
  intro i path n hi
  cases (eq_rootId_of_origin? hi).2

theorem named_rootOnly (root : FilePath) (builtAt : Time) :
    (treeOf.rootOnly root builtAt).Named :=
  named_ofRoot _ _ _ _

end TemplateBundler.Source
