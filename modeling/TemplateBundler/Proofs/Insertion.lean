import TemplateBundler.Proofs.Marks
import TemplateBundler.Proofs.Reachability

/-!
# An insertion as an update

Below a unit in reach an insertion gives one key path a new unit and takes away whatever was below
that key path, at any depth; every other key path leads where it led (`follow_insert`). Below a unit
that has lost its place no way from the root changes:

    ¬ t.Reachable p →
      (t.insert p n r o f).1.follow rootId ns = t.follow rootId ns  (follow_insert_of_not_reachable)

The new unit stands where its namesake stood, else last (`childrenWith_of_some`), and every unit
that was there keeps what it is and how fresh it is.
-/

namespace TemplateBundler.UnitTree

/-! ## Key paths -/

theorem Linked.follow_insert_of_not_reachable {t : UnitTree} (ht : t.Linked) {p : Nat}
    (hp : p < t.units.size) (hreach : ¬ t.Reachable p) (n : String) (r : Renderer) (o : Origin)
    (f : Option Time) (ns : List String) :
    (t.insert p n r o f).1.follow rootId ns = t.follow rootId ns := by
  induction ns using List.reverseRecOn with
  | nil => rfl
  | append_singleton ns m ih =>
    rw [follow_concat, follow_concat, ih]
    cases hi : t.follow rootId ns with
    | none => rfl
    | some i =>
      have hne : i ≠ p := fun e => hreach (e ▸ (ht.reachable_iff i).2 ⟨ns, hi⟩)
      rw [Option.bind_some, Option.bind_some, ht.child?_insert hp, if_neg fun h => hne h.1]

/-! ## Lists of children -/

theorem replaceFirst_append {old : Nat} (new : Nat) {front : List Nat} (h : old ∉ front)
    (back : List Nat) : replaceFirst old new (front ++ old :: back) = front ++ new :: back := by
  induction front with
  | nil => rw [List.nil_append, replaceFirst, if_pos rfl, List.nil_append]
  | cons c front ih =>
    rw [List.mem_cons, not_or] at h
    rw [List.cons_append, replaceFirst, if_neg (Ne.symm h.1), ih h.2, List.cons_append]

theorem childrenWith_of_some {t : UnitTree} {p old : Nat} {n : String}
    (h : t.child? p n = some old) (id : Nat) : ∃ front back,
      t.children p = front ++ old :: back ∧ t.childrenWith p n id = front ++ id :: back := by
  obtain ⟨-, front, back, hsplit, hfront⟩ := List.find?_eq_some_iff_append.1 h
  have hold : old ∉ front := by
    intro hmem
    have := hfront old hmem
    simp [name_of_child? h] at this
  refine ⟨front, back, hsplit, ?_⟩
  rw [childrenWith, h, hsplit]
  exact replaceFirst_append id hold back

/-! ## Units that were there -/

theorem freshness_insert {t : UnitTree} {p : Nat} (hp : p < t.units.size) (n : String)
    (r : Renderer) (o : Origin) (f : Option Time) {i : Nat} (hi : i ≠ t.units.size) :
    (t.insert p n r o f).1.freshness i = t.freshness i := by
  have hown : ∀ a ∈ i :: t.ancestors i, (t.insert p n r o f).1.own? a = t.own? a := by
    intro a ha
    have hne : a ≠ t.units.size := by
      rcases List.mem_cons.1 ha with rfl | ha
      · exact hi
      · exact Nat.ne_of_lt (Nat.lt_trans (lt_of_mem_ancestors ha) (lt_of_mem_ancestors_size ha))
    rw [own?_insert hp, if_neg hne]
  rw [freshness, freshness, ancestors_insert hp n r o f hi, ← List.head?_filterMap,
    ← List.head?_filterMap, List.filterMap_congr hown]

theorem unit?_insert_of_ne {t : UnitTree} {p : Nat} (hp : p < t.units.size) (n : String)
    (r : Renderer) (o : Origin) (f : Option Time) {i : Nat} (hi : i ≠ t.units.size) :
    (t.insert p n r o f).1.unit? i =
      (t.unit? i).map fun u => { u with children := (t.insert p n r o f).1.children i } := by
  rw [unit?_insert hp, if_neg hi, children_insert hp]
  split
  · next hip => rw [hip]
  · unfold children
    cases t.unit? i <;> rfl

/-! ## Top theorem -/

/-- What is different in `t'` from `t`, where `u` was added below `p` as unit `id`. -/
structure Inserted (t t' : UnitTree) (p : Nat) (u : TemplateUnit) (id : Nat) : Prop where
  resolve_new : t.Reachable p → t'.resolve ((t.keyPath p).child u.name) = some id
  /-- What was below the key path is gone, -/
  resolve_below : t.Reachable p → ∀ ns, ns ≠ [] →
    t'.resolve ⟨((t.keyPath p).child u.name).segments ++ ns⟩ = none
  /-- and key paths that do not begin with it lead where they led. -/
  resolve_other : t.Reachable p → ∀ k : KeyPath,
    ¬ ((t.keyPath p).child u.name).segments <+: k.segments → t'.resolve k = t.resolve k
  resolve_unreached : ¬ t.Reachable p → ∀ k, t'.resolve k = t.resolve k
  children_other : ∀ i, i ≠ p → t'.children i = t.children i
  /-- The new unit stands in the place of the child that had its name, -/
  children_replaced : ∀ old, t.child? p u.name = some old → ∃ front back,
    t.children p = front ++ old :: back ∧ t'.children p = front ++ id :: back
  /-- and last where there was none. -/
  children_added : t.child? p u.name = none → t'.children p = t.children p ++ [id]
  unit?_new : t'.unit? id = some u
  unit?_other : ∀ i, i ≠ id →
    t'.unit? i = (t.unit? i).map fun v => { v with children := t'.children i }
  freshness_other : ∀ i, i ≠ id → t'.freshness i = t.freshness i

/-- **An insertion is an update** at one key path, or at none. -/
theorem inserted_of_namedMade {t : UnitTree} (h : t.NamedMade) {p : Nat} (hp : p < t.units.size)
    (n : String) (r : Renderer) (o : Origin) (f : Option Time) :
    Inserted t (t.insert p n r o f).1 p ⟨n, r, o, f, some p, []⟩ (t.insert p n r o f).2 := by
  have ht := h.linked
  have hreached : t.Reachable p → ∀ k : KeyPath, (t.insert p n r o f).1.resolve k =
      if k.segments = ((t.keyPath p).child n).segments then some t.units.size
      else if ((t.keyPath p).child n).segments <+: k.segments then none
      else t.resolve k := by
    intro hreach k
    obtain ⟨ns, hns⟩ := (ht.reachable_iff p).1 hreach
    rw [ht.keyPath_of_follow h.named hns, resolve_eq, ht.follow_insert hns]
    rfl
  rw [insert_id]
  exact {
    resolve_new := fun hreach => by rw [hreached hreach, if_pos rfl]
    resolve_below := fun hreach ns hns => by
      rw [hreached hreach, if_neg (by simpa using hns), if_pos (List.prefix_append _ _)]
    resolve_other := fun hreach k hk => by
      have hne : k.segments ≠ ((t.keyPath p).child n).segments := by
        intro e
        rw [e] at hk
        exact hk List.prefix_rfl
      rw [hreached hreach, if_neg hne, if_neg hk]
    resolve_unreached := fun hreach k =>
      ht.follow_insert_of_not_reachable hp hreach n r o f k.segments
    children_other := fun i hi => by rw [children_insert hp, if_neg hi]
    children_replaced := fun old hold => by
      rw [children_insert hp, if_pos rfl]
      exact childrenWith_of_some hold _
    children_added := fun hnone => by
      rw [children_insert hp, if_pos rfl, childrenWith, hnone]
    unit?_new := by rw [unit?_insert hp, if_pos rfl]
    unit?_other := fun i hi => unit?_insert_of_ne hp n r o f hi
    freshness_other := fun i hi => freshness_insert hp n r o f hi }

/-- A tree in which the file `a` took the place of a directory that had a unit below it. -/
def overlaidTree : UnitTree :=
  let folder := ((ofRoot .empty (.root ⟨"v"⟩) none 0).insert 0 "a" .empty (.directory ⟨"v/a"⟩)
    (some 0)).1
  let inner := (folder.insert 1 "b" .empty (.file ⟨"v/a/b.tmpl"⟩) (some 3)).1
  (inner.insert 0 "a" .empty (.file ⟨"v/a.tmpl"⟩) (some 5)).1

/-- One insertion takes the place of a unit in reach, the other one is below a unit out of reach. -/
theorem inserted_overlaidTree : overlaidTree.NamedMade ∧
    (0 < overlaidTree.units.size ∧ overlaidTree.Reachable 0 ∧ Inserted overlaidTree
      (overlaidTree.insert 0 "a" .empty (.directory ⟨"v/a"⟩) none).1 0
      ⟨"a", .empty, .directory ⟨"v/a"⟩, none, some 0, []⟩ 4) ∧
    (1 < overlaidTree.units.size ∧ ¬ overlaidTree.Reachable 1 ∧ Inserted overlaidTree
      (overlaidTree.insert 1 "c" .empty (.file ⟨"v/a/c.tmpl"⟩) (some 4)).1 1
      ⟨"c", .empty, .file ⟨"v/a/c.tmpl"⟩, some 4, some 1, []⟩ 4) := by
  have hmade : overlaidTree.NamedMade :=
    .insert (.insert (.insert (.ofRoot _ _ _ _) (by decide) (by decide) _ _ _) (by decide)
      (by decide) _ _ _) (by decide) (by decide) _ _ _
  have hout : ¬ overlaidTree.Reachable 1 := by
    rw [hmade.linked.reachable_iff, ← hmade.linked.mem_descendants hmade.linked.root_lt]
    decide
  exact ⟨hmade, ⟨by decide, reachable_root _, inserted_of_namedMade hmade (by decide) _ _ _ _⟩,
    ⟨by decide, hout, inserted_of_namedMade hmade (by decide) _ _ _ _⟩⟩

end TemplateBundler.UnitTree
