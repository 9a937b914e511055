import TemplateBundler.Proofs.Bindings

/-!
# Loops over a tree end

Key paths, freshness, marks and targets are found on the way up from a unit, and a traversal keeps
the units still to be visited on a stack. Nothing in such a loop counts its rounds (`Climb.Ends`,
`Traverses`). It ends all the same, from every unit of every tree that insertions and marks made,
also from one that lost its place or was added below such a unit, and with the value that the
ancestors or the subtree of the unit give:

    c.Ends a (some i) b ↔ b = c.value a (t.lineage i)                        (Climb.ends_lineage)
    t.Traverses ids js ↔ js = ids.flatMap t.preorder                      (Linked.traverses_iff)

The reasons are in the array (`Arena`): a parent stands before its children, and no unit is in a
list of children twice or in two of them.
-/

namespace TemplateBundler

/-- A loop up the parent links. At each unit it goes on with another value or stops with a result;
past the root it stops in any case. -/
structure Climb (α β : Type) where
  visit : α → Nat → α ⊕ β
  parent? : α → Nat → Option Nat
  past : α → β

namespace Climb

variable {α β : Type} {c : Climb α β}

/-! ## Climbs -/

/-- The loop stands at a unit, or past the root, and comes to its end with a result. -/
inductive Ends (c : Climb α β) : α → Option Nat → β → Prop
  | past (a : α) : Ends c a none (c.past a)
  | stop {a : α} {i : Nat} {b : β} : c.visit a i = .inr b → Ends c a (some i) b
  | up {a a' : α} {i : Nat} {b : β} : c.visit a i = .inl a' → Ends c a' (c.parent? a' i) b →
      Ends c a (some i) b

/-- What the loop comes to over some units in a row. -/
def value (c : Climb α β) : α → List Nat → β
  | a, [] => c.past a
  | a, i :: is =>
    match c.visit a i with
    | .inl a' => c.value a' is
    | .inr b => b

/-- The loop goes over the parent links of `t`, whatever it has done to its value. -/
structure Follows (c : Climb α β) (t : UnitTree) (P : α → Prop) : Prop where
  parent?_eq : ∀ a, P a → ∀ i, c.parent? a i = t.parent? i
  visit_keeps : ∀ a i a', P a → c.visit a i = .inl a' → P a'

theorem Ends.unique {a : α} {cursor : Option Nat} {b b' : β} (h : c.Ends a cursor b)
    (h' : c.Ends a cursor b') : b = b' := by
  induction h with
  | past a =>
    cases h'
    rfl
  | stop hvisit =>
    cases h' with
    | stop hvisit' => exact Sum.inr.inj (hvisit.symm.trans hvisit')
    | up hvisit' => exact absurd (hvisit.symm.trans hvisit') Sum.inr_ne_inl
  | up hvisit _ ih =>
    cases h' with
    | stop hvisit' => exact absurd (hvisit.symm.trans hvisit') Sum.inl_ne_inr
    | up hvisit' hrest =>
      obtain rfl := Sum.inl.inj (hvisit.symm.trans hvisit')
      exact ih hrest

section Follows
variable {t : UnitTree} {P : α → Prop} (h : c.Follows t P)

include h

/-- The parent stands before the unit, so there is always less of the array in front. -/
theorem Follows.ends {a : α} (ha : P a) (i : Nat) :
    c.Ends a (some i) (c.value a (t.lineage i)) := by
  induction i using Nat.strongRecOn generalizing a with
  | _ i ih =>
    unfold UnitTree.lineage
    rw [value]
    cases hvisit : c.visit a i with
    | inr b => exact .stop hvisit
    | inl a' =>
      have ha' := h.visit_keeps a i a' ha hvisit
      have hcursor := h.parent?_eq a' ha' i
      refine .up hvisit ?_
      rw [hcursor]
      cases hp : t.parent? i with
      | none =>
        rw [UnitTree.ancestors_of_none hp]
        exact .past a'
      | some p =>
        rw [UnitTree.ancestors_eq hp]
        exact ih p (UnitTree.parent?_lt hp) ha'

theorem Follows.ends_lineage {a : α} (ha : P a) (i : Nat) (b : β) :
    c.Ends a (some i) b ↔ b = c.value a (t.lineage i) :=
  ⟨fun hends => hends.unique (h.ends ha i), fun hb => hb ▸ h.ends ha i⟩

/-- A loop that begins above a unit. -/
theorem Follows.ends_ancestors {a : α} (ha : P a) (i : Nat) (b : β) :
    c.Ends a (t.parent? i) b ↔ b = c.value a (t.ancestors i) := by
  cases hp : t.parent? i with
  | none =>
    rw [UnitTree.ancestors_of_none hp]
    exact ⟨fun hends => hends.unique (.past a), fun hb => hb ▸ .past a⟩
  | some p =>
    rw [UnitTree.ancestors_eq hp]
    exact h.ends_lineage ha p b

end Follows

end Climb

namespace UnitTree

variable (t : UnitTree)

/-! ## The loops of a tree -/

/-- Collects the names of a key path. The root has none. -/
def keyPathLoop : Climb (List String) KeyPath where
  visit names i := .inl (if (t.parent? i).isSome then t.name i :: names else names)
  parent? _ := t.parent?
  past := .ofSegments

/-- Looks for the first freshness that is stored. -/
def freshnessLoop : Climb Unit Time where
  visit _ i :=
    match t.own? i with
    | some time => .inr time
    | none => .inl ()
  parent? _ := t.parent?
  past _ := 0

/-- Raises the ancestors of a marked unit, in the tree that it carries. -/
def markLoop (time : Time) : Climb UnitTree UnitTree where
  visit t a :=
    match t.own? a with
    | some own => if time ≤ own then .inr t else .inl (t.setOwn a time)
    | none => .inl (if (t.parent? a).isNone then t.setOwn a time else t)
  parent? := parent?
  past t := t

/-- Collects the names below a top unit, for the target of a binding. -/
def targetLoop (top : Nat) : Climb (List String) String where
  visit names i := if i = top then .inr (written names) else .inl (t.name i :: names)
  parent? _ := t.parent?
  past := written
where
  written (names : List String) : String :=
    Conventions.rootVariable ++ String.join (names.map Artifact.access)

/-- The units on a stack are visited, the top first, and their children take their place. -/
inductive Traverses : List Nat → List Nat → Prop
  | done : Traverses [] []
  | visit {i : Nat} {ids js : List Nat} : Traverses (t.children i ++ ids) js →
      Traverses (i :: ids) (i :: js)

/-! ## Their values -/

theorem value_keyPathLoop (names : List String) (is : List Nat) : t.keyPathLoop.value names is =
    .ofSegments (((is.filter fun i => (t.parent? i).isSome).map t.name).reverse ++ names) := by
  induction is generalizing names with
  | nil => rfl
  | cons i is ih =>
    have hvisit : t.keyPathLoop.value names (i :: is) =
        t.keyPathLoop.value (if (t.parent? i).isSome then t.name i :: names else names) is := rfl
    rw [hvisit, ih]
    by_cases hp : (t.parent? i).isSome = true
    · rw [if_pos hp, List.filter_cons, if_pos hp, List.map_cons, List.reverse_cons,
        List.append_assoc, List.singleton_append]
    · rw [if_neg hp, List.filter_cons, if_neg hp]

theorem value_freshnessLoop (is : List Nat) :
    t.freshnessLoop.value () is = (is.findSome? t.own?).getD 0 := by
  induction is with
  | nil => rfl
  | cons i is ih =>
    rw [Climb.value, List.findSome?_cons]
    cases hown : t.own? i <;> simp only [freshnessLoop, hown]
    · exact ih
    · rfl

theorem value_markLoop (time : Time) (is : List Nat) :
    (markLoop time).value t is = raise time t is := by
  induction is generalizing t with
  | nil => rfl
  | cons i is ih =>
    rw [Climb.value, raise]
    cases hown : t.own? i with
    | none => simp only [markLoop, hown, ← ih]
    | some own =>
      by_cases hle : time ≤ own
      · simp only [markLoop, hown, if_pos hle]
      · simp only [markLoop, hown, if_neg hle, ← ih]

theorem value_targetLoop (top : Nat) (names : List String) (is : List Nat) :
    (t.targetLoop top).value names is =
      targetLoop.written (((is.takeWhile (· ≠ top)).map t.name).reverse ++ names) := by
  induction is generalizing names with
  | nil => rfl
  | cons i is ih =>
    rw [Climb.value]
    by_cases hi : i = top
    · rw [List.takeWhile_cons_of_neg (by simpa using hi)]
      simp only [targetLoop, if_pos hi]
      rfl
    · rw [List.takeWhile_cons_of_pos (by simpa using hi), List.map_cons, List.reverse_cons,
        List.append_assoc, List.singleton_append, ← ih]
      simp only [targetLoop, if_neg hi]

/-! ## They end -/

variable {t}

/-- A loop that does not change the tree. -/
theorem follows_of_parent? {α β : Type} {c : Climb α β} (h : ∀ a, c.parent? a = t.parent?) :
    c.Follows t fun _ => True :=
  ⟨fun a _ i => congrFun (h a) i, fun _ _ _ _ _ => trivial⟩

/-- Marks change times only, so the loop finds the parents of the tree it began with. -/
theorem follows_markLoop (time : Time) :
    (markLoop time).Follows t fun t' => ∀ i, t'.face? i = t.face? i where
  parent?_eq t' h i := parent?_congr (h i)
  visit_keeps t' a t'' h hvisit i := by
    simp only [markLoop] at hvisit
    split at hvisit
    · split at hvisit
      · cases hvisit
      · rw [← Sum.inl.inj hvisit, face?_setOwn, h i]
    · rw [← Sum.inl.inj hvisit]
      split
      · rw [face?_setOwn, h i]
      · exact h i

theorem ends_keyPathLoop (i : Nat) (k : KeyPath) :
    t.keyPathLoop.Ends [] (some i) k ↔ k = t.keyPath i := by
  rw [(follows_of_parent? fun _ => rfl).ends_lineage trivial, value_keyPathLoop, List.append_nil]
  rfl

theorem ends_freshnessLoop (i : Nat) (time : Time) :
    t.freshnessLoop.Ends () (some i) time ↔ time = t.freshness i := by
  rw [(follows_of_parent? fun _ => rfl).ends_lineage trivial, value_freshnessLoop]
  rfl

theorem ends_markLoop (i : Nat) (time : Time) (t' : UnitTree) :
    (markLoop time).Ends (t.setOwn i time) (t.parent? i) t' ↔ t' = t.mark i time := by
  rw [(follows_markLoop time).ends_ancestors (face?_setOwn t i time), value_markLoop]
  rfl

theorem ends_targetLoop (top i : Nat) (target : String) :
    (t.targetLoop top).Ends [] (some i) target ↔ target = Artifact.target t top i := by
  rw [(follows_of_parent? fun _ => rfl).ends_lineage trivial, value_targetLoop, List.append_nil]
  rfl

theorem Traverses.unique {ids js js' : List Nat} (h : t.Traverses ids js)
    (h' : t.Traverses ids js') : js = js' := by
  induction h generalizing js' with
  | done =>
    cases h'
    rfl
  | visit _ ih =>
    cases h' with
    | visit hrest => rw [ih hrest]

/-- Each round takes one unit off what the stack still stands for. -/
theorem Linked.traverses {t : UnitTree} (ht : t.Linked) (ids : List Nat) :
    t.Traverses ids (ids.flatMap t.preorder) := by
  generalize hn : (ids.flatMap t.preorder).length = n
  induction n generalizing ids with
  | zero =>
    cases ids with
    | nil => exact .done
    | cons i ids =>
      rw [List.flatMap_cons, ht.preorder_eq] at hn
      cases hn
  | succ n ih =>
    cases ids with
    | nil => cases hn
    | cons i ids =>
      rw [ht.flatMap_preorder_cons] at hn ⊢
      exact .visit (ih _ (Nat.succ.inj hn))

theorem Linked.traverses_iff {t : UnitTree} (ht : t.Linked) (ids js : List Nat) :
    t.Traverses ids js ↔ js = ids.flatMap t.preorder :=
  ⟨fun h => h.unique (ht.traverses ids), fun h => h ▸ ht.traverses ids⟩

/-! ## Top theorem -/

/-- What holds of the array of units, and of every loop over it. -/
structure Arena (t : UnitTree) : Prop where
  parent?_root : t.parent? rootId = none
  /-- Every other unit has a parent, which stands before it. -/
  parent?_lt : ∀ i, i ≠ rootId → i < t.units.size → ∃ p, t.parent? i = some p ∧ p < i
  parent?_of_mem : ∀ p c, c ∈ t.children p → c < t.units.size ∧ t.parent? c = some p
  /-- No unit is twice in a list of children, -/
  children_nodup : ∀ p, (t.children p).Nodup
  /-- or in two of them. -/
  children_disjoint : ∀ p q, p ≠ q → (t.children p).Disjoint (t.children q)
  names_nodup : ∀ p, ((t.children p).map t.name).Nodup
  keyPath_ends : ∀ i, i < t.units.size → ∀ k,
    t.keyPathLoop.Ends [] (some i) k ↔ k = t.keyPath i
  freshness_ends : ∀ i, i < t.units.size → ∀ time,
    t.freshnessLoop.Ends () (some i) time ↔ time = t.freshness i
  mark_ends : ∀ i, i < t.units.size → ∀ time t',
    (markLoop time).Ends (t.setOwn i time) (t.parent? i) t' ↔ t' = t.mark i time
  target_ends : ∀ top i, i < t.units.size → ∀ target,
    (t.targetLoop top).Ends [] (some i) target ↔ target = Artifact.target t top i
  traversal_ends : ∀ i, i < t.units.size → ∀ js, t.Traverses [i] js ↔ js = t.descendants i

/-- **Insertions and marks keep the array a tree**, so that every loop over it ends. -/
theorem arena_of_made {t : UnitTree} (h : t.Made) : t.Arena := by
  have ht := h.linked
  refine ⟨ht.parent?_root, fun i hi hlt => ?_, fun p c hc => ?_, ht.children_nodup,
    fun p q hne c hp hq => hne ?_, ht.names_nodup, fun i _ => ends_keyPathLoop i,
    fun i _ => ends_freshnessLoop i, fun i _ => ends_markLoop i,
    fun top i _ => ends_targetLoop top i, fun i hi js => ?_⟩
  · obtain ⟨p, hp⟩ := Option.isSome_iff_exists.1 (ht.parent?_isSome i hi hlt)
    exact ⟨p, hp, parent?_lt hp⟩
  · exact ⟨(ht.child_lt hc).2, ht.parent?_of_mem p c hc⟩
  · have hparent := (ht.parent?_of_mem p c hp).symm.trans (ht.parent?_of_mem q c hq)
    exact Option.some.inj hparent
  · rw [ht.traverses_iff, List.flatMap_singleton, ht.descendants_eq_preorder hi]

/-- A tree in which a unit was added below one that had lost its place, and was marked. -/
def replacedTree : UnitTree :=
  let folder := ((ofRoot .empty (.root ⟨"v"⟩) none 0).insert 0 "a" .empty (.directory ⟨"v/a"⟩)
    (some 0)).1
  let replaced := (folder.insert 0 "a" .empty (.file ⟨"v/a.tmpl"⟩) (some 5)).1
  (replaced.insert 1 "b" .empty (.file ⟨"v/a/b.tmpl"⟩) none).1.mark 3 7

theorem arena_replacedTree : replacedTree.Made ∧ replacedTree.Arena := by
  have hmade : replacedTree.Made :=
    .mark (.insert (.insert (.insert (.ofRoot _ _ _ _) (by decide) _ _ _ _) (by decide) _ _ _ _)
      (by decide) _ _ _ _) (by decide) _
  exact ⟨hmade, arena_of_made hmade⟩

end UnitTree

end TemplateBundler
