import TemplateBundler.Proofs.Climbs
import TemplateBundler.Proofs.Reachability

/-!
# The traversal as an iterator

An iterator over a subtree hands out one unit at a time. It takes the unit off the end of its stack
and puts the children of this unit there instead, the first of them last (`pop?`). The recursive
order (`Preordered`) goes through a row of units, each before the units below it. The two agree
whatever the lists of children are, also where they share units or lead round in circles, and the one
comes to an end exactly where the other does:

    t.Yields stack ids ↔ t.Preordered stack.reverse ids                    (yields_iff_preordered)

In a tree that insertions and marks made both end, for every unit. What they go over is the subtree
below it, and the subtree of every unit in there is a run of its own (`InPreorder`).
-/

namespace TemplateBundler.UnitTree

/-! ## The iterator and the recursion -/

/-- Takes a unit off the end of the stack and puts its children there, the first of them last. -/
def pop? (t : UnitTree) (stack : List Nat) : Option (Nat × List Nat) :=
  stack.getLast?.map fun i => (i, stack.dropLast ++ (t.children i).reverse)

/-- The iterator hands out these units, one at each step, and then finds the stack empty. -/
inductive Yields (t : UnitTree) : List Nat → List Nat → Prop
  | ended {stack : List Nat} : t.pop? stack = none → Yields t stack []
  | popped {stack rest ids : List Nat} {i : Nat} : t.pop? stack = some (i, rest) →
      Yields t rest ids → Yields t stack (i :: ids)

/-- The recursive order of the units in a row: the first one, the row of its children, and the other
units of the row. -/
inductive Preordered (t : UnitTree) : List Nat → List Nat → Prop
  | nil : Preordered t [] []
  | cons {i : Nat} {row below rest : List Nat} : Preordered t (t.children i) below →
      Preordered t row rest → Preordered t (i :: row) (i :: (below ++ rest))

variable {t : UnitTree}

theorem pop?_eq_none_iff (stack : List Nat) : t.pop? stack = none ↔ stack = [] := by
  rw [pop?, Option.map_eq_none_iff, List.getLast?_eq_none_iff]

/-- One step: the children come in place of their parent. -/
theorem pop?_concat (stack : List Nat) (i : Nat) :
    t.pop? (stack ++ [i]) = some (i, stack ++ (t.children i).reverse) := by
  rw [pop?, List.getLast?_concat, List.dropLast_concat]
  rfl

/-- A stack with its top in front is a row of units. -/
theorem yields_iff_traverses (stack ids : List Nat) :
    t.Yields stack ids ↔ t.Traverses stack.reverse ids := by
  constructor
  · intro h
    induction h with
    | ended hnone =>
      rw [(pop?_eq_none_iff _).1 hnone]
      exact .done
    | @popped stack rest ids i hpop _ ih =>
      rcases List.eq_nil_or_concat' stack with rfl | ⟨front, j, rfl⟩
      · cases hpop
      · rw [pop?_concat] at hpop
        cases hpop
        rw [List.reverse_append, List.reverse_reverse] at ih
        rw [List.reverse_concat]
        exact .visit ih
  · intro h
    generalize hrow : stack.reverse = row at h
    induction h generalizing stack with
    | done =>
      rw [List.reverse_eq_nil_iff] at hrow
      exact .ended ((pop?_eq_none_iff _).2 hrow)
    | @visit i row ids _ ih =>
      have hstack : stack = row.reverse ++ [i] := by
        rw [← List.reverse_cons, ← hrow, List.reverse_reverse]
      rw [hstack]
      refine .popped (pop?_concat _ _) (ih _ ?_)
      rw [List.reverse_append, List.reverse_reverse, List.reverse_reverse]

/-! ## Rows -/

theorem Preordered.append {row row' ids ids' : List Nat} (h : t.Preordered row ids)
    (h' : t.Preordered row' ids') : t.Preordered (row ++ row') (ids ++ ids') := by
  induction h with
  | nil => exact h'
  | cons hbelow _ _ ih =>
    rw [List.cons_append, List.cons_append, List.append_assoc]
    exact .cons hbelow ih

theorem preordered_append_iff (row row' ids : List Nat) :
    t.Preordered (row ++ row') ids ↔
      ∃ front back, ids = front ++ back ∧ t.Preordered row front ∧ t.Preordered row' back := by
  constructor
  · intro h
    induction row generalizing ids with
    | nil => exact ⟨[], ids, rfl, .nil, h⟩
    | cons i row ih =>
      cases h with
      | @cons _ _ below rest hbelow hrest =>
        obtain ⟨front, back, rfl, hfront, hback⟩ := ih rest hrest
        refine ⟨i :: (below ++ front), back, ?_, .cons hbelow hfront, hback⟩
        rw [List.cons_append, List.append_assoc]
  · rintro ⟨front, back, rfl, hfront, hback⟩
    exact hfront.append hback

/-- What the stack stands for does not change when children come in place of their parent. -/
theorem preordered_cons_iff (i : Nat) (row ids : List Nat) :
    t.Preordered (i :: row) ids ↔
      ∃ rest, ids = i :: rest ∧ t.Preordered (t.children i ++ row) rest := by
  constructor
  · intro h
    cases h with
    | @cons _ _ below rest hbelow hrest => exact ⟨below ++ rest, rfl, hbelow.append hrest⟩
  · rintro ⟨rest, rfl, h⟩
    obtain ⟨below, after, rfl, hbelow, hafter⟩ := (preordered_append_iff _ _ _).1 h
    exact .cons hbelow hafter

theorem traverses_iff_preordered (row ids : List Nat) :
    t.Traverses row ids ↔ t.Preordered row ids := by
  constructor
  · intro h
    induction h with
    | done => exact .nil
    | visit _ ih => exact (preordered_cons_iff _ _ _).2 ⟨_, rfl, ih⟩
  · intro h
    -- a row can get longer on the way, what is left to hand out cannot
    induction ids generalizing row with
    | nil =>
      cases h
      exact .done
    | cons i ids ih =>
      cases row with
      | nil => cases h
      | cons j row =>
        obtain ⟨rest, hids, hrest⟩ := (preordered_cons_iff _ _ _).1 h
        cases hids
        exact .visit (ih _ hrest)

/-- **The iterator keeps to the recursive order**, on any lists of children. -/
theorem yields_iff_preordered (stack ids : List Nat) :
    t.Yields stack ids ↔ t.Preordered stack.reverse ids := by
  rw [yields_iff_traverses, traverses_iff_preordered]

/-! ## Subtrees -/

section Linked
variable (ht : t.Linked)

include ht

theorem Linked.below_lt {i j : Nat} (hi : i < t.units.size) (h : t.Below i j) :
    j < t.units.size := by
  obtain ⟨ns, hns⟩ := (ht.below_iff i j).1 h
  exact ht.follow_lt hi hns

theorem Linked.preordered_iff {i : Nat} (hi : i < t.units.size) (ids : List Nat) :
    t.Preordered [i] ids ↔ ids = t.descendants i := by
  rw [← traverses_iff_preordered, ht.traverses_iff, List.flatMap_singleton,
    ht.descendants_eq_preorder hi]

/-- The order of a subtree stands in one piece in the order of a unit above. -/
theorem Linked.preorder_infix {i j : Nat} (h : t.Below i j) : t.preorder j <:+: t.preorder i := by
  induction h with
  | refl => exact List.infix_refl _
  | @tail p c _ hc ih =>
    have hbelow : t.preorder c <:+: (t.children p).flatMap t.preorder :=
      List.infix_flatMap_of_mem hc t.preorder
    have hparent : t.preorder c <:+: t.preorder p := by
      rw [ht.preorder_eq p]
      exact hbelow.trans (List.suffix_cons _ _).isInfix
    exact hparent.trans ih

theorem Linked.descendants_infix {i j : Nat} (hi : i < t.units.size) (h : t.Below i j) :
    t.descendants j <:+: t.descendants i := by
  rw [ht.descendants_eq_preorder hi, ht.descendants_eq_preorder (ht.below_lt hi h)]
  exact ht.preorder_infix h

/-- A unit comes before all others below it. -/
theorem Linked.pair_sublist {i j k : Nat} (hi : i < t.units.size) (hj : t.Below i j)
    (hk : t.Below j k) (hne : j ≠ k) : [j, k].Sublist (t.descendants i) := by
  have hlt := ht.below_lt hi hj
  have hmem := (ht.mem_descendants_iff_below hlt k).2 hk
  rw [ht.descendants_eq hlt, List.mem_cons] at hmem
  have hrest : [j, k].Sublist (t.descendants j) := by
    rw [ht.descendants_eq hlt]
    exact (List.singleton_sublist.2 (hmem.resolve_left fun e => hne e.symm)).cons_cons j
  exact hrest.trans (ht.descendants_infix hi hj).sublist

end Linked

/-! ## Top theorem -/

/-- How the traversal goes over the units below a unit. -/
structure InPreorder (t : UnitTree) (i : Nat) : Prop where
  /-- The iterator comes to its end, and has handed out these units and no others. -/
  yields_iff : ∀ ids, t.Yields [i] ids ↔ ids = t.descendants i
  /-- The recursion ends too, in the same order: -/
  preordered_iff : ∀ ids, t.Preordered [i] ids ↔ ids = t.descendants i
  /-- a unit, and the orders of its children one after the other. -/
  descendants_eq : ∀ j, t.Below i j → t.descendants j = j :: (t.children j).flatMap t.descendants
  /-- The steps are no more than the units of the tree. -/
  length_le : (t.descendants i).length ≤ t.units.size
  /-- Every unit below is there, and none else, -/
  mem_iff : ∀ j, j ∈ t.descendants i ↔ t.Below i j
  /-- each once, -/
  nodup : (t.descendants i).Nodup
  /-- before all others that are below it, -/
  before : ∀ j k, t.Below i j → t.Below j k → j ≠ k → [j, k].Sublist (t.descendants i)
  /-- and in one piece with them. -/
  together : ∀ j, t.Below i j → t.descendants j <:+: t.descendants i

/-- **The stack gives the recursive order** of every subtree, also of one that nothing leads to any
more. -/
theorem inPreorder_of_made (h : t.Made) {i : Nat} (hi : i < t.units.size) : t.InPreorder i := by
  have ht := h.linked
  refine ⟨fun ids => ?_, ht.preordered_iff hi,
    fun j hj => ht.descendants_eq (ht.below_lt hi hj), ?_,
    ht.mem_descendants_iff_below hi, ?_, fun j k => ht.pair_sublist hi,
    fun j => ht.descendants_infix hi⟩
  · rw [yields_iff_preordered, List.reverse_singleton, ht.preordered_iff hi]
  · rw [ht.descendants_eq_preorder hi]
    exact ht.length_preorder_le hi
  · rw [ht.descendants_eq_preorder hi]
    exact ht.nodup_preorder i

/-- The directory `a` has lost its place to the file `a`; its subtree is gone over all the same. -/
theorem inPreorder_patchedTree :
    Artifact.patchedTree.Made ∧ 1 < Artifact.patchedTree.units.size ∧
      Artifact.patchedTree.InPreorder 1 ∧ Artifact.patchedTree.descendants 1 = [1, 2] :=
  ⟨Artifact.made_patchedTree, by decide +kernel,
    inPreorder_of_made Artifact.made_patchedTree (by decide +kernel), by decide +kernel⟩

end TemplateBundler.UnitTree
