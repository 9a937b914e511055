import TemplateBundler.Proofs.Bindings

/-!
# What lies below a unit

The view from a unit is what names show from there on, without regard to where units stand in their
arrays. Two units of the same view, be it in two trees, have the same artifact: the lines come in
the order of the names, and each of them says a way down and the code at its end.

    (∀ ns, t.view i ns = t'.view i' ns) → script t i global = script t' i' global
                                                                              (script_eq_of_view)
-/

namespace TemplateBundler.UnitTree

/-! ## Ways down -/

/-- What names show from a unit on. -/
def view (t : UnitTree) (i : Nat) (ns : List String) : Option Shown :=
  (t.follow i ns).bind t.shownOf?

theorem view_eq_shown? {t : UnitTree} {k : List String} {i : Nat}
    (hi : t.follow rootId k = some i) (ns : List String) : t.view i ns = t.shown? (k ++ ns) := by
  rw [view, shown?, follow_append, hi, Option.bind_some]

theorem Linked.lt_of_follow {t : UnitTree} (ht : t.Linked) {i j : Nat} {ns : List String}
    (h : t.follow i ns = some j) (hns : ns ≠ []) : i < j := by
  obtain ⟨ms, n, rfl⟩ := (List.eq_nil_or_concat' ns).resolve_left hns
  rw [follow_concat, Option.bind_eq_some_iff] at h
  obtain ⟨p, hp, hc⟩ := h
  exact Nat.lt_of_le_of_lt (le_of_mem_lineage (mem_lineage_of_follow ht hp))
    (ht.child_lt (mem_children_of_child? hc)).1

section Two
variable {t t' : UnitTree} (ht : t.Linked) (ht' : t'.Linked)

theorem names_eq_of_shownOf? {i i' : Nat} (hi : i < t.units.size) (hi' : i' < t'.units.size)
    (h : t.shownOf? i = t'.shownOf? i') : t.names i = t'.names i' := by
  obtain ⟨u, hu⟩ := unit?_isSome hi
  obtain ⟨u', hu'⟩ := unit?_isSome hi'
  simp only [shownOf?, hu, hu', Option.map_some, Option.some.injEq, Shown.mk.injEq] at h
  exact h.2.2

theorem code_eq_of_shownOf? {i i' : Nat} (h : t.shownOf? i = t'.shownOf? i') :
    Artifact.codeOf t i = Artifact.codeOf t' i' := by
  have hf : ∀ (s : UnitTree) (j : Nat), Artifact.codeOf s j =
      ((s.shownOf? j).map fun shown => shown.renderer.code).getD "" := by
    intro s j
    unfold Artifact.codeOf shownOf?
    cases s.unit? j <;> rfl
  rw [hf, hf, h]

/-- The same names lead to both units. -/
def Meet (t t' : UnitTree) (i i' j j' : Nat) : Prop :=
  ∃ ns, t.follow i ns = some j ∧ t'.follow i' ns = some j'

include ht ht'

theorem meet_children {i i' j j' : Nat} (hmeet : Meet t t' i i' j j')
    (hnames : t.names j = t'.names j') :
    List.Forall₂ (fun c c' => c ∈ t.children j ∧ c' ∈ t'.children j' ∧ Meet t t' i i' c c')
      (t.children j) (t'.children j') := by
  obtain ⟨ns, hj, hj'⟩ := hmeet
  have hpairs : List.Forall₂ (fun c c' => t.name c = t'.name c') (t.children j) (t'.children j') :=
    List.forall₂_map_left_iff.1 (List.forall₂_map_right_iff.1 (List.forall₂_eq_eq_eq ▸ hnames))
  refine (List.forall₂_iff_zip.2 ⟨hpairs.length_eq, fun {c c'} hzip => ?_⟩)
  have hc := (List.of_mem_zip hzip).1
  have hc' := (List.of_mem_zip hzip).2
  have hname := (List.forall₂_iff_zip.1 hpairs).2 hzip
  refine ⟨hc, hc', ns ++ [t.name c], ?_, ?_⟩
  · rw [follow_concat, hj, Option.bind_some, ht.child?_eq_some_iff]
    exact ⟨hc, rfl⟩
  · rw [follow_concat, hj', Option.bind_some, ht'.child?_eq_some_iff]
    exact ⟨hc', hname.symm⟩

/-- Units that the same names lead to come in the same order. -/
theorem meet_preorder {i i' : Nat} (hi : i < t.units.size) (hi' : i' < t'.units.size)
    (h : ∀ ns, t.view i ns = t'.view i' ns) {j j' : Nat} (hmeet : Meet t t' i i' j j') :
    List.Forall₂ (Meet t t' i i') (t.preorder j) (t'.preorder j') := by
  generalize hn : t.units.size - j = n
  induction n using Nat.strongRecOn generalizing j j' with
  | _ n ih =>
    obtain ⟨ns, hj, hj'⟩ := id hmeet
    have hshown := h ns
    rw [view, view, hj, hj', Option.bind_some, Option.bind_some] at hshown
    have hnames := names_eq_of_shownOf? (ht.follow_lt hi hj) (ht'.follow_lt hi' hj') hshown
    rw [ht.preorder_eq, ht'.preorder_eq]
    refine .cons hmeet (List.rel_flatMap (meet_children ht ht' hmeet hnames) ?_)
    rintro c c' ⟨hc, -, hcc⟩
    have := ht.child_lt hc
    exact ih (t.units.size - c) (by omega) hcc rfl

/-- **One view, one artifact.** -/
theorem script_eq_of_view {i i' : Nat} (hi : i < t.units.size) (hi' : i' < t'.units.size)
    (h : ∀ ns, t.view i ns = t'.view i' ns) (global : String) :
    Artifact.script t i global = Artifact.script t' i' global := by
  have horder := meet_preorder ht ht' hi hi' h ⟨[], rfl, rfl⟩
  have hlines : Artifact.bindings t i = Artifact.bindings t' i' := by
    unfold Artifact.bindings
    rw [ht.descendants_eq_preorder hi, ht'.descendants_eq_preorder hi', ← List.forall₂_eq_eq_eq,
      List.forall₂_map_left_iff, List.forall₂_map_right_iff]
    refine horder.imp fun {j j'} hmeet => ?_
    obtain ⟨ns, hj, hj'⟩ := hmeet
    have hshown := h ns
    rw [view, view, hj, hj', Option.bind_some, Option.bind_some] at hshown
    rw [Artifact.binding, Artifact.binding, Artifact.target, Artifact.target,
      Artifact.namesBelow_of_follow ht hj, Artifact.namesBelow_of_follow ht' hj',
      code_eq_of_shownOf? hshown]
  rw [Artifact.script, Artifact.script, hlines]

end Two

end TemplateBundler.UnitTree
