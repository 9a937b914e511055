import Mathlib.Data.List.Induction
import TemplateBundler.Proofs.Arena

/-!
# What key paths see of a tree

A key path sees the units that lists of children lead to, and of these their renderer, their origin
and the names below them (`shown?`). In this view an insertion is an update at one key path: what
stood there is gone with all that was below it, and the parent knows the new name.

    (t.insert p n r o f).1.follow rootId k =
      if k = kp ++ [n] then some t.units.size
      else if kp ++ [n] <+: k then none
      else t.follow rootId k          where t.follow rootId kp = some p         (follow_insert)
-/

namespace TemplateBundler.UnitTree

/-! ## Following names -/

/-- Follows names downwards from a unit. -/
def follow (t : UnitTree) (i : Nat) (ns : List String) : Option Nat :=
  ns.foldlM (fun i n => t.child? i n) i

theorem follow_nil (t : UnitTree) (i : Nat) : t.follow i [] = some i := rfl

theorem follow_append (t : UnitTree) (i : Nat) (ms ns : List String) :
    t.follow i (ms ++ ns) = (t.follow i ms).bind fun j => t.follow j ns := by
  unfold follow
  rw [List.foldlM_append]
  rfl

theorem follow_concat (t : UnitTree) (i : Nat) (ns : List String) (n : String) :
    t.follow i (ns ++ [n]) = (t.follow i ns).bind fun j => t.child? j n := by
  rw [follow_append]
  congr
  funext j
  simp only [follow, List.foldlM_cons, List.foldlM_nil]
  cases t.child? j n <;> rfl

theorem follow_cons (t : UnitTree) (i : Nat) (n : String) (ns : List String) :
    t.follow i (n :: ns) = (t.child? i n).bind fun c => t.follow c ns := by
  rw [← List.singleton_append, follow_append, ← List.nil_append [n], follow_concat, follow_nil,
    Option.bind_some]

theorem resolve_eq (t : UnitTree) (k : KeyPath) : t.resolve k = t.follow rootId k.segments := rfl

theorem Linked.follow_lt {t : UnitTree} (ht : t.Linked) {i j : Nat} {ns : List String}
    (hi : i < t.units.size) (h : t.follow i ns = some j) : j < t.units.size := by
  induction ns using List.reverseRecOn generalizing j with
  | nil =>
    obtain rfl := Option.some.inj h
    exact hi
  | append_singleton ns n _ =>
    rw [follow_concat, Option.bind_eq_some_iff] at h
    obtain ⟨p, -, hc⟩ := h
    exact (ht.child_lt (mem_children_of_child? hc)).2

/-- A unit is reached from the root in one way at most. -/
theorem Linked.follow_inj {t : UnitTree} (ht : t.Linked) {i : Nat} {ms ns : List String}
    (hm : t.follow rootId ms = some i) (hn : t.follow rootId ns = some i) : ms = ns := by
  have hroot : ∀ (ks : List String) (n : String), t.follow rootId (ks ++ [n]) ≠ some rootId := by
    intro ks n h
    rw [follow_concat, Option.bind_eq_some_iff] at h
    obtain ⟨p, -, hc⟩ := h
    have := (ht.child_lt (mem_children_of_child? hc)).1
    exact Nat.not_lt_zero p this
  induction ms using List.reverseRecOn generalizing i ns with
  | nil =>
    obtain rfl := Option.some.inj hm
    rcases List.eq_nil_or_concat' ns with rfl | ⟨ks, n, rfl⟩
    · rfl
    · exact absurd hn (hroot ks n)
  | append_singleton ms m ih =>
    rcases List.eq_nil_or_concat' ns with rfl | ⟨ks, n, rfl⟩
    · obtain rfl := Option.some.inj hn
      exact absurd hm (hroot ms m)
    · rw [follow_concat, Option.bind_eq_some_iff] at hm hn
      obtain ⟨p, hp, hpc⟩ := hm
      obtain ⟨q, hq, hqc⟩ := hn
      have hpq : p = q := Option.some.inj
        ((ht.parent?_of_mem p i (mem_children_of_child? hpc)).symm.trans
          (ht.parent?_of_mem q i (mem_children_of_child? hqc)))
      subst hpq
      rw [ih hp hq, ← name_of_child? hpc, ← name_of_child? hqc]

/-! ## Key paths below a key path -/

theorem not_concat_prefix_self (K : List String) (n : String) : ¬ K ++ [n] <+: K := by
  intro h
  have := h.length_le
  rw [List.length_append, List.length_singleton] at this
  omega

theorem prefix_of_concat {K k : List String} {n : String} (h : K ++ [n] <+: k) : K <+: k :=
  (List.prefix_append K [n]).trans h

theorem concat_prefix_append_cons {K ns : List String} {m n : String}
    (h : K ++ [n] <+: K ++ m :: ns) : n = m := by
  rw [List.prefix_append_right_inj, List.cons_prefix_cons] at h
  exact h.1

/-! ## Insertion as an update -/

theorem Linked.child?_insert {t : UnitTree} (ht : t.Linked) {p : Nat} (hp : p < t.units.size)
    (n : String) (r : Renderer) (o : Origin) (f : Option Time) (i : Nat) (m : String) :
    (t.insert p n r o f).1.child? i m =
      if i = p ∧ m = n then some t.units.size else t.child? i m := by
  have ht' := ht.insert p n r o f
  have hnew : (t.insert p n r o f).1.name t.units.size = n := by rw [name_insert hp, if_pos rfl]
  have hold : ∀ c ∈ t.children i, (t.insert p n r o f).1.name c = t.name c := by
    intro c hc
    rw [name_insert hp, if_neg (Nat.ne_of_lt (ht.child_lt hc).2)]
  by_cases hi : i = p
  · subst hi
    by_cases hm : m = n
    · rw [if_pos ⟨rfl, hm⟩, ht'.child?_eq_some_iff, children_insert hp, if_pos rfl,
        ht.mem_childrenWith]
      exact ⟨Or.inl rfl, hnew.trans hm.symm⟩
    · rw [if_neg (fun h => hm h.2)]
      apply Option.ext
      intro c
      rw [ht'.child?_eq_some_iff, ht.child?_eq_some_iff, children_insert hp, if_pos rfl,
        ht.mem_childrenWith]
      constructor
      · rintro ⟨rfl | ⟨hc, -⟩, hname⟩
        · exact absurd (hname.symm.trans hnew) hm
        · exact ⟨hc, (hold c hc).symm.trans hname⟩
      · rintro ⟨hc, hname⟩
        exact ⟨Or.inr ⟨hc, fun e => hm (hname.symm.trans e)⟩, (hold c hc).trans hname⟩
  · rw [if_neg (fun h => hi h.1)]
    apply Option.ext
    intro c
    rw [ht'.child?_eq_some_iff, ht.child?_eq_some_iff, children_insert hp, if_neg hi]
    constructor
    · rintro ⟨hc, hname⟩
      exact ⟨hc, (hold c hc).symm.trans hname⟩
    · rintro ⟨hc, hname⟩
      exact ⟨hc, (hold c hc).trans hname⟩

theorem Linked.child?_size {t : UnitTree} (ht : t.Linked) (n : String) :
    t.child? t.units.size n = none := by
  cases h : t.child? t.units.size n with
  | none => rfl
  | some c => exact absurd (ht.parent_lt_size (mem_children_of_child? h)) (Nat.lt_irrefl _)

section Insert
variable {t : UnitTree} (ht : t.Linked) {p : Nat} {kp : List String}
  (hp : t.follow rootId kp = some p) (n : String) (r : Renderer) (o : Origin) (f : Option Time)

include ht hp

theorem Linked.follow_insert (k : List String) :
    (t.insert p n r o f).1.follow rootId k =
      if k = kp ++ [n] then some t.units.size
      else if kp ++ [n] <+: k then none
      else t.follow rootId k := by
  have hlt := ht.follow_lt ht.root_lt hp
  induction k using List.reverseRecOn with
  | nil =>
    rw [if_neg (by simp), if_neg (by simp)]
    rfl
  | append_singleton k m ih =>
    rw [follow_concat, ih, follow_concat]
    by_cases hk : k = kp ++ [n]
    · -- below the new unit there is nothing yet
      subst hk
      rw [if_pos rfl, if_neg (by simp), if_pos (List.prefix_append _ _), Option.bind_some,
        ht.child?_insert hlt, if_neg (fun h => Nat.ne_of_gt hlt h.1), ht.child?_size]
    · rw [if_neg hk]
      by_cases hpre : kp ++ [n] <+: k
      · have hne : k ++ [m] ≠ kp ++ [n] := by
          intro e
          have := hpre.length_le
          rw [← e, List.length_append, List.length_singleton] at this
          omega
        rw [if_pos hpre, if_neg hne, if_pos (hpre.trans (List.prefix_append _ _))]
        rfl
      · have hpre' : kp ++ [n] <+: k ++ [m] → k ++ [m] = kp ++ [n] := by
          intro h
          rcases List.prefix_concat_iff.1 h with h | h
          · exact h.symm
          · exact absurd h hpre
        rw [if_neg hpre]
        by_cases he : k ++ [m] = kp ++ [n]
        · obtain ⟨rfl, hmn⟩ := List.append_inj' he rfl
          obtain rfl := List.singleton_inj.1 hmn
          rw [if_pos rfl, hp, Option.bind_some, ht.child?_insert hlt, if_pos ⟨rfl, rfl⟩]
        · rw [if_neg he, if_neg (fun h => he (hpre' h))]
          cases hj : t.follow rootId k with
          | none => rfl
          | some j =>
            rw [Option.bind_some, Option.bind_some, ht.child?_insert hlt, if_neg]
            rintro ⟨rfl, rfl⟩
            exact he (by rw [ht.follow_inj hj hp])

end Insert

/-! ## What is shown at a key path -/

/-- What a unit shows to those who come by a key path; its freshness left out. -/
structure Shown where
  renderer : Renderer
  origin : Origin
  names : List String

def shownOf? (t : UnitTree) (i : Nat) : Option Shown :=
  (t.unit? i).map fun u => ⟨u.renderer, u.origin, t.names i⟩

def shown? (t : UnitTree) (k : List String) : Option Shown := (t.follow rootId k).bind t.shownOf?

theorem Linked.isSome_shown? {t : UnitTree} (ht : t.Linked) (k : List String) :
    (t.shown? k).isSome = (t.follow rootId k).isSome := by
  unfold shown?
  cases hi : t.follow rootId k with
  | none => rfl
  | some i =>
    obtain ⟨u, hu⟩ := unit?_isSome (ht.follow_lt ht.root_lt hi)
    rw [Option.bind_some, shownOf?, hu]
    rfl

theorem Linked.shownOf?_insert {t : UnitTree} (ht : t.Linked) {p : Nat} (hp : p < t.units.size)
    (n : String) (r : Renderer) (o : Origin) (f : Option Time) (i : Nat) :
    (t.insert p n r o f).1.shownOf? i =
      if i = t.units.size then some ⟨r, o, []⟩
      else if i = p then (t.shownOf? p).map fun s => { s with names := addName s.names n }
      else t.shownOf? i := by
  unfold shownOf?
  rw [unit?_insert hp, ht.names_insert hp]
  by_cases hi : i = t.units.size
  · have hnil : t.names i = [] := by
      rw [names, children_eq_nil (Nat.le_of_eq hi.symm), List.map_nil]
    rw [if_pos hi, if_pos hi, if_neg (by omega), hnil]
    rfl
  · rw [if_neg hi, if_neg hi]
    by_cases hip : i = p
    · subst hip
      rw [if_pos rfl, if_pos rfl, if_pos rfl]
      cases t.unit? i <;> rfl
    · rw [if_neg hip, if_neg hip, if_neg hip]

/-- **An insertion is an update at one key path.** -/
theorem Linked.shown?_insert {t : UnitTree} (ht : t.Linked) {p : Nat} {kp : List String}
    (hp : t.follow rootId kp = some p) (n : String) (r : Renderer) (o : Origin) (f : Option Time)
    (k : List String) :
    (t.insert p n r o f).1.shown? k =
      if k = kp ++ [n] then some ⟨r, o, []⟩
      else if kp ++ [n] <+: k then none
      else if k = kp then (t.shown? kp).map fun s => { s with names := addName s.names n }
      else t.shown? k := by
  have hlt := ht.follow_lt ht.root_lt hp
  unfold shown?
  rw [ht.follow_insert hp]
  by_cases hk : k = kp ++ [n]
  · rw [if_pos hk, if_pos hk, Option.bind_some, ht.shownOf?_insert hlt, if_pos rfl]
  · rw [if_neg hk, if_neg hk]
    by_cases hpre : kp ++ [n] <+: k
    · rw [if_pos hpre, if_pos hpre]
      rfl
    · rw [if_neg hpre, if_neg hpre]
      cases hi : t.follow rootId k with
      | none =>
        rw [if_neg (by rintro rfl; rw [hp] at hi; cases hi)]
        rfl
      | some i =>
        have hne : i ≠ t.units.size := Nat.ne_of_lt (ht.follow_lt ht.root_lt hi)
        rw [Option.bind_some, ht.shownOf?_insert hlt, if_neg hne]
        by_cases hkp : k = kp
        · subst hkp
          obtain rfl := Option.some.inj (hi.symm.trans hp)
          rw [if_pos rfl, if_pos rfl, hp]
          rfl
        · rw [if_neg (fun e => hkp (ht.follow_inj (hi.trans (congrArg some e)) hp)), if_neg hkp]
          rfl

section Congr
variable {t t' : UnitTree} (h : ∀ i, t'.face? i = t.face? i)

include h

theorem child?_congr (i : Nat) (n : String) : t'.child? i n = t.child? i n := by
  unfold child?
  rw [children_congr (h i)]
  congr
  funext c
  rw [name_congr (h c)]

theorem follow_congr (i : Nat) (ns : List String) : t'.follow i ns = t.follow i ns := by
  unfold follow
  congr
  funext j n
  exact child?_congr h j n

theorem shown?_congr (k : List String) : t'.shown? k = t.shown? k := by
  have hf : ∀ (s : UnitTree) (i : Nat), s.shownOf? i =
      (s.face? i).map fun u => ⟨u.renderer, u.origin, s.names i⟩ := by
    intro s i
    unfold shownOf? face?
    cases s.unit? i <;> rfl
  have hof : t'.shownOf? = t.shownOf? := by
    funext i
    rw [hf, hf, h i, names_congr h]
  unfold shown?
  rw [follow_congr h, hof]

end Congr

end TemplateBundler.UnitTree
