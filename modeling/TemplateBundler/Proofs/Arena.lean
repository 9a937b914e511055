import Mathlib.Data.List.Nodup
import TemplateBundler.Tree.Freshness

/-!
# The array of units is a tree

Parent links and lists of children are kept apart, and a replaced unit stays in the array. `Linked`
says how they agree: a child knows its parent, the children of a unit have different names, and the
name of every unit stands in its parent's list, whether it is still that unit's own place or has
been given to another one. Inserting and marking keep this (`Linked.insert`, `Linked.mark`).

    unit? (t.insert p n r o f).1 i =
      if i = t.units.size then some ⟨n, r, o, f, some p, []⟩
      else if i = p then (t.unit? p).map (with children t.childrenWith p n t.units.size)
      else t.unit? i                                                             (unit?_insert)
-/

namespace TemplateBundler.UnitTree

/-- The names of the children of a unit, in order. -/
def names (t : UnitTree) (i : Nat) : List String := (t.children i).map t.name

/-- Parents and children agree. -/
structure Linked (t : UnitTree) : Prop where
  root_lt : rootId < t.units.size
  parent?_root : t.parent? rootId = none
  parent?_isSome : ∀ i, i ≠ rootId → i < t.units.size → (t.parent? i).isSome
  parent?_of_mem : ∀ p c, c ∈ t.children p → t.parent? c = some p
  names_nodup : ∀ p, (t.names p).Nodup
  name_mem : ∀ c p, t.parent? c = some p → t.name c ∈ t.names p

/-! ## Views of a unit that is not there -/

theorem unit?_lt {t : UnitTree} {i : Nat} {u : TemplateUnit} (h : t.unit? i = some u) :
    i < t.units.size :=
  (Array.getElem?_eq_some_iff.1 h).1

theorem unit?_eq_none {t : UnitTree} {i : Nat} (h : t.units.size ≤ i) : t.unit? i = none :=
  Array.getElem?_eq_none h

theorem unit?_isSome {t : UnitTree} {i : Nat} (h : i < t.units.size) : ∃ u, t.unit? i = some u :=
  ⟨_, Array.getElem?_eq_getElem h⟩

theorem children_eq_nil {t : UnitTree} {i : Nat} (h : t.units.size ≤ i) : t.children i = [] := by
  simp only [children, unit?_eq_none h]

theorem lt_of_parent? {t : UnitTree} {i p : Nat} (h : t.parent? i = some p) : i < t.units.size := by
  simp only [parent?, Option.bind_eq_some_iff] at h
  obtain ⟨u, hu, -⟩ := h
  exact unit?_lt hu

/-! ## Changing one unit -/

theorem unit?_modify (t : UnitTree) (i : Nat) (f : TemplateUnit → TemplateUnit)
    (hf : ∀ u, (f u).parent = u.parent) (j : Nat) :
    (t.modify i f hf).unit? j = if i = j then (t.unit? j).map f else t.unit? j := by
  simp only [modify, unit?, Array.getElem?_modify]

theorem unit?_push (t : UnitTree) (u : TemplateUnit) (h : ∀ p, u.parent = some p → p < t.units.size)
    (i : Nat) : (t.push u h).unit? i = if i = t.units.size then some u else t.unit? i := by
  simp only [push, unit?, Array.getElem?_push]

theorem unit?_setOwn (t : UnitTree) (i : Nat) (time : Time) (j : Nat) :
    (t.setOwn i time).unit? j =
      if i = j then (t.unit? j).map fun u => { u with freshness := some time } else t.unit? j := by
  unfold setOwn
  rw [unit?_modify]

theorem unit?_insert {t : UnitTree} {p : Nat} (hp : p < t.units.size) (n : String) (r : Renderer)
    (o : Origin) (f : Option Time) (i : Nat) :
    (t.insert p n r o f).1.unit? i =
      if i = t.units.size then some ⟨n, r, o, f, some p, []⟩
      else if i = p then
        (t.unit? p).map fun u => { u with children := t.childrenWith p n t.units.size }
      else t.unit? i := by
  simp only [insert, dif_pos hp, setChildren, unit?_modify, unit?_push]
  by_cases hi : i = t.units.size
  · rw [if_pos hi, if_pos hi, if_neg (by omega)]
  · rw [if_neg hi, if_neg hi]
    by_cases hip : i = p
    · subst hip
      rw [if_pos rfl]
    · rw [if_neg hip, if_neg (Ne.symm hip)]

theorem insert_of_ge {t : UnitTree} {p : Nat} (hp : t.units.size ≤ p) (n : String) (r : Renderer)
    (o : Origin) (f : Option Time) : t.insert p n r o f = (t, t.units.size) := by
  simp only [insert, dif_neg (Nat.not_lt.2 hp)]

theorem size_insert {t : UnitTree} {p : Nat} (hp : p < t.units.size) (n : String) (r : Renderer)
    (o : Origin) (f : Option Time) : (t.insert p n r o f).1.units.size = t.units.size + 1 := by
  simp only [insert, dif_pos hp, setChildren, modify, push, Array.size_modify, Array.size_push]

/-! ## What an insertion shows -/

section Insert
variable {t : UnitTree} {p : Nat} (hp : p < t.units.size) (n : String) (r : Renderer) (o : Origin)
  (f : Option Time)

include hp

theorem parent?_insert (i : Nat) :
    (t.insert p n r o f).1.parent? i = if i = t.units.size then some p else t.parent? i := by
  simp only [parent?, unit?_insert hp]
  by_cases hi : i = t.units.size
  · rw [if_pos hi, if_pos hi]
    rfl
  · rw [if_neg hi, if_neg hi]
    split
    · next hip =>
      subst hip
      cases t.unit? i <;> rfl
    · rfl

theorem name_insert (i : Nat) :
    (t.insert p n r o f).1.name i = if i = t.units.size then n else t.name i := by
  simp only [name, unit?_insert hp]
  by_cases hi : i = t.units.size
  · rw [if_pos hi, if_pos hi]
  · rw [if_neg hi, if_neg hi]
    by_cases hip : i = p
    · subst hip
      rw [if_pos rfl]
      cases t.unit? i <;> rfl
    · rw [if_neg hip]

theorem own?_insert (i : Nat) :
    (t.insert p n r o f).1.own? i = if i = t.units.size then f else t.own? i := by
  simp only [own?, unit?_insert hp]
  by_cases hi : i = t.units.size
  · rw [if_pos hi, if_pos hi]
    rfl
  · rw [if_neg hi, if_neg hi]
    split
    · next hip =>
      subst hip
      cases t.unit? i <;> rfl
    · rfl

theorem children_insert (i : Nat) :
    (t.insert p n r o f).1.children i =
      if i = p then t.childrenWith p n t.units.size else t.children i := by
  obtain ⟨u, hu⟩ := unit?_isSome hp
  by_cases hip : i = p
  · subst hip
    simp only [children, unit?_insert hp, if_neg (Nat.ne_of_lt hp), if_pos, hu, Option.map_some]
  · simp only [children, unit?_insert hp, if_neg hip]
    by_cases hi : i = t.units.size
    · rw [if_pos hi, unit?_eq_none (by omega)]
    · rw [if_neg hi]

end Insert

/-! ## The children of a name -/

theorem mem_children_of_child? {t : UnitTree} {p c : Nat} {n : String}
    (h : t.child? p n = some c) : c ∈ t.children p :=
  List.mem_of_find?_eq_some h

theorem name_of_child? {t : UnitTree} {p c : Nat} {n : String} (h : t.child? p n = some c) :
    t.name c = n := by
  simpa using List.find?_some h

theorem child?_eq_none_iff (t : UnitTree) (p : Nat) (n : String) :
    t.child? p n = none ↔ n ∉ t.names p := by
  unfold child? names
  rw [List.find?_eq_none]
  simp only [beq_iff_eq, List.mem_map, not_exists, not_and]

theorem Linked.child?_eq_some_iff {t : UnitTree} (ht : t.Linked) (p c : Nat) (n : String) :
    t.child? p n = some c ↔ c ∈ t.children p ∧ t.name c = n := by
  constructor
  · intro h
    exact ⟨mem_children_of_child? h, name_of_child? h⟩
  · rintro ⟨hc, hn⟩
    cases hq : t.child? p n with
    | none =>
      rw [child?_eq_none_iff] at hq
      exact absurd (hn ▸ List.mem_map_of_mem hc) hq
    | some d =>
      have hd := name_of_child? hq
      have hname := hn.trans hd.symm
      rw [List.inj_on_of_nodup_map (ht.names_nodup p) hc (mem_children_of_child? hq) hname]

theorem Linked.child_lt {t : UnitTree} (ht : t.Linked) {p c : Nat} (h : c ∈ t.children p) :
    p < c ∧ c < t.units.size :=
  ⟨parent?_lt (ht.parent?_of_mem p c h), lt_of_parent? (ht.parent?_of_mem p c h)⟩

theorem Linked.parent_lt_size {t : UnitTree} (ht : t.Linked) {p c : Nat} (h : c ∈ t.children p) :
    p < t.units.size := by
  have := ht.child_lt h
  omega

/-! ## The list of children with a new one -/

/-- A list of names, the new one at its place if it is there already and last if it is not. -/
def addName (names : List String) (n : String) : List String :=
  if n ∈ names then names else names ++ [n]

theorem map_replaceFirst {α : Type} (f : Nat → α) {old new : Nat} (h : f new = f old)
    (cs : List Nat) : (replaceFirst old new cs).map f = cs.map f := by
  induction cs with
  | nil => rfl
  | cons c cs ih =>
    simp only [replaceFirst]
    split
    · next hc => rw [List.map_cons, List.map_cons, h, hc]
    · rw [List.map_cons, List.map_cons, ih]

theorem mem_replaceFirst {old new c : Nat} {cs : List Nat} (hnd : cs.Nodup) (hold : old ∈ cs) :
    c ∈ replaceFirst old new cs ↔ c = new ∨ c ∈ cs ∧ c ≠ old := by
  induction cs with
  | nil => cases hold
  | cons d cs ih =>
    rw [List.nodup_cons] at hnd
    simp only [replaceFirst]
    split
    · next hd =>
      subst hd
      rw [List.mem_cons, List.mem_cons]
      constructor
      · rintro (h | h)
        · exact Or.inl h
        · exact Or.inr ⟨Or.inr h, fun e => hnd.1 (e ▸ h)⟩
      · rintro (h | ⟨h | h, hne⟩)
        · exact Or.inl h
        · exact absurd h hne
        · exact Or.inr h
    · next hd =>
      have hold' : old ∈ cs := (List.mem_cons.1 hold).resolve_left (fun e => hd e.symm)
      rw [List.mem_cons, List.mem_cons, ih hnd.2 hold']
      constructor
      · rintro (rfl | h | ⟨h, hne⟩)
        · exact Or.inr ⟨Or.inl rfl, hd⟩
        · exact Or.inl h
        · exact Or.inr ⟨Or.inr h, hne⟩
      · rintro (h | ⟨h | h, hne⟩)
        · exact Or.inr (Or.inl h)
        · exact Or.inl h
        · exact Or.inr (Or.inr ⟨h, hne⟩)

theorem Linked.children_nodup {t : UnitTree} (ht : t.Linked) (p : Nat) : (t.children p).Nodup :=
  (ht.names_nodup p).of_map _

theorem Linked.mem_childrenWith {t : UnitTree} (ht : t.Linked) (p : Nat) (n : String) (id c : Nat) :
    c ∈ t.childrenWith p n id ↔ c = id ∨ c ∈ t.children p ∧ t.name c ≠ n := by
  unfold childrenWith
  cases hq : t.child? p n with
  | none =>
    rw [child?_eq_none_iff] at hq
    simp only [List.mem_append, List.mem_singleton]
    constructor
    · rintro (h | h)
      · exact Or.inr ⟨h, fun e => hq (e ▸ List.mem_map_of_mem h)⟩
      · exact Or.inl h
    · rintro (h | ⟨h, -⟩)
      · exact Or.inr h
      · exact Or.inl h
  | some old =>
    have hold := mem_children_of_child? hq
    have hname := name_of_child? hq
    simp only [mem_replaceFirst (ht.children_nodup p) hold]
    constructor
    · rintro (h | ⟨h, hne⟩)
      · exact Or.inl h
      · exact Or.inr ⟨h, fun e =>
          hne (List.inj_on_of_nodup_map (ht.names_nodup p) h hold (e.trans hname.symm))⟩
    · rintro (h | ⟨h, hne⟩)
      · exact Or.inl h
      · exact Or.inr ⟨h, fun e => hne (e ▸ hname)⟩

/-- The names below the parent after an insertion. -/
theorem map_name_childrenWith {t : UnitTree} (p : Nat) (n : String) (id : Nat)
    (name' : Nat → String)
    (hid : name' id = n) (hold : ∀ c ∈ t.children p, name' c = t.name c) :
    (t.childrenWith p n id).map name' = addName (t.names p) n := by
  have hmap : (t.children p).map name' = t.names p := List.map_congr_left hold
  unfold childrenWith addName
  cases hq : t.child? p n with
  | none =>
    rw [if_neg ((child?_eq_none_iff t p n).1 hq)]
    simp only [List.map_append, List.map_cons, List.map_nil, hid, hmap]
  | some old =>
    have hmem := mem_children_of_child? hq
    have hname := name_of_child? hq
    rw [if_pos (hname ▸ List.mem_map_of_mem hmem)]
    have hold' : name' id = name' old := by rw [hid, hold old hmem, hname]
    simp only [map_replaceFirst name' hold', hmap]

theorem nodup_addName {names : List String} (h : names.Nodup) (n : String) :
    (addName names n).Nodup := by
  unfold addName
  split
  · exact h
  · next hn =>
    rw [List.nodup_append]
    exact ⟨h, by simp, fun a ha b hb e => hn (by simp_all)⟩

theorem mem_addName (names : List String) (m n : String) :
    m ∈ addName names n ↔ m ∈ names ∨ m = n := by
  unfold addName
  split
  · next hn =>
    constructor
    · exact Or.inl
    · rintro (h | rfl)
      · exact h
      · exact hn
  · rw [List.mem_append, List.mem_singleton]

/-! ## Marks change times only -/

/-- A unit without its freshness. -/
def face? (t : UnitTree) (i : Nat) : Option TemplateUnit :=
  (t.unit? i).map fun u => { u with freshness := none }

theorem face?_setOwn (t : UnitTree) (i : Nat) (time : Time) (j : Nat) :
    (t.setOwn i time).face? j = t.face? j := by
  unfold face?
  rw [unit?_setOwn]
  split
  · cases t.unit? j <;> rfl
  · rfl

theorem face?_raise (time : Time) (t : UnitTree) (ids : List Nat) (j : Nat) :
    (raise time t ids).face? j = t.face? j := by
  induction ids generalizing t with
  | nil => rfl
  | cons a as ih =>
    simp only [raise]
    split
    · split
      · rfl
      · rw [ih, face?_setOwn]
    · rw [ih]
      split
      · rw [face?_setOwn]
      · rfl

theorem face?_mark (t : UnitTree) (i : Nat) (time : Time) (j : Nat) :
    (t.mark i time).face? j = t.face? j := by
  unfold mark
  rw [face?_raise, face?_setOwn]

theorem parent?_congr {t t' : UnitTree} {i : Nat} (h : t'.face? i = t.face? i) :
    t'.parent? i = t.parent? i := by
  have hf : ∀ s : UnitTree, s.parent? i = (s.face? i).bind TemplateUnit.parent := by
    intro s
    unfold face? parent?
    cases s.unit? i <;> rfl
  rw [hf, hf, h]

theorem children_congr {t t' : UnitTree} {i : Nat} (h : t'.face? i = t.face? i) :
    t'.children i = t.children i := by
  have hf : ∀ s : UnitTree, s.children i = ((s.face? i).map TemplateUnit.children).getD [] := by
    intro s
    unfold face? children
    cases s.unit? i <;> rfl
  rw [hf, hf, h]

theorem name_congr {t t' : UnitTree} {i : Nat} (h : t'.face? i = t.face? i) :
    t'.name i = t.name i := by
  have hf : ∀ s : UnitTree, s.name i = ((s.face? i).map TemplateUnit.name).getD "" := by
    intro s
    unfold face? name
    cases s.unit? i <;> rfl
  rw [hf, hf, h]

theorem names_congr {t t' : UnitTree} (h : ∀ i, t'.face? i = t.face? i) (i : Nat) :
    t'.names i = t.names i := by
  unfold names
  rw [children_congr (h i)]
  exact List.map_congr_left fun c _ => name_congr (h c)

theorem size_setOwn (t : UnitTree) (i : Nat) (time : Time) :
    (t.setOwn i time).units.size = t.units.size := by
  simp only [setOwn, modify, Array.size_modify]

theorem size_raise (time : Time) (t : UnitTree) (ids : List Nat) :
    (raise time t ids).units.size = t.units.size := by
  induction ids generalizing t with
  | nil => rfl
  | cons a as ih =>
    simp only [raise]
    split
    · split
      · rfl
      · rw [ih, size_setOwn]
    · rw [ih]
      split
      · rw [size_setOwn]
      · rfl

theorem size_mark (t : UnitTree) (i : Nat) (time : Time) :
    (t.mark i time).units.size = t.units.size := by
  unfold mark
  rw [size_raise, size_setOwn]

/-! ## Building keeps the links -/

theorem Linked.of_face? {t t' : UnitTree} (ht : t.Linked) (hs : t'.units.size = t.units.size)
    (h : ∀ i, t'.face? i = t.face? i) : t'.Linked := by
  refine ⟨by rw [hs]; exact ht.root_lt, ?_, fun i h0 hi => ?_, fun p c hc => ?_, fun p => ?_,
    fun c p hp => ?_⟩
  · rw [parent?_congr (h rootId)]
    exact ht.parent?_root
  · rw [parent?_congr (h i)]
    exact ht.parent?_isSome i h0 (hs ▸ hi)
  · rw [children_congr (h p)] at hc
    rw [parent?_congr (h c)]
    exact ht.parent?_of_mem p c hc
  · rw [names_congr h]
    exact ht.names_nodup p
  · rw [parent?_congr (h c)] at hp
    rw [names_congr h, name_congr (h c)]
    exact ht.name_mem c p hp

theorem Linked.mark {t : UnitTree} (ht : t.Linked) (i : Nat) (time : Time) :
    (t.mark i time).Linked :=
  ht.of_face? (size_mark t i time) (face?_mark t i time)

theorem parent?_ofRoot (r : Renderer) (o : Origin) (f : Option Time) (now : Time) (i : Nat) :
    (ofRoot r o f now).parent? i = none := by
  cases i <;> rfl

theorem linked_ofRoot (r : Renderer) (o : Origin) (f : Option Time) (now : Time) :
    (ofRoot r o f now).Linked := by
  have hparent := parent?_ofRoot r o f now
  have hchildren : ∀ i, (ofRoot r o f now).children i = [] := by
    intro i
    cases i <;> rfl
  refine ⟨Nat.zero_lt_one, hparent rootId, fun i h0 hi => ?_, fun p c hc => ?_, fun p => ?_,
    fun c p hp => ?_⟩
  · exact absurd (Nat.lt_one_iff.1 hi) h0
  · rw [hchildren] at hc
    cases hc
  · rw [names, hchildren]
    exact List.nodup_nil
  · rw [hparent] at hp
    cases hp

theorem Linked.names_insert {t : UnitTree} (ht : t.Linked) {p : Nat} (hp : p < t.units.size)
    (n : String) (r : Renderer) (o : Origin) (f : Option Time) (i : Nat) :
    (t.insert p n r o f).1.names i = if i = p then addName (t.names p) n else t.names i := by
  have hold : ∀ c ∈ t.children i, (t.insert p n r o f).1.name c = t.name c := by
    intro c hc
    rw [name_insert hp, if_neg (Nat.ne_of_lt (ht.child_lt hc).2)]
  rw [names, children_insert hp]
  split
  · next hi =>
    subst hi
    exact map_name_childrenWith _ _ _ _ (by rw [name_insert hp, if_pos rfl]) hold
  · exact List.map_congr_left hold

theorem Linked.insert {t : UnitTree} (ht : t.Linked) (p : Nat) (n : String) (r : Renderer)
    (o : Origin) (f : Option Time) : (t.insert p n r o f).1.Linked := by
  by_cases hp : p < t.units.size
  case neg =>
    rw [insert_of_ge (Nat.le_of_not_lt hp)]
    exact ht
  have hsize := size_insert hp n r o f
  refine ⟨by have := ht.root_lt; omega, ?_, fun i h0 hi => ?_, fun q c hc => ?_, fun q => ?_,
    fun c q hq => ?_⟩
  · rw [parent?_insert hp, if_neg (Nat.ne_of_lt ht.root_lt)]
    exact ht.parent?_root
  · rw [parent?_insert hp]
    split
    · rfl
    · exact ht.parent?_isSome i h0 (by omega)
  · rw [children_insert hp] at hc
    rw [parent?_insert hp]
    split at hc
    · next hqp =>
      subst hqp
      rcases (ht.mem_childrenWith _ _ _ _).1 hc with rfl | ⟨hc, -⟩
      · rw [if_pos rfl]
      · rw [if_neg (Nat.ne_of_lt (ht.child_lt hc).2)]
        exact ht.parent?_of_mem _ _ hc
    · rw [if_neg (Nat.ne_of_lt (ht.child_lt hc).2)]
      exact ht.parent?_of_mem _ _ hc
  · rw [ht.names_insert hp]
    split
    · exact nodup_addName (ht.names_nodup p) n
    · exact ht.names_nodup q
  · rw [parent?_insert hp] at hq
    rw [ht.names_insert hp, name_insert hp]
    split at hq
    · next hc =>
      obtain rfl := Option.some.inj hq
      rw [if_pos hc, if_pos rfl, mem_addName]
      exact Or.inr rfl
    · next hc =>
      have hmem := ht.name_mem c q hq
      rw [if_neg hc]
      split
      · next hqp =>
        subst hqp
        rw [mem_addName]
        exact Or.inl hmem
      · exact hmem

end TemplateBundler.UnitTree
