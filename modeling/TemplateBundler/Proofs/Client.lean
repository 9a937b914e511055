import TemplateBundler.Proofs.Decoding
import TemplateBundler.Proofs.Freshness
import TemplateBundler.Proofs.Together
import TemplateBundler.Proofs.Views

/-!
# What a script leaves on a page

A script hangs the functions of its units into each other: the function of a unit becomes a member
of the function of its parent. A page holds objects, made one by one, and a script runs its
assignments in their order. Of the members that a function has without an assignment, a page has
two, its name and the number of its parameters: both keep their values, and an assignment to them is
ignored.

While a script runs, the names of the units so far lead to their functions, as long as none of the
names is one of these two:

    pg.lookup ns = hung t top m ns                                                (Hangs.lookup_eq)

One more assignment adds the place of its unit to those that names lead to, and no other
(`hung_succ`). So the page shows the tree exactly where no unit below the top has such a name
(`mirrors_iff`).
-/

namespace TemplateBundler.Client

open UnitTree Artifact

/-! ## Pages -/

/-- What a variable or a member holds. -/
inductive Value where
  | text (s : String)
  | number (n : Nat)
  | object (id : Nat)
deriving DecidableEq, Repr

structure ClientObject where
  /-- What a call runs, where the object is a function. -/
  function : Option ClientFunction
  members : List (String × Value)
deriving DecidableEq, Repr

/-- The objects in the order in which they were made, and what the root variable holds. -/
structure Page where
  objects : List ClientObject
  root : Value
deriving DecidableEq, Repr

namespace ClientObject

/-- The members that a function keeps: its name and the number of its parameters. -/
def fixed? (o : ClientObject) (name : String) : Option Value :=
  match o.function with
  | none => none
  | some _ =>
    if name = "name" then some (.text "anonymous")
    else if name = "length" then some (.number 1)
    else none

def member? (o : ClientObject) (name : String) : Option Value :=
  match o.fixed? name with
  | some v => some v
  | none => o.members.lookup name

/-- Gives a member a value. A member that is fixed keeps its own. -/
def assign (o : ClientObject) (name : String) (v : Value) : ClientObject :=
  match o.fixed? name with
  | some _ => o
  | none => { o with members := Association.assign name v o.members }

end ClientObject

namespace Page

/-- A text has its length and its characters. -/
def textMember? (s name : String) : Option Value :=
  if name = "length" then some (.number s.length)
  else
    ((List.range s.length).find? fun i => toString i = name).map fun i =>
      .text (String.ofList ((s.toList.drop i).take 1))

def member? (pg : Page) (v : Value) (name : String) : Option Value :=
  match v with
  | .text s => textMember? s name
  | .number _ => none
  | .object id => (pg.objects[id]?).bind fun o => o.member? name

/-- What members one after the other lead to from the root variable. -/
def lookup (pg : Page) (names : List String) : Option Value :=
  names.foldlM (fun v name => pg.member? v name) pg.root

/-- What a call of an object runs. -/
def function? (pg : Page) (id : Nat) : Option ClientFunction :=
  (pg.objects[id]?).bind fun o => o.function

/-- A new function, which nothing holds yet. -/
def make (pg : Page) (f : ClientFunction) : Page :=
  { pg with objects := pg.objects ++ [⟨some f, []⟩] }

/-- Assigns to a member. Texts and numbers take no members. -/
def put (pg : Page) (base : Value) (name : String) (v : Value) : Page :=
  match base with
  | .object id => { pg with objects := pg.objects.modify id fun o => o.assign name v }
  | _ => pg

/-- Runs one assignment; one to a member of nothing stops the script. -/
def step (pg : Page) (b : List String × ClientFunction) : Option Page :=
  let new : Value := .object pg.objects.length
  match b.1.getLast? with
  | none => some { pg.make b.2 with root := new }
  | some name => (pg.lookup b.1.dropLast).map fun base => (pg.make b.2).put base name new

/-- The root variable holds an object without members. -/
def start : Page := ⟨[⟨none, []⟩], .object 0⟩

/-- And then a function, which takes its place. -/
def first (f : ClientFunction) : Page := ⟨[⟨none, []⟩, ⟨some f, []⟩], .object 1⟩

end Page

/-- The page after a script, `none` for one that stops. -/
def load (text : String) : Option Page :=
  (readScript text).bind fun r => r.1.foldlM Page.step .start

/-! ## What a page should show -/

/-- Names lead to the same on a page and in the tree below a unit: to the function that the
assignment of the unit made, from the code of its renderer, and to no function else. -/
structure Mirrors (t : UnitTree) (top : Nat) (pg : Page) : Prop where
  lookup_of_follow : ∀ ns i, t.follow top ns = some i → ∃ j, (t.descendants top)[j]? = some i ∧
    pg.lookup ns = some (.object (j + 1)) ∧ pg.function? (j + 1) = some (rendererOf t i).function
  follow_of_lookup : ∀ ns id, pg.lookup ns = some (.object id) → ∃ i, t.follow top ns = some i

/-- The names of the members that every function keeps. -/
def fixedNames : List String := ["name", "length"]

/-! ## Members -/

theorem fixed?_eq_none {o : ClientObject} {name : String} (h : name ∉ fixedNames) :
    o.fixed? name = none := by
  simp only [fixedNames, List.mem_cons, List.not_mem_nil, or_false, not_or] at h
  unfold ClientObject.fixed?
  split
  · rfl
  · rw [if_neg h.1, if_neg h.2]

theorem member?_of_fixed {o : ClientObject} {f : ClientFunction} (hf : o.function = some f)
    {name : String} (h : name ∈ fixedNames) (id : Nat) : o.member? name ≠ some (.object id) := by
  simp only [fixedNames, List.mem_cons, List.not_mem_nil, or_false] at h
  unfold ClientObject.member? ClientObject.fixed?
  rw [hf]
  rcases h with rfl | rfl
  · simp
  · simp

theorem textMember?_ne_object (s name : String) (id : Nat) :
    Page.textMember? s name ≠ some (.object id) := by
  unfold Page.textMember?
  split
  · simp
  · intro h
    obtain ⟨i, -, hi⟩ := Option.map_eq_some_iff.1 h
    cases hi

/-- An assignment is seen at its name, unless that is the name of a fixed member. -/
theorem member?_assign (o : ClientObject) (name : String) (v : Value) {x : String}
    (hx : x ∉ fixedNames) :
    (o.assign name v).member? x = if x = name then some v else o.member? x := by
  unfold ClientObject.assign
  cases hname : o.fixed? name with
  | some w =>
    have hne : x ≠ name := by
      rintro rfl
      rw [fixed?_eq_none hx] at hname
      cases hname
    rw [if_neg hne]
  | none =>
    unfold ClientObject.member?
    rw [fixed?_eq_none hx, fixed?_eq_none hx]
    simp only [Association.lookup_assign, beq_iff_eq]

theorem function_assign (o : ClientObject) (name : String) (v : Value) :
    (o.assign name v).function = o.function := by
  unfold ClientObject.assign
  split <;> rfl

namespace Page

theorem lookup_nil (pg : Page) : pg.lookup [] = some pg.root := rfl

theorem lookup_concat (pg : Page) (ns : List String) (x : String) :
    pg.lookup (ns ++ [x]) = (pg.lookup ns).bind fun v => pg.member? v x := by
  unfold lookup
  rw [List.foldlM_append]
  simp only [List.foldlM_cons, List.foldlM_nil]
  cases List.foldlM (fun v name => pg.member? v name) pg.root ns with
  | none => rfl
  | some v =>
    show (pg.member? v x).bind some = pg.member? v x
    cases pg.member? v x <;> rfl

theorem member?_make_of_lt (pg : Page) (f : ClientFunction) {id : Nat}
    (h : id < pg.objects.length) (x : String) :
    (pg.make f).member? (.object id) x = pg.member? (.object id) x := by
  simp only [member?, make, List.getElem?_append_left h]

theorem member?_make_new (pg : Page) (f : ClientFunction) {x : String} (hx : x ∉ fixedNames) :
    (pg.make f).member? (.object pg.objects.length) x = none := by
  simp only [member?, make, List.getElem?_concat_length, Option.bind_some, ClientObject.member?,
    fixed?_eq_none hx, List.lookup_nil]

theorem member?_first (f : ClientFunction) (id : Nat) {x : String} (hx : x ∉ fixedNames) :
    (first f).member? (.object id) x = none := by
  rcases id with _ | _ | id
  · simp [member?, first, ClientObject.member?, fixed?_eq_none hx]
  · simp [member?, first, ClientObject.member?, fixed?_eq_none hx]
  · rfl

theorem member?_put (pg : Page) (base : Value) (name : String) (v : Value) (id : Nat) {x : String}
    (hx : x ∉ fixedNames) : (pg.put base name v).member? (.object id) x =
      if base = .object id ∧ id < pg.objects.length ∧ x = name then some v
      else pg.member? (.object id) x := by
  cases base with
  | text s => rw [if_neg nofun]; rfl
  | number n => rw [if_neg nofun]; rfl
  | object b =>
    simp only [put, member?, List.getElem?_modify, Option.map_eq_map, Value.object.injEq]
    by_cases hid : b = id
    · subst hid
      by_cases hb : b < pg.objects.length
      · rw [List.getElem?_eq_getElem hb]
        simp only [if_true, Option.map_some, Option.bind_some, member?_assign _ name v hx, hb,
          true_and]
      · rw [List.getElem?_eq_none (Nat.le_of_not_lt hb), if_neg (fun h => hb h.2.1)]
        rfl
    · rw [if_neg (fun h => hid h.1)]
      simp only [if_neg hid, Option.map_id']

theorem function?_put (pg : Page) (base : Value) (name : String) (v : Value) (id : Nat) :
    (pg.put base name v).function? id = pg.function? id := by
  unfold put
  split
  · next b =>
    simp only [function?, List.getElem?_modify]
    cases pg.objects[id]? with
    | none => simp
    | some o =>
      by_cases hid : b = id
      · simp [hid, function_assign]
      · simp [hid]
  · rfl

theorem length_put (pg : Page) (base : Value) (name : String) (v : Value) :
    (pg.put base name v).objects.length = pg.objects.length := by
  unfold put
  split
  · exact List.length_modify _ _ _
  · rfl

theorem root_put (pg : Page) (base : Value) (name : String) (v : Value) :
    (pg.put base name v).root = pg.root := by
  unfold put
  split <;> rfl

theorem step_concat (pg : Page) (ps : List String) (n : String) (f : ClientFunction) :
    pg.step (ps ++ [n], f) =
      (pg.lookup ps).map fun base => (pg.make f).put base n (.object pg.objects.length) := by
  simp only [step, List.getLast?_concat, List.dropLast_concat]

end Page

/-! ## The order of the units -/

/-- Which assignment, counted from zero, is that of a unit. -/
def order (t : UnitTree) (top i : Nat) : Nat := (t.descendants top).idxOf i

section Order
variable {t : UnitTree} (ht : t.Linked) {top : Nat} (htop : top < t.units.size)

include ht htop

theorem nodup_descendants : (t.descendants top).Nodup := by
  rw [ht.descendants_eq_preorder htop]
  exact ht.nodup_preorder top

theorem order_top : order t top top = 0 := by
  unfold order
  rw [ht.descendants_eq htop, List.idxOf_cons_self]

theorem getElem?_order {ns : List String} {i : Nat} (h : t.follow top ns = some i) :
    (t.descendants top)[order t top i]? = some i :=
  List.getElem?_idxOf ((ht.mem_descendants htop i).2 ⟨ns, h⟩)

theorem order_of_getElem? {i m : Nat} (h : (t.descendants top)[m]? = some i) :
    order t top i = m := by
  obtain ⟨hm, rfl⟩ := List.getElem?_eq_some_iff.1 h
  exact (nodup_descendants ht htop).idxOf_getElem m hm

theorem order_inj {ns ms : List String} {i j : Nat} (hi : t.follow top ns = some i)
    (hj : t.follow top ms = some j) (h : order t top i = order t top j) : i = j := by
  have hplace := getElem?_order ht htop hi
  rw [h, getElem?_order ht htop hj, Option.some.injEq] at hplace
  exact hplace.symm

/-- The function of a unit is there before those of its children. -/
theorem order_lt {ns : List String} {p c : Nat} {n : String} (hp : t.follow top ns = some p)
    (hc : t.child? p n = some c) : order t top p < order t top c := by
  have hmem := mem_children_of_child? hc
  have hfollow : t.follow top (ns ++ [n]) = some c := by
    rw [follow_concat, hp, Option.bind_some, hc]
  have hne : c ≠ top := by
    have hle := le_of_mem_lineage (mem_lineage_of_follow ht hp)
    have hlt := (ht.child_lt hmem).1
    omega
  have hnodup := nodup_descendants ht htop
  have hdesc := (ht.mem_descendants htop c).2 ⟨_, hfollow⟩
  rw [ht.descendants_eq_preorder htop] at hdesc
  obtain ⟨q, before, after, hq, hsplit, hbefore⟩ := ht.parent_before hdesc hne
  rw [ht.parent?_of_mem p c hmem, Option.some.injEq] at hq
  subst hq
  rw [← ht.descendants_eq_preorder htop] at hsplit
  unfold order
  rw [hsplit] at hnodup ⊢
  have hout : c ∉ before := by
    intro hin
    exact (List.nodup_append.1 hnodup).2.2 c hin c List.mem_cons_self rfl
  rw [List.idxOf_append_of_mem hbefore, List.idxOf_append_of_notMem hout, List.idxOf_cons_self,
    Nat.add_zero]
  exact List.idxOf_lt_length_of_mem hbefore

end Order

/-! ## While a script runs -/

/-- None of the names is that of a fixed member. -/
def Free (ns : List String) : Prop := ∀ n ∈ ns, n ∉ fixedNames

/-- What names lead to below the top once the first `m` functions hang in their places. -/
def hung (t : UnitTree) (top m : Nat) (ns : List String) : Option Value :=
  (t.follow top ns).bind fun i =>
    if order t top i < m then some (.object (order t top i + 1)) else none

/-- After the first `m` assignments their functions hang where the names of their units lead. -/
structure Hangs (t : UnitTree) (top m : Nat) (pg : Page) : Prop where
  length_eq : pg.objects.length = m + 1
  function_eq : ∀ j i, j < m → (t.descendants top)[j]? = some i →
    pg.function? (j + 1) = some (rendererOf t i).function
  lookup_eq : ∀ ns, Free ns → pg.lookup ns = hung t top m ns

section Hangs
variable {t : UnitTree} (ht : t.Linked) {top : Nat} (htop : top < t.units.size) {m : Nat}
  {pg : Page}

include ht htop

omit ht htop in
theorem hung_eq_some_iff {ns : List String} {v : Value} : hung t top m ns = some v ↔
    ∃ i, t.follow top ns = some i ∧ order t top i < m ∧ v = .object (order t top i + 1) := by
  rw [hung, Option.bind_eq_some_iff]
  simp only [Option.ite_none_right_eq_some, Option.some.injEq, eq_comm (a := v)]

omit ht htop in
theorem hung_of_follow {ns : List String} {i : Nat} (hi : t.follow top ns = some i)
    (hlt : order t top i < m) : hung t top m ns = some (.object (order t top i + 1)) :=
  hung_eq_some_iff.2 ⟨i, hi, hlt, rfl⟩

theorem hung_nil (hm : 0 < m) : hung t top m [] = some (.object 1) :=
  hung_eq_some_iff.2 ⟨top, follow_nil t top, by rwa [order_top ht htop],
    by rw [order_top ht htop]⟩

/-- A child comes after its parent. -/
theorem hung_concat_eq_none {ns : List String} {j : Nat} (hj : t.follow top ns = some j)
    (hle : m ≤ order t top j + 1) (x : String) : hung t top m (ns ++ [x]) = none := by
  rw [hung, follow_concat, hj, Option.bind_some]
  cases hc : t.child? j x with
  | none => rfl
  | some c =>
    have hlt := order_lt ht htop hj hc
    rw [Option.bind_some, if_neg (by omega)]

/-- **The place of the next function** is what one more assignment adds. -/
theorem hung_succ {place : List String} {i : Nat} (hi : t.follow top place = some i)
    (horder : order t top i = m) (ns : List String) :
    hung t top (m + 1) ns = if ns = place then some (.object (m + 1)) else hung t top m ns := by
  split
  · next heq =>
    subst heq
    rw [hung_of_follow hi (by omega), horder]
  · next hne =>
    unfold hung
    cases hfollow : t.follow top ns with
    | none => rfl
    | some j =>
      have hm : order t top j ≠ m := by
        intro he
        obtain rfl := order_inj ht htop hfollow hi (he.trans horder.symm)
        exact hne (by rw [← namesBelow_of_follow ht hfollow, namesBelow_of_follow ht hi])
      simp only [Option.bind_some]
      exact if_congr (by omega) rfl rfl

/-- No function is found through a fixed member: it holds a text or a number. -/
theorem Hangs.lookup_ne_object (h : Hangs t top m pg) {ns : List String} (hns : ¬ Free ns)
    (id : Nat) : pg.lookup ns ≠ some (.object id) := by
  induction ns using List.reverseRecOn generalizing id with
  | nil => exact absurd (fun n hn => absurd hn List.not_mem_nil) hns
  | append_singleton ns x ih =>
    rw [Page.lookup_concat]
    by_cases hfree : Free ns
    · have hx : x ∈ fixedNames := by
        by_contra hx
        refine hns fun n hn => ?_
        rcases List.mem_append.1 hn with hn | hn
        · exact hfree n hn
        · rwa [List.mem_singleton.1 hn]
      rw [h.lookup_eq ns hfree]
      cases hhung : hung t top m ns with
      | none => exact nofun
      | some v =>
        obtain ⟨i, hfollow, hlt, rfl⟩ := hung_eq_some_iff.1 hhung
        have hfunction := h.function_eq _ i hlt (getElem?_order ht htop hfollow)
        unfold Page.function? at hfunction
        show (pg.objects[order t top i + 1]?).bind (fun o => o.member? x) ≠ some (.object id)
        cases hobject : pg.objects[order t top i + 1]? with
        | none => exact nofun
        | some o =>
          rw [hobject, Option.bind_some] at hfunction
          exact member?_of_fixed hfunction hx id
    · cases hlookup : pg.lookup ns with
      | none => exact nofun
      | some v =>
        rw [Option.bind_some]
        cases v with
        | text s => exact textMember?_ne_object s x id
        | number n => exact nofun
        | object b => exact absurd hlookup (ih hfree b)

/-- The script starts with the function of the top. -/
theorem hangs_first : Hangs t top 1 (.first (rendererOf t top).function) := by
  have hdesc := ht.descendants_eq htop
  refine ⟨rfl, fun j i hj hi => ?_, fun ns hfree => ?_⟩
  · obtain rfl : j = 0 := by omega
    rw [hdesc, List.getElem?_cons_zero, Option.some.injEq] at hi
    rw [← hi]
    rfl
  · induction ns using List.reverseRecOn with
    | nil =>
      rw [hung_nil ht htop Nat.one_pos]
      rfl
    | append_singleton ns x ih =>
      have hx : x ∉ fixedNames := hfree x (by simp)
      rw [Page.lookup_concat, ih fun n hn => hfree n (List.mem_append_left _ hn)]
      cases hfollow : t.follow top ns with
      | none =>
        simp only [hung, follow_concat, hfollow, Option.bind_none]
      | some j =>
        rw [hung_concat_eq_none ht htop hfollow (by omega)]
        -- what has been made so far has no members yet
        rw [hung, hfollow, Option.bind_some]
        split
        · exact Page.member?_first _ _ hx
        · rfl

/-- What an assignment has to do to the members for the next unit to hang in its place. -/
theorem Hangs.lookup_extend (h : Hangs t top m pg) (hm : 0 < m) {ps : List String} {n : String}
    {p i : Nat} (hp : t.follow top ps = some p) (hi : t.follow top (ps ++ [n]) = some i)
    (horder : order t top i = m) (hlt : order t top p < m) {pg' : Page} (hroot : pg'.root = pg.root)
    (hnew : Free (ps ++ [n]) →
      pg'.member? (.object (order t top p + 1)) n = some (.object (m + 1)))
    (hfresh : ∀ x, x ∉ fixedNames → pg'.member? (.object (m + 1)) x = none)
    (hold : ∀ j x, x ∉ fixedNames → j < m → ¬ (j = order t top p ∧ x = n) →
      pg'.member? (.object (j + 1)) x = pg.member? (.object (j + 1)) x)
    (ns : List String) (hns : Free ns) : pg'.lookup ns = hung t top (m + 1) ns := by
  induction ns using List.reverseRecOn with
  | nil =>
    rw [hung_nil ht htop (Nat.succ_pos m), Page.lookup_nil, hroot, ← Page.lookup_nil,
      h.lookup_eq [] hns, hung_nil ht htop hm]
  | append_singleton ns x ih =>
    have hx : x ∉ fixedNames := hns x (by simp)
    have hfree : Free ns := fun y hy => hns y (List.mem_append_left _ hy)
    have hbefore := h.lookup_eq (ns ++ [x]) hns
    rw [Page.lookup_concat, h.lookup_eq ns hfree] at hbefore
    rw [Page.lookup_concat, ih hfree, hung_succ ht htop hi horder ns]
    split
    · next heq =>
      -- nothing hangs below the new function
      subst heq
      rw [hung_concat_eq_none ht htop hi (by omega)]
      exact hfresh x hx
    rw [hung_succ ht htop hi horder (ns ++ [x])]
    split
    · next heq =>
      obtain ⟨rfl, hxn⟩ := List.append_inj' heq rfl
      obtain rfl := (List.cons.inj hxn).1
      rw [hung_of_follow hp hlt]
      exact hnew hns
    · next hplace =>
      rw [← hbefore]
      cases hhung : hung t top m ns with
      | none => rfl
      | some v =>
        obtain ⟨j, hj, hjm, rfl⟩ := hung_eq_some_iff.1 hhung
        refine hold _ x hx hjm ?_
        rintro ⟨hjp, rfl⟩
        obtain rfl := order_inj ht htop hj hp hjp
        exact hplace (by rw [← namesBelow_of_follow ht hj, namesBelow_of_follow ht hp])

/-- The way to a unit that is not the top. -/
theorem exists_parent_of_getElem? (hm : 0 < m) {i : Nat} (hi : (t.descendants top)[m]? = some i) :
    ∃ ps n p, t.follow top ps = some p ∧ t.follow top (ps ++ [n]) = some i ∧
      order t top p < m ∧ namesBelow t top i = ps ++ [n] := by
  have horder := order_of_getElem? ht htop hi
  obtain ⟨ns, hns⟩ := (ht.mem_descendants htop i).1 (List.mem_of_getElem? hi)
  rcases List.eq_nil_or_concat' ns with rfl | ⟨ps, n, rfl⟩
  · -- the top is the first one
    obtain rfl := Option.some.inj hns
    rw [order_top ht htop] at horder
    omega
  · have hnames := namesBelow_of_follow ht hns
    obtain ⟨p, hp, hc⟩ := Option.bind_eq_some_iff.1 ((follow_concat ..).symm.trans hns)
    exact ⟨ps, n, p, hp, hns, horder ▸ order_lt ht htop hp hc, hnames⟩

/-- **One assignment.** Its function hangs in its place, unless a fixed member is in the way, and
the others hang as before. -/
theorem Hangs.step (h : Hangs t top m pg) (hm : 0 < m) {i : Nat}
    (hi : (t.descendants top)[m]? = some i) {pg' : Page}
    (hstep : pg.step (namesBelow t top i, (rendererOf t i).function) = some pg') :
    Hangs t top (m + 1) pg' := by
  have horder := order_of_getElem? ht htop hi
  obtain ⟨ps, n, p, hp, hc, hlt, hnames⟩ := exists_parent_of_getElem? ht htop hm hi
  rw [hnames, Page.step_concat, Option.map_eq_some_iff] at hstep
  obtain ⟨base, hbase, rfl⟩ := hstep
  rw [h.length_eq]
  have hsize : (pg.make (rendererOf t i).function).objects.length = m + 2 := by
    rw [Page.make, List.length_append, h.length_eq]
    rfl
  -- the member is assigned in the function of the parent, if in any
  have hparent : ∀ id, base = .object id → id = order t top p + 1 := by
    rintro id rfl
    by_cases hfree : Free ps
    · rw [h.lookup_eq ps hfree, hung_of_follow hp hlt, Option.some.injEq,
        Value.object.injEq] at hbase
      exact hbase.symm
    · exact absurd hbase (h.lookup_ne_object ht htop hfree id)
  refine ⟨?_, fun j k hj hk => ?_, ?_⟩
  · rw [Page.length_put, hsize]
  · rw [Page.function?_put]
    rcases Nat.lt_succ_iff_lt_or_eq.1 hj with hj | rfl
    · have hold := h.function_eq j k hj hk
      have hlen : j + 1 < pg.objects.length := by
        rw [h.length_eq]
        omega
      unfold Page.function? at hold ⊢
      rw [Page.make, List.getElem?_append_left hlen]
      exact hold
    · rw [hi, Option.some.injEq] at hk
      subst hk
      unfold Page.function?
      rw [Page.make, ← h.length_eq, List.getElem?_concat_length]
      rfl
  · refine h.lookup_extend ht htop hm hp hc horder hlt (Page.root_put _ _ _ _)
      (fun hfree => ?_) (fun x hx => ?_) fun j x hx hj hplace => ?_
    · have hps : Free ps := fun y hy => hfree y (List.mem_append_left _ hy)
      rw [h.lookup_eq ps hps, hung_of_follow hp hlt, Option.some.injEq] at hbase
      rw [Page.member?_put _ _ _ _ _ (hfree n (by simp)), if_pos ⟨hbase.symm, by omega, rfl⟩]
    · have hnew : pg.objects.length = m + 1 := h.length_eq
      rw [Page.member?_put _ _ _ _ _ hx, ← hnew, Page.member?_make_new _ _ hx, if_neg]
      rintro ⟨he, -⟩
      have := hparent _ he
      omega
    · rw [Page.member?_put _ _ _ _ _ hx, if_neg, Page.member?_make_of_lt]
      · rw [h.length_eq]
        omega
      · rintro ⟨he, -, hxn⟩
        have := hparent _ he
        exact hplace ⟨by omega, hxn⟩

/-- The script goes on where no fixed member is in the way. -/
theorem Hangs.exists_step (h : Hangs t top m pg) (hm : 0 < m) {i : Nat}
    (hi : (t.descendants top)[m]? = some i) (hfree : Free (namesBelow t top i)) :
    ∃ pg', pg.step (namesBelow t top i, (rendererOf t i).function) = some pg' := by
  obtain ⟨ps, n, p, hp, hc, hlt, hnames⟩ := exists_parent_of_getElem? ht htop hm hi
  rw [hnames] at hfree ⊢
  rw [Page.step_concat, h.lookup_eq ps fun y hy => hfree y (List.mem_append_left _ hy),
    hung_of_follow hp hlt]
  exact ⟨_, rfl⟩

/-- The assignment of a unit, as a script tells it. -/
def assignmentOf (t : UnitTree) (top i : Nat) : List String × ClientFunction :=
  (namesBelow t top i, (rendererOf t i).function)

omit ht htop in
/-- The next unit of a list that is run through. -/
theorem next_of_split {units before rest : List Nat} {i : Nat}
    (hsplit : units = before ++ i :: rest) (hlen : before.length = m) :
    units[m]? = some i ∧ units = (before ++ [i]) ++ rest ∧ (before ++ [i]).length = m + 1 := by
  subst hlen
  refine ⟨?_, by rw [hsplit, List.append_assoc]; rfl, List.length_append⟩
  rw [hsplit, List.getElem?_append_right (Nat.le_refl _), Nat.sub_self, List.getElem?_cons_zero]

/-- **A whole run** hangs up all functions, one after the other. -/
theorem Hangs.run (h : Hangs t top m pg) (hm : 0 < m) {before rest : List Nat}
    (hsplit : t.descendants top = before ++ rest) (hlen : before.length = m) {pg' : Page}
    (hrun : (rest.map (assignmentOf t top)).foldlM Page.step pg = some pg') :
    Hangs t top (t.descendants top).length pg' := by
  induction rest generalizing before m pg with
  | nil =>
    obtain rfl := Option.some.inj hrun
    rw [hsplit, List.append_nil, hlen]
    exact h
  | cons i rest ih =>
    obtain ⟨hi, hsplit', hlen'⟩ := next_of_split hsplit hlen
    rw [List.map_cons, List.foldlM_cons] at hrun
    obtain ⟨next, hstep, hrun⟩ := Option.bind_eq_some_iff.1 hrun
    exact ih (h.step ht htop hm hi hstep) (Nat.succ_pos m) hsplit' hlen' hrun

theorem Hangs.exists_run (h : Hangs t top m pg) (hm : 0 < m) {before rest : List Nat}
    (hsplit : t.descendants top = before ++ rest) (hlen : before.length = m)
    (hfree : ∀ i ∈ rest, Free (namesBelow t top i)) :
    ∃ pg', (rest.map (assignmentOf t top)).foldlM Page.step pg = some pg' := by
  induction rest generalizing before m pg with
  | nil => exact ⟨pg, rfl⟩
  | cons i rest ih =>
    obtain ⟨hi, hsplit', hlen'⟩ := next_of_split hsplit hlen
    obtain ⟨next, hstep⟩ := h.exists_step ht htop hm hi (hfree i List.mem_cons_self)
    obtain ⟨pg', hrun⟩ := ih (h.step ht htop hm hi hstep) (Nat.succ_pos m) hsplit' hlen'
      fun j hj => hfree j (List.mem_cons_of_mem _ hj)
    refine ⟨pg', ?_⟩
    rw [List.map_cons, List.foldlM_cons, assignmentOf, hstep]
    exact hrun

/-! ## The whole script -/

theorem load_script (global : String) : load (script t top global) =
    ((t.descendants top).map (assignmentOf t top)).foldlM Page.step .start := by
  unfold load
  rw [readScript_script ht htop, Option.bind_some]
  unfold published
  rw [List.map_map]
  rfl

/-- The first assignment is that of the top. -/
theorem load_eq (global : String) : load (script t top global) =
    (((t.children top).flatMap t.descendants).map (assignmentOf t top)).foldlM Page.step
      (.first (rendererOf t top).function) := by
  have hassign : assignmentOf t top top = ([], (rendererOf t top).function) := by
    rw [assignmentOf, namesBelow_top]
  rw [load_script ht htop, ht.descendants_eq htop, List.map_cons, List.foldlM_cons,
    hassign]
  rfl

theorem hangs_of_load {global : String} (hload : load (script t top global) = some pg) :
    Hangs t top (t.descendants top).length pg := by
  rw [load_eq ht htop] at hload
  have hsplit : t.descendants top = [top] ++ (t.children top).flatMap t.descendants :=
    ht.descendants_eq htop
  exact (hangs_first ht htop).run ht htop Nat.one_pos hsplit rfl hload

omit ht htop in
theorem free_of_follow (hfree : ∀ ns i, ns ≠ [] → t.follow top ns = some i → t.name i ∉ fixedNames)
    {ns : List String} {i : Nat} (h : t.follow top ns = some i) : Free ns := by
  induction ns using List.reverseRecOn generalizing i with
  | nil => exact fun n hn => absurd hn List.not_mem_nil
  | append_singleton ns n ih =>
    have hname := hfree _ i (by simp) h
    rw [follow_concat, Option.bind_eq_some_iff] at h
    obtain ⟨p, hp, hc⟩ := h
    rw [name_of_child? hc] at hname
    intro y hy
    rcases List.mem_append.1 hy with hy | hy
    · exact ih hp y hy
    · rwa [List.mem_singleton.1 hy]

theorem Hangs.mirrors (h : Hangs t top (t.descendants top).length pg)
    (hfree : ∀ ns i, ns ≠ [] → t.follow top ns = some i → t.name i ∉ fixedNames) :
    Mirrors t top pg where
  lookup_of_follow ns i hns := by
    have hplace := getElem?_order ht htop hns
    have hlt : order t top i < (t.descendants top).length := (List.getElem?_eq_some_iff.1 hplace).1
    refine ⟨order t top i, hplace, ?_, h.function_eq _ i hlt hplace⟩
    rw [h.lookup_eq ns (free_of_follow hfree hns), hung_of_follow hns hlt]
  follow_of_lookup ns id hlookup := by
    have hns : Free ns := by
      by_contra hns
      exact h.lookup_ne_object ht htop hns id hlookup
    rw [h.lookup_eq ns hns] at hlookup
    obtain ⟨i, hi, -⟩ := hung_eq_some_iff.1 hlookup
    exact ⟨i, hi⟩

theorem loads_iff (global : String) :
    (∃ pg, load (script t top global) = some pg ∧ Mirrors t top pg) ↔
      ∀ ns i, ns ≠ [] → t.follow top ns = some i → t.name i ∉ fixedNames := by
  constructor
  · rintro ⟨pg, hload, hmirrors⟩ ns i hne hi hname
    obtain ⟨j, -, hlookup, -⟩ := hmirrors.lookup_of_follow ns i hi
    refine (hangs_of_load ht htop hload).lookup_ne_object ht htop (fun hfree => ?_) _ hlookup
    obtain ⟨ps, n, rfl⟩ := (List.eq_nil_or_concat' ns).resolve_left hne
    rw [follow_concat, Option.bind_eq_some_iff] at hi
    obtain ⟨p, -, hc⟩ := hi
    rw [name_of_child? hc] at hname
    exact hfree n (by simp) hname
  · intro hfree
    have hsplit : t.descendants top = [top] ++ (t.children top).flatMap t.descendants :=
      ht.descendants_eq htop
    have hrest : ∀ i ∈ (t.children top).flatMap t.descendants, Free (namesBelow t top i) := by
      intro i hi
      have hmem : i ∈ t.descendants top := by
        rw [hsplit]
        exact List.mem_append_right _ hi
      obtain ⟨ns, hns⟩ := (ht.mem_descendants htop i).1 hmem
      rw [namesBelow_of_follow ht hns]
      exact free_of_follow hfree hns
    obtain ⟨pg, hrun⟩ := (hangs_first ht htop).exists_run ht htop Nat.one_pos hsplit rfl hrest
    rw [← load_eq ht htop global] at hrun
    exact ⟨pg, hrun, (hangs_of_load ht htop hrun).mirrors ht htop hfree⟩

end Hangs

/-- **A script shows the tree of its unit** exactly where no unit below it is named like a member
that every function keeps. -/
theorem mirrors_iff [Template.Language] {d : Disk} (hd : d.WellFormed)
    {settings : Source.BuildSettings} {root : FilePath} {builtAt : Time} {t : UnitTree}
    (hb : Source.build d settings root builtAt = .ok t) {top : Nat} (htop : top < t.units.size)
    (global : String) :
    (∃ pg, load (script t top global) = some pg ∧ Mirrors t top pg) ↔
      ∀ ns i, ns ≠ [] → t.follow top ns = some i → t.name i ≠ "name" ∧ t.name i ≠ "length" := by
  have hfixed : ∀ n : String, n ∉ fixedNames ↔ n ≠ "name" ∧ n ≠ "length" := by
    intro n
    simp [fixedNames]
  rw [loads_iff (Source.built_of_build hd hb).linked htop global]
  simp only [hfixed]

open Source

theorem mirrors_namesakes : (namesakes 100).WellFormed ∧ ∃ t,
    build (namesakes 100) smallSettings ⟨"views"⟩ 100 = .ok t ∧ 1 < t.units.size ∧
    t.resolve ⟨["name.js"]⟩ = some 1 ∧
    ∃ pg, load (script t 1 "Templates") = some pg ∧ Mirrors t 1 pg := by
  obtain ⟨a, b, c, hb⟩ := build_namesakes 100
  have ht := (built_of_build (wellFormed_namesakes 100) hb).linked
  have hunits : (namesakeTree 100 a b c).units.size = 4 := by cbv
  have hsize : 1 < (namesakeTree 100 a b c).units.size := by rw [hunits]; decide
  have hdesc : (namesakeTree 100 a b c).descendants 1 = [1, 2] := by cbv
  refine ⟨wellFormed_namesakes 100, _, hb, hsize, by cbv, ?_⟩
  refine (mirrors_iff (wellFormed_namesakes 100) hb hsize "Templates").2 fun ns i hne hi => ?_
  -- the block is the only unit below
  have hmem := (ht.mem_descendants hsize i).2 ⟨ns, hi⟩
  have hlt := ht.lt_of_follow hi hne
  rw [hdesc] at hmem
  obtain rfl : i = 2 := by
    simp only [List.mem_cons, List.not_mem_nil, or_false] at hmem
    omega
  have hname : (namesakeTree 100 a b c).name 2 = "b" := by cbv
  rw [hname]
  decide

/-- **A template that no page finds.** The tree resolves its key path, but the member of its name is
the name of the function above. -/
theorem exists_build_not_mirrored : ∃ d t i pg, d.WellFormed ∧
    build d smallSettings ⟨"views"⟩ 100 = .ok t ∧ t.resolve ⟨["name"]⟩ = some i ∧
    load (script t rootId "Templates") = some pg ∧
    pg.lookup ["name"] = some (.text "anonymous") := by
  obtain ⟨a, b, c, hb⟩ := build_namesakes 100
  have ht := (built_of_build (wellFormed_namesakes 100) hb).linked
  have hrun : ∃ pg, (((namesakeTree 100 a b c).descendants rootId).map
      (assignmentOf (namesakeTree 100 a b c) rootId)).foldlM Page.step .start = some pg ∧
      pg.lookup ["name"] = some (.text "anonymous") := by
    have hassign : ((namesakeTree 100 a b c).descendants rootId).map
        (assignmentOf (namesakeTree 100 a b c) rootId) =
        [([], .empty), (["name.js"], .template none "hi\n" true),
          (["name.js", "b"], .template none "yo" true), (["name"], .template none "low" true)] := by
      cbv
    rw [hassign]
    exact ⟨_, rfl, rfl⟩
  obtain ⟨pg, hrun, hlookup⟩ := hrun
  rw [← load_script ht ht.root_lt "Templates"] at hrun
  exact ⟨namesakes 100, _, 3, pg, wellFormed_namesakes 100, hb, by cbv, hrun, hlookup⟩

end TemplateBundler.Client
