import TemplateBundler.CommandLine.Listing
import TemplateBundler.Proofs.Reachability

/-!
# What a listing shows

A listing goes down the lists of children and hands on, level by level, the columns that stand in
front of the rows below. The row of a unit can be told from the unit alone, by the way up: one trunk
for each unit between the root and this one (`between`), and its own branch.

    lines look t = rootRow look t :: ((t.children rootId).flatMap t.preorder).map (row look t)
                                                                             (lines_eq_of_linked)

Both know the last child of a unit, the listing since no other one is behind it, and the row by the
list of its parent (`IsLast`). They agree since no unit is twice among the children of another.
-/

namespace TemplateBundler.CommandLine.Listing

open UnitTree

/-! ## Rows from the unit alone -/

/-- The unit is the last child of its parent. -/
def IsLast (t : UnitTree) (i : Nat) : Prop :=
  ((t.parent? i).bind fun p => (t.children p).getLast?) = some i

instance (t : UnitTree) (i : Nat) : Decidable (IsLast t i) :=
  inferInstanceAs (Decidable (_ = some i))

/-- The units between the root and a unit, downwards, both left out. -/
def between (t : UnitTree) (i : Nat) : List Nat := ((t.ancestors i).filter (· ≠ rootId)).reverse

/-- What stands in front of the branch of a unit. -/
def indentOf (t : UnitTree) (i : Nat) : String :=
  String.join ((between t i).map fun a => trunk (decide (IsLast t a)))

def row (look : Look) (t : UnitTree) (i : Nat) : String :=
  indentOf t i ++ branch (decide (IsLast t i)) ++ label look t i

theorem isLast_iff {t : UnitTree} {p i : Nat} (hp : t.parent? i = some p) :
    IsLast t i ↔ (t.children p).getLast? = some i := by
  rw [IsLast, hp, Option.bind_some]

theorem between_of_root {t : UnitTree} (ht : t.Linked) {i : Nat}
    (hp : t.parent? i = some rootId) : between t i = [] := by
  rw [between, ancestors_eq hp, ancestors_of_none ht.parent?_root]
  rfl

theorem between_of_parent {t : UnitTree} {p i : Nat} (hp : t.parent? i = some p)
    (hne : p ≠ rootId) : between t i = between t p ++ [p] := by
  rw [between, ancestors_eq hp, List.filter_cons_of_pos (by simpa using hne), List.reverse_cons]
  rfl

theorem indentOf_of_root {t : UnitTree} (ht : t.Linked) {i : Nat}
    (hp : t.parent? i = some rootId) : indentOf t i = "" := by
  rw [indentOf, between_of_root ht hp]
  rfl

theorem indentOf_of_parent {t : UnitTree} {p i : Nat} (hp : t.parent? i = some p)
    (hne : p ≠ rootId) : indentOf t i = indentOf t p ++ trunk (decide (IsLast t p)) := by
  rw [indentOf, between_of_parent hp hne, List.map_append, String.join_append, List.map_singleton,
    String.join_cons, String.join_nil, String.append_empty]
  rfl

/-! ## The rows on the way down -/

/-- The last of different items is the one that stands at the end. -/
theorem withLast_eq {α : Type} [DecidableEq α] {l : List α} (h : l.Nodup) :
    withLast l = l.map fun a => (a, decide (l.getLast? = some a)) := by
  fun_induction withLast l with
  | case1 => rfl
  | case2 a => simp
  | case3 a b l ih =>
    rw [List.nodup_cons] at h
    have hfirst : (b :: l).getLast? ≠ some a := fun hlast => h.1 (List.mem_of_getLast? hlast)
    rw [List.getLast?_cons_cons, List.map_cons, decide_eq_false hfirst, ih h.2]

/-- The rows below a unit, as long as there are levels enough: each level has units that stand behind
those of the level above. -/
theorem rows_eq_of_linked (look : Look) {t : UnitTree} (ht : t.Linked) (n p : Nat)
    (indent : String) (hn : t.units.size - p ≤ n)
    (hindent : ∀ c, t.parent? c = some p → indentOf t c = indent) :
    rows look t n indent (t.children p) =
      ((t.children p).flatMap t.preorder).map (row look t) := by
  induction n generalizing p indent with
  | zero =>
    have hnil : t.children p = [] := children_eq_nil (by omega)
    rw [hnil]
    rfl
  | succ n ih =>
    rw [rows, withLast_eq (ht.children_nodup p), List.flatMap_map, List.map_flatMap]
    refine List.flatMap_congr fun i hi => ?_
    have hp := ht.parent?_of_mem p i hi
    have hlt := ht.child_lt hi
    have hne : i ≠ rootId := by
      rintro rfl
      exact absurd hlt.1 (Nat.not_lt_zero p)
    have hlast : decide ((t.children p).getLast? = some i) = decide (IsLast t i) :=
      decide_eq_decide.2 (isLast_iff hp).symm
    have hbelow := ih i (indent ++ trunk (decide (IsLast t i))) (by omega) fun c hc => by
      rw [indentOf_of_parent hc hne, hindent i hp]
    rw [ht.preorder_eq, List.map_cons, ← hbelow, row, hindent i hp, hlast]

/-- **Every row can be told from its unit.** -/
theorem lines_eq_of_linked (look : Look) {t : UnitTree} (ht : t.Linked) :
    lines look t =
      rootRow look t :: ((t.children rootId).flatMap t.preorder).map (row look t) := by
  have hrows := rows_eq_of_linked look ht t.units.size rootId "" (Nat.sub_le _ _) fun c hc =>
    indentOf_of_root ht hc
  rw [lines, hrows]

/-! ## Without colours -/

theorem kindText_false (o : Origin) : kindText false o = o.kind := by
  cases o <;> rfl

theorem label_false (localTime : Time → String) (showPaths : Bool) {t : UnitTree} {i : Nat}
    {u : TemplateUnit} (hu : t.unit? i = some u) :
    label ⟨false, showPaths, localTime⟩ t i =
      u.name ++ "  " ++ u.origin.kind ++ "  " ++ timeText localTime (t.freshness i) ++
        (if showPaths then "  " ++ u.origin.path.text else "") := by
  simp only [label, hu, Style.paint_false, kindText_false]

/-- The four columns of a unit in front of the rows below it. -/
inductive IsColumns (t : UnitTree) (i : Nat) : String → Prop
  | blank (h : IsLast t i) : IsColumns t i "    "
  | bar (h : ¬ IsLast t i) : IsColumns t i "│   "

/-- The mark of a unit in front of its name. -/
inductive IsBranch (t : UnitTree) (i : Nat) : String → Prop
  | last (h : IsLast t i) : IsBranch t i "└── "
  | more (h : ¬ IsLast t i) : IsBranch t i "├── "

/-- The row of a unit, without colours. -/
def IsRow (localTime : Time → String) (showPaths : Bool) (t : UnitTree) (i : Nat) (text : String) :
    Prop :=
  ∃ u columns mark, t.unit? i = some u ∧ List.Forall₂ (IsColumns t) (between t i) columns ∧
    IsBranch t i mark ∧
    text = String.join columns ++ mark ++ (u.name ++ "  " ++ u.origin.kind ++ "  " ++
      timeText localTime (t.freshness i) ++ (if showPaths then "  " ++ u.origin.path.text else ""))

theorem isColumns_trunk (t : UnitTree) (i : Nat) : IsColumns t i (trunk (decide (IsLast t i))) := by
  by_cases h : IsLast t i
  · rw [decide_eq_true h]
    exact .blank h
  · rw [decide_eq_false h]
    exact .bar h

theorem isBranch_branch (t : UnitTree) (i : Nat) : IsBranch t i (branch (decide (IsLast t i))) := by
  by_cases h : IsLast t i
  · rw [decide_eq_true h]
    exact .last h
  · rw [decide_eq_false h]
    exact .more h

theorem isRow_row (localTime : Time → String) (showPaths : Bool) {t : UnitTree} {i : Nat}
    (hi : i < t.units.size) :
    IsRow localTime showPaths t i (row ⟨false, showPaths, localTime⟩ t i) := by
  obtain ⟨u, hu⟩ := unit?_isSome hi
  refine ⟨u, (between t i).map fun a => trunk (decide (IsLast t a)), _, hu, ?_,
    isBranch_branch t i, ?_⟩
  · rw [List.forall₂_map_right_iff, List.forall₂_same]
    intro a _
    exact isColumns_trunk t a
  · rw [row, label_false localTime showPaths hu]
    rfl

/-- The listing is made of the rows, a line break behind each. -/
theorem text_eq_of_linked (localTime : Time → String) (showPaths : Bool) {t : UnitTree}
    (ht : t.Linked) :
    text ⟨false, showPaths, localTime⟩ t =
      "<root>  " ++ timeText localTime (t.freshness rootId) ++ "\n" ++
        String.join ((((t.children rootId).flatMap t.preorder).map
          (row ⟨false, showPaths, localTime⟩ t)).map (· ++ "\n")) := by
  have hroot : rootRow ⟨false, showPaths, localTime⟩ t =
      "<root>  " ++ timeText localTime (t.freshness rootId) := by
    have hgap : "<root>  " = "<root>" ++ "  " := by decide
    rw [rootRow, Style.paint_false, hgap]
  rw [text, lines_eq_of_linked _ ht, List.map_cons, String.join_cons, hroot]

/-! ## Top theorem -/

/-- The listing of a tree, without colours, where times are written as `localTime` does. -/
structure ListsTree (localTime : Time → String) (showPaths : Bool) (t : UnitTree) : Prop where
  /-- Behind the row of the root stands one for each unit below it, in the order of the traversal. -/
  text_eq : ∃ units rows, t.descendants rootId = rootId :: units ∧
    List.Forall₂ (IsRow localTime showPaths t) units rows ∧
    text ⟨false, showPaths, localTime⟩ t =
      "<root>  " ++ timeText localTime (t.freshness rootId) ++ "\n" ++
        String.join (rows.map (· ++ "\n"))
  /-- The traversal goes over the units in reach, -/
  mem_iff : ∀ i, i ∈ t.descendants rootId ↔ t.Reachable i
  /-- each once. -/
  nodup : (t.descendants rootId).Nodup

/-- **A listing shows the tree.** -/
theorem listsTree_of_made {t : UnitTree} (h : t.Made) (localTime : Time → String)
    (showPaths : Bool) : ListsTree localTime showPaths t := by
  have ht := h.linked
  have horder := ht.descendants_eq_preorder ht.root_lt
  have hunits : t.descendants rootId = rootId :: (t.children rootId).flatMap t.preorder := by
    rw [horder, ht.preorder_eq]
  refine ⟨⟨_, _, hunits, ?_, text_eq_of_linked localTime showPaths ht⟩,
    ht.mem_descendants_iff_below ht.root_lt, ?_⟩
  · rw [List.forall₂_map_right_iff, List.forall₂_same]
    intro i hi
    obtain ⟨ns, hns⟩ := (ht.mem_descendants ht.root_lt i).1 (hunits ▸ List.mem_cons_of_mem _ hi)
    exact isRow_row localTime showPaths (ht.follow_lt ht.root_lt hns)
  · rw [horder]
    exact ht.nodup_preorder rootId

/-- A tree with units beside each other on two levels, the one of them in place of an older one. -/
def branchedTree : UnitTree :=
  let folder := ((ofRoot .empty (.root ⟨"v"⟩) none 0).insert 0 "emails" .empty
    (.directory ⟨"v/emails"⟩) (some 0)).1
  let old := (folder.insert 1 "reset" .empty (.file ⟨"v/emails/reset.tmpl"⟩) (some 3)).1
  let file := (old.insert 0 "layout" .empty (.file ⟨"v/layout.tmpl"⟩) (some 2000)).1
  let block := (file.insert 3 "Footer" .empty (.block ⟨"v/layout.tmpl"⟩ "Footer") none).1
  let inner := (block.insert 1 "welcome" .empty (.file ⟨"v/emails/welcome.tmpl"⟩) (some 0)).1
  (inner.insert 1 "reset" .empty (.directory ⟨"v/emails/reset"⟩) none).1.mark 6 7000

theorem made_branchedTree : branchedTree.Made :=
  .mark (.insert (.insert (.insert (.insert (.insert (.insert (.ofRoot _ _ _ _) (by decide) _ _ _ _)
    (by decide) _ _ _ _) (by decide) _ _ _ _) (by decide) _ _ _ _) (by decide) _ _ _ _)
    (by decide) _ _ _ _) (by decide) _

theorem listsTree_branchedTree :
    branchedTree.Made ∧ ListsTree Time.text true branchedTree ∧
    text ⟨false, true, Time.text⟩ branchedTree =
      "<root>  1970-01-01 00:00:07\n" ++
      "├── emails  directory  1970-01-01 00:00:07  v/emails\n" ++
      "│   ├── reset  directory  1970-01-01 00:00:07  v/emails/reset\n" ++
      "│   └── welcome  file  -  v/emails/welcome.tmpl\n" ++
      "└── layout  file  1970-01-01 00:00:02  v/layout.tmpl\n" ++
      "    └── Footer  block  1970-01-01 00:00:02  v/layout.tmpl\n" :=
  ⟨made_branchedTree, listsTree_of_made made_branchedTree Time.text true, by decide +kernel⟩

end TemplateBundler.CommandLine.Listing
