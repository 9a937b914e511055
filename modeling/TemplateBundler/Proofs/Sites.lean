import TemplateBundler.Proofs.Growth

/-!
# The shape of a planted tree

A site says what the source has for one key path: a template file, a block, or a directory only, and
what the directory of that name holds. Sites lie in one another by name as the source has them, and
say nothing of the order of insertions or of what took whose place. A planted tree shows at every
key path the site that lies there.

    (grown root now files inside).shown? k =
      ((Site.ofRoot root files inside).follow k).map Site.shown                     (shown?_grown)

One insertion opens a place below a key path (`Opened`), and what is done below that place is seen
there only (`Planted`); `Planted.graft` puts the two together. A planting is a run of steps, since
the sites tell what a new unit takes the place of.
-/

namespace TemplateBundler.Source

open UnitTree

/-! ## Sites -/

/-- The path and the contents of a directory of a row. -/
def Outline.find? : Outline → String → Option (FilePath × List Compiled × Outline)
  | done, _ => none
  | folder name path files inside rest, n =>
    if name = n then some (path, files, inside) else rest.find? n

def Outline.names : Outline → List String
  | done => []
  | folder name _ _ _ rest => name :: rest.names

/-- What the source has for one unit: the blocks of its file, and the files and the directories of
its directory. -/
structure Site where
  renderer : Renderer
  origin : Origin
  blocks : List (String × Renderer)
  files : List Compiled
  inside : Outline

namespace Site

/-- A site with nothing below it. -/
def bare (renderer : Renderer) (origin : Origin) : Site := ⟨renderer, origin, [], [], .done⟩

def ofFile (file : Compiled) : Site := ⟨file.renderer, .file file.path, file.blocks, [], .done⟩

def ofRoot (root : FilePath) (files : List Compiled) (inside : Outline) : Site :=
  ⟨.empty, .root root, [], files, inside⟩

/-- The file of a name, or else the last block of that name. -/
def template? (s : Site) (n : String) : Option Site :=
  match s.files.find? fun f => f.name == n with
  | some f => some (ofFile f)
  | none => (s.blocks.reverse.lookup n).map fun r => bare r (.block s.origin.path n)

/-- The site of a name. A directory belongs to the template of the same name. -/
def child? (s : Site) (n : String) : Option Site :=
  match s.inside.find? n with
  | some (path, files, inside) =>
    some { (s.template? n).getD (bare .empty (.directory path)) with files, inside }
  | none => s.template? n

def follow (s : Site) : List String → Option Site
  | [] => some s
  | n :: ns => (s.child? n).bind fun c => c.follow ns

/-- The names of the sites in a site: blocks, then files, then directories, each name where it comes
first. -/
def names (s : Site) : List String :=
  (s.blocks.map Prod.fst ++ s.files.map Compiled.name ++ s.inside.names).eraseDups

/-- What a unit for the site shows. -/
def shown (s : Site) : Shown := ⟨s.renderer, s.origin, s.names⟩

theorem follow_concat (s : Site) (ns : List String) (n : String) :
    s.follow (ns ++ [n]) = (s.follow ns).bind fun c => c.child? n := by
  induction ns generalizing s with
  | nil =>
    simp only [List.nil_append, follow, Option.bind_some]
    cases s.child? n <;> rfl
  | cons m ns ih =>
    simp only [List.cons_append, follow, ih, Option.bind_assoc]

end Site

theorem addName_eraseDups (names : List String) (n : String) :
    addName names.eraseDups n = (names ++ [n]).eraseDups := by
  rw [List.eraseDups_append]
  unfold addName
  by_cases hn : n ∈ names
  · simp [hn, List.cons_removeAll]
  · simp [hn, List.cons_removeAll, List.eraseDups_cons]

/-! ## Changes below a key path -/

/-- What a tree shows at `K` and below is the site. -/
def Shows (t : UnitTree) (K : List String) (s : Site) : Prop :=
  ∀ ns, t.shown? (K ++ ns) = (s.follow ns).map Site.shown

/-- A tree has grown below `K` only and shows the site there. -/
structure Planted (times : FilePath → Time) (K : List String) (t t' : UnitTree) (s : Site) :
    Prop where
  grows : Grows times t t'
  follow : ∀ k, k = K ∨ ¬ K <+: k → t'.follow rootId k = t.follow rootId k
  frame : ∀ k, ¬ K <+: k → t'.shown? k = t.shown? k
  shows : Shows t' K s

/-- The unit at `K` has a child `n`, new or not, and nothing else has changed but what is there. -/
structure Opened (K : List String) (n : String) (t t' : UnitTree) : Prop where
  follow : ∀ k, ¬ K ++ [n] <+: k → t'.follow rootId k = t.follow rootId k
  frame : ∀ k, k ≠ K → ¬ K ++ [n] <+: k → t'.shown? k = t.shown? k
  names : t'.shown? K = (t.shown? K).map fun s => { s with names := addName s.names n }

variable {times : FilePath → Time}

theorem Planted.trans {K : List String} {t t₁ t₂ : UnitTree} {s₁ s₂ : Site}
    (h₁ : Planted times K t t₁ s₁) (h₂ : Planted times K t₁ t₂ s₂) : Planted times K t t₂ s₂ where
  grows := h₁.grows.trans h₂.grows
  follow k hk := (h₂.follow k hk).trans (h₁.follow k hk)
  frame k hk := (h₂.frame k hk).trans (h₁.frame k hk)
  shows := h₂.shows

theorem Planted.refl {K : List String} {t : UnitTree} {s : Site} (h : Shows t K s) :
    Planted times K t t s :=
  ⟨.refl, fun _ _ => rfl, fun _ _ => rfl, h⟩

/-- **A child in its place.** What is planted in an opened place is the child of that name, and the
other children stay what they are. -/
theorem Planted.graft {K : List String} {n : String} {t t₁ t₂ : UnitTree} {s c s' : Site}
    (hs : Shows t K s) (hgrows : Grows times t t₁) (hopen : Opened K n t t₁)
    (hc : Planted times (K ++ [n]) t₁ t₂ c)
    (hchild : s'.child? n = some c) (hother : ∀ m, m ≠ n → s'.child? m = s.child? m)
    (hshown : s'.shown = { s.shown with names := addName s.shown.names n }) :
    Planted times K t t₂ s' where
  grows := hgrows.trans hc.grows
  follow k hk := by
    have hnot : ¬ K ++ [n] <+: k := by
      rcases hk with rfl | hk
      · exact not_concat_prefix_self k n
      · exact fun h => hk (prefix_of_concat h)
    rw [hc.follow k (Or.inr hnot), hopen.follow k hnot]
  frame k hk := by
    have hnot : ¬ K ++ [n] <+: k := fun h => hk (prefix_of_concat h)
    have hne : k ≠ K := fun e => hk (e ▸ List.prefix_rfl)
    rw [hc.frame k hnot, hopen.frame k hne hnot]
  shows ns := by
    cases ns with
    | nil =>
      have hself := hs []
      rw [List.append_nil] at hself ⊢
      rw [hc.frame K (not_concat_prefix_self K n), hopen.names, hself]
      simp only [Site.follow, Option.map_some, hshown]
    | cons m ns =>
      by_cases hm : m = n
      · subst hm
        have := hc.shows ns
        rw [List.append_assoc, List.singleton_append] at this
        rw [this, Site.follow, hchild, Option.bind_some]
      · have hnot : ¬ K ++ [n] <+: K ++ m :: ns := fun h => hm (concat_prefix_append_cons h).symm
        have hne : K ++ m :: ns ≠ K := by simp
        rw [hc.frame _ hnot, hopen.frame _ hne hnot, hs, Site.follow, Site.follow, hother m hm]

/-! ## Insertions open a place -/

section Insert
variable {t : UnitTree} (ht : t.Linked) {p : Nat} {K : List String}
  (hp : t.follow rootId K = some p) (n : String) (r : Renderer) (o : Origin) (f : Option Time)

include ht hp

theorem opened_insert : Opened K n t (t.insert p n r o f).1 where
  follow k hk := by
    have hne : k ≠ K ++ [n] := fun e => hk (e ▸ List.prefix_rfl)
    rw [ht.follow_insert hp, if_neg hne, if_neg hk]
  frame k hk hnot := by
    have hne : k ≠ K ++ [n] := fun e => hnot (e ▸ List.prefix_rfl)
    rw [ht.shown?_insert hp, if_neg hne, if_neg hnot, if_neg hk]
  names := by
    rw [ht.shown?_insert hp, if_neg (by simp), if_neg (not_concat_prefix_self K n), if_pos rfl]

theorem shows_insert : Shows (t.insert p n r o f).1 (K ++ [n]) (Site.bare r o) := by
  intro ns
  rw [ht.shown?_insert hp]
  cases ns with
  | nil =>
    rw [List.append_nil, if_pos rfl]
    rfl
  | cons m ns =>
    have hne : K ++ [n] ++ m :: ns ≠ K ++ [n] := by simp
    rw [if_neg hne, if_pos (List.prefix_append _ _)]
    rfl

theorem follow_insert_self :
    (t.insert p n r o f).1.follow rootId (K ++ [n]) = some t.units.size := by
  rw [ht.follow_insert hp, if_pos rfl]

/-- A child that is there already has its place open. -/
theorem opened_of_child? {c : Nat} (hc : t.child? p n = some c) : Opened K n t t where
  follow _ _ := rfl
  frame _ _ _ := rfl
  names := by
    have hmem : n ∈ t.names p := by
      rw [← name_of_child? hc]
      exact List.mem_map_of_mem (mem_children_of_child? hc)
    obtain ⟨u, hu⟩ := unit?_isSome (ht.follow_lt ht.root_lt hp)
    have hshown : t.shown? K = some ⟨u.renderer, u.origin, t.names p⟩ := by
      rw [shown?, hp, Option.bind_some, shownOf?, hu]
      rfl
    rw [hshown, Option.map_some, addName, if_pos hmem]

end Insert

/-! ## Blocks -/

/-- A name that only blocks of a site have can be taken. -/
theorem vacant_of_shows {t : UnitTree} (ht : t.Linked) {p : Nat} {K : List String} {s : Site}
    (hp : t.follow rootId K = some p) (hs : Shows t K s) {n : String} (hinside : s.inside = .done)
    (hn : n ∉ s.files.map Compiled.name) : Vacant t p n := by
  intro c hc
  have hfollow : t.follow rootId (K ++ [n]) = some c := by
    rw [UnitTree.follow_concat, hp, Option.bind_some, hc]
  obtain ⟨u, hu⟩ := unit?_isSome (ht.follow_lt ht.root_lt hfollow)
  have hshown : t.shown? (K ++ [n]) = some ⟨u.renderer, u.origin, t.names c⟩ := by
    rw [shown?, hfollow, Option.bind_some, shownOf?, hu]
    rfl
  have hnone : s.files.find? (fun f => f.name == n) = none := by
    rw [List.find?_eq_none]
    intro f hf hbeq
    exact hn (eq_of_beq hbeq ▸ List.mem_map_of_mem hf)
  rw [hs, Site.follow, Site.child?, hinside, Outline.find?, Site.template?, hnone] at hshown
  cases hb : s.blocks.reverse.lookup n with
  | none =>
    rw [hb] at hshown
    cases hshown
  | some r =>
    rw [hb] at hshown
    simp only [Option.map_some, Option.bind_some, Site.follow, Option.some.injEq, Site.shown,
      Site.bare, Shown.mk.injEq] at hshown
    obtain ⟨-, horigin, hnames⟩ := hshown
    refine ⟨List.map_eq_nil_iff.1 hnames.symm, s.origin.path, n, ?_⟩
    rw [origin?, hu, horigin]
    rfl

theorem origin?_of_shows {t : UnitTree} {p : Nat} {K : List String} {s : Site}
    (hp : t.follow rootId K = some p) (hs : Shows t K s) : origin? t p = some s.origin := by
  have hself := hs []
  rw [List.append_nil, shown?, hp, Option.bind_some, shownOf?] at hself
  cases hu : t.unit? p with
  | none =>
    rw [hu] at hself
    cases hself
  | some u =>
    simp only [hu, Option.map_some, Site.follow, Option.some.injEq, Site.shown,
      Shown.mk.injEq] at hself
    rw [origin?, hu, Option.map_some, hself.2.1]

theorem planted_block {path : FilePath} {p : Nat} {K : List String} {s : Site}
    (horigin : s.origin = .file path) (hfiles : s.files = []) (hinside : s.inside = .done)
    {block : String × Renderer} (hne : block.1 ≠ "") {t : UnitTree} (ht : t.Linked)
    (hp : t.follow rootId K = some p) (hs : Shows t K s) :
    Planted times K t (placeBlock path p t block) { s with blocks := s.blocks ++ [block] } := by
  have hvacant : Vacant t p block.1 :=
    vacant_of_shows ht hp hs hinside (by rw [hfiles]; exact List.not_mem_nil)
  have hfile : origin? t p = some (.file path) := horigin ▸ origin?_of_shows hp hs
  have hstep : Step times t (placeBlock path p t block) := .block path block hp hne hfile hvacant
  obtain ⟨r, o, blocks, files, inside⟩ := s
  obtain ⟨n, code⟩ := block
  obtain rfl : o = .file path := horigin
  obtain rfl : files = [] := hfiles
  obtain rfl : inside = .done := hinside
  refine .graft hs (.single hstep) (opened_insert ht hp n code (.block path n) none)
    (.refl (shows_insert ht hp n code (.block path n) none)) ?_ ?_ ?_
  · simp only [Site.child?, Site.template?, Outline.find?, List.find?_nil, List.reverse_append,
      List.reverse_singleton, List.singleton_append, List.lookup_cons, beq_self_eq_true,
      Option.map_some, Origin.path]
  · intro m hm
    have hbeq : (m == n) = false := beq_eq_false_iff_ne.2 hm
    simp only [Site.child?, Site.template?, Outline.find?, List.find?_nil, List.reverse_append,
      List.reverse_singleton, List.singleton_append, List.lookup_cons, hbeq]
  · simp only [Site.shown, Site.names, List.map_nil, List.append_nil, Outline.names,
      addName_eraseDups, List.map_append, List.map_cons]

theorem planted_blocks {path : FilePath} {p : Nat} {K : List String} {s : Site}
    (horigin : s.origin = .file path) (hfiles : s.files = []) (hinside : s.inside = .done)
    (blocks : List (String × Renderer)) (hne : ∀ b ∈ blocks, b.1 ≠ "") {t : UnitTree}
    (ht : t.Linked) (hp : t.follow rootId K = some p) (hs : Shows t K s) :
    Planted times K t (blocks.foldl (placeBlock path p) t)
      { s with blocks := s.blocks ++ blocks } := by
  induction blocks generalizing t s with
  | nil =>
    rw [List.append_nil]
    exact .refl hs
  | cons b blocks ih =>
    have hstep : Planted times K t (placeBlock path p t b) { s with blocks := s.blocks ++ [b] } :=
      planted_block horigin hfiles hinside (hne b List.mem_cons_self) ht hp hs
    have hp' : (placeBlock path p t b).follow rootId K = some p := by
      rw [hstep.follow K (Or.inl rfl), hp]
    have hrest := ih (s := { s with blocks := s.blocks ++ [b] }) horigin hfiles hinside
      (fun b' hb' => hne b' (List.mem_cons_of_mem _ hb')) (hstep.grows.linked ht) hp' hstep.shows
    simp only [List.append_assoc, List.singleton_append] at hrest
    exact hstep.trans hrest

/-! ## Files -/

/-- A file that can be planted. -/
structure Compiled.Tidy (times : FilePath → Time) (f : Compiled) : Prop where
  ne_empty : f.name ≠ ""
  blocks_ne_empty : ∀ b ∈ f.blocks, b.1 ≠ ""
  time_eq : f.time = times f.path

/-- Files of different names that can be planted next to each other. -/
structure TidyFiles (times : FilePath → Time) (files : List Compiled) : Prop where
  names_nodup : (files.map Compiled.name).Nodup
  tidy : ∀ f ∈ files, f.Tidy times

theorem Opened.mark {K : List String} {n : String} {t t' : UnitTree} (h : Opened K n t t') (i : Nat)
    (time : Time) : Opened K n t (t'.mark i time) where
  follow k hk := by rw [follow_congr (face?_mark t' i time), h.follow k hk]
  frame k hk hnot := by rw [shown?_congr (face?_mark t' i time), h.frame k hk hnot]
  names := by rw [shown?_congr (face?_mark t' i time), h.names]

theorem planted_file {p : Nat} {K : List String} {s : Site} {f : Compiled} (hf : f.Tidy times)
    (hinside : s.inside = .done) (hname : f.name ∉ s.files.map Compiled.name) {t : UnitTree}
    (ht : t.Linked) (hp : t.follow rootId K = some p) (hs : Shows t K s) :
    Planted times K t (placeFile p t f) { s with files := s.files ++ [f] } := by
  have hstep : Step times t (placeUnit p t f) :=
    .file f hp hf.ne_empty hf.time_eq
      (vacant_of_shows ht hp hs hinside hname)
  have hopen : Opened K f.name t (placeUnit p t f) :=
    (opened_insert ht hp f.name f.renderer (.file f.path) none).mark t.units.size f.time
  have hunit : Shows (placeUnit p t f) (K ++ [f.name]) (Site.bare f.renderer (.file f.path)) := by
    intro ns
    unfold placeUnit
    rw [shown?_congr (face?_mark _ _ _)]
    exact shows_insert ht hp f.name f.renderer (.file f.path) none ns
  have hid : (placeUnit p t f).follow rootId (K ++ [f.name]) = some t.units.size := by
    unfold placeUnit
    rw [follow_congr (face?_mark _ _ _)]
    exact follow_insert_self ht hp f.name f.renderer (.file f.path) none
  have hblocks : Planted times (K ++ [f.name]) (placeUnit p t f) (placeFile p t f)
      (Site.ofFile f) :=
    planted_blocks rfl rfl rfl f.blocks hf.blocks_ne_empty (hstep.linked ht) hid hunit
  have hnone : s.files.find? (fun g => g.name == f.name) = none := by
    rw [List.find?_eq_none]
    intro g hg hbeq
    exact hname (eq_of_beq hbeq ▸ List.mem_map_of_mem hg)
  obtain ⟨r, o, blocks, files, inside⟩ := s
  obtain rfl : inside = .done := hinside
  refine .graft hs (.single hstep) hopen hblocks ?_ ?_ ?_
  · simp only [Site.child?, Site.template?, Outline.find?, List.find?_append, hnone, Option.none_or,
      List.find?_singleton, beq_self_eq_true, if_true]
  · intro m hm
    have hbeq : (f.name == m) = false := beq_eq_false_iff_ne.2 (Ne.symm hm)
    simp only [Site.child?, Site.template?, Outline.find?, List.find?_append, List.find?_singleton,
      hbeq, Bool.false_eq_true, if_false, Option.or_none]
  · simp only [Site.shown, Site.names, Outline.names, addName_eraseDups, List.map_append,
      List.map_cons, List.map_nil, List.append_nil, List.append_assoc]

theorem planted_files {p : Nat} {K : List String} {s : Site} (hinside : s.inside = .done)
    (files : List Compiled) (htidy : ∀ f ∈ files, f.Tidy times)
    (hnd : ((s.files ++ files).map Compiled.name).Nodup) {t : UnitTree} (ht : t.Linked)
    (hp : t.follow rootId K = some p) (hs : Shows t K s) :
    Planted times K t (placeFiles p t files) { s with files := s.files ++ files } := by
  unfold placeFiles
  induction files generalizing t s with
  | nil =>
    rw [List.append_nil]
    exact .refl hs
  | cons f files ih =>
    have hname : f.name ∉ s.files.map Compiled.name := by
      rw [List.map_append, List.nodup_append] at hnd
      intro hmem
      exact hnd.2.2 _ hmem f.name (List.mem_map_of_mem List.mem_cons_self) rfl
    have hstep := planted_file (htidy f List.mem_cons_self) hinside hname ht hp hs
    have hp' : (placeFile p t f).follow rootId K = some p := by
      rw [hstep.follow K (Or.inl rfl), hp]
    have hrest := ih (s := { s with files := s.files ++ [f] }) hinside
      (fun g hg => htidy g (List.mem_cons_of_mem _ hg)) (by rwa [List.append_assoc])
      (hstep.grows.linked ht) hp' hstep.shows
    simp only [List.append_assoc, List.singleton_append] at hrest
    exact hstep.trans hrest

/-! ## Directories -/

namespace Outline

/-- At every depth names are different and not empty. -/
def Tidy (times : FilePath → Time) : Outline → Prop
  | done => True
  | folder name _ files inside rest =>
    name ≠ "" ∧ name ∉ rest.names ∧ TidyFiles times files ∧ inside.Tidy times ∧ rest.Tidy times

/-- One row of directories after another. -/
def append : Outline → Outline → Outline
  | done, o => o
  | folder name path files inside rest, o => folder name path files inside (rest.append o)

theorem append_done (o : Outline) : o.append done = o := by
  induction o with
  | done => rfl
  | folder name path files inside rest _ ih => rw [append, ih]

theorem append_assoc (o₁ o₂ o₃ : Outline) :
    (o₁.append o₂).append o₃ = o₁.append (o₂.append o₃) := by
  induction o₁ with
  | done => rfl
  | folder name path files inside rest _ ih => rw [append, append, append, ih]

theorem names_append (o₁ o₂ : Outline) : (o₁.append o₂).names = o₁.names ++ o₂.names := by
  induction o₁ with
  | done => rfl
  | folder name path files inside rest _ ih => rw [append, names, names, ih, List.cons_append]

theorem find?_append (o₁ o₂ : Outline) (n : String) :
    (o₁.append o₂).find? n = (o₁.find? n).or (o₂.find? n) := by
  induction o₁ with
  | done => rfl
  | folder name path files inside rest _ ih =>
    rw [append, find?, find?]
    split
    · rfl
    · exact ih

theorem find?_eq_none_iff (o : Outline) (n : String) : o.find? n = none ↔ n ∉ o.names := by
  induction o with
  | done => simp [find?, names]
  | folder name path files inside rest _ ih =>
    rw [find?, names, List.mem_cons, not_or]
    split
    · next h => simp [h]
    · next h =>
      rw [ih]
      exact ⟨fun hn => ⟨fun e => h e.symm, hn⟩, And.right⟩

end Outline

/-- What stands at the place of a directory before its contents are planted. -/
def Site.plot (s : Site) (name : String) (path : FilePath) : Site :=
  (s.template? name).getD (.bare .empty (.directory path))

theorem plot_bare (s : Site) (name : String) (path : FilePath) :
    (s.plot name path).files = [] ∧ (s.plot name path).inside = .done := by
  unfold Site.plot Site.template?
  cases s.files.find? fun f => f.name == name with
  | some f => exact ⟨rfl, rfl⟩
  | none => cases s.blocks.reverse.lookup name <;> exact ⟨rfl, rfl⟩

/-- The unit of a directory is the template of its name or a new one. -/
theorem folderUnit_spec {t : UnitTree} (ht : t.Linked) {p : Nat} {K : List String} {s : Site}
    (hp : t.follow rootId K = some p) (hs : Shows t K s) {name : String} (hne : name ≠ "")
    (path : FilePath) (hname : name ∉ s.inside.names) :
    Grows times t (folderUnit t p name path).1 ∧ Opened K name t (folderUnit t p name path).1 ∧
      (folderUnit t p name path).1.follow rootId (K ++ [name]) = some (folderUnit t p name path).2 ∧
      Shows (folderUnit t p name path).1 (K ++ [name]) (s.plot name path) := by
  have hchild : s.child? name = s.template? name := by
    rw [Site.child?, (Outline.find?_eq_none_iff _ _).2 hname]
  have hbelow : ∀ ns, t.shown? (K ++ [name] ++ ns) =
      ((s.template? name).bind fun c => c.follow ns).map Site.shown := by
    intro ns
    rw [List.append_assoc, hs, List.singleton_append, Site.follow, hchild]
  have hself := hbelow []
  rw [List.append_nil] at hself
  unfold folderUnit
  cases hc : t.child? p name with
  | some c =>
    refine ⟨.refl, opened_of_child? ht hp name hc, ?_, ?_⟩
    · rw [UnitTree.follow_concat, hp, Option.bind_some, hc]
    · have hsome : (t.shown? (K ++ [name])).isSome := by
        rw [ht.isSome_shown?, UnitTree.follow_concat, hp, Option.bind_some, hc]
        rfl
      intro ns
      rw [hbelow ns, Site.plot]
      cases hq : s.template? name with
      | none =>
        rw [hself, hq] at hsome
        cases hsome
      | some q => rfl
  | none =>
    have hnone : s.template? name = none := by
      rw [shown?, UnitTree.follow_concat, hp, Option.bind_some, hc] at hself
      cases hq : s.template? name with
      | none => rfl
      | some q =>
        rw [hq] at hself
        cases hself
    simp only [insert_id]
    refine ⟨.single (.folder name path hp hne hc),
      opened_insert ht hp _ _ _ _, follow_insert_self ht hp _ _ _ _, ?_⟩
    rw [Site.plot, hnone]
    exact shows_insert ht hp _ _ _ _

/-- One directory, its files first and then the directories in it. -/
theorem planted_folder {p : Nat} {K : List String} {s : Site} {name : String} (hne : name ≠ "")
    (path : FilePath) {files : List Compiled} (hfiles : TidyFiles times files) (inside : Outline)
    (hdown : ∀ {t : UnitTree} {id : Nat} {c : Site}, c.inside = .done → t.Linked →
      t.follow rootId (K ++ [name]) = some id → Shows t (K ++ [name]) c →
      Planted times (K ++ [name]) t (plant id t inside) { c with inside := c.inside.append inside })
    (hname : name ∉ s.inside.names) {t : UnitTree} (ht : t.Linked) (hp : t.follow rootId K = some p)
    (hs : Shows t K s) :
    Planted times K t
      (plant (folderUnit t p name path).2
        (placeFiles (folderUnit t p name path).2 (folderUnit t p name path).1 files) inside)
      { s with inside := s.inside.append (.folder name path files inside .done) } := by
  obtain ⟨hgrows, hopen, hid, hshows⟩ : Grows times t (folderUnit t p name path).1 ∧ _ :=
    folderUnit_spec ht hp hs hne path hname
  obtain ⟨hplotf, hploti⟩ := plot_bare s name path
  generalize folderUnit t p name path = spot at hgrows hopen hid hshows
  obtain ⟨t₁, id⟩ := spot
  have ht₁ := hgrows.linked ht
  have hplot := planted_files hploti files hfiles.tidy (by rw [hplotf]; exact hfiles.names_nodup)
    ht₁ hid hshows
  have hid' : (placeFiles id t₁ files).follow rootId (K ++ [name]) = some id := by
    rw [hplot.follow _ (Or.inl rfl), hid]
  have hinner := hdown (c := { s.plot name path with files := (s.plot name path).files ++ files })
    hploti (hplot.grows.linked ht₁) hid' hplot.shows
  have hchild := hplot.trans hinner
  simp only [hplotf, hploti, List.nil_append, Outline.append] at hchild
  refine .graft hs hgrows hopen hchild ?_ ?_ ?_
  · simp only [Site.child?, Outline.find?_append, (Outline.find?_eq_none_iff _ _).2 hname,
      Option.none_or, Outline.find?, if_true]
    rfl
  · intro m hm
    simp only [Site.child?, Outline.find?_append, Outline.find?, if_neg (Ne.symm hm),
      Option.or_none]
    rfl
  · simp only [Site.shown, Site.names, Outline.names_append, Outline.names, addName_eraseDups,
      List.append_assoc]

theorem planted_folders {p : Nat} {K : List String} {s : Site} (o : Outline) (ho : o.Tidy times)
    (hdisj : ∀ n ∈ o.names, n ∉ s.inside.names) {t : UnitTree} (ht : t.Linked)
    (hp : t.follow rootId K = some p) (hs : Shows t K s) :
    Planted times K t (plant p t o) { s with inside := s.inside.append o } := by
  induction o generalizing p K s t with
  | done =>
    rw [Outline.append_done]
    exact .refl hs
  | folder name path files inside rest ihi ihr =>
    obtain ⟨hne, hrest, hfiles, hinside, htidy⟩ := ho
    have hname : name ∉ s.inside.names := hdisj name List.mem_cons_self
    have hstep := planted_folder hne path hfiles inside
      (fun hdone => ihi hinside (by rw [hdone]; exact fun n _ => List.not_mem_nil)) hname ht hp hs
    -- the directories next to it
    have hdisj' : ∀ n ∈ rest.names,
        n ∉ (s.inside.append (.folder name path files inside .done)).names := by
      intro n hn hmem
      rw [Outline.names_append] at hmem
      rcases List.mem_append.1 hmem with hmem | hmem
      · exact hdisj n (List.mem_cons_of_mem _ hn) hmem
      · rw [Outline.names, Outline.names, List.mem_singleton] at hmem
        exact hrest (hmem ▸ hn)
    have hlast := ihr
      (s := { s with inside := s.inside.append (.folder name path files inside .done) })
      htidy hdisj' (hstep.grows.linked ht) ((hstep.follow K (Or.inl rfl)).trans hp) hstep.shows
    simp only [Outline.append_assoc, Outline.append] at hlast
    exact hstep.trans hlast

/-! ## The whole tree -/

theorem planted_grown (root : FilePath) (builtAt : Time) {files : List Compiled} {inside : Outline}
    (hfiles : TidyFiles times files) (hinside : inside.Tidy times) :
    Planted times [] (treeOf.rootOnly root builtAt) (grown root builtAt files inside)
      (Site.ofRoot root files inside) := by
  have hroot : Shows (treeOf.rootOnly root builtAt) [] (Site.bare .empty (.root root)) := by
    intro ns
    cases ns <;> rfl
  have hlinked : (treeOf.rootOnly root builtAt).Linked := linked_ofRoot _ _ _ _
  have hplaced := planted_files (s := .bare .empty (.root root)) rfl files hfiles.tidy
    hfiles.names_nodup hlinked rfl hroot
  have hgrown := planted_folders inside hinside (fun _ _ => List.not_mem_nil)
    (hplaced.grows.linked hlinked) (hplaced.follow [] (Or.inl rfl)) hplaced.shows
  exact hplaced.trans hgrown

/-- **The shape of a planted tree.** -/
theorem shown?_grown (root : FilePath) (builtAt : Time) {files : List Compiled} {inside : Outline}
    (hfiles : TidyFiles times files) (hinside : inside.Tidy times) (k : List String) :
    (grown root builtAt files inside).shown? k =
      ((Site.ofRoot root files inside).follow k).map Site.shown :=
  (planted_grown root builtAt hfiles hinside).shows k

/-- A planted tree is a run of steps from its root. -/
theorem grows_grown (root : FilePath) (builtAt : Time) {files : List Compiled} {inside : Outline}
    (hfiles : TidyFiles times files) (hinside : inside.Tidy times) :
    Grows times (treeOf.rootOnly root builtAt) (grown root builtAt files inside) :=
  (planted_grown root builtAt hfiles hinside).grows

end TemplateBundler.Source
