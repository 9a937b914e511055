import TemplateBundler.Proofs.Chart

/-!
# The shape of a built tree

The units of a built tree are what the source has: its template files at their paths without the
extension, the blocks that these declare, and its directories. Where more than one of these have a
key path, the file comes before the block and the block before the directory, and the unit has the
children of all.

    build d settings root now = .ok t →
      (k ∈ t.keyPaths ↔ (∃ path, TemplateAt d settings root k.segments path) ∨
        (∃ path n, BlockAt d settings root k.segments path n) ∨ FolderAt d root k.segments)
-/

namespace TemplateBundler.Source

open UnitTree

/-! ## What the source has at a key path -/

section

variable [Template.Language]

/-- The template file at `path` has the key path. -/
def TemplateAt (d : Disk) (settings : BuildSettings) (root : FilePath) (k : List String)
    (path : FilePath) : Prop :=
  ∃ ns name, Leads d root ns ∧ d.HasTemplate settings.extension (root.joinAll ns) name ∧
    k = ns ++ [FilePath.stem name] ∧ path = (root.joinAll ns).join ⟨name⟩

/-- The template file at `path` declares a block `n`, which has the key path. -/
def BlockAt (d : Disk) (settings : BuildSettings) (root : FilePath) (k : List String)
    (path : FilePath) (n : String) : Prop :=
  ∃ owner, TemplateAt d settings root owner path ∧ k = owner ++ [n] ∧
    n ∈ (splitOf d settings path).blocks.map Prod.fst

/-- A directory below the root has the key path. -/
def FolderAt (d : Disk) (root : FilePath) (k : List String) : Prop := k ≠ [] ∧ Leads d root k

/-- The last declaration of a block. -/
def lastBlock? (split : SplitText) (n : String) : Option String := split.blocks.reverse.lookup n

/-- What compiles to the unit of a key path: the template file that has it, or else the last block
that is declared for it, or else nothing. -/
inductive UnitOf (d : Disk) (settings : BuildSettings) (root : FilePath) :
    List String → Renderer → Origin → Prop
  | root : UnitOf d settings root [] .empty (.root root)
  | file {k : List String} {path : FilePath} {r : Renderer} : TemplateAt d settings root k path →
      Renderer.compile path.text (splitOf d settings path).primary settings.flags = .ok r →
      UnitOf d settings root k r (.file path)
  | block {k : List String} {path : FilePath} {n body : String} {r : Renderer} :
      (∀ path, ¬ TemplateAt d settings root (k ++ [n]) path) → TemplateAt d settings root k path →
      lastBlock? (splitOf d settings path) n = some body →
      Renderer.compile (blockFilename path n) body settings.flags = .ok r →
      UnitOf d settings root (k ++ [n]) r (.block path n)
  | directory {k : List String} : (∀ path, ¬ TemplateAt d settings root k path) →
      (∀ path n, ¬ BlockAt d settings root k path n) → FolderAt d root k →
      UnitOf d settings root k .empty (.directory (root.joinAll k))

/-- The names below the unit of a key path: the blocks of its file in the order in which they are
first declared, then the files of its directory, then the directories in it, both in name order,
each name where it comes first. -/
def ChildNames (d : Disk) (settings : BuildSettings) (root : FilePath) (k : List String)
    (names : List String) : Prop :=
  ∃ blocks files folders : List String,
    names = (blocks ++ files.map FilePath.stem ++ folders).eraseDups ∧
    (∀ path, TemplateAt d settings root k path →
      blocks = (splitOf d settings path).blocks.map Prod.fst) ∧
    ((∀ path, ¬ TemplateAt d settings root k path) → blocks = []) ∧
    files.Pairwise (· < ·) ∧
    (∀ name, name ∈ files ↔
      Leads d root k ∧ d.HasTemplate settings.extension (root.joinAll k) name) ∧
    folders.Pairwise (· < ·) ∧ ∀ name, name ∈ folders ↔ Leads d root (k ++ [name])

/-! ## Lists of blocks -/

theorem lookup_of_gives {settings : BuildSettings} {path : FilePath} {bs : List (String × String)}
    {rs : List (String × Renderer)} (h : List.Forall₂ (BlockGives settings path) bs rs)
    (n : String) :
    (bs.lookup n = none ∧ rs.lookup n = none) ∨
      ∃ body r, bs.lookup n = some body ∧ rs.lookup n = some r ∧
        Renderer.compile (blockFilename path n) body settings.flags = .ok r := by
  induction h with
  | nil => exact Or.inl ⟨rfl, rfl⟩
  | @cons b r bs rs hb _ ih =>
    obtain ⟨m, body⟩ := b
    obtain ⟨m', code⟩ := r
    obtain ⟨hname, hcode⟩ := hb
    obtain rfl : m' = m := hname
    rw [List.lookup_cons, List.lookup_cons]
    cases hbeq : n == m' with
    | false => exact ih
    | true =>
      obtain rfl := eq_of_beq hbeq
      exact Or.inr ⟨body, code, rfl, rfl, hcode⟩

theorem lastBlock?_of_gives {settings : BuildSettings} {path : FilePath} {split : SplitText}
    {rs : List (String × Renderer)} (h : List.Forall₂ (BlockGives settings path) split.blocks rs)
    (n : String) :
    (lastBlock? split n = none ∧ rs.reverse.lookup n = none) ∨
      ∃ body r, lastBlock? split n = some body ∧ rs.reverse.lookup n = some r ∧
        Renderer.compile (blockFilename path n) body settings.flags = .ok r :=
  lookup_of_gives (List.rel_reverse h) n

omit [Template.Language] in
theorem lastBlock?_isSome_iff (split : SplitText) (n : String) :
    (lastBlock? split n).isSome ↔ n ∈ split.blocks.map Prod.fst := by
  rw [lastBlock?, List.lookup_isSome_iff]
  simp

/-! ## Key paths of templates -/

section Source
variable {d : Disk} {settings : BuildSettings} {root : FilePath}

omit [Template.Language] in
theorem templateAt_concat_iff (k : List String) (n : String) (path : FilePath) :
    TemplateAt d settings root (k ++ [n]) path ↔ ∃ name, Leads d root k ∧
      d.HasTemplate settings.extension (root.joinAll k) name ∧ FilePath.stem name = n ∧
      path = (root.joinAll k).join ⟨name⟩ := by
  constructor
  · rintro ⟨ns, name, hns, hname, hk, rfl⟩
    obtain ⟨rfl, hn⟩ := List.append_inj' hk rfl
    exact ⟨name, hns, hname, (List.singleton_inj.1 hn).symm, rfl⟩
  · rintro ⟨name, hk, hname, rfl, rfl⟩
    exact ⟨k, name, hk, hname, rfl, rfl⟩

omit [Template.Language] in
theorem not_templateAt_nil (path : FilePath) : ¬ TemplateAt d settings root [] path := by
  rintro ⟨ns, name, -, -, hk, -⟩
  simp at hk

omit [Template.Language] in
/-- The source has nothing but the root at the empty key path. -/
theorem ne_nil_of_source {k : List String} (h : (∃ path, TemplateAt d settings root k path) ∨
    (∃ path n, BlockAt d settings root k path n) ∨ FolderAt d root k) : k ≠ [] := by
  rcases h with ⟨path, h⟩ | ⟨path, n, owner, -, rfl, -⟩ | h
  · rintro rfl
    exact not_templateAt_nil path h
  · exact List.append_ne_nil_of_right_ne_nil owner (List.cons_ne_nil n [])
  · exact h.1

omit [Template.Language] in
theorem TemplateAt.unique {k : List String} {path path' : FilePath}
    (h : TemplateAt d settings root k path) (h' : TemplateAt d settings root k path') :
    path = path' := by
  obtain ⟨ns, name, -, hname, rfl, rfl⟩ := h
  obtain ⟨name', -, hname', hstem, rfl⟩ := (templateAt_concat_iff _ _ _).1 h'
  rw [FilePath.stem_inj hname'.1 hname.1 hstem]

/-! ## Sites of a chart -/

/-- The site is what the source has at the key path. -/
structure SiteAt (d : Disk) (settings : BuildSettings) (root : FilePath) (k : List String)
    (s : Site) : Prop where
  contents : Leads d root k → Charted d settings (root.joinAll k) s.files s.inside
  empty : ¬ Leads d root k → s.files = [] ∧ s.inside = .done
  file : ∀ path, TemplateAt d settings root k path → s.origin = .file path ∧
    Renderer.compile path.text (splitOf d settings path).primary settings.flags = .ok s.renderer ∧
    List.Forall₂ (BlockGives settings path) (splitOf d settings path).blocks s.blocks
  bare : (∀ path, ¬ TemplateAt d settings root k path) → s.blocks = []

theorem siteAt_ofRoot {files : List Compiled} {inside : Outline}
    (h : Charted d settings root files inside) :
    SiteAt d settings root [] (Site.ofRoot root files inside) where
  contents _ := h
  empty hno := absurd trivial hno
  file path hpath := absurd hpath (not_templateAt_nil path)
  bare _ := rfl

theorem SiteAt.find?_file {k : List String} {s : Site} (h : SiteAt d settings root k s)
    (n : String) :
    ((∀ path, ¬ TemplateAt d settings root (k ++ [n]) path) ∧
        s.files.find? (fun f => f.name == n) = none) ∨
      ∃ f, TemplateAt d settings root (k ++ [n]) f.path ∧ f.Reflects d settings ∧
        s.files.find? (fun f => f.name == n) = some f := by
  by_cases hk : Leads d root k
  · obtain ⟨names, -, hmem, hall⟩ := (h.contents hk).here.files
    cases hfind : s.files.find? fun f => f.name == n with
    | none =>
      left
      refine ⟨fun path hpath => ?_, rfl⟩
      obtain ⟨name, -, hname, hstem, -⟩ := (templateAt_concat_iff _ _ _).1 hpath
      obtain ⟨f, hf, -, hfname, -⟩ := exists_of_mem_left hall ((hmem name).2 hname)
      exact List.find?_eq_none.1 hfind f hf (beq_iff_eq.2 (hfname.trans hstem))
    | some f =>
      right
      obtain ⟨name, hname, hpath, hfname, hreflects⟩ :=
        exists_of_mem_right hall (List.mem_of_find?_eq_some hfind)
      have hbeq := List.find?_some hfind
      have hn : f.name = n := eq_of_beq hbeq
      refine ⟨f, (templateAt_concat_iff _ _ _).2 ?_, hreflects, rfl⟩
      exact ⟨name, hk, (hmem name).1 hname, hfname.symm.trans hn, hpath⟩
  · left
    refine ⟨fun path hpath => ?_, by rw [(h.empty hk).1, List.find?_nil]⟩
    obtain ⟨name, hk', -⟩ := (templateAt_concat_iff _ _ _).1 hpath
    exact hk hk'

theorem SiteAt.find?_folder {k : List String} {s : Site} (h : SiteAt d settings root k s)
    (n : String) :
    (¬ Leads d root (k ++ [n]) ∧ s.inside.find? n = none) ∨
      ∃ files inside, Leads d root (k ++ [n]) ∧
        Charted d settings (root.joinAll (k ++ [n])) files inside ∧
        s.inside.find? n = some (root.joinAll (k ++ [n]), files, inside) := by
  by_cases hk : Leads d root k
  · rw [leads_concat, joinAll_append]
    by_cases hn : d.Holds (root.joinAll k) n .directory
    · right
      obtain ⟨files, inside, hfind, hchart⟩ := (h.contents hk).find? hn
      exact ⟨files, inside, ⟨hk, hn⟩, hchart, hfind⟩
    · left
      refine ⟨fun hkn => hn hkn.2, (Outline.find?_eq_none_iff _ _).2 fun hmem => hn ?_⟩
      exact ((h.contents hk).here.mem_folders n).1 hmem
  · left
    rw [leads_concat]
    exact ⟨fun hkn => hk hkn.1, by rw [(h.empty hk).2, Outline.find?]⟩

omit [Template.Language] in
theorem BlockAt.of_concat {k : List String} {m n : String} {path : FilePath}
    (h : BlockAt d settings root (k ++ [n]) path m) :
    m = n ∧ TemplateAt d settings root k path ∧
      (lastBlock? (splitOf d settings path) n).isSome := by
  obtain ⟨owner, howner, hk, hn⟩ := h
  obtain ⟨rfl, hm⟩ := List.append_inj' hk rfl
  obtain rfl := List.singleton_inj.1 hm
  exact ⟨rfl, howner, (lastBlock?_isSome_iff _ _).2 hn⟩

/-- What stands at a name before directories are seen. -/
theorem SiteAt.template? {k : List String} {s : Site} (h : SiteAt d settings root k s)
    (n : String) :
    (∃ f, TemplateAt d settings root (k ++ [n]) f.path ∧ f.Reflects d settings ∧
      s.template? n = some (Site.ofFile f)) ∨
    ((∀ path, ¬ TemplateAt d settings root (k ++ [n]) path) ∧
      ((∃ path r, UnitOf d settings root (k ++ [n]) r (.block path n) ∧
        s.template? n = some (Site.bare r (.block path n))) ∨
      ((∀ path m, ¬ BlockAt d settings root (k ++ [n]) path m) ∧ s.template? n = none))) := by
  rcases h.find?_file n with ⟨hno, hfind⟩ | ⟨f, hf, hreflects, hfind⟩
  case inr =>
    left
    refine ⟨f, hf, hreflects, ?_⟩
    rw [Site.template?, hfind]
  right
  refine ⟨hno, ?_⟩
  simp only [Site.template?, hfind]
  by_cases htemplate : ∃ path, TemplateAt d settings root k path
  · obtain ⟨path, hpath⟩ := htemplate
    obtain ⟨horigin, -, hblocks⟩ := h.file path hpath
    rcases lastBlock?_of_gives hblocks n with ⟨hnone, hlookup⟩ | ⟨body, r, hbody, hlookup, hcompile⟩
    · right
      refine ⟨fun path' m hpath' => ?_, by rw [hlookup, Option.map_none]⟩
      obtain ⟨-, howner, hsome⟩ := hpath'.of_concat
      rw [← hpath.unique howner, hnone] at hsome
      cases hsome
    · left
      refine ⟨path, r, .block hno hpath hbody hcompile, ?_⟩
      rw [hlookup, horigin, Option.map_some, Origin.path]
  · right
    have hnone : ∀ path, ¬ TemplateAt d settings root k path := fun path hp => htemplate ⟨path, hp⟩
    refine ⟨fun path m hpath => hnone path hpath.of_concat.2.1, ?_⟩
    rw [h.bare hnone]
    rfl

/-- The directory of a name adds its contents to what stands there. -/
theorem SiteAt.child?_of_stub {k : List String} {s b : Site} (h : SiteAt d settings root k s)
    {n : String} (hfiles : b.files = []) (hinside : b.inside = .done)
    (hfile : ∀ path, TemplateAt d settings root (k ++ [n]) path → b.origin = .file path ∧
      Renderer.compile path.text (splitOf d settings path).primary settings.flags = .ok b.renderer ∧
      List.Forall₂ (BlockGives settings path) (splitOf d settings path).blocks b.blocks)
    (hbare : (∀ path, ¬ TemplateAt d settings root (k ++ [n]) path) → b.blocks = [])
    (hb : s.template? n = some b ∨ (s.template? n = none ∧ Leads d root (k ++ [n]) ∧
      b = .bare .empty (.directory (root.joinAll (k ++ [n]))))) :
    ∃ c, s.child? n = some c ∧ SiteAt d settings root (k ++ [n]) c ∧ c.renderer = b.renderer ∧
      c.origin = b.origin := by
  rcases h.find?_folder n with ⟨hno, hfind⟩ | ⟨files, inside, hleads, hchart, hfind⟩
  · refine ⟨b, ?_, ⟨fun hk => absurd hk hno, fun _ => ⟨hfiles, hinside⟩, hfile, hbare⟩, rfl, rfl⟩
    rw [Site.child?, hfind]
    rcases hb with hb | ⟨-, hleads, -⟩
    · exact hb
    · exact absurd hleads hno
  · have hsite : SiteAt d settings root (k ++ [n]) { b with files, inside } :=
      ⟨fun _ => hchart, fun hno => absurd hleads hno, hfile, hbare⟩
    refine ⟨_, ?_, hsite, rfl, rfl⟩
    rw [Site.child?, hfind]
    rcases hb with hb | ⟨hb, -, rfl⟩
    · rw [hb]
      rfl
    · rw [hb]
      rfl

/-- **One name further down.** -/
theorem SiteAt.child? {k : List String} {s : Site} (h : SiteAt d settings root k s) (n : String) :
    (∃ c, s.child? n = some c ∧ SiteAt d settings root (k ++ [n]) c ∧
      UnitOf d settings root (k ++ [n]) c.renderer c.origin) ∨
    (s.child? n = none ∧ (∀ path, ¬ TemplateAt d settings root (k ++ [n]) path) ∧
      (∀ path m, ¬ BlockAt d settings root (k ++ [n]) path m) ∧ ¬ Leads d root (k ++ [n])) := by
  have hne : k ++ [n] ≠ [] := List.append_ne_nil_of_right_ne_nil k (List.cons_ne_nil n [])
  rcases h.template? n with ⟨f, hf, hreflects, ht⟩ | ⟨hno, ⟨path, r, hunit, ht⟩ | ⟨hnob, ht⟩⟩
  · left
    obtain ⟨c, hc, hsite, hr, ho⟩ := h.child?_of_stub (b := .ofFile f) rfl rfl
      (fun path hpath => by
        obtain rfl := hf.unique hpath
        exact ⟨rfl, hreflects.primary, hreflects.blocks⟩)
      (fun hno => absurd hf (hno f.path)) (Or.inl ht)
    refine ⟨c, hc, hsite, ?_⟩
    rw [hr, ho]
    exact .file hf hreflects.primary
  · left
    obtain ⟨c, hc, hsite, hr, ho⟩ := h.child?_of_stub (b := .bare r (.block path n)) rfl rfl
      (fun path hpath => absurd hpath (hno path)) (fun _ => rfl) (Or.inl ht)
    refine ⟨c, hc, hsite, ?_⟩
    rw [hr, ho]
    exact hunit
  · by_cases hleads : Leads d root (k ++ [n])
    · left
      obtain ⟨c, hc, hsite, hr, ho⟩ := h.child?_of_stub rfl rfl
        (fun path hpath => absurd hpath (hno path)) (fun _ => rfl) (Or.inr ⟨ht, hleads, rfl⟩)
      refine ⟨c, hc, hsite, ?_⟩
      rw [hr, ho]
      exact .directory hno hnob ⟨hne, hleads⟩
    · right
      refine ⟨?_, hno, hnob, hleads⟩
      rcases h.find?_folder n with ⟨-, hfind⟩ | ⟨files, inside, hk, -, -⟩
      · rw [Site.child?, hfind]
        exact ht
      · exact absurd hk hleads

/-! ## Sites of a root -/

section Chart
variable {files : List Compiled} {inside : Outline} (hchart : Charted d settings root files inside)

include hchart

theorem siteAt_of_follow {k : List String} {s : Site}
    (h : (Site.ofRoot root files inside).follow k = some s) :
    SiteAt d settings root k s ∧ UnitOf d settings root k s.renderer s.origin := by
  induction k using List.reverseRecOn generalizing s with
  | nil =>
    obtain rfl := Option.some.inj h
    exact ⟨siteAt_ofRoot hchart, .root⟩
  | append_singleton k n ih =>
    rw [Site.follow_concat, Option.bind_eq_some_iff] at h
    obtain ⟨p, hp, hc⟩ := h
    rcases (ih hp).1.child? n with ⟨c, hc', hsite, hunit⟩ | ⟨hnone, -⟩
    · obtain rfl := Option.some.inj (hc'.symm.trans hc)
      exact ⟨hsite, hunit⟩
    · rw [hnone] at hc
      cases hc

theorem isSome_follow_of_leads {k : List String} (h : Leads d root k) :
    ((Site.ofRoot root files inside).follow k).isSome := by
  induction k using List.reverseRecOn with
  | nil => rfl
  | append_singleton k n ih =>
    obtain ⟨s, hs⟩ := Option.isSome_iff_exists.1 (ih ((leads_concat d root k n).1 h).1)
    rw [Site.follow_concat, hs, Option.bind_some]
    rcases (siteAt_of_follow hchart hs).1.child? n with ⟨c, hc, -⟩ | ⟨-, -, -, hno⟩
    · rw [hc]
      rfl
    · exact absurd h hno

theorem isSome_follow_of_templateAt {k : List String} {path : FilePath}
    (h : TemplateAt d settings root k path) :
    ((Site.ofRoot root files inside).follow k).isSome := by
  obtain ⟨ns, name, hns, -, rfl, -⟩ := id h
  obtain ⟨s, hs⟩ := Option.isSome_iff_exists.1 (isSome_follow_of_leads hchart hns)
  rw [Site.follow_concat, hs, Option.bind_some]
  rcases (siteAt_of_follow hchart hs).1.child? (FilePath.stem name) with ⟨c, hc, -⟩ | ⟨-, hno, -, -⟩
  · rw [hc]
    rfl
  · exact absurd h (hno path)

theorem isSome_follow_of_blockAt {k : List String} {path : FilePath} {n : String}
    (h : BlockAt d settings root k path n) :
    ((Site.ofRoot root files inside).follow k).isSome := by
  obtain ⟨owner, howner, rfl, -⟩ := id h
  obtain ⟨s, hs⟩ := Option.isSome_iff_exists.1 (isSome_follow_of_templateAt hchart howner)
  rw [Site.follow_concat, hs, Option.bind_some]
  rcases (siteAt_of_follow hchart hs).1.child? n with ⟨c, hc, -⟩ | ⟨-, -, hno, -⟩
  · rw [hc]
    rfl
  · exact absurd h (hno path n)

/-- **The key paths of sites.** -/
theorem isSome_follow_iff {k : List String} (hk : k ≠ []) :
    ((Site.ofRoot root files inside).follow k).isSome ↔
      (∃ path, TemplateAt d settings root k path) ∨ (∃ path n, BlockAt d settings root k path n) ∨
        FolderAt d root k := by
  constructor
  · intro h
    obtain ⟨s, hs⟩ := Option.isSome_iff_exists.1 h
    have hunit := (siteAt_of_follow hchart hs).2
    generalize s.renderer = r at hunit
    generalize s.origin = o at hunit
    cases hunit with
    | root => exact absurd rfl hk
    | file htemplate => exact Or.inl ⟨_, htemplate⟩
    | @block owner path n body r _ howner hbody _ =>
      refine Or.inr (Or.inl ⟨path, n, owner, howner, rfl, ?_⟩)
      rw [← lastBlock?_isSome_iff, hbody]
      rfl
    | directory _ _ hfolder => exact Or.inr (Or.inr hfolder)
  · rintro (⟨path, h⟩ | ⟨path, n, h⟩ | h)
    · exact isSome_follow_of_templateAt hchart h
    · exact isSome_follow_of_blockAt hchart h
    · exact isSome_follow_of_leads hchart h.2

end Chart

theorem SiteAt.childNames {k : List String} {s : Site} (h : SiteAt d settings root k s) :
    ChildNames d settings root k s.names := by
  have hblocks : ∀ path, TemplateAt d settings root k path →
      s.blocks.map Prod.fst = (splitOf d settings path).blocks.map Prod.fst := by
    intro path hpath
    exact map_eq_map_of_forall₂ (h.file path hpath).2.2 fun _ _ hgives => hgives.1
  have hnone : (∀ path, ¬ TemplateAt d settings root k path) → s.blocks.map Prod.fst = [] := by
    intro hno
    rw [h.bare hno, List.map_nil]
  by_cases hk : Leads d root k
  · have hhere := (h.contents hk).here
    obtain ⟨names, hsorted, hmem, hall⟩ := hhere.files
    have hfiles : s.files.map Compiled.name = names.map FilePath.stem :=
      map_eq_map_of_forall₂ hall fun _ _ hfile => hfile.2.1
    refine ⟨s.blocks.map Prod.fst, names, s.inside.names, by rw [Site.names, hfiles], hblocks,
      hnone, hsorted, fun name => ?_, hhere.folders_pairwise, fun name => ?_⟩
    · rw [hmem]
      exact ⟨fun hname => ⟨hk, hname⟩, And.right⟩
    · rw [hhere.mem_folders, leads_concat]
      exact ⟨fun hname => ⟨hk, hname⟩, And.right⟩
  · obtain ⟨hfiles, hinside⟩ := h.empty hk
    refine ⟨s.blocks.map Prod.fst, [], [], by rw [Site.names, hfiles, hinside]; rfl, hblocks, hnone,
      .nil, fun name => ?_, .nil, fun name => ?_⟩
    · exact ⟨fun hname => absurd hname List.not_mem_nil, fun hname => absurd hname.1 hk⟩
    · rw [leads_concat]
      exact ⟨fun hname => absurd hname List.not_mem_nil, fun hname => absurd hname.1 hk⟩

end Source

/-! ## Top theorems -/

/-- A tree has the units of the source and no others. -/
structure Shaped (d : Disk) (settings : BuildSettings) (root : FilePath) (t : UnitTree) : Prop where
  resolve_iff : ∀ k i, t.resolve k = some i ↔ i ∈ t.descendants rootId ∧ t.keyPath i = k
  nodup_keyPaths : t.keyPaths.Nodup
  mem_keyPaths : ∀ k, k ∈ t.keyPaths ↔
    (∃ path, TemplateAt d settings root k.segments path) ∨
      (∃ path n, BlockAt d settings root k.segments path n) ∨ FolderAt d root k.segments
  unitOf : ∀ k i u, t.resolve k = some i → t.unit? i = some u →
    UnitOf d settings root k.segments u.renderer u.origin
  childNames : ∀ k i, t.resolve k = some i → ChildNames d settings root k.segments (t.names i)

theorem shaped_grown {d : Disk} (hd : d.WellFormed) {settings : BuildSettings} {root : FilePath}
    {files : List Compiled} {inside : Outline} (hchart : Charted d settings root files inside)
    (builtAt : Time) : Shaped d settings root (grown root builtAt files inside) := by
  obtain ⟨hfiles, hinside⟩ := hchart.tidy hd
  have hgrows := grows_grown root builtAt hfiles hinside
  have hlinked := hgrows.linked (linked_ofRoot _ _ _ _)
  have hnamed := hgrows.named (linked_ofRoot _ _ _ _) (named_rootOnly root builtAt)
  have hshown := shown?_grown root builtAt hfiles hinside
  generalize grown root builtAt files inside = t at hlinked hnamed hshown
  have hsite : ∀ k i u, t.resolve k = some i → t.unit? i = some u →
      ∃ s, (Site.ofRoot root files inside).follow k.segments = some s ∧
        u.renderer = s.renderer ∧ u.origin = s.origin ∧ t.names i = s.names := by
    intro k i u hi hu
    have hk := hshown k.segments
    rw [shown?, ← resolve_eq, hi, Option.bind_some, shownOf?, hu, Option.map_some, eq_comm,
      Option.map_eq_some_iff] at hk
    obtain ⟨s, hs, hshow⟩ := hk
    obtain ⟨hr, ho, hn⟩ := (Shown.mk.injEq _ _ _ _ _ _).mp hshow
    exact ⟨s, hs, hr.symm, ho.symm, hn.symm⟩
  have hsome : ∀ k : KeyPath, (t.resolve k).isSome ↔
      ((Site.ofRoot root files inside).follow k.segments).isSome := by
    intro k
    rw [resolve_eq, ← hlinked.isSome_shown?, hshown, Option.isSome_map]
  refine ⟨hlinked.resolve_eq_some_iff hnamed, hlinked.nodup_keyPaths hnamed, fun k => ?_,
    fun k i u hi hu => ?_, fun k i hi => ?_⟩
  · rw [hlinked.mem_keyPaths hnamed, hsome]
    constructor
    · rintro ⟨hk, h⟩
      exact (isSome_follow_iff hchart hk).1 h
    · intro h
      have hk := ne_nil_of_source h
      exact ⟨hk, (isSome_follow_iff hchart hk).2 h⟩
  · obtain ⟨s, hs, hr, ho, -⟩ := hsite k i u hi hu
    rw [hr, ho]
    exact (siteAt_of_follow hchart hs).2
  · obtain ⟨u, hu⟩ := unit?_isSome (hlinked.follow_lt hlinked.root_lt hi)
    obtain ⟨s, hs, -, -, hn⟩ := hsite k i u hi hu
    rw [hn]
    exact (siteAt_of_follow hchart hs).1.childNames

/-- **A source that can be read and compiles gives a tree of its shape.** -/
theorem exists_build_shaped {d : Disk} (hd : d.WellFormed) {settings : BuildSettings}
    {root : FilePath} (h : Buildable d settings root) (builtAt : Time) :
    ∃ t, build d settings root builtAt = .ok t ∧ Shaped d settings root t := by
  obtain ⟨t, ht⟩ := (build_iff hd settings root builtAt).1 h
  obtain ⟨files, inside, hchart, rfl⟩ := charted_of_build hd ht
  exact ⟨_, ht, shaped_grown hd hchart builtAt⟩

end

theorem exists_build_shaped_smallSource :
    (smallSource 5 9).WellFormed ∧ Buildable (smallSource 5 9) smallSettings ⟨"views"⟩ ∧
      ∃ t, build (smallSource 5 9) smallSettings ⟨"views"⟩ 12 = .ok t ∧
        Shaped (smallSource 5 9) smallSettings ⟨"views"⟩ t := by
  have hd := wellFormed_smallSource 5 9
  obtain ⟨a, d, c, hb⟩ := build_smallSource 5 9
  have hbuildable := (build_iff hd smallSettings ⟨"views"⟩ 12).2 ⟨_, hb⟩
  exact ⟨hd, hbuildable, exists_build_shaped hd hbuildable 12⟩

end TemplateBundler.Source
