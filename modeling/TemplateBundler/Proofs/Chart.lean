import Mathlib.Data.List.Permutation
import TemplateBundler.Proofs.Scan
import TemplateBundler.Proofs.Sites
import TemplateBundler.Template.Stock

/-!
# From the disk to the outline

A build succeeds where every directory that names lead to can be listed and every template file in
them is text and compiles, with all its blocks. What it plants is then a chart of the source: at
every depth the template files and the directories of the disk, each once and in the order of their
names.

    Buildable d settings root ↔ ∃ t, build d settings root now = .ok t                (build_iff)
    build d settings root now = .ok t →
      ∃ files inside, Charted d settings root files inside ∧ t = grown root now files inside
                                                                              (charted_of_build)
-/

namespace TemplateBundler.Source

/-! ## Template files that compile -/

/-- The text of a file, empty where there is none. -/
def textOf (d : Disk) (path : FilePath) : String :=
  match d.readText path with
  | .ok text => text
  | .error _ => ""

/-- The template file at `path`, cut at its delimiter lines. -/
def splitOf (d : Disk) (settings : BuildSettings) (path : FilePath) : SplitText :=
  .ofText settings.extension (textOf d path)

/-- The modification time of the file at `path`. -/
def timeOf (d : Disk) (path : FilePath) : Time :=
  match d.modified? path with
  | .ok (some time) => time
  | _ => Time.never

section

variable [Template.Language]

/-- A template file is text, and its primary body and its blocks compile. -/
structure Compiles (d : Disk) (settings : BuildSettings) (path : FilePath) : Prop where
  text : ∃ text, d.readText path = .ok text
  primary : ∃ r, Renderer.compile path.text (splitOf d settings path).primary settings.flags = .ok r
  blocks : ∀ b ∈ (splitOf d settings path).blocks,
    ∃ r, Renderer.compile (blockFilename path b.1) b.2 settings.flags = .ok r

/-- Every directory can be listed, and every template file in them compiles. -/
structure Buildable (d : Disk) (settings : BuildSettings) (root : FilePath) : Prop where
  lists : ∀ ns, Leads d root ns → d.Lists (root.joinAll ns)
  compiles : ∀ ns name, Leads d root ns →
    d.HasTemplate settings.extension (root.joinAll ns) name →
    Compiles d settings ((root.joinAll ns).join ⟨name⟩)

theorem Buildable.readable {d : Disk} {settings : BuildSettings} {root : FilePath}
    (h : Buildable d settings root) : Readable d settings.extension root :=
  ⟨h.lists, fun ns name hns hname => (h.compiles ns name hns hname).text⟩

theorem Buildable.inner {d : Disk} {settings : BuildSettings} {path : FilePath} {n : String}
    (h : Buildable d settings path) (hn : d.Holds path n .directory) :
    Buildable d settings (path.join ⟨n⟩) where
  lists ns hns := h.lists (n :: ns) ⟨hn, hns⟩
  compiles ns name hns := h.compiles (n :: ns) name ⟨hn, hns⟩

/-- A block of the file at `path` gives the renderer under its name. -/
def BlockGives (settings : BuildSettings) (path : FilePath) (b : String × String)
    (r : String × Renderer) : Prop :=
  r.1 = b.1 ∧ Renderer.compile (blockFilename path b.1) b.2 settings.flags = .ok r.2

/-- A file is compiled from what the disk has under its path. -/
structure Compiled.Reflects (d : Disk) (settings : BuildSettings) (c : Compiled) : Prop where
  time : c.time = timeOf d c.path
  text : ∃ text, d.readText c.path = .ok text
  primary : Renderer.compile c.path.text (splitOf d settings c.path).primary settings.flags =
    .ok c.renderer
  blocks : List.Forall₂ (BlockGives settings c.path) (splitOf d settings c.path).blocks c.blocks

theorem compileUnit_none_eq_ok_iff (settings : BuildSettings) (path : FilePath) (text : String)
    (r : Renderer) : compileUnit settings path none text = .ok r ↔
      Renderer.compile path.text text settings.flags = .ok r := by
  unfold compileUnit
  cases hc : Renderer.compile path.text text settings.flags <;> simp [hc]

theorem compileBlock_eq_ok_iff (settings : BuildSettings) (path : FilePath) (b : String × String)
    (r : String × Renderer) :
    compileBlock settings path b = .ok r ↔ BlockGives settings path b r := by
  obtain ⟨n, code⟩ := r
  unfold compileBlock compileUnit BlockGives
  cases hc : Renderer.compile (blockFilename path b.1) b.2 settings.flags with
  | error e => simp [hc, Except.map]
  | ok r => simp [hc, Except.map, eq_comm]

omit [Template.Language] in
theorem readFile_eq_ok_iff (d : Disk) (path : FilePath) (time : Time) (text : String) :
    readFile d path = .ok (time, text) ↔ d.readText path = .ok text ∧ time = timeOf d path := by
  constructor
  · intro h
    have htext : d.readText path = .ok text := by
      unfold readFile at h
      simp only [bind_eq_ok_iff, Except.ok.injEq, Prod.mk.injEq] at h
      obtain ⟨_, -, _, htext, -, rfl⟩ := h
      exact htext
    obtain ⟨time', hm, hread⟩ := readFile_of_readText htext
    rw [hread, Except.ok.injEq, Prod.mk.injEq] at h
    refine ⟨htext, ?_⟩
    rw [timeOf, hm, h.1]
  · rintro ⟨htext, rfl⟩
    obtain ⟨time', hm, hread⟩ := readFile_of_readText htext
    rw [hread, timeOf, hm]

theorem compileFile_templateFile_iff (d : Disk) (settings : BuildSettings) (path : FilePath)
    (name : String) (c : Compiled) :
    compileFile settings (templateFile d path name) = .ok c ↔
      c.path = path.join ⟨name⟩ ∧ c.name = FilePath.stem name ∧ c.Reflects d settings := by
  rw [compileFile_eq_ok_iff]
  have hsplit : ∀ (p : FilePath) (text : String), d.readText p = .ok text →
      splitOf d settings p = .ofText settings.extension text := by
    intro p text h
    rw [splitOf, textOf, h]
  have hblocks : ∀ (p : FilePath) (bs : List (String × String)) (rs : List (String × Renderer)),
      bs.mapM (compileBlock settings p) = .ok rs ↔
        List.Forall₂ (BlockGives settings p) bs rs := by
    intro p bs rs
    rw [mapM_eq_ok_iff]
    simp only [compileBlock_eq_ok_iff]
  simp only [templateFile, readFile_eq_ok_iff, compileUnit_none_eq_ok_iff, hblocks]
  constructor
  · rintro ⟨text, ⟨htext, htime⟩, hpath, hname, hprimary, hbs⟩
    refine ⟨hpath, hname, ?_⟩
    rw [← hpath] at htext htime hprimary hbs
    rw [← hsplit _ _ htext] at hprimary hbs
    exact ⟨htime, ⟨text, htext⟩, hprimary, hbs⟩
  · rintro ⟨hpath, hname, ⟨htime, ⟨text, htext⟩, hprimary, hbs⟩⟩
    refine ⟨text, ?_⟩
    rw [hsplit _ _ htext] at hprimary hbs
    rw [← hpath]
    exact ⟨⟨htext, htime⟩, rfl, hname, hprimary, hbs⟩

theorem Compiled.Reflects.compiles {d : Disk} {settings : BuildSettings} {c : Compiled}
    (h : c.Reflects d settings) : Compiles d settings c.path where
  text := h.text
  primary := ⟨_, h.primary⟩
  blocks b hb := by
    obtain ⟨r, -, -, hr⟩ := exists_of_mem_left h.blocks hb
    exact ⟨_, hr⟩

theorem Compiles.exists_compileFile {d : Disk} {settings : BuildSettings} {path : FilePath}
    {name : String} (h : Compiles d settings (path.join ⟨name⟩)) :
    ∃ c, compileFile settings (templateFile d path name) = .ok c := by
  obtain ⟨r, hr⟩ := h.primary
  have hgives : ∀ b ∈ (splitOf d settings (path.join ⟨name⟩)).blocks,
      ∃ r, BlockGives settings (path.join ⟨name⟩) b r := by
    intro b hb
    obtain ⟨r, hr⟩ := h.blocks b hb
    exact ⟨(b.1, r), rfl, hr⟩
  obtain ⟨bs, hbs⟩ := exists_forall₂ hgives
  refine ⟨⟨path.join ⟨name⟩, FilePath.stem name, timeOf d (path.join ⟨name⟩), r, bs⟩, ?_⟩
  rw [compileFile_templateFile_iff]
  exact ⟨rfl, rfl, ⟨rfl, h.text, hr, hbs⟩⟩

/-! ## Charts -/

/-- What is in the directory at `path`: its template files compiled, and the names of its
directories. -/
structure Here (d : Disk) (settings : BuildSettings) (path : FilePath) (files : List Compiled)
    (folders : List String) : Prop where
  lists : d.Lists path
  files : ∃ names : List String, names.Pairwise (· < ·) ∧
    (∀ n, n ∈ names ↔ d.HasTemplate settings.extension path n) ∧
    List.Forall₂ (fun n c => c.path = path.join ⟨n⟩ ∧ c.name = FilePath.stem n ∧
      c.Reflects d settings) names files
  folders_pairwise : folders.Pairwise (· < ·)
  mem_folders : ∀ n, n ∈ folders ↔ d.Holds path n .directory

/-- Each directory of a row lies at `path`, and it has at every depth what the disk has. -/
def Outline.Charts (d : Disk) (settings : BuildSettings) : Outline → FilePath → Prop
  | done, _ => True
  | folder name inner files inside rest, path =>
    inner = path.join ⟨name⟩ ∧ Here d settings inner files inside.names ∧
      inside.Charts d settings inner ∧ rest.Charts d settings path

/-- The contents of the directory at `path`, at every depth. -/
structure Charted (d : Disk) (settings : BuildSettings) (path : FilePath) (files : List Compiled)
    (inside : Outline) : Prop where
  here : Here d settings path files inside.names
  inner : inside.Charts d settings path

theorem Outline.Charts.of_find? {d : Disk} {settings : BuildSettings} {path inner : FilePath}
    {o inside : Outline} {files : List Compiled} {n : String} (h : o.Charts d settings path)
    (hfind : o.find? n = some (inner, files, inside)) :
    inner = path.join ⟨n⟩ ∧ Charted d settings inner files inside := by
  induction o with
  | done => cases hfind
  | folder name inner' files' inside' rest _ ih =>
    obtain ⟨hinner, hhere, hdown, hrest⟩ := h
    rw [Outline.find?] at hfind
    split at hfind
    · next hn =>
      obtain ⟨rfl, hrow⟩ := Prod.mk.inj (Option.some.inj hfind)
      obtain ⟨rfl, rfl⟩ := Prod.mk.inj hrow
      exact ⟨hn ▸ hinner, hhere, hdown⟩
    · exact ih hrest hfind

/-- A directory that is there is in the chart. -/
theorem Charted.find? {d : Disk} {settings : BuildSettings} {path : FilePath}
    {files : List Compiled} {inside : Outline} (h : Charted d settings path files inside)
    {n : String} (hn : d.Holds path n .directory) :
    ∃ files' inside', inside.find? n = some (path.join ⟨n⟩, files', inside') ∧
      Charted d settings (path.join ⟨n⟩) files' inside' := by
  cases hfind : inside.find? n with
  | none => exact absurd ((h.here.mem_folders n).2 hn) ((Outline.find?_eq_none_iff _ _).1 hfind)
  | some found =>
    obtain ⟨inner, files', inside'⟩ := found
    obtain ⟨rfl, hinner⟩ := h.inner.of_find? hfind
    exact ⟨files', inside', rfl, hinner⟩

theorem Charted.of_leads {d : Disk} {settings : BuildSettings} {path : FilePath}
    {files : List Compiled} {inside : Outline} (h : Charted d settings path files inside)
    {ns : List String} (hns : Leads d path ns) :
    ∃ files' inside', Charted d settings (path.joinAll ns) files' inside' := by
  induction ns generalizing path files inside with
  | nil => exact ⟨files, inside, h⟩
  | cons n ns ih =>
    obtain ⟨files', inside', -, hinner⟩ := h.find? hns.1
    exact ih hinner hns.2

/-- Where a chart was made, a build goes through. -/
theorem Charted.buildable {d : Disk} {settings : BuildSettings} {root : FilePath}
    {files : List Compiled} {inside : Outline} (h : Charted d settings root files inside) :
    Buildable d settings root where
  lists ns hns := by
    obtain ⟨files', inside', hc⟩ := h.of_leads hns
    exact hc.here.lists
  compiles ns name hns hname := by
    obtain ⟨files', inside', hc⟩ := h.of_leads hns
    obtain ⟨names, -, hmem, hall⟩ := hc.here.files
    obtain ⟨c, -, hpath, -, hreflects⟩ := exists_of_mem_left hall ((hmem name).2 hname)
    exact hpath ▸ hreflects.compiles

/-! ## A scan gives a chart -/

theorem here_of_entries {d : Disk} (hd : d.WellFormed) {settings : BuildSettings} {path : FilePath}
    {listed : List (String × FilePath × Entry)}
    (he : entries d settings.extension path = .ok listed)
    {files : List Compiled} (hf : (filesOf d listed).mapM (compileFile settings) = .ok files) :
    Here d settings path files ((foldersOf listed).map Prod.fst) where
  lists := lists_of_entries hd he
  files := by
    refine ⟨namesOf Entry.isTemplate listed, namesOf_pairwise he hd _, mem_templateNames he hd, ?_⟩
    rw [filesOf_eq he, mapM_eq_ok_iff, List.forall₂_map_left_iff] at hf
    simp only [compileFile_templateFile_iff] at hf
    exact hf
  folders_pairwise := by
    rw [map_fst_foldersOf he]
    exact namesOf_pairwise he hd _
  mem_folders n := by
    rw [map_fst_foldersOf he]
    exact mem_folderNames he hd n

omit [Template.Language] in
theorem join_of_mem_foldersOf {d : Disk} {extension : String} {path : FilePath}
    {listed : List (String × FilePath × Entry)} (he : entries d extension path = .ok listed)
    {entry : String × FilePath} (h : entry ∈ foldersOf listed) :
    entry.2 = path.join ⟨entry.1⟩ := by
  rw [foldersOf_eq he] at h
  obtain ⟨n, -, rfl⟩ := List.mem_map.1 h
  rfl

theorem charts_of_mirrors {d : Disk} (hd : d.WellFormed) {settings : BuildSettings}
    {folders : Folders} {row : List (String × FilePath)} {path : FilePath} {o : Outline}
    (h : folders.Mirrors d settings.extension row)
    (hrow : ∀ entry ∈ row, entry.2 = path.join ⟨entry.1⟩)
    (ho : outlineOf settings folders = .ok o) :
    o.names = row.map Prod.fst ∧ o.Charts d settings path := by
  induction folders generalizing row path o with
  | done =>
    obtain rfl := h
    obtain rfl := Except.ok.inj ho
    exact ⟨rfl, trivial⟩
  | failed path e => cases h
  | folder name inner files inside rest ihi ihr =>
    obtain ⟨⟨listed, he, rfl, hinside⟩, row', rfl, hrest⟩ := h
    rw [outlineOf_folder_eq_ok_iff] at ho
    obtain ⟨cs, oi, orest, hcs, hoi, hor, rfl⟩ := ho
    obtain ⟨hnames, hcharts⟩ := ihi hinside (fun entry => join_of_mem_foldersOf he) hoi
    obtain ⟨hnames', hcharts'⟩ :=
      ihr hrest (fun entry hmem => hrow entry (List.mem_cons_of_mem _ hmem)) hor
    refine ⟨by rw [Outline.names, hnames', List.map_cons], hrow _ List.mem_cons_self, ?_, hcharts,
      hcharts'⟩
    rw [hnames]
    exact here_of_entries hd he hcs

theorem charted_of_scanned {d : Disk} (hd : d.WellFormed) {settings : BuildSettings}
    {path : FilePath} {files : List SourceFile} {inside : Folders} {cs : List Compiled}
    {o : Outline} (h : Scanned d settings.extension path files inside)
    (hcs : files.mapM (compileFile settings) = .ok cs) (ho : outlineOf settings inside = .ok o) :
    Charted d settings path cs o := by
  obtain ⟨listed, he, rfl, hinside⟩ := h
  obtain ⟨hnames, hcharts⟩ := charts_of_mirrors hd hinside
    (fun entry => join_of_mem_foldersOf he) ho
  refine ⟨?_, hcharts⟩
  rw [hnames]
  exact here_of_entries hd he hcs

/-! ## Where a chart can be made -/

theorem exists_compiled {d : Disk} (hd : d.WellFormed) {settings : BuildSettings} {path : FilePath}
    {listed : List (String × FilePath × Entry)}
    (he : entries d settings.extension path = .ok listed)
    (h : Buildable d settings path) :
    ∃ cs, (filesOf d listed).mapM (compileFile settings) = .ok cs := by
  have hfile : ∀ f ∈ filesOf d listed, ∃ c, compileFile settings f = .ok c := by
    intro f hf
    rw [filesOf_eq he] at hf
    obtain ⟨name, hname, rfl⟩ := List.mem_map.1 hf
    exact (h.compiles [] name trivial ((mem_templateNames he hd name).1 hname)).exists_compileFile
  obtain ⟨cs, hcs⟩ := exists_forall₂ hfile
  exact ⟨cs, (mapM_eq_ok_iff _ _ _).2 hcs⟩

theorem buildable_of_mem_foldersOf {d : Disk} (hd : d.WellFormed) {settings : BuildSettings}
    {path : FilePath} {listed : List (String × FilePath × Entry)}
    (he : entries d settings.extension path = .ok listed) (h : Buildable d settings path)
    {entry : String × FilePath} (hmem : entry ∈ foldersOf listed) :
    Buildable d settings entry.2 := by
  rw [foldersOf_eq he] at hmem
  obtain ⟨n, hn, rfl⟩ := List.mem_map.1 hmem
  exact h.inner ((mem_folderNames he hd n).1 hn)

theorem exists_outline {d : Disk} (hd : d.WellFormed) {settings : BuildSettings} {folders : Folders}
    {row : List (String × FilePath)} (h : folders.Mirrors d settings.extension row)
    (hrow : ∀ entry ∈ row, Buildable d settings entry.2) :
    ∃ o, outlineOf settings folders = .ok o := by
  induction folders generalizing row with
  | done => exact ⟨.done, rfl⟩
  | failed path e => cases h
  | folder name inner files inside rest ihi ihr =>
    obtain ⟨⟨listed, he, rfl, hinside⟩, row', rfl, hrest⟩ := h
    have hinner : Buildable d settings inner := hrow (name, inner) List.mem_cons_self
    obtain ⟨cs, hcs⟩ := exists_compiled hd he hinner
    obtain ⟨oi, hoi⟩ := ihi hinside fun entry => buildable_of_mem_foldersOf hd he hinner
    obtain ⟨orest, hor⟩ := ihr hrest fun entry hmem => hrow entry (List.mem_cons_of_mem _ hmem)
    exact ⟨_, (outlineOf_folder_eq_ok_iff _ _ _ _ _ _ _).2 ⟨cs, oi, orest, hcs, hoi, hor, rfl⟩⟩

/-! ## Builds -/

/-- A file that was compiled could be read. -/
theorem isOk_content_of_compileFile {settings : BuildSettings} {file : SourceFile} {c : Compiled}
    (h : compileFile settings file = .ok c) : file.content.isOk = true := by
  obtain ⟨text, hcontent, -⟩ := (compileFile_eq_ok_iff _ _ _).1 h
  rw [hcontent]
  rfl

theorem not_any_of_compiled {settings : BuildSettings} {files : List SourceFile}
    {cs : List Compiled} (h : files.mapM (compileFile settings) = .ok cs) :
    files.any (fun f => !f.content.isOk) = false := by
  rw [mapM_eq_ok_iff] at h
  rw [List.any_eq_false]
  intro f hf
  obtain ⟨c, -, hc⟩ := exists_of_mem_left h hf
  rw [isOk_content_of_compileFile hc]
  exact Bool.false_ne_true

theorem stops_of_outlineOf {settings : BuildSettings} {folders : Folders} {o : Outline}
    (h : outlineOf settings folders = .ok o) : folders.stops = false := by
  induction folders generalizing o with
  | done => rfl
  | failed path e => cases h
  | folder name inner files inside rest ihi ihr =>
    obtain ⟨cs, oi, orest, hcs, hoi, hor, -⟩ := (outlineOf_folder_eq_ok_iff _ _ _ _ _ _ _).1 h
    rw [Folders.stops, not_any_of_compiled hcs, ihi hoi, ihr hor]
    rfl

theorem treeOf_folder_eq_ok_iff (settings : BuildSettings) (root : FilePath) (builtAt : Time)
    (name : String) (path : FilePath) (files : List SourceFile) (inside rest : Folders)
    (t : UnitTree) :
    treeOf settings root builtAt (.folder name path files inside rest) = .ok t ↔
      ∃ cs o, files.mapM (compileFile settings) = .ok cs ∧ outlineOf settings inside = .ok o ∧
        t = grown root builtAt cs o := by
  rw [treeOf_folder, bind_eq_ok_iff]
  constructor
  · rintro ⟨cs, hcs, h⟩
    cases ho : outlineOf settings inside with
    | error e =>
      rw [ho] at h
      cases h
    | ok o =>
      rw [ho] at h
      exact ⟨cs, o, hcs, rfl, (Except.ok.inj h).symm⟩
  · rintro ⟨cs, o, hcs, ho, rfl⟩
    refine ⟨cs, hcs, ?_⟩
    rw [ho]
    rfl

theorem build_of_not_stops {d : Disk} {settings : BuildSettings} {root : FilePath}
    (h : (scan d settings.extension root).stops = false) (builtAt : Time) :
    ∃ files inside, Scanned d settings.extension root files inside ∧
      ∀ t, build d settings root builtAt = .ok t ↔
        ∃ cs o, files.mapM (compileFile settings) = .ok cs ∧ outlineOf settings inside = .ok o ∧
          t = grown root builtAt cs o := by
  obtain ⟨files, inside, hscan, hscanned⟩ := scan_of_not_stops h
  refine ⟨files, inside, hscanned, fun t => ?_⟩
  rw [build, hscan]
  exact treeOf_folder_eq_ok_iff _ _ _ _ _ _ _ _ _

omit [Template.Language] in
theorem scan_cases (d : Disk) (extension : String) (root : FilePath) :
    (∃ path e, scan d extension root = .failed path e) ∨
      ∃ files inside, scan d extension root = .folder "" root files inside .done := by
  unfold scan
  cases d.status root with
  | error e => exact Or.inl ⟨root, e, rfl⟩
  | ok spot =>
    obtain ⟨here, node⟩ := spot
    cases node with
    | file content modified => exact Or.inl ⟨root, .sourceNotDirectory, rfl⟩
    | link target => exact Or.inl ⟨root, .sourceNotDirectory, rfl⟩
    | directory =>
      have hdepth : Disk.pathLimit = 4095 + 1 := rfl
      simp only [hdepth, scanDown, scanRow]
      cases entries d extension root with
      | error culprit => exact Or.inl ⟨_, _, rfl⟩
      | ok listed =>
        right
        simp only [ite_self]
        exact ⟨_, _, rfl⟩

/-- A scan that comes to a stop gives no tree. -/
theorem not_stops_of_build {d : Disk} {settings : BuildSettings} {root : FilePath} {builtAt : Time}
    {t : UnitTree} (h : build d settings root builtAt = .ok t) :
    (scan d settings.extension root).stops = false := by
  unfold build at h
  rcases scan_cases d settings.extension root with ⟨path, e, hscan⟩ | ⟨files, inside, hscan⟩
  · rw [hscan] at h
    cases h
  · rw [hscan] at h ⊢
    obtain ⟨cs, o, hcs, ho, -⟩ := (treeOf_folder_eq_ok_iff _ _ _ _ _ _ _ _ _).1 h
    rw [Folders.stops, not_any_of_compiled hcs, stops_of_outlineOf ho]
    rfl

/-- **A build plants a chart of the source.** -/
theorem charted_of_build {d : Disk} (hd : d.WellFormed) {settings : BuildSettings} {root : FilePath}
    {builtAt : Time} {t : UnitTree} (h : build d settings root builtAt = .ok t) :
    ∃ files inside, Charted d settings root files inside ∧ t = grown root builtAt files inside := by
  obtain ⟨files, inside, hscanned, hbuild⟩ := build_of_not_stops (not_stops_of_build h) builtAt
  obtain ⟨cs, o, hcs, ho, rfl⟩ := (hbuild t).1 h
  exact ⟨cs, o, charted_of_scanned hd hscanned hcs ho, rfl⟩

/-- **Where a build goes through.** -/
theorem build_iff {d : Disk} (hd : d.WellFormed) (settings : BuildSettings) (root : FilePath)
    (builtAt : Time) :
    Buildable d settings root ↔ ∃ t, build d settings root builtAt = .ok t := by
  constructor
  · intro h
    obtain ⟨files, inside, ⟨listed, he, rfl, hinside⟩, hbuild⟩ :=
      build_of_not_stops (stops_scan_of_readable hd h.readable) builtAt
    obtain ⟨cs, hcs⟩ := exists_compiled hd he h
    obtain ⟨o, ho⟩ := exists_outline hd hinside fun entry => buildable_of_mem_foldersOf hd he h
    exact ⟨_, (hbuild _).2 ⟨cs, o, hcs, ho, rfl⟩⟩
  · rintro ⟨t, h⟩
    obtain ⟨files, inside, hchart, -⟩ := charted_of_build hd h
    exact hchart.buildable

/-! ## Charts are tidy -/

omit [Template.Language] in
theorem splitFrom_names_ne_nil (ext : List Char) (lineStart : Bool) (cs : List Char) :
    ∀ b ∈ (splitFrom ext lineStart cs).2, b.1 ≠ [] := by
  fun_induction splitFrom ext lineStart cs with
  | case1 => exact fun b hb => absurd hb List.not_mem_nil
  | case2 lineStart c cs name rest hname body blocks hsplit ih =>
    rw [hsplit] at ih
    intro b hb
    rcases List.mem_cons.1 hb with rfl | hb
    · unfold delimiterAt? at hname
      split at hname
      · exact delimiter?_name_ne_nil hname
      · cases hname
    · exact ih b hb
  | case3 lineStart c cs hname body blocks hsplit ih =>
    rw [hsplit] at ih
    exact ih

omit [Template.Language] in
theorem blocks_ne_empty (ext text : String) :
    ∀ b ∈ (SplitText.ofText ext text).blocks, b.1 ≠ "" := by
  intro b hb
  obtain ⟨⟨name, body⟩, hmem, rfl⟩ := List.mem_map.1 hb
  intro h0
  have hnil := congrArg String.toList h0
  rw [String.toList_ofList] at hnil
  exact splitFrom_names_ne_nil _ _ _ _ hmem hnil

theorem Compiled.Reflects.tidy {d : Disk} {settings : BuildSettings} {c : Compiled}
    (h : c.Reflects d settings) (hname : c.name ≠ "") : c.Tidy (timeOf d) where
  ne_empty := hname
  blocks_ne_empty r hr := by
    obtain ⟨b, hb, hrb, -⟩ := exists_of_mem_right h.blocks hr
    rw [hrb]
    exact blocks_ne_empty _ _ b hb
  time_eq := h.time

omit [Template.Language] in
theorem nodup_of_pairwise_lt {names : List String} (h : names.Pairwise (· < ·)) : names.Nodup := by
  apply h.imp
  intro a b hlt hab
  rw [hab] at hlt
  exact String.lt_irrefl b hlt

theorem Here.tidyFiles {d : Disk} {settings : BuildSettings} {path : FilePath}
    {files : List Compiled} {folders : List String} (h : Here d settings path files folders) :
    TidyFiles (timeOf d) files := by
  obtain ⟨names, hsorted, hmem, hall⟩ := h.files
  have htemplate : ∀ n ∈ names, FilePath.extension? n = some settings.extension :=
    fun n hn => ((hmem n).1 hn).1
  have hnames : files.map Compiled.name = names.map FilePath.stem :=
    map_eq_map_of_forall₂ hall fun _ _ hab => hab.2.1
  constructor
  · rw [hnames]
    exact (nodup_of_pairwise_lt hsorted).map_on fun a ha b hb =>
      FilePath.stem_inj (htemplate a ha) (htemplate b hb)
  · intro c hc
    obtain ⟨n, hn, -, hname, hreflects⟩ := exists_of_mem_right hall hc
    exact hreflects.tidy (hname ▸ (FilePath.toList_of_extension? (htemplate n hn)).2)

theorem Outline.Charts.tidy {d : Disk} (hd : d.WellFormed) {settings : BuildSettings}
    {path : FilePath} {o : Outline} (h : o.Charts d settings path) (hnd : o.names.Nodup)
    (hne : ∀ n ∈ o.names, n ≠ "") : o.Tidy (timeOf d) := by
  induction o generalizing path with
  | done => trivial
  | folder name inner files inside rest ihi ihr =>
    obtain ⟨-, hhere, hdown, hrest⟩ := h
    rw [Outline.names, List.nodup_cons] at hnd
    have hinside : ∀ n ∈ inside.names, n ≠ "" := fun n hn =>
      (isEntryName_of_holds hd ((hhere.mem_folders n).1 hn)).1
    exact ⟨hne _ List.mem_cons_self, hnd.1, hhere.tidyFiles,
      ihi hdown (nodup_of_pairwise_lt hhere.folders_pairwise) hinside,
      ihr hrest hnd.2 fun n hn => hne n (List.mem_cons_of_mem _ hn)⟩

theorem Charted.tidy {d : Disk} (hd : d.WellFormed) {settings : BuildSettings} {path : FilePath}
    {files : List Compiled} {inside : Outline} (h : Charted d settings path files inside) :
    TidyFiles (timeOf d) files ∧ inside.Tidy (timeOf d) := by
  refine ⟨h.here.tidyFiles, h.inner.tidy hd (nodup_of_pairwise_lt h.here.folders_pairwise) ?_⟩
  exact fun n hn => (isEntryName_of_holds hd ((h.here.mem_folders n).1 hn)).1

/-! ## A scan is determined by the disk -/

omit [Template.Language] in
theorem Folders.Mirrors.unique {d : Disk} {extension : String} {f g : Folders}
    {row : List (String × FilePath)} (hf : f.Mirrors d extension row)
    (hg : g.Mirrors d extension row) : f = g := by
  induction f generalizing g row with
  | failed path e => cases hf
  | done =>
    obtain rfl := hf
    cases g with
    | done => rfl
    | failed path e => cases hg
    | folder name path files inside rest =>
      obtain ⟨-, row', h, -⟩ := hg
      cases h
  | folder name path files inside rest ihi ihr =>
    obtain ⟨⟨listed, he, rfl, hinside⟩, row', rfl, hrest⟩ := hf
    cases g with
    | done => cases hg
    | failed path e => cases hg
    | folder name' path' files' inside' rest' =>
      obtain ⟨⟨listed', he', rfl, hinside'⟩, row'', hrow, hrest'⟩ := hg
      obtain ⟨hentry, rfl⟩ := List.cons.inj hrow
      obtain ⟨rfl, rfl⟩ := Prod.mk.inj hentry
      obtain rfl := Except.ok.inj (he.symm.trans he')
      rw [ihi hinside hinside', ihr hrest hrest']

omit [Template.Language] in
theorem Scanned.unique {d : Disk} {extension : String} {path : FilePath}
    {files files' : List SourceFile} {inside inside' : Folders}
    (h : Scanned d extension path files inside) (h' : Scanned d extension path files' inside') :
    files = files' ∧ inside = inside' := by
  obtain ⟨listed, he, rfl, hinside⟩ := h
  obtain ⟨listed', he', rfl, hinside'⟩ := h'
  obtain rfl := Except.ok.inj (he.symm.trans he')
  exact ⟨rfl, hinside.unique hinside'⟩

/-- The tree of a source whose scan and outline are known. -/
theorem build_of_scanned {d : Disk} (hd : d.WellFormed) {settings : BuildSettings} {root : FilePath}
    (builtAt : Time) {files : List SourceFile} {inside : Folders} {cs : List Compiled} {o : Outline}
    (h : Scanned d settings.extension root files inside)
    (hcs : files.mapM (compileFile settings) = .ok cs) (ho : outlineOf settings inside = .ok o) :
    build d settings root builtAt = .ok (grown root builtAt cs o) := by
  obtain ⟨t, ht⟩ := (build_iff hd settings root builtAt).1
    (charted_of_scanned hd h hcs ho).buildable
  obtain ⟨files', inside', hscanned, hbuild⟩ := build_of_not_stops (not_stops_of_build ht) builtAt
  obtain ⟨rfl, rfl⟩ := h.unique hscanned
  exact (hbuild _).2 ⟨cs, o, hcs, ho, rfl⟩

end

/-! ## A small source -/

/-- A template with a block, and next to it a directory of its name that has another template two
levels down. -/
def smallSource (top low : Time) : Disk where
  nodes := [(["views"], .directory), (["views", "a.tmpl"], .file (.text "hi\n//-- d.tmpl\nyo") top),
    (["views", "a"], .directory), (["views", "a", "b"], .directory),
    (["views", "a", "b", "c.tmpl"], .file (.text "low") low)]
  workingDirectory := []
  clock := 12

def smallSettings : BuildSettings := ⟨"tmpl", .standard⟩

/-- The tree of the small source. -/
def smallTree (top low : Time) (a d c : Renderer) : UnitTree :=
  grown ⟨"views"⟩ 12 [⟨⟨"views/a.tmpl"⟩, "a", top, a, [("d", d)]⟩]
    (.folder "a" ⟨"views/a"⟩ []
      (.folder "b" ⟨"views/a/b"⟩ [⟨⟨"views/a/b/c.tmpl"⟩, "c", low, c, []⟩] .done .done) .done)

/-- The places of the small source. -/
def smallPlaces : List Place :=
  [["views"], ["views", "a.tmpl"], ["views", "a"], ["views", "a", "b"],
    ["views", "a", "b", "c.tmpl"]]

theorem wellFormed_smallSource (top low : Time) : (smallSource top low).WellFormed where
  places_nodup := by
    show smallPlaces.Nodup
    decide
  isEntryName := by
    show ∀ place ∈ smallPlaces, ∀ name ∈ place, Disk.IsEntryName name
    unfold Disk.IsEntryName
    decide

theorem status_of_walk {d : Disk} {path : FilePath} {names : List String} {place : Place}
    {node : DiskNode} (hcheck : Disk.checkPath path.text = .ok ())
    (hsteps : Disk.steps path.text = names)
    (h : d.walk true Disk.linkLimit (d.start path.text) names = .ok (.there place node)) :
    d.status path = .ok (place, node) := by
  simp only [Disk.status, Disk.locate, hcheck, hsteps, h, bind, Except.bind]

theorem status_smallSource (top low : Time) : ∀ pair ∈ (smallSource top low).nodes,
    (smallSource top low).status ⟨Text.glue '/' pair.1⟩ = .ok pair := by
  have hcheck : ∀ place ∈ smallPlaces, Disk.checkPath (Text.glue '/' place) = .ok () := by decide
  have hsteps : ∀ place ∈ smallPlaces, Disk.steps (Text.glue '/' place) = place := by decide
  have hlong : ∀ name ∈ ["views", "a.tmpl", "a", "b", "c.tmpl"], Disk.isLongName name = false := by
    decide
  have hstart : ∀ text, (smallSource top low).start text = [] := fun text => ite_self []
  simp only [List.forall_mem_cons, List.not_mem_nil, false_implies, implies_true, and_true] at hlong
  obtain ⟨h1, h2, h3, h4, h5⟩ := hlong
  intro pair hpair
  have hplace : pair.1 ∈ smallPlaces := by
    have := List.mem_map_of_mem (f := Prod.fst) hpair
    exact this
  refine status_of_walk (hcheck _ hplace) (hsteps _ hplace) ?_
  rw [hstart]
  simp only [smallSource, List.mem_cons, List.not_mem_nil, or_false] at hpair
  rcases hpair with rfl | rfl | rfl | rfl | rfl
  · simp [Disk.walk, Disk.find?, smallSource, h1]
  · simp [Disk.walk, Disk.find?, smallSource, List.lookup_cons, h1, h2]
  · simp [Disk.walk, Disk.find?, smallSource, List.lookup_cons, h1, h3]
  · simp [Disk.walk, Disk.find?, smallSource, List.lookup_cons, h1, h3, h4]
  · simp [Disk.walk, Disk.find?, smallSource, List.lookup_cons, h1, h3, h4, h5]

theorem entries_of_listing {d : Disk} {extension : String} {path : FilePath} {here : Place}
    {listed : List (String × DiskNode)} {found : List (String × FilePath × Entry)}
    (hs : d.status path = .ok (here, .directory)) (hl : d.listing here = listed)
    (hall : List.Forall₂ (ReadAs d extension here path) listed found) :
    entries d extension path = .ok found :=
  (entries_eq_ok_iff d extension path found).2 ⟨here, hs, hl ▸ hall⟩

/-- How plain entries are read. -/
theorem readAs_plain {d : Disk} {extension : String} {here : Place} {path inner : FilePath}
    {name : String} {node : DiskNode} {entry : Entry} (hjoin : path.join ⟨name⟩ = inner)
    (h : (node = .directory ∧ entry = .folder) ∨
      ∃ content modified, node = .file content modified ∧ fileEntry extension name = entry) :
    ReadAs d extension here path (name, node) (name, inner, entry) := by
  subst hjoin
  rcases h with ⟨rfl, rfl⟩ | ⟨content, modified, rfl, rfl⟩
  · exact ⟨rfl, rfl, rfl⟩
  · exact ⟨rfl, rfl, rfl⟩

theorem exists_of_isOk {α ε : Type} {x : Except ε α} (h : x.isOk = true) : ∃ a, x = .ok a := by
  cases x with
  | error e => cases h
  | ok a => exact ⟨a, rfl⟩

theorem readText_of_status {d : Disk} {path : FilePath} {place : Place} {text : String}
    {time : Time} (h : d.status path = .ok (place, .file (.text text) time)) :
    d.readText path = .ok text ∧ timeOf d path = time := by
  constructor
  · simp only [Disk.readText, h, bind, Except.bind]
  · simp only [timeOf, Disk.modified?, h, bind, Except.bind]

theorem compile_smallSource (top low : Time) : ∃ a d c,
    compileFile smallSettings (templateFile (smallSource top low) ⟨"views"⟩ "a.tmpl") =
      .ok ⟨⟨"views/a.tmpl"⟩, "a", top, a, [("d", d)]⟩ ∧
    compileFile smallSettings (templateFile (smallSource top low) ⟨"views/a/b"⟩ "c.tmpl") =
      .ok ⟨⟨"views/a/b/c.tmpl"⟩, "c", low, c, []⟩ := by
  have hsplit : SplitText.ofText "tmpl" "hi\n//-- d.tmpl\nyo" = ⟨"hi\n", [("d", "yo")]⟩ := by cbv
  have hsplit' : SplitText.ofText "tmpl" "low" = ⟨"low", []⟩ := by cbv
  have ha : (Renderer.compile "views/a.tmpl" "hi\n" .standard).isOk = true := by cbv
  have hd : (Renderer.compile "views/a.tmpl [d]" "yo" .standard).isOk = true := by cbv
  have hc : (Renderer.compile "views/a/b/c.tmpl" "low" .standard).isOk = true := by cbv
  obtain ⟨a, ha⟩ := exists_of_isOk ha
  obtain ⟨d, hd⟩ := exists_of_isOk hd
  obtain ⟨c, hc⟩ := exists_of_isOk hc
  have hs : (smallSource top low).status ⟨"views/a.tmpl"⟩ = .ok (["views", "a.tmpl"], _) :=
    status_smallSource top low (["views", "a.tmpl"], .file (.text "hi\n//-- d.tmpl\nyo") top)
      (by simp [smallSource])
  have hs' : (smallSource top low).status ⟨"views/a/b/c.tmpl"⟩ =
      .ok (["views", "a", "b", "c.tmpl"], _) :=
    status_smallSource top low (["views", "a", "b", "c.tmpl"], .file (.text "low") low)
      (by simp [smallSource])
  obtain ⟨htext, htime⟩ := readText_of_status hs
  obtain ⟨htext', htime'⟩ := readText_of_status hs'
  refine ⟨a, d, c, ?_, ?_⟩
  · rw [compileFile_templateFile_iff]
    refine ⟨rfl, rfl, htime.symm, ⟨_, htext⟩, ?_, ?_⟩
    · simp only [splitOf, textOf, htext, smallSettings, hsplit, ha]
    · simp only [splitOf, textOf, htext, smallSettings, hsplit]
      exact .cons ⟨rfl, hd⟩ .nil
  · rw [compileFile_templateFile_iff]
    refine ⟨rfl, rfl, htime'.symm, ⟨_, htext'⟩, ?_, ?_⟩
    · simp only [splitOf, textOf, htext', smallSettings, hsplit', hc]
    · simp only [splitOf, textOf, htext', smallSettings, hsplit']
      exact .nil

theorem build_smallSource (top low : Time) : ∃ a d c,
    build (smallSource top low) smallSettings ⟨"views"⟩ 12 = .ok (smallTree top low a d c) := by
  obtain ⟨a, d, c, ha, hc⟩ := compile_smallSource top low
  have hstatus := status_smallSource top low
  have hl : (smallSource top low).listing ["views"] =
      [("a", .directory), ("a.tmpl", .file (.text "hi\n//-- d.tmpl\nyo") top)] := by cbv
  have hl' : (smallSource top low).listing ["views", "a"] = [("b", .directory)] := by cbv
  have hl'' : (smallSource top low).listing ["views", "a", "b"] =
      [("c.tmpl", .file (.text "low") low)] := by cbv
  have he : entries (smallSource top low) "tmpl" ⟨"views"⟩ =
      .ok [("a", ⟨"views/a"⟩, .folder), ("a.tmpl", ⟨"views/a.tmpl"⟩, .template)] := by
    apply entries_of_listing (hstatus (["views"], .directory) (by simp [smallSource])) hl
    exact .cons (readAs_plain rfl (Or.inl ⟨rfl, rfl⟩))
      (.cons (readAs_plain rfl (Or.inr ⟨_, _, rfl, rfl⟩)) .nil)
  have he' : entries (smallSource top low) "tmpl" ⟨"views/a"⟩ =
      .ok [("b", ⟨"views/a/b"⟩, .folder)] := by
    apply entries_of_listing (hstatus (["views", "a"], .directory) (by simp [smallSource])) hl'
    exact .cons (readAs_plain rfl (Or.inl ⟨rfl, rfl⟩)) .nil
  have he'' : entries (smallSource top low) "tmpl" ⟨"views/a/b"⟩ =
      .ok [("c.tmpl", ⟨"views/a/b/c.tmpl"⟩, .template)] := by
    apply entries_of_listing
      (hstatus (["views", "a", "b"], .directory) (by simp [smallSource])) hl''
    exact .cons (readAs_plain rfl (Or.inr ⟨_, _, rfl, rfl⟩)) .nil
  have hscanned : Scanned (smallSource top low) "tmpl" ⟨"views"⟩
      [templateFile (smallSource top low) ⟨"views"⟩ "a.tmpl"]
      (.folder "a" ⟨"views/a"⟩ [] (.folder "b" ⟨"views/a/b"⟩
        [templateFile (smallSource top low) ⟨"views/a/b"⟩ "c.tmpl"] .done .done) .done) :=
    ⟨_, he, rfl, ⟨_, he', rfl, ⟨_, he'', rfl, rfl⟩, [], rfl, rfl⟩, [], rfl, rfl⟩
  refine ⟨a, d, c, build_of_scanned (wellFormed_smallSource top low) 12 hscanned ?_ ?_⟩
  · rw [mapM_eq_ok_iff]
    exact .cons ha .nil
  · simp only [outlineOf_folder_eq_ok_iff, mapM_eq_ok_iff]
    exact ⟨[], _, .done, .nil, ⟨[_], .done, .done, .cons hc .nil, rfl, rfl, rfl⟩, rfl, rfl⟩

end TemplateBundler.Source
