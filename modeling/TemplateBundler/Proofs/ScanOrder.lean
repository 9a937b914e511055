import TemplateBundler.Proofs.Termination

/-!
# The first failure of a build

A build looks up the source and then goes from step to step (`BuildStep`): it opens a directory and
follows its entries in the order of their names, it reads the template files in that order, each
followed by the compiling of its primary body and of its blocks, and then it goes through the
directories in it, again in the order of their names (`ScanOrder`). Each step fails or not by what
the disk holds (`BuildStep.error?`), whatever went before. A build gives a tree where no step fails,
and else the error of the first one that does.

    ScanOrder d settings [root] steps → (build d settings root now = .error e ↔
      (.source root :: steps).findSome? (BuildStep.error? d settings) = some e)
                                                                       (answers_of_wellFormed)
-/

namespace TemplateBundler

namespace Disk

/-- `path` leads to a directory with an entry of this name. -/
def HasEntry (d : Disk) (path : FilePath) (name : String) : Prop :=
  ∃ here node, d.status path = .ok (here, .directory) ∧ d.find? (here ++ [name]) = some node

/-- Why an entry of a directory cannot be followed: it is a link that leads nowhere, or to the
directory itself. -/
def entryFault? (d : Disk) (path : FilePath) (name : String) : Option Fault :=
  match d.status path with
  | .ok (here, .directory) =>
    match d.find? (here ++ [name]) with
    | some (.link _) =>
      match d.status (path.join ⟨name⟩) with
      | .error e => some e
      | .ok (place, .directory) => if place = here then some .loop else none
      | .ok _ => none
    | _ => none
  | _ => none

end Disk

namespace Source

/-! ## Steps and their order -/

/-- What a build does, one after the other. -/
inductive BuildStep where
  | source (root : FilePath)
  /-- A directory is opened. -/
  | opening (path : FilePath)
  /-- An entry of a directory is followed. -/
  | entry (path : FilePath) (name : String)
  | reading (path : FilePath)
  /-- The primary body of a template file is compiled, or the block of a name. -/
  | compiling (path : FilePath) (block : Option String) (body : String)

/-- The name of a body in diagnostics. -/
def filenameOf (path : FilePath) : Option String → String
  | none => path.text
  | some name => blockFilename path name

/-- The error of a step that fails. -/
def BuildStep.error? [Template.Language] (d : Disk) (settings : BuildSettings) :
    BuildStep → Option BundleError
  | source root =>
    match d.status root with
    | .error e => some (.sourceRead root e)
    | .ok (_, .directory) => none
    | .ok _ => some (.sourceRead root .sourceNotDirectory)
  | opening path =>
    match d.status path with
    | .error e => some (.sourceRead path e)
    | .ok (_, .directory) => none
    | .ok _ => some (.sourceRead path .notDirectory)
  | entry path name => (d.entryFault? path name).map (.sourceRead (path.join ⟨name⟩))
  | reading path =>
    match d.readText path with
    | .error e => some (.sourceRead path e)
    | .ok _ => none
  | compiling path block body =>
    match Renderer.compile (filenameOf path block) body settings.flags with
    | .error e => some (.compile path block e.message)
    | .ok _ => none

/-- The names with a property, each once and in their order. -/
structure InOrder (P : String → Prop) (names : List String) : Prop where
  sorted : names.Pairwise (· < ·)
  mem_iff : ∀ name, name ∈ names ↔ P name

/-- The steps for a template file: it is read, and its primary body and its blocks are compiled,
also a block whose unit is replaced later. -/
def fileSteps (d : Disk) (settings : BuildSettings) (path : FilePath) : List BuildStep :=
  .reading path :: .compiling path none (splitOf d settings path).primary ::
    (splitOf d settings path).blocks.map fun b => .compiling path (some b.1) b.2

/-- The template file at `path` has this primary body, or this body in a block of the name. -/
def IsBody (d : Disk) (settings : BuildSettings) (path : FilePath) : Option String → String → Prop
  | none, body => body = (splitOf d settings path).primary
  | some name, body => (name, body) ∈ (splitOf d settings path).blocks

/-- The steps for a directory up to those for the directories in it. -/
def folderSteps (d : Disk) (settings : BuildSettings) (path : FilePath)
    (entries files : List String) : List BuildStep :=
  (.opening path :: entries.map (.entry path)) ++
    files.flatMap fun name => fileSteps d settings (path.join ⟨name⟩)

/-- The steps for directories next to each other. -/
inductive ScanOrder (d : Disk) (settings : BuildSettings) : List FilePath → List BuildStep → Prop
  | done : ScanOrder d settings [] []
  | folder {path : FilePath} {row : List FilePath} {entries files folders : List String}
      {inside rest : List BuildStep} :
      InOrder (d.HasEntry path) entries →
      InOrder (d.HasTemplate settings.extension path) files →
      InOrder (d.Holds path · .directory) folders →
      ScanOrder d settings (folders.map fun name => path.join ⟨name⟩) inside →
      ScanOrder d settings row rest →
      ScanOrder d settings (path :: row)
        (folderSteps d settings path entries files ++ inside ++ rest)

/-! ## Lists of results -/

def errorOf {α ε : Type} : Except ε α → Option ε
  | .error e => some e
  | .ok _ => none

theorem errorOf_eq_some_iff {α ε : Type} (x : Except ε α) (e : ε) :
    errorOf x = some e ↔ x = .error e := by
  cases x <;> simp [errorOf]

theorem errorOf_map {α β ε : Type} (x : Except ε α) (f : α → β) :
    errorOf (x.map f) = errorOf x := by
  cases x <;> rfl

/-- Where one result follows another, the error is that of the first, or else that of the second. -/
theorem errorOf_bind {α β ε : Type} {x : Except ε α} {f : α → Except ε β} {o : Option ε}
    (h : ∀ a, x = .ok a → errorOf (f a) = o) : errorOf (x >>= f) = (errorOf x).or o := by
  cases x with
  | error e => rfl
  | ok a => exact h a rfl

theorem findSome?_cons_eq_or {α β : Type} (f : α → Option β) (a : α) (as : List α) :
    (a :: as).findSome? f = (f a).or (as.findSome? f) := by
  rw [List.findSome?_cons]
  cases f a <;> rfl

theorem errorOf_mapError {α ε ε' : Type} (x : Except ε α) (f : ε → ε') :
    errorOf (x.mapError f) = (errorOf x).map f := by
  cases x <;> rfl

theorem findSome?_congr {α β : Type} {f g : α → Option β} {as : List α}
    (h : ∀ a ∈ as, f a = g a) : as.findSome? f = as.findSome? g := by
  induction as with
  | nil => rfl
  | cons a as ih =>
    rw [List.findSome?_cons, List.findSome?_cons, h a List.mem_cons_self,
      ih fun b hb => h b (List.mem_cons_of_mem a hb)]

theorem findSome?_flatMap {α β γ : Type} (as : List α) (f : α → List β) (g : β → Option γ) :
    (as.flatMap f).findSome? g = as.findSome? fun a => (f a).findSome? g := by
  induction as with
  | nil => rfl
  | cons a as ih => rw [List.flatMap_cons, List.findSome?_append, findSome?_cons_eq_or, ih]

/-- The error of a list is that of its first element with one. -/
theorem errorOf_mapM {α β ε : Type} (f : α → Except ε β) (as : List α) :
    errorOf (as.mapM f) = as.findSome? fun a => errorOf (f a) := by
  induction as with
  | nil => rfl
  | cons a as ih =>
    rw [List.mapM_cons, findSome?_cons_eq_or, ← ih]
    exact errorOf_bind fun b _ => errorOf_map (as.mapM f) (b :: ·)

theorem InOrder.unique {P : String → Prop} {names names' : List String} (h : InOrder P names)
    (h' : InOrder P names') : names = names' :=
  h.sorted.eq_of_mem_iff h'.sorted fun a => (h.mem_iff a).trans (h'.mem_iff a).symm

/-! ## Steps of a file -/

section
variable {d : Disk} {settings : BuildSettings}

section

variable [Template.Language]

omit [Template.Language] in
theorem errorOf_readFile (path : FilePath) :
    errorOf (readFile d path) = errorOf (d.readText path) := by
  unfold readFile Disk.readText Disk.modified?
  cases d.status path with
  | error e => rfl
  | ok spot =>
    obtain ⟨place, node⟩ := spot
    match node with
    | .directory => rfl
    | .link _ => rfl
    | .file (.text _) _ => rfl
    | .file .binary _ => rfl

theorem errorOf_compileUnit (path : FilePath) (block : Option String) (body : String) :
    errorOf (compileUnit settings path block body) =
      (BuildStep.compiling path block body).error? d settings := by
  rw [BuildStep.error?]
  cases block with
  | none =>
    cases hc : Renderer.compile path.text body settings.flags <;>
      simp only [compileUnit, filenameOf, hc, errorOf]
  | some name =>
    cases hc : Renderer.compile (blockFilename path name) body settings.flags <;>
      simp only [compileUnit, filenameOf, hc, errorOf]

theorem errorOf_compileBlock (path : FilePath) (b : String × String) :
    errorOf (compileBlock settings path b) =
      (BuildStep.compiling path (some b.1) b.2).error? d settings := by
  rw [compileBlock, errorOf_map, errorOf_compileUnit]

/-- A file is read, its primary body is compiled, and then its blocks are. -/
theorem errorOf_compileFile (path : FilePath) (name : String) :
    errorOf (compileFile settings (templateFile d path name)) =
      (fileSteps d settings (path.join ⟨name⟩)).findSome? (BuildStep.error? d settings) := by
  unfold compileFile fileSteps templateFile
  have hread := errorOf_readFile (d := d) (path.join ⟨name⟩)
  cases hfile : readFile d (path.join ⟨name⟩) with
  | error e =>
    rw [hfile] at hread
    have htext := (errorOf_eq_some_iff _ e).1 hread.symm
    rw [findSome?_cons_eq_or, BuildStep.error?, htext]
    rfl
  | ok pair =>
    obtain ⟨time, text⟩ := pair
    have htext := ((readFile_eq_ok_iff d _ time text).1 hfile).1
    have hsplit : splitOf d settings (path.join ⟨name⟩) = .ofText settings.extension text := by
      rw [splitOf, textOf, htext]
    have hreading : (BuildStep.reading (path.join ⟨name⟩)).error? d settings = none := by
      rw [BuildStep.error?, htext]
    rw [findSome?_cons_eq_or, hreading, Option.none_or, findSome?_cons_eq_or, hsplit,
      List.findSome?_map, ← errorOf_compileUnit]
    refine errorOf_bind fun r _ => ?_
    rw [errorOf_bind (o := none) fun _ _ => rfl, Option.or_none, errorOf_mapM]
    exact findSome?_congr fun b _ => errorOf_compileBlock _ b

/-! ## Steps of a directory -/

omit [Template.Language] in
/-- Following an entry fails with the error of its step. -/
theorem errorOf_entryOf {path : FilePath} {here : Place}
    (hs : d.status path = .ok (here, .directory)) {name : String} {node : DiskNode}
    (hf : d.find? (here ++ [name]) = some node) (ext : String) :
    errorOf (entryOf d ext here (path.join ⟨name⟩) name node) = d.entryFault? path name := by
  unfold Disk.entryFault?
  rw [hs]
  simp only [hf]
  cases node with
  | directory | file => rfl
  | link target =>
    simp only [entryOf]
    cases ht : d.status (path.join ⟨name⟩) with
    | error e => rfl
    | ok spot =>
      obtain ⟨place, node⟩ := spot
      cases node with
      | file | link => rfl
      | directory =>
        simp only [bind, Except.bind]
        split <;> rfl

omit [Template.Language] in
/-- The entries of a directory in their order. -/
theorem inOrder_listing (hd : d.WellFormed) {path : FilePath} {here : Place}
    (hs : d.status path = .ok (here, .directory)) :
    InOrder (d.HasEntry path) ((d.listing here).map Prod.fst) where
  sorted := d.names_listing_pairwise hd here
  mem_iff name := by
    rw [List.mem_map]
    constructor
    · rintro ⟨⟨name, node⟩, hmem, rfl⟩
      exact ⟨here, node, hs, (Disk.mem_listing hd here name node).1 hmem⟩
    · rintro ⟨here', node, hs', hf⟩
      obtain ⟨rfl, -⟩ := Prod.mk.inj (Except.ok.inj (hs.symm.trans hs'))
      exact ⟨(name, node), (Disk.mem_listing hd here name node).2 hf, rfl⟩

omit [Template.Language] in
theorem inOrder_files (hd : d.WellFormed) {path : FilePath} {ext : String}
    {listed : List (String × FilePath × Entry)} (he : entries d ext path = .ok listed) :
    InOrder (d.HasTemplate ext path) (namesOf Entry.isTemplate listed) :=
  ⟨namesOf_pairwise he hd _, mem_templateNames he hd⟩

omit [Template.Language] in
theorem inOrder_folders (hd : d.WellFormed) {path : FilePath} {ext : String}
    {listed : List (String × FilePath × Entry)} (he : entries d ext path = .ok listed) :
    InOrder (d.Holds path · .directory) (namesOf Entry.isFolder listed) :=
  ⟨namesOf_pairwise he hd _, mem_folderNames he hd⟩

/-- A directory is opened, and then its entries are followed. -/
theorem errorOf_entries (hd : d.WellFormed) {path : FilePath} {names : List String}
    (hnames : InOrder (d.HasEntry path) names) (ext : String) :
    (errorOf (entries d ext path)).map (fun c => BundleError.sourceRead c.1 c.2) =
      (BuildStep.opening path :: names.map (.entry path)).findSome?
        (BuildStep.error? d settings) := by
  rw [findSome?_cons_eq_or]
  unfold entries
  cases hs : d.status path with
  | error e => simp only [BuildStep.error?, hs, errorOf, Option.map_some, Option.some_or]
  | ok spot =>
    obtain ⟨here, node⟩ := spot
    cases node with
    | file | link => simp only [BuildStep.error?, hs, errorOf, Option.map_some, Option.some_or]
    | directory =>
      simp only [BuildStep.error?, hs, Option.none_or]
      -- both go through the same names, each of which is followed on its own
      obtain rfl := hnames.unique (inOrder_listing hd hs)
      rw [errorOf_mapM, List.findSome?_map, List.findSome?_map, List.map_findSome?]
      refine findSome?_congr fun entry hentry => ?_
      obtain ⟨name, node⟩ := entry
      have hf := (Disk.mem_listing hd here name node).1 hentry
      simp only [Function.comp_apply, BuildStep.error?, ← errorOf_entryOf hs hf ext]
      cases entryOf d ext here (path.join ⟨name⟩) name node <;> rfl

theorem fill_eq (id : Nat) (path : FilePath) (t : UnitTree) :
    fill d settings id path t =
      (entries d settings.extension path).mapError (fun c => .sourceRead c.1 c.2) >>= fun listed =>
        ((filesOf d listed).foldlM (addFile settings id) t).map fun t => (t, foldersOf listed) := by
  unfold fill
  cases entries d settings.extension path with
  | error c => rfl
  | ok listed =>
    simp only [bind, Except.bind, Except.mapError]
    cases (filesOf d listed).foldlM (addFile settings id) t <;> rfl

/-- A directory is read as far as the first of its steps that fails. -/
theorem errorOf_fill (hd : d.WellFormed) {path : FilePath} {names files : List String}
    (hnames : InOrder (d.HasEntry path) names)
    (hfiles : InOrder (d.HasTemplate settings.extension path) files) (id : Nat) (t : UnitTree) :
    errorOf (fill d settings id path t) =
      (folderSteps d settings path names files).findSome? (BuildStep.error? d settings) := by
  rw [folderSteps, List.findSome?_append, ← errorOf_entries hd hnames settings.extension, fill_eq,
    ← errorOf_mapError]
  refine errorOf_bind fun listed hlisted => ?_
  have he : entries d settings.extension path = .ok listed := by
    cases he : entries d settings.extension path with
    | error c => rw [he] at hlisted; cases hlisted
    | ok listed' => rw [he] at hlisted; cases hlisted; rfl
  obtain rfl := hfiles.unique (inOrder_files hd he)
  rw [errorOf_map, addFiles_eq, errorOf_map, errorOf_mapM, filesOf_eq he, List.findSome?_map,
    findSome?_flatMap]
  exact findSome?_congr fun name _ => errorOf_compileFile path name

theorem paths_of_fill (hd : d.WellFormed) {path : FilePath} {folders : List String}
    (hfolders : InOrder (d.Holds path · .directory) folders) {id : Nat} {t t₁ : UnitTree}
    {inner : List (String × FilePath)} (h : fill d settings id path t = .ok (t₁, inner)) :
    inner.map Prod.snd = folders.map fun name => path.join ⟨name⟩ := by
  obtain ⟨listed, he, rfl⟩ := exists_of_fill h
  rw [hfolders.unique (inOrder_folders hd he), foldersOf_eq he, List.map_map]
  rfl

/-! ## Steps of a build -/

/-- The steps for the first directory of a row, for the directories in it and for the others. -/
theorem ScanOrder.split (hd : d.WellFormed) {path : FilePath} {row : List FilePath}
    {steps : List BuildStep} (h : ScanOrder d settings (path :: row) steps) :
    ∃ here inside rest, steps = here ++ inside ++ rest ∧ ScanOrder d settings row rest ∧
      (∀ id t, errorOf (fill d settings id path t) =
        here.findSome? (BuildStep.error? d settings)) ∧
      ∀ id t t₁ inner, fill d settings id path t = .ok (t₁, inner) →
        ScanOrder d settings (inner.map Prod.snd) inside := by
  cases h with
  | @folder _ _ names files folders inside rest hnames hfiles hfolders hinside hrest =>
    refine ⟨_, inside, rest, rfl, hrest, errorOf_fill hd hnames hfiles, ?_⟩
    intro id t t₁ inner hfill
    rw [paths_of_fill hd hfolders hfill]
    exact hinside

/-- **The first failure of directories next to each other.** -/
theorem errorOf_of_adds (hd : d.WellFormed) {p : Nat} {t : UnitTree}
    {row : List (String × FilePath)} {r : Except BundleError UnitTree}
    (h : Adds d settings p t row r) {steps : List BuildStep}
    (hsteps : ScanOrder d settings (row.map Prod.snd) steps) :
    errorOf r = steps.findSome? (BuildStep.error? d settings) := by
  induction h generalizing steps with
  | done p t =>
    cases hsteps
    rfl
  | stopped hfill =>
    obtain ⟨here, inside, rest, rfl, -, hhere, -⟩ := hsteps.split hd
    rw [List.findSome?_append, List.findSome?_append, ← hhere, hfill]
    rfl
  | inside hfill _ ih =>
    obtain ⟨here, inside, rest, rfl, -, hhere, hinside⟩ := hsteps.split hd
    rw [List.findSome?_append, List.findSome?_append, ← hhere, hfill, ← ih (hinside _ _ _ _ hfill)]
    rfl
  | next hfill _ _ ih ihrow =>
    obtain ⟨here, inside, rest, rfl, hrest, hhere, hinside⟩ := hsteps.split hd
    rw [List.findSome?_append, List.findSome?_append, ← hhere, hfill, ← ih (hinside _ _ _ _ hfill),
      ← ihrow hrest]
    rfl

theorem errorOf_of_builds (hd : d.WellFormed) {root : FilePath} {builtAt : Time}
    {r : Except BundleError UnitTree} (h : Builds d settings root builtAt r)
    {steps : List BuildStep} (hsteps : ScanOrder d settings [root] steps) :
    errorOf r = (BuildStep.source root :: steps).findSome? (BuildStep.error? d settings) := by
  obtain ⟨here, inside, rest, rfl, hrest, hhere, hinside⟩ := hsteps.split hd
  -- nothing comes after the root
  cases hrest
  rw [findSome?_cons_eq_or, List.append_nil, List.findSome?_append]
  cases h with
  | unknown hs =>
    rw [BuildStep.error?, hs]
    rfl
  | @notDirectory place node hs hnode =>
    rw [BuildStep.error?, hs]
    cases node with
    | directory => exact absurd rfl hnode
    | file | link => rfl
  | stopped hs hfill =>
    rw [BuildStep.error?, hs, ← hhere, hfill]
    rfl
  | grown hs hfill hadds =>
    rw [BuildStep.error?, hs, ← hhere, hfill, errorOf_of_adds hd hadds (hinside _ _ _ _ hfill)]
    rfl

end

/-! ## Every source has an order -/

theorem InOrder.exists_of_imp {P Q : String → Prop} {names : List String} (h : InOrder P names)
    (hQP : ∀ name, Q name → P name) : ∃ names', InOrder Q names' := by
  classical
  refine ⟨names.filter fun name => decide (Q name), h.sorted.sublist List.filter_sublist, ?_⟩
  intro name
  rw [List.mem_filter, decide_eq_true_eq, h.mem_iff]
  exact ⟨fun hname => hname.2, fun hname => ⟨hQP name hname, hname⟩⟩

theorem exists_inOrder_entries (hd : d.WellFormed) (path : FilePath) :
    ∃ names, InOrder (d.HasEntry path) names := by
  by_cases h : ∃ here, d.status path = .ok (here, .directory)
  · obtain ⟨here, hs⟩ := h
    exact ⟨_, inOrder_listing hd hs⟩
  · exact ⟨[], .nil, fun name => iff_of_false List.not_mem_nil fun ⟨here, _, hs, _⟩ => h ⟨here, hs⟩⟩

theorem hasEntry_of_holds {path : FilePath} {name : String} {node : DiskNode}
    (h : d.Holds path name node) : d.HasEntry path name := by
  cases h with
  | plain hs hf _ => exact ⟨_, _, hs, hf⟩
  | linked hs hf _ => exact ⟨_, _, hs, hf⟩

theorem exists_scanOrder_of_bound (hd : d.WellFormed) (n : Nat) {row : List FilePath}
    (h : ∀ path ∈ row, ∀ ns, Leads d path ns → ns.length < n) :
    ∃ steps, ScanOrder d settings row steps := by
  induction n generalizing row with
  | zero =>
    cases row with
    | nil => exact ⟨[], .done⟩
    | cons path row => exact absurd (h path List.mem_cons_self [] trivial) (Nat.not_lt_zero _)
  | succ n ih =>
    induction row with
    | nil => exact ⟨[], .done⟩
    | cons path row ihrow =>
      obtain ⟨names, hnames⟩ := exists_inOrder_entries hd path
      obtain ⟨files, hfiles⟩ := hnames.exists_of_imp (Q := d.HasTemplate settings.extension path)
        fun name ⟨_, _, _, hfile⟩ => hasEntry_of_holds hfile
      obtain ⟨folders, hfolders⟩ := hnames.exists_of_imp (Q := (d.Holds path · .directory))
        fun name hfolder => hasEntry_of_holds hfolder
      obtain ⟨rest, hrest⟩ := ihrow fun p hp => h p (List.mem_cons_of_mem _ hp)
      -- what leads on from a directory in `path` leads on from `path` by one name more
      have hinner : ∀ p ∈ folders.map fun name => path.join ⟨name⟩, ∀ ns, Leads d p ns →
          ns.length < n := by
        intro p hp ns hns
        obtain ⟨name, hname, rfl⟩ := List.mem_map.1 hp
        exact Nat.lt_of_succ_lt_succ
          (h path List.mem_cons_self (name :: ns) ⟨(hfolders.mem_iff name).1 hname, hns⟩)
      obtain ⟨inside, hinside⟩ := ih hinner
      exact ⟨_, .folder hnames hfiles hfolders hinside hrest⟩

theorem exists_scanOrder (hd : d.WellFormed) (root : FilePath) :
    ∃ steps, ScanOrder d settings [root] steps := by
  suffices h : ∃ n, ∀ ns, Leads d root ns → ns.length < n by
    obtain ⟨n, hn⟩ := h
    exact exists_scanOrder_of_bound hd n (List.forall_mem_singleton.2 hn)
  by_cases h : ∃ here, d.status root = .ok (here, .directory)
  · obtain ⟨here, hs⟩ := h
    exact ⟨Disk.pathLimit, fun ns => length_lt_of_leads hd hs⟩
  · refine ⟨1, fun ns hns => ?_⟩
    cases ns with
    | nil => exact Nat.one_pos
    | cons name ns =>
      obtain ⟨here, _, hs, -⟩ := hasEntry_of_holds hns.1
      exact absurd ⟨here, hs⟩ h

/-! ## Bodies that do not compile -/

theorem isBody_of_mem_fileSteps {path inner : FilePath} {block : Option String} {body : String}
    (h : BuildStep.compiling inner block body ∈ fileSteps d settings path) :
    inner = path ∧ IsBody d settings path block body := by
  rcases List.mem_cons.1 h with h | h
  · cases h
  rcases List.mem_cons.1 h with h | h
  · cases h
    exact ⟨rfl, rfl⟩
  · obtain ⟨b, hb, h⟩ := List.mem_map.1 h
    cases h
    exact ⟨rfl, hb⟩

theorem exists_of_mem_folderSteps {path inner : FilePath} {names files : List String}
    {block : Option String} {body : String}
    (h : BuildStep.compiling inner block body ∈ folderSteps d settings path names files) :
    ∃ name ∈ files, inner = path.join ⟨name⟩ ∧ IsBody d settings inner block body := by
  rcases List.mem_append.1 h with h | h
  · rcases List.mem_cons.1 h with h | h
    · cases h
    · obtain ⟨name, -, h⟩ := List.mem_map.1 h
      cases h
  · obtain ⟨name, hname, h⟩ := List.mem_flatMap.1 h
    obtain ⟨rfl, hbody⟩ := isBody_of_mem_fileSteps h
    exact ⟨name, hname, rfl, hbody⟩

/-- What is compiled are the bodies of the template files that directories lead to. -/
theorem ScanOrder.exists_of_mem {row : List FilePath} {steps : List BuildStep}
    (h : ScanOrder d settings row steps) {path : FilePath} {block : Option String} {body : String}
    (hmem : BuildStep.compiling path block body ∈ steps) :
    ∃ top ∈ row, ∃ ns name, Leads d top ns ∧
      d.HasTemplate settings.extension (top.joinAll ns) name ∧
      path = (top.joinAll ns).join ⟨name⟩ ∧ IsBody d settings path block body := by
  induction h with
  | done => cases hmem
  | @folder here row names files folders inside rest hnames hfiles hfolders _ _ ih ihrow =>
    rcases List.mem_append.1 hmem with hmem | hmem
    · rcases List.mem_append.1 hmem with hmem | hmem
      · obtain ⟨name, hname, hpath, hbody⟩ := exists_of_mem_folderSteps hmem
        exact ⟨here, List.mem_cons_self, [], name, trivial, (hfiles.mem_iff name).1 hname, hpath,
          hbody⟩
      · obtain ⟨top, htop, ns, name, hns, hname, hpath, hbody⟩ := ih hmem
        obtain ⟨n, hn, rfl⟩ := List.mem_map.1 htop
        exact ⟨here, List.mem_cons_self, n :: ns, name, ⟨(hfolders.mem_iff n).1 hn, hns⟩, hname,
          hpath, hbody⟩
    · obtain ⟨top, htop, hrest⟩ := ihrow hmem
      exact ⟨top, List.mem_cons_of_mem _ htop, hrest⟩

/-- Only a body fails with a compile error, and the error names it. -/
theorem BuildStep.error?_eq_compile [Template.Language] {step : BuildStep} {path : FilePath}
    {block : Option String} {message : String}
    (h : step.error? d settings = some (.compile path block message)) :
    ∃ body e, step = .compiling path block body ∧
      Renderer.compile (filenameOf path block) body settings.flags = .error e ∧
      message = e.message := by
  cases step with
  | source root =>
    rw [error?] at h
    split at h <;> cases h
  | opening path' =>
    rw [error?] at h
    split at h <;> cases h
  | entry path' name =>
    obtain ⟨fault, -, h⟩ := Option.map_eq_some_iff.1 h
    cases h
  | reading path' =>
    rw [error?] at h
    split at h <;> cases h
  | compiling path' block' body =>
    rw [error?] at h
    split at h
    · next e he =>
      cases h
      exact ⟨body, e, rfl, he, rfl⟩
    · cases h

end

/-- A build gives a tree where everything can be listed, read and compiled, and else the error of
the first step that fails. -/
structure Answers [Template.Language] (d : Disk) (settings : BuildSettings) (root : FilePath)
    (builtAt : Time) :
    Prop where
  exists_order : ∃ steps, ScanOrder d settings [root] steps
  succeeds_iff : (∃ t, build d settings root builtAt = .ok t) ↔ Buildable d settings root
  fails_iff : ∀ steps, ScanOrder d settings [root] steps → ∀ e,
    build d settings root builtAt = .error e ↔
      (BuildStep.source root :: steps).findSome? (BuildStep.error? d settings) = some e
  names_body : ∀ path block message,
    build d settings root builtAt = .error (.compile path block message) →
      ∃ ns name body e, Leads d root ns ∧
        d.HasTemplate settings.extension (root.joinAll ns) name ∧
        path = (root.joinAll ns).join ⟨name⟩ ∧ IsBody d settings path block body ∧
        Renderer.compile (filenameOf path block) body settings.flags = .error e ∧
        message = e.message

/-- **A build tells its first failure.** -/
theorem answers_of_wellFormed [Template.Language] {d : Disk} (hd : d.WellFormed)
    (settings : BuildSettings) (root : FilePath) (builtAt : Time) :
    Answers d settings root builtAt := by
  have hfails : ∀ steps, ScanOrder d settings [root] steps → ∀ e,
      build d settings root builtAt = .error e ↔
        (BuildStep.source root :: steps).findSome? (BuildStep.error? d settings) = some e := by
    intro steps hsteps e
    rw [← errorOf_eq_some_iff, errorOf_of_builds hd (builds_build hd root builtAt) hsteps]
  have horder : ∃ steps, ScanOrder d settings [root] steps := exists_scanOrder hd root
  refine ⟨horder, (build_iff hd settings root builtAt).symm, hfails, ?_⟩
  intro path block message hbuild
  obtain ⟨steps, hsteps⟩ := horder
  obtain ⟨step, hmem, herror⟩ :=
    List.exists_of_findSome?_eq_some ((hfails steps hsteps _).1 hbuild)
  obtain ⟨body, e, rfl, hcompile, rfl⟩ := BuildStep.error?_eq_compile herror
  rcases List.mem_cons.1 hmem with hmem | hmem
  · cases hmem
  obtain ⟨top, htop, ns, name, hns, hname, hpath, hbody⟩ := hsteps.exists_of_mem hmem
  obtain rfl := List.mem_singleton.1 htop
  exact ⟨ns, name, body, e, hns, hname, hpath, hbody, hcompile, rfl⟩

/-- A source in which a template file is no text and a directory of the same name holds a link that
leads nowhere. -/
def brokenSource : Disk :=
  ⟨[(["views"], .directory), (["views", "a"], .directory), (["views", "a", "lost"], .link "gone"),
    (["views", "a.tmpl"], .file .binary 5)], [], 100⟩

theorem wellFormed_brokenSource : brokenSource.WellFormed where
  places_nodup := by decide
  isEntryName := by
    unfold Disk.IsEntryName
    decide

theorem status_brokenSource :
    brokenSource.status ⟨"views"⟩ = .ok (["views"], .directory) ∧
      brokenSource.status ⟨"views/a.tmpl"⟩ = .ok (["views", "a.tmpl"], .file .binary 5) := by
  have hstart : ∀ text, brokenSource.start text = [] := fun text => ite_self []
  have hviews : Disk.isLongName "views" = false := by decide
  have hfile : Disk.isLongName "a.tmpl" = false := by decide
  constructor
  · have hsteps : Disk.steps "views" = ["views"] := by decide
    refine status_of_walk (by decide) hsteps ?_
    rw [hstart]
    simp [Disk.walk, Disk.find?, brokenSource, hviews]
  · have hsteps : Disk.steps "views/a.tmpl" = ["views", "a.tmpl"] := by decide
    refine status_of_walk (by decide) hsteps ?_
    rw [hstart]
    simp [Disk.walk, Disk.find?, brokenSource, List.lookup_cons, hviews, hfile]

/-- The file is told, since files come before directories. -/
theorem answers_brokenSource : brokenSource.WellFormed ∧
    build brokenSource smallSettings ⟨"views"⟩ 100 =
      .error (.sourceRead ⟨"views/a.tmpl"⟩ .notText) := by
  have hanswers := answers_of_wellFormed wellFormed_brokenSource smallSettings ⟨"views"⟩ 100
  obtain ⟨steps, hsteps⟩ := hanswers.exists_order
  refine ⟨wellFormed_brokenSource, (hanswers.fails_iff steps hsteps _).2 ?_⟩
  obtain ⟨hs, hfile⟩ := status_brokenSource
  have hl : brokenSource.listing ["views"] =
      [("a", .directory), ("a.tmpl", .file .binary 5)] := by cbv
  have he : entries brokenSource smallSettings.extension ⟨"views"⟩ =
      .ok [("a", ⟨"views/a"⟩, .folder), ("a.tmpl", ⟨"views/a.tmpl"⟩, .template)] := by
    refine entries_of_listing hs hl ?_
    exact .cons (readAs_plain rfl (Or.inl ⟨rfl, rfl⟩))
      (.cons (readAs_plain rfl (Or.inr ⟨_, _, rfl, rfl⟩)) .nil)
  have hread : brokenSource.readText ⟨"views/a.tmpl"⟩ = .error .notText := by
    simp only [Disk.readText, hfile, bind, Except.bind]
  cases hsteps with
  | @folder _ _ names files folders inside rest hnames hfiles _ _ _ =>
    obtain rfl := hfiles.unique (inOrder_files wellFormed_brokenSource he)
    rw [findSome?_cons_eq_or, BuildStep.error?, hs, folderSteps, List.findSome?_append,
      List.findSome?_append, List.findSome?_append,
      ← errorOf_entries wellFormed_brokenSource hnames smallSettings.extension, he,
      findSome?_flatMap]
    have hreading : (BuildStep.reading ⟨"views/a.tmpl"⟩).error? brokenSource smallSettings =
        some (.sourceRead ⟨"views/a.tmpl"⟩ .notText) := by
      rw [BuildStep.error?, hread]
    have hjoin : (⟨"views"⟩ : FilePath).join ⟨"a.tmpl"⟩ = ⟨"views/a.tmpl"⟩ := rfl
    simp [namesOf, Entry.isTemplate, errorOf, fileSteps, hjoin, hreading]

end Source

end TemplateBundler
