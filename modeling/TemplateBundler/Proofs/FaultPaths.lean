import TemplateBundler.Proofs.Additions

/-!
# Which entry an error names

The error of a build holds one path. Paths below the root of a source are told apart by the names
that lead to them (`names_join_of_leads`), so that an error with the path of an entry is about that
entry: the entry cannot be followed, it is a directory that cannot be opened, or a file that cannot
be read.

    build d settings root now = .error (.sourceRead ((root.joinAll ns).join ⟨name⟩) e) →
      d.entryFault? (root.joinAll ns) name = some e ∨ …                         (fault_of_build)
-/

namespace TemplateBundler.Source

variable {d : Disk} {settings : BuildSettings}

/-- The step is for the directory at `path` or for a template file in it. -/
def BuildStep.IsAt (d : Disk) (settings : BuildSettings) (path : FilePath) : BuildStep → Prop
  | source _ => False
  | opening p => p = path
  | entry p name => p = path ∧ d.HasEntry path name
  | reading p | compiling p _ _ =>
    ∃ name, d.HasTemplate settings.extension path name ∧ p = path.join ⟨name⟩

theorem isAt_of_mem_fileSteps {path : FilePath} {name : String} {step : BuildStep}
    (hname : d.HasTemplate settings.extension path name)
    (h : step ∈ fileSteps d settings (path.join ⟨name⟩)) : step.IsAt d settings path := by
  rcases List.mem_cons.1 h with rfl | h
  · exact ⟨name, hname, rfl⟩
  rcases List.mem_cons.1 h with rfl | h
  · exact ⟨name, hname, rfl⟩
  · obtain ⟨b, -, rfl⟩ := List.mem_map.1 h
    exact ⟨name, hname, rfl⟩

theorem ScanOrder.exists_isAt {row : List FilePath} {steps : List BuildStep}
    (h : ScanOrder d settings row steps) {step : BuildStep} (hmem : step ∈ steps) :
    ∃ top ∈ row, ∃ ns, Leads d top ns ∧ step.IsAt d settings (top.joinAll ns) := by
  induction h with
  | done => cases hmem
  | @folder here row names files folders inside rest hnames hfiles hfolders _ _ ih ihrow =>
    rcases List.mem_append.1 hmem with hmem | hmem
    · rcases List.mem_append.1 hmem with hmem | hmem
      · refine ⟨here, List.mem_cons_self, [], trivial, ?_⟩
        rcases List.mem_append.1 hmem with hmem | hmem
        · rcases List.mem_cons.1 hmem with rfl | hmem
          · rfl
          · obtain ⟨name, hname, rfl⟩ := List.mem_map.1 hmem
            exact ⟨rfl, (hnames.mem_iff name).1 hname⟩
        · obtain ⟨name, hname, hmem⟩ := List.mem_flatMap.1 hmem
          exact isAt_of_mem_fileSteps ((hfiles.mem_iff name).1 hname) hmem
      · obtain ⟨top, htop, ns, hns, hat⟩ := ih hmem
        obtain ⟨n, hn, rfl⟩ := List.mem_map.1 htop
        exact ⟨here, List.mem_cons_self, n :: ns, ⟨(hfolders.mem_iff n).1 hn, hns⟩, hat⟩
    · obtain ⟨top, htop, hrest⟩ := ihrow hmem
      exact ⟨top, List.mem_cons_of_mem _ htop, hrest⟩

theorem isEntryName_of_hasEntry (hd : d.WellFormed) {path : FilePath} {name : String}
    (h : d.HasEntry path name) : Disk.IsEntryName name := by
  obtain ⟨here, node, -, hf⟩ := h
  have hmem := (Disk.mem_nodes_iff hd (by simp) node).2 hf
  exact hd.isEntryName _ (List.mem_map_of_mem hmem) name (by simp)

/-- A path below the root is that of one list of names. -/
theorem names_join_of_leads (hd : d.WellFormed) {root : FilePath} {ns : List String}
    (hns : Leads d root ns) {name : String} (hname : Disk.IsEntryName name) :
    ((root.joinAll ns).join ⟨name⟩).names = root.names ++ (ns ++ [name]) := by
  rw [FilePath.names_join hname.1 hname.2, names_joinAll_of_leads hd hns, List.append_assoc]

/-- What fails with a path that cannot be read. -/
theorem BuildStep.error?_eq_sourceRead [Template.Language] {step : BuildStep} {q : FilePath}
    {e : Fault} (h : step.error? d settings = some (.sourceRead q e)) :
    step = .source q ∨ (step = .opening q ∧ ∀ here, d.status q ≠ .ok (here, .directory)) ∨
      (∃ path name, step = .entry path name ∧ path.join ⟨name⟩ = q ∧
        d.entryFault? path name = some e) ∨ (step = .reading q ∧ d.readText q = .error e) := by
  cases step with
  | source root =>
    rw [error?] at h
    split at h <;> cases h <;> exact Or.inl rfl
  | opening path =>
    rw [error?] at h
    split at h
    · next hs =>
      cases h
      exact Or.inr (Or.inl ⟨rfl, fun here hdir => by rw [hs] at hdir; cases hdir⟩)
    · cases h
    · next hnode hs =>
      cases h
      exact Or.inr (Or.inl ⟨rfl, fun here hdir =>
        hnode here (Except.ok.inj (hs.symm.trans hdir))⟩)
  | entry path name =>
    obtain ⟨e', hfault, htold⟩ := Option.map_eq_some_iff.1 h
    obtain ⟨hq, rfl⟩ := BundleError.sourceRead.inj htold
    exact Or.inr (Or.inr (Or.inl ⟨path, name, rfl, hq, hfault⟩))
  | reading path =>
    rw [error?] at h
    split at h
    · next hread =>
      cases h
      exact Or.inr (Or.inr (Or.inr ⟨rfl, hread⟩))
    · cases h
  | compiling path block body =>
    rw [error?] at h
    split at h <;> cases h

/-- A link in which something is held has been followed to it. -/
theorem exists_status_of_hasLink {path : FilePath} {name : String} {node : DiskNode}
    (hold : d.Holds path name node) (hlink : d.HasLink path name) :
    ∃ place, d.status (path.join ⟨name⟩) = .ok (place, node) := by
  obtain ⟨here, target, hs, hf⟩ := hlink
  cases hold with
  | plain hs' hf' hplain =>
    obtain ⟨rfl, -⟩ := Prod.mk.inj (Except.ok.inj (hs.symm.trans hs'))
    exact absurd (Option.some.inj (hf'.symm.trans hf)) (hplain target)
  | linked _ _ ht => exact ⟨_, ht⟩

/-- Where an error names an entry of a directory, it is the fault of the entry, or the entry itself
cannot be opened or is no text. -/
theorem fault_of_build [Template.Language] (hd : d.WellFormed) {root : FilePath} {builtAt : Time}
    {ns : List String} (hns : Leads d root ns) {name : String} (hname : Disk.IsEntryName name)
    {e : Fault} (hbuild : build d settings root builtAt =
      .error (.sourceRead ((root.joinAll ns).join ⟨name⟩) e)) :
    d.entryFault? (root.joinAll ns) name = some e ∨ ∃ node,
      d.Holds (root.joinAll ns) name node ∧ (d.HasLink (root.joinAll ns) name → e = .notText) := by
  obtain ⟨steps, hsteps⟩ : ∃ steps, ScanOrder d settings [root] steps := exists_scanOrder hd root
  have herror := errorOf_of_builds hd (builds_build hd root builtAt) hsteps
  rw [hbuild] at herror
  obtain ⟨step, hmem, hstep⟩ := List.exists_of_findSome?_eq_some herror.symm
  have hnames := names_join_of_leads hd hns hname
  have hat : step = .source root ∨ ∃ ms, Leads d root ms ∧
      step.IsAt d settings (root.joinAll ms) := by
    refine (List.mem_cons.1 hmem).imp_right fun hmem => ?_
    obtain ⟨top, htop, hat⟩ := hsteps.exists_isAt hmem
    exact List.mem_singleton.1 htop ▸ hat
  rcases BuildStep.error?_eq_sourceRead hstep with
    rfl | ⟨rfl, hdir⟩ | ⟨path, name', rfl, hpath, hfault⟩ | ⟨rfl, hread⟩
  · -- the root is no entry below itself
    rcases hat with hroot | ⟨ms, -, hat⟩
    · rw [BuildStep.source.inj hroot] at hnames
      simp at hnames
    · exact hat.elim
  · rcases hat with hroot | ⟨ms, hms, hpath⟩
    · cases hroot
    replace hpath : (root.joinAll ns).join ⟨name⟩ = root.joinAll ms := hpath
    rw [hpath, names_joinAll_of_leads hd hms] at hnames
    obtain rfl := List.append_cancel_left hnames
    have hold := ((leads_concat d root ns name).1 hms).2
    refine Or.inr ⟨.directory, hold, fun hlink => ?_⟩
    obtain ⟨place, hs⟩ := exists_status_of_hasLink hold hlink
    exact absurd hs (hdir place)
  · rcases hat with hroot | ⟨ms, hms, rfl, hentry⟩
    · cases hroot
    rw [← hpath, names_join_of_leads hd hms (isEntryName_of_hasEntry hd hentry)] at hnames
    obtain ⟨rfl, hlast⟩ := List.append_inj' (List.append_cancel_left hnames) rfl
    obtain rfl := List.head_eq_of_cons_eq hlast
    exact Or.inl hfault
  · rcases hat with hroot | ⟨ms, hms, name', ⟨-, content, modified, hold⟩, hpath⟩
    · cases hroot
    rw [hpath, names_join_of_leads hd hms (isEntryName_of_holds hd hold)] at hnames
    obtain ⟨rfl, hlast⟩ := List.append_inj' (List.append_cancel_left hnames) rfl
    obtain rfl := List.head_eq_of_cons_eq hlast
    refine Or.inr ⟨_, hold, fun hlink => ?_⟩
    -- a file that a link leads to fails in its text only
    obtain ⟨place, hs⟩ := exists_status_of_hasLink hold hlink
    simp only [Disk.readText, hs, bind, Except.bind] at hread
    cases content with
    | text s => cases hread
    | binary => exact (Except.error.inj hread).symm

end TemplateBundler.Source
