import TemplateBundler.Proofs.FaultPaths
import TemplateBundler.Proofs.Stores

/-!
# Entries beside the templates

A build passes over what is neither a directory nor a template, but only after it has followed it.
So files and links that are added to the directories of a source (`AddsBystanders`) leave the build
as it is, with its tree or its error, as long as the links are followed alike:

    build d' settings root now = build d settings root now ↔
      ¬ Parts d d' root (build d settings root now) (build d' settings root now)
                                                                       (build_eq_iff_not_parts)

The two builds part where one of them stops at a link that the other one follows in another way
(`Parts`). Such a link has been added itself and leads nowhere, or what it leads to has been added.
-/

namespace TemplateBundler

namespace Source

/-! ## Sources with more entries -/

/-- Entries are added to directories of the source at `root`. None of them is a directory or leads
to one, and none has the name of a template. -/
structure AddsBystanders (d d' : Disk) (extension : String) (root : FilePath) : Prop
    extends Disk.Grows d d' where
  added : ∀ place node, d'.find? place = some node → d.find? place = none →
    ∃ ns here name, Leads d root ns ∧ d.status (root.joinAll ns) = .ok (here, .directory) ∧
      place = here ++ [name]
  ordinary : ∀ ns name, Leads d root ns → ¬ d.HasEntry (root.joinAll ns) name →
    d'.HasEntry (root.joinAll ns) name →
      FilePath.extension? name ≠ some extension ∧ ¬ d'.Holds (root.joinAll ns) name .directory

theorem status_ne_missing_of_holds {d : Disk} (hd : d.WellFormed) {path : FilePath} {name : String}
    {node : DiskNode} (h : d.Holds path name node) :
    d.status (path.join ⟨name⟩) ≠ .error .missing := by
  have hname := isEntryName_of_holds hd h
  cases h with
  | plain hs hf hplain => exact Disk.status_join_ne_missing hs hname hf hplain
  | linked _ _ ht =>
    rw [ht]
    intro hmiss
    cases hmiss

theorem status_ne_missing_of_leads {d : Disk} (hd : d.WellFormed) {root : FilePath} {here : Place}
    (hroot : d.status root = .ok (here, .directory)) {ns : List String} (h : Leads d root ns) :
    d.status (root.joinAll ns) ≠ .error .missing := by
  rcases List.eq_nil_or_concat' ns with rfl | ⟨ms, n, rfl⟩
  · rw [FilePath.joinAll, List.foldl_nil, hroot]
    intro hmiss
    cases hmiss
  · rw [joinAll_append]
    exact status_ne_missing_of_holds hd ((leads_concat d root ms n).1 h).2

/-! ## One directory on two disks -/

theorem findSome?_filter_eq {α β : Type} {f : α → Option β} {p : α → Bool} {as : List α}
    (h : ∀ a ∈ as, p a = false → f a = none) : (as.filter p).findSome? f = as.findSome? f := by
  induction as with
  | nil => rfl
  | cons a as ih =>
    have ih := ih fun b hb => h b (List.mem_cons_of_mem a hb)
    cases hp : p a with
    | true => rw [List.filter_cons_of_pos hp, findSome?_cons_eq_or, ih, findSome?_cons_eq_or]
    | false =>
      rw [List.filter_cons_of_neg (by simp [hp]), ih, findSome?_cons_eq_or,
        h a List.mem_cons_self hp, Option.none_or]

/-- Two searches through one list come to the same, or one of them stops where the other does not
find the same. -/
theorem findSome?_eq_or {α β : Type} (f g : α → Option β) (as : List α) :
    as.findSome? g = as.findSome? f ∨ ∃ a b, g a ≠ f a ∧
      ((f a = some b ∧ as.findSome? f = some b) ∨ (g a = some b ∧ as.findSome? g = some b)) := by
  induction as with
  | nil => exact Or.inl rfl
  | cons a as ih =>
    rw [findSome?_cons_eq_or, findSome?_cons_eq_or]
    by_cases hsame : g a = f a
    · rw [hsame]
      cases hf : f a with
      | some b => exact Or.inl rfl
      | none => simpa only [Option.none_or] using ih
    · refine Or.inr ⟨a, ?_⟩
      cases hf : f a with
      | some b => exact ⟨b, hf ▸ hsame, Or.inl ⟨rfl, rfl⟩⟩
      | none =>
        cases hg : g a with
        | some b => exact ⟨b, Option.some_ne_none b, Or.inr ⟨rfl, rfl⟩⟩
        | none => exact absurd (hg.trans hf.symm) hsame

section
variable {d d' : Disk} {settings : BuildSettings}

/-- What listing a directory fails with, told from names that may have no entry too. -/
theorem errorOf_listing [Template.Language] (settings : BuildSettings) (hd : d.WellFormed)
    {path : FilePath} {here : Place} (hs : d.status path = .ok (here, .directory))
    {names : List String} (hsorted : names.Pairwise (· < ·))
    (hnames : ∀ name, d.HasEntry path name → name ∈ names) :
    errorOf ((entries d settings.extension path).mapError fun c => .sourceRead c.1 c.2) =
      names.findSome? fun name =>
        (d.entryFault? path name).map (BundleError.sourceRead (path.join ⟨name⟩)) := by
  classical
  have hopen : (BuildStep.opening path).error? d settings = none := by rw [BuildStep.error?, hs]
  have horder : InOrder (d.HasEntry path)
      (names.filter fun name => decide (d.HasEntry path name)) :=
    ⟨hsorted.sublist List.filter_sublist, fun name => by
      rw [List.mem_filter, decide_eq_true_eq]
      exact ⟨fun h => h.2, fun h => ⟨hnames name h, h⟩⟩⟩
  have hlisting : (errorOf (entries d settings.extension path)).map
      (fun c => BundleError.sourceRead c.1 c.2) = (_ :: _).findSome? (BuildStep.error? d settings) :=
    errorOf_entries hd horder _
  rw [errorOf_mapError, hlisting, findSome?_cons_eq_or, hopen, Option.none_or,
    List.findSome?_map]
  refine findSome?_filter_eq fun name _ hno => ?_
  rw [decide_eq_false_iff_not] at hno
  cases hfault : d.entryFault? path name with
  | none => simp only [Function.comp_apply, BuildStep.error?, hfault, Option.map_none]
  | some e =>
    obtain ⟨here', target, hs', hf⟩ := Disk.hasLink_of_entryFault? hfault
    exact absurd ⟨here', _, hs', hf⟩ hno

/-- Where a directory can be listed, its entries are the same with more of them beside. -/
theorem holds_iff_of_lists (h : Disk.Grows d d') {path : FilePath} (hlists : d.Lists path)
    {name : String} (hentry : d.HasEntry path name) (node : DiskNode) :
    d'.Holds path name node ↔ d.Holds path name node := by
  refine ⟨fun hold => ?_, h.holds⟩
  obtain ⟨here, hs, hlinks⟩ := hlists
  obtain ⟨here', found, hs', hf⟩ := hentry
  obtain ⟨rfl, -⟩ := Prod.mk.inj (Except.ok.inj (hs.symm.trans hs'))
  have hf' := h.kept _ _ hf
  cases hold with
  | plain hs'' hfound hplain =>
    obtain ⟨rfl, -⟩ := Prod.mk.inj (Except.ok.inj ((h.status_ok hs).symm.trans hs''))
    obtain rfl := Option.some.inj (hf'.symm.trans hfound)
    exact .plain hs hf hplain
  | linked hs'' hfound ht =>
    obtain ⟨rfl, -⟩ := Prod.mk.inj (Except.ok.inj ((h.status_ok hs).symm.trans hs''))
    obtain rfl := Option.some.inj (hf'.symm.trans hfound)
    obtain ⟨place, node', ht', -⟩ := hlinks name _ hf
    obtain ⟨-, rfl⟩ := Prod.mk.inj (Except.ok.inj ((h.status_ok ht').symm.trans ht))
    exact .linked hs hf ht'

theorem InOrder.congr {P Q : String → Prop} {names : List String} (h : InOrder P names)
    (hPQ : ∀ name, P name ↔ Q name) : InOrder Q names :=
  ⟨h.sorted, fun name => (h.mem_iff name).trans (hPQ name)⟩

/-- The files and the directories of a directory that can be listed with and without what is
beside them. -/
theorem files_folders_eq (h : Disk.Grows d d') (hd : d.WellFormed) (hd' : d'.WellFormed)
    {path : FilePath} {ext : String}
    (hbeside : ∀ name, ¬ d.HasEntry path name → d'.HasEntry path name →
      FilePath.extension? name ≠ some ext ∧ ¬ d'.Holds path name .directory)
    {listed listed' : List (String × FilePath × Entry)} (he : entries d ext path = .ok listed)
    (he' : entries d' ext path = .ok listed') :
    filesOf d' listed' = filesOf d listed ∧ foldersOf listed' = foldersOf listed := by
  have hlists := lists_of_entries hd he
  have hholds : ∀ name node, d.HasEntry path name →
      (d'.Holds path name node ↔ d.Holds path name node) := fun name node hentry =>
    holds_iff_of_lists h hlists hentry node
  have hfolder : ∀ name, d'.Holds path name .directory ↔ d.Holds path name .directory := by
    intro name
    by_cases hentry : d.HasEntry path name
    · exact hholds name _ hentry
    · refine iff_of_false (fun hold => ?_) fun hold => hentry (hasEntry_of_holds hold)
      exact (hbeside name hentry (hasEntry_of_holds hold)).2 hold
  have htemplate : ∀ name, d'.HasTemplate ext path name ↔ d.HasTemplate ext path name := by
    intro name
    unfold Disk.HasTemplate
    by_cases hentry : d.HasEntry path name
    · simp only [hholds name _ hentry]
    · refine iff_of_false ?_ fun ⟨_, _, _, hold⟩ => hentry (hasEntry_of_holds hold)
      rintro ⟨hext, content, modified, hold⟩
      exact (hbeside name hentry (hasEntry_of_holds hold)).1 hext
  have hfiles := ((inOrder_files hd' he').congr htemplate).unique (inOrder_files hd he)
  have hfolders := ((inOrder_folders hd' he').congr hfolder).unique (inOrder_folders hd he)
  rw [filesOf_eq he, filesOf_eq he', foldersOf_eq he, foldersOf_eq he', hfiles, hfolders]
  refine ⟨List.map_congr_left fun name hname => ?_, rfl⟩
  -- a template file is read as before
  obtain ⟨-, content, modified, hold⟩ := (mem_templateNames he hd name).1 hname
  have hstatus := h.status_eq (status_ne_missing_of_holds hd hold)
  simp only [templateFile, readFile, Disk.modified?, Disk.readText, hstatus]

/-! ## Two builds -/

/-- One of two results is the error of an entry of the directory at `path` that the other disk gives
another fault, or none. -/
def PartsAt {α : Type} (d d' : Disk) (path : FilePath) (r r' : Except BundleError α) : Prop :=
  ∃ name e, d'.entryFault? path name ≠ d.entryFault? path name ∧
    ((d.entryFault? path name = some e ∧ r = .error (.sourceRead (path.join ⟨name⟩) e)) ∨
      (d'.entryFault? path name = some e ∧ r' = .error (.sourceRead (path.join ⟨name⟩) e)))

/-- The same at some directory of the source at `root`. -/
def Parts {α : Type} (d d' : Disk) (root : FilePath) (r r' : Except BundleError α) : Prop :=
  ∃ ns, Leads d root ns ∧ PartsAt d d' (root.joinAll ns) r r'

def Alike {α : Type} (d d' : Disk) (root : FilePath) (r r' : Except BundleError α) : Prop :=
  r' = r ∨ Parts d d' root r r'

theorem Alike.bind {α β : Type} {root : FilePath} {r r' : Except BundleError α}
    {f f' : α → Except BundleError β} (h : Alike d d' root r r')
    (hf : ∀ a, r = .ok a → Alike d d' root (f a) (f' a)) :
    Alike d d' root (r.bind f) (r'.bind f') := by
  rcases h with rfl | ⟨ns, hns, name, e, hne, h⟩
  · cases r' with
    | error e => exact Or.inl rfl
    | ok a => exact hf a rfl
  · refine Or.inr ⟨ns, hns, name, e, hne, h.imp ?_ ?_⟩
    · rintro ⟨hfault, rfl⟩
      exact ⟨hfault, rfl⟩
    · rintro ⟨hfault, rfl⟩
      exact ⟨hfault, rfl⟩

variable [Template.Language]

theorem fill_of_error {path : FilePath} {b : BundleError} (id : Nat) (t : UnitTree)
    (h : errorOf ((entries d settings.extension path).mapError fun c => .sourceRead c.1 c.2) =
      some b) : fill d settings id path t = .error b := by
  rw [fill_eq, (errorOf_eq_some_iff _ b).1 h]
  rfl

/-- What is no directory cannot be listed. -/
theorem fill_congr_of_not_directory {path : FilePath} (hstatus : d'.status path = d.status path)
    (hdir : ∀ here, d.status path ≠ .ok (here, .directory)) (id : Nat) (t : UnitTree) :
    fill d' settings id path t = fill d settings id path t := by
  have hentries : entries d' settings.extension path = entries d settings.extension path := by
    unfold entries
    rw [hstatus]
    cases hs : d.status path with
    | error e => rfl
    | ok spot =>
      obtain ⟨here, node⟩ := spot
      cases node with
      | directory => exact absurd hs (hdir here)
      | file content modified => rfl
      | link target => rfl
  rw [fill_eq, fill_eq, hentries]
  cases he : entries d settings.extension path with
  | error c => rfl
  | ok listed =>
    obtain ⟨here, hs, -⟩ := (entries_eq_ok_iff d _ path listed).1 he
    exact absurd hs (hdir here)

/-- A directory whose listing fails alike, or on neither disk, is read alike. -/
theorem fill_congr_of_errorOf (h : Disk.Grows d d') (hd : d.WellFormed) (hd' : d'.WellFormed)
    {path : FilePath}
    (hbeside : ∀ name, ¬ d.HasEntry path name → d'.HasEntry path name →
      FilePath.extension? name ≠ some settings.extension ∧ ¬ d'.Holds path name .directory)
    (hsame : errorOf ((entries d' settings.extension path).mapError fun c =>
        BundleError.sourceRead c.1 c.2) =
      errorOf ((entries d settings.extension path).mapError fun c =>
        BundleError.sourceRead c.1 c.2)) (id : Nat) (t : UnitTree) :
    fill d' settings id path t = fill d settings id path t := by
  cases he : errorOf ((entries d settings.extension path).mapError fun c =>
      BundleError.sourceRead c.1 c.2) with
  | some b => rw [fill_of_error id t he, fill_of_error id t (hsame.trans he)]
  | none =>
    rw [he] at hsame
    rw [errorOf_mapError] at he hsame
    cases hlisted : entries d settings.extension path with
    | error c => rw [hlisted] at he; cases he
    | ok listed =>
    cases hlisted' : entries d' settings.extension path with
    | error c => rw [hlisted'] at hsame; cases hsame
    | ok listed' =>
    obtain ⟨hfiles, hfolders⟩ := files_folders_eq h hd hd' hbeside hlisted hlisted'
    rw [fill_eq, fill_eq, hlisted, hlisted']
    simp only [Except.mapError, bind, Except.bind, hfiles, hfolders]

/-- **One directory on two disks.** It is read alike, or the reading stops at an entry that is not
followed alike. -/
theorem alike_fill (h : Disk.Grows d d') (hd : d.WellFormed) (hd' : d'.WellFormed)
    {path : FilePath} (hmissing : d.status path ≠ .error .missing)
    (hbeside : ∀ name, ¬ d.HasEntry path name → d'.HasEntry path name →
      FilePath.extension? name ≠ some settings.extension ∧ ¬ d'.Holds path name .directory)
    (id : Nat) (t : UnitTree) :
    fill d' settings id path t = fill d settings id path t ∨
      PartsAt d d' path (fill d settings id path t) (fill d' settings id path t) := by
  by_cases hdir : ∃ here, d.status path = .ok (here, .directory)
  · obtain ⟨here, hs⟩ := hdir
    have hs' := h.status_ok hs
    -- the names on the second disk are all names there are
    have hnames := inOrder_listing hd' hs'
    have hfirst := errorOf_listing settings hd hs hnames.sorted fun name hentry =>
      (hnames.mem_iff name).2 (h.hasEntry hentry)
    have hsecond := errorOf_listing settings hd' hs' hnames.sorted fun name =>
      (hnames.mem_iff name).2
    rcases findSome?_eq_or
      (fun name => (d.entryFault? path name).map (BundleError.sourceRead (path.join ⟨name⟩)))
      (fun name => (d'.entryFault? path name).map (BundleError.sourceRead (path.join ⟨name⟩)))
      ((d'.listing here).map Prod.fst) with hsame | ⟨name, b, hne, hstop⟩
    · rw [← hfirst, ← hsecond] at hsame
      exact Or.inl (fill_congr_of_errorOf h hd hd' hbeside hsame id t)
    · refine Or.inr ?_
      rcases hstop with ⟨hfault, hstop⟩ | ⟨hfault, hstop⟩
      · obtain ⟨e, he, rfl⟩ := Option.map_eq_some_iff.1 hfault
        refine ⟨name, e, fun hfaults => hne (by rw [hfaults]), Or.inl ⟨he, ?_⟩⟩
        exact fill_of_error id t (hfirst.trans hstop)
      · obtain ⟨e, he, rfl⟩ := Option.map_eq_some_iff.1 hfault
        refine ⟨name, e, fun hfaults => hne (by rw [hfaults]), Or.inr ⟨he, ?_⟩⟩
        exact fill_of_error id t (hsecond.trans hstop)
  · exact Or.inl (fill_congr_of_not_directory (h.status_eq hmissing)
      (fun here hs => hdir ⟨here, hs⟩) id t)

section Builds
variable {root : FilePath} (h : AddsBystanders d d' settings.extension root) (hd : d.WellFormed)
  (hd' : d'.WellFormed) {here : Place} (hroot : d.status root = .ok (here, .directory))
include h hd hd' hroot

theorem AddsBystanders.alike_fill {ns : List String} (hns : Leads d root ns) (id : Nat)
    (t : UnitTree) : Alike d d' root (fill d settings id (root.joinAll ns) t)
      (fill d' settings id (root.joinAll ns) t) :=
  (Source.alike_fill h.toGrows hd hd' (status_ne_missing_of_leads hd hroot hns)
    (fun name => h.ordinary ns name hns) id t).imp_right fun hparts => ⟨ns, hns, hparts⟩

omit h hd' hroot in
theorem exists_leads_of_fill {ns : List String} (hns : Leads d root ns) {id : Nat}
    {t t₁ : UnitTree} {inner : List (String × FilePath)}
    (hfill : fill d settings id (root.joinAll ns) t = .ok (t₁, inner)) :
    ∀ entry ∈ inner, ∃ ms, Leads d root ms ∧ entry.2 = root.joinAll ms := by
  obtain ⟨listed, he, rfl⟩ := exists_of_fill hfill
  intro entry hentry
  rw [foldersOf_eq he] at hentry
  obtain ⟨m, hm, rfl⟩ := List.mem_map.1 hentry
  have hleads := (leads_concat d root ns m).2 ⟨hns, (mem_folderNames he hd m).1 hm⟩
  exact ⟨ns ++ [m], hleads, (joinAll_append root ns [m]).symm⟩

/-- Directories down to a depth, below a unit of the same tree. -/
theorem AddsBystanders.alike_scanDown (n : Nat) {row : List (String × FilePath)}
    (hrow : ∀ entry ∈ row, ∃ ns, Leads d root ns ∧ entry.2 = root.joinAll ns) (p : Nat)
    (t : UnitTree) :
    Alike d d' root (addFolders settings p t (scanDown d settings.extension n row))
      (addFolders settings p t (scanDown d' settings.extension n row)) := by
  induction n generalizing row p t with
  | zero => cases row <;> exact Or.inl rfl
  | succ n ih =>
    rw [scanDown_succ, scanDown_succ]
    induction row generalizing t with
    | nil => exact Or.inl rfl
    | cons entry row ihrow =>
      obtain ⟨name, path⟩ := entry
      obtain ⟨ns, hns, hpath⟩ := hrow _ List.mem_cons_self
      obtain rfl : path = root.joinAll ns := hpath
      rw [addFolders_scanRow, addFolders_scanRow]
      refine (h.alike_fill hd hd' hroot hns _ _).bind ?_
      rintro ⟨t₁, inner⟩ hfill
      refine (ih (exists_leads_of_fill hd hns hfill) _ t₁).bind fun t₂ _ => ?_
      exact ihrow (fun entry hentry => hrow entry (List.mem_cons_of_mem _ hentry)) t₂

theorem AddsBystanders.alike_build_directory (builtAt : Time) :
    Alike d d' root (build d settings root builtAt) (build d' settings root builtAt) := by
  have hlimit : Disk.pathLimit = 4095 + 1 := rfl
  unfold build scan
  rw [hroot, h.status_ok hroot]
  simp only
  rw [hlimit, scanDown_succ, scanDown_succ, treeOf_scanRow, treeOf_scanRow]
  have hnil : Leads d root [] := trivial
  refine (h.alike_fill hd hd' hroot hnil _ _).bind ?_
  rintro ⟨t, inner⟩ hfill
  exact h.alike_scanDown hd hd' hroot 4095 (exists_leads_of_fill hd hnil hfill) _ t

end Builds

omit [Template.Language] in
/-- Nothing is added where there is no source. -/
theorem AddsBystanders.find?_eq {ext : String} {root : FilePath}
    (h : AddsBystanders d d' ext root)
    (hroot : ∀ here, d.status root ≠ .ok (here, .directory)) (place : Place) :
    d'.find? place = d.find? place := by
  cases hf : d.find? place with
  | some node => exact h.kept place node hf
  | none =>
    rw [Option.eq_none_iff_forall_not_mem]
    intro node hnode
    obtain ⟨ns, here, name, hns, hs, -⟩ := h.added place node hnode hf
    cases ns with
    | nil => exact hroot here hs
    | cons n ns =>
      obtain ⟨here, -, hs, -⟩ := hasEntry_of_holds hns.1
      exact hroot here hs

theorem AddsBystanders.alike_build {root : FilePath}
    (h : AddsBystanders d d' settings.extension root) (hd : d.WellFormed) (hd' : d'.WellFormed)
    (builtAt : Time) :
    Alike d d' root (build d settings root builtAt) (build d' settings root builtAt) := by
  by_cases hdir : ∃ here, d.status root = .ok (here, .directory)
  · obtain ⟨here, hroot⟩ := hdir
    exact h.alike_build_directory hd hd' hroot builtAt
  · refine Or.inl ?_
    have hnodes := h.find?_eq fun here hs => hdir ⟨here, hs⟩
    have hstatus : d'.status root = d.status root := by
      simp only [Disk.status, Disk.locate, Disk.start, h.workingDirectory, Disk.walk_congr hnodes]
    unfold build scan
    rw [hstatus]
    cases hs : d.status root with
    | error e => rfl
    | ok spot =>
      obtain ⟨here, node⟩ := spot
      cases node with
      | directory => exact absurd ⟨here, hs⟩ hdir
      | file content modified => rfl
      | link target => rfl

/-- **Two builds.** Entries beside the templates leave a build as it is, with its tree or its error,
unless one of the two builds stops at a link that the other one follows in another way. -/
theorem build_eq_iff_not_parts {root : FilePath}
    (h : AddsBystanders d d' settings.extension root) (hd : d.WellFormed) (hd' : d'.WellFormed)
    (builtAt : Time) : build d' settings root builtAt = build d settings root builtAt ↔
      ¬ Parts d d' root (build d settings root builtAt) (build d' settings root builtAt) := by
  refine ⟨?_, (h.alike_build hd hd' builtAt).resolve_right⟩
  rintro hsame ⟨ns, hns, name, e, hne, ⟨hfault, hbuild⟩ | ⟨hfault, hbuild⟩⟩
  · have hentry : d.HasEntry (root.joinAll ns) name := by
      obtain ⟨here, target, hs, hf⟩ := Disk.hasLink_of_entryFault? hfault
      exact ⟨here, _, hs, hf⟩
    rcases fault_of_build hd' (h.leads hns) (isEntryName_of_hasEntry hd hentry)
      (hsame.trans hbuild) with hfault' | ⟨node, hold, hlink⟩
    · exact hne (hfault'.trans hfault.symm)
    · rw [hlink ((h.hasLink_iff hentry).2 (Disk.hasLink_of_entryFault? hfault))] at hfault
      exact d.entryFault?_ne_notText _ _ hfault
  · have hlink' := Disk.hasLink_of_entryFault? hfault
    have hname : Disk.IsEntryName name := by
      obtain ⟨here, target, hs, hf⟩ := hlink'
      exact isEntryName_of_hasEntry hd' ⟨here, _, hs, hf⟩
    rcases fault_of_build hd hns hname (hsame.symm.trans hbuild) with
      hfault' | ⟨node, hold, hlink⟩
    · exact hne (hfault.trans hfault'.symm)
    · rw [hlink ((h.hasLink_iff (hasEntry_of_holds hold)).1 hlink')] at hfault
      exact d'.entryFault?_ne_notText _ _ hfault

end

/-! ## Sources of one directory -/

theorem mem_of_lookup {α β : Type} [BEq α] [LawfulBEq α] {pairs : List (α × β)} {k : α} {v : β}
    (h : pairs.lookup k = some v) : (k, v) ∈ pairs := by
  obtain ⟨before, after, hsplit, -⟩ := List.lookup_eq_some_iff.1 h
  exact hsplit ▸ List.mem_append_right _ List.mem_cons_self

/-- A source directory with these entries. -/
def viewsWith (inside : List (String × DiskNode)) : Disk :=
  ⟨(["views"], .directory) :: inside.map fun (name, node) => (["views", name], node), [], 100⟩

section
variable {inside more : List (String × DiskNode)}

theorem status_viewsWith (inside : List (String × DiskNode)) :
    (viewsWith inside).status ⟨"views"⟩ = .ok (["views"], .directory) := by
  have hstart : (viewsWith inside).start "views" = [] := ite_self []
  have hsteps : Disk.steps "views" = ["views"] := by decide
  have hlong : Disk.isLongName "views" = false := by decide
  refine status_of_walk (by decide) hsteps ?_
  rw [hstart]
  simp [Disk.walk, Disk.find?, viewsWith, hlong]

theorem wellFormed_viewsWith (inside : List (String × DiskNode))
    (hnames : (inside.map Prod.fst).Nodup)
    (hentries : ∀ pair ∈ inside, Disk.IsEntryName pair.1) : (viewsWith inside).WellFormed where
  places_nodup := by
    have hmap : (viewsWith inside).nodes.map Prod.fst =
        ["views"] :: (inside.map Prod.fst).map fun name => ["views", name] := by
      simp [viewsWith, Function.comp_def]
    rw [hmap, List.nodup_cons]
    refine ⟨by simp, hnames.map fun a b hab => by simpa using hab⟩
  isEntryName := by
    have hviews : Disk.IsEntryName "views" := by
      unfold Disk.IsEntryName
      decide
    simp only [viewsWith, List.map_cons, List.map_map, List.mem_cons, List.mem_map]
    rintro place (rfl | ⟨pair, hpair, rfl⟩) name hname
    · exact List.mem_singleton.1 hname ▸ hviews
    · simp only [Function.comp_apply, List.mem_cons, List.not_mem_nil, or_false] at hname
      rcases hname with rfl | rfl
      · exact hviews
      · exact hentries pair hpair

theorem find?_viewsWith (inside : List (String × DiskNode)) (name : String) :
    (viewsWith inside).find? ["views", name] = inside.lookup name := by
  have hmap : (inside.map fun (pair : String × DiskNode) => (["views", pair.1], pair.2)).lookup
      ["views", name] = inside.lookup name := by
    induction inside with
    | nil => rfl
    | cons pair inside ih =>
      rw [List.map_cons, List.lookup_cons, List.lookup_cons, ih]
      have hkey : (["views", name] == ["views", pair.1]) = (name == pair.1) := by
        rw [Bool.eq_iff_iff]
        simp
      rw [hkey]
  simpa [Disk.find?, viewsWith, List.lookup_cons] using hmap

theorem eq_nil_of_leads_viewsWith
    (hplain : ∀ name, ¬ (viewsWith inside).Holds ⟨"views"⟩ name .directory) {ns : List String}
    (h : Leads (viewsWith inside) ⟨"views"⟩ ns) : ns = [] := by
  cases ns with
  | nil => rfl
  | cons n ns => exact absurd h.1 (hplain n)

/-- What is added to the directory is beside the templates in it. -/
theorem addsBystanders_viewsWith (inside more : List (String × DiskNode))
    (hplain : ∀ name, ¬ (viewsWith inside).Holds ⟨"views"⟩ name .directory)
    (hmore : ∀ pair ∈ more, FilePath.extension? pair.1 ≠ some "tmpl" ∧
      ¬ (viewsWith (inside ++ more)).Holds ⟨"views"⟩ pair.1 .directory) :
    AddsBystanders (viewsWith inside) (viewsWith (inside ++ more)) "tmpl" ⟨"views"⟩ := by
  have hs := status_viewsWith inside
  have hs' := status_viewsWith (inside ++ more)
  have hlookup : ∀ place, place ≠ [] → (viewsWith (inside ++ more)).find? place =
      ((viewsWith inside).find? place).or
        ((more.map fun (name, node) => (["views", name], node)).lookup place) := by
    intro place hplace
    rw [Disk.find?, Disk.find?, if_neg hplace, if_neg hplace, ← List.lookup_append]
    simp [viewsWith]
  refine ⟨⟨rfl, fun place node hf => ?_⟩, fun place node hf hnone => ?_, ?_⟩
  · by_cases hplace : place = []
    · rw [hplace] at hf ⊢
      exact hf
    · rw [hlookup place hplace, hf, Option.some_or]
  · have hplace : place ≠ [] := by
      rintro rfl
      cases hnone
    rw [hlookup place hplace, hnone, Option.none_or] at hf
    obtain ⟨pair, -, hpair⟩ := List.mem_map.1 (mem_of_lookup hf)
    exact ⟨[], ["views"], pair.1, trivial, hs, (Prod.mk.inj hpair).1.symm⟩
  · intro ns name hns hno hentry
    obtain rfl := eq_nil_of_leads_viewsWith hplain hns
    obtain ⟨here, node, hhere, hf⟩ := hentry
    obtain ⟨rfl, -⟩ := Prod.mk.inj (Except.ok.inj (hs'.symm.trans hhere))
    have hfind : (viewsWith inside).find? ["views", name] = none := by
      rw [Option.eq_none_iff_forall_not_mem]
      exact fun node hnode => hno ⟨["views"], node, hs, hnode⟩
    change (viewsWith (inside ++ more)).find? ["views", name] = some node at hf
    rw [find?_viewsWith] at hfind hf
    rw [List.lookup_append, hfind, Option.none_or] at hf
    exact hmore _ (mem_of_lookup hf)

/-- What such a directory holds under a name. -/
theorem lookup_of_holds {name : String} {node : DiskNode}
    (h : (viewsWith inside).Holds ⟨"views"⟩ name node) :
    inside.lookup name = some node ∨ ∃ target place, inside.lookup name = some (.link target) ∧
      (viewsWith inside).status ((⟨"views"⟩ : FilePath).join ⟨name⟩) = .ok (place, node) := by
  have hs := status_viewsWith inside
  cases h with
  | plain hs' hf _ =>
    obtain ⟨rfl, -⟩ := Prod.mk.inj (Except.ok.inj (hs.symm.trans hs'))
    exact Or.inl ((find?_viewsWith inside name).symm.trans hf)
  | linked hs' hf ht =>
    obtain ⟨rfl, -⟩ := Prod.mk.inj (Except.ok.inj (hs.symm.trans hs'))
    exact Or.inr ⟨_, _, (find?_viewsWith inside name).symm.trans hf, ht⟩

theorem listing_viewsWith (name : String) (node : DiskNode) :
    (viewsWith [(name, node)]).listing ["views"] = [(name, node)] := by
  simp [Disk.listing, viewsWith]

/-- A link whose path leads nowhere stops a build. -/
theorem build_viewsWith_of_fault [Template.Language] {name target : String} {e : Fault}
    (ht : (viewsWith [(name, .link target)]).status ((⟨"views"⟩ : FilePath).join ⟨name⟩) = .error e)
    (settings : BuildSettings) (builtAt : Time) :
    build (viewsWith [(name, .link target)]) settings ⟨"views"⟩ builtAt =
      .error (.sourceRead ((⟨"views"⟩ : FilePath).join ⟨name⟩) e) := by
  have hs := status_viewsWith [(name, .link target)]
  have hl := listing_viewsWith name (.link target)
  have hlimit : Disk.pathLimit = 4095 + 1 := rfl
  have he : entries (viewsWith [(name, .link target)]) settings.extension ⟨"views"⟩ =
      .error ((⟨"views"⟩ : FilePath).join ⟨name⟩, e) := by
    simp only [entries, hs, hl, List.mapM_cons, entryOf, ht, bind, Except.bind]
  simp only [build, scan, hs, hlimit, scanDown, scanRow, he, treeOf]

/-- Where a link to another entry of the directory leads. -/
theorem status_link_viewsWith (inside : List (String × DiskNode)) {path name target : String}
    (hjoin : (⟨"views"⟩ : FilePath).join ⟨name⟩ = ⟨path⟩)
    (hpath : Disk.Spelled path ["views", name]) (hname : Disk.IsEntry name)
    (htarget : Disk.IsEntry target) (hrelative : Disk.isAbsolute target = false)
    (hnonempty : target.isEmpty = false) (hsteps : Disk.steps target = [target])
    (hlink : inside.lookup name = some (.link target)) :
    (inside.lookup target = none →
      (viewsWith inside).status ((⟨"views"⟩ : FilePath).join ⟨name⟩) = .error .missing) ∧
      ∀ content time, inside.lookup target = some (.file content time) →
        (viewsWith inside).status ((⟨"views"⟩ : FilePath).join ⟨name⟩) =
          .ok (["views", target], .file content time) := by
  have hviews : Disk.isLongName "views" = false := by decide
  have htop : (viewsWith inside).find? ["views"] = some .directory := rfl
  have hname' := find?_viewsWith inside name
  have htarget' := find?_viewsWith inside target
  have hwalk : (viewsWith inside).walk true Disk.linkLimit [] ["views", name] =
      (viewsWith inside).walk true 39 ["views"] [target] := by
    have hlimit : Disk.linkLimit = 39 + 1 := rfl
    rw [hlimit]
    simp [Disk.walk, hviews, htop, hname.ne_dot, hname.ne_dotdot, hname.not_long, hname', hlink,
      hnonempty, hrelative, hsteps]
  have hworking : (viewsWith inside).workingDirectory = [] := rfl
  rw [hjoin, hpath.status_eq, hworking, hwalk]
  constructor
  · intro hnone
    simp [Disk.walk, htarget.ne_dot, htarget.ne_dotdot, htarget.not_long, htarget', hnone]
  · intro content time hfile
    simp [Disk.walk, htarget.ne_dot, htarget.ne_dotdot, htarget.not_long, htarget', hfile]

/-- There is no directory where no link leads to one. -/
theorem not_holds_viewsWith (inside : List (String × DiskNode))
    (hdir : ∀ pair ∈ inside, pair.2 ≠ .directory)
    (hlinks : ∀ name target, (name, .link target) ∈ inside → ∀ place,
      (viewsWith inside).status ((⟨"views"⟩ : FilePath).join ⟨name⟩) ≠ .ok (place, .directory))
    (name : String) : ¬ (viewsWith inside).Holds ⟨"views"⟩ name .directory := by
  intro hold
  rcases lookup_of_holds hold with hlookup | ⟨target, place, hlookup, ht⟩
  · exact hdir _ (mem_of_lookup hlookup) rfl
  · exact hlinks _ _ (mem_of_lookup hlookup) _ ht

/-- Everything can be followed where links lead to files. -/
theorem entryFault?_viewsWith (hlinks : ∀ name target, (name, .link target) ∈ inside →
      ∃ place content time, (viewsWith inside).status ((⟨"views"⟩ : FilePath).join ⟨name⟩) =
        .ok (place, .file content time))
    (name : String) : (viewsWith inside).entryFault? ⟨"views"⟩ name = none := by
  have hs := status_viewsWith inside
  cases hfault : (viewsWith inside).entryFault? ⟨"views"⟩ name with
  | none => rfl
  | some e =>
    obtain ⟨here, target, hs', hf⟩ := Disk.hasLink_of_entryFault? hfault
    obtain ⟨rfl, -⟩ := Prod.mk.inj (Except.ok.inj (hs.symm.trans hs'))
    have hlookup := (find?_viewsWith inside name).symm.trans hf
    obtain ⟨place, content, time, hfile⟩ := hlinks _ _ (mem_of_lookup hlookup)
    simp only [Disk.entryFault?, hs, hf, hfile, reduceCtorEq] at hfault

end

theorem isEntry_names : ∀ name ∈ ["a.tmpl", "copy", "notes.txt", "lock", "gone"],
    Disk.IsEntry name := by
  intro name hname
  simp only [List.mem_cons, List.not_mem_nil, or_false] at hname
  rcases hname with rfl | rfl | rfl | rfl | rfl
  all_goals exact ⟨by decide, by decide, by decide⟩

theorem isEntryName_names : ∀ name ∈ ["a.tmpl", "copy", "notes.txt", "lock"],
    Disk.IsEntryName name := by
  unfold Disk.IsEntryName
  decide

/-- The links of the sources below, with their paths. -/
theorem join_links : (⟨"views"⟩ : FilePath).join ⟨"copy"⟩ = ⟨"views/copy"⟩ ∧
    (⟨"views"⟩ : FilePath).join ⟨"a.tmpl"⟩ = ⟨"views/a.tmpl"⟩ ∧
    (⟨"views"⟩ : FilePath).join ⟨"lock"⟩ = ⟨"views/lock"⟩ := by
  decide

theorem spelled_links : Disk.Spelled "views/copy" ["views", "copy"] ∧
    Disk.Spelled "views/a.tmpl" ["views", "a.tmpl"] ∧
    Disk.Spelled "views/lock" ["views", "lock"] := by
  refine ⟨?_, ?_, ?_⟩
  all_goals exact
    ⟨by decide, by decide, by decide, by decide⟩

/-- A link to the notes. -/
theorem status_link_notes (inside : List (String × DiskNode)) {path name : String}
    (hjoin : (⟨"views"⟩ : FilePath).join ⟨name⟩ = ⟨path⟩)
    (hpath : Disk.Spelled path ["views", name]) (hname : Disk.IsEntry name)
    (hlink : inside.lookup name = some (.link "notes.txt")) :
    (inside.lookup "notes.txt" = none →
      (viewsWith inside).status ((⟨"views"⟩ : FilePath).join ⟨name⟩) = .error .missing) ∧
      ∀ content time, inside.lookup "notes.txt" = some (.file content time) →
        (viewsWith inside).status ((⟨"views"⟩ : FilePath).join ⟨name⟩) =
          .ok (["views", "notes.txt"], .file content time) :=
  status_link_viewsWith inside hjoin hpath hname (isEntry_names "notes.txt" (by decide)) (by decide)
    (by decide) (by decide) hlink

theorem build_eq_of_notes :
    let page : List (String × DiskNode) := [("a.tmpl", .file (.text "hi") 5)]
    let beside : List (String × DiskNode) :=
      [("notes.txt", .file (.text "n") 900), ("copy", .link "notes.txt")]
    AddsBystanders (viewsWith page) (viewsWith (page ++ beside)) "tmpl" ⟨"views"⟩ ∧
      (viewsWith page).WellFormed ∧ (viewsWith (page ++ beside)).WellFormed ∧
      build (viewsWith (page ++ beside)) smallSettings ⟨"views"⟩ 100 =
        build (viewsWith page) smallSettings ⟨"views"⟩ 100 := by
  intro page beside
  have hcopy := (status_link_notes (page ++ beside) join_links.1 spelled_links.1
    (isEntry_names _ (by decide)) rfl).2 _ _ rfl
  have hlinks : ∀ name target, (name, .link target) ∈ page ++ beside →
      (viewsWith (page ++ beside)).status ((⟨"views"⟩ : FilePath).join ⟨name⟩) =
        .ok (["views", "notes.txt"], .file (.text "n") 900) := by
    intro name target hmem
    obtain ⟨rfl, -⟩ : name = "copy" ∧ target = "notes.txt" := by simpa [page, beside] using hmem
    exact hcopy
  have hplain := not_holds_viewsWith page (by simp [page]) (by simp [page])
  have hplain' := not_holds_viewsWith (page ++ beside) (by simp [page, beside])
    fun name target hmem place hfound => by
      rw [hlinks name target hmem] at hfound
      cases hfound
  have hextensions : ∀ pair ∈ beside, FilePath.extension? pair.1 ≠ some "tmpl" := by
    decide
  have hbeside := addsBystanders_viewsWith page beside hplain fun pair hpair =>
    ⟨hextensions pair hpair, hplain' pair.1⟩
  have hd := wellFormed_viewsWith page (by decide) (by simp [page, isEntryName_names])
  have hd' := wellFormed_viewsWith (page ++ beside) (by decide)
    (by simp [page, beside, isEntryName_names])
  refine ⟨hbeside, hd, hd', (build_eq_iff_not_parts hbeside hd hd' 100).2 ?_⟩
  rintro ⟨ns, hns, name, e, hne, -⟩
  obtain rfl := eq_nil_of_leads_viewsWith hplain hns
  refine hne (Eq.trans (entryFault?_viewsWith ?_ name) (entryFault?_viewsWith ?_ name).symm)
  · exact fun name target hmem => ⟨_, _, _, hlinks name target hmem⟩
  · simp [page]

/-- A link to a file that is not there stops a build, and when the file is added it does not. -/
theorem exists_bystander_found : ∃ d d', d.WellFormed ∧ d'.WellFormed ∧
    AddsBystanders d d' "tmpl" ⟨"views"⟩ ∧
    build d smallSettings ⟨"views"⟩ 100 = .error (.sourceRead ⟨"views/a.tmpl"⟩ .missing) ∧
    build d' smallSettings ⟨"views"⟩ 100 ≠ .error (.sourceRead ⟨"views/a.tmpl"⟩ .missing) := by
  let page : List (String × DiskNode) := [("a.tmpl", .link "notes.txt")]
  let beside : List (String × DiskNode) := [("notes.txt", .file (.text "n") 900)]
  have hlost := (status_link_notes page join_links.2.1 spelled_links.2.1
    (isEntry_names _ (by decide)) rfl).1 rfl
  have hfound := (status_link_notes (page ++ beside) join_links.2.1 spelled_links.2.1
    (isEntry_names _ (by decide)) rfl).2 _ _ rfl
  have hlinks : ∀ name target, (name, .link target) ∈ page ++ beside →
      (viewsWith (page ++ beside)).status ((⟨"views"⟩ : FilePath).join ⟨name⟩) =
        .ok (["views", "notes.txt"], .file (.text "n") 900) := by
    intro name target hmem
    obtain ⟨rfl, -⟩ : name = "a.tmpl" ∧ target = "notes.txt" := by simpa [page, beside] using hmem
    exact hfound
  have hplain := not_holds_viewsWith page (by simp [page]) (by
    intro name target hmem place hfound
    obtain ⟨rfl, -⟩ : name = "a.tmpl" ∧ target = "notes.txt" := by simpa [page] using hmem
    rw [hlost] at hfound
    cases hfound)
  have hplain' := not_holds_viewsWith (page ++ beside) (by simp [page, beside])
    fun name target hmem place hfound => by
      rw [hlinks name target hmem] at hfound
      cases hfound
  have hbeside := addsBystanders_viewsWith _ beside hplain fun pair hpair => by
    obtain rfl := List.mem_singleton.1 hpair
    exact ⟨by decide, hplain' "notes.txt"⟩
  have hd := wellFormed_viewsWith page (by decide) (by simp [page, isEntryName_names])
  have hd' := wellFormed_viewsWith (page ++ beside) (by decide)
    (by simp [page, beside, isEntryName_names])
  have hbuild := build_viewsWith_of_fault hlost smallSettings 100
  refine ⟨_, _, hd, hd', hbeside, join_links.2.1 ▸ hbuild, fun hbuild' => ?_⟩
  rw [← join_links.2.1] at hbuild'
  rcases fault_of_build hd' (show Leads _ _ [] from trivial)
      (isEntryName_names "a.tmpl" (by decide)) hbuild' with
    hfault | ⟨node, -, hlink⟩
  · have hnone := entryFault?_viewsWith (fun name target hmem =>
      ⟨_, _, _, hlinks name target hmem⟩) "a.tmpl"
    cases hnone.symm.trans hfault
  · cases hlink ⟨["views"], "notes.txt", status_viewsWith _, find?_viewsWith _ "a.tmpl"⟩

/-- A link that leads nowhere stops the build when it is added. -/
theorem exists_bystander_lost : ∃ d d' t, d.WellFormed ∧ d'.WellFormed ∧
    AddsBystanders d d' "tmpl" ⟨"views"⟩ ∧ build d smallSettings ⟨"views"⟩ 100 = .ok t ∧
    build d' smallSettings ⟨"views"⟩ 100 = .error (.sourceRead ⟨"views/lock"⟩ .missing) := by
  let beside : List (String × DiskNode) := [("lock", .link "gone")]
  have hlost := (status_link_viewsWith ([] ++ beside) join_links.2.2 spelled_links.2.2
    (isEntry_names _ (by decide)) (isEntry_names "gone" (by decide)) (by decide) (by decide)
    (by decide) rfl).1 rfl
  have hplain := not_holds_viewsWith [] (by simp) (by simp)
  have hplain' := not_holds_viewsWith ([] ++ beside) (by simp [beside]) (by
    intro name target hmem place hfound
    obtain ⟨rfl, -⟩ : name = "lock" ∧ target = "gone" := by simpa [beside] using hmem
    rw [hlost] at hfound
    cases hfound)
  have hbeside := addsBystanders_viewsWith _ beside hplain fun pair hpair => by
    obtain rfl := List.mem_singleton.1 hpair
    exact ⟨by decide, hplain' "lock"⟩
  have hd := wellFormed_viewsWith [] (by decide) (by simp)
  have hd' := wellFormed_viewsWith ([] ++ beside) (by decide)
    (by simp [beside, isEntryName_names])
  have hs := status_viewsWith []
  have hl : (viewsWith []).listing ["views"] = [] := by simp [Disk.listing, viewsWith]
  have he : entries (viewsWith []) "tmpl" ⟨"views"⟩ = .ok [] := by
    simp only [entries, hs, hl]
    rfl
  have hbuild : build (viewsWith []) smallSettings ⟨"views"⟩ 100 =
      .ok (treeOf.rootOnly ⟨"views"⟩ 100) := by
    simp only [build, scan, hs, Disk.pathLimit, scanDown, scanRow, smallSettings, he]
    rfl
  exact ⟨_, _, _, hd, hd', hbeside, hbuild,
    join_links.2.2 ▸ build_viewsWith_of_fault hlost smallSettings 100⟩

/-- What is beside the templates can matter: it may be what a link leads to, and it may be a link
that leads nowhere. -/
theorem exists_bystanders_disturbing :
    (∃ d d', d.WellFormed ∧ d'.WellFormed ∧ AddsBystanders d d' "tmpl" ⟨"views"⟩ ∧
      build d smallSettings ⟨"views"⟩ 100 = .error (.sourceRead ⟨"views/a.tmpl"⟩ .missing) ∧
      build d' smallSettings ⟨"views"⟩ 100 ≠ .error (.sourceRead ⟨"views/a.tmpl"⟩ .missing)) ∧
    ∃ d d' t, d.WellFormed ∧ d'.WellFormed ∧ AddsBystanders d d' "tmpl" ⟨"views"⟩ ∧
      build d smallSettings ⟨"views"⟩ 100 = .ok t ∧
      build d' smallSettings ⟨"views"⟩ 100 = .error (.sourceRead ⟨"views/lock"⟩ .missing) :=
  ⟨exists_bystander_found, exists_bystander_lost⟩

end Source

end TemplateBundler
