import TemplateBundler.Proofs.Contents

/-!
# What a scan finds

A scan that comes to no stop mirrors the source: each directory with its template files and the
directories in it, at every depth (`Scanned`). It comes to no stop where every directory that names
lead to can be listed and every template file in them is text; links that lead in a circle need no
case of their own, since paths grow on every round and those that are too long cannot be listed.

    (scan d extension root).stops = false ↔ every directory lists, every template file is read
                                                        (stops_scan_of_readable, scan_of_not_stops)
-/

namespace TemplateBundler.Source

/-! ## Directories that names lead to -/

/-- Names of directories, each in the one before it, the first in the directory at `path`. -/
def Leads (d : Disk) : FilePath → List String → Prop
  | _, [] => True
  | path, n :: ns => d.Holds path n .directory ∧ Leads d (path.join ⟨n⟩) ns

theorem joinAll_cons (path : FilePath) (n : String) (ns : List String) :
    path.joinAll (n :: ns) = (path.join ⟨n⟩).joinAll ns := rfl

theorem joinAll_append (path : FilePath) (ms ns : List String) :
    path.joinAll (ms ++ ns) = (path.joinAll ms).joinAll ns :=
  List.foldl_append

theorem leads_append (d : Disk) (path : FilePath) (ms ns : List String) :
    Leads d path (ms ++ ns) ↔ Leads d path ms ∧ Leads d (path.joinAll ms) ns := by
  induction ms generalizing path with
  | nil => exact ⟨fun h => ⟨trivial, h⟩, fun h => h.2⟩
  | cons m ms ih => rw [List.cons_append, Leads, Leads, ih, joinAll_cons, and_assoc]

theorem leads_concat (d : Disk) (path : FilePath) (ns : List String) (n : String) :
    Leads d path (ns ++ [n]) ↔ Leads d path ns ∧ d.Holds (path.joinAll ns) n .directory := by
  rw [leads_append, Leads, Leads, and_true]

/-- Every directory below `path` can be listed, and every template file in them is text. -/
structure Readable (d : Disk) (extension : String) (path : FilePath) : Prop where
  lists : ∀ ns, Leads d path ns → d.Lists (path.joinAll ns)
  reads : ∀ ns name, Leads d path ns → d.HasTemplate extension (path.joinAll ns) name →
    ∃ text, d.readText ((path.joinAll ns).join ⟨name⟩) = .ok text

theorem Readable.inner {d : Disk} {extension : String} {path : FilePath} {n : String}
    (h : Readable d extension path) (hn : d.Holds path n .directory) :
    Readable d extension (path.join ⟨n⟩) where
  lists ns hns := h.lists (n :: ns) ⟨hn, hns⟩
  reads ns name hns := h.reads (n :: ns) name ⟨hn, hns⟩

theorem readFile_of_readText {d : Disk} {path : FilePath} {text : String}
    (h : d.readText path = .ok text) :
    ∃ time, d.modified? path = .ok (some time) ∧ readFile d path = .ok (time, text) := by
  unfold Disk.readText at h
  cases hs : d.status path with
  | error e => simp [hs, bind, Except.bind] at h
  | ok spot =>
    obtain ⟨place, node⟩ := spot
    cases node with
    | directory => simp [hs, bind, Except.bind] at h
    | link target => simp [hs, bind, Except.bind] at h
    | file content time =>
      have hm : d.modified? path = .ok (some time) := by
        simp [Disk.modified?, hs, bind, Except.bind]
      refine ⟨time, hm, ?_⟩
      cases content with
      | binary => simp [hs, bind, Except.bind] at h
      | text s =>
        simp only [hs, bind, Except.bind, Except.ok.injEq] at h
        subst h
        simp [readFile, hm, Disk.readText, hs, bind, Except.bind]

/-! ## Mirrors -/

/-- Directories next to each other as a scan without a stop finds those of `row`. -/
def Folders.Mirrors (d : Disk) (extension : String) : Folders → List (String × FilePath) → Prop
  | done, row => row = []
  | failed _ _, _ => False
  | folder name path files inside rest, row =>
    (∃ listed, entries d extension path = .ok listed ∧ files = filesOf d listed ∧
      inside.Mirrors d extension (foldersOf listed)) ∧
    ∃ row', row = (name, path) :: row' ∧ rest.Mirrors d extension row'

/-- The directory at `path` holds these template files, and these directories are in it. -/
def Scanned (d : Disk) (extension : String) (path : FilePath) (files : List SourceFile)
    (inside : Folders) : Prop :=
  ∃ listed, entries d extension path = .ok listed ∧ files = filesOf d listed ∧
    inside.Mirrors d extension (foldersOf listed)

theorem mirrors_scanRow {d : Disk} {extension : String}
    {deeper : List (String × FilePath) → Folders}
    (hdeep : ∀ row, (deeper row).stops = false → (deeper row).Mirrors d extension row)
    (row : List (String × FilePath)) (h : (scanRow d extension deeper row).stops = false) :
    (scanRow d extension deeper row).Mirrors d extension row := by
  induction row with
  | nil => rfl
  | cons entry row ih =>
    obtain ⟨name, path⟩ := entry
    simp only [scanRow] at h ⊢
    cases he : entries d extension path with
    | error e =>
      rw [he] at h
      cases h
    | ok listed =>
      cases hfiles : (filesOf d listed).any fun f => !f.content.isOk with
      | true => simp [he, hfiles, Folders.stops] at h
      | false =>
        cases hinside : (deeper (foldersOf listed)).stops with
        | true => simp [he, hfiles, hinside, Folders.stops] at h
        | false =>
          simp only [he, hfiles, hinside, Folders.stops, Bool.or_false, Bool.false_eq_true,
            if_false] at h ⊢
          exact ⟨⟨listed, he, rfl, hdeep _ hinside⟩, row, rfl, ih h⟩

theorem mirrors_scanDown {d : Disk} {extension : String} (n : Nat) (row : List (String × FilePath))
    (h : (scanDown d extension n row).stops = false) :
    (scanDown d extension n row).Mirrors d extension row := by
  induction n generalizing row with
  | zero =>
    cases row with
    | nil => rfl
    | cons entry row => cases h
  | succ n ih =>
    have hrow : scanDown d extension (n + 1) row =
        scanRow d extension (scanDown d extension n) row := by
      cases row <;> rfl
    rw [hrow] at h ⊢
    exact mirrors_scanRow ih row h

/-! ## Where a scan comes to no stop -/

theorem size_lt_of_status {d : Disk} {path : FilePath} {place : Place} {node : DiskNode}
    (h : d.status path = .ok (place, node)) : path.text.utf8ByteSize < Disk.pathLimit := by
  unfold Disk.status Disk.locate Disk.checkPath at h
  by_cases hsize : path.text.utf8ByteSize ≥ Disk.pathLimit
  · exfalso
    simp only [if_pos hsize] at h
    split at h
    · cases h
    · split at h <;> cases h
  · omega

theorem isEntryName_of_holds {d : Disk} (hd : d.WellFormed) {path : FilePath} {name : String}
    {node : DiskNode} (h : d.Holds path name node) : Disk.IsEntryName name := by
  have hname : ∀ (here : Place) (found : DiskNode), d.find? (here ++ [name]) = some found →
      Disk.IsEntryName name := by
    intro here found hf
    have hmem := (Disk.mem_nodes_iff hd (by simp) found).2 hf
    exact hd.isEntryName _ (List.mem_map_of_mem hmem) name (by simp)
  cases h with
  | plain _ hf _ => exact hname _ _ hf
  | linked _ hf _ => exact hname _ _ hf

theorem not_any_filesOf {d : Disk} (hd : d.WellFormed) {extension : String} {path : FilePath}
    {listed : List (String × FilePath × Entry)} (h : entries d extension path = .ok listed)
    (hread : Readable d extension path) :
    (filesOf d listed).any (fun f => !f.content.isOk) = false := by
  rw [List.any_eq_false]
  intro f hf
  rw [filesOf_eq h, List.mem_map] at hf
  obtain ⟨name, hname, rfl⟩ := hf
  obtain ⟨text, htext⟩ := hread.reads [] name trivial ((mem_templateNames h hd name).1 hname)
  obtain ⟨time, -, hfile⟩ := readFile_of_readText htext
  have hcontent : (templateFile d path name).content = .ok (time, text) := hfile
  rw [hcontent]
  exact Bool.false_ne_true

/-- The depth that is left is enough, since a path of the limit's length cannot be listed. -/
theorem stops_scanDown_of_readable {d : Disk} (hd : d.WellFormed) {extension : String} (n : Nat)
    (row : List (String × FilePath)) (h : ∀ entry ∈ row, Readable d extension entry.2 ∧
      Disk.pathLimit ≤ n + entry.2.text.utf8ByteSize) :
    (scanDown d extension n row).stops = false := by
  induction n generalizing row with
  | zero =>
    cases row with
    | nil => rfl
    | cons entry row =>
      obtain ⟨hread, hsize⟩ := h entry List.mem_cons_self
      obtain ⟨here, hs, -⟩ := hread.lists [] trivial
      have := size_lt_of_status hs
      exact absurd this (by simpa [FilePath.joinAll] using hsize)
  | succ n ihn =>
    induction row with
    | nil => rfl
    | cons entry row ih =>
      obtain ⟨name, path⟩ := entry
      obtain ⟨hread, hsize⟩ := h (name, path) List.mem_cons_self
      obtain ⟨listed, he⟩ := entries_of_lists hd (hread.lists [] trivial) extension
      have he : entries d extension path = .ok listed := he
      have hfiles := not_any_filesOf hd he hread
      have hinside : (scanDown d extension n (foldersOf listed)).stops = false := by
        apply ihn
        intro inner hinner
        rw [foldersOf_eq he, List.mem_map] at hinner
        obtain ⟨m, hm, rfl⟩ := hinner
        have hhold := (mem_folderNames he hd m).1 hm
        have : path.text.utf8ByteSize < (path.join ⟨m⟩).text.utf8ByteSize :=
          FilePath.size_join_lt (isEntryName_of_holds hd hhold)
        exact ⟨hread.inner hhold, by simp only at hsize ⊢; omega⟩
      have hrest : (scanRow d extension (scanDown d extension n) row).stops = false := by
        have := ih fun entry hentry => h entry (List.mem_cons_of_mem _ hentry)
        cases row with
        | nil => rfl
        | cons => exact this
      simp only [scanDown, scanRow, he, hfiles, Folders.stops, hinside, hrest, Bool.or_false,
        Bool.false_eq_true, if_false]

theorem stops_scan_of_readable {d : Disk} (hd : d.WellFormed) {extension : String}
    {root : FilePath} (h : Readable d extension root) : (scan d extension root).stops = false := by
  obtain ⟨here, hs, -⟩ := h.lists [] trivial
  have hs : d.status root = .ok (here, .directory) := hs
  unfold scan
  simp only [hs]
  apply stops_scanDown_of_readable hd
  intro entry hentry
  rw [List.mem_singleton.1 hentry]
  exact ⟨h, Nat.le_add_right _ _⟩

theorem scan_of_not_stops {d : Disk} {extension : String} {root : FilePath}
    (h : (scan d extension root).stops = false) :
    ∃ files inside, scan d extension root = .folder "" root files inside .done ∧
      Scanned d extension root files inside := by
  unfold scan at h ⊢
  cases hs : d.status root with
  | error e => simp [hs, Folders.stops] at h
  | ok spot =>
    obtain ⟨here, node⟩ := spot
    cases node with
    | file content time => simp [hs, Folders.stops] at h
    | link target => simp [hs, Folders.stops] at h
    | directory =>
      simp only [hs] at h ⊢
      have hm := mirrors_scanDown _ _ h
      generalize scanDown d extension Disk.pathLimit [("", root)] = folders at hm ⊢
      cases folders with
      | done => cases hm
      | failed path e => cases hm
      | folder name path files inside rest =>
        obtain ⟨hscan, row', hrow, hrest⟩ := hm
        obtain ⟨hentry, rfl⟩ := List.cons.inj hrow
        obtain ⟨rfl, rfl⟩ := Prod.mk.inj hentry
        cases rest with
        | done => exact ⟨files, inside, rfl, hscan⟩
        | failed path e => cases hrest
        | folder name path files inside rest =>
          obtain ⟨-, row'', hrow'', -⟩ := hrest
          cases hrow''

end TemplateBundler.Source
