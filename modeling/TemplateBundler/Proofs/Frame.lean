import TemplateBundler.Proofs.OutputPaths
import TemplateBundler.Proofs.StoredRuns

/-!
# What serving leaves on the disk

A gate that stores artifacts changes the disk for one answer alone. An artifact that is reused
leaves it as it is, one that is stored anew is a file at the slot of its path, and whatever the
answer, what else is new are directories above that path (`framed_serve`). The temporary file is
never left behind, also where the making of the directories, the writing or the renaming fails.

The script is found under the path again, unless the path has a `..` and its directory had to be
made: a link on the way to the file can then be the very slot of the file
(`exists_stored_elsewhere`).

    (g.serve d t i k).2.1 = g ∧
      g.Framed d (g.serve d t i k).2.2 k (Artifact.script t i g.global) (g.serve d t i k).1
-/

namespace TemplateBundler

namespace Disk

/-! ## Directories above a path -/

/-- The second disk is the first with directories above the path that were missing. -/
structure AddsParents (d d' : Disk) (p : FilePath) : Prop where
  extend : Extends d d'
  parent : ∀ place, d.find? place = none → d'.find? place = some .directory →
    ∃ above ∈ (homeOf p).ancestors, d'.Reached above place

theorem AddsParents.refl (d : Disk) (p : FilePath) : AddsParents d d p where
  extend := .refl d
  parent place hnone hdir := by
    rw [hnone] at hdir
    cases hdir

theorem Reached.of_extends {d d' : Disk} (hext : Extends d d') {p : FilePath} {q : Place}
    (h : d.Reached p q) : d'.Reached p q := by
  obtain ⟨n, hn, hgo⟩ := h
  refine ⟨n, hn, ?_⟩
  rw [hext.start_eq]
  exact hext.goes hgo

theorem AddsParents.tick {d d' : Disk} {p : FilePath} (h : AddsParents d d' p) :
    AddsParents d d'.tick.2 p where
  extend := h.extend.trans (.tick d')
  parent place hnone hdir := by
    obtain ⟨above, habove, hreached⟩ := h.parent place hnone hdir
    exact ⟨above, habove, hreached.of_extends (.tick d')⟩

/-- **One directory more.** It is the one that its path leads to. -/
theorem AddsParents.makeDirectory {d d' d'' : Disk} {p above : FilePath}
    (habove : above ∈ (homeOf p).ancestors) (h : AddsParents d d' p)
    (hmade : d'.makeDirectory above = .ok d'') : AddsParents d d'' p where
  extend := h.extend.trans (makeDirectory_extends hmade)
  parent place hnone hdir := by
    have hext := makeDirectory_extends hmade
    obtain ⟨front, name, n, q, hnames, hname, hn, hgo, hfree, rfl⟩ := makeDirectory_ok hmade
    by_cases hplace : place = q ++ [name]
    · refine ⟨above, habove, n, hn, ?_⟩
      rw [hplace] at hdir ⊢
      rw [hnames, hext.start_eq, ← Nat.add_zero n]
      exact (hext.goes hgo).append (.enter hname hdir (.nil _))
    · rw [find?_put_of_ne _ _ _ _ hplace] at hdir
      obtain ⟨other, hother, hreached⟩ := h.parent place hnone hdir
      exact ⟨other, hother, hreached.of_extends hext⟩

theorem addsParents_ensureDirectory (d : Disk) (p : FilePath) :
    AddsParents d (d.ensureDirectory (homeOf p)).2 p :=
  ensureDirectory_keeps (P := fun d' => AddsParents d d' p)
    (fun _ _ _ habove h hmade => h.makeDirectory habove hmade) (.refl d p)

/-- A store that fails leaves directories above its path at most. -/
theorem addsParents_of_store_error {d d' : Disk} (hd : d.Sound) {p : FilePath} {text : String}
    {e : Report} (h : d.store p text = (.error e, d')) : AddsParents d d' p := by
  have hmade := addsParents_ensureDirectory d p
  rcases store_error hd h with rfl | rfl
  · exact hmade
  · exact hmade.tick

/-! ## One file -/

/-- The text is a file at the slot of the path, once the directories above it are made; nothing is
different elsewhere. -/
structure Written (d made d' : Disk) (p : FilePath) (place : Place) (text : String) : Prop where
  parents : AddsParents d made p
  slot : ∃ here name, made.slot p = .ok ⟨here, some name, false⟩ ∧ place = here ++ [name]
  replaced : made.find? place ≠ some .directory
  file : d'.find? place = some (.file (.text text) d.stamp)
  other : ∀ q, q ≠ place → d'.find? q = made.find? q

/-- **A store that succeeds** leaves one file. -/
theorem exists_written_of_store {d d' : Disk} (hd : d.Sound) {p : FilePath} {text : String}
    (h : d.store p text = (.ok (), d')) : ∃ made place, Written d made d' p place text := by
  obtain ⟨made, hmade, hcheck, hsep, front, name, n, q, hnames, hname, hn, hgo, hdir, rfl⟩ :=
    store_ok hd h
  have hparents := addsParents_ensureDirectory d p
  have hstamp := stamp_ensureDirectory d (homeOf p)
  rw [hmade] at hparents hstamp
  have hslot := slot_of_goes hcheck hn hgo hnames hname
  rw [hsep] at hslot
  refine ⟨made, q ++ [name], hparents, ⟨q, name, hslot, rfl⟩, hdir, ?_, ?_⟩
  · have htime : made.stamp = d.stamp := hstamp
    rw [← htime]
    exact find?_put _ _ _ (by simp)
  · intro place hplace
    exact find?_put_of_ne _ _ _ _ hplace

end Disk

/-! ## Serving -/

namespace Gate

theorem storage_of_storedPath {g : Gate} {directory : FilePath} {k : KeyPath} {e : BundleError}
    (h : g.storedPath directory k = .error e) : ∃ reason, e = .storage directory reason := by
  unfold storedPath at h
  simp only at h
  split at h
  · cases h
    exact ⟨_, rfl⟩
  · split at h
    · cases h
      exact ⟨_, rfl⟩
    · cases h

theorem storage_of_storedAt {d : Disk} {path : FilePath} {e : BundleError}
    (h : d.storedAt path = .error e) : ∃ reason, e = .storage path reason := by
  unfold Disk.storedAt at h
  split at h
  · cases h
  · cases h
    exact ⟨_, rfl⟩
  · split at h
    · cases h
    · cases h
      exact ⟨_, rfl⟩

/-- What an answer of a gate that stores artifacts tells of the disk after it. -/
def Framed (g : Gate) (d d' : Disk) (k : KeyPath) (script : String) :
    Except BundleError Served → Prop
  | .ok (.stored path .reused) => g.outputPath k = .ok (some path) ∧ d' = d
  | .ok (.stored path .rebuilt) => g.outputPath k = .ok (some path) ∧
    (∃ made place, Disk.Written d made d' path place script) ∧
    (d.Settled path → d'.readText path = .ok script)
  | .ok (.inline _ _) => False
  | .error (.storage _ _) =>
    d' = d ∨ ∃ path, g.outputPath k = .ok (some path) ∧ Disk.AddsParents d d' path
  | .error _ => False

/-- **Serving leaves nothing but the artifact and directories above it**, and the gate as it was. -/
theorem framed_serve {g : Gate} {directory : FilePath} (hg : g.delivery = .persist directory)
    {d : Disk} (hd : d.Sound) (t : UnitTree) (i : Nat) (k : KeyPath) :
    (g.serve d t i k).2.1 = g ∧
    g.Framed d (g.serve d t i k).2.2 k (Artifact.script t i g.global) (g.serve d t i k).1 := by
  cases hpath : g.storedPath directory k with
  | error e =>
    -- the key path has no file
    obtain ⟨reason, rfl⟩ := storage_of_storedPath hpath
    simp only [serve, hg, hpath]
    exact ⟨trivial, Or.inl rfl⟩
  | ok path =>
    have houtput := (outputPath_persist hg).2 hpath
    cases hexisting : d.storedAt path with
    | error e =>
      obtain ⟨reason, rfl⟩ := storage_of_storedAt hexisting
      simp only [serve, hg, hpath, persist, hexisting]
      exact ⟨trivial, Or.inl rfl⟩
    | ok existing =>
      cases hdecide : decide t i existing g.alwaysRebuild with
      | reused =>
        rw [serve_of_current hg hpath hexisting hdecide]
        exact ⟨rfl, houtput, rfl⟩
      | rebuilt =>
        cases hstore : d.store path (Artifact.script t i g.global) with
        | mk result after =>
          cases result with
          | ok u =>
            rw [serve_of_store hg hpath hexisting hdecide hstore]
            exact ⟨rfl, houtput, Disk.exists_written_of_store hd hstore,
              Disk.readText_of_store hd hexisting hstore⟩
          | error e =>
            simp only [serve, hg, hpath, persist, hexisting, hdecide, hstore]
            exact ⟨trivial, Or.inr ⟨path, houtput, Disk.addsParents_of_store_error hd hstore⟩⟩

theorem framed_serve_oneTemplate :
    let g := (Service.plainService "p" false (Service.emptyTree 100)).gate
    let d := Disk.oneTemplate 101
    let served := g.serve d (Service.emptyTree 100) 0 .root
    g.delivery = .persist ⟨"p"⟩ ∧ d.Sound ∧ served.1 = .ok (.stored ⟨"p/x.js"⟩ .rebuilt) ∧
      served.2.1 = g ∧ (∃ made place, Disk.Written d made served.2.2 ⟨"p/x.js"⟩ place
        (Artifact.script (Service.emptyTree 100) 0 g.global)) := by
  intro g d served
  have hserve : served.1 = .ok (.stored ⟨"p/x.js"⟩ .rebuilt) :=
    congrArg Prod.fst (Service.gate_serve_oneTemplate (Service.emptyTree 100) 0)
  have hsound := Disk.sound_oneTemplate 101
  obtain ⟨hgate, hframed⟩ := framed_serve (g := g) rfl hsound (Service.emptyTree 100) 0 .root
  change g.Framed d served.2.2 .root _ served.1 at hframed
  rw [hserve] at hframed
  exact ⟨rfl, hsound, hserve, hgate, hframed.2.1⟩

/-- The artifact takes the place of a link that its own path goes up through, and nothing is found
under the path that the answer names. -/
theorem exists_stored_elsewhere : ∃ (g : Gate) (d : Disk) (t : UnitTree) (i : Nat) (k : KeyPath)
    (directory path : FilePath), g.delivery = .persist directory ∧ d.Sound ∧
    (g.serve d t i k).1 = .ok (.stored path .rebuilt) ∧
    (g.serve d t i k).2.2.readText path = .error .notDirectory := by
  have hserve := Service.gate_serve_linkDisk false (Service.emptyTree 100) 0 101
  refine ⟨_, _, _, _, _, _, ⟨"s/../x.js/../x.js"⟩, rfl, Disk.sound_linkDisk 101,
    congrArg Prod.fst hserve, ?_⟩
  rw [hserve]
  exact Disk.readText_crossedDisk 101 _

end Gate

end TemplateBundler
