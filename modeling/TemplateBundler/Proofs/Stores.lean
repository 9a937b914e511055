import Mathlib
import TemplateBundler.Proofs.Directories

/-!
# A file that was stored can be read

A file is stored under the last name of its path, in the directory that the names before it lead
to. Read back, the same names are followed again, and what was stored may stand in the way: where a
path has a `..`, the file can take the place of a link that the path itself went through. Without
one, or with the directory there from the start, this cannot be:

    storedAt d p = .ok _ → store d p text = (.ok (), d') →
      d.Settled p → d'.readText p = .ok text                                   (readText_of_store)

The idea is that a directory that had to be made is still empty when the file is put there
(`fresh_of_makeFrom`). The temporary file leaves no trace, whatever becomes of the store
(`store_ok`, `store_error`).
-/

namespace TemplateBundler.Disk

/-! ## The clock -/

/-- The clock does not matter. -/
theorem goes_tick {d : Disk} {here q : Place} {ms : List String} {n : Nat} :
    d.tick.2.Goes here ms n q ↔ d.Goes here ms n q := by
  have hkeeps : Keeps d d.tick.2 := ⟨fun _ hplace => hplace, fun _ _ hplace => hplace⟩
  have hkeeps' : Keeps d.tick.2 d := ⟨fun _ hplace => hplace, fun _ _ hplace => hplace⟩
  exact ⟨fun h => h.mono hkeeps', fun h => h.mono hkeeps⟩

theorem isDirectory_tick (d : Disk) (p : FilePath) : d.tick.2.isDirectory p = d.isDirectory p := by
  have hnodes : ∀ place, d.tick.2.find? place = d.find? place := fun _ => rfl
  have hwalk : d.tick.2.walk true linkLimit (d.tick.2.start p.text) (steps p.text) =
      d.walk true linkLimit (d.start p.text) (steps p.text) := walk_congr hnodes _ _ _ _
  simp only [isDirectory, status, locate, hwalk]

/-! ## The temporary file -/

theorem length_le_join {x : String} {xs : List String} (h : x ∈ xs) :
    x.length ≤ (String.join xs).length := by
  rw [String.length_join]
  exact List.single_le_sum (by simp) _ (List.mem_map_of_mem h)

/-- The name of a temporary file is that of no file that is there. -/
theorem find?_unusedName (d : Disk) (here : Place) :
    d.find? (here ++ [d.unusedName here]) = none := by
  cases hfind : d.find? (here ++ [d.unusedName here]) with
  | none => rfl
  | some node =>
    exfalso
    rw [find?, if_neg (by simp)] at hfind
    obtain ⟨before, after, hsplit, -⟩ := List.lookup_eq_some_iff.1 hfind
    have hmem : d.unusedName here ∈ (d.listing here).map Prod.fst := by
      refine List.mem_map.2 ⟨(d.unusedName here, node), ?_, rfl⟩
      rw [listing, List.mem_mergeSort, List.mem_filterMap]
      exact ⟨(here ++ [d.unusedName here], node), by rw [hsplit]; simp, by simp⟩
    -- it is longer than any of them
    have hlength := length_le_join hmem
    rw [unusedName] at hlength
    simp only [String.length_append] at hlength
    have hprefix : ".tmplpack-".length = 10 := by decide
    omega

/-- A file that was put where nothing stood leaves nothing when it is taken away. -/
theorem Sound.erase_put {d : Disk} (hd : d.Sound) {place : Place} (h : d.find? place = none)
    (node : DiskNode) : (d.put place node).erase place = d := by
  have hne : place ≠ [] := by
    rintro rfl
    cases h
  have hlookup : d.nodes.lookup place = none := by
    rwa [find?, if_neg hne] at h
  have hkept : d.nodes.filter (fun pair => !place.isPrefixOf pair.1) = d.nodes := by
    rw [List.filter_eq_self]
    intro pair hpair
    by_contra hprefix
    rw [Bool.not_eq_true', Bool.not_eq_false, List.isPrefixOf_iff_prefix] at hprefix
    obtain ⟨names, hnames⟩ := hprefix
    have hnone := hd.find?_append h names
    rw [hnames, find?] at hnone
    split at hnone
    · cases hnone
    · rw [List.lookup_eq_none_iff] at hnone
      simpa using hnone pair hpair
  have hself : place.isPrefixOf place = true := List.isPrefixOf_iff_prefix.2 (List.prefix_refl _)
  simp only [Disk.erase, Disk.put, Association.assign_of_lookup hlookup, List.filter_append, hkept,
    List.filter_singleton, hself, Bool.not_true, cond_false, List.append_nil]
  rfl

/-- A new file stands in no way. -/
theorem goes_put_file {d : Disk} {place : Place} (h : d.find? place = none) {content : Content}
    {time : Time} {here q : Place} {ms : List String} {n : Nat} :
    (d.put place (.file content time)).Goes here ms n q ↔ d.Goes here ms n q := by
  have hne : place ≠ [] := by
    rintro rfl
    cases h
  have hback : ∀ p node, (∀ content time, node ≠ .file content time) →
      (d.put place (.file content time)).find? p = some node → d.find? p = some node := by
    intro p node hnode hp
    by_cases hpp : p = place
    · rw [hpp, find?_put _ _ _ hne] at hp
      exact absurd (Option.some.inj hp).symm (hnode _ _)
    · rwa [find?_put_of_ne _ _ _ _ hpp] at hp
  have hkeeps : Keeps (d.put place (.file content time)) d :=
    ⟨fun p => hback p _ nofun, fun p target => hback p _ nofun⟩
  have hkeeps' : Keeps d (d.put place (.file content time)) :=
    keeps_put (by simp [h]) (by simp [h])
  exact ⟨fun hgo => hgo.mono hkeeps, fun hgo => hgo.mono hkeeps'⟩

theorem temporaryPlace_ok {d : Disk} {directory : FilePath} {temporary : Place}
    (h : d.temporaryPlace directory = .ok temporary) : d.find? temporary = none := by
  simp only [temporaryPlace, bind, Except.bind] at h
  split at h
  · cases h
  split at h
  · cases h
  split at h
  · next here hstatus =>
    cases h
    exact d.find?_unusedName here
  · cases h

theorem temporaryPlace_of_status {d : Disk} {directory : FilePath}
    (hcheck : checkPath (directory.join ⟨temporaryPattern⟩).text = .ok ()) {here : Place}
    (hstatus : d.status directory = .ok (here, .directory)) :
    d.temporaryPlace directory = .ok (here ++ [d.unusedName here]) := by
  simp only [temporaryPlace, hcheck, hstatus, bind, Except.bind]

theorem writeTemporary_ok {d d' : Disk} {temporary : Place} {text : String}
    (h : d.writeTemporary temporary text = (.ok (), d')) :
    d' = d.tick.2.put temporary (.file (.text text) d.stamp) := by
  unfold writeTemporary at h
  dsimp only at h
  split at h
  · cases h
  · exact (congrArg Prod.snd h).symm

/-- A file that is not written in full leaves nothing behind. -/
theorem writeTemporary_error {d d' : Disk} (hd : d.Sound) {temporary : Place} {text : String}
    {e : WriteFault} (hfree : d.find? temporary = none)
    (h : d.writeTemporary temporary text = (.error e, d')) : d' = d.tick.2 := by
  unfold writeTemporary at h
  dsimp only at h
  split at h
  · obtain rfl := congrArg Prod.snd h
    exact hd.tick.erase_put hfree _
  · cases h

theorem writeTemporary_of_reliable {d : Disk} (hreliable : d.Reliable) (temporary : Place)
    (text : String) : d.writeTemporary temporary text =
      (.ok (), d.tick.2.put temporary (.file (.text text) d.stamp)) := by
  simp only [writeTemporary, hreliable d.clock]

/-- The place a file is moved to is told by the path alone. -/
theorem rename_ok {d d' : Disk} {source : Place} {p : FilePath} (h : d.rename source p = .ok d') :
    checkPath p.text = .ok () ∧ endsInSeparator p.text = false ∧
    ∃ front name n q node, p.names = front ++ [name] ∧ IsEntry name ∧ n ≤ linkLimit ∧
      d.Goes (d.start p.text) front n q ∧ d.find? (q ++ [name]) ≠ some .directory ∧
      d.find? source = some node ∧ d' = (d.erase source).put (q ++ [name]) node := by
  unfold rename at h
  split at h
  · cases h
  · cases h
  next q name isOpen hslot =>
  obtain ⟨hcheck, hopen, hdot, hdotdot, front, n, hnames, hn, hgo⟩ := slot_some hslot
  split at h
  · cases h
  next hlong =>
  split at h
  · cases h
  next hclosed =>
  split at h
  · cases h
  next hnode hdir =>
    exact ⟨hcheck, by rw [← hopen]; simpa using hclosed, front, name, n, q, _, hnames,
      ⟨hdot, hdotdot, by simpa using hlong⟩, hn, hgo, hdir, hnode, (Except.ok.inj h).symm⟩
  · cases h

/-- A file is moved over anything but a directory. -/
theorem rename_of_goes {d : Disk} {source : Place} {p : FilePath} {front : List String}
    {name : String} {n : Nat} {q : Place} {node : DiskNode} (hcheck : checkPath p.text = .ok ())
    (hsep : endsInSeparator p.text = false) (hnames : p.names = front ++ [name])
    (hname : IsEntry name) (hn : n ≤ linkLimit) (hgo : d.Goes (d.start p.text) front n q)
    (hdir : d.find? (q ++ [name]) ≠ some .directory) (hsource : d.find? source = some node) :
    d.rename source p = .ok ((d.erase source).put (q ++ [name]) node) := by
  simp only [rename, slot_of_goes hcheck hn hgo hnames hname, hname.not_long, hsep, hsource,
    Bool.false_eq_true, if_false]

/-! ## Stored files -/

section Last
variable {d : Disk} {p : FilePath} {front : List String} {name : String} {n : Nat} {q : Place}
  (hcheck : checkPath p.text = .ok ()) (hsep : endsInSeparator p.text = false)
  (hnames : p.names = front ++ [name]) (hname : IsEntry name) (hn : n ≤ linkLimit)
  (hgo : d.Goes (d.start p.text) front n q)

include hcheck hsep hnames hn hgo

/-- Only the last name is left to follow. -/
theorem locate_of_goes : d.locate true p = d.walk true (linkLimit - n) q [name] := by
  have hwalk := hgo.walk_append [name] linkLimit
  rw [if_pos hn, ← hnames, FilePath.names] at hwalk
  simp only [locate, hcheck, steps, hsep, bind, Except.bind, Bool.false_eq_true, if_false,
    List.append_nil]
  exact hwalk

include hname

theorem status_of_file {content : Content} {time : Time}
    (hfind : d.find? (q ++ [name]) = some (.file content time)) :
    d.status p = .ok (q ++ [name], .file content time) := by
  simp only [status, locate_of_goes hcheck hsep hnames hn hgo, bind, Except.bind]
  rw [walk, if_neg hname.ne_dot, if_neg hname.ne_dotdot,
    if_neg (by rw [hname.not_long]; exact Bool.false_ne_true)]
  simp only [hfind, List.isEmpty_nil, if_true]

/-- A link to a directory is no place for an artifact. -/
theorem storedAt_ne_ok_of_link {target : String} {ms : List String} {m : Nat} {mid : Place}
    (hfind : d.find? (q ++ [name]) = some (.link target)) (htarget : target.isEmpty = false)
    (hrest : d.Goes (if isAbsolute target then [] else q) (steps target ++ ms) m mid)
    (x : Option Time) : d.storedAt p ≠ .ok x := by
  obtain ⟨j, -, place, -, hgo', -⟩ := hrest.split
  have hlocate := locate_of_goes hcheck hsep hnames hn hgo
  rw [walk, if_neg hname.ne_dot, if_neg hname.ne_dotdot,
    if_neg (by rw [hname.not_long]; exact Bool.false_ne_true)] at hlocate
  simp only [hfind, Bool.not_true, Bool.and_false, Bool.false_eq_true, if_false, htarget,
    List.append_nil] at hlocate
  unfold storedAt
  simp only [status, hlocate, bind, Except.bind]
  cases linkLimit - n with
  | zero => simp [Fault.tooManyLinks, Fault.missing]
  | succ links =>
    simp only [hgo'.walk]
    by_cases hj : j ≤ links
    · simp [hj]
    · simp [hj, Fault.tooManyLinks, Fault.missing]

end Last

/-- The directory of a file is there on a disk, unless it is made for the file. -/
theorem ensureDirectory_ok {d d' : Disk} {p : FilePath}
    (h : d.ensureDirectory p = (.ok (), d')) :
    (d.isDirectory p = true ∧ d' = d) ∨
      (d.isThere p = false ∧ d.makeDirectories p = (.ok (), d')) := by
  unfold ensureDirectory at h
  split at h
  · next hthere =>
    right
    split at h
    · next after hafter =>
      obtain rfl := congrArg Prod.snd h
      exact ⟨by simpa using hthere, hafter⟩
    · cases h
  · split at h
    · cases h
    · next hisDir =>
      left
      exact ⟨by simpa using hisDir, (congrArg Prod.snd h).symm⟩

theorem isDirectory_current {d : Disk} : d.isDirectory ⟨"."⟩ = true := by
  have h : d.Reached ⟨"."⟩ (d.start ".") :=
    ⟨0, Nat.zero_le _, goes_dots d _ (by decide)⟩
  unfold isDirectory
  rw [status_of_reached (by decide) h]

/-- The home of a path is the working directory, or the path goes through it. -/
theorem homeOf_cases {p : FilePath} {front : List String} {name : String}
    (hnames : p.names = front ++ [name]) (hname : IsEntry name)
    (hsep : endsInSeparator p.text = false) :
    (homeOf p = ⟨"."⟩ ∧ ∀ x ∈ front, x = ".") ∨ ∃ dots, (∀ x ∈ dots, x = ".") ∧
      front = (homeOf p).names ++ dots ∧ (homeOf p).Trimmed ∧ (homeOf p).text ≠ "" ∧
      (homeOf p).isAbsolute = p.isAbsolute ∧ p.parent? = some (homeOf p) := by
  have ht : p.Trimmed := FilePath.trimmed_of_names hnames hname.ne_dot (by
    simpa [endsInSeparator] using hsep)
  cases hp : p.parent? with
  | none =>
    -- a path without a parent has no names
    exfalso
    have hnil : p.names = [] := by
      rcases FilePath.text_of_parent?_eq_none ht hp with htext | htext
      · rw [FilePath.names, htext]
        decide
      · rw [FilePath.names, htext]
        decide
    rw [hnil] at hnames
    exact absurd hnames.symm (by simp)
  | some parent =>
    obtain ⟨ht', habs, dots, last, hdots, hnames', -⟩ := FilePath.parent?_spec ht hp
    rw [hnames] at hnames'
    have hfront := (List.append_inj' hnames' rfl).1
    by_cases htext : parent.text = ""
    · have hnil : parent.names = [] := by
        rw [FilePath.names, htext]
        decide
      left
      refine ⟨by simp [homeOf, hp, htext], ?_⟩
      rw [hfront, hnil]
      exact hdots
    · have hhome : homeOf p = parent := by simp [homeOf, hp, htext]
      rw [hhome]
      exact Or.inr ⟨dots, hdots, hfront, ht', htext, habs, rfl⟩

theorem upwards_succ (n : Nat) (p : FilePath) :
    ∃ ps, FilePath.upwards (n + 1) p = p :: ps := by
  unfold FilePath.upwards
  split <;> exact ⟨_, rfl⟩

/-- A home that had to be made is empty. -/
theorem fresh_of_makeDirectories {d d' : Disk} (hd : d.Sound) {p : FilePath} (ht : p.Trimmed)
    (htext : p.text ≠ "") (hup : ".." ∉ p.names) (hthere : d.isThere p = false)
    (h : d.makeDirectories p = (.ok (), d')) : d'.Fresh p := by
  cases hcheck : checkPath p.text with
  | ok u =>
    refine fresh_of_makeFrom hd _ ht hup (fun q hq => ?_) h
    rw [isThere, status_of_reached hcheck hq] at hthere
    cases hthere
  | error e =>
    -- nothing is made for a text that cannot be a path
    exfalso
    obtain ⟨ps, hps⟩ := upwards_succ p.text.length p
    have hmake : d.makeDirectory p = .error e := by
      simp only [makeDirectory, slot, hcheck, bind, Except.bind]
    have he : e ≠ .missing := fun he => checkPath_ne_missing htext (he ▸ hcheck)
    have hnotDir : d.isDirectory p = false := by
      simp only [isDirectory, status, locate, hcheck, bind, Except.bind]
    rw [makeDirectories, FilePath.ancestors, hps, makeFrom, hmake] at h
    cases hp : p.parent? with
    | none =>
      rcases FilePath.text_of_parent?_eq_none ht hp with htext' | htext'
      · exact htext htext'
      · have htop : checkPath "/" = .ok () := by decide
        rw [htext', htop] at hcheck
        cases hcheck
    | some parent =>
      rw [hp, if_neg (by simpa using htext)] at h
      simp only [if_neg he, hnotDir, Bool.false_eq_true, if_false] at h
      cases h

/-- The home of a file is there if the way to the file is. -/
theorem status_homeOf {d : Disk} {p : FilePath} {front : List String} {name : String} {n : Nat}
    {q : Place} (hnames : p.names = front ++ [name]) (hname : IsEntry name)
    (hsep : endsInSeparator p.text = false) (hn : n ≤ linkLimit)
    (hgo : d.Goes (d.start p.text) front n q) (hcheck : checkPath (homeOf p).text = .ok ()) :
    ∃ home, d.status (homeOf p) = .ok (home, .directory) := by
  rcases homeOf_cases hnames hname hsep with ⟨hcurrent, -⟩ | ⟨dots, -, hfront, -, -, habs, -⟩
  · rw [hcurrent] at hcheck ⊢
    exact ⟨_, status_of_reached hcheck ⟨0, Nat.zero_le _, goes_dots d _ (by decide)⟩⟩
  · rw [hfront, ← start_eq_of_isAbsolute d habs.symm] at hgo
    obtain ⟨m, k, mid, hmk, hhome, -⟩ := hgo.split
    exact ⟨mid, status_of_reached hcheck ⟨m, by omega, hhome⟩⟩

/-- **What a store does.** Directories are made, and the file is at its place with the time that the
device gives it. -/
theorem store_ok {d d' : Disk} (hd : d.Sound) {p : FilePath} {text : String}
    (h : d.store p text = (.ok (), d')) : ∃ made,
    d.ensureDirectory (homeOf p) = (.ok (), made) ∧
    checkPath p.text = .ok () ∧ endsInSeparator p.text = false ∧
    ∃ front name n q, p.names = front ++ [name] ∧ IsEntry name ∧ n ≤ linkLimit ∧
      made.Goes (made.start p.text) front n q ∧ made.find? (q ++ [name]) ≠ some .directory ∧
      d' = made.tick.2.put (q ++ [name]) (.file (.text text) made.stamp) := by
  have hsound := hd.ensureDirectory (homeOf p)
  unfold store at h
  split at h
  · cases h
  next made hmade =>
  rw [hmade] at hsound
  split at h
  · cases h
  next temporary hplace =>
  have hfree := temporaryPlace_ok hplace
  have hfree' : made.tick.2.find? temporary = none := hfree
  split at h
  · cases h
  next written hwritten =>
  obtain rfl := writeTemporary_ok hwritten
  split at h
  · next after hafter =>
    obtain rfl := congrArg Prod.snd h
    obtain ⟨hcheck, hsep, front, name, n, q, node, hnames, hname, hn, hgo, hdir, hnode, rfl⟩ :=
      rename_ok hafter
    have hne : temporary ≠ [] := by
      rintro rfl
      cases hfree
    rw [find?_put _ _ _ hne] at hnode
    obtain rfl := Option.some.inj hnode
    refine ⟨made, hmade, hcheck, hsep, front, name, n, q, hnames, hname, hn,
      goes_tick.1 ((goes_put_file hfree').1 hgo), fun hthere => hdir ?_, ?_⟩
    · have hother : q ++ [name] ≠ temporary := fun e => by
        rw [e, hfree] at hthere
        cases hthere
      rw [find?_put_of_ne _ _ _ _ hother]
      exact hthere
    · rw [hsound.tick.erase_put hfree']
  · cases h

/-- A store that fails leaves no file behind. -/
theorem store_error {d d' : Disk} (hd : d.Sound) {p : FilePath} {text : String} {e : Report}
    (h : d.store p text = (.error e, d')) : d' = (d.ensureDirectory (homeOf p)).2 ∨
      d' = (d.ensureDirectory (homeOf p)).2.tick.2 := by
  have hsound := hd.ensureDirectory (homeOf p)
  unfold store at h
  split at h
  · next hmade => exact Or.inl (by rw [hmade]; exact (congrArg Prod.snd h).symm)
  next made hmade =>
  rw [hmade] at hsound ⊢
  split at h
  · exact Or.inl (congrArg Prod.snd h).symm
  next temporary hplace =>
  have hfree := temporaryPlace_ok hplace
  split at h
  · next hfault =>
    obtain rfl := congrArg Prod.snd h
    exact Or.inr (writeTemporary_error hsound hfree hfault)
  next written hwritten =>
  obtain rfl := writeTemporary_ok hwritten
  split at h
  · cases h
  · right
    obtain rfl := congrArg Prod.snd h
    exact hsound.tick.erase_put hfree _

/-- A store comes to its end where no write fails, there is room for the temporary file, and no
directory is at the end of the way. -/
theorem store_of_slot {d made : Disk} (hsound : made.Sound) (hreliable : d.Reliable) {p : FilePath}
    (hmade : d.ensureDirectory (homeOf p) = (.ok (), made)) {home : Place}
    (hhome : made.status (homeOf p) = .ok (home, .directory))
    (hroom : checkPath ((homeOf p).join ⟨temporaryPattern⟩).text = .ok ()) {q : Place}
    {name : String} (hslot : made.slot p = .ok ⟨q, some name, false⟩)
    (hlong : isLongName name = false) (hdir : made.find? (q ++ [name]) ≠ some .directory)
    (text : String) :
    d.store p text = (.ok (), made.tick.2.put (q ++ [name]) (.file (.text text) made.stamp)) := by
  obtain ⟨hcheck, hsep, hdot, hdotdot, front, n, hnames, hn, hgo⟩ := slot_some hslot
  have hfree : made.tick.2.find? (home ++ [made.unusedName home]) = none :=
    made.find?_unusedName home
  have hplace := temporaryPlace_of_status hroom hhome
  have hreliable' := hreliable.ensureDirectory (homeOf p)
  rw [hmade] at hreliable'
  have hwritten := writeTemporary_of_reliable hreliable' (home ++ [made.unusedName home]) text
  have hdir' : (made.tick.2.put (home ++ [made.unusedName home])
      (.file (.text text) made.stamp)).find? (q ++ [name]) ≠ some .directory := by
    by_cases he : q ++ [name] = home ++ [made.unusedName home]
    · rw [he, find?_put _ _ _ (by simp)]
      exact nofun
    · rw [find?_put_of_ne _ _ _ _ he]
      exact hdir
  have hsource := find?_put made.tick.2 (home ++ [made.unusedName home])
    (.file (.text text) made.stamp) (by simp)
  have hrename := rename_of_goes hcheck hsep.symm hnames ⟨hdot, hdotdot, hlong⟩ hn
    ((goes_put_file hfree).2 (goes_tick.2 hgo)) hdir' hsource
  rw [hsound.tick.erase_put hfree] at hrename
  unfold store
  simp only [hmade, hplace, hwritten, hrename]

theorem Sound.store {d : Disk} (hd : d.Sound) (p : FilePath) (text : String) :
    (d.store p text).2.Sound := by
  have hmade := hd.ensureDirectory (homeOf p)
  cases hstore : d.store p text with
  | mk result d' =>
    cases result with
    | error e =>
      rcases store_error hd hstore with rfl | rfl
      · exact hmade
      · exact hmade.tick
    | ok u =>
      obtain ⟨made, heq, -, -, front, name, n, q, -, -, -, hgo, hdir, rfl⟩ := store_ok hd hstore
      rw [heq] at hmade
      exact hmade.tick.put (hgo.find?_eq hmade (find?_start hmade _)) hdir

theorem isThere_of_isDirectory {d : Disk} {p : FilePath} (h : d.isDirectory p = true) :
    d.isThere p = true := by
  unfold isDirectory at h
  unfold isThere
  split at h
  · next hstatus => rw [hstatus]; rfl
  · cases h

/-- No directory has to be made for a path that goes back up. -/
def Settled (d : Disk) (p : FilePath) : Prop :=
  ".." ∉ p.names ∨ d.isDirectory (homeOf p) = true

/-- **A stored artifact can be read.** -/
theorem readText_of_store {d d' : Disk} (hd : d.Sound) {p : FilePath} {text : String}
    {existing : Option Time} (hexisting : d.storedAt p = .ok existing)
    (h : d.store p text = (.ok (), d'))
    (hsettled : d.Settled p) : d'.readText p = .ok text := by
  obtain ⟨made, hmade, hcheck, hsep, front, name, n, q, hnames, hname, hn, hgo, hdir, rfl⟩ :=
    store_ok hd h
  -- the file takes the place of no link that its path follows on the way
  have hstill : (made.tick.2.put (q ++ [name]) (.file (.text text) made.stamp)).Goes
      (made.start p.text) front n q := by
    have hdir' : made.tick.2.find? (q ++ [name]) ≠ some .directory := hdir
    refine ((goes_tick.2 hgo).put_or_crosses hdir').resolve_right ?_
    rintro ⟨before, name', target, rest, k, hplace, hname', hfind, htarget, hrest⟩
    obtain ⟨rfl, -⟩ := List.append_inj' hplace rfl
    have hlink : made.find? (q ++ [name]) = some (.link target) := hfind
    rcases ensureDirectory_ok hmade with ⟨-, rfl⟩ | ⟨hthere, hmake⟩
    · -- such a link was there before
      exact storedAt_ne_ok_of_link hcheck hsep hnames hname hn hgo hlink htarget
        (goes_tick.1 hrest) existing hexisting
    · -- or its directory is new, and empty
      have hnotDir : d.isDirectory (homeOf p) ≠ true := fun hisDir => by
        rw [isThere_of_isDirectory hisDir] at hthere
        cases hthere
      have hup := hsettled.resolve_right hnotDir
      rcases homeOf_cases hnames hname hsep with
        ⟨hcurrent, -⟩ | ⟨dots, hdots, hfront, ht, htext, habs, -⟩
      · rw [hcurrent] at hnotDir
        exact hnotDir isDirectory_current
      · have hup' : ".." ∉ (homeOf p).names := fun hmem => hup (by rw [hnames, hfront]; simp [hmem])
        obtain ⟨q', ⟨m, -, hreach⟩, hempty⟩ :=
          fresh_of_makeDirectories hd ht htext hup' hthere hmake
        rw [← start_eq_of_isAbsolute made habs] at hreach
        rw [hfront] at hgo
        obtain rfl := (hreach.append (goes_dots made q' hdots)).unique hgo
        rw [hempty] at hlink
        cases hlink
  have hstatus := status_of_file hcheck hsep hnames hname hn hstill
    (find?_put _ _ _ (by simp))
  simp only [readText, hstatus, bind, Except.bind]

/-! ## A path that goes back up through a link -/

/-- The link stands where the file goes, and leads to a directory that is not there. -/
def linkDisk (clock : Time) : Disk where
  nodes := [(["views"], .directory), (["x.js"], .link "s")]
  workingDirectory := []
  clock := clock

/-- The link has been followed to a new directory, and replaced. -/
def crossedDisk (clock : Time) (text : String) : Disk where
  nodes := [(["views"], .directory), (["x.js"], .file (.text text) clock), (["s"], .directory)]
  workingDirectory := []
  clock := clock + 1

theorem sound_linkDisk (clock : Time) : (linkDisk clock).Sound := by
  refine sound_of_nodes ?_ rfl
  simp only [linkDisk, List.forall_mem_cons]
  exact ⟨rfl, rfl, by simp⟩

/-- What following a relative path takes from its text. -/
structure Spelled (text : String) (names : List String) : Prop where
  check : checkPath text = .ok ()
  names_eq : Text.cutNonempty '/' text = names
  closed : endsInSeparator text = false
  relative : isAbsolute text = false

theorem spelled_views : Spelled "views" ["views"] :=
  ⟨by decide, by decide, by decide, by decide⟩

theorem spelled_link : Spelled "s/../x.js" ["s", "..", "x.js"] :=
  ⟨by decide, by decide, by decide, by decide⟩

theorem spelled_home : Spelled "s/../x.js/.." ["s", "..", "x.js", ".."] :=
  ⟨by decide, by decide, by decide, by decide⟩

theorem spelled_file : Spelled "s/../x.js/../x.js" ["s", "..", "x.js", "..", "x.js"] :=
  ⟨by decide, by decide, by decide, by decide⟩

section Spelled
variable {text : String} {names : List String} (h : Spelled text names) (d : Disk)

include h

theorem Spelled.status_eq : d.status ⟨text⟩ =
    match d.walk true linkLimit d.workingDirectory names with
    | .ok (.there place node) => .ok (place, node)
    | .ok (.absent _ _) => .error .missing
    | .error e => .error e := by
  simp only [status, locate, start, steps, h.check, h.names_eq, h.closed, h.relative, bind,
    Except.bind, Bool.false_eq_true, if_false, List.append_nil]
  cases d.walk true linkLimit d.workingDirectory names with
  | error e => rfl
  | ok spot => cases spot <;> rfl

theorem Spelled.slot_eq : d.slot ⟨text⟩ =
    match d.walk true linkLimit d.workingDirectory names.dropLast with
    | .ok (.there place .directory) =>
      .ok ⟨place, names.getLast?.filter fun n => n ≠ "." && n ≠ "..", false⟩
    | .ok (.there _ _) => .error .notDirectory
    | .ok (.absent _ _) => .error .missing
    | .error e => .error e := by
  simp only [slot, start, h.check, h.names_eq, h.closed, h.relative, bind, Except.bind,
    Bool.false_eq_true, if_false]
  cases d.walk true linkLimit d.workingDirectory names.dropLast with
  | error e => rfl
  | ok spot =>
    cases spot with
    | absent place name => rfl
    | there place node => cases node <;> rfl

end Spelled

theorem status_linkDisk (clock : Time) :
    (linkDisk clock).status ⟨"s/../x.js/.."⟩ = .error .missing := by
  have hwalk : (linkDisk clock).walk true linkLimit (linkDisk clock).workingDirectory
      ["s", "..", "x.js", ".."] = .error .missing := by cbv
  rw [spelled_home.status_eq, hwalk]

theorem storedAt_linkDisk (clock : Time) :
    (linkDisk clock).storedAt ⟨"s/../x.js/../x.js"⟩ = .ok none := by
  simp only [storedAt, spelled_file.status_eq]
  cbv

theorem makeDirectories_linkDisk (clock : Time) :
    (linkDisk clock).makeDirectories ⟨"s/../x.js/.."⟩ =
      (.ok (), (linkDisk clock).put ["s"] .directory) := by
  have hancestors : FilePath.ancestors ⟨"s/../x.js/.."⟩ =
      [⟨"s/../x.js/.."⟩, ⟨"s/../x.js"⟩, ⟨"s/.."⟩, ⟨"s"⟩, ⟨""⟩] := by decide
  have hparents : FilePath.parent? ⟨"s/../x.js/.."⟩ = some ⟨"s/../x.js"⟩ ∧
      FilePath.parent? ⟨"s/../x.js"⟩ = some ⟨"s/.."⟩ ∧
      FilePath.parent? ⟨"s/.."⟩ = some ⟨"s"⟩ ∧ FilePath.parent? ⟨"s"⟩ = some ⟨""⟩ := by
    decide
  -- before the link leads anywhere
  have hhome : (linkDisk clock).makeDirectory ⟨"s/../x.js/.."⟩ = .error .missing := by
    simp only [makeDirectory, spelled_home.slot_eq]
    cbv
  have hlink : (linkDisk clock).makeDirectory ⟨"s/../x.js"⟩ = .error .missing := by
    simp only [makeDirectory, spelled_link.slot_eq]
    cbv
  have hup : (linkDisk clock).makeDirectory ⟨"s/.."⟩ = .error .missing := by cbv
  have hnew : (linkDisk clock).makeDirectory ⟨"s"⟩ =
      .ok ((linkDisk clock).put ["s"] .directory) := by cbv
  -- and when it does
  generalize hmade : (linkDisk clock).put ["s"] .directory = made at hnew ⊢
  have hup' : made.makeDirectory ⟨"s/.."⟩ = .error .alreadyThere ∧
      made.isDirectory ⟨"s/.."⟩ = true := by
    subst hmade
    constructor <;> cbv
  have hlink' : made.makeDirectory ⟨"s/../x.js"⟩ = .error .alreadyThere ∧
      made.isDirectory ⟨"s/../x.js"⟩ = true := by
    subst hmade
    simp only [makeDirectory, isDirectory, spelled_link.slot_eq, spelled_link.status_eq]
    constructor <;> cbv
  have hhome' : made.makeDirectory ⟨"s/../x.js/.."⟩ = .error .alreadyThere ∧
      made.isDirectory ⟨"s/../x.js/.."⟩ = true := by
    subst hmade
    simp only [makeDirectory, isDirectory, spelled_home.slot_eq, spelled_home.status_eq]
    constructor <;> cbv
  simp [makeDirectories, hancestors, makeFrom, hparents, hhome, hlink, hup, hnew, hup', hlink',
    hhome']

/-- The link has been followed to a new directory. -/
theorem ensureDirectory_linkDisk (clock : Time) :
    (linkDisk clock).ensureDirectory ⟨"s/../x.js/.."⟩ =
      (.ok (), (linkDisk clock).put ["s"] .directory) := by
  have hthere : (linkDisk clock).isThere ⟨"s/../x.js/.."⟩ = false := by
    rw [isThere, status_linkDisk]
    rfl
  rw [ensureDirectory, hthere, makeDirectories_linkDisk]
  rfl

theorem store_linkDisk (clock : Time) (text : String) :
    (linkDisk clock).store ⟨"s/../x.js/../x.js"⟩ text = (.ok (), crossedDisk clock text) := by
  have hhome : homeOf ⟨"s/../x.js/../x.js"⟩ = ⟨"s/../x.js/.."⟩ := by decide
  have hensure := ensureDirectory_linkDisk clock
  have hsound := (sound_linkDisk clock).ensureDirectory ⟨"s/../x.js/.."⟩
  rw [hensure] at hsound
  have hstatus : ((linkDisk clock).put ["s"] .directory).status ⟨"s/../x.js/.."⟩ =
      .ok ([], .directory) := by
    rw [spelled_home.status_eq]
    cbv
  have hslot : ((linkDisk clock).put ["s"] .directory).slot ⟨"s/../x.js/../x.js"⟩ =
      .ok ⟨[], some "x.js", false⟩ := by
    rw [spelled_file.slot_eq]
    cbv
  have hfind : ((linkDisk clock).put ["s"] .directory).find? ([] ++ ["x.js"]) =
      some (.link "s") := rfl
  rw [← hhome] at hensure hstatus
  exact store_of_slot hsound (fun _ => rfl) hensure hstatus (by rw [hhome]; decide) hslot
    (by decide)
    (by rw [hfind]; simp) text

/-- What was stored stands in the way to itself. -/
theorem readText_crossedDisk (clock : Time) (text : String) :
    (crossedDisk clock text).readText ⟨"s/../x.js/../x.js"⟩ = .error .notDirectory := by
  simp only [readText, spelled_file.status_eq]
  cbv

end TemplateBundler.Disk
