import TemplateBundler.Proofs.Chart
import TemplateBundler.Proofs.Shelves

/-!
# Builds end

A build goes down into every directory that it finds in another, links included, and nothing in it
counts how deep it is (`Adds`, `Builds`). It ends on every disk, with the one result that the scan
down to the limit on paths gives as well:

    Builds d settings root builtAt r ↔ build d settings root builtAt = r            (builds_iff)

The depth is limited by the links that may be followed: between two of them each directory lies
below the one before it on the disk, so that a way through `k` links from a place is no longer than
`k * (H + 1) + H` where no place is deeper than `H` (`Goes.length_add_le`). Entries that lead back
to a directory above them are gone through again and again, until a path cannot be listed, and then
there is no tree (`exists_error_of_circle`).
-/

namespace TemplateBundler

namespace Disk

/-! ## Ways of entries -/

section Ways
variable {d : Disk} {here q : Place}

theorem Goes.rounds {ms : List String} {m : Nat} (h : d.Goes here ms m here) (k : Nat) :
    d.Goes here (List.replicate k ms).flatten (k * m) here := by
  induction k with
  | zero =>
    rw [Nat.zero_mul]
    exact .nil here
  | succ k ih =>
    rw [List.replicate_succ, List.flatten_cons, Nat.succ_mul, Nat.add_comm]
    exact h.append ih

theorem length_le_of_find? {H : Nat} (hH : ∀ place ∈ d.nodes.map Prod.fst, place.length ≤ H)
    {place : Place} {node : DiskNode} (h : d.find? place = some node) : place.length ≤ H := by
  rw [find?] at h
  split at h
  · next hnil =>
    rw [hnil]
    exact Nat.zero_le H
  · obtain ⟨before, after, hsplit, -⟩ := List.lookup_eq_some_iff.1 h
    refine hH place ?_
    rw [hsplit]
    simp

/-- No way leads deeper than the places of the disk. -/
theorem Goes.length_le {H : Nat} (hH : ∀ place ∈ d.nodes.map Prod.fst, place.length ≤ H)
    {ms : List String} {n : Nat} (h : d.Goes here ms n q) (hhere : here.length ≤ H) :
    q.length ≤ H := by
  induction h with
  | nil here => exact hhere
  | dot _ ih => exact ih hhere
  | dotdot _ ih =>
    refine ih ?_
    rw [List.length_dropLast]
    omega
  | enter _ hfind _ ih => exact ih (length_le_of_find? hH hfind)
  | jump _ _ _ _ ih =>
    refine ih ?_
    split
    · exact Nat.zero_le H
    · exact hhere

/-- One entry leads one place down, or through a link. -/
theorem Goes.entry_cases {x : String} (hdot : x ≠ ".") (hdotdot : x ≠ "..") {n : Nat}
    (h : d.Goes here [x] n q) :
    (IsEntry x ∧ d.find? (here ++ [x]) = some .directory ∧ n = 0 ∧ q = here ++ [x]) ∨
      ∃ target, IsEntry x ∧ d.find? (here ++ [x]) = some (.link target) ∧ 0 < n := by
  cases h with
  | dot _ => exact absurd rfl hdot
  | dotdot _ => exact absurd rfl hdotdot
  | enter hx hfind hrest =>
    cases hrest
    exact Or.inl ⟨hx, hfind, rfl, rfl⟩
  | jump hx hfind _ _ => exact Or.inr ⟨_, hx, hfind, Nat.succ_pos _⟩

/-- **The length of a way of entries.** Each of them goes one place down or takes a link, and after
a link the way is no deeper than the disk. -/
theorem Goes.length_add_le {H : Nat} (hH : ∀ place ∈ d.nodes.map Prod.fst, place.length ≤ H)
    {ms : List String} (hms : ∀ x ∈ ms, x ≠ "." ∧ x ≠ "..") {n : Nat} (h : d.Goes here ms n q)
    (hhere : here.length ≤ H) : ms.length + here.length ≤ n * (H + 1) + H := by
  induction ms generalizing here n with
  | nil =>
    rw [List.length_nil, Nat.zero_add]
    exact hhere.trans (Nat.le_add_left _ _)
  | cons x ms ih =>
    have hway : d.Goes here ([x] ++ ms) n q := h
    obtain ⟨m, k, mid, rfl, hx, hrest⟩ := hway.split
    obtain ⟨hdot, hdotdot⟩ := hms x List.mem_cons_self
    have hmid := hx.length_le hH hhere
    have hlength := ih (fun y hy => hms y (List.mem_cons_of_mem _ hy)) hrest hmid
    rw [List.length_cons]
    rcases hx.entry_cases hdot hdotdot with ⟨-, -, rfl, rfl⟩ | ⟨target, -, -, hpos⟩
    · rw [List.length_append, List.length_singleton] at hlength
      rw [Nat.zero_add]
      omega
    · -- the link pays for the depth that is lost
      have hpaid : (k + 1) * (H + 1) ≤ (m + k) * (H + 1) := Nat.mul_le_mul_right _ (by omega)
      rw [Nat.succ_mul] at hpaid
      omega

end Ways

/-- Where a path leads to a directory, its names do. -/
theorem reached_of_status {d : Disk} {p : FilePath} {q : Place}
    (h : d.status p = .ok (q, .directory)) : d.Reached p q := by
  obtain ⟨n, hn, hgo⟩ := goes_of_walk (status_ok h).2
  obtain ⟨m, k, mid, hmk, hnames, hlast⟩ := Goes.split hgo
  have hdots : d.Goes mid (if endsInSeparator p.text then ["."] else []) 0 mid := by
    refine goes_dots d mid fun x hx => ?_
    split at hx
    · exact List.mem_singleton.1 hx
    · cases hx
  obtain rfl := hdots.unique hlast
  exact ⟨m, by omega, hnames⟩

/-- Where a path is a directory, an entry of it that leads on and can be followed is one too. -/
theorem status_join_of_goes {d : Disk} {p : FilePath} {mid place q : Place} {x : String}
    {node : DiskNode} (hp : d.status p = .ok (mid, .directory)) (hx : IsEntryName x) {n : Nat}
    (hgo : d.Goes mid [x] n q) (h : d.status (p.join ⟨x⟩) = .ok (place, node)) :
    place = q ∧ node = .directory := by
  obtain ⟨m, -, hnames⟩ := reached_of_status hp
  have hway := hnames.append hgo
  rw [← FilePath.names_join hx.1 hx.2,
    start_eq_of_isAbsolute d (FilePath.isAbsolute_join hx.1 hx.2)] at hway
  have hclosed : endsInSeparator (p.join ⟨x⟩).text = false := by
    rw [endsInSeparator, beq_eq_false_iff_ne]
    exact FilePath.getLast?_join hx.1 hx.2
  have hwalk := (status_ok h).2
  rw [steps, hclosed, if_neg Bool.false_ne_true, List.append_nil] at hwalk
  have hway := hway.walk linkLimit
  rw [FilePath.names, hwalk] at hway
  split at hway
  · simp only [Except.ok.injEq, Spot.there.injEq] at hway
    exact hway
  · cases hway

/-- Entries lead from the directory at `root` to one from which they lead back to it. -/
def Circles (d : Disk) (root : FilePath) : Prop :=
  ∃ here place ns ms, d.status root = .ok (here, .directory) ∧ ms ≠ [] ∧
    (∀ x ∈ ns ++ ms, x ≠ "." ∧ x ≠ "..") ∧ (∃ n, d.Goes here ns n place) ∧
      ∃ m, d.Goes place ms m place

end Disk

namespace Source

/-! ## Builds without a limit -/

section

variable [Template.Language]

/-- Reads the directory at `path` and adds its template files below its unit; with the tree come the
directories that are in it. -/
def fill (d : Disk) (settings : BuildSettings) (id : Nat) (path : FilePath) (t : UnitTree) :
    Except BundleError (UnitTree × List (String × FilePath)) :=
  match entries d settings.extension path with
  | .error (culprit, e) => .error (.sourceRead culprit e)
  | .ok listed =>
    match (filesOf d listed).foldlM (addFile settings id) t with
    | .error e => .error e
    | .ok t => .ok (t, foldersOf listed)

/-- Adding directories below a unit, one after the other and each with all that is in it, ends with
a tree or with the first error. -/
inductive Adds (d : Disk) (settings : BuildSettings) :
    Nat → UnitTree → List (String × FilePath) → Except BundleError UnitTree → Prop
  | done (p : Nat) (t : UnitTree) : Adds d settings p t [] (.ok t)
  | stopped {p : Nat} {t : UnitTree} {name : String} {path : FilePath}
      {row : List (String × FilePath)} {e : BundleError} :
      fill d settings (folderUnit t p name path).2 path (folderUnit t p name path).1 = .error e →
      Adds d settings p t ((name, path) :: row) (.error e)
  | inside {p : Nat} {t t₁ : UnitTree} {name : String} {path : FilePath}
      {row inner : List (String × FilePath)} {e : BundleError} :
      fill d settings (folderUnit t p name path).2 path (folderUnit t p name path).1 =
        .ok (t₁, inner) →
      Adds d settings (folderUnit t p name path).2 t₁ inner (.error e) →
      Adds d settings p t ((name, path) :: row) (.error e)
  | next {p : Nat} {t t₁ t₂ : UnitTree} {name : String} {path : FilePath}
      {row inner : List (String × FilePath)} {r : Except BundleError UnitTree} :
      fill d settings (folderUnit t p name path).2 path (folderUnit t p name path).1 =
        .ok (t₁, inner) →
      Adds d settings (folderUnit t p name path).2 t₁ inner (.ok t₂) →
      Adds d settings p t₂ row r → Adds d settings p t ((name, path) :: row) r

/-- A build of the directory at `root` ends with a tree or an error. -/
inductive Builds (d : Disk) (settings : BuildSettings) (root : FilePath) (builtAt : Time) :
    Except BundleError UnitTree → Prop
  | unknown {e : Fault} : d.status root = .error e →
      Builds d settings root builtAt (.error (.sourceRead root e))
  | notDirectory {here : Place} {node : DiskNode} : d.status root = .ok (here, node) →
      node ≠ .directory →
      Builds d settings root builtAt (.error (.sourceRead root .sourceNotDirectory))
  | stopped {here : Place} {e : BundleError} : d.status root = .ok (here, .directory) →
      fill d settings UnitTree.rootId root (treeOf.rootOnly root builtAt) = .error e →
      Builds d settings root builtAt (.error e)
  | grown {here : Place} {t : UnitTree} {inner : List (String × FilePath)}
      {r : Except BundleError UnitTree} : d.status root = .ok (here, .directory) →
      fill d settings UnitTree.rootId root (treeOf.rootOnly root builtAt) = .ok (t, inner) →
      Adds d settings UnitTree.rootId t inner r → Builds d settings root builtAt r

section
variable {d : Disk} {settings : BuildSettings}

theorem Adds.unique {p : Nat} {t : UnitTree} {row : List (String × FilePath)}
    {r r' : Except BundleError UnitTree} (h : Adds d settings p t row r)
    (h' : Adds d settings p t row r') : r = r' := by
  induction h generalizing r' with
  | done p t =>
    cases h'
    rfl
  | stopped hfill =>
    cases h' with
    | stopped hfill' => rw [hfill] at hfill'; cases hfill'; rfl
    | inside hfill' _ => rw [hfill] at hfill'; cases hfill'
    | next hfill' _ _ => rw [hfill] at hfill'; cases hfill'
  | inside hfill _ ih =>
    cases h' with
    | stopped hfill' => rw [hfill] at hfill'; cases hfill'
    | inside hfill' hinner' =>
      rw [hfill] at hfill'
      cases hfill'
      exact ih hinner'
    | next hfill' hinner' _ =>
      rw [hfill] at hfill'
      cases hfill'
      cases ih hinner'
  | next hfill _ _ ih ihrow =>
    cases h' with
    | stopped hfill' => rw [hfill] at hfill'; cases hfill'
    | inside hfill' hinner' =>
      rw [hfill] at hfill'
      cases hfill'
      cases ih hinner'
    | next hfill' hinner' hrow' =>
      rw [hfill] at hfill'
      cases hfill'
      cases ih hinner'
      exact ihrow hrow'

/-! ## Readings that come to a stop -/

/-- Files that were added could be read. -/
theorem not_any_of_added {files : List SourceFile} {p : Nat} {t t₁ : UnitTree}
    (h : files.foldlM (addFile settings p) t = .ok t₁) :
    files.any (fun f => !f.content.isOk) = false := by
  rw [addFiles_eq] at h
  cases hcs : files.mapM (compileFile settings) with
  | error e =>
    rw [hcs] at h
    cases h
  | ok cs => exact not_any_of_compiled hcs

theorem exists_error_of_stops (settings : BuildSettings) {folders : Folders}
    (h : folders.stops = true) (p : Nat) (t : UnitTree) : ∃ e, addFolders settings p t folders = .error e := by
  rw [addFolders_eq]
  cases ho : outlineOf settings folders with
  | error e => exact ⟨e, rfl⟩
  | ok o =>
    rw [stops_of_outlineOf ho] at h
    cases h

/-! ## The depth that is enough -/

omit [Template.Language] in
theorem size_add_length_le (hd : d.WellFormed) {path : FilePath} {ns : List String} (hne : ns ≠ [])
    (h : Leads d path ns) : path.text.utf8ByteSize + ns.length ≤ Disk.pathLimit := by
  induction ns generalizing path with
  | nil => exact absurd rfl hne
  | cons n ns ih =>
    obtain ⟨hn, hns⟩ := h
    have hsize : path.text.utf8ByteSize < (path.join ⟨n⟩).text.utf8ByteSize :=
      FilePath.size_join_lt (isEntryName_of_holds hd hn)
    cases ns with
    | nil =>
      have hlisted : path.text.utf8ByteSize < Disk.pathLimit := by
        cases hn with
        | plain hs _ _ => exact size_lt_of_status hs
        | linked hs _ _ => exact size_lt_of_status hs
      exact hlisted
    | cons n' ns =>
      have := ih (List.cons_ne_nil n' ns) hns
      rw [List.length_cons]
      omega

omit [Template.Language] in
/-- Paths that lead on from a directory are short. -/
theorem length_lt_of_leads (hd : d.WellFormed) {root : FilePath} {here : Place}
    (hs : d.status root = .ok (here, .directory)) {ns : List String} (h : Leads d root ns) :
    ns.length < Disk.pathLimit := by
  have hnonempty : 0 < root.text.utf8ByteSize := by
    refine Nat.pos_of_ne_zero fun hzero => ?_
    have hcheck := (Disk.status_ok hs).1
    rw [String.utf8ByteSize_eq_zero_iff.1 hzero] at hcheck
    cases hcheck
  by_cases hne : ns = []
  · rw [hne]
    exact Nat.succ_pos _
  · have := size_add_length_le hd hne h
    omega

omit [Template.Language] in
theorem scanDown_succ (n : Nat) (row : List (String × FilePath)) :
    scanDown d settings.extension (n + 1) row =
      scanRow d settings.extension (scanDown d settings.extension n) row := by
  cases row <;> rfl

/-- The directories that come with the tree are those that were listed. -/
theorem exists_of_fill {id : Nat} {path : FilePath} {t t₁ : UnitTree}
    {inner : List (String × FilePath)} (h : fill d settings id path t = .ok (t₁, inner)) :
    ∃ listed, entries d settings.extension path = .ok listed ∧ inner = foldersOf listed := by
  unfold fill at h
  split at h
  · cases h
  next listed he =>
  split at h
  · cases h
  · cases h
    exact ⟨listed, he, rfl⟩

/-- **A scan reads ahead and a build does not see it.** What is left out behind the first failure is
what a build comes to no more. -/
theorem addFolders_scanRow (deeper : List (String × FilePath) → Folders) (p : Nat) (t : UnitTree)
    (name : String) (path : FilePath) (row : List (String × FilePath)) :
    addFolders settings p t (scanRow d settings.extension deeper ((name, path) :: row)) =
      (fill d settings (folderUnit t p name path).2 path (folderUnit t p name path).1).bind
        fun (t₁, inner) =>
          (addFolders settings (folderUnit t p name path).2 t₁ (deeper inner)).bind fun t₂ =>
            addFolders settings p t₂ (scanRow d settings.extension deeper row) := by
  unfold fill
  cases he : entries d settings.extension path with
  | error culprit => simp only [scanRow, he, addFolders, Except.bind]
  | ok listed =>
  simp only [scanRow, he]
  cases hfiles : (filesOf d listed).foldlM (addFile settings (folderUnit t p name path).2)
      (folderUnit t p name path).1 with
  | error e =>
    have hstopped : ∀ inside rest, addFolders settings p t
        (.folder name path (filesOf d listed) inside rest) = .error e := by
      intro inside rest
      simp only [addFolders, hfiles, bind, Except.bind]
    rw [apply_ite (addFolders settings p t), hstopped, hstopped, ite_self]
    rfl
  | ok t₁ =>
    simp only [not_any_of_added hfiles, Bool.false_eq_true, if_false, Folders.stops, Bool.false_or,
      Bool.or_false]
    cases hstops : (deeper (foldersOf listed)).stops with
    | true =>
      obtain ⟨e, herror⟩ := exists_error_of_stops settings hstops (folderUnit t p name path).2 t₁
      simp only [if_true, addFolders, hfiles, herror, bind, Except.bind]
    | false =>
      simp only [Bool.false_eq_true, if_false, addFolders, hfiles, bind, Except.bind]

/-- The same for the directory at the root. -/
theorem treeOf_scanRow (deeper : List (String × FilePath) → Folders) (root : FilePath)
    (builtAt : Time) :
    treeOf settings root builtAt (scanRow d settings.extension deeper [("", root)]) =
      (fill d settings UnitTree.rootId root (treeOf.rootOnly root builtAt)).bind
        fun (t, inner) => addFolders settings UnitTree.rootId t (deeper inner) := by
  unfold fill
  cases he : entries d settings.extension root with
  | error culprit => simp only [scanRow, he, treeOf, Except.bind]
  | ok listed =>
  simp only [scanRow, he, ite_self, treeOf]
  cases hfiles : (filesOf d listed).foldlM (addFile settings UnitTree.rootId)
      (treeOf.rootOnly root builtAt) with
  | error e => rfl
  | ok t =>
    simp only [not_any_of_added hfiles, Bool.false_eq_true, if_false, bind, Except.bind]

theorem leads_inner (hd : d.WellFormed) {id : Nat} {path : FilePath} {t t₁ : UnitTree}
    {inner : List (String × FilePath)} (hfill : fill d settings id path t = .ok (t₁, inner))
    {n : Nat} (h : ∀ ns, Leads d path ns → ns.length < n + 1) :
    ∀ entry ∈ inner, ∀ ns, Leads d entry.2 ns → ns.length < n := by
  obtain ⟨listed, he, rfl⟩ := exists_of_fill hfill
  intro entry hentry ns hns
  rw [foldersOf_eq he] at hentry
  obtain ⟨m, hm, rfl⟩ := List.mem_map.1 hentry
  exact Nat.lt_of_succ_lt_succ (h (m :: ns) ⟨(mem_folderNames he hd m).1 hm, hns⟩)

/-- **A depth that no directory below reaches is no limit.** What a scan of that depth gives is what
adding without a limit ends with. -/
theorem adds_scanDown (hd : d.WellFormed) (n : Nat) {row : List (String × FilePath)}
    (h : ∀ entry ∈ row, ∀ ns, Leads d entry.2 ns → ns.length < n) (p : Nat) (t : UnitTree) :
    Adds d settings p t row (addFolders settings p t (scanDown d settings.extension n row)) := by
  induction n generalizing row p t with
  | zero =>
    cases row with
    | nil => exact .done p t
    | cons entry row => exact absurd (h entry List.mem_cons_self [] trivial) (Nat.not_lt_zero _)
  | succ n ih =>
    rw [scanDown_succ]
    induction row generalizing t with
    | nil => exact .done p t
    | cons entry row ihrow =>
      obtain ⟨name, path⟩ := entry
      rw [addFolders_scanRow]
      cases hfill : fill d settings (folderUnit t p name path).2 path
          (folderUnit t p name path).1 with
      | error e => exact .stopped hfill
      | ok filled =>
        obtain ⟨t₁, inner⟩ := filled
        have hinside := ih (leads_inner hd hfill (h (name, path) List.mem_cons_self))
          (folderUnit t p name path).2 t₁
        simp only [Except.bind]
        cases hresult : addFolders settings (folderUnit t p name path).2 t₁
            (scanDown d settings.extension n inner) with
        | error e =>
          rw [hresult] at hinside
          exact .inside hfill hinside
        | ok t₂ =>
          rw [hresult] at hinside
          exact .next hfill hinside
            (ihrow (fun entry hentry => h entry (List.mem_cons_of_mem _ hentry)) t₂)

/-- **What a build gives is what one without a limit ends with.** -/
theorem builds_build (hd : d.WellFormed) (root : FilePath) (builtAt : Time) :
    Builds d settings root builtAt (build d settings root builtAt) := by
  unfold build scan
  cases hs : d.status root with
  | error e => exact .unknown hs
  | ok spot =>
    obtain ⟨here, node⟩ := spot
    cases node with
    | file content modified => exact .notDirectory hs nofun
    | link target => exact .notDirectory hs nofun
    | directory =>
      have hdepth : ∀ ns, Leads d root ns → ns.length < 4095 + 1 :=
        fun ns => length_lt_of_leads hd hs
      have hlimit : Disk.pathLimit = 4095 + 1 := rfl
      simp only
      rw [hlimit, scanDown_succ, treeOf_scanRow]
      cases hfill : fill d settings UnitTree.rootId root (treeOf.rootOnly root builtAt) with
      | error e => exact .stopped hs hfill
      | ok filled =>
        obtain ⟨t, inner⟩ := filled
        exact .grown hs hfill (adds_scanDown hd 4095 (leads_inner hd hfill hdepth) _ t)

theorem Builds.unique {root : FilePath} {builtAt : Time} {r r' : Except BundleError UnitTree}
    (h : Builds d settings root builtAt r) (h' : Builds d settings root builtAt r') : r = r' := by
  have hstatus : ∀ {here here' : Place} {node node' : DiskNode},
      d.status root = .ok (here, node) → d.status root = .ok (here', node') → node = node' := by
    intro here here' node node' hs hs'
    rw [hs] at hs'
    cases hs'
    rfl
  cases h with
  | unknown hs =>
    cases h' with
    | unknown hs' => rw [hs] at hs'; cases hs'; rfl
    | notDirectory hs' _ => rw [hs] at hs'; cases hs'
    | stopped hs' _ => rw [hs] at hs'; cases hs'
    | grown hs' _ _ => rw [hs] at hs'; cases hs'
  | notDirectory hs hnode =>
    cases h' with
    | unknown hs' => rw [hs] at hs'; cases hs'
    | notDirectory hs' _ => rfl
    | stopped hs' _ => exact absurd (hstatus hs hs') hnode
    | grown hs' _ _ => exact absurd (hstatus hs hs') hnode
  | stopped hs hfill =>
    cases h' with
    | unknown hs' => rw [hs] at hs'; cases hs'
    | notDirectory hs' hnode' => exact absurd (hstatus hs' hs) hnode'
    | stopped hs' hfill' => rw [hfill] at hfill'; cases hfill'; rfl
    | grown hs' hfill' _ => rw [hfill] at hfill'; cases hfill'
  | grown hs hfill hadds =>
    cases h' with
    | unknown hs' => rw [hs] at hs'; cases hs'
    | notDirectory hs' hnode' => exact absurd (hstatus hs' hs) hnode'
    | stopped hs' hfill' => rw [hfill] at hfill'; cases hfill'
    | grown hs' hfill' hadds' =>
      rw [hfill] at hfill'
      cases hfill'
      exact hadds.unique hadds'

theorem builds_iff (hd : d.WellFormed) (root : FilePath) (builtAt : Time)
    (r : Except BundleError UnitTree) :
    Builds d settings root builtAt r ↔ build d settings root builtAt = r := by
  constructor
  · exact (builds_build hd root builtAt).unique
  · rintro rfl
    exact builds_build hd root builtAt

/-! ## Depth and circles -/

omit [Template.Language] in
theorem names_joinAll_of_leads (hd : d.WellFormed) {path : FilePath} {ns : List String}
    (h : Leads d path ns) : (path.joinAll ns).names = path.names ++ ns := by
  induction ns generalizing path with
  | nil => exact (List.append_nil _).symm
  | cons n ns ih =>
    obtain ⟨hne, hsep⟩ := isEntryName_of_holds hd h.1
    rw [joinAll_cons, ih h.2, FilePath.names_join hne hsep, List.append_assoc]
    rfl

omit [Template.Language] in
/-- **The depth that links allow**, whatever the length of paths. -/
theorem length_le_of_leads (hd : d.WellFormed) {H : Nat}
    (hH : ∀ place ∈ d.workingDirectory :: d.nodes.map Prod.fst, place.length ≤ H) {root : FilePath}
    {ns : List String} (hns : ∀ x ∈ ns, x ≠ "." ∧ x ≠ "..") (h : Leads d root ns) :
    ns.length ≤ (Disk.linkLimit + 1) * (H + 1) := by
  rcases List.eq_nil_or_concat' ns with rfl | ⟨ms, x, rfl⟩
  · exact Nat.zero_le _
  obtain ⟨hms, hx⟩ := (leads_concat d root ms x).1 h
  have hplaces := fun place hplace => hH place (List.mem_cons_of_mem _ hplace)
  have hstatus : ∃ here, d.status (root.joinAll ms) = .ok (here, .directory) := by
    cases hx with
    | plain hs _ _ => exact ⟨_, hs⟩
    | linked hs _ _ => exact ⟨_, hs⟩
  obtain ⟨here, hs⟩ := hstatus
  obtain ⟨n, hn, hgo⟩ := Disk.reached_of_status hs
  rw [names_joinAll_of_leads hd hms] at hgo
  obtain ⟨m, k, mid, rfl, hroot, hrest⟩ := hgo.split
  have hstart : (d.start (root.joinAll ms).text).length ≤ H := by
    unfold Disk.start
    split
    · exact Nat.zero_le H
    · exact hH _ List.mem_cons_self
  have hlength := hrest.length_add_le hplaces
    (fun y hy => hns y (List.mem_append_left _ hy)) (hroot.length_le hplaces hstart)
  have hlinks : k * (H + 1) ≤ Disk.linkLimit * (H + 1) := Nat.mul_le_mul_right _ (by omega)
  rw [List.length_append, List.length_singleton, Nat.succ_mul]
  omega

/-- On a source that can be built, ways of entries are ways that a build goes. -/
theorem leads_of_goes (hd : d.WellFormed) {root : FilePath} (h : Buildable d settings root)
    {here : Place} (hroot : d.status root = .ok (here, .directory)) {ns : List String}
    (hns : ∀ x ∈ ns, x ≠ "." ∧ x ≠ "..") {n : Nat} {q : Place} (hgo : d.Goes here ns n q) :
    Leads d root ns ∧ d.status (root.joinAll ns) = .ok (q, .directory) := by
  induction ns using List.reverseRecOn generalizing n q with
  | nil =>
    cases hgo
    exact ⟨trivial, hroot⟩
  | append_singleton ns x ih =>
    obtain ⟨m, k, mid, rfl, hfront, hlast⟩ := hgo.split
    obtain ⟨hleads, hstatus⟩ := ih (fun y hy => hns y (List.mem_append_left _ hy)) hfront
    obtain ⟨hdot, hdotdot⟩ := hns x (by simp)
    obtain ⟨here', hs, hlinks⟩ := h.lists ns hleads
    rw [hstatus] at hs
    cases hs
    have hentry : ∀ node, d.find? (mid ++ [x]) = some node → Disk.IsEntryName x := fun node hf =>
      hd.isEntryName _ (List.mem_map_of_mem ((Disk.mem_nodes_iff hd (by simp) node).2 hf)) x
        (by simp)
    have hholds : d.Holds (root.joinAll ns) x .directory ∧ Disk.IsEntryName x := by
      rcases hlast.entry_cases hdot hdotdot with ⟨-, hf, -, -⟩ | ⟨target, -, hf, -⟩
      · exact ⟨.plain hstatus hf nofun, hentry _ hf⟩
      · obtain ⟨place, node, hfollowed, -⟩ := hlinks x target hf
        obtain ⟨rfl, rfl⟩ := Disk.status_join_of_goes hstatus (hentry _ hf) hlast hfollowed
        exact ⟨.linked hstatus hf hfollowed, hentry _ hf⟩
    have hleads' := (leads_concat d root ns x).2 ⟨hleads, hholds.1⟩
    obtain ⟨place, hs, -⟩ := h.lists _ hleads'
    rw [joinAll_append] at hs ⊢
    obtain ⟨rfl, -⟩ := Disk.status_join_of_goes hstatus hholds.2 hlast hs
    exact ⟨hleads', hs⟩

/-- **No tree from a circle.** -/
theorem exists_error_of_circles (hd : d.WellFormed) {root : FilePath} (h : d.Circles root)
    (builtAt : Time) : ∃ e, build d settings root builtAt = .error e := by
  obtain ⟨here, place, ns, ms, hroot, hne, hnames, ⟨n, hgo⟩, ⟨m, hback⟩⟩ := h
  cases hbuild : build d settings root builtAt with
  | error e => exact ⟨e, rfl⟩
  | ok t =>
    exfalso
    have hbuildable := (build_iff hd settings root builtAt).2 ⟨t, hbuild⟩
    -- as many rounds as the longest path has letters
    have hround := hgo.append (hback.rounds Disk.pathLimit)
    have hmem : ∀ x ∈ ns ++ (List.replicate Disk.pathLimit ms).flatten, x ≠ "." ∧ x ≠ ".." := by
      intro x hx
      refine hnames x ?_
      rcases List.mem_append.1 hx with hx | hx
      · exact List.mem_append_left _ hx
      · obtain ⟨xs, hxs, hx⟩ := List.mem_flatten.1 hx
        rw [List.eq_of_mem_replicate hxs] at hx
        exact List.mem_append_right _ hx
    obtain ⟨hleads, -⟩ := leads_of_goes hd hbuildable hroot hmem hround
    have hlong : Disk.pathLimit ≤ (ns ++ (List.replicate Disk.pathLimit ms).flatten).length := by
      have := Nat.le_mul_of_pos_right Disk.pathLimit (List.length_pos_of_ne_nil hne)
      rw [List.length_append, List.length_flatten, List.map_replicate, List.sum_replicate_nat]
      omega
    have hbound := length_lt_of_leads hd hroot hleads
    omega

end

/-- A build comes to an end, and not with a tree where entries lead back to a directory above. -/
structure Ending (d : Disk) (settings : BuildSettings) (root : FilePath) (builtAt : Time) :
    Prop where
  ends : ∀ r, Builds d settings root builtAt r ↔ build d settings root builtAt = r
  depth : ∀ H ns, (∀ place ∈ d.workingDirectory :: d.nodes.map Prod.fst, place.length ≤ H) →
    (∀ x ∈ ns, x ≠ "." ∧ x ≠ "..") → Leads d root ns →
      ns.length ≤ (Disk.linkLimit + 1) * (H + 1)
  circles : d.Circles root → ∃ e, build d settings root builtAt = .error e

/-- **Every build ends**, on every disk with every link. -/
theorem ending_of_wellFormed {d : Disk} (hd : d.WellFormed) (settings : BuildSettings)
    (root : FilePath) (builtAt : Time) : Ending d settings root builtAt where
  ends := builds_iff hd root builtAt
  depth _ _ hH hns h := length_le_of_leads hd hH hns h
  circles h := exists_error_of_circles hd h builtAt

end

/-- Two directories with a link in each to the other one. -/
def mutualLinks : Disk :=
  ⟨[(["views"], .directory), (["views", "a"], .directory), (["views", "a", "to"], .link "../b"),
    (["views", "b"], .directory), (["views", "b", "to"], .link "../a")], [], 100⟩

theorem wellFormed_mutualLinks : mutualLinks.WellFormed where
  places_nodup := by decide
  isEntryName := by
    unfold Disk.IsEntryName
    decide

/-- From the first directory over the second one back to the first. -/
theorem circles_mutualLinks : mutualLinks.Circles ⟨"views"⟩ := by
  have hname : ∀ x ∈ ["views", "a", "b", "to"], Disk.IsEntry x := by
    intro x hx
    simp only [List.mem_cons, List.not_mem_nil, or_false] at hx
    rcases hx with rfl | rfl | rfl | rfl
    all_goals exact ⟨by decide, by decide, by decide⟩
  have hto : ∀ x y target, mutualLinks.find? ["views", x, "to"] = some (.link target) →
      target.isEmpty = false → Disk.isAbsolute target = false →
      Disk.steps target = ["..", y] → Disk.IsEntry y →
      mutualLinks.find? ["views", y] = some .directory →
      mutualLinks.Goes ["views", x] ["to"] 1 ["views", y] := by
    intro x y target hfind hempty hrelative hsteps hto hdir
    refine .jump (hname _ (by simp)) hfind hempty ?_
    rw [hrelative, hsteps]
    exact .dotdot (.enter hto hdir (.nil _))
  have hb := hto "a" "b" "../b" rfl (by decide) (by decide) (by decide) (hname _ (by simp)) rfl
  have ha := hto "b" "a" "../a" rfl (by decide) (by decide) (by decide) (hname _ (by simp)) rfl
  have hsteps : Disk.steps "views" = ["views"] := by decide
  have hroot : mutualLinks.status ⟨"views"⟩ = .ok (["views"], .directory) :=
    status_of_walk (by decide) hsteps
      ((Disk.Goes.enter (hname _ (by simp)) rfl (.nil _)).walk _)
  refine ⟨["views"], ["views", "a"], ["a"], ["to", "to"], hroot, by simp, by decide, ⟨0, ?_⟩,
    1 + 1, hb.append ha⟩
  exact .enter (hname _ (by simp)) rfl (.nil _)

theorem ending_mutualLinks : mutualLinks.WellFormed ∧ mutualLinks.Circles ⟨"views"⟩ ∧
    ∃ e, build mutualLinks smallSettings ⟨"views"⟩ 100 = .error e ∧
      Builds mutualLinks smallSettings ⟨"views"⟩ 100 (.error e) := by
  have hending := ending_of_wellFormed wellFormed_mutualLinks smallSettings ⟨"views"⟩ 100
  obtain ⟨e, he⟩ := hending.circles circles_mutualLinks
  exact ⟨wellFormed_mutualLinks, circles_mutualLinks, e, he, (hending.ends _).2 he⟩

end Source

end TemplateBundler
