import TemplateBundler.Gate
import TemplateBundler.Proofs.Contents
import TemplateBundler.Proofs.Stores

/-!
# Where artifacts are kept

The path of an artifact goes on from the public directory by names that stand for themselves
(`storedPath_ok`), and different key paths go on differently (`artifactNames_inj`). Where no link
stands below the public directory, each artifact has its own place there, and a store for one leaves
the others alone:

    d.Shelf p top rest → path.Below p tail → d.store path text = (.ok (), d') →
      d'.find? (top ++ (rest ++ tail)) = some (.file (.text text) d.stamp) and
      what was elsewhere is still there                                        (Shelf.store)

The public directory need not be there yet: `top` is how far its path leads, and `rest` the names
that are left.
-/

namespace TemplateBundler

/-! ## Paths of artifacts -/

namespace FilePath

/-- What stands between a path and a relative one that is joined to it. -/
def gap (base : FilePath) : List Char :=
  if base.text.isEmpty || base.text.toList.getLast? == some '/' then [] else ['/']

theorem gap_cases (base : FilePath) :
    (base.text = "" ∧ base.gap = []) ∨ (base.text.toList.getLast? = some '/' ∧ base.gap = []) ∨
      (base.text ≠ "" ∧ base.gap = ['/']) := by
  unfold gap
  split
  · next hopen =>
    rw [Bool.or_eq_true, String.isEmpty_iff, beq_iff_eq] at hopen
    exact hopen.imp (⟨·, rfl⟩) fun hlast => Or.inl ⟨hlast, rfl⟩
  · next hclosed =>
    rw [Bool.or_eq_true, String.isEmpty_iff, not_or] at hclosed
    exact Or.inr (Or.inr ⟨hclosed.1, rfl⟩)

section Relative
variable {p : FilePath} (hp : p.isAbsolute = false) (base : FilePath)

include hp

theorem toList_join :
    (base.join p).text.toList = base.text.toList ++ base.gap ++ p.text.toList := by
  rw [join, if_neg (by rw [hp]; exact Bool.false_ne_true), gap]
  split <;> simp [String.toList_append]

theorem names_join_of_relative : (base.join p).names = base.names ++ p.names := by
  rw [names_eq, names_eq, names_eq, toList_join hp]
  rcases gap_cases base with ⟨hempty, hgap⟩ | ⟨hlast, hgap⟩ | ⟨-, hgap⟩
  · rw [hgap, hempty, String.toList_empty, List.nil_append, List.nil_append, namesIn_nil,
      List.nil_append]
  · obtain ⟨front, hfront⟩ := List.getLast?_eq_some_iff.1 hlast
    rw [hgap, hfront, List.append_nil, List.append_assoc, List.singleton_append, namesIn_append,
      namesIn_append, namesIn_nil, List.append_nil]
  · rw [hgap, List.append_assoc, List.singleton_append, namesIn_append]

theorem isAbsolute_join_of_relative : (base.join p).isAbsolute = base.isAbsolute := by
  rcases gap_cases base with ⟨hempty, hgap⟩ | ⟨hlast, hgap⟩ | ⟨hnil, hgap⟩
  · have hbase : base.isAbsolute = false := by rw [isAbsolute, hempty]; rfl
    rw [hbase, isAbsolute, toList_join hp, hgap, hempty]
    exact hp
  · obtain ⟨front, hfront⟩ := List.getLast?_eq_some_iff.1 hlast
    rw [isAbsolute, isAbsolute, toList_join hp, hgap, hfront]
    cases front <;> rfl
  · rw [isAbsolute, isAbsolute, toList_join hp, hgap]
    cases hc : base.text.toList with
    | nil => exact absurd (String.toList_injective hc) hnil
    | cons c cs => rfl

end Relative

section Join
variable {p : FilePath} {name : String} (hne : name ≠ "") (hsep : '/' ∉ name.toList)

include hne hsep

theorem isAbsolute_name : isAbsolute ⟨name⟩ = false := by
  cases hc : name.toList with
  | nil => exact absurd (String.toList_injective hc) hne
  | cons c cs =>
    rw [hc, List.mem_cons, not_or] at hsep
    simp [isAbsolute, hc, Ne.symm hsep.1]

theorem names_join : (p.join ⟨name⟩).names = p.names ++ [name] := by
  have hname : names ⟨name⟩ = [name] := by
    rw [names_eq, namesIn_of_not_mem hsep (by simpa using hne), String.ofList_toList]
  rw [names_join_of_relative (isAbsolute_name hne hsep), hname]

theorem isAbsolute_join : (p.join ⟨name⟩).isAbsolute = p.isAbsolute :=
  isAbsolute_join_of_relative (isAbsolute_name hne hsep) p

theorem getLast?_join : (p.join ⟨name⟩).text.toList.getLast? ≠ some '/' := by
  have hchars : name.toList ≠ [] := by simpa using hne
  rw [toList_join (isAbsolute_name hne hsep), List.getLast?_append_of_ne_nil _ hchars]
  exact fun hlast => hsep (List.mem_of_getLast? hlast)

end Join

/-- The path goes on from `p` by names that stand for themselves, one at least. -/
structure Below (p path : FilePath) (tail : List String) : Prop where
  names_eq : path.names = p.names ++ tail
  isAbsolute_eq : path.isAbsolute = p.isAbsolute
  plain : ∀ x ∈ tail, x ≠ "." ∧ x ≠ ".."
  closed : Disk.endsInSeparator path.text = false
  ne_nil : tail ≠ []

end FilePath

namespace Gate

theorem isSafeName_iff {name : String} : isSafeName name = true ↔
    name ≠ "" ∧ name ≠ "." ∧ name ≠ ".." ∧
      ∀ c ∈ name.toList, c ≠ '/' ∧ c ≠ '\\' ∧ c.toNat ≠ 0 := by
  simp [isSafeName, and_assoc]

/-- The names of an artifact's path behind those of the public directory. -/
def artifactNames (names : List String) : List String :=
  match names.getLast? with
  | none => []
  | some last => names.dropLast ++ [last ++ Conventions.artifactSuffix]

theorem artifactNames_inj {names names' : List String}
    (h : artifactNames names = artifactNames names') : names = names' := by
  rcases List.eq_nil_or_concat' names with rfl | ⟨dirs, last, rfl⟩
  · rcases List.eq_nil_or_concat' names' with rfl | ⟨dirs', last', rfl⟩
    · rfl
    · simp [artifactNames] at h
  · rcases List.eq_nil_or_concat' names' with rfl | ⟨dirs', last', rfl⟩
    · simp [artifactNames] at h
    · simp only [artifactNames, List.getLast?_concat, List.dropLast_concat] at h
      obtain ⟨rfl, hlast⟩ := List.append_inj' h rfl
      have hlast := congrArg String.toList (List.singleton_inj.1 hlast)
      rw [String.toList_append, String.toList_append, List.append_left_inj] at hlast
      rw [String.toList_injective hlast]

/-- Safe names joined one after the other. -/
theorem names_joinAll {names : List String} (h : ∀ name ∈ names, isSafeName name = true)
    (p : FilePath) : (p.joinAll names).names = p.names ++ names ∧
      (p.joinAll names).isAbsolute = p.isAbsolute := by
  induction names generalizing p with
  | nil => exact ⟨(List.append_nil _).symm, rfl⟩
  | cons name names ih =>
    obtain ⟨hne, -, -, hchars⟩ := isSafeName_iff.1 (h name List.mem_cons_self)
    have hsep : '/' ∉ name.toList := fun hmem => (hchars _ hmem).1 rfl
    obtain ⟨hnames, habs⟩ := ih (fun x hx => h x (List.mem_cons_of_mem _ hx)) (p.join ⟨name⟩)
    rw [FilePath.joinAll, List.foldl_cons]
    rw [FilePath.names_join hne hsep] at hnames
    rw [FilePath.isAbsolute_join hne hsep] at habs
    exact ⟨by rw [FilePath.joinAll] at hnames; rw [hnames, List.append_assoc]; rfl, habs⟩

/-- The file name of an artifact stands for itself. -/
theorem plain_artifactName {last : String} (h : '/' ∉ last.toList) :
    last ++ Conventions.artifactSuffix ≠ "" ∧
      '/' ∉ (last ++ Conventions.artifactSuffix).toList ∧
      last ++ Conventions.artifactSuffix ≠ "." ∧ last ++ Conventions.artifactSuffix ≠ ".." := by
  have hsuffix : (last ++ Conventions.artifactSuffix).toList = last.toList ++ ['.', 'j', 's'] := by
    rw [String.toList_append]
    rfl
  have hlonger : ∀ short : String, short.toList.length < 3 →
      last ++ Conventions.artifactSuffix ≠ short := by
    rintro short hshort rfl
    rw [hsuffix, List.length_append] at hshort
    exact absurd hshort (by simp)
  refine ⟨hlonger "" (by decide), ?_, hlonger "." (by decide), hlonger ".." (by decide)⟩
  rw [hsuffix, List.mem_append, not_or]
  exact ⟨h, by decide⟩

/-- Where a file is named, all names of its prefix and key path are safe. -/
theorem safe_of_storedPath {g : Gate} {directory path : FilePath} {k : KeyPath}
    (h : g.storedPath directory k = .ok path) :
    ∀ name ∈ g.leading ++ k.segments, isSafeName name = true := by
  unfold storedPath at h
  simp only at h
  split at h
  · cases h
  · next hsafe =>
    rw [List.find?_eq_none] at hsafe
    simpa using hsafe

theorem storedPath_ok {g : Gate} {directory path : FilePath} {k : KeyPath}
    (h : g.storedPath directory k = .ok path) :
    directory.Below path (artifactNames (g.leading ++ k.segments)) := by
  have hsafe := safe_of_storedPath h
  unfold storedPath at h
  simp only at h
  split at h
  · cases h
  generalize g.leading ++ k.segments = names at h hsafe ⊢
  rcases List.eq_nil_or_concat' names with rfl | ⟨dirs, last, rfl⟩
  · cases h
  · simp only [List.getLast?_concat, List.dropLast_concat, Except.ok.injEq] at h
    subst h
    obtain ⟨-, -, -, hchars⟩ := isSafeName_iff.1 (hsafe last (by simp))
    have hsep : '/' ∉ last.toList := fun hmem => (hchars _ hmem).1 rfl
    obtain ⟨hne, hsep, hdot, hdotdot⟩ := plain_artifactName hsep
    have hdirs : ∀ name ∈ dirs, isSafeName name = true := fun name hname =>
      hsafe name (List.mem_append_left _ hname)
    obtain ⟨hnames, habs⟩ := names_joinAll hdirs directory
    have hartifact : artifactNames (dirs ++ [last]) =
        dirs ++ [last ++ Conventions.artifactSuffix] := by
      simp [artifactNames]
    rw [hartifact]
    refine ⟨?_, ?_, fun x hx => ?_, ?_, by simp⟩
    · rw [FilePath.names_join hne hsep, hnames, List.append_assoc]
    · rw [FilePath.isAbsolute_join hne hsep, habs]
    · rcases List.mem_append.1 hx with hx | hx
      · obtain ⟨-, hdot, hdotdot, -⟩ := isSafeName_iff.1 (hdirs x hx)
        exact ⟨hdot, hdotdot⟩
      · rw [List.mem_singleton.1 hx]
        exact ⟨hdot, hdotdot⟩
    · have := FilePath.getLast?_join hne hsep (p := directory.joinAll dirs)
      simpa [Disk.endsInSeparator] using this

end Gate

/-! ## Plain ways -/

namespace Disk

/-- No name of the way leads back, and none is that of a link. -/
structure PlainWay (d : Disk) (top : Place) (names : List String) : Prop where
  plain : ∀ x ∈ names, x ≠ "." ∧ x ≠ ".."
  no_link : ∀ ms, ms ≠ [] → ms <+: names → ∀ target, d.find? (top ++ ms) ≠ some (.link target)

theorem PlainWay.tail {d : Disk} {top : Place} {x : String} {names : List String}
    (h : PlainWay d top (x :: names)) : PlainWay d (top ++ [x]) names where
  plain y hy := h.plain y (List.mem_cons_of_mem _ hy)
  no_link ms _ hms target := by
    have := h.no_link (x :: ms) (List.cons_ne_nil _ _) ((List.prefix_cons_inj x).2 hms) target
    rwa [List.append_assoc, List.singleton_append]

theorem PlainWay.take {d : Disk} {top : Place} {names ms : List String}
    (h : PlainWay d top names) (hms : ms <+: names) : PlainWay d top ms where
  plain x hx := h.plain x (hms.subset hx)
  no_link ms' hne hms' := h.no_link ms' hne (hms'.trans hms)

/-- A plain way leads where its names say. -/
theorem PlainWay.eq_of_goes {d : Disk} {names : List String} {n : Nat} {q : Place} :
    ∀ {top : Place}, PlainWay d top names → d.Goes top names n q → q = top ++ names := by
  induction names with
  | nil =>
    intro top _ hgo
    cases hgo
    exact (List.append_nil _).symm
  | cons x names ih =>
    intro top h hgo
    obtain ⟨hdot, hdotdot⟩ := h.plain x List.mem_cons_self
    cases hgo with
    | dot _ => exact absurd rfl hdot
    | dotdot _ => exact absurd rfl hdotdot
    | enter _ _ hgo => rw [ih h.tail hgo, List.append_assoc, List.singleton_append]
    | jump _ hfind _ _ =>
      exact absurd hfind (h.no_link [x] (List.cons_ne_nil _ _) (List.prefix_append [x] names) _)

/-- And a walk over it comes to an end at its own place. -/
theorem PlainWay.eq_of_walk {d : Disk} {names : List String} {links : Nat} {place : Place}
    {node : DiskNode} : ∀ {top : Place}, PlainWay d top names → d.find? top = some .directory →
      d.walk true links top names = .ok (.there place node) →
      place = top ++ names ∧ d.find? place = some node ∧ ∀ x ∈ names, IsEntry x := by
  induction names with
  | nil =>
    intro top _ htop hwalk
    rw [walk] at hwalk
    cases hwalk
    exact ⟨(List.append_nil _).symm, htop, by simp⟩
  | cons x names ih =>
    intro top h _ hwalk
    obtain ⟨hdot, hdotdot⟩ := h.plain x List.mem_cons_self
    rw [walk, if_neg hdot, if_neg hdotdot] at hwalk
    split at hwalk
    · cases hwalk
    next hlong =>
    have hx : IsEntry x := ⟨hdot, hdotdot, by simpa using hlong⟩
    cases hfind : d.find? (top ++ [x]) with
    | none =>
      simp only [hfind] at hwalk
      split at hwalk <;> cases hwalk
    | some found =>
      cases found with
      | directory =>
        simp only [hfind] at hwalk
        obtain ⟨rfl, hplace, hnames⟩ := ih h.tail hfind hwalk
        rw [List.append_assoc, List.singleton_append] at hplace ⊢
        exact ⟨rfl, hplace, List.forall_mem_cons.2 ⟨hx, hnames⟩⟩
      | file content time =>
        simp only [hfind] at hwalk
        split at hwalk
        · next hlast =>
          rw [List.isEmpty_iff] at hlast
          cases hwalk
          rw [hlast]
          exact ⟨rfl, hfind, by simpa using hx⟩
        · cases hwalk
      | link target =>
        exact absurd hfind (h.no_link [x] (List.cons_ne_nil _ _) (List.prefix_append [x] names) _)

/-! ## Shelves -/

/-- The path leads to `top`, and on by the names `rest` as far as they are there; no link stands on
the rest of the way or behind it. -/
structure Shelf (d : Disk) (p : FilePath) (top : Place) (rest : List String) : Prop where
  way : ∃ front n, p.names = front ++ rest ∧ n ≤ linkLimit ∧ d.Goes (d.start p.text) front n top
  plain : ∀ x ∈ rest, x ≠ "." ∧ x ≠ ".."
  no_link : ∀ names, names ≠ [] → names <+: rest ∨ rest <+: names →
    ∀ target, d.find? (top ++ names) ≠ some (.link target)

section Shelf
variable {d : Disk} {p : FilePath} {top : Place} {rest : List String} (h : d.Shelf p top rest)

include h

theorem Shelf.of_extends {d' : Disk} (hext : Extends d d') : d'.Shelf p top rest where
  way := by
    obtain ⟨front, n, hnames, hn, hgo⟩ := h.way
    exact ⟨front, n, hnames, hn, by rw [hext.start_eq]; exact hext.goes hgo⟩
  plain := h.plain
  no_link names hne hnames target hlink :=
    h.no_link names hne hnames target (hext.link_of hlink)

variable {path : FilePath} {tail : List String} (hpath : p.Below path tail)

include hpath

theorem Shelf.plainWay : PlainWay d top (rest ++ tail) where
  plain x hx := by
    rcases List.mem_append.1 hx with hx | hx
    · exact h.plain x hx
    · exact hpath.plain x hx
  no_link ms hne hms :=
    h.no_link ms hne <| List.prefix_or_prefix_of_prefix hms (List.prefix_append rest tail)

/-- What the path of an artifact leads to stands at its own place. -/
theorem Shelf.eq_of_status (hd : d.Sound) {place : Place} {node : DiskNode}
    (hstatus : d.status path = .ok (place, node)) :
    place = top ++ (rest ++ tail) ∧ d.find? place = some node ∧ ∀ x ∈ rest ++ tail, IsEntry x := by
  obtain ⟨front, n, hnames, hn, hgo⟩ := h.way
  have htop := hgo.find?_eq hd (find?_start hd _)
  rw [← start_eq_of_isAbsolute d hpath.isAbsolute_eq.symm] at hgo
  have hwalk := hgo.walk_append (rest ++ tail) linkLimit
  rw [if_pos hn, ← List.append_assoc, ← hnames, ← hpath.names_eq, FilePath.names] at hwalk
  obtain ⟨-, hall⟩ := status_ok hstatus
  simp only [steps, hpath.closed, Bool.false_eq_true, if_false, List.append_nil, hwalk] at hall
  exact (h.plainWay hpath).eq_of_walk htop hall

/-- And the path leads to a file that stands there. -/
theorem Shelf.status_eq (hd : d.Sound) (hcheck : checkPath path.text = .ok ())
    (hentry : ∀ x ∈ rest ++ tail, IsEntry x) {content : Content} {time : Time}
    (hfind : d.find? (top ++ (rest ++ tail)) = some (.file content time)) :
    d.status path = .ok (top ++ (rest ++ tail), .file content time) := by
  obtain ⟨front, n, hnames, hn, hgo⟩ := h.way
  obtain ⟨dirs, last, rfl⟩ := (List.eq_nil_or_concat' tail).resolve_left hpath.ne_nil
  rw [← List.append_assoc, ← List.append_assoc] at hfind ⊢
  have habove : d.find? (top ++ (rest ++ dirs)) = some .directory := by
    rw [← List.append_assoc]
    exact hd.parent _ last (by rw [hfind]; rfl)
  have hdirs : ∀ x ∈ rest ++ dirs, IsEntry x := fun x hx => hentry x (by
    rw [← List.append_assoc]
    exact List.mem_append_left _ hx)
  have hway := hgo.append (hd.goes hdirs habove)
  rw [← start_eq_of_isAbsolute d hpath.isAbsolute_eq.symm, ← List.append_assoc top] at hway
  exact status_of_file hcheck hpath.closed
    (by rw [hpath.names_eq, hnames]; simp) (hentry last (by simp)) hn hway hfind

/-- The names of an artifact's path lead to its place. -/
theorem Shelf.place_eq_of_goes {front : List String} {name : String} {n : Nat} {q : Place}
    (hnames : path.names = front ++ [name]) (hgo : d.Goes (d.start path.text) front n q) :
    q ++ [name] = top ++ (rest ++ tail) := by
  obtain ⟨front', m, hnames', -, hgo'⟩ := h.way
  obtain ⟨dirs, last, rfl⟩ := (List.eq_nil_or_concat' tail).resolve_left hpath.ne_nil
  rw [hpath.names_eq, hnames', ← List.append_assoc, List.append_assoc front'] at hnames
  obtain ⟨hfront, hlast⟩ := List.append_inj' hnames rfl
  rw [← hfront, start_eq_of_isAbsolute d hpath.isAbsolute_eq.symm] at hgo
  obtain ⟨_, _, mid, -, hway, hrest⟩ := hgo.split
  obtain rfl := hgo'.unique hway
  have hplain : PlainWay d top (rest ++ dirs) :=
    (h.plainWay hpath).take ⟨[last], by rw [List.append_assoc]⟩
  rw [hplain.eq_of_goes hrest, List.append_assoc, List.append_assoc, ← hlast]

omit hpath in
/-- A file on a shelf leaves the way to it as it is. -/
theorem Shelf.put {q : Place} {content : Content} {time : Time} (hq : q ≠ [])
    (hkeeps : Keeps d (d.put q (.file content time))) :
    (d.put q (.file content time)).Shelf p top rest where
  way := by
    obtain ⟨front, n, hnames, hn, hgo⟩ := h.way
    exact ⟨front, n, hnames, hn, hgo.mono hkeeps⟩
  plain := h.plain
  no_link names hne hnames target := by
    by_cases he : top ++ names = q
    · rw [he, find?_put d q _ hq]
      exact nofun
    · rw [find?_put_of_ne _ _ _ _ he]
      exact h.no_link names hne hnames target

omit h in
/-- A store for one artifact, where the directories above it make a shelf. -/
theorem Shelf.store_of_ensured (hd : d.Sound) {d' : Disk} {text : String}
    (hensured : (d.ensureDirectory (homeOf path)).2.Shelf p top rest)
    (hstore : d.store path text = (.ok (), d')) :
    d'.status path = .ok (top ++ (rest ++ tail), .file (.text text) d.stamp) ∧
    d'.find? (top ++ (rest ++ tail)) = some (.file (.text text) d.stamp) ∧
    (∀ place node, place ≠ top ++ (rest ++ tail) → d.find? place = some node →
      d'.find? place = some node) ∧
    d'.Shelf p top rest := by
  obtain ⟨made, hmade, hcheck, hsep, front, name, n, q, hnames, hname, hn, hgo, hdir, rfl⟩ :=
    store_ok hd hstore
  have hext := extends_ensureDirectory d (homeOf path)
  have hstamp := stamp_ensureDirectory d (homeOf path)
  rw [hmade] at hext hstamp hensured
  have htime : made.stamp = d.stamp := hstamp
  have hshelf : made.tick.2.Shelf p top rest := hensured.of_extends (.tick made)
  rw [← goes_tick] at hgo
  have hq : q ++ [name] = top ++ (rest ++ tail) := hshelf.place_eq_of_goes hpath hnames hgo
  have hne : q ++ [name] ≠ [] := by simp
  have hlink : ∀ target, made.tick.2.find? (q ++ [name]) ≠ some (.link target) := by
    rw [hq]
    exact hshelf.no_link (rest ++ tail) (by simp [hpath.ne_nil])
      (Or.inr (List.prefix_append rest tail))
  have hkeeps : Keeps made.tick.2
      (made.tick.2.put (q ++ [name]) (.file (.text text) made.stamp)) := keeps_put hdir hlink
  have hfind := find?_put made.tick.2 _ (.file (.text text) made.stamp) hne
  have hstatus := status_of_file hcheck hsep hnames hname hn (hgo.mono hkeeps) hfind
  rw [← hq, ← htime]
  refine ⟨hstatus, hfind, fun place node hplace hnode => ?_, hshelf.put hne hkeeps⟩
  rw [find?_put_of_ne _ _ _ _ hplace]
  exact hext.kept place node hnode

/-- **A store for one artifact** puts it at its place, where its path leads, and leaves alone what is
elsewhere. -/
theorem Shelf.store (hd : d.Sound) {d' : Disk} {text : String}
    (hstore : d.store path text = (.ok (), d')) :
    d'.status path = .ok (top ++ (rest ++ tail), .file (.text text) d.stamp) ∧
    d'.find? (top ++ (rest ++ tail)) = some (.file (.text text) d.stamp) ∧
    (∀ place node, place ≠ top ++ (rest ++ tail) → d.find? place = some node →
      d'.find? place = some node) ∧
    d'.Shelf p top rest :=
  Shelf.store_of_ensured hpath hd (h.of_extends (extends_ensureDirectory d (homeOf path))) hstore

omit h hpath in
/-- A shelf that is there after a store was there as soon as the directories were made, if it held
no link before. -/
theorem Shelf.ensured (hd : d.Sound) {d' : Disk} {text : String}
    (hstore : d.store path text = (.ok (), d')) (hshelf : d'.Shelf p top rest)
    (hlink : ∀ names, names ≠ [] → names <+: rest ∨ rest <+: names →
      ∀ target, d.find? (top ++ names) ≠ some (.link target)) :
    (d.ensureDirectory (homeOf path)).2.Shelf p top rest := by
  obtain ⟨made, hmade, -, -, front, name, n, q, -, -, -, -, -, rfl⟩ := store_ok hd hstore
  have hext := extends_ensureDirectory d (homeOf path)
  rw [hmade] at hext ⊢
  constructor
  · obtain ⟨front', m, hnames, hm, hgo⟩ := hshelf.way
    exact ⟨front', m, hnames, hm, goes_tick.1 (hgo.of_put (by simp))⟩
  · exact hshelf.plain
  · exact fun names hne hnames target hfind =>
      hlink names hne hnames target (hext.link_of hfind)

end Shelf

/-- A store that fails may have made directories. -/
theorem extends_of_store_error {d d' : Disk} (hd : d.Sound) {p : FilePath} {text : String}
    {e : Report} (h : d.store p text = (.error e, d')) : Extends d d' := by
  have hext := extends_ensureDirectory d (homeOf p)
  rcases store_error hd h with rfl | rfl
  · exact hext
  · exact hext.trans (.tick _)

end Disk

/-! ## Well-formed disks -/

theorem Association.map_fst_assign {α β : Type} [BEq α] [LawfulBEq α] (k : α) (v : β)
    (pairs : List (α × β)) : (assign k v pairs).map Prod.fst =
      if k ∈ pairs.map Prod.fst then pairs.map Prod.fst else pairs.map Prod.fst ++ [k] := by
  induction pairs with
  | nil => rfl
  | cons pair pairs ih =>
    obtain ⟨l, w⟩ := pair
    rw [assign]
    by_cases hl : l = k
    · simp [hl]
    · rw [if_neg (by simpa using hl), List.map_cons, ih, List.map_cons]
      by_cases hk : k ∈ pairs.map Prod.fst
      · rw [if_pos hk, if_pos (List.mem_cons_of_mem _ hk)]
      · rw [if_neg hk, if_neg (by simpa [Ne.symm hl] using hk), List.cons_append]

namespace Disk

theorem isEntryName_of_mem_names {p : FilePath} {name : String} (h : name ∈ p.names) :
    IsEntryName name := by
  rw [FilePath.names, Text.cutNonempty, List.mem_filter] at h
  obtain ⟨hcut, hne⟩ := h
  obtain ⟨piece, hpiece, rfl⟩ := List.mem_map.1 hcut
  refine ⟨by simpa using hne, ?_⟩
  rw [String.toList_ofList]
  exact Text.not_mem_of_mem_pieces '/' p.text.toList piece hpiece

theorem WellFormed.put {d : Disk} (hd : d.WellFormed) {q : Place} {name : String}
    (hq : d.find? q = some .directory) (hname : IsEntryName name) (node : DiskNode) :
    (d.put (q ++ [name]) node).WellFormed := by
  have hplaces : (d.put (q ++ [name]) node).nodes.map Prod.fst =
      if q ++ [name] ∈ d.nodes.map Prod.fst then d.nodes.map Prod.fst
      else d.nodes.map Prod.fst ++ [q ++ [name]] := Association.map_fst_assign _ _ _
  have hnames : ∀ x ∈ q ++ [name], IsEntryName x := by
    intro x hx
    rcases List.mem_append.1 hx with hx | hx
    · rcases List.eq_nil_or_concat' q with rfl | ⟨front, last, rfl⟩
      · cases hx
      · have hmem := (mem_nodes_iff hd (by simp) _).2 hq
        exact hd.isEntryName _ (List.mem_map_of_mem hmem) x hx
    · rw [List.mem_singleton.1 hx]
      exact hname
  constructor
  · rw [hplaces]
    split
    · exact hd.places_nodup
    · next hnew =>
      rw [List.nodup_append]
      refine ⟨hd.places_nodup, List.nodup_singleton _, fun place hplace x hx he => hnew ?_⟩
      rwa [← List.mem_singleton.1 hx, ← he]
  · rw [hplaces]
    split
    · exact hd.isEntryName
    · intro place hplace
      rcases List.mem_append.1 hplace with hplace | hplace
      · exact hd.isEntryName place hplace
      · rw [List.mem_singleton.1 hplace]
        exact hnames

theorem WellFormed.tick {d : Disk} (hd : d.WellFormed) : d.tick.2.WellFormed :=
  ⟨hd.places_nodup, hd.isEntryName⟩

theorem WellFormed.makeDirectory {d d' : Disk} (hs : d.Sound) (hd : d.WellFormed) {p : FilePath}
    (h : d.makeDirectory p = .ok d') : d'.WellFormed := by
  obtain ⟨front, name, n, q, hnames, -, -, hgo, -, rfl⟩ := makeDirectory_ok h
  exact hd.put (hgo.find?_eq hs (find?_start hs _))
    (isEntryName_of_mem_names (by rw [hnames]; simp)) _

theorem WellFormed.store {d : Disk} (hs : d.Sound) (hd : d.WellFormed) (p : FilePath)
    (text : String) : (d.store p text).2.WellFormed := by
  have hmade : (d.ensureDirectory (homeOf p)).2.Sound ∧
      (d.ensureDirectory (homeOf p)).2.WellFormed :=
    ensureDirectory_keeps (P := fun d => d.Sound ∧ d.WellFormed)
      (fun _ _ _ _ hd hmade => ⟨hd.1.makeDirectory hmade, hd.2.makeDirectory hd.1 hmade⟩) ⟨hs, hd⟩
  cases hstore : d.store p text with
  | mk result d' =>
    cases result with
    | error e =>
      rcases store_error hs hstore with rfl | rfl
      · exact hmade.2
      · exact hmade.2.tick
    | ok u =>
      obtain ⟨made, heq, -, -, front, name, n, q, hnames, -, -, hgo, -, rfl⟩ := store_ok hs hstore
      rw [heq] at hmade
      exact hmade.2.tick.put (hgo.find?_eq hmade.1 (find?_start hmade.1 _))
        (isEntryName_of_mem_names (by rw [hnames]; simp)) _

end Disk

end TemplateBundler
