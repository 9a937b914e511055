import TemplateBundler.Proofs.Chart
import TemplateBundler.Proofs.Making
import TemplateBundler.Proofs.OutputPaths
import TemplateBundler.Proofs.Runs

/-!
# Artifacts beside each other

A key path names a file, with a suffix on its last name, and directories, without one. Two artifacts
get in each other's way where a name on the way to the one is that of the other with the suffix on:

    k.Blocks k' ↔ the file of k stands where k' needs a directory        (prefix_iff_blocks)

Into an empty public directory both can be stored, in either order and each with its own script,
exactly where neither is in the way of the other (`storesBoth_iff`). The first one always can; what
the second one finds on its way is what the first one left there, and nothing else (`Placed`).
-/

namespace TemplateBundler

/-- The file of the first key path stands where the second one needs a directory. -/
def KeyPath.Blocks (k k' : KeyPath) : Prop :=
  ∃ front name more, more ≠ [] ∧ k.segments = front ++ [name] ∧
    k'.segments = front ++ (name ++ Conventions.artifactSuffix) :: more

theorem append_suffix_ne (name : String) : name ++ Conventions.artifactSuffix ≠ name := by
  intro h
  have hlen := congrArg String.length h
  have hsuffix : Conventions.artifactSuffix.length = 3 := by decide
  rw [String.length_append, hsuffix] at hlen
  omega

/-- A prefix names directories of both paths, so it cannot tell the two key paths apart. -/
theorem prefix_iff_blocks {k k' : KeyPath} {leading dirs dirs' : List String} {last last' : String}
    (hnames : leading ++ k.segments = dirs ++ [last])
    (hnames' : leading ++ k'.segments = dirs' ++ [last']) :
    dirs ++ [last ++ Conventions.artifactSuffix] <+: dirs' ↔ k.Blocks k' := by
  constructor
  · rintro ⟨more, rfl⟩
    rcases List.eq_nil_or_concat' k.segments with hnil | ⟨front, name, hk⟩
    · -- the root is named by the last name of the prefix alone
      rw [hnil, List.append_nil] at hnames
      rw [hnames] at hnames'
      simp only [List.append_assoc, List.singleton_append] at hnames'
      have hlast := (List.cons.inj (List.append_cancel_left hnames')).1
      exact absurd hlast.symm (append_suffix_ne last)
    · rw [hk, ← List.append_assoc] at hnames
      obtain ⟨hdirs, hlast⟩ := List.append_inj' hnames rfl
      rw [← hdirs] at hnames'
      simp only [List.append_assoc] at hnames'
      refine ⟨front, name, more ++ [last'], by simp, hk, ?_⟩
      rw [List.append_cancel_left hnames', List.singleton_inj.1 hlast]
      rfl
  · rintro ⟨front, name, more, hne, hk, hk'⟩
    obtain ⟨more, y, rfl⟩ := (List.eq_nil_or_concat' more).resolve_left hne
    rw [hk, ← List.append_assoc] at hnames
    obtain ⟨hdirs, hlast⟩ := List.append_inj' hnames rfl
    have hsplit : leading ++ k'.segments =
        (leading ++ front ++ [name ++ Conventions.artifactSuffix] ++ more) ++ [y] := by
      rw [hk']
      simp
    rw [hsplit] at hnames'
    obtain ⟨hdirs', -⟩ := List.append_inj' hnames' rfl
    rw [← hdirs, ← hdirs', ← List.singleton_inj.1 hlast]
    exact List.prefix_append _ _

namespace Disk

/-- Nothing stands below an empty directory. -/
theorem Sound.find?_below {d : Disk} (hd : d.Sound) {top : Place}
    (hempty : ∀ name, d.find? (top ++ [name]) = none) {names : List String} (hne : names ≠ []) :
    d.find? (top ++ names) = none := by
  obtain ⟨x, rest, rfl⟩ := List.exists_cons_of_ne_nil hne
  rw [← List.singleton_append, ← List.append_assoc]
  exact hd.find?_append (hempty x) rest

section Second
variable {d d' : Disk} {top : Place} {dirs dirs' : List String} {name name' text : String}
  (hd : d.Sound) (hempty : ∀ x, d.find? (top ++ [x]) = none)
  (hplaced : Placed d d' top dirs name text)

include hd hempty hplaced

/-- Below a directory that was empty there is what was stored. -/
theorem find?_of_placed {names : List String} (hne : names ≠ [])
    (hpre : ¬ names <+: dirs ++ [name]) :
    d'.find? (top ++ names) = none := by
  rw [hplaced.other _ fun ns _ hns heq => ?_]
  · exact hd.find?_below hempty hne
  · rw [List.append_cancel_left heq] at hpre
    exact hpre hns

/-- The way to another file is open, unless it goes through the first one. -/
theorem openWay_of_placed (hblocks : ¬ dirs ++ [name] <+: dirs') : d'.OpenWay top dirs' := by
  intro ns hne hns
  by_cases hpre : ns <+: dirs ++ [name]
  · rcases List.prefix_concat_iff.1 hpre with rfl | hpre
    · exact absurd hns hblocks
    · exact Or.inr (hplaced.sound.above hpre hplaced.above)
  · exact Or.inl (find?_of_placed hd hempty hplaced hne hpre)

/-- And its end is free, unless it is one of the directories above the first one. -/
theorem free_of_placed (hother : dirs' ++ [name'] ≠ dirs ++ [name])
    (hblocks : ¬ dirs' ++ [name'] <+: dirs) : d'.find? (top ++ (dirs' ++ [name'])) = none := by
  refine find?_of_placed hd hempty hplaced (by simp) fun hpre => ?_
  rcases List.prefix_concat_iff.1 hpre with heq | hpre
  · exact hother heq
  · exact hblocks hpre

end Second

section Blocked
variable {d : Disk} (hd : d.Sound) {directory path : FilePath} {dirs : List String} {name : String}
  {top : Place} (hreached : d.Reached directory top) (hpath : directory.Below path (dirs ++ [name]))
  (hfit : Fits path)

include hd hreached hpath hfit

/-- No artifact is looked for below a file, -/
theorem storedAt_of_file {front : List String} {x : String} {content : Content} {time : Time}
    (hfile : d.find? (top ++ (front ++ [x])) = some (.file content time))
    (hpre : front ++ [x] <+: dirs) (existing : Option Time) : d.storedAt path ≠ .ok existing := by
  obtain ⟨n, hn, hgo⟩ := hreached
  obtain ⟨more, rfl⟩ := hpre
  have hentry := isEntry_of_below hpath hfit
  have hx : IsEntry x := hentry x (by simp)
  rw [← List.append_assoc] at hfile
  have habove : d.find? (top ++ front) = some .directory :=
    hd.parent _ x (by rw [hfile]; rfl)
  have hway := hgo.append (hd.goes (fun y hy => hentry y (by simp [hy])) habove)
  rw [← start_eq_of_isAbsolute d hpath.isAbsolute_eq.symm] at hway
  have hwalk := hway.walk_append (x :: (more ++ [name])) linkLimit
  have hnames : directory.names ++ front ++ x :: (more ++ [name]) = path.names := by
    rw [hpath.names_eq]
    simp
  have hlast : (more ++ [name]).isEmpty = false := by simp
  rw [hnames, if_pos (by omega), walk, if_neg hx.ne_dot, if_neg hx.ne_dotdot,
    if_neg (by rw [hx.not_long]; exact Bool.false_ne_true)] at hwalk
  simp only [hfile, hlast, Bool.false_eq_true, if_false] at hwalk
  rw [FilePath.names] at hwalk
  have hcheck := checkPath_of_below hpath hfit
  have hne : Fault.notDirectory ≠ Fault.missing := by decide
  simp only [storedAt, status, locate, hcheck, steps, hpath.closed, Bool.false_eq_true, if_false,
    List.append_nil, hwalk, bind, Except.bind, hne]
  intro h
  cases h

/-- nor in the place of a directory. -/
theorem storedAt_of_directory (hdir : d.find? (top ++ (dirs ++ [name])) = some .directory)
    (existing : Option Time) : d.storedAt path ≠ .ok existing := by
  obtain ⟨n, hn, hgo⟩ := hreached
  have hway := hgo.append (hd.goes (isEntry_of_below hpath hfit) hdir)
  rw [← start_eq_of_isAbsolute d hpath.isAbsolute_eq.symm, ← hpath.names_eq] at hway
  have hstatus := status_of_reached (checkPath_of_below hpath hfit) ⟨n + 0, by omega, hway⟩
  simp only [storedAt, hstatus]
  intro h
  cases h

end Blocked

end Disk

namespace Gate

/-- The artifacts of two units are stored, one after the other, and both can be read. -/
def StoresBoth (g : Gate) (d : Disk) (t : UnitTree) (i : Nat) (k : KeyPath) (i' : Nat)
    (k' : KeyPath) : Prop :=
  ∃ path path' d₁ d₂, g.serve d t i k = (.ok (.stored path .rebuilt), g, d₁) ∧
    g.serve d₁ t i' k' = (.ok (.stored path' .rebuilt), g, d₂) ∧
    d₂.readText path = .ok (Artifact.script t i g.global) ∧
    d₂.readText path' = .ok (Artifact.script t i' g.global)

section Both
variable {g : Gate} {directory : FilePath} (hg : g.delivery = .persist directory)

include hg

/-- An artifact is stored where its way is free. -/
theorem exists_serve_free {d : Disk} (hd : d.Sound) (hreliable : d.Reliable) {top : Place}
    (hreached : d.Reached directory top) (t : UnitTree) (i : Nat) {k : KeyPath} {path : FilePath}
    (hk : g.storedPath directory k = .ok path) {dirs : List String} {name : String}
    (hpath : directory.Below path (dirs ++ [name])) (hfit : Disk.Fits path)
    (hopen : d.OpenWay top dirs) (hfree : d.find? (top ++ (dirs ++ [name])) = none) :
    ∃ d', g.serve d t i k = (.ok (.stored path .rebuilt), g, d') ∧
      Disk.Placed d d' top dirs name (Artifact.script t i g.global) := by
  obtain ⟨d', hstore, hplaced⟩ :=
    Disk.exists_store_free hd hreached hpath hfit hopen hfree hreliable
      (Artifact.script t i g.global)
  have hexisting := Disk.storedAt_of_free hreached hpath hfit hopen hfree
  exact ⟨d', serve_of_store hg hk hexisting rfl hstore, hplaced⟩

/-- What the disk refuses to look up is not stored. -/
theorem exists_serve_error {d : Disk} (t : UnitTree) (i : Nat) {k : KeyPath} {path : FilePath}
    (hk : g.storedPath directory k = .ok path)
    (hstored : ∀ existing, d.storedAt path ≠ .ok existing) :
    ∃ e, (g.serve d t i k).1 = .error e := by
  cases hexisting : d.storedAt path with
  | ok existing => exact absurd hexisting (hstored existing)
  | error e => exact ⟨e, by simp only [serve, hg, hk, persist, hexisting]⟩

variable {d : Disk} (hd : d.Sound) (hreliable : d.Reliable) (hfresh : d.Fresh directory)
  (t : UnitTree) (i i' : Nat)
  {k k' : KeyPath} {path path' : FilePath} (hk : g.outputPath k = .ok (some path))
  (hk' : g.outputPath k' = .ok (some path')) (hfit : Disk.Fits path) (hfit' : Disk.Fits path')

include hd hreliable hfresh hk hfit

/-- The first artifact is stored, as nothing stands below the public directory. -/
theorem exists_serve_first : ∃ dirs last top d₁, g.leading ++ k.segments = dirs ++ [last] ∧
    directory.Below path (dirs ++ [last ++ Conventions.artifactSuffix]) ∧
    d.Reached directory top ∧ (∀ x, d.find? (top ++ [x]) = none) ∧
    g.serve d t i k = (.ok (.stored path .rebuilt), g, d₁) ∧
    Disk.Placed d d₁ top dirs (last ++ Conventions.artifactSuffix)
      (Artifact.script t i g.global) := by
  have hpath := (outputPath_persist hg).1 hk
  obtain ⟨dirs, last, hnames, hbelow⟩ := exists_below hpath
  obtain ⟨top, hreached, hempty⟩ := hfresh
  have hopen : d.OpenWay top dirs := fun ns hns _ => Or.inl (hd.find?_below hempty hns)
  obtain ⟨d₁, hserve, hplaced⟩ := exists_serve_free hg hd hreliable hreached t i hpath hbelow hfit hopen
    (hd.find?_below hempty (by simp))
  exact ⟨dirs, last, top, d₁, hnames, hbelow, hreached, hempty, hserve, hplaced⟩

include hk' hfit'

/-- The second artifact is refused where the one is in the way of the other. -/
theorem exists_serve_error_of_blocks (hblocks : k.Blocks k' ∨ k'.Blocks k) :
    ∃ d₁ e, g.serve d t i k = (.ok (.stored path .rebuilt), g, d₁) ∧
      (g.serve d₁ t i' k').1 = .error e := by
  obtain ⟨dirs, last, top, d₁, hnames, hbelow, hreached, hempty, hserve, hplaced⟩ :=
    exists_serve_first hg hd hreliable hfresh t i hk hfit
  have hpath' := (outputPath_persist hg).1 hk'
  obtain ⟨dirs', last', hnames', hbelow'⟩ := exists_below hpath'
  have hreached₁ := hplaced.reached _ _ hreached
  obtain ⟨time, hfile⟩ := hplaced.file
  have hrefused : ∀ existing, d₁.storedAt path' ≠ .ok existing := by
    rcases hblocks with hblock | hblock
    · have hpre := (prefix_iff_blocks hnames hnames').2 hblock
      exact Disk.storedAt_of_file hplaced.sound hreached₁ hbelow' hfit' hfile hpre
    · have hpre := (prefix_iff_blocks hnames' hnames).2 hblock
      have hdir := hplaced.sound.above hpre hplaced.above
      exact Disk.storedAt_of_directory hplaced.sound hreached₁ hbelow' hfit' hdir
  obtain ⟨e, he⟩ := exists_serve_error hg t i' hpath' hrefused
  exact ⟨d₁, e, hserve, he⟩

/-- And it is stored beside the first one where neither is in the way of the other. -/
theorem storesBoth_of_not_blocks (hne : k ≠ k') (hnot : ¬ k.Blocks k') (hnot' : ¬ k'.Blocks k) :
    g.StoresBoth d t i k i' k' := by
  obtain ⟨dirs, last, top, d₁, hnames, hbelow, hreached, hempty, hserve, hplaced⟩ :=
    exists_serve_first hg hd hreliable hfresh t i hk hfit
  have hpath' := (outputPath_persist hg).1 hk'
  obtain ⟨dirs', last', hnames', hbelow'⟩ := exists_below hpath'
  rw [← prefix_iff_blocks hnames hnames'] at hnot
  rw [← prefix_iff_blocks hnames' hnames] at hnot'
  have hother : dirs' ++ [last' ++ Conventions.artifactSuffix] ≠
      dirs ++ [last ++ Conventions.artifactSuffix] := by
    intro heq
    obtain ⟨hdirs, hlast⟩ := List.append_inj' heq rfl
    have hlast := List.singleton_inj.1 hlast
    rw [String.append_left_inj] at hlast
    have hsegments : g.leading ++ k.segments = g.leading ++ k'.segments := by
      rw [hnames, hnames', hdirs, hlast]
    have hsegments := List.append_cancel_left hsegments
    cases k
    cases k'
    exact hne (congrArg KeyPath.mk hsegments)
  have hreached₁ := hplaced.reached _ _ hreached
  obtain ⟨time, hfile⟩ := hplaced.file
  have hopen' := Disk.openWay_of_placed hd hempty hplaced hnot
  have hfree' := Disk.free_of_placed hd hempty hplaced hother hnot'
  obtain ⟨d₂, hserve', hplaced'⟩ :=
    exists_serve_free hg hplaced.sound hplaced.reliable hreached₁ t i' hpath' hbelow' hfit' hopen'
      hfree'
  have hreached₂ := hplaced'.reached _ _ hreached₁
  obtain ⟨time', hfile'⟩ := hplaced'.file
  -- the first file is on no way to the second
  have hkept : d₂.find? (top ++ (dirs ++ [last ++ Conventions.artifactSuffix])) =
      some (.file (.text (Artifact.script t i g.global)) time) := by
    rw [hplaced'.other _ fun ns _ hns heq => ?_]
    · exact hfile
    · rw [← List.append_cancel_left heq] at hns
      rcases List.prefix_concat_iff.1 hns with heq | hpre
      · exact hother heq.symm
      · exact hnot hpre
  exact ⟨path, path', d₁, d₂, hserve, hserve',
    Disk.readText_of_placed hplaced'.sound hreached₂ hbelow hfit hkept,
    Disk.readText_of_placed hplaced'.sound hreached₂ hbelow' hfit' hfile'⟩

/-- One order. -/
theorem storesBoth_iff_of_order (hne : k ≠ k') :
    g.StoresBoth d t i k i' k' ↔ ¬ k.Blocks k' ∧ ¬ k'.Blocks k := by
  constructor
  · rintro ⟨p, p', e₁, e₂, hfirst, hsecond, -, -⟩
    rw [← not_or]
    intro hblocks
    obtain ⟨d₁, e, hserve, herror⟩ :=
      exists_serve_error_of_blocks hg hd hreliable hfresh t i i' hk hk' hfit hfit' hblocks
    rw [hserve, Prod.mk.injEq, Prod.mk.injEq] at hfirst
    obtain ⟨-, -, rfl⟩ := hfirst
    rw [hsecond] at herror
    cases herror
  · rintro ⟨hnot, hnot'⟩
    exact storesBoth_of_not_blocks hg hd hreliable hfresh t i i' hk hk' hfit hfit' hne hnot hnot'

/-- **Two artifacts in an empty public directory.** They can be stored together, in the one order
and in the other, exactly where the file of neither stands where the other needs a directory. -/
theorem storesBoth_iff (hne : k ≠ k') :
    (g.StoresBoth d t i k i' k' ↔ ¬ k.Blocks k' ∧ ¬ k'.Blocks k) ∧
      (g.StoresBoth d t i' k' i k ↔ ¬ k.Blocks k' ∧ ¬ k'.Blocks k) := by
  constructor
  · exact storesBoth_iff_of_order hg hd hreliable hfresh t i i' hk hk' hfit hfit' hne
  · rw [storesBoth_iff_of_order hg hd hreliable hfresh t i' i hk' hk hfit' hfit hne.symm]
    exact and_comm

end Both

end Gate

/-! ## A template named like the artifact of another -/

namespace Source

/-- A template `name` and a template `name.js` with a block, and an empty public directory. -/
def namesakes (clock : Time) : Disk where
  nodes := [(["views"], .directory),
    (["views", "name.js.tmpl"], .file (.text "hi\n//-- b.tmpl\nyo") 5),
    (["views", "name.tmpl"], .file (.text "low") 9), (["p"], .directory)]
  workingDirectory := []
  clock := clock

/-- Their tree. -/
def namesakeTree (builtAt : Time) (a b c : Template.Rendering) : UnitTree :=
  let file : FilePath := ⟨"views/name.js.tmpl"⟩
  grown ⟨"views"⟩ builtAt
    [⟨file, "name.js", 5, .template "views/name.js.tmpl" "hi\n" .standard a,
      [("b", .template "views/name.js.tmpl [b]" "yo" .standard b)]⟩,
    ⟨⟨"views/name.tmpl"⟩, "name", 9, .template "views/name.tmpl" "low" .standard c, []⟩] .done

theorem sound_namesakes (clock : Time) : (namesakes clock).Sound := by
  refine Disk.sound_of_nodes ?_ rfl
  simp only [namesakes, List.forall_mem_cons]
  exact ⟨rfl, rfl, rfl, rfl, by simp⟩

theorem wellFormed_namesakes (clock : Time) : (namesakes clock).WellFormed where
  places_nodup := by
    show [["views"], ["views", "name.js.tmpl"], ["views", "name.tmpl"], ["p"]].Nodup
    decide
  isEntryName := by
    show ∀ place ∈ [["views"], ["views", "name.js.tmpl"], ["views", "name.tmpl"], ["p"]],
      ∀ name ∈ place, Disk.IsEntryName name
    unfold Disk.IsEntryName
    decide

theorem status_namesakes (clock : Time) :
    (namesakes clock).status ⟨"views"⟩ = .ok (["views"], .directory) ∧
    (namesakes clock).status ⟨"views/name.js.tmpl"⟩ =
      .ok (["views", "name.js.tmpl"], .file (.text "hi\n//-- b.tmpl\nyo") 5) ∧
    (namesakes clock).status ⟨"views/name.tmpl"⟩ =
      .ok (["views", "name.tmpl"], .file (.text "low") 9) := by
  have hstart : ∀ text, (namesakes clock).start text = [] := fun text => ite_self []
  have hviews : Disk.steps "views" = ["views"] := by decide
  have hfile : Disk.steps "views/name.js.tmpl" = ["views", "name.js.tmpl"] := by decide
  have hfile' : Disk.steps "views/name.tmpl" = ["views", "name.tmpl"] := by decide
  refine ⟨status_of_walk (by decide) hviews ?_,
    status_of_walk (by decide) hfile ?_, status_of_walk (by decide) hfile' ?_⟩
  all_goals
    rw [hstart]
    cbv

/-- A source that compiles is what the renderer carries. -/
theorem exists_rendering [Template.Language] {filename source : String} {flags : CompileFlags}
    (h : (Renderer.compile filename source flags).isOk = true) : ∃ rendering,
      Renderer.compile filename source flags = .ok (.template filename source flags rendering) := by
  unfold Renderer.compile at h ⊢
  split at h
  · cases h
  · split at h
    · next rendering _ => exact ⟨rendering, rfl⟩
    · cases h

theorem build_namesakes (clock : Time) : ∃ a b c,
    build (namesakes clock) smallSettings ⟨"views"⟩ clock = .ok (namesakeTree clock a b c) := by
  obtain ⟨hviews, hfile, hfile'⟩ := status_namesakes clock
  have hsplit : SplitText.ofText "tmpl" "hi\n//-- b.tmpl\nyo" = ⟨"hi\n", [("b", "yo")]⟩ := by cbv
  have hsplit' : SplitText.ofText "tmpl" "low" = ⟨"low", []⟩ := by cbv
  have ha : (Renderer.compile "views/name.js.tmpl" "hi\n" .standard).isOk = true := by cbv
  have hb : (Renderer.compile "views/name.js.tmpl [b]" "yo" .standard).isOk = true := by cbv
  have hc : (Renderer.compile "views/name.tmpl" "low" .standard).isOk = true := by cbv
  obtain ⟨a, ha⟩ := exists_rendering ha
  obtain ⟨b, hb⟩ := exists_rendering hb
  obtain ⟨c, hc⟩ := exists_rendering hc
  obtain ⟨htext, htime⟩ := readText_of_status hfile
  obtain ⟨htext', htime'⟩ := readText_of_status hfile'
  have hlisting : (namesakes clock).listing ["views"] =
      [("name.js.tmpl", .file (.text "hi\n//-- b.tmpl\nyo") 5),
        ("name.tmpl", .file (.text "low") 9)] := by cbv
  have hentries : entries (namesakes clock) "tmpl" ⟨"views"⟩ =
      .ok [("name.js.tmpl", ⟨"views/name.js.tmpl"⟩, .template),
        ("name.tmpl", ⟨"views/name.tmpl"⟩, .template)] := by
    apply entries_of_listing hviews hlisting
    exact .cons (readAs_plain rfl (Or.inr ⟨_, _, rfl, rfl⟩))
      (.cons (readAs_plain rfl (Or.inr ⟨_, _, rfl, rfl⟩)) .nil)
  have hscanned : Scanned (namesakes clock) "tmpl" ⟨"views"⟩
      [templateFile (namesakes clock) ⟨"views"⟩ "name.js.tmpl",
        templateFile (namesakes clock) ⟨"views"⟩ "name.tmpl"] .done := ⟨_, hentries, rfl, rfl⟩
  refine ⟨a, b, c, build_of_scanned (wellFormed_namesakes clock) clock hscanned ?_ rfl⟩
  rw [mapM_eq_ok_iff]
  refine .cons ?_ (.cons ?_ .nil)
  · rw [compileFile_templateFile_iff]
    refine ⟨rfl, rfl, htime.symm, ⟨_, htext⟩, ?_, ?_⟩
    · simp only [splitOf, textOf, htext, smallSettings, hsplit, ha]
    · simp only [splitOf, textOf, htext, smallSettings, hsplit]
      exact .cons ⟨rfl, hb⟩ .nil
  · rw [compileFile_templateFile_iff]
    refine ⟨rfl, rfl, htime'.symm, ⟨_, htext'⟩, ?_, ?_⟩
    · simp only [splitOf, textOf, htext', smallSettings, hsplit', hc]
    · simp only [splitOf, textOf, htext', smallSettings, hsplit']
      exact .nil

end Source

namespace Gate

open Source

theorem not_blocks_of_length {k k' : KeyPath} (h : k'.segments.length ≤ k.segments.length) :
    ¬ k.Blocks k' := by
  rintro ⟨front, name, more, hne, hk, hk'⟩
  have hpos := List.length_pos_of_ne_nil hne
  rw [hk, hk', List.length_append, List.length_append, List.length_cons, List.length_singleton] at h
  omega

/-- A gate that stores below `p`. -/
def plainGate : Gate := .ofSettings (.persist ⟨"p"⟩) "/x" Conventions.globalName false

theorem fresh_namesakes (clock : Time) : (namesakes clock).Fresh ⟨"p"⟩ := by
  have hnames : FilePath.names ⟨"p"⟩ = ["p"] := by decide
  have hstart : (namesakes clock).start "p" = [] := ite_self []
  refine ⟨["p"], ⟨0, Nat.zero_le _, ?_⟩, fun name => ?_⟩
  · rw [hnames, hstart]
    exact .enter ⟨by decide, by decide, by decide⟩ rfl (.nil _)
  · simp [Disk.find?, namesakes, List.lookup_cons]

theorem outputPath_namesakes : plainGate.outputPath ⟨["name"]⟩ = .ok (some ⟨"p/x/name.js"⟩) ∧
    plainGate.outputPath ⟨["name.js"]⟩ = .ok (some ⟨"p/x/name.js.js"⟩) ∧
    plainGate.outputPath ⟨["name.js", "b"]⟩ = .ok (some ⟨"p/x/name.js/b.js"⟩) := by
  decide

theorem fits_namesakes : ∀ text ∈ ["p/x/name.js", "p/x/name.js.js", "p/x/name.js/b.js"],
    Disk.Fits ⟨text⟩ := by
  intro text htext
  have hclean : ∀ text ∈ ["p/x/name.js", "p/x/name.js.js", "p/x/name.js/b.js"],
      (text.toList.all fun c => c.toNat != 0) = true := by decide
  have hroom : ∀ text ∈ ["p/x/name.js", "p/x/name.js.js", "p/x/name.js/b.js"],
      text.utf8ByteSize + 20 < Disk.pathLimit := by decide
  have hshort : ∀ text ∈ ["p/x/name.js", "p/x/name.js.js", "p/x/name.js/b.js"],
      ∀ name ∈ FilePath.names ⟨text⟩, Disk.isLongName name = false := by decide
  refine ⟨fun c hc => ?_, hroom text htext, hshort text htext⟩
  simpa using List.all_eq_true.1 (hclean text htext) c hc

theorem storesBoth_namesakes : ∃ t, build (namesakes 100) smallSettings ⟨"views"⟩ 100 = .ok t ∧
    t.resolve ⟨["name"]⟩ = some 3 ∧ t.resolve ⟨["name.js"]⟩ = some 1 ∧
    plainGate.StoresBoth (namesakes 100) t 3 ⟨["name"]⟩ 1 ⟨["name.js"]⟩ ∧
    plainGate.StoresBoth (namesakes 100) t 1 ⟨["name.js"]⟩ 3 ⟨["name"]⟩ := by
  obtain ⟨a, b, c, hb⟩ := build_namesakes 100
  obtain ⟨hk, hk', -⟩ := outputPath_namesakes
  have hboth := storesBoth_iff (g := plainGate) rfl (sound_namesakes 100) (fun _ => rfl)
    (fresh_namesakes 100) (namesakeTree 100 a b c) 3 1 hk hk' (fits_namesakes _ (by decide))
    (fits_namesakes _ (by decide)) (by decide)
  have hnot : ¬ KeyPath.Blocks ⟨["name"]⟩ ⟨["name.js"]⟩ ∧
      ¬ KeyPath.Blocks ⟨["name.js"]⟩ ⟨["name"]⟩ :=
    ⟨not_blocks_of_length (by decide), not_blocks_of_length (by decide)⟩
  exact ⟨_, hb, by cbv, by cbv, hboth.1.2 hnot, hboth.2.2 hnot⟩

/-- **A template whose artifact leaves no room for a block.** Whichever of the two is stored first,
the other one is refused. -/
theorem exists_build_not_together : ∃ (d : Disk) (t : UnitTree) (k k' : KeyPath) (i i' : Nat)
    (g : Gate) (directory path path' : FilePath),
    d.Sound ∧ build d smallSettings ⟨"views"⟩ d.clock = .ok t ∧
    t.resolve k = some i ∧ t.resolve k' = some i' ∧
    g.delivery = .persist directory ∧ d.Fresh directory ∧
    g.outputPath k = .ok (some path) ∧ g.outputPath k' = .ok (some path') ∧
    (∃ d₁ e, g.serve d t i k = (.ok (.stored path .rebuilt), g, d₁) ∧
      (g.serve d₁ t i' k').1 = .error e) ∧
    ∃ d₁ e, g.serve d t i' k' = (.ok (.stored path' .rebuilt), g, d₁) ∧
      (g.serve d₁ t i k).1 = .error e := by
  obtain ⟨a, b, c, hb⟩ := build_namesakes 100
  obtain ⟨hk, -, hk'⟩ := outputPath_namesakes
  have hfit := fits_namesakes "p/x/name.js" (by decide)
  have hfit' := fits_namesakes "p/x/name.js/b.js" (by decide)
  have hblocks : KeyPath.Blocks ⟨["name"]⟩ ⟨["name.js", "b"]⟩ :=
    ⟨[], "name", ["b"], by decide, rfl, by decide⟩
  refine ⟨namesakes 100, namesakeTree 100 a b c, ⟨["name"]⟩, ⟨["name.js", "b"]⟩, 3, 2, plainGate,
    ⟨"p"⟩, _, _, sound_namesakes 100, hb, by cbv, by cbv, rfl, fresh_namesakes 100, hk, hk', ?_, ?_⟩
  · exact exists_serve_error_of_blocks rfl (sound_namesakes 100) (fun _ => rfl)
      (fresh_namesakes 100) _ 3 2 hk hk' hfit hfit' (Or.inl hblocks)
  · exact exists_serve_error_of_blocks rfl (sound_namesakes 100) (fun _ => rfl)
      (fresh_namesakes 100) _ 2 3 hk' hk hfit' hfit (Or.inr hblocks)

end Gate

end TemplateBundler
