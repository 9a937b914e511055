import TemplateBundler.Proofs.Reuse
import TemplateBundler.Proofs.StoredRuns

/-!
# Reuse is stable

Two builds of one source differ in the time they were made at and in nothing else
(`exists_withTime_of_build`), and no unit is fresher than the newest template
(`Built.freshness_le_of`). So an artifact that was stored when no template was newer than the clock,
and that was stamped with the time of the clock, is reused ever after, as long as nobody else writes
to the public directory and the source stays as it is. Other artifacts come and go next to it, and
the tree is built anew as often as one likes:

    e answers for k with a stored artifact, all that follows is undisturbed →
      the file is as e left it, and whoever asks for k is answered with it         (stable_run)

The invariant (`Stays`) is that the file is at its place, and that the tree is that of the same
source. A store for another key path has a place of its own, and one for `k` itself never comes to
pass, since the gate finds the file current. Neither holds where a link stands in the public
directory, and the directory may be made by `e` itself: no link is there before `e`, and its path
leads somewhere after `e`.
-/

namespace TemplateBundler

/-! ## The same source builds the same units -/

namespace UnitTree

/-- The tree as if it had been built at another time. -/
def withTime (t : UnitTree) (b : Time) : UnitTree := { t with builtAt := b }

section WithTime
variable (t : UnitTree) (b : Time)

@[simp] theorem ancestors_withTime (i : Nat) : (t.withTime b).ancestors i = t.ancestors i := by
  have hface : ∀ j, (t.withTime b).face? j = t.face? j := fun _ => rfl
  exact ancestors_congr hface i

@[simp] theorem freshness_withTime (i : Nat) : (t.withTime b).freshness i = t.freshness i := by
  rw [freshness, freshness, ancestors_withTime]
  rfl

theorem insert_withTime (p : Nat) (n : String) (r : Renderer) (o : Origin) (f : Option Time) :
    (t.withTime b).insert p n r o f =
      ((t.insert p n r o f).1.withTime b, (t.insert p n r o f).2) := by
  unfold insert
  by_cases hp : p < t.units.size
  · rw [dif_pos (show p < (t.withTime b).units.size from hp), dif_pos hp]
    rfl
  · rw [dif_neg (show ¬ p < (t.withTime b).units.size from hp), dif_neg hp]
    rfl

theorem raise_withTime (time : Time) (as : List Nat) :
    raise time (t.withTime b) as = (raise time t as).withTime b := by
  induction as generalizing t with
  | nil => rfl
  | cons a as ih =>
    have hown : (t.withTime b).own? a = t.own? a := rfl
    have hparent : (t.withTime b).parent? a = t.parent? a := rfl
    have hset : (t.withTime b).setOwn a time = (t.setOwn a time).withTime b := rfl
    rw [raise, raise, hown, hparent, hset]
    cases t.own? a with
    | none =>
      simp only
      split
      · exact ih _
      · exact ih _
    | some own =>
      simp only
      split
      · rfl
      · exact ih _

theorem mark_withTime (i : Nat) (time : Time) :
    (t.withTime b).mark i time = (t.mark i time).withTime b := by
  have hset : (t.withTime b).setOwn i time = (t.setOwn i time).withTime b := rfl
  rw [mark, mark, hset, ancestors_withTime, raise_withTime]

end WithTime

end UnitTree

namespace Source

open UnitTree

section WithTime
variable (t : UnitTree) (b : Time)

theorem folderUnit_withTime (p : Nat) (name : String) (path : FilePath) :
    folderUnit (t.withTime b) p name path =
      ((folderUnit t p name path).1.withTime b, (folderUnit t p name path).2) := by
  have hchild : (t.withTime b).child? p name = t.child? p name := rfl
  unfold folderUnit
  rw [hchild]
  cases t.child? p name with
  | some id => rfl
  | none => exact insert_withTime t b p name .empty (.directory path) (some Time.never)

theorem placeFile_withTime (p : Nat) (file : Compiled) :
    placeFile p (t.withTime b) file = (placeFile p t file).withTime b := by
  have hunit : placeUnit p (t.withTime b) file = (placeUnit p t file).withTime b := by
    rw [placeUnit, placeUnit, insert_withTime, mark_withTime]
    rfl
  rw [placeFile, placeFile, hunit]
  refine List.foldl_hom (fun t : UnitTree => t.withTime b) fun t block => ?_
  rw [placeBlock, placeBlock, insert_withTime]
  rfl

theorem placeFiles_withTime (p : Nat) (files : List Compiled) :
    placeFiles p (t.withTime b) files = (placeFiles p t files).withTime b :=
  List.foldl_hom (fun t : UnitTree => t.withTime b) fun t file => placeFile_withTime t b p file

theorem plant_withTime (p : Nat) (o : Outline) :
    plant p (t.withTime b) o = (plant p t o).withTime b := by
  induction o generalizing p t with
  | done => rfl
  | folder name path files inside rest ihi ihr =>
    simp only [plant, folderUnit_withTime, placeFiles_withTime, ihi, ihr]

end WithTime

theorem grown_withTime (root : FilePath) (b b' : Time) (files : List Compiled) (inside : Outline) :
    grown root b' files inside = (grown root b files inside).withTime b' := by
  have hroot : treeOf.rootOnly root b' = (treeOf.rootOnly root b).withTime b' := rfl
  rw [grown, grown, hroot, placeFiles_withTime, plant_withTime]

/-- **The same source builds the same units.** -/
theorem exists_withTime_of_build [Template.Language] {d d' : Disk} (hd : d.WellFormed)
    (hd' : d'.WellFormed) {settings : BuildSettings} {root : FilePath} {b b' : Time}
    {t t' : UnitTree} (hb : build d settings root b = .ok t)
    (hb' : build d' settings root b' = .ok t') (hsame : SameInside d d' settings root) :
    t' = t.withTime b' := by
  obtain ⟨files, inside, hchart, rfl⟩ := charted_of_build hd hb
  obtain ⟨files', inside', hchart', rfl⟩ := charted_of_build hd' hb'
  obtain ⟨rfl, rfl⟩ := hchart.eq hchart' hsame
  exact grown_withTime root b b' files inside

/-! ## How fresh a unit can be -/

/-- No template of the source is newer than `time`, and the epoch is not either. -/
structure NoneAfter (d : Disk) (settings : BuildSettings) (root : FilePath) (time : Time) :
    Prop where
  epoch : Time.never ≤ time
  template : ∀ k path, TemplateAt d settings root k path → timeOf d path ≤ time

/-- **No unit is fresher than the newest template.** -/
theorem Built.freshness_le_of [Template.Language] {d : Disk} {settings : BuildSettings}
    {root : FilePath} {t : UnitTree} (h : Built d settings root t) {time : Time}
    (hnone : NoneAfter d settings root time) {i : Nat} {o : Origin} (hi : origin? t i = some o) :
    t.freshness i ≤ time := by
  obtain ⟨hfresh, -, o', b, ho, hb⟩ := h.ownerOf_spec hi
  rw [hfresh]
  have htemplate : ∀ j path, origin? t j = some (.file path) → timeOf d path ≤ time := by
    intro j path hj
    obtain ⟨k, hk⟩ := h.templateAt hj
    exact hnone.template k path hk
  rcases h.exact.attained _ o' _ ho (h.own?_eq_some ho hb) with hbase | ⟨j, path, hj, htime, -⟩
  · cases o' with
    | block path n => cases hb
    | file path =>
      rw [← Option.some.inj hbase]
      exact htemplate _ path ho
    | root path =>
      rw [← Option.some.inj hbase]
      exact hnone.epoch
    | directory path =>
      rw [← Option.some.inj hbase]
      exact hnone.epoch
  · rw [← htime]
    exact htemplate j path hj

end Source

namespace Gate

/-- An answer with a stored artifact leaves a file that is no older than its unit is fresh. -/
theorem file_of_stored {g : Gate} {d : Disk} (hd : d.Sound) {t : UnitTree} {i : Nat} {k : KeyPath}
    {directory path : FilePath} {action : Action} (hdelivery : g.delivery = .persist directory)
    (halways : g.alwaysRebuild = false)
    (hserved : (g.serve d t i k).1 = .ok (.stored path action)) (hstamp : t.freshness i ≤ d.stamp)
    {top : Place} {rest : List String} (hshelf : (g.serve d t i k).2.2.Shelf directory top rest)
    (hlink : ∀ names, names ≠ [] → names <+: rest ∨ rest <+: names →
      ∀ target, d.find? (top ++ names) ≠ some (.link target)) :
    g.storedPath directory k = .ok path ∧ ∃ content time,
      (g.serve d t i k).2.2.status path =
        .ok (top ++ (rest ++ artifactNames (g.leading ++ k.segments)), .file content time) ∧
      t.freshness i ≤ time := by
  obtain ⟨directory', existing, hdelivery', hpath, hexisting, haction, hreused, hrebuilt⟩ :=
    serve_stored hserved
  obtain rfl := Delivery.persist.inj (hdelivery.symm.trans hdelivery')
  have hbelow := storedPath_ok hpath
  refine ⟨hpath, ?_⟩
  cases action with
  | reused =>
    rw [hreused rfl] at hshelf ⊢
    rw [halways] at haction
    cases existing with
    | none => cases haction
    | some time =>
      rw [decide_eq_reused_iff] at haction
      obtain ⟨place, content, hstatus⟩ := Service.exists_status_of_storedAt hexisting
      obtain ⟨rfl, -⟩ := hshelf.eq_of_status hbelow hd hstatus
      exact ⟨content, time, hstatus, haction⟩
  | rebuilt =>
    have hstore := hrebuilt rfl
    have hensured := Disk.Shelf.ensured hd hstore hshelf hlink
    obtain ⟨hstatus, -⟩ := Disk.Shelf.store_of_ensured hbelow hd hensured hstore
    exact ⟨_, _, hstatus, hstamp⟩

end Gate

namespace Service

/-! ## Parts of a run -/

section

variable [Template.Language]

/-- What comes after an event is a run of its own. -/
theorem run_split {s : State} {moves : List Move} {before later : List Event} {e : Event}
    (h : s.run moves = before ++ e :: later) : e.answer = (e.before.play e.move).1 ∧
      e.after = (e.before.play e.move).2 ∧ ∃ rest, later = e.after.run rest := by
  induction moves generalizing s before with
  | nil => exact absurd h (by simp [State.run])
  | cons m moves ih =>
    rw [State.run] at h
    cases before with
    | nil =>
      obtain ⟨rfl, rfl⟩ := List.cons.inj h
      exact ⟨rfl, rfl, moves, rfl⟩
    | cons e' before => exact ih (List.cons.inj h).2

/-- The disk of the last build is that of some event, or the first one. -/
theorem lastBuilt_cases (first : Disk) (events : List Event) :
    lastBuilt first events = first ∨
      ∃ e ∈ events, e.built? = some (lastBuilt first events) := by
  unfold lastBuilt
  cases hlast : (events.filterMap Event.built?).getLast? with
  | none => exact Or.inl rfl
  | some d =>
    obtain ⟨e, he, hbuilt⟩ := List.mem_filterMap.1 (List.mem_of_getLast? hlast)
    exact Or.inr ⟨e, he, hbuilt⟩

/-- What holds of every service after some events, wherever its artifacts go. -/
structure Published (c : Config) (first : Disk) (s : State) (events : List Event) : Prop where
  tuned : Tuned c s
  wellFormed : s.disk.WellFormed
  published : (buildTree c (lastBuilt first events)).1 = .ok s.service.tree
  builtWellFormed : (lastBuilt first events).WellFormed

theorem Published.play {c : Config} {first : Disk} {s : State} {events : List Event}
    (h : Published c first s events) {m : Move}
    (hchange : ∀ d hd, m = .change d hd → d.WellFormed) :
    Published c first (s.play m).2 (events ++ [s.event m]) where
  tuned := h.tuned.play m
  wellFormed := wellFormed_play h.tuned.sound h.wellFormed hchange
  published := (upToDate_event h.tuned h.published m).published
  builtWellFormed := wellFormed_lastBuilt h.builtWellFormed h.wellFormed m

theorem published_run {c : Config} {d d' : Disk} {s : Service} (hd : d.Sound) (hw : d.WellFormed)
    (h : start c d = (.ok s, d')) (moves : List Move)
    (hchanges : ∀ e ∈ State.run ⟨s, d'⟩ moves, ∀ d hd, e.move = .change d hd → d.WellFormed)
    {before later : List Event} {e : Event}
    (hrun : State.run ⟨s, d'⟩ moves = before ++ e :: later) :
    Published s.config d e.before before := by
  obtain ⟨hbuild, rfl, htuned⟩ := start_ok h hd
  exact run_keeps (I := Published s.config d) (P := fun past e => Published s.config d e.before past)
    (fun state past m hpast hchange => ⟨hpast, hpast.play hchange⟩) moves ⟨s, d.tick.2⟩ []
    ⟨htuned, hw.tick, hbuild, hw⟩ hchanges before e later hrun

/-! ## Undisturbed events -/

/-- Nobody but the service writes to the public directory, and what is built is the source as `b`
has it. -/
structure Undisturbed (c : Config) (b : Disk) (p : FilePath) (top : Place) (e : Event) : Prop where
  spares : e.Spares p top []
  source : ∀ d, e.built? = some d → Source.SameInside b d c.buildSettings c.source

/-- What is known of the artifact of a key path once it has been stored. -/
structure Current (c : Config) (p : FilePath) (k : KeyPath) (path : FilePath) (t : UnitTree)
    (i : Nat) (time : Time) : Prop where
  resolve : t.resolve k = some i
  fresh : t.freshness i ≤ time
  stored : (Gate.ofSettings c.delivery c.urlPrefix c.global c.reload).storedPath p k = .ok path
  check : Disk.checkPath path.text = .ok ()
  entry : ∀ x ∈ namesOf c k, Disk.IsEntry x

/-- The file is at its place, and everything that was built since is the same source. -/
structure Stays (c : Config) (b : Disk) (p : FilePath) (top : Place) (k : KeyPath)
    (content : Content) (time : Time) (s : State) (events : List Event) : Prop where
  shelved : Shelved c b p top [] s events
  undisturbed : ∀ e ∈ events, Undisturbed c b p top e
  file : s.disk.find? (placeOf c top [] k) = some (.file content time)

section Stays
variable {c : Config} {b : Disk} {p : FilePath} {top : Place} {k : KeyPath} {path : FilePath}
  {t : UnitTree} {i : Nat} {content : Content} {time : Time} {s : State} {events : List Event}

omit [Template.Language] in
theorem Current.below (h : Current c p k path t i time) : p.Below path (namesOf c k) :=
  Gate.storedPath_ok h.stored

theorem Stays.status_eq (h : Stays c b p top k content time s events)
    (hcurrent : Current c p k path t i time) :
    s.disk.status path = .ok (placeOf c top [] k, .file content time) :=
  h.shelved.shelf.status_eq hcurrent.below h.shelved.tuned.sound hcurrent.check hcurrent.entry
    h.file

/-- The published tree differs from that of `b` in its time at most. -/
theorem Stays.exists_withTime (h : Stays c b p top k content time s events) (hb : b.WellFormed)
    (ht : (buildTree c b).1 = .ok t) : ∃ builtAt, s.service.tree = t.withTime builtAt := by
  have hpublished := h.shelved.published
  have hwell := h.shelved.builtWellFormed
  rcases lastBuilt_cases b events with hfirst | ⟨e, he, hbuilt⟩
  · rw [hfirst, ht] at hpublished
    exact ⟨t.builtAt, (Except.ok.inj hpublished).symm⟩
  · have hsame := (h.undisturbed e he).source _ hbuilt
    exact ⟨_, Source.exists_withTime_of_build hb hwell ht hpublished hsame⟩

variable (hpublic : c.publicDirectory = some p) (hreload : c.reload = false) (hb : b.WellFormed)
  (ht : (buildTree c b).1 = .ok t) (hcurrent : Current c p k path t i time)
  (h : Stays c b p top k content time s events) {m : Move}

include hpublic hreload hb ht hcurrent h

/-- **Whoever asks for the key path** is answered with the file that is there. -/
theorem Stays.reused (hk : s.key? m = some k) :
    (s.play m).1.stored? = some (path, .reused) := by
  obtain ⟨builtAt, htree⟩ := h.exists_withTime hb ht
  have hgate := h.shelved.tuned.gate_eq
  have halways := h.shelved.tuned.always_eq.trans hreload
  have hdelivery := h.shelved.tuned.delivery_eq hpublic
  have hpath : s.service.gate.storedPath p k = .ok path := by
    rw [hgate]
    exact hcurrent.stored
  have hexisting : s.disk.storedAt path = .ok (some time) := by
    rw [Disk.storedAt, h.status_eq hcurrent]
  have hdecide : Gate.decide s.service.tree i (some time) s.service.gate.alwaysRebuild =
      .reused := by
    rw [halways, Gate.decide_eq_reused_iff, htree, UnitTree.freshness_withTime]
    exact hcurrent.fresh
  have hresolve : s.service.tree.resolve k = some i := by
    rw [htree]
    exact hcurrent.resolve
  have hserve := serve_of_gate hresolve (Gate.serve_of_current hdelivery hpath hexisting hdecide)
  rw [← h.shelved.tuned.config_eq] at hreload
  obtain ⟨-, hstored⟩ := play_of_key hreload hk
  exact (hstored path .reused).2 (by rw [hserve])

/-- **One move** leaves the file at its place. -/
theorem Stays.play (hundisturbed : Undisturbed c b p top (s.event m)) :
    Stays c b p top k content time (s.play m).2 (events ++ [s.event m]) where
  shelved := h.shelved.play hpublic hreload hundisturbed.spares
  undisturbed e he := by
    rcases List.mem_append.1 he with he | he
    · exact h.undisturbed e he
    · rwa [List.mem_singleton.1 he]
  file := by
    -- the gate finds the file current, so that it is not generated anew
    have hnot : ¬ (s.event m).Generates k := by
      rintro ⟨hk, path', hrebuilt⟩
      have hreused := h.reused hpublic hreload hb ht hcurrent hk
      rw [show (s.event m).answer.stored? = some (path, .reused) from hreused] at hrebuilt
      cases hrebuilt
    exact h.shelved.find?_play hpublic hreload hundisturbed.spares hnot hcurrent.below.ne_nil h.file

/-- **All moves** leave it there. -/
theorem Stays.run (moves : List Move)
    (hundisturbed : ∀ e ∈ s.run moves, Undisturbed c b p top e) : ∀ e ∈ s.run moves,
      e.after.disk.status path = .ok (placeOf c top [] k, .file content time) ∧
        (e.before.key? e.move = some k → e.answer.stored? = some (path, .reused)) := by
  have hsteps := run_keeps (I := Stays c b p top k content time)
    (A := Undisturbed c b p top)
    (P := fun _ e => e.after.disk.status path = .ok (placeOf c top [] k, .file content time) ∧
      (e.before.key? e.move = some k → e.answer.stored? = some (path, .reused)))
    (fun state past m hpast hevent => by
      have hnext := hpast.play hpublic hreload hb ht hcurrent hevent
      exact ⟨⟨hnext.status_eq hcurrent, hpast.reused hpublic hreload hb ht hcurrent⟩, hnext⟩)
    moves s events h hundisturbed
  intro e he
  obtain ⟨earlier, later, hsplit⟩ := List.append_of_mem he
  exact hsteps earlier e later hsplit

end Stays

/-! ## How it starts -/

/-- An answer with a stored artifact leaves a current file on the shelf. -/
theorem exists_stays {c : Config} {first : Disk} {p path : FilePath} {top : Place} {k : KeyPath}
    {s : State} {m : Move} {past : List Event} {action : Action}
    (hpublic : c.publicDirectory = some p) (hreload : c.reload = false)
    (h : Published c first s past) (hk : s.key? m = some k)
    (hstored : (s.play m).1.stored? = some (path, action))
    (hstamp : ∀ i, s.service.tree.resolve k = some i →
      s.service.tree.freshness i ≤ s.disk.stamp)
    (hlink : ∀ names, names ≠ [] → ∀ target, s.disk.find? (top ++ names) ≠ some (.link target))
    (hshelf : (s.play m).2.disk.Shelf p top []) :
    ∃ i content time, Current c p k path s.service.tree i time ∧
      Stays c (lastBuilt first past) p top k content time (s.play m).2 [] := by
  have halways := h.tuned.always_eq.trans hreload
  have hconfig := hreload
  rw [← h.tuned.config_eq] at hconfig
  have hnot : m ≠ .rebuild := by
    rintro rfl
    cases hk
  have hnochange : ∀ d hd, m = .change d hd → d.WellFormed := by
    rintro d hd rfl
    cases hk
  have htree : (s.play m).2.service.tree = s.service.tree :=
    play_of_not_builds (builds_of_not_rebuild hconfig hnot)
  obtain ⟨hplay, hserved⟩ := play_of_key hconfig hk
  obtain ⟨i, hi, hgate, hdisk⟩ := serve_stored ((hserved path action).1 hstored)
  have hafter : (s.play m).2.disk = (s.service.gate.serve s.disk s.service.tree i k).2.2 := by
    rw [hplay, hdisk]
  have hdelivery := h.tuned.delivery_eq hpublic
  rw [hafter] at hshelf
  obtain ⟨hpath, content, time, hstatus, hfresh⟩ := Gate.file_of_stored h.tuned.sound hdelivery
    halways hgate (hstamp i hi) hshelf fun names hne _ => hlink names hne
  rw [← hafter] at hstatus hshelf
  rw [h.tuned.gate_eq] at hpath hstatus
  have hbelow : p.Below path (namesOf c k) := Gate.storedPath_ok hpath
  have hsound := (h.tuned.play m).sound
  obtain ⟨-, hfind, hentry⟩ := hshelf.eq_of_status hbelow hsound hstatus
  have hcheck := (Disk.status_ok hstatus).1
  refine ⟨i, content, time, ⟨hi, hfresh, hpath, hcheck, hentry⟩, ?_, by simp, hfind⟩
  -- nothing has happened since, so that no artifact was generated anew
  refine ⟨h.tuned.play m, wellFormed_play h.tuned.sound h.wellFormed hnochange, hshelf, ?_,
    h.builtWellFormed, ?_⟩
  · rw [htree]
    exact h.published
  · rintro k' older g ⟨newer, hevents, -⟩
    exact absurd hevents (by simp)

/-! ## Whole runs -/

/-- **Reuse is stable**, in every run of a service that does not reload. -/
theorem stable_run {c : Config} {d d' : Disk} {s : Service} (hd : d.Sound) (hw : d.WellFormed)
    (h : start c d = (.ok s, d')) (hreload : s.config.reload = false) {p : FilePath}
    (hpublic : s.config.publicDirectory = some p) (moves : List Move)
    (hchanges : ∀ e ∈ State.run ⟨s, d'⟩ moves, ∀ d hd, e.move = .change d hd → d.WellFormed)
    {before later : List Event} {e : Event}
    (hrun : State.run ⟨s, d'⟩ moves = before ++ e :: later) {k : KeyPath} {path : FilePath}
    {action : Action} (hk : e.before.key? e.move = some k)
    (hstored : e.answer.stored? = some (path, action)) (hpunctual : e.before.disk.Punctual)
    (hnone : Source.NoneAfter (lastBuilt d before) s.config.buildSettings s.config.source
      e.before.disk.clock)
    {top : Place} (hlink : ∀ names, names ≠ [] →
      ∀ target, e.before.disk.find? (top ++ names) ≠ some (.link target))
    (hshelf : e.after.disk.Shelf p top [])
    (hlater : ∀ e' ∈ later, Undisturbed s.config (lastBuilt d before) p top e') :
    ∃ place content time, e.after.disk.status path = .ok (place, .file content time) ∧
      ∀ e' ∈ later, e'.after.disk.status path = .ok (place, .file content time) ∧
        (e'.before.key? e'.move = some k → e'.answer.stored? = some (path, .reused)) := by
  have hpublished := published_run hd hw h moves hchanges hrun
  obtain ⟨hanswer, hafter, rest, rfl⟩ := run_split hrun
  have hbuilt := Source.built_of_build hpublished.builtWellFormed hpublished.published
  have hstamp : ∀ i, e.before.service.tree.resolve k = some i →
      e.before.service.tree.freshness i ≤ e.before.disk.stamp := by
    intro i hi
    rw [Disk.stamp, hpunctual]
    obtain ⟨o, ho⟩ := Source.exists_origin? (hbuilt.linked.follow_lt hbuilt.linked.root_lt hi)
    exact hbuilt.freshness_le_of hnone ho
  rw [hanswer] at hstored
  rw [hafter] at hshelf hlater ⊢
  obtain ⟨i, content, time, hcurrent, hstays⟩ :=
    exists_stays hpublic hreload hpublished hk hstored hstamp hlink hshelf
  exact ⟨placeOf s.config top [] k, content, time, hstays.status_eq hcurrent,
    hstays.run hpublic hreload hpublished.builtWellFormed hpublished.published hcurrent rest
      hlater⟩

end

end Service

/-! ## One template, built twice -/

namespace Disk

/-- The artifact is next to the source. -/
def withArtifact (text : String) (clock : Time) : Disk :=
  (oneTemplate clock).put ["p", "x.js"] (.file (.text text) 101)

theorem shelf_withArtifact (text : String) (clock : Time) :
    (withArtifact text clock).Shelf ⟨"p"⟩ ["p"] [] := by
  refine shelf_of_no_link rfl rfl ?_
  simp [withArtifact, oneTemplate, put, Association.assign]

end Disk

namespace Source

/-- The source is one template, whatever is next to it. -/
theorem holdsOne_oneTemplate (clock : Time) :
    HoldsOne (Disk.oneTemplate clock) ⟨"views"⟩ "b.tmpl" "b" 5 := by
  obtain ⟨hviews, hfile, -⟩ := Disk.status_oneTemplate clock
  refine ⟨⟨["views"], hviews, fun name node => ?_⟩, _, hfile⟩
  by_cases hname : name = "b.tmpl"
  · have hfind : (Disk.oneTemplate clock).find? (["views"] ++ ["b.tmpl"]) =
        some (.file (.text "b") 5) := rfl
    rw [hname, hfind, Option.some.injEq]
    exact ⟨fun h => ⟨rfl, h.symm⟩, fun h => h.2.symm⟩
  · simp [Disk.find?, Disk.oneTemplate, List.lookup_cons, hname, beq_eq_false_iff_ne.2 hname]

theorem holdsOne_withArtifact (text : String) (clock : Time) :
    HoldsOne (Disk.withArtifact text clock) ⟨"views"⟩ "b.tmpl" "b" 5 := by
  have hworking : (Disk.withArtifact text clock).workingDirectory = [] := rfl
  have hviews : (Disk.withArtifact text clock).walk true Disk.linkLimit [] ["views"] =
      .ok (.there ["views"] .directory) := by cbv
  have hfile : (Disk.withArtifact text clock).walk true Disk.linkLimit [] ["views", "b.tmpl"] =
      .ok (.there ["views", "b.tmpl"] (.file (.text "b") 5)) := by cbv
  refine ⟨⟨["views"], ?_, fun name node => ?_⟩, ["views", "b.tmpl"], ?_⟩
  · rw [Disk.spelled_views.status_eq, hworking, hviews]
  · obtain ⟨here, hstatus, hentry⟩ := (holdsOne_oneTemplate clock).entry_iff
    obtain ⟨rfl, -⟩ := Prod.mk.inj (Except.ok.inj (hstatus.symm.trans
      (Disk.status_oneTemplate clock).1))
    have helsewhere : (Disk.withArtifact text clock).find? (["views"] ++ [name]) =
        (Disk.oneTemplate clock).find? (["views"] ++ [name]) :=
      Disk.find?_put_of_ne _ _ _ _ (by simp)
    rw [helsewhere]
    exact hentry name node
  · change (Disk.withArtifact text clock).status ⟨"views/b.tmpl"⟩ = _
    rw [Disk.spelled_template.status_eq, hworking, hfile]

theorem noneAfter_oneTemplate (clock : Time) (settings : BuildSettings) :
    NoneAfter (Disk.oneTemplate clock) settings ⟨"views"⟩ 101 where
  epoch := by decide
  template := by
    have hone := holdsOne_oneTemplate clock
    rintro k path ⟨ns, name, hns, ⟨-, content, modified, hholds⟩, -, rfl⟩
    obtain rfl := (hone.leads_iff ns).1 hns
    obtain ⟨rfl, -⟩ := (hone.holds_iff name _).1 hholds
    obtain ⟨place, hstatus⟩ := hone.file
    change timeOf (Disk.oneTemplate clock) (FilePath.join ⟨"views"⟩ ⟨"b.tmpl"⟩) ≤ 101
    rw [(readText_of_status hstatus).2]
    decide

end Source

namespace Service

theorem eq_of_built? [Template.Language] {e : Event} {d : Disk} (h : e.built? = some d) :
    d = e.before.disk := by
  unfold Event.built? at h
  split at h
  · exact (Option.some.inj h).symm
  · cases h

/-- A service that was started on the one template. -/
def oneState (r : Renderer) : State :=
  ⟨plainService "p" false (oneTree 100 r), Disk.oneTemplate 101⟩

theorem play_oneState (r : Renderer) : (oneState r).play (.serve .root) =
    (.served (.ok (.stored ⟨"p/x.js"⟩ .rebuilt)), ⟨plainService "p" false (oneTree 100 r),
      Disk.withArtifact (Artifact.script (oneTree 100 r) 0 Conventions.globalName) 102⟩) :=
  play_oneTemplate rfl

/-- The source is built anew, with the artifact next to it, and nothing else happens. -/
theorem undisturbed_oneState (r : Renderer) :
    ∀ e ∈ ((oneState r).play (.serve .root)).2.run [.rebuild, .serve .root],
      Undisturbed (plainConfig "p" false) (Disk.oneTemplate 100) ⟨"p"⟩ ["p"] e := by
  rw [play_oneState]
  generalize Artifact.script (oneTree 100 r) 0 Conventions.globalName = text
  simp only [State.run, List.forall_mem_cons, List.not_mem_nil, false_implies, implies_true,
    and_true]
  refine ⟨⟨?_, fun d hbuilt => ?_⟩, ⟨?_, fun d hbuilt => ?_⟩⟩
  · rintro d hd hm
    cases hm
  · rw [eq_of_built? hbuilt]
    exact (Source.holdsOne_oneTemplate 100).sameInside (Source.holdsOne_withArtifact text 102) _
  · rintro d hd hm
    cases hm
  · cases hbuilt

theorem stable_oneTemplate : ∃ r s,
    start (plainConfig "p" false) (Disk.oneTemplate 100) =
      (.ok (oneState r).service, (oneState r).disk) ∧
    (oneState r).play (.serve .root) = (.served (.ok (.stored ⟨"p/x.js"⟩ .rebuilt)), s) ∧
    ∃ place content time, s.disk.status ⟨"p/x.js"⟩ = .ok (place, .file content time) ∧
      ∀ e ∈ s.run [.rebuild, .serve .root],
        e.after.disk.status ⟨"p/x.js"⟩ = .ok (place, .file content time) ∧
        (e.before.key? e.move = some .root →
          e.answer.stored? = some (⟨"p/x.js"⟩, .reused)) := by
  obtain ⟨r, hstart⟩ := start_oneTemplate
  have hrun : (oneState r).run [.serve .root, .rebuild, .serve .root] =
      [] ++ (oneState r).event (.serve .root) ::
        ((oneState r).play (.serve .root)).2.run [.rebuild, .serve .root] := rfl
  have hchanges : ∀ e ∈ (oneState r).run [.serve .root, .rebuild, .serve .root], ∀ d hd,
      e.move = .change d hd → d.WellFormed := by
    simp only [State.run, List.forall_mem_cons, List.not_mem_nil, false_implies, implies_true,
      and_true]
    refine ⟨?_, ?_, ?_⟩ <;> rintro d hd hm <;> cases hm
  have hplay := play_oneState r
  have hstored : ((oneState r).event (.serve .root)).answer.stored? =
      some (⟨"p/x.js"⟩, .rebuilt) := by
    rw [State.event, hplay]
    rfl
  have hlink : ∀ names, names ≠ [] →
      ∀ target, (Disk.oneTemplate 101).find? (["p"] ++ names) ≠ some (.link target) :=
    fun names hne => (Disk.shelf_oneTemplate 101).no_link names hne (Or.inr List.nil_prefix)
  have hshelf : ((oneState r).event (.serve .root)).after.disk.Shelf ⟨"p"⟩ ["p"] [] := by
    rw [State.event, hplay]
    exact Disk.shelf_withArtifact _ 102
  refine ⟨r, _, hstart, hplay, ?_⟩
  have hstable := stable_run (Disk.sound_oneTemplate 100) (Disk.wellFormed_oneTemplate 100) hstart
    rfl rfl _ hchanges hrun rfl hstored (fun _ => rfl)
    (Source.noneAfter_oneTemplate 100 _) hlink hshelf (undisturbed_oneState r)
  rwa [State.event, hplay] at hstable

end Service

end TemplateBundler
