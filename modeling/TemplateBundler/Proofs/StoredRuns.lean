import TemplateBundler.Proofs.Locality
import TemplateBundler.Proofs.Runs
import TemplateBundler.Proofs.Shelves

/-!
# What a stored artifact holds

A service that does not reload keeps a stored artifact as long as the file is no older than its
unit is fresh. Between any two calls the disk may change in any way, so long as nothing is done to
the public directory. Then a stored file is the artifact of the tree that was published when it was
generated last, and it is that of the tree published now if it is new, or if the source there has
not changed between the two builds (`storedFor_run`). A template that was deleted makes no unit
fresher, and an artifact that binds it is kept (`exists_reused_stale`).

One move changes the disk from outside, or stores one artifact anew, or makes directories at most
(`play_disk_cases`). Artifacts of different key paths never share a place (`placeOf_inj`), so each
stays at its own until it is generated anew:

    Shelved c first p top rest s events → (s.event m).Spares p top rest →
      Shelved c first p top rest (s.play m).2 (events ++ [s.event m])               (Shelved.play)
-/

namespace TemplateBundler

/-! ## What serving does to the disk -/

namespace Gate

/-- Unless an artifact is stored anew, serving makes directories at most. -/
theorem extends_serve {g : Gate} {d : Disk} (hd : d.Sound) {t : UnitTree} {i : Nat} {k : KeyPath}
    (h : ∀ path, (g.serve d t i k).1 ≠ .ok (.stored path .rebuilt)) :
    Disk.Extends d (g.serve d t i k).2.2 := by
  cases hdelivery : g.delivery with
  | respond =>
    simp only [serve, hdelivery]
    exact .tick d
  | persist directory =>
    cases hpath : g.storedPath directory k with
    | error e =>
      simp only [serve, hdelivery, hpath]
      exact .refl d
    | ok path =>
      cases hexisting : d.storedAt path with
      | error e =>
        simp only [serve, hdelivery, hpath, persist, hexisting]
        exact .refl d
      | ok existing =>
        simp only [serve, hdelivery, hpath, persist, hexisting] at h ⊢
        cases hdecide : decide t i existing g.alwaysRebuild with
        | reused =>
          simp only
          exact .refl d
        | rebuilt =>
          simp only [hdecide] at h ⊢
          cases hstore : d.store path (Artifact.script t i g.global) with
          | mk result after =>
            simp only [hstore] at h ⊢
            cases result with
            | ok u => exact absurd rfl (h path)
            | error e => exact Disk.extends_of_store_error hd hstore

end Gate

namespace Service

theorem extends_serve {s : Service} {d : Disk} (hd : d.Sound) {k : KeyPath}
    (h : ∀ path, (s.serve d k).1 ≠ .ok (.stored path .rebuilt)) :
    Disk.Extends d (s.serve d k).2.2 := by
  rcases s.serve_cases d k with ⟨-, heq⟩ | ⟨i, memory, -, heq | ⟨time, e, he, heq⟩⟩
  · rw [heq]
    exact .refl d
  · rw [heq] at h ⊢
    exact Gate.extends_serve hd h
  · rw [heq]
    refine (Gate.extends_serve hd fun path => ?_).trans (.tick _)
    rw [he]
    exact nofun

/-! ## Moves of a service that does not reload -/

/-- The key path that a move asks for. -/
def State.key? (s : State) : Move → Option KeyPath
  | .serve k => some k
  | .handle method url => s.service.asked? method url
  | _ => none

/-- The path that an answer names, and whether the artifact there is new. -/
def Answer.stored? : Answer → Option (FilePath × Action)
  | .handled (.ok (.served (.stored path action))) => some (path, action)
  | .served (.ok (.stored path action)) => some (path, action)
  | _ => none

/-- The event stores the artifact of the key path anew. -/
def Event.Generates (e : Event) (k : KeyPath) : Prop :=
  e.before.key? e.move = some k ∧ ∃ path, e.answer.stored? = some (path, .rebuilt)

section Moves
variable [Template.Language] {s : State} {m : Move} (hreload : s.service.config.reload = false)

include hreload

theorem handle_of_key {method url : String} {k : KeyPath}
    (hk : s.service.asked? method url = some k) :
    s.service.handle s.disk method url = s.service.answer s.disk k := by
  rw [handle_eq, hk]
  simp only [hreload, Bool.false_eq_true, if_false]

/-- A move that asks for a key path serves it. -/
theorem play_of_key {k : KeyPath} (hk : s.key? m = some k) :
    (s.play m).2 = ⟨(s.service.serve s.disk k).2.1, (s.service.serve s.disk k).2.2⟩ ∧
    ∀ path action, (s.play m).1.stored? = some (path, action) ↔
      (s.service.serve s.disk k).1 = .ok (.stored path action) := by
  cases m with
  | change d hd => cases hk
  | rebuild => cases hk
  | serve k' =>
    obtain rfl := Option.some.inj hk
    refine ⟨rfl, fun path action => ?_⟩
    simp only [State.play]
    cases (s.service.serve s.disk k').1 with
    | error e => simp [Answer.stored?]
    | ok served => cases served <;> simp [Answer.stored?]
  | handle method url =>
    change s.service.asked? method url = some k at hk
    simp only [State.play, handle_of_key hreload hk, answer_eq, true_and]
    intro path action
    unfold answer
    split
    · next served _ _ heq =>
      rw [heq]
      cases served <;> simp [Answer.stored?]
    · next e _ _ heq =>
      rw [heq]
      split <;> simp [Answer.stored?]

omit [Template.Language] in
theorem builds_of_not_rebuild (hm : m ≠ .rebuild) : s.builds m = false := by
  cases m with
  | rebuild => exact absurd rfl hm
  | change d hd => rfl
  | serve k => rfl
  | handle method url => simp [State.builds, hreload]

/-- **What a move does to the disk.** The disk is changed from outside, or an artifact is stored
anew, or directories are made at most. -/
theorem play_disk_cases (hsound : s.disk.Sound) (m : Move) : (∃ d hd, m = .change d hd) ∨
    (∃ k path i directory, (s.event m).Generates k ∧ s.service.tree.resolve k = some i ∧
      s.service.gate.delivery = .persist directory ∧
      s.service.gate.storedPath directory k = .ok path ∧
      s.disk.store path (Artifact.script s.service.tree i s.service.gate.global) =
        (.ok (), (s.play m).2.disk)) ∨
    (Disk.Extends s.disk (s.play m).2.disk ∧ ∀ k, ¬ (s.event m).Generates k) := by
  cases hk : s.key? m with
  | none =>
    have hnone : ∀ k, ¬ (s.event m).Generates k := by
      rintro k ⟨hsome, -⟩
      change s.key? m = some k at hsome
      rw [hk] at hsome
      cases hsome
    cases m with
    | change d hd => exact Or.inl ⟨d, hd, rfl⟩
    | serve k => cases hk
    | rebuild =>
      refine Or.inr (Or.inr ⟨?_, hnone⟩)
      simp only [State.play, rebuild_disk]
      exact .tick s.disk
    | handle method url =>
      change s.service.asked? method url = none at hk
      refine Or.inr (Or.inr ⟨?_, hnone⟩)
      simp only [State.play, handle_eq, hk]
      exact .refl s.disk
  | some k =>
    obtain ⟨hplay, hstored⟩ := play_of_key hreload hk
    right
    by_cases h : ∃ path, (s.service.serve s.disk k).1 = .ok (.stored path .rebuilt)
    · obtain ⟨path, hserve⟩ := h
      left
      have hanswer := (hstored path .rebuilt).2 hserve
      obtain ⟨i, hi, hgate, hdisk⟩ := serve_stored hserve
      obtain ⟨directory, existing, hdelivery, hpath, -, -, -, hrebuilt⟩ := Gate.serve_stored hgate
      rw [hplay, hdisk]
      exact ⟨k, path, i, directory, ⟨hk, path, hanswer⟩, hi, hdelivery, hpath, hrebuilt rfl⟩
    · right
      rw [not_exists] at h
      refine ⟨?_, ?_⟩
      · rw [hplay]
        exact extends_serve hsound h
      · rintro k' ⟨-, path, hanswer⟩
        exact h path ((hstored path .rebuilt).1 hanswer)

end Moves

/-- What a store and the clock keep, a move keeps, but for a change from outside. -/
theorem play_keeps [Template.Language] {P : Disk → Prop}
    (hstore : ∀ d path text, P d → P (d.store path text).2) (htick : ∀ d, P d → P d.tick.2)
    {s : State} (hs : P s.disk) (m : Move) (hchange : ∀ d hd, m = .change d hd → P d) :
    P (s.play m).2.disk := by
  have hrebuild : P (s.service.rebuild s.disk).2.2 := by
    rw [rebuild_disk]
    exact htick _ hs
  cases m with
  | change d hd => exact hchange d hd rfl
  | serve k => exact serve_keeps hstore htick hs s.service k
  | rebuild => exact hrebuild
  | handle method url =>
    simp only [State.play, handle_eq]
    split
    · exact hs
    next k _ =>
    split
    · split
      · next heq => rwa [heq] at hrebuild
      · next heq =>
        rw [heq] at hrebuild
        rw [answer_eq]
        exact serve_keeps hstore htick hrebuild _ k
    · rw [answer_eq]
      exact serve_keeps hstore htick hs _ k

theorem wellFormed_play [Template.Language] {s : State} (hsound : s.disk.Sound)
    (hs : s.disk.WellFormed) {m : Move} (hchange : ∀ d hd, m = .change d hd → d.WellFormed) :
    (s.play m).2.disk.WellFormed := by
  have hkeeps : (s.play m).2.disk.Sound ∧ (s.play m).2.disk.WellFormed :=
    play_keeps (P := fun d => d.Sound ∧ d.WellFormed)
      (fun _ path text hd => ⟨hd.1.store path text, hd.2.store hd.1 path text⟩)
      (fun _ hd => ⟨hd.1.tick, hd.2.tick⟩) ⟨hsound, hs⟩ m
      (fun d hd hm => ⟨hd, hchange d hd hm⟩)
  exact hkeeps.2

theorem wellFormed_lastBuilt [Template.Language] {first : Disk} {events : List Event} {s : State}
    (h : (lastBuilt first events).WellFormed) (hs : s.disk.WellFormed) (m : Move) :
    (lastBuilt first (events ++ [s.event m])).WellFormed := by
  rw [lastBuilt_concat]
  unfold Event.built?
  split
  · exact hs
  · exact h

/-! ## The latest generation -/

/-- The last of the events that stored the artifact of the key path anew, and those before it. -/
def Latest (events : List Event) (k : KeyPath) (older : List Event) (e : Event) : Prop :=
  ∃ newer, events = older ++ e :: newer ∧ e.Generates k ∧ ∀ e' ∈ newer, ¬ e'.Generates k

theorem latest_concat {events older : List Event} {k : KeyPath} {e g : Event}
    (h : Latest (events ++ [e]) k older g) :
    (older = events ∧ g = e ∧ e.Generates k) ∨
      (¬ e.Generates k ∧ Latest events k older g) := by
  obtain ⟨newer, hevents, hgenerates, hnewer⟩ := h
  rcases List.eq_nil_or_concat' newer with rfl | ⟨newer, last, rfl⟩
  · obtain ⟨rfl, he⟩ := List.append_inj' hevents rfl
    obtain rfl := List.singleton_inj.1 he
    exact Or.inl ⟨rfl, rfl, hgenerates⟩
  · rw [← List.cons_append, ← List.append_assoc] at hevents
    obtain ⟨rfl, he⟩ := List.append_inj' hevents rfl
    obtain rfl := List.singleton_inj.1 he
    exact Or.inr ⟨hnewer e (by simp), newer, rfl, hgenerates,
      fun e' he' => hnewer e' (List.mem_append_left _ he')⟩

/-! ## The invariant -/

/-- The names of an artifact's path behind those of the public directory. -/
def namesOf (c : Config) (k : KeyPath) : List String :=
  Gate.artifactNames (Text.cutNonempty '/' c.urlPrefix ++ k.segments)

/-- Where the artifact of a key path stands. -/
def placeOf (c : Config) (top : Place) (rest : List String) (k : KeyPath) : Place :=
  top ++ (rest ++ namesOf c k)

theorem placeOf_inj {c : Config} {top : Place} {rest : List String} {k k' : KeyPath}
    (h : placeOf c top rest k = placeOf c top rest k') : k = k' := by
  have hnames := List.append_cancel_left (List.append_cancel_left h)
  exact congrArg KeyPath.mk (List.append_cancel_left (Gate.artifactNames_inj hnames))

/-- A change from outside that leaves the way to the public directory and what is below it. -/
structure Spares (p : FilePath) (top : Place) (rest : List String) (before after : Disk) :
    Prop where
  wellFormed : after.WellFormed
  shelf : after.Shelf p top rest
  below : ∀ names, names ≠ [] →
    after.find? (top ++ (rest ++ names)) = before.find? (top ++ (rest ++ names))

def Event.Spares (p : FilePath) (top : Place) (rest : List String) (e : Event) : Prop :=
  ∀ d hd, e.move = .change d hd → Service.Spares p top rest e.before.disk d

/-- What holds of a service that stores artifacts below `p`, after some events. -/
structure Shelved [Template.Language] (c : Config) (first : Disk) (p : FilePath) (top : Place)
    (rest : List String) (s : State) (events : List Event) : Prop where
  tuned : Tuned c s
  wellFormed : s.disk.WellFormed
  shelf : s.disk.Shelf p top rest
  published : (buildTree c (lastBuilt first events)).1 = .ok s.service.tree
  builtWellFormed : (lastBuilt first events).WellFormed
  /-- The artifact that was generated last for a key path is at its place. -/
  latest : ∀ k older e, Latest events k older e → (lastBuilt first older).WellFormed ∧
    (buildTree c (lastBuilt first older)).1 = .ok e.after.service.tree ∧ namesOf c k ≠ [] ∧
    ∃ i time, e.after.service.tree.resolve k = some i ∧ s.disk.find? (placeOf c top rest k) =
      some (.file (.text (Artifact.script e.after.service.tree i c.global)) time)

section Shelved
variable [Template.Language] {c : Config} {first : Disk} {p : FilePath} {top : Place}
  {rest : List String} {s : State} {events : List Event} (h : Shelved c first p top rest s events)
  (hpublic : c.publicDirectory = some p) (hreload : c.reload = false)

include h hpublic

/-- The path of an artifact goes on from the public directory. -/
theorem Shelved.below {directory path : FilePath} {k : KeyPath}
    (hdelivery : s.service.gate.delivery = .persist directory)
    (hpath : s.service.gate.storedPath directory k = .ok path) :
    p.Below path (namesOf c k) := by
  obtain rfl := Delivery.persist.inj (hdelivery.symm.trans (h.tuned.delivery_eq hpublic))
  have hbelow := Gate.storedPath_ok hpath
  rw [h.tuned.gate_eq] at hbelow
  exact hbelow

include hreload

/-- An artifact stays at its place until it is generated anew. -/
theorem Shelved.find?_play {m : Move} (hspares : (s.event m).Spares p top rest) {k : KeyPath}
    (hk : ¬ (s.event m).Generates k) (hne : namesOf c k ≠ []) {node : DiskNode}
    (hfind : s.disk.find? (placeOf c top rest k) = some node) :
    (s.play m).2.disk.find? (placeOf c top rest k) = some node := by
  rw [← h.tuned.config_eq] at hreload
  rcases play_disk_cases hreload h.tuned.sound m with ⟨d, hd, rfl⟩ |
    ⟨k', path, i, directory, hgenerates, -, hdelivery, hpath, hstore⟩ | ⟨hext, -⟩
  · exact ((hspares d hd rfl).below _ hne).trans hfind
  · have hother : placeOf c top rest k ≠ placeOf c top rest k' := fun he =>
      hk (placeOf_inj he ▸ hgenerates)
    obtain ⟨-, -, hkept, -⟩ :=
      h.shelf.store (h.below hpublic hdelivery hpath) h.tuned.sound hstore
    exact hkept _ node hother hfind
  · exact hext.kept _ _ hfind

theorem Shelved.shelf_play {m : Move} (hspares : (s.event m).Spares p top rest) :
    (s.play m).2.disk.Shelf p top rest := by
  rw [← h.tuned.config_eq] at hreload
  rcases play_disk_cases hreload h.tuned.sound m with ⟨d, hd, rfl⟩ |
    ⟨k', path, i, directory, -, -, hdelivery, hpath, hstore⟩ | ⟨hext, -⟩
  · exact (hspares d hd rfl).shelf
  · exact (h.shelf.store (h.below hpublic hdelivery hpath) h.tuned.sound hstore).2.2.2
  · exact h.shelf.of_extends hext

/-- **A generation** leaves the artifact of the published tree at its place. -/
theorem Shelved.find?_generated {m : Move} {k : KeyPath} (hk : (s.event m).Generates k) :
    (s.play m).2.service.tree = s.service.tree ∧ namesOf c k ≠ [] ∧
    ∃ i time, s.service.tree.resolve k = some i ∧ (s.play m).2.disk.find? (placeOf c top rest k) =
      some (.file (.text (Artifact.script s.service.tree i c.global)) time) := by
  rw [← h.tuned.config_eq] at hreload
  rcases play_disk_cases hreload h.tuned.sound m with ⟨d, hd, rfl⟩ |
    ⟨k', path, i, directory, hgenerates, hi, hdelivery, hpath, hstore⟩ | ⟨-, hnone⟩
  · cases hk.1
  · obtain rfl := Option.some.inj (hgenerates.1.symm.trans hk.1)
    have hbelow := h.below hpublic hdelivery hpath
    obtain ⟨-, hfind, -⟩ := h.shelf.store hbelow h.tuned.sound hstore
    have hbuilds : s.builds m = false := by
      refine builds_of_not_rebuild hreload fun hm => ?_
      rw [hm] at hk
      cases hk.1
    rw [h.tuned.global_eq] at hfind
    exact ⟨play_of_not_builds hbuilds, hbelow.ne_nil, i, _, hi, hfind⟩
  · exact absurd hk (hnone k)

/-- **One move** keeps the artifacts where they belong. -/
theorem Shelved.play {m : Move} (hspares : (s.event m).Spares p top rest) :
    Shelved c first p top rest (s.play m).2 (events ++ [s.event m]) where
  tuned := h.tuned.play m
  wellFormed := wellFormed_play h.tuned.sound h.wellFormed fun d hd hm =>
    (hspares d hd hm).wellFormed
  shelf := h.shelf_play hpublic hreload hspares
  published := (upToDate_event h.tuned h.published m).published
  builtWellFormed := wellFormed_lastBuilt h.builtWellFormed h.wellFormed m
  latest := by
    intro k older e hlatest
    rcases latest_concat hlatest with ⟨rfl, rfl, hgenerates⟩ | ⟨hnot, hlatest⟩
    · obtain ⟨htree, hne, i, time, hi, hfind⟩ := h.find?_generated hpublic hreload hgenerates
      have hafter : (s.event m).after.service.tree = s.service.tree := htree
      rw [hafter]
      exact ⟨h.builtWellFormed, h.published, hne, i, time, hi, hfind⟩
    · obtain ⟨hwell, hbuilt, hne, i, time, hi, hfind⟩ := h.latest k older e hlatest
      exact ⟨hwell, hbuilt, hne, i, time, hi,
        h.find?_play hpublic hreload hspares hnot hne hfind⟩

end Shelved

/-! ## What is stored -/

/-- The source at the key path, or at one above it, is as it was when the artifact was generated
last: the builds of then and now agree there. -/
def Unchanged [Template.Language] (c : Config) (first : Disk) (earlier : List Event) (k : KeyPath) :
    Prop :=
  ∃ older e above, Latest earlier k older e ∧ above <+: k.segments ∧
    Source.AgreeAt (lastBuilt first older) (lastBuilt first earlier) c.buildSettings c.source above

/-- The file of the key path holds the script of its unit in the tree. -/
def HoldsScript (d : Disk) (path : FilePath) (t : UnitTree) (k : KeyPath) (global : String) :
    Prop :=
  ∃ i, t.resolve k = some i ∧ d.readText path = .ok (Artifact.script t i global)

/-- An event that answers with a stored artifact, after others. -/
structure StoredFor [Template.Language] (c : Config) (first : Disk) (earlier : List Event)
    (e : Event) (k : KeyPath) (path : FilePath) (action : Action) : Prop where
  /-- The file holds the artifact of the tree that was published when it was generated last. -/
  latest : ∀ older g, Latest (earlier ++ [e]) k older g →
    HoldsScript e.after.disk path g.after.service.tree k c.global
  /-- It is kept only where its unit is no fresher. -/
  reused : action = .reused → ∃ i time, e.after.service.tree.resolve k = some i ∧
    e.before.disk.storedAt path = .ok (some time) ∧ e.after.service.tree.freshness i ≤ time
  /-- It is that of the published tree if it is new, or the source there has not changed. -/
  current : action = .rebuilt ∨ Unchanged c first earlier k →
    HoldsScript e.after.disk path e.after.service.tree k c.global

theorem exists_status_of_storedAt {d : Disk} {path : FilePath} {time : Time}
    (h : d.storedAt path = .ok (some time)) :
    ∃ place content, d.status path = .ok (place, .file content time) := by
  unfold Disk.storedAt at h
  split at h
  · next place content _ heq =>
    cases h
    exact ⟨place, content, heq⟩
  · cases h
  · split at h <;> cases h

section Shelved
variable [Template.Language] {c : Config} {first : Disk} {p : FilePath} {top : Place}
  {rest : List String} {s : State} {events : List Event} (h : Shelved c first p top rest s events)
  (hpublic : c.publicDirectory = some p) (hreload : c.reload = false)

include h hpublic hreload

/-- **An artifact stored anew** is that of the published tree. -/
theorem Shelved.holdsScript_of_rebuilt {m : Move} {k : KeyPath} {path : FilePath}
    (hk : s.key? m = some k) (hstored : (s.play m).1.stored? = some (path, .rebuilt)) :
    HoldsScript (s.play m).2.disk path s.service.tree k c.global := by
  rw [← h.tuned.config_eq] at hreload
  obtain ⟨hplay, hserved⟩ := play_of_key hreload hk
  have hserve := (hserved path .rebuilt).1 hstored
  obtain ⟨i, hi, hgate, hdisk⟩ := serve_stored hserve
  obtain ⟨directory, existing, hdelivery, hpath, -, -, -, hrebuilt⟩ := Gate.serve_stored hgate
  obtain ⟨hstatus, -⟩ :=
    h.shelf.store (h.below hpublic hdelivery hpath) h.tuned.sound (hrebuilt rfl)
  rw [h.tuned.global_eq] at hstatus
  rw [hplay, hdisk]
  exact ⟨i, hi, (Source.readText_of_status hstatus).1⟩

/-- **A reused artifact** is the file at its place, and no older than its unit is fresh. -/
theorem Shelved.file_of_reused {m : Move} {k : KeyPath} {path : FilePath}
    (hk : s.key? m = some k) (hstored : (s.play m).1.stored? = some (path, .reused)) :
    (s.play m).2.disk = s.disk ∧ ∃ i time content, s.service.tree.resolve k = some i ∧
      s.disk.storedAt path = .ok (some time) ∧ s.service.tree.freshness i ≤ time ∧
      s.disk.status path = .ok (placeOf c top rest k, .file content time) ∧
      s.disk.find? (placeOf c top rest k) = some (.file content time) := by
  have halways := h.tuned.always_eq.trans hreload
  rw [← h.tuned.config_eq] at hreload
  obtain ⟨hplay, hserved⟩ := play_of_key hreload hk
  have hserve := (hserved path .reused).1 hstored
  obtain ⟨i, hi, hgate, hdisk⟩ := serve_stored hserve
  obtain ⟨directory, existing, hdelivery, hpath, hexisting, haction, hreused, -⟩ :=
    Gate.serve_stored hgate
  rw [hplay, hdisk]
  refine ⟨hreused rfl, i, ?_⟩
  rw [halways] at haction
  cases existing with
  | none => cases haction
  | some time =>
    rw [Gate.decide_eq_reused_iff] at haction
    obtain ⟨place, content, hstatus⟩ := exists_status_of_storedAt hexisting
    obtain ⟨rfl, hfind, -⟩ :=
      h.shelf.eq_of_status (h.below hpublic hdelivery hpath) h.tuned.sound hstatus
    exact ⟨time, content, hi, hexisting, haction, hstatus, hfind⟩

/-- **One answer** with a stored artifact. -/
theorem Shelved.storedFor {m : Move} {k : KeyPath} {path : FilePath} {action : Action}
    (hk : s.key? m = some k) (hstored : (s.play m).1.stored? = some (path, action)) :
    StoredFor c first events (s.event m) k path action := by
  have htree : (s.play m).2.service.tree = s.service.tree := by
    refine play_of_not_builds (builds_of_not_rebuild ?_ fun hm => ?_)
    · rw [h.tuned.config_eq]
      exact hreload
    · rw [hm] at hk
      cases hk
  cases action with
  | rebuilt =>
    have hholds := h.holdsScript_of_rebuilt hpublic hreload hk hstored
    rw [← htree] at hholds
    refine ⟨fun older g hlatest => ?_, nofun, fun _ => hholds⟩
    rcases latest_concat hlatest with ⟨-, rfl, -⟩ | ⟨hnot, -⟩
    · exact hholds
    · exact absurd ⟨hk, path, hstored⟩ hnot
  | reused =>
    obtain ⟨hdisk, i, time, content, hi, hexisting, hfresh, hstatus, hfind⟩ :=
      h.file_of_reused hpublic hreload hk hstored
    -- the file is what the latest generation left
    have hlatest : ∀ older g, Latest events k older g → (lastBuilt first older).WellFormed ∧
        (buildTree c (lastBuilt first older)).1 = .ok g.after.service.tree ∧
        HoldsScript s.disk path g.after.service.tree k c.global := by
      intro older g hlatest
      obtain ⟨hwell, hbuilt, -, i', time', hi', hfind'⟩ := h.latest k older g hlatest
      obtain ⟨rfl, rfl⟩ := DiskNode.file.inj (Option.some.inj (hfind.symm.trans hfind'))
      exact ⟨hwell, hbuilt, i', hi', (Source.readText_of_status hstatus).1⟩
    constructor
    · intro older g hg
      rcases latest_concat hg with ⟨-, -, -, path', hrebuilt⟩ | ⟨-, hg⟩
      · rw [show (s.event m).answer.stored? = some (path, .reused) from hstored] at hrebuilt
        cases hrebuilt
      · exact hdisk ▸ (hlatest older g hg).2.2
    · intro _
      exact ⟨i, time, htree ▸ hi, hexisting, htree ▸ hfresh⟩
    · rintro (hrebuilt | ⟨older, g, above, hg, habove, hagree⟩)
      · cases hrebuilt
      · obtain ⟨hwell, hbuilt, i', hi', hread⟩ := hlatest older g hg
        have hscript := Source.script_eq_of_agree hwell h.builtWellFormed hbuilt h.published hagree
          habove hi' hi c.global
        refine ⟨i, htree ▸ hi, ?_⟩
        change (s.play m).2.disk.readText path = .ok (Artifact.script (s.play m).2.service.tree i _)
        rw [htree, hdisk, ← hscript, hread]

end Shelved

/-- **What a stored artifact holds**, in every run of a service that does not reload. -/
theorem storedFor_run [Template.Language] {c : Config} {d d' : Disk} {s : Service} (hd : d.Sound)
    (hw : d.WellFormed) (h : start c d = (.ok s, d')) (hreload : s.config.reload = false)
    {p : FilePath} {top : Place} {rest : List String} (hpublic : s.config.publicDirectory = some p)
    (hshelf : d.Shelf p top rest) (moves : List Move)
    (hspares : ∀ e ∈ State.run ⟨s, d'⟩ moves, e.Spares p top rest) :
    ∀ earlier e later, State.run ⟨s, d'⟩ moves = earlier ++ e :: later →
      ∀ k path action, e.before.key? e.move = some k → e.answer.stored? = some (path, action) →
        StoredFor s.config d earlier e k path action := by
  obtain ⟨hbuild, rfl, htuned⟩ := start_ok h hd
  have hshelved : Shelved s.config d p top rest ⟨s, d.tick.2⟩ [] := by
    refine ⟨htuned, hw.tick, hshelf.of_extends (.tick d), hbuild, hw, ?_⟩
    rintro k older e ⟨newer, hevents, -⟩
    exact absurd hevents (by simp)
  refine run_keeps (I := Shelved s.config d p top rest)
    (P := fun earlier e => ∀ k path action, e.before.key? e.move = some k →
      e.answer.stored? = some (path, action) → StoredFor s.config d earlier e k path action)
    (fun state past m h hspares => ?_) moves ⟨s, d.tick.2⟩ [] hshelved hspares
  exact ⟨fun k path action hk hstored => h.storedFor hpublic hreload hk hstored,
    h.play hpublic hreload hspares⟩

end Service

/-! ## A template that was deleted -/

namespace Disk

/-- One template, and a public directory without artifacts. -/
def oneTemplate (clock : Time) : Disk where
  nodes := [(["views"], .directory), (["views", "b.tmpl"], .file (.text "b") 5),
    (["p"], .directory)]
  workingDirectory := []
  clock := clock

/-- The template is gone, its artifact is not. -/
def noTemplate (text : String) (clock : Time) : Disk where
  nodes := [(["views"], .directory), (["p"], .directory), (["p", "x.js"], .file (.text text) 101)]
  workingDirectory := []
  clock := clock

theorem sound_oneTemplate (clock : Time) : (oneTemplate clock).Sound := by
  refine sound_of_nodes ?_ rfl
  simp only [oneTemplate, List.forall_mem_cons]
  exact ⟨rfl, rfl, rfl, by simp⟩

theorem sound_noTemplate (text : String) (clock : Time) : (noTemplate text clock).Sound := by
  refine sound_of_nodes ?_ rfl
  simp only [noTemplate, List.forall_mem_cons]
  exact ⟨rfl, rfl, rfl, by simp⟩

theorem wellFormed_oneTemplate (clock : Time) : (oneTemplate clock).WellFormed where
  places_nodup := by
    show [["views"], ["views", "b.tmpl"], ["p"]].Nodup
    decide
  isEntryName := by
    show ∀ place ∈ [["views"], ["views", "b.tmpl"], ["p"]], ∀ name ∈ place, IsEntryName name
    unfold IsEntryName
    decide

theorem wellFormed_noTemplate (text : String) (clock : Time) :
    (noTemplate text clock).WellFormed where
  places_nodup := by
    show [["views"], ["p"], ["p", "x.js"]].Nodup
    decide
  isEntryName := by
    show ∀ place ∈ [["views"], ["p"], ["p", "x.js"]], ∀ name ∈ place, IsEntryName name
    unfold IsEntryName
    decide

theorem spelled_template : Spelled "views/b.tmpl" ["views", "b.tmpl"] :=
  ⟨by decide, by decide, by decide, by decide⟩

theorem spelled_public : Spelled "p" ["p"] :=
  ⟨by decide, by decide, by decide, by decide⟩

theorem spelled_artifact : Spelled "p/x.js" ["p", "x.js"] :=
  ⟨by decide, by decide, by decide, by decide⟩

/-- The public directory is there, and no link is. -/
theorem shelf_of_no_link {d : Disk} (hworking : d.workingDirectory = [])
    (hpublic : d.find? ["p"] = some .directory)
    (hlink : ∀ pair ∈ d.nodes, ∀ target, pair.2 ≠ .link target) : d.Shelf ⟨"p"⟩ ["p"] [] where
  way := by
    have hstart : d.start "p" = [] := by
      rw [start, hworking]
      exact ite_self []
    refine ⟨["p"], 0, spelled_public.names_eq, Nat.zero_le _, ?_⟩
    rw [hstart]
    exact .enter ⟨by decide, by decide, by decide⟩ hpublic (.nil _)
  plain := by simp
  no_link names _ _ target hfind := by
    rw [find?, if_neg (by simp)] at hfind
    obtain ⟨before, after, hsplit, -⟩ := List.lookup_eq_some_iff.1 hfind
    exact hlink (["p"] ++ names, .link target) (by rw [hsplit]; simp) target rfl

theorem shelf_oneTemplate (clock : Time) : (oneTemplate clock).Shelf ⟨"p"⟩ ["p"] [] := by
  refine shelf_of_no_link rfl rfl ?_
  simp [oneTemplate]

theorem shelf_noTemplate (text : String) (clock : Time) :
    (noTemplate text clock).Shelf ⟨"p"⟩ ["p"] [] := by
  refine shelf_of_no_link rfl rfl ?_
  simp [noTemplate]

theorem status_oneTemplate (clock : Time) :
    (oneTemplate clock).status ⟨"views"⟩ = .ok (["views"], .directory) ∧
    (oneTemplate clock).status ⟨"views/b.tmpl"⟩ =
      .ok (["views", "b.tmpl"], .file (.text "b") 5) ∧
    (oneTemplate clock).status ⟨"p"⟩ = .ok (["p"], .directory) ∧
    (oneTemplate clock).status ⟨"p/x.js"⟩ = .error .missing := by
  have hworking : (oneTemplate clock).workingDirectory = [] := rfl
  have hviews : (oneTemplate clock).walk true linkLimit [] ["views"] =
      .ok (.there ["views"] .directory) := by cbv
  have hfile : (oneTemplate clock).walk true linkLimit [] ["views", "b.tmpl"] =
      .ok (.there ["views", "b.tmpl"] (.file (.text "b") 5)) := by cbv
  have hpublic : (oneTemplate clock).walk true linkLimit [] ["p"] =
      .ok (.there ["p"] .directory) := by cbv
  have hartifact : (oneTemplate clock).walk true linkLimit [] ["p", "x.js"] =
      .ok (.absent ["p"] "x.js") := by cbv
  rw [spelled_views.status_eq, spelled_template.status_eq, spelled_public.status_eq,
    spelled_artifact.status_eq, hworking, hviews, hfile, hpublic, hartifact]
  exact ⟨rfl, rfl, rfl, rfl⟩

theorem status_noTemplate (text : String) (clock : Time) :
    (noTemplate text clock).status ⟨"views"⟩ = .ok (["views"], .directory) ∧
    (noTemplate text clock).status ⟨"p/x.js"⟩ =
      .ok (["p", "x.js"], .file (.text text) 101) := by
  have hworking : (noTemplate text clock).workingDirectory = [] := rfl
  have hviews : (noTemplate text clock).walk true linkLimit [] ["views"] =
      .ok (.there ["views"] .directory) := by cbv
  have hartifact : (noTemplate text clock).walk true linkLimit [] ["p", "x.js"] =
      .ok (.there ["p", "x.js"] (.file (.text text) 101)) := by cbv
  rw [spelled_views.status_eq, spelled_artifact.status_eq, hworking, hviews, hartifact]
  exact ⟨rfl, rfl⟩

/-- Below the public directory there is what the service left there. -/
theorem find?_noTemplate (text : String) (names : List String) :
    (noTemplate text 103).find? (["p"] ++ ([] ++ names)) =
      ((oneTemplate 102).put ["p", "x.js"] (.file (.text text) 101)).find?
        (["p"] ++ ([] ++ names)) := by
  simp [find?, noTemplate, oneTemplate, put, Association.assign, List.lookup_cons]

theorem store_oneTemplate (clock : Time) (text : String) :
    (oneTemplate clock).store ⟨"p/x.js"⟩ text =
      (.ok (), (oneTemplate clock).tick.2.put ["p", "x.js"] (.file (.text text) clock)) := by
  obtain ⟨-, -, hpublic, -⟩ := status_oneTemplate clock
  have hhome : homeOf ⟨"p/x.js"⟩ = ⟨"p"⟩ := by decide
  have hensure : (oneTemplate clock).ensureDirectory ⟨"p"⟩ = (.ok (), oneTemplate clock) := by
    simp [ensureDirectory, isThere, isDirectory, hpublic, Except.isOk, Except.toBool]
  have hslot : (oneTemplate clock).slot ⟨"p/x.js"⟩ = .ok ⟨["p"], some "x.js", false⟩ := by
    rw [spelled_artifact.slot_eq]
    cbv
  have hfind : (oneTemplate clock).find? (["p"] ++ ["x.js"]) = none := rfl
  rw [← hhome] at hensure hpublic
  have hroom : checkPath ((homeOf ⟨"p/x.js"⟩).join ⟨temporaryPattern⟩).text = .ok () := by
    rw [hhome]
    decide
  exact store_of_slot (sound_oneTemplate clock) (fun _ => rfl) hensure hpublic hroom hslot
    (by decide) (by rw [hfind]; simp) text

end Disk

namespace Service

open Source

/-- The tree of the one template. -/
def oneTree (builtAt : Time) (r : Renderer) : UnitTree :=
  grown ⟨"views"⟩ builtAt [⟨⟨"views/b.tmpl"⟩, "b", 5, r, []⟩] .done

theorem exists_buildTree_oneTemplate (clock : Time) : ∃ r,
    (buildTree (plainConfig "p" false) (Disk.oneTemplate clock)).1 = .ok (oneTree clock r) := by
  obtain ⟨hviews, hfile, -⟩ := Disk.status_oneTemplate clock
  have hlisting : (Disk.oneTemplate clock).listing ["views"] =
      [("b.tmpl", .file (.text "b") 5)] := by cbv
  have hentries : entries (Disk.oneTemplate clock) "tmpl" ⟨"views"⟩ =
      .ok [("b.tmpl", ⟨"views/b.tmpl"⟩, .template)] :=
    entries_of_listing hviews hlisting (.cons (readAs_plain rfl (Or.inr ⟨_, _, rfl, rfl⟩)) .nil)
  have hsplit : SplitText.ofText "tmpl" "b" = ⟨"b", []⟩ := by cbv
  have hcompile : (Renderer.compile "views/b.tmpl" "b" .standard).isOk = true := by cbv
  obtain ⟨r, hr⟩ := exists_of_isOk hcompile
  obtain ⟨htext, htime⟩ := readText_of_status hfile
  have hscanned : Scanned (Disk.oneTemplate clock) "tmpl" ⟨"views"⟩
      [templateFile (Disk.oneTemplate clock) ⟨"views"⟩ "b.tmpl"] .done := ⟨_, hentries, rfl, rfl⟩
  refine ⟨r, build_of_scanned (Disk.wellFormed_oneTemplate clock) clock hscanned ?_ rfl⟩
  rw [mapM_eq_ok_iff]
  refine .cons ?_ .nil
  rw [compileFile_templateFile_iff]
  refine ⟨rfl, rfl, htime.symm, ⟨_, htext⟩, ?_, ?_⟩
  · simp only [splitOf, textOf, htext, plainConfig, Config.ofSource, Config.buildSettings,
      Conventions.templateExtension, hsplit, hr]
  · simp only [splitOf, textOf, htext, plainConfig, Config.ofSource, Config.buildSettings,
      Conventions.templateExtension, hsplit]
    exact .nil

/-- An artifact of one more unit is longer. -/
theorem script_oneTree_ne (r : Renderer) (builtAt builtAt' : Time) (global : String) :
    Artifact.script (oneTree builtAt r) 0 global ≠
      Artifact.script (emptyTree builtAt') 0 global := by
  have hunits : (oneTree builtAt r).descendants 0 = [0, 1] := by cbv
  have hunits' : (emptyTree builtAt').descendants 0 = [0] := by cbv
  have hcode : Artifact.codeOf (oneTree builtAt r) 0 =
      Artifact.codeOf (emptyTree builtAt') 0 := by
    have hroot : ((oneTree builtAt r).unit? 0).map TemplateUnit.renderer = some .empty := by cbv
    obtain ⟨u, hu, hempty⟩ := Option.map_eq_some_iff.1 hroot
    rw [Artifact.codeOf, hu]
    simp only
    rw [hempty]
    rfl
  have hroot : Artifact.binding (oneTree builtAt r) 0 0 =
      Artifact.binding (emptyTree builtAt') 0 0 := by
    rw [Artifact.binding, Artifact.binding, Artifact.target_top, Artifact.target_top, hcode]
  have hlow : (Artifact.binding (oneTree builtAt r) 0 1).toList.length ≠ 0 := by
    simp [Artifact.binding]
  intro h
  have hlength := congrArg (fun s : String => s.toList.length) h
  simp [Artifact.script, Artifact.bindings, hunits, hunits', hroot, String.join] at hlength
  exact hlow (by rw [hlength]; rfl)

/-- The artifact is served, the template deleted, the tree built anew, the artifact served again. -/
def staleMoves (text : String) : List Move :=
  [.serve .root, .change (Disk.noTemplate text 103) (Disk.sound_noTemplate text 103), .rebuild,
    .serve .root]

theorem storedPath_plainService (t : UnitTree) :
    (plainService "p" false t).gate.storedPath ⟨"p"⟩ .root = .ok ⟨"p/x.js"⟩ := by
  have hpath : (Gate.ofSettings (.persist ⟨"p"⟩) "/x" Conventions.globalName false).storedPath
      ⟨"p"⟩ .root = .ok ⟨"p/x.js"⟩ := by decide
  exact hpath

theorem gate_serve_oneTemplate (t : UnitTree) (i : Nat) :
    (plainService "p" false t).gate.serve (Disk.oneTemplate 101) t i .root =
      (.ok (.stored ⟨"p/x.js"⟩ .rebuilt), (plainService "p" false t).gate,
        (Disk.oneTemplate 102).put ["p", "x.js"]
          (.file (.text (Artifact.script t i Conventions.globalName)) 101)) := by
  obtain ⟨-, -, -, hmissing⟩ := Disk.status_oneTemplate 101
  have hexisting : (Disk.oneTemplate 101).storedAt ⟨"p/x.js"⟩ = .ok none := by
    simp [Disk.storedAt, hmissing]
  exact Gate.serve_of_store rfl (storedPath_plainService t) hexisting rfl
    (Disk.store_oneTemplate 101 (Artifact.script t i Conventions.globalName))

theorem play_oneTemplate {t : UnitTree} (ht : t.resolve .root = some 0) :
    State.play ⟨plainService "p" false t, Disk.oneTemplate 101⟩ (.serve .root) =
      (.served (.ok (.stored ⟨"p/x.js"⟩ .rebuilt)), ⟨plainService "p" false t,
        (Disk.oneTemplate 102).put ["p", "x.js"]
          (.file (.text (Artifact.script t 0 Conventions.globalName)) 101)⟩) := by
  have hserve : (plainService "p" false t).serve (Disk.oneTemplate 101) .root = _ :=
    serve_of_gate ht (gate_serve_oneTemplate t 0)
  simp only [State.play, hserve]

theorem play_rebuild_noTemplate (t : UnitTree) (text : String) :
    State.play ⟨plainService "p" false t, Disk.noTemplate text 103⟩ .rebuild =
      (.rebuilt (.ok ()), ⟨plainService "p" false (emptyTree 103), Disk.noTemplate text 104⟩) := by
  obtain ⟨hviews, -⟩ := Disk.status_noTemplate text 103
  have hlisting : (Disk.noTemplate text 103).listing ["views"] = [] := by cbv
  have hbuild := buildTree_empty "p" false hviews hlisting
  have hrebuild : (plainService "p" false t).rebuild (Disk.noTemplate text 103) = _ :=
    rebuild_of_build hbuild
  simp only [State.play, hrebuild]
  rfl

theorem play_noTemplate (text : String) :
    State.play ⟨plainService "p" false (emptyTree 103), Disk.noTemplate text 104⟩ (.serve .root) =
      (.served (.ok (.stored ⟨"p/x.js"⟩ .reused)), ⟨plainService "p" false (emptyTree 103),
        Disk.noTemplate text 104⟩) := by
  obtain ⟨-, hstatus⟩ := Disk.status_noTemplate text 104
  have hexisting : (Disk.noTemplate text 104).storedAt ⟨"p/x.js"⟩ = .ok (some 101) := by
    simp [Disk.storedAt, hstatus]
  have hgate := Gate.serve_of_current rfl (storedPath_plainService (emptyTree 103)) hexisting
    (i := 0) (t := emptyTree 103) (by decide)
  have hserve : (plainService "p" false (emptyTree 103)).serve (Disk.noTemplate text 104) .root =
      _ := serve_of_gate rfl hgate
  simp only [State.play, hserve]

/-- The last event of the run, which leaves everything as it is. -/
def staleEvent (text : String) : Event :=
  ⟨⟨plainService "p" false (emptyTree 103), Disk.noTemplate text 104⟩, .serve .root,
    .served (.ok (.stored ⟨"p/x.js"⟩ .reused)),
    ⟨plainService "p" false (emptyTree 103), Disk.noTemplate text 104⟩⟩

theorem exists_run_staleMoves {t : UnitTree} (ht : t.resolve .root = some 0) :
    ∃ earlier, State.run ⟨plainService "p" false t, Disk.oneTemplate 101⟩
        (staleMoves (Artifact.script t 0 Conventions.globalName)) =
          earlier ++ [staleEvent (Artifact.script t 0 Conventions.globalName)] ∧
      ∀ e ∈ State.run ⟨plainService "p" false t, Disk.oneTemplate 101⟩
        (staleMoves (Artifact.script t 0 Conventions.globalName)), e.Spares ⟨"p"⟩ ["p"] [] := by
  generalize htext : Artifact.script t 0 Conventions.globalName = text
  have hfirst := play_oneTemplate ht
  rw [htext] at hfirst
  have hsound := Disk.sound_noTemplate text 103
  have hchange : ∀ s : State, s.play (.change (Disk.noTemplate text 103) hsound) =
      (.changed, ⟨s.service, Disk.noTemplate text 103⟩) := fun _ => rfl
  have hrun : State.run ⟨plainService "p" false t, Disk.oneTemplate 101⟩ (staleMoves text) =
      [State.event ⟨plainService "p" false t, Disk.oneTemplate 101⟩ (.serve .root),
        State.event ⟨plainService "p" false t,
          (Disk.oneTemplate 102).put ["p", "x.js"] (.file (.text text) 101)⟩
          (.change (Disk.noTemplate text 103) hsound),
        State.event ⟨plainService "p" false t, Disk.noTemplate text 103⟩ .rebuild] ++
      [staleEvent text] := by
    simp only [staleMoves, State.run, State.event, hfirst, hchange, play_rebuild_noTemplate,
      play_noTemplate]
    rfl
  refine ⟨_, hrun, ?_⟩
  rw [hrun]
  simp only [List.forall_mem_append, List.forall_mem_cons, List.not_mem_nil, false_implies,
    implies_true, and_true]
  -- only the change is one of the disk
  refine ⟨⟨?_, ?_, ?_⟩, ?_⟩ <;> rintro d hd hm <;> cases hm
  exact ⟨Disk.wellFormed_noTemplate text 103, Disk.shelf_noTemplate text 103,
    fun names _ => Disk.find?_noTemplate text names⟩

theorem start_oneTemplate : ∃ r, start (plainConfig "p" false) (Disk.oneTemplate 100) =
    (.ok (plainService "p" false (oneTree 100 r)), Disk.oneTemplate 101) := by
  obtain ⟨r, hr⟩ := exists_buildTree_oneTemplate 100
  obtain ⟨hviews, -, hpublic, -⟩ := Disk.status_oneTemplate 100
  have hfile : (Disk.oneTemplate 100).isFile ⟨"p"⟩ = false := by rw [Disk.isFile, hpublic]
  exact ⟨r, start_plainConfig (by decide) (isDirectory_of_status hviews) hfile hr⟩

theorem storedFor_staleMoves : ∃ r text earlier,
    (Disk.oneTemplate 100).Sound ∧ (Disk.oneTemplate 100).WellFormed ∧
    start (plainConfig "p" false) (Disk.oneTemplate 100) =
      (.ok (plainService "p" false (oneTree 100 r)), Disk.oneTemplate 101) ∧
    (Disk.oneTemplate 100).Shelf ⟨"p"⟩ ["p"] [] ∧
    State.run ⟨plainService "p" false (oneTree 100 r), Disk.oneTemplate 101⟩ (staleMoves text) =
      earlier ++ [staleEvent text] ∧
    (∀ e ∈ State.run ⟨plainService "p" false (oneTree 100 r), Disk.oneTemplate 101⟩
      (staleMoves text), e.Spares ⟨"p"⟩ ["p"] []) ∧
    StoredFor (plainConfig "p" false) (Disk.oneTemplate 100) earlier (staleEvent text) .root
      ⟨"p/x.js"⟩ .reused := by
  obtain ⟨r, hstart⟩ := start_oneTemplate
  obtain ⟨earlier, hrun, hspares⟩ := exists_run_staleMoves (t := oneTree 100 r) rfl
  have hsound := Disk.sound_oneTemplate 100
  have hwell := Disk.wellFormed_oneTemplate 100
  have hshelf := Disk.shelf_oneTemplate 100
  exact ⟨r, _, earlier, hsound, hwell, hstart, hshelf, hrun, hspares,
    storedFor_run hsound hwell hstart rfl rfl hshelf _ hspares earlier _ [] hrun .root
      ⟨"p/x.js"⟩ .reused rfl rfl⟩

/-- The template is gone, and its artifact is served as current. -/
theorem exists_reused_stale : ∃ c d s d' p top rest moves earlier e path,
    d.Sound ∧ d.WellFormed ∧ start c d = (.ok s, d') ∧ s.config.reload = false ∧
    s.config.publicDirectory = some p ∧ d.Shelf p top rest ∧
    (∀ e ∈ State.run ⟨s, d'⟩ moves, e.Spares p top rest) ∧
    State.run ⟨s, d'⟩ moves = earlier ++ [e] ∧ e.before.key? e.move = some .root ∧
    e.answer.stored? = some (path, .reused) ∧
    ¬ HoldsScript e.after.disk path e.after.service.tree .root s.config.global := by
  obtain ⟨r, hstart⟩ := start_oneTemplate
  obtain ⟨earlier, hrun, hspares⟩ := exists_run_staleMoves (t := oneTree 100 r) rfl
  refine ⟨_, _, _, _, ⟨"p"⟩, ["p"], [], _, earlier, _, ⟨"p/x.js"⟩, Disk.sound_oneTemplate 100,
    Disk.wellFormed_oneTemplate 100, hstart, rfl, rfl, Disk.shelf_oneTemplate 100, hspares,
    hrun, rfl, rfl, ?_⟩
  rintro ⟨i, hi, hread⟩
  obtain rfl : 0 = i := Option.some.inj hi
  obtain ⟨-, hstatus⟩ :=
    Disk.status_noTemplate (Artifact.script (oneTree 100 r) 0 Conventions.globalName) 104
  have hsame := (readText_of_status hstatus).1.symm.trans hread
  exact script_oneTree_ne r 100 103 Conventions.globalName (Except.ok.inj hsame)

end Service

end TemplateBundler
