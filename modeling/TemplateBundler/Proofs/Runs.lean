import TemplateBundler.Proofs.Stores
import TemplateBundler.Service
import TemplateBundler.Template.Stock

/-!
# Runs of a service

Between any two calls of a service the disk may change in any way. The published tree is still that
of the last build that succeeded, a build that fails changes nothing, and a service that reloads
delivers the source as it is at the request (`upToDate_run`).

What the service keeps of its configuration never changes (`Tuned`), and serving changes nothing
but the memory of the gate (`serve_service`), so that a tree is published by a build alone:

    s.builds m = false → (s.play m).2.service.tree = s.service.tree            (play_of_not_builds)
    s.builds m = true → (buildTree s.service.config s.disk).1 = .ok t →
      (s.play m).2.service.tree = t                                                 (play_of_build)
-/

namespace TemplateBundler

/-! ## Serving -/

namespace Gate

theorem respond_gate (g : Gate) (t : UnitTree) (i : Nat) (k : KeyPath) (time : Time) :
    ∃ memory, (g.respond t i k time).2.2 = { g with memory } := by
  unfold respond
  split
  · split
    · exact ⟨g.memory, rfl⟩
    · exact ⟨_, rfl⟩
  · exact ⟨_, rfl⟩

theorem serve_gate (g : Gate) (d : Disk) (t : UnitTree) (i : Nat) (k : KeyPath) :
    ∃ memory, (g.serve d t i k).2.1 = { g with memory } := by
  unfold serve
  split
  · split
    · exact ⟨g.memory, rfl⟩
    · split <;> exact ⟨g.memory, rfl⟩
  · exact g.respond_gate t i k d.tick.1

/-- What a store and the clock keep, serving keeps. -/
theorem serve_keeps {P : Disk → Prop} (hstore : ∀ d path text, P d → P (d.store path text).2)
    (htick : ∀ d, P d → P d.tick.2) {d : Disk} (hd : P d) (g : Gate) (t : UnitTree) (i : Nat)
    (k : KeyPath) : P (g.serve d t i k).2.2 := by
  have hpersist : ∀ path, P (g.persist d t i path).2 := by
    intro path
    unfold persist
    split
    · exact hd
    · split
      · exact hd
      · have hstored := hstore d path (Artifact.script t i g.global) hd
        split
        · next heq => rwa [heq] at hstored
        · next heq => rwa [heq] at hstored
  unfold serve
  split
  · split
    · exact hd
    · next path _ =>
      have := hpersist path
      split
      · next heq => rwa [heq] at this
      · next heq => rwa [heq] at this
  · exact htick d hd

/-- How an artifact comes to be stored. -/
theorem serve_stored {g : Gate} {d : Disk} {t : UnitTree} {i : Nat} {k : KeyPath} {path : FilePath}
    {action : Action} (h : (g.serve d t i k).1 = .ok (.stored path action)) :
    ∃ directory existing, g.delivery = .persist directory ∧ g.storedPath directory k = .ok path ∧
      d.storedAt path = .ok existing ∧ decide t i existing g.alwaysRebuild = action ∧
      (action = .reused → (g.serve d t i k).2.2 = d) ∧
      (action = .rebuilt →
        d.store path (Artifact.script t i g.global) = (.ok (), (g.serve d t i k).2.2)) := by
  cases hdelivery : g.delivery with
  | respond =>
    simp only [serve, hdelivery] at h
    cases h
  | persist directory =>
    cases hpath : g.storedPath directory k with
    | error e =>
      simp only [serve, hdelivery, hpath] at h
      cases h
    | ok path' =>
      cases hexisting : d.storedAt path' with
      | error e =>
        simp only [serve, hdelivery, hpath, persist, hexisting] at h
        cases h
      | ok existing =>
        simp only [serve, hdelivery, hpath, persist, hexisting] at h ⊢
        cases hdecide : decide t i existing g.alwaysRebuild with
        | reused =>
          simp only [hdecide, Except.ok.injEq, Served.stored.injEq] at h ⊢
          obtain ⟨rfl, rfl⟩ := h
          exact ⟨directory, existing, rfl, hpath, hexisting, hdecide, fun _ => trivial, nofun⟩
        | rebuilt =>
          simp only [hdecide] at h ⊢
          cases hstore : d.store path' (Artifact.script t i g.global) with
          | mk result after =>
            simp only [hstore] at h ⊢
            cases result with
            | error e => cases h
            | ok u =>
              simp only [Except.ok.injEq, Served.stored.injEq] at h ⊢
              obtain ⟨rfl, rfl⟩ := h
              exact ⟨directory, existing, rfl, hpath, hexisting, hdecide, nofun, fun _ => hstore⟩

theorem serve_of_store {g : Gate} {d d' : Disk} {t : UnitTree} {i : Nat} {k : KeyPath}
    {directory path : FilePath} {existing : Option Time}
    (hdelivery : g.delivery = .persist directory) (hpath : g.storedPath directory k = .ok path)
    (hexisting : d.storedAt path = .ok existing)
    (hdecide : decide t i existing g.alwaysRebuild = .rebuilt)
    (hstore : d.store path (Artifact.script t i g.global) = (.ok (), d')) :
    g.serve d t i k = (.ok (.stored path .rebuilt), g, d') := by
  simp only [serve, hdelivery, hpath, persist, hexisting, hdecide, hstore]

theorem serve_of_current {g : Gate} {d : Disk} {t : UnitTree} {i : Nat} {k : KeyPath}
    {directory path : FilePath} {existing : Option Time}
    (hdelivery : g.delivery = .persist directory) (hpath : g.storedPath directory k = .ok path)
    (hexisting : d.storedAt path = .ok existing)
    (hdecide : decide t i existing g.alwaysRebuild = .reused) :
    g.serve d t i k = (.ok (.stored path .reused), g, d) := by
  simp only [serve, hdelivery, hpath, persist, hexisting, hdecide]

/-- A gate that always rebuilds gives back what it generates. -/
theorem serve_inline {g : Gate} {d : Disk} {t : UnitTree} {i : Nat} {k : KeyPath}
    {artifact : Artifact} {action : Action} (halways : g.alwaysRebuild = true)
    (h : (g.serve d t i k).1 = .ok (.inline artifact action)) :
    artifact.body = Artifact.script t i g.global := by
  unfold serve at h
  split at h
  · split at h
    · cases h
    · split at h <;> cases h
  · simp only [respond, halways, decide_always] at h
    split at h
    all_goals
      simp only [generateInline, Except.ok.injEq, Served.inline.injEq] at h
      exact h.1 ▸ rfl

end Gate

namespace Service

def withMemory (s : Service) (memory : List (KeyPath × Remembered)) : Service :=
  { s with gate := { s.gate with memory } }

/-- **What serving comes to**: nothing for a key path without a unit, else what the gate serves, or
the artifact itself where the gate cannot store it. Only the memory of the gate changes. -/
theorem serve_cases (s : Service) (d : Disk) (k : KeyPath) :
    (s.tree.resolve k = none ∧ s.serve d k = (.error (.notFound k.text), s, d)) ∨
    ∃ i memory, s.tree.resolve k = some i ∧
      (s.serve d k = ((s.gate.serve d s.tree i k).1, s.withMemory memory,
          (s.gate.serve d s.tree i k).2.2) ∨
        ∃ time e, (s.gate.serve d s.tree i k).1 = .error e ∧
          s.serve d k = (.ok (.inline (Artifact.generate s.tree i s.gate.global time) .rebuilt),
            s.withMemory memory, (s.gate.serve d s.tree i k).2.2.tick.2)) := by
  cases hi : s.tree.resolve k with
  | none => exact Or.inl ⟨rfl, by simp only [serve, Gate.resolve, hi]⟩
  | some i =>
    refine Or.inr ⟨i, ?_⟩
    obtain ⟨memory, hgate⟩ := s.gate.serve_gate d s.tree i k
    have hresolve : Gate.resolve s.tree k = .ok i := by simp only [Gate.resolve, hi]
    unfold serve
    rw [hresolve]
    simp only
    generalize s.gate.serve d s.tree i k = r at hgate ⊢
    obtain ⟨result, gate, after⟩ := r
    simp only at hgate
    subst hgate
    split
    · next heq =>
      cases heq
      exact ⟨memory, trivial, Or.inl rfl⟩
    · next heq =>
      cases heq
      split
      · exact ⟨_, trivial, Or.inr ⟨_, _, rfl, rfl⟩⟩
      · exact ⟨memory, trivial, Or.inl rfl⟩
    · next heq =>
      cases heq
      exact ⟨memory, trivial, Or.inl rfl⟩

theorem serve_service (s : Service) (d : Disk) (k : KeyPath) :
    ∃ memory, (s.serve d k).2.1 = s.withMemory memory := by
  rcases s.serve_cases d k with ⟨-, h⟩ | ⟨i, memory, -, h | ⟨time, e, -, h⟩⟩
  · rw [h]; exact ⟨s.gate.memory, rfl⟩
  · rw [h]; exact ⟨memory, rfl⟩
  · rw [h]; exact ⟨memory, rfl⟩

theorem serve_keeps {P : Disk → Prop} (hstore : ∀ d path text, P d → P (d.store path text).2)
    (htick : ∀ d, P d → P d.tick.2) {d : Disk} (hd : P d) (s : Service) (k : KeyPath) :
    P (s.serve d k).2.2 := by
  rcases s.serve_cases d k with ⟨-, h⟩ | ⟨i, memory, -, h | ⟨time, e, -, h⟩⟩
  · rw [h]; exact hd
  · rw [h]; exact Gate.serve_keeps hstore htick hd _ _ _ _
  · rw [h]; exact htick _ (Gate.serve_keeps hstore htick hd _ _ _ _)

theorem sound_serve {d : Disk} (hd : d.Sound) (s : Service) (k : KeyPath) :
    (s.serve d k).2.2.Sound :=
  serve_keeps (fun _ path text hd => hd.store path text) (fun _ hd => hd.tick) hd s k

/-- How an answer comes to name a stored artifact. -/
theorem serve_stored {s : Service} {d : Disk} {k : KeyPath} {path : FilePath} {action : Action}
    (h : (s.serve d k).1 = .ok (.stored path action)) :
    ∃ i, s.tree.resolve k = some i ∧ (s.gate.serve d s.tree i k).1 = .ok (.stored path action) ∧
      (s.serve d k).2.2 = (s.gate.serve d s.tree i k).2.2 := by
  rcases s.serve_cases d k with ⟨-, heq⟩ | ⟨i, memory, hi, heq | ⟨time, e, -, heq⟩⟩
  · rw [heq] at h
    cases h
  · rw [heq] at h ⊢
    exact ⟨i, hi, h, rfl⟩
  · rw [heq] at h
    cases h

/-! ## Requests -/

theorem answer_eq (s : Service) (d : Disk) (k : KeyPath) :
    (s.answer d k).2 = (s.serve d k).2 := by
  unfold answer
  split
  · next heq => rw [heq]
  · next heq => rw [heq]

theorem answer_served {s : Service} {d : Disk} {k : KeyPath} {served : Served}
    (h : (s.answer d k).1 = .ok (.served served)) : (s.serve d k).1 = .ok served := by
  unfold answer at h
  split at h
  · next heq =>
    simp only [Except.ok.injEq, Outcome.served.injEq] at h
    rw [heq, h]
  · split at h <;> cases h

/-- The key path that a request asks for, if it is for an artifact. -/
def asked? (s : Service) (method url : String) : Option KeyPath :=
  if method ∈ methods then s.keyPathOfUrl? url else none

/-- **What handling comes to.** -/
theorem handle_eq [Template.Language] (s : Service) (d : Disk) (method url : String) :
    s.handle d method url =
    match s.asked? method url with
    | none => (.ok .passThrough, s, d)
    | some k =>
      if s.config.reload then
        match s.rebuild d with
        | (.error e, s, d) => (.error e, s, d)
        | (.ok (), s, d) => s.answer d k
      else s.answer d k := by
  unfold handle asked?
  split <;> rfl

/-! ## Runs -/

/-- A service at work, and the disk around it. -/
structure State where
  service : Service
  disk : Disk

inductive Move where
  /-- Something else than the service changes the disk. -/
  | change (d : Disk) (sound : d.Sound)
  | handle (method url : String)
  | serve (k : KeyPath)
  | rebuild

inductive Answer where
  | changed
  | handled (result : Except BundleError Outcome)
  | served (result : Except BundleError Served)
  | rebuilt (result : Except BundleError Unit)

structure Event where
  before : State
  move : Move
  answer : Answer
  after : State

section

variable [Template.Language]

def State.play (s : State) : Move → Answer × State
  | .change d _ => (.changed, ⟨s.service, d⟩)
  | .handle method url =>
    (.handled (s.service.handle s.disk method url).1, ⟨(s.service.handle s.disk method url).2.1,
      (s.service.handle s.disk method url).2.2⟩)
  | .serve k =>
    (.served (s.service.serve s.disk k).1, ⟨(s.service.serve s.disk k).2.1,
      (s.service.serve s.disk k).2.2⟩)
  | .rebuild =>
    (.rebuilt (s.service.rebuild s.disk).1, ⟨(s.service.rebuild s.disk).2.1,
      (s.service.rebuild s.disk).2.2⟩)

/-- The event of a move. -/
def State.event (s : State) (m : Move) : Event := ⟨s, m, (s.play m).1, (s.play m).2⟩

/-- What happens over some moves in a row. -/
def State.run (s : State) : List Move → List Event
  | [] => []
  | m :: moves => s.event m :: (s.play m).2.run moves

def Answer.error? : Answer → Option BundleError
  | .handled (.error e) => some e
  | .served (.error e) => some e
  | .rebuilt (.error e) => some e
  | _ => none

/-- The move makes the service build its source. -/
def State.builds (s : State) : Move → Bool
  | .rebuild => true
  | .handle method url => s.service.config.reload && (s.service.asked? method url).isSome
  | _ => false

/-- The disk as it was when the event built the source, if it did and succeeded. -/
def Event.built? (e : Event) : Option Disk :=
  if e.before.builds e.move && (buildTree e.before.service.config e.before.disk).1.isOk then
    some e.before.disk
  else none

/-- The disk as it was at the last successful build; the first build was on `first`. -/
def lastBuilt (first : Disk) (events : List Event) : Disk :=
  ((events.filterMap Event.built?).getLast?).getD first

/-! ## What a run shall do -/

/-- A script is delivered: it can be read where it was stored, or was given back. -/
def Delivers (before after : Disk) (script : String) : Served → Prop
  | .stored path _ => before.Settled path → after.readText path = .ok script
  | .inline artifact _ => artifact.body = script

/-- An event after others, of a service with the configuration `c` that was first built on `first`.
-/
structure UpToDate (c : Config) (first : Disk) (earlier : List Event) (e : Event) : Prop where
  /-- The published tree is that of the last successful build. -/
  published :
    (buildTree c (lastBuilt first (earlier ++ [e]))).1 = .ok e.after.service.tree
  /-- A build that fails is reported, and changes nothing of the service. -/
  failed : ∀ error, e.before.builds e.move = true →
    (buildTree c e.before.disk).1 = .error error →
    e.answer.error? = some error ∧ e.after.service = e.before.service
  /-- With reload on, what is delivered is the source as it is at the request. -/
  delivered : ∀ method url served, c.reload = true → e.move = .handle method url →
    e.answer = .handled (.ok (.served served)) → ∃ k t i,
      Address.keyPath? c.urlPrefix url = some k ∧ (buildTree c e.before.disk).1 = .ok t ∧
      t.resolve k = some i ∧
      Delivers e.before.disk e.after.disk (Artifact.script t i c.global) served

/-! ## Lemmas -/

theorem lastBuilt_concat (first : Disk) (events : List Event) (e : Event) :
    lastBuilt first (events ++ [e]) = e.built?.getD (lastBuilt first events) := by
  unfold lastBuilt
  rw [List.filterMap_append]
  cases he : e.built? <;> simp [he]

theorem rebuild_of_build {s : Service} {d : Disk} {t : UnitTree}
    (h : (buildTree s.config d).1 = .ok t) :
    s.rebuild d = (.ok (), { s with tree := t, gate := s.gate.clear }, d.tick.2) := by
  simp only [buildTree] at h
  simp only [rebuild, buildTree, h]

theorem rebuild_of_failed {s : Service} {d : Disk} {e : BundleError}
    (h : (buildTree s.config d).1 = .error e) : s.rebuild d = (.error e, s, d.tick.2) := by
  simp only [buildTree] at h
  simp only [rebuild, buildTree, h]

theorem rebuild_disk (s : Service) (d : Disk) : (s.rebuild d).2.2 = d.tick.2 := by
  cases hb : (buildTree s.config d).1 with
  | error e => rw [rebuild_of_failed hb]
  | ok t => rw [rebuild_of_build hb]

end

/-- A service keeps its configuration, and its gate what it was made with. -/
structure Tuned (c : Config) (s : State) : Prop where
  config_eq : s.service.config = c
  gate_eq : s.service.gate =
    { Gate.ofSettings c.delivery c.urlPrefix c.global c.reload with
      memory := s.service.gate.memory }
  sound : s.disk.Sound

section Tuned
variable {c : Config} {s : State} (h : Tuned c s)

include h

theorem Tuned.withMemory (memory : List (KeyPath × Remembered)) {d : Disk} (hd : d.Sound) :
    Tuned c ⟨s.service.withMemory memory, d⟩ where
  config_eq := h.config_eq
  gate_eq := by
    change { s.service.gate with memory } = _
    rw [h.gate_eq]
    rfl
  sound := hd

theorem Tuned.serve (k : KeyPath) :
    Tuned c ⟨(s.service.serve s.disk k).2.1, (s.service.serve s.disk k).2.2⟩ := by
  obtain ⟨memory, hmemory⟩ := serve_service s.service s.disk k
  rw [hmemory]
  exact h.withMemory memory (sound_serve h.sound s.service k)

theorem Tuned.publish (t : UnitTree) :
    Tuned c ⟨{ s.service with tree := t, gate := s.service.gate.clear }, s.disk.tick.2⟩ where
  config_eq := h.config_eq
  gate_eq := (h.withMemory [] h.sound).gate_eq
  sound := h.sound.tick

theorem Tuned.rebuild [Template.Language] :
    Tuned c ⟨(s.service.rebuild s.disk).2.1, (s.service.rebuild s.disk).2.2⟩ := by
  cases hb : (buildTree s.service.config s.disk).1 with
  | error e =>
    rw [rebuild_of_failed hb]
    exact ⟨h.config_eq, h.gate_eq, h.sound.tick⟩
  | ok t =>
    rw [rebuild_of_build hb]
    exact h.publish t

theorem Tuned.play [Template.Language] (m : Move) : Tuned c (s.play m).2 := by
  cases m with
  | change d hd => exact ⟨h.config_eq, h.gate_eq, hd⟩
  | serve k => exact h.serve k
  | rebuild => exact h.rebuild
  | handle method url =>
    change Tuned c ⟨(s.service.handle s.disk method url).2.1,
      (s.service.handle s.disk method url).2.2⟩
    rw [handle_eq]
    split
    · exact h
    next k _ =>
    split
    · have hrebuild := h.rebuild
      split
      · next heq => rwa [heq] at hrebuild
      · next heq =>
        rw [heq] at hrebuild
        rw [answer_eq]
        exact hrebuild.serve k
    · rw [answer_eq]
      exact h.serve k

end Tuned

/-! ## One move -/

theorem Delivers.of_tick {before after : Disk} {script : String} {served : Served}
    (h : Delivers before.tick.2 after script served) : Delivers before after script served := by
  cases served with
  | inline artifact action => exact h
  | stored path action =>
    intro hsettled
    refine h (hsettled.imp_right fun hhome => ?_)
    rw [Disk.isDirectory_tick, hhome]

theorem handle_of_failed [Template.Language] {s : Service} {d : Disk} {method url : String}
    {k : KeyPath} {e : BundleError} (hreload : s.config.reload = true)
    (hk : s.asked? method url = some k) (he : (buildTree s.config d).1 = .error e) :
    s.handle d method url = (.error e, s, d.tick.2) := by
  rw [handle_eq, hk]
  simp only [hreload, if_true, rebuild_of_failed he]

theorem handle_of_build [Template.Language] {s : Service} {d : Disk} {method url : String}
    {k : KeyPath} {t : UnitTree} (hreload : s.config.reload = true)
    (hk : s.asked? method url = some k) (ht : (buildTree s.config d).1 = .ok t) :
    s.handle d method url =
      answer { s with tree := t, gate := s.gate.clear } d.tick.2 k := by
  rw [handle_eq, hk]
  simp only [hreload, if_true, rebuild_of_build ht]

theorem tree_serve (s : Service) (d : Disk) (k : KeyPath) : (s.serve d k).2.1.tree = s.tree := by
  obtain ⟨memory, h⟩ := serve_service s d k
  rw [h]
  rfl

section Play
variable [Template.Language] {s : State} {m : Move}

omit [Template.Language] in
theorem builds_handle {method url : String} (h : s.builds (.handle method url) = true) :
    s.service.config.reload = true ∧ ∃ k, s.service.asked? method url = some k := by
  rw [State.builds, Bool.and_eq_true, Option.isSome_iff_exists] at h
  exact h

theorem play_of_not_builds (h : s.builds m = false) :
    (s.play m).2.service.tree = s.service.tree := by
  cases m with
  | change d hd => rfl
  | serve k => exact tree_serve s.service s.disk k
  | rebuild => cases h
  | handle method url =>
    change (s.service.handle s.disk method url).2.1.tree = _
    rw [handle_eq]
    cases hk : s.service.asked? method url with
    | none => rfl
    | some k =>
      have hreload : s.service.config.reload = false := by simpa [State.builds, hk] using h
      simp only [hreload, Bool.false_eq_true, if_false, answer_eq]
      exact tree_serve s.service s.disk k

/-- **A build that fails.** -/
theorem play_of_failed (h : s.builds m = true) {e : BundleError}
    (he : (buildTree s.service.config s.disk).1 = .error e) :
    (s.play m).1.error? = some e ∧ (s.play m).2.service = s.service := by
  cases m with
  | change d hd => cases h
  | serve k => cases h
  | rebuild => simp only [State.play, rebuild_of_failed he, Answer.error?, and_self]
  | handle method url =>
    obtain ⟨hreload, k, hk⟩ := builds_handle h
    simp only [State.play, handle_of_failed hreload hk he, Answer.error?, and_self]

/-- **A build that succeeds.** -/
theorem play_of_build (h : s.builds m = true) {t : UnitTree}
    (ht : (buildTree s.service.config s.disk).1 = .ok t) : (s.play m).2.service.tree = t := by
  cases m with
  | change d hd => cases h
  | serve k => cases h
  | rebuild => simp only [State.play, rebuild_of_build ht]
  | handle method url =>
    obtain ⟨hreload, k, hk⟩ := builds_handle h
    simp only [State.play, handle_of_build hreload hk ht, answer_eq, tree_serve]

end Play

theorem Tuned.global_eq {c : Config} {s : State} (h : Tuned c s) :
    s.service.gate.global = c.global := by
  rw [h.gate_eq]
  rfl

theorem Tuned.always_eq {c : Config} {s : State} (h : Tuned c s) :
    s.service.gate.alwaysRebuild = c.reload := by
  rw [h.gate_eq]
  rfl

theorem Tuned.delivery_eq {c : Config} {s : State} (h : Tuned c s) {p : FilePath}
    (hpublic : c.publicDirectory = some p) : s.service.gate.delivery = .persist p := by
  have hdelivery : c.delivery = .persist p := by rw [Config.delivery, hpublic]
  rw [h.gate_eq]
  exact hdelivery

theorem Tuned.keyPath?_of_asked? {c : Config} {s : State} (h : Tuned c s) {method url : String}
    {k : KeyPath} (hk : s.service.asked? method url = some k) :
    Address.keyPath? c.urlPrefix url = some k := by
  rw [← h.config_eq]
  unfold asked? at hk
  split at hk
  · exact hk
  · cases hk

/-- What a gate that always rebuilds serves. -/
theorem delivers_serve {c : Config} {s : State} (h : Tuned c s) (hreload : c.reload = true)
    {k : KeyPath} {served : Served} (hserved : (s.service.serve s.disk k).1 = .ok served) :
    ∃ i, s.service.tree.resolve k = some i ∧
      Delivers s.disk (s.service.serve s.disk k).2.2 (Artifact.script s.service.tree i c.global)
        served := by
  have halways := h.always_eq.trans hreload
  have hglobal := h.global_eq
  rcases s.service.serve_cases s.disk k with ⟨-, heq⟩ | ⟨i, memory, hi, heq | ⟨time, e, -, heq⟩⟩
  · rw [heq] at hserved
    cases hserved
  · refine ⟨i, hi, ?_⟩
    rw [heq] at hserved ⊢
    rw [← hglobal]
    cases served with
    | stored path action =>
      intro hsettled
      obtain ⟨directory, existing, -, -, hexisting, haction, -, hrebuilt⟩ :=
        Gate.serve_stored hserved
      rw [halways, Gate.decide_always] at haction
      exact Disk.readText_of_store h.sound hexisting (hrebuilt haction.symm) hsettled
    | inline artifact action => exact Gate.serve_inline halways hserved
  · refine ⟨i, hi, ?_⟩
    rw [heq] at hserved ⊢
    cases hserved
    rw [← hglobal]
    rfl

section

variable [Template.Language]

theorem delivers_handle {c : Config} {s : State} (h : Tuned c s) (hreload : c.reload = true)
    {method url : String} {served : Served}
    (hserved : (s.service.handle s.disk method url).1 = .ok (.served served)) : ∃ k t i,
      Address.keyPath? c.urlPrefix url = some k ∧ (buildTree c s.disk).1 = .ok t ∧
      t.resolve k = some i ∧ Delivers s.disk (s.service.handle s.disk method url).2.2
        (Artifact.script t i c.global) served := by
  cases hk : s.service.asked? method url with
  | none =>
    rw [handle_eq, hk] at hserved
    cases hserved
  | some k =>
    have hurl := h.keyPath?_of_asked? hk
    rw [← h.config_eq] at hreload
    cases hb : (buildTree s.service.config s.disk).1 with
    | error e =>
      rw [handle_of_failed hreload hk hb] at hserved
      cases hserved
    | ok t =>
      rw [handle_of_build hreload hk hb] at hserved ⊢
      rw [h.config_eq] at hreload hb
      obtain ⟨i, hi, hdelivers⟩ := delivers_serve (h.publish t) hreload (answer_served hserved)
      rw [answer_eq]
      exact ⟨k, t, i, hurl, hb, hi, hdelivers.of_tick⟩

/-! ## Whole runs -/

/-- **One move** does what it shall, whatever came before it. -/
theorem upToDate_event {c : Config} {first : Disk} {earlier : List Event} {s : State}
    (h : Tuned c s)
    (hpublished : (buildTree c (lastBuilt first earlier)).1 = .ok s.service.tree) (m : Move) :
    UpToDate c first earlier (s.event m) where
  published := by
    rw [lastBuilt_concat]
    cases hbuilds : s.builds m with
    | false =>
      have hnone : (s.event m).built? = none := by simp [Event.built?, State.event, hbuilds]
      rw [hnone, Option.getD_none, hpublished]
      exact congrArg _ (play_of_not_builds hbuilds).symm
    | true =>
      cases hb : (buildTree s.service.config s.disk).1 with
      | error e =>
        have hnone : (s.event m).built? = none := by
          simp [Event.built?, State.event, hb, Except.isOk, Except.toBool]
        rw [hnone, Option.getD_none, hpublished]
        exact congrArg (fun s => Except.ok s.tree) (play_of_failed hbuilds hb).2.symm
      | ok t =>
        have hsome : (s.event m).built? = some s.disk := by
          simp [Event.built?, State.event, hbuilds, hb, Except.isOk, Except.toBool]
        rw [hsome, Option.getD_some, ← h.config_eq, hb]
        exact congrArg _ (play_of_build hbuilds hb).symm
  failed error hbuilds he := by
    rw [← h.config_eq] at he
    exact play_of_failed hbuilds he
  delivered method url served hreload hm hanswer := by
    change m = .handle method url at hm
    subst hm
    refine delivers_handle h hreload ?_
    change Answer.handled _ = _ at hanswer
    exact Answer.handled.inj hanswer

/-- **A run step by step.** An invariant of the state and the events so far, kept by every move that
is allowed, says of every event of a run what one move says of its own. -/
theorem run_keeps {I : State → List Event → Prop} {A : Event → Prop}
    {P : List Event → Event → Prop}
    (hstep : ∀ s past m, I s past → A (s.event m) →
      P past (s.event m) ∧ I (s.play m).2 (past ++ [s.event m])) (moves : List Move) :
    ∀ (s : State) (past : List Event), I s past → (∀ e ∈ s.run moves, A e) →
      ∀ earlier e later, s.run moves = earlier ++ e :: later → P (past ++ earlier) e := by
  induction moves with
  | nil =>
    intro s past _ _ earlier e later hrun
    simp [State.run] at hrun
  | cons m moves ih =>
    intro s past h hallowed earlier e later hrun
    rw [State.run] at hrun hallowed
    obtain ⟨hevent, hafter⟩ := hstep s past m h (hallowed _ List.mem_cons_self)
    cases earlier with
    | nil =>
      obtain ⟨rfl, -⟩ := List.cons.inj hrun
      rwa [List.append_nil]
    | cons e' earlier =>
      obtain ⟨rfl, hrest⟩ := List.cons.inj hrun
      have := ih _ (past ++ [s.event m]) hafter
        (fun e he => hallowed e (List.mem_cons_of_mem _ he)) earlier e later hrest
      rwa [List.append_assoc] at this

theorem start_ok {c : Config} {d d' : Disk} {s : Service} (h : start c d = (.ok s, d'))
    (hd : d.Sound) :
    (buildTree s.config d).1 = .ok s.tree ∧ d' = d.tick.2 ∧ Tuned s.config ⟨s, d'⟩ := by
  unfold start at h
  split at h
  · cases h
  next c' _ =>
  split at h
  · cases h
  · next tree _ hbuild =>
    cases h
    have hafter : d' = d.tick.2 := congrArg Prod.snd hbuild.symm
    exact ⟨congrArg Prod.fst hbuild, hafter, rfl, rfl, hafter ▸ hd.tick⟩

/-- **A service is up to date** at every event of every run. -/
theorem upToDate_run {c : Config} {d d' : Disk} {s : Service} (hd : d.Sound)
    (h : start c d = (.ok s, d')) (moves : List Move) :
    (buildTree s.config d).1 = .ok s.tree ∧
    ∀ earlier e later, State.run ⟨s, d'⟩ moves = earlier ++ e :: later →
      UpToDate s.config d earlier e := by
  obtain ⟨hbuild, -, htuned⟩ := start_ok h hd
  refine ⟨hbuild, run_keeps (A := fun _ => True) (P := UpToDate s.config d)
    (I := fun state events => Tuned s.config state ∧
      (buildTree s.config (lastBuilt d events)).1 = .ok state.service.tree)
    ?_ moves ⟨s, d'⟩ [] ⟨htuned, hbuild⟩ fun _ _ => trivial⟩
  rintro state past m ⟨h, hpublished⟩ -
  have hevent := upToDate_event h hpublished m
  exact ⟨hevent, h.play m, hevent.published⟩

end

/-- A service that stores below a directory, with everything else as it comes. -/
def plainConfig (directory : String) (reload : Bool) : Config :=
  { Config.ofSource ⟨"views"⟩ "/x" with publicDirectory := some ⟨directory⟩, reload }

def plainService (directory : String) (reload : Bool) (t : UnitTree) : Service :=
  ⟨plainConfig directory reload, t,
    .ofSettings (.persist ⟨directory⟩) "/x" Conventions.globalName reload⟩

/-- The tree of a source without templates. -/
def emptyTree (builtAt : Time) : UnitTree := Source.treeOf.rootOnly ⟨"views"⟩ builtAt

theorem normalize_plainConfig {directory : String} (reload : Bool) {d : Disk}
    (htrim : FilePath.trimSeparators ⟨directory⟩ = ⟨directory⟩)
    (hviews : d.isDirectory ⟨"views"⟩ = true) (hfile : d.isFile ⟨directory⟩ = false) :
    (plainConfig directory reload).normalize d = .ok (plainConfig directory reload) := by
  have hprefix : Config.normalPrefix "/x" = .ok "/x" := by decide
  have hglobal : Config.checkGlobal Conventions.globalName = .ok () := by decide
  have hextension : Config.checkExtension Conventions.templateExtension = .ok () := by decide
  have htrim' : FilePath.trimSeparators ⟨"views"⟩ = ⟨"views"⟩ := by decide
  have hsource : Config.checkSource d ⟨"views"⟩ = .ok () := by
    rw [Config.checkSource, if_pos hviews]
  have hpublic : Config.checkPublic d (some ⟨directory⟩) = .ok () := by
    simp [Config.checkPublic, hfile]
  simp only [Config.normalize, plainConfig, Config.ofSource, hprefix, hglobal, hextension,
    hsource, htrim', htrim, hpublic, Option.map_some, bind, Except.bind]

theorem start_plainConfig [Template.Language] {directory : String} {reload : Bool} {d : Disk}
    {t : UnitTree} (htrim : FilePath.trimSeparators ⟨directory⟩ = ⟨directory⟩)
    (hviews : d.isDirectory ⟨"views"⟩ = true) (hfile : d.isFile ⟨directory⟩ = false)
    (hb : (buildTree (plainConfig directory reload) d).1 = .ok t) :
    start (plainConfig directory reload) d = (.ok (plainService directory reload t), d.tick.2) := by
  have hnormal := normalize_plainConfig reload htrim hviews hfile
  simp only [buildTree] at hb
  simp only [start, hnormal, buildTree, hb]
  rfl

theorem buildTree_empty [Template.Language] {d : Disk} {here : Place} (directory : String)
    (reload : Bool) (hstatus : d.status ⟨"views"⟩ = .ok (here, .directory))
    (hlisting : d.listing here = []) :
    (buildTree (plainConfig directory reload) d).1 = .ok (emptyTree d.clock) := by
  have hentries : Source.entries d "tmpl" ⟨"views"⟩ = .ok [] := by
    simp only [Source.entries, hstatus, hlisting]
    rfl
  change Source.build d ⟨"tmpl", .standard⟩ ⟨"views"⟩ d.clock = _
  simp only [Source.build, Source.scan, hstatus, Disk.pathLimit, Source.scanDown, Source.scanRow,
    hentries]
  rfl

theorem isDirectory_of_status {d : Disk} {p : FilePath} {here : Place}
    (h : d.status p = .ok (here, .directory)) : d.isDirectory p = true := by
  rw [Disk.isDirectory, h]

section LinkDisk
variable (directory : String) (clock : Time)

theorem status_linkDisk_views :
    (Disk.linkDisk clock).status ⟨"views"⟩ = .ok (["views"], .directory) := by
  have hwalk : (Disk.linkDisk clock).walk true Disk.linkLimit (Disk.linkDisk clock).workingDirectory
      ["views"] = .ok (.there ["views"] .directory) := by cbv
  rw [Disk.spelled_views.status_eq, hwalk]

theorem buildTree_linkDisk [Template.Language] :
    (buildTree (plainConfig directory true) (Disk.linkDisk clock)).1 = .ok (emptyTree clock) := by
  have hlisting : (Disk.linkDisk clock).listing ["views"] = [] := by cbv
  exact buildTree_empty directory true (status_linkDisk_views clock) hlisting

end LinkDisk

theorem upToDate_linkDisk : (Disk.linkDisk 100).Sound ∧
    start (plainConfig "p" true) (Disk.linkDisk 100) =
      (.ok (plainService "p" true (emptyTree 100)), Disk.linkDisk 101) ∧
    ∀ moves earlier e later,
      State.run ⟨plainService "p" true (emptyTree 100), Disk.linkDisk 101⟩ moves =
        earlier ++ e :: later →
      UpToDate (plainConfig "p" true) (Disk.linkDisk 100) earlier e := by
  have hviews := isDirectory_of_status (status_linkDisk_views 100)
  have hfile : (Disk.linkDisk 100).isFile ⟨"p"⟩ = false := by cbv
  have hstart := start_plainConfig (by decide) hviews hfile (buildTree_linkDisk "p" 100)
  exact ⟨Disk.sound_linkDisk 100, hstart, fun moves =>
    (upToDate_run (Disk.sound_linkDisk 100) hstart moves).2⟩

theorem serve_of_gate {s : Service} {d d' : Disk} {k : KeyPath} {i : Nat} {served : Served}
    {gate : Gate} (hi : s.tree.resolve k = some i)
    (h : s.gate.serve d s.tree i k = (.ok served, gate, d')) :
    s.serve d k = (.ok served, { s with gate }, d') := by
  simp only [serve, Gate.resolve, hi, h]

theorem gate_serve_linkDisk (reload : Bool) (t : UnitTree) (i : Nat) (clock : Time) :
    (plainService "s/../x.js/.." reload t).gate.serve (Disk.linkDisk clock) t i .root =
      (.ok (.stored ⟨"s/../x.js/../x.js"⟩ .rebuilt), (plainService "s/../x.js/.." reload t).gate,
        Disk.crossedDisk clock (Artifact.script t i Conventions.globalName)) := by
  have hpath : (Gate.ofSettings (.persist ⟨"s/../x.js/.."⟩) "/x" Conventions.globalName
      reload).storedPath ⟨"s/../x.js/.."⟩ .root = .ok ⟨"s/../x.js/../x.js"⟩ := by
    cases reload <;> decide
  exact Gate.serve_of_store rfl hpath (Disk.storedAt_linkDisk clock) rfl
    (Disk.store_linkDisk clock (Artifact.script t i Conventions.globalName))

/-- The artifact is put in the place of the link. -/
theorem handle_linkDisk [Template.Language] (t : UnitTree) (clock : Time) :
    (plainService "s/../x.js/.." true t).handle (Disk.linkDisk clock) "GET" "/x.js" =
      (.ok (.served (.stored ⟨"s/../x.js/../x.js"⟩ .rebuilt)),
        plainService "s/../x.js/.." true (emptyTree clock),
        Disk.crossedDisk (clock + 1)
          (Artifact.script (emptyTree clock) 0 Conventions.globalName)) := by
  have hasked : (plainService "s/../x.js/.." true t).asked? "GET" "/x.js" = some .root := by
    have hkey : Address.keyPath? "/x" "/x.js" = some .root := by decide
    rw [asked?, if_pos (by decide)]
    exact hkey
  rw [handle_of_build rfl hasked (buildTree_linkDisk "s/../x.js/.." clock)]
  have hserve : (plainService "s/../x.js/.." true (emptyTree clock)).serve
      (Disk.linkDisk (clock + 1)) .root = _ :=
    serve_of_gate rfl (gate_serve_linkDisk true (emptyTree clock) 0 (clock + 1))
  change answer (plainService "s/../x.js/.." true (emptyTree clock))
    (Disk.linkDisk (clock + 1)) _ = _
  unfold answer
  rw [hserve]

/-- The artifact takes the place of a link that its own path goes back up through. -/
theorem exists_delivered_unreadable : ∃ c d s d' t i path action,
    d.Sound ∧ start c d = (.ok s, d') ∧ s.config.reload = true ∧
    (s.handle d' "GET" "/x.js").1 = .ok (.served (.stored path action)) ∧
    Address.keyPath? s.config.urlPrefix "/x.js" = some .root ∧
    (buildTree s.config d').1 = .ok t ∧ t.resolve .root = some i ∧
    (s.handle d' "GET" "/x.js").2.2.readText path ≠
      .ok (Artifact.script t i s.config.global) := by
  have hviews := isDirectory_of_status (status_linkDisk_views 100)
  have hfile : (Disk.linkDisk 100).isFile ⟨"s/../x.js/.."⟩ = false := by
    rw [Disk.isFile, Disk.status_linkDisk]
  have hstart := start_plainConfig (by decide) hviews hfile
    (buildTree_linkDisk "s/../x.js/.." 100)
  have hhandle := handle_linkDisk (emptyTree 100) 101
  refine ⟨_, _, _, _, _, 0, ⟨"s/../x.js/../x.js"⟩, .rebuilt, Disk.sound_linkDisk 100, hstart, rfl,
    ?_, by decide, buildTree_linkDisk "s/../x.js/.." 101, rfl, ?_⟩
  · exact congrArg Prod.fst hhandle
  · rw [show (Disk.linkDisk 100).tick.2 = Disk.linkDisk 101 from rfl, hhandle,
      Disk.readText_crossedDisk]
    exact nofun

end Service

end TemplateBundler
