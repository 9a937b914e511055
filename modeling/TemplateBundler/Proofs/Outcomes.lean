import TemplateBundler.Proofs.Frame
import TemplateBundler.Proofs.Memory

/-!
# What requests come to

Errors arise in layers: a build ends with one of its own two kinds, a gate with one of storage,
whatever failed below it, and only a key path without a unit is not found. So a request ends with
an error of a build only where the service reloads, with one of storage only where it may not give
back what it cannot store, and with no other (`Config.Allows`, `classified_run`).

What a gate remembers for the published tree is the script of its unit (`Gate.Knows`). Serving and
building keep that, and so every artifact that is given back has the script of the tree as it is.

    (s.handle d method url).1 = .error e → s.config.Allows e                  (allows_of_handle)
    (∃ text, (s.serve d k).1 = .error (.notFound text)) ↔ s.tree.resolve k = none
-/

namespace TemplateBundler

/-! ## Errors of a build -/

namespace Source

theorem bind_eq_error_iff {α β ε : Type} (x : Except ε α) (f : α → Except ε β) (e : ε) :
    x >>= f = .error e ↔ x = .error e ∨ ∃ a, x = .ok a ∧ f a = .error e := by
  cases x with
  | error e' => simp [bind, Except.bind]
  | ok a => simp [bind, Except.bind]

/-- What holds of the failures of every step holds of the failure of a fold. -/
theorem of_foldlM_error {α β ε : Type} {P : ε → Prop} {f : β → α → Except ε β}
    (hf : ∀ b a e, f b a = .error e → P e) {as : List α} {b : β} {e : ε}
    (h : as.foldlM f b = .error e) : P e := by
  induction as generalizing b with
  | nil => cases h
  | cons a as ih =>
    rw [List.foldlM_cons, bind_eq_error_iff] at h
    rcases h with hstep | ⟨b', -, h⟩
    · exact hf b a e hstep
    · exact ih h

section
variable [Template.Language] {settings : BuildSettings} {parent : Nat} {t : UnitTree}
  {e : BundleError}

theorem isBuildError_of_compileUnit {path : FilePath} {block : Option String} {text : String}
    (h : compileUnit settings path block text = .error e) : e.isBuildError = true := by
  unfold compileUnit at h
  simp only at h
  split at h
  · cases h
  · cases h
    rfl

theorem isBuildError_of_addBlock {path : FilePath} {block : String × String}
    (h : addBlock settings path parent t block = .error e) : e.isBuildError = true := by
  rw [addBlock, bind_eq_error_iff] at h
  rcases h with hcompile | ⟨r, -, h⟩
  · exact isBuildError_of_compileUnit hcompile
  · cases h

theorem isBuildError_of_addFile {file : SourceFile}
    (h : addFile settings parent t file = .error e) : e.isBuildError = true := by
  unfold addFile at h
  split at h
  · cases h
    rfl
  · simp only [bind_eq_error_iff] at h
    rcases h with hcompile | ⟨r, -, h⟩
    · exact isBuildError_of_compileUnit hcompile
    · exact of_foldlM_error (fun _ _ _ => isBuildError_of_addBlock) h

theorem isBuildError_of_addFolders {folders : Folders}
    (h : addFolders settings parent t folders = .error e) : e.isBuildError = true := by
  induction folders generalizing parent t with
  | done => cases h
  | failed path fault =>
    cases h
    rfl
  | folder name path files inside rest ihinside ihrest =>
    simp only [addFolders, bind_eq_error_iff] at h
    rcases h with hfiles | ⟨t₁, -, hinside | ⟨t₂, -, hrest⟩⟩
    · exact of_foldlM_error (fun _ _ _ => isBuildError_of_addFile) hfiles
    · exact ihinside hinside
    · exact ihrest hrest

/-- **A build ends with its own errors alone.** -/
theorem isBuildError_of_build {d : Disk} {root : FilePath} {builtAt : Time}
    (h : build d settings root builtAt = .error e) : e.isBuildError = true := by
  unfold build treeOf at h
  split at h
  · cases h
    rfl
  · cases h
  · rw [bind_eq_error_iff] at h
    rcases h with hfiles | ⟨t₁, -, hinside⟩
    · exact of_foldlM_error (fun _ _ _ => isBuildError_of_addFile) hfiles
    · exact isBuildError_of_addFolders hinside

end

end Source

/-! ## The gate -/

namespace Gate

/-- **A gate fails with an error of storage**, whatever it was that failed. -/
theorem storage_of_serve {g : Gate} {d : Disk} {t : UnitTree} {i : Nat} {k : KeyPath}
    {e : BundleError} (h : (g.serve d t i k).1 = .error e) :
    ∃ path reason, e = .storage path reason := by
  cases hdelivery : g.delivery with
  | respond =>
    simp only [serve, hdelivery] at h
    cases h
  | persist directory =>
    cases hpath : g.storedPath directory k with
    | error e' =>
      simp only [serve, hdelivery, hpath] at h
      cases h
      exact ⟨_, storage_of_storedPath hpath⟩
    | ok path =>
      cases hexisting : d.storedAt path with
      | error e' =>
        simp only [serve, hdelivery, hpath, persist, hexisting] at h
        cases h
        exact ⟨_, storage_of_storedAt hexisting⟩
      | ok existing =>
        cases hdecide : decide t i existing g.alwaysRebuild with
        | reused =>
          rw [serve_of_current hdelivery hpath hexisting hdecide] at h
          cases h
        | rebuilt =>
          simp only [serve, hdelivery, hpath, persist, hexisting, hdecide] at h
          split at h
          · cases h
          next heq =>
          split at heq
          · cases heq
          · cases heq
            cases h
            exact ⟨_, _, rfl⟩

/-- What is remembered for the tree is the script of the unit that its key path leads to. -/
def Knows (g : Gate) (t : UnitTree) : Prop :=
  ∀ k m, g.memory.lookup k = some m → m.treeBuiltAt = t.builtAt →
    ∃ i, t.resolve k = some i ∧ m.artifact.body = Artifact.script t i g.global

theorem knows_of_memory_nil {g : Gate} (h : g.memory = []) (t : UnitTree) : g.Knows t := by
  intro k m hm
  rw [h] at hm
  cases hm

section Knows
variable {g : Gate} {t : UnitTree} {i : Nat} {k : KeyPath} (h : g.Knows t)
  (hi : t.resolve k = some i)

include h hi

theorem Knows.generateInline (time : Time) : (g.generateInline t i k time).2.Knows t := by
  intro l m hm htime
  simp only [Gate.generateInline, Association.lookup_assign] at hm
  split at hm
  · next hl =>
    rw [eq_of_beq hl]
    cases hm
    exact ⟨i, hi, rfl⟩
  · exact h l m hm htime

theorem Knows.respond (time : Time) :
    (g.respond t i k time).1.body = Artifact.script t i g.global ∧
      (g.respond t i k time).2.2.Knows t := by
  rcases respond_cases g t i k time with ⟨m, hm, htime, heq⟩ | heq
  · obtain ⟨j, hj, hbody⟩ := h k m hm htime
    obtain rfl : j = i := Option.some.inj (hj.symm.trans hi)
    rw [heq]
    exact ⟨hbody, h⟩
  · rw [heq]
    exact ⟨rfl, h.generateInline hi time⟩

theorem Knows.serve (d : Disk) : (g.serve d t i k).2.1.Knows t ∧
    ∀ artifact action, (g.serve d t i k).1 = .ok (.inline artifact action) →
      artifact.body = Artifact.script t i g.global := by
  unfold Gate.serve
  split
  · -- a stored artifact leaves the memory alone
    split
    · exact ⟨h, nofun⟩
    · split
      · exact ⟨h, nofun⟩
      · exact ⟨h, nofun⟩
  · obtain ⟨hbody, hknows⟩ := h.respond hi d.tick.1
    refine ⟨hknows, ?_⟩
    rintro artifact action heq
    cases heq
    exact hbody

end Knows

end Gate

/-- The error is one that a request may end with. -/
def Config.Allows (c : Config) : BundleError → Prop
  | .sourceRead _ _ | .compile _ _ _ => c.reload = true
  | .storage _ _ => c.serveOnWriteFailure = false
  | .notFound _ | .invalidConfig _ _ => False

theorem Config.allows_of_isBuildError {c : Config} (hreload : c.reload = true) {e : BundleError}
    (he : e.isBuildError = true) : c.Allows e := by
  cases e with
  | sourceRead path fault => exact hreload
  | compile path block reason => exact hreload
  | notFound keyPath => cases he
  | storage path reason => cases he
  | invalidConfig field reason => cases he

/-- Whether artifacts may be given back has no part in the normal form. -/
theorem Config.normalize_withFallback (c : Config) (d : Disk) (fallback : Bool) :
    Config.normalize d { c with serveOnWriteFailure := fallback } =
      (c.normalize d).map fun c => { c with serveOnWriteFailure := fallback } := by
  simp only [Config.normalize, bind, Except.bind]
  cases Config.normalPrefix c.urlPrefix with
  | error e => rfl
  | ok urlPrefix =>
  cases Config.checkGlobal c.global with
  | error e => rfl
  | ok u =>
  cases Config.checkExtension c.extension with
  | error e => rfl
  | ok u =>
  cases Config.checkSource d c.source.trimSeparators with
  | error e => rfl
  | ok u => cases Config.checkPublic d (c.publicDirectory.map FilePath.trimSeparators) <;> rfl

namespace Service

/-! ## Serving -/

/-- **What serving a unit comes to**: what the gate serves, or, where it cannot store the artifact,
a new one if that may be given back. -/
theorem serve_of_resolve {s : Service} {k : KeyPath} {i : Nat} (hi : s.tree.resolve k = some i)
    (d : Disk) :
    (∃ served gate after, s.gate.serve d s.tree i k = (.ok served, gate, after) ∧
      s.serve d k = (.ok served, { s with gate }, after)) ∨
    ∃ path reason gate after,
      s.gate.serve d s.tree i k = (.error (.storage path reason), gate, after) ∧
      s.serve d k =
        if s.config.serveOnWriteFailure then
          (.ok (.inline (gate.generateInline s.tree i k after.tick.1).1 .rebuilt),
            { s with gate := (gate.generateInline s.tree i k after.tick.1).2 }, after.tick.2)
        else (.error (.storage path reason), { s with gate }, after) := by
  have hfails := fun e => Gate.storage_of_serve (g := s.gate) (d := d) (t := s.tree) (i := i)
    (k := k) (e := e)
  rcases hserve : s.gate.serve d s.tree i k with ⟨served | e, gate, after⟩
  · obtain ⟨path, reason, rfl⟩ := hfails _ (by rw [hserve])
    refine Or.inr ⟨path, reason, gate, after, rfl, ?_⟩
    simp only [serve, Gate.resolve, hi, hserve]
  · exact Or.inl ⟨_, gate, after, rfl, serve_of_gate hi hserve⟩

/-- A unit is served, unless it cannot be stored and may not be given back. -/
theorem serve_ok_or_storage {s : Service} {k : KeyPath} {i : Nat} (hi : s.tree.resolve k = some i)
    (d : Disk) : (∃ served, (s.serve d k).1 = .ok served) ∨
      ∃ path reason, s.config.serveOnWriteFailure = false ∧
        (s.serve d k).1 = .error (.storage path reason) := by
  rcases serve_of_resolve hi d with
    ⟨served, gate, after, -, heq⟩ | ⟨path, reason, gate, after, -, heq⟩
  · exact Or.inl ⟨served, by rw [heq]⟩
  · cases hfallback : s.config.serveOnWriteFailure with
    | true => exact Or.inl ⟨_, by rw [heq, hfallback, if_pos rfl]⟩
    | false => exact Or.inr ⟨path, reason, rfl, by rw [heq, hfallback, if_neg nofun]⟩

theorem serve_of_unresolved {s : Service} {k : KeyPath} (hk : s.tree.resolve k = none) (d : Disk) :
    s.serve d k = (.error (.notFound k.text), s, d) := by
  simp only [serve, Gate.resolve, hk]

/-- **Not found** is what leads to no unit. -/
theorem serve_notFound_iff (s : Service) (d : Disk) (k : KeyPath) :
    (∃ text, (s.serve d k).1 = .error (.notFound text)) ↔ s.tree.resolve k = none := by
  constructor
  · rintro ⟨text, h⟩
    cases hi : s.tree.resolve k with
    | none => rfl
    | some i =>
      rcases serve_ok_or_storage hi d with ⟨served, heq⟩ | ⟨path, reason, -, heq⟩
      · rw [heq] at h
        cases h
      · rw [heq] at h
        cases h
  · intro hk
    rw [serve_of_unresolved hk]
    exact ⟨_, rfl⟩

/-- The gate knows the published tree, and publishes under the configured name. -/
structure Informed (s : Service) : Prop where
  knows : s.gate.Knows s.tree
  global_eq : s.gate.global = s.config.global

theorem Informed.serve {s : Service} (h : s.Informed) (d : Disk) (k : KeyPath) :
    (s.serve d k).2.1.Informed := by
  rcases hi : s.tree.resolve k with _ | i
  · rw [serve_of_unresolved hi]
    exact h
  obtain ⟨memory, hmemory⟩ := s.gate.serve_gate d s.tree i k
  have hknows := (h.knows.serve hi d).1
  have hglobal : (s.gate.serve d s.tree i k).2.1.global = s.config.global := by
    rw [hmemory]
    exact h.global_eq
  rcases serve_of_resolve hi d with
    ⟨served, gate, after, hserve, heq⟩ | ⟨path, reason, gate, after, hserve, heq⟩
  · rw [hserve] at hknows hglobal
    rw [heq]
    exact ⟨hknows, hglobal⟩
  · rw [hserve] at hknows hglobal
    rw [heq]
    split
    · exact ⟨hknows.generateInline hi _, hglobal⟩
    · exact ⟨hknows, hglobal⟩

/-- What is given back is the unit as it is in the published tree. -/
theorem Informed.body_eq {s : Service} (h : s.Informed) {d : Disk} {k : KeyPath} {i : Nat}
    (hi : s.tree.resolve k = some i) {artifact : Artifact} {action : Action}
    (hserved : (s.serve d k).1 = .ok (.inline artifact action)) :
    artifact.body = Artifact.script s.tree i s.config.global := by
  rw [← h.global_eq]
  rcases s.serve_cases d k with ⟨hnone, -⟩ | ⟨j, memory, hj, heq | ⟨time, e, -, heq⟩⟩
  · rw [hi] at hnone
    cases hnone
  · obtain rfl : j = i := Option.some.inj (hj.symm.trans hi)
    rw [heq] at hserved
    exact (h.knows.serve hi d).2 artifact action hserved
  · obtain rfl : j = i := Option.some.inj (hj.symm.trans hi)
    rw [heq] at hserved
    cases hserved
    rfl

section

variable [Template.Language]

theorem Informed.rebuild {s : Service} (h : s.Informed) (d : Disk) :
    (s.rebuild d).2.1.Informed := by
  cases hb : (buildTree s.config d).1 with
  | error e =>
    rw [rebuild_of_failed hb]
    exact h
  | ok t =>
    rw [rebuild_of_build hb]
    exact ⟨Gate.knows_of_memory_nil rfl t, h.global_eq⟩

/-- What serving and building keep of a service, every move keeps. -/
theorem play_service_keeps {P : Service → Prop} (hserve : ∀ s d k, P s → P (s.serve d k).2.1)
    (hrebuild : ∀ s d, P s → P (s.rebuild d).2.1) {s : State} (h : P s.service) (m : Move) :
    P (s.play m).2.service := by
  cases m with
  | change d hd => exact h
  | serve k => exact hserve _ _ _ h
  | rebuild => exact hrebuild _ _ h
  | handle method url =>
    change P (s.service.handle s.disk method url).2.1
    rw [handle_eq]
    split
    · exact h
    next k _ =>
    split
    · have hbuilt := hrebuild s.service s.disk h
      split
      · next heq => rwa [heq] at hbuilt
      · next heq =>
        rw [heq] at hbuilt
        rw [answer_eq]
        exact hserve _ _ _ hbuilt
    · rw [answer_eq]
      exact hserve _ _ _ h

theorem Informed.play {s : State} (h : s.service.Informed) (m : Move) :
    (s.play m).2.service.Informed :=
  play_service_keeps (fun _ d k h => h.serve d k) (fun _ d h => h.rebuild d) h m

theorem informed_of_start {c : Config} {d d' : Disk} {s : Service}
    (h : start c d = (.ok s, d')) : s.Informed := by
  unfold start at h
  split at h
  · cases h
  split at h
  · cases h
  · cases h
    exact ⟨Gate.knows_of_memory_nil rfl _, rfl⟩

end

/-! ## Requests -/

/-- A unit that is not there passes on, and what is served is the answer. -/
theorem answer_of_serve {s : Service} {d : Disk} {k : KeyPath} {served : Served}
    (h : (s.serve d k).1 = .ok served) : (s.answer d k).1 = .ok (.served served) := by
  unfold answer
  split
  · next heq =>
    rw [heq] at h
    cases h
    rfl
  · next heq =>
    rw [heq] at h
    cases h

theorem answer_of_unresolved {s : Service} {k : KeyPath} (hk : s.tree.resolve k = none)
    (d : Disk) : s.answer d k = (.ok .passThrough, s, d) := by
  unfold answer
  rw [serve_of_unresolved hk]
  rfl

theorem answer_of_storage {s : Service} {d : Disk} {k : KeyPath} {path : FilePath}
    {reason : String} (h : (s.serve d k).1 = .error (.storage path reason)) :
    (s.answer d k).1 = .error (.storage path reason) := by
  unfold answer
  split
  · next heq =>
    rw [heq] at h
    cases h
  · next heq =>
    rw [heq] at h
    cases h
    rfl

/-- **An answer** passes on, is what is served, or tells that the unit cannot be stored. -/
theorem answer_cases (s : Service) (d : Disk) (k : KeyPath) :
    (s.tree.resolve k = none ∧ (s.answer d k).1 = .ok .passThrough) ∨
    ∃ i, s.tree.resolve k = some i ∧
      ((∃ served, (s.serve d k).1 = .ok served ∧ (s.answer d k).1 = .ok (.served served)) ∨
        ∃ path reason, s.config.serveOnWriteFailure = false ∧
          (s.answer d k).1 = .error (.storage path reason)) := by
  cases hi : s.tree.resolve k with
  | none => exact Or.inl ⟨rfl, by rw [answer_of_unresolved hi]⟩
  | some i =>
    refine Or.inr ⟨i, rfl, ?_⟩
    rcases serve_ok_or_storage hi d with ⟨served, heq⟩ | ⟨path, reason, hno, heq⟩
    · exact Or.inl ⟨served, heq, answer_of_serve heq⟩
    · exact Or.inr ⟨path, reason, hno, answer_of_storage heq⟩

theorem allows_of_answer {s : Service} {d : Disk} {k : KeyPath} {e : BundleError}
    (h : (s.answer d k).1 = .error e) : s.config.Allows e := by
  rcases s.answer_cases d k with ⟨-, heq⟩ | ⟨i, -, ⟨served, -, heq⟩ | ⟨path, reason, hno, heq⟩⟩
  · rw [heq] at h
    cases h
  · rw [heq] at h
    cases h
  · rw [heq] at h
    cases h
    exact hno

/-- **The errors of a request.** -/
theorem allows_of_handle [Template.Language] {s : Service} {d : Disk} {method url : String}
    {e : BundleError} (h : (s.handle d method url).1 = .error e) : s.config.Allows e := by
  cases hk : s.asked? method url with
  | none =>
    rw [handle_eq, hk] at h
    cases h
  | some k =>
    cases hreload : s.config.reload with
    | false =>
      rw [handle_eq, hk] at h
      simp only [hreload, Bool.false_eq_true, if_false] at h
      exact allows_of_answer h
    | true =>
      cases hb : (buildTree s.config d).1 with
      | error e' =>
        rw [handle_of_failed hreload hk hb] at h
        cases h
        exact Config.allows_of_isBuildError hreload (Source.isBuildError_of_build hb)
      | ok t =>
        rw [handle_of_build hreload hk hb] at h
        exact allows_of_answer (s := { s with tree := t, gate := s.gate.clear }) h

theorem asked?_eq_none_iff {s : Service} {method url : String} : s.asked? method url = none ↔
    (method ≠ "GET" ∧ method ≠ "HEAD") ∨ s.keyPathOfUrl? url = none := by
  unfold asked? methods
  split
  · next hmem =>
    constructor
    · exact Or.inr
    · rintro (⟨hget, hhead⟩ | hurl)
      · simp [hget, hhead] at hmem
      · exact hurl
  · next hmem =>
    refine iff_of_true rfl (Or.inl ?_)
    simpa using hmem

theorem asked?_of_method {s : Service} {method url : String}
    (hmethod : method = "GET" ∨ method = "HEAD") : s.asked? method url = s.keyPathOfUrl? url := by
  rw [asked?, if_pos (by simpa [methods] using hmethod)]

section Still
variable [Template.Language] {s : Service} (hreload : s.config.reload = false)

include hreload

theorem handle_of_asked {method url : String} {k : KeyPath} (hk : s.asked? method url = some k)
    (d : Disk) : s.handle d method url = s.answer d k := by
  rw [handle_eq, hk]
  simp only [hreload, Bool.false_eq_true, if_false]

/-- **What passes on** is what asks for no artifact, or for one of no unit. -/
theorem handle_passThrough_iff (d : Disk) (method url : String) :
    (s.handle d method url).1 = .ok .passThrough ↔
      (method ≠ "GET" ∧ method ≠ "HEAD") ∨ s.keyPathOfUrl? url = none ∨
        ∃ k, s.keyPathOfUrl? url = some k ∧ s.tree.resolve k = none := by
  rw [← or_assoc, ← asked?_eq_none_iff]
  cases hk : s.asked? method url with
  | none =>
    refine iff_of_true ?_ (Or.inl rfl)
    rw [handle_eq, hk]
  | some k =>
    have hurl : s.keyPathOfUrl? url = some k := by
      unfold asked? at hk
      split at hk
      · exact hk
      · cases hk
    rw [handle_of_asked hreload hk]
    simp only [hurl, reduceCtorEq, false_or, Option.some.injEq, exists_eq_left']
    rcases s.answer_cases d k with ⟨hnone, heq⟩ | ⟨i, hi, ⟨served, -, heq⟩ | ⟨path, reason, -, heq⟩⟩
    · exact iff_of_true heq hnone
    · rw [heq, hi]
      simp
    · rw [heq, hi]
      simp

/-- **What is served** where it may be given back. -/
theorem Informed.served_of_resolve (h : s.Informed)
    (hfallback : s.config.serveOnWriteFailure = true) (d : Disk) {method url : String}
    (hmethod : method = "GET" ∨ method = "HEAD") {k : KeyPath} {i : Nat}
    (hk : s.keyPathOfUrl? url = some k) (hi : s.tree.resolve k = some i) :
    ∃ served, (s.handle d method url).1 = .ok (.served served) ∧
      ∀ artifact action, served = .inline artifact action →
        artifact.body = Artifact.script s.tree i s.config.global := by
  rw [handle_of_asked hreload ((asked?_of_method hmethod).trans hk)]
  rcases s.answer_cases d k with ⟨hnone, -⟩ | ⟨j, -, ⟨served, hserved, heq⟩ | ⟨_, _, hno, -⟩⟩
  · rw [hi] at hnone
    cases hnone
  · refine ⟨served, heq, ?_⟩
    rintro artifact action rfl
    exact h.body_eq hi hserved
  · rw [hfallback] at hno
    cases hno

end Still

section

variable [Template.Language]

/-- What a service answers, on any disk, to any request. -/
structure Classified (s : Service) : Prop where
  errors : ∀ d method url e, (s.handle d method url).1 = .error e → s.config.Allows e
  passes : s.config.reload = false → ∀ d method url,
    (s.handle d method url).1 = .ok .passThrough ↔
      (method ≠ "GET" ∧ method ≠ "HEAD") ∨ s.keyPathOfUrl? url = none ∨
        ∃ k, s.keyPathOfUrl? url = some k ∧ s.tree.resolve k = none
  serves : s.config.reload = false → s.config.serveOnWriteFailure = true →
    ∀ d method url k i, (method = "GET" ∨ method = "HEAD") → s.keyPathOfUrl? url = some k →
      s.tree.resolve k = some i → ∃ served, (s.handle d method url).1 = .ok (.served served) ∧
        ∀ artifact action, served = .inline artifact action →
          artifact.body = Artifact.script s.tree i s.config.global
  missing : ∀ d k, (∃ text, (s.serve d k).1 = .error (.notFound text)) ↔ s.tree.resolve k = none

theorem Informed.classified {s : Service} (h : s.Informed) : s.Classified where
  errors _ _ _ _ herror := allows_of_handle herror
  passes hreload := handle_passThrough_iff hreload
  serves hreload hfallback d _ _ _ _ hmethod hk hi :=
    h.served_of_resolve hreload hfallback d hmethod hk hi
  missing := s.serve_notFound_iff

/-- **Every service is classified**, when it has started and after every move. -/
theorem classified_run {c : Config} {d d' : Disk} {s : Service} (h : start c d = (.ok s, d'))
    (moves : List Move) :
    s.Classified ∧ ∀ e ∈ State.run ⟨s, d'⟩ moves, e.after.service.Classified := by
  have hstart := informed_of_start h
  refine ⟨hstart.classified, fun e he => ?_⟩
  obtain ⟨earlier, later, hrun⟩ := List.append_of_mem he
  refine run_keeps (I := fun state _ => state.service.Informed) (A := fun _ => True)
    (P := fun _ e => e.after.service.Classified) ?_ moves ⟨s, d'⟩ [] hstart
    (fun _ _ => trivial) earlier e later hrun
  rintro state past m hinformed -
  have hafter := Informed.play hinformed m
  exact ⟨hafter.classified, hafter⟩

end

/-- A service that builds once and gives back what it cannot store. -/
def lenientConfig : Config := { plainConfig "p" false with serveOnWriteFailure := true }

theorem start_lenientConfig : start lenientConfig (Disk.linkDisk 100) =
    (.ok { plainService "p" false (emptyTree 100) with config := lenientConfig },
      Disk.linkDisk 101) := by
  have hviews := isDirectory_of_status (status_linkDisk_views 100)
  have hfile : (Disk.linkDisk 100).isFile ⟨"p"⟩ = false := by cbv
  have hlisting : (Disk.linkDisk 100).listing ["views"] = [] := by cbv
  have hnormal : (plainConfig "p" false).normalize (Disk.linkDisk 100) = _ :=
    normalize_plainConfig false (by decide) hviews hfile
  have hlenient : lenientConfig.normalize (Disk.linkDisk 100) = .ok lenientConfig := by
    rw [lenientConfig, Config.normalize_withFallback, hnormal]
    rfl
  have hbuild := buildTree_empty "p" false (status_linkDisk_views 100) hlisting
  change (buildTree lenientConfig (Disk.linkDisk 100)).1 = _ at hbuild
  simp only [buildTree] at hbuild
  simp only [start, hlenient, buildTree, hbuild]
  rfl

/-- Whatever happens to the disk, the root is served. -/
theorem classified_linkDisk :
    start lenientConfig (Disk.linkDisk 100) =
      (.ok { plainService "p" false (emptyTree 100) with config := lenientConfig },
        Disk.linkDisk 101) ∧
    ∀ d, ∃ served, (handle { plainService "p" false (emptyTree 100) with config := lenientConfig }
      d "GET" "/x.js").1 = .ok (.served served) := by
  refine ⟨start_lenientConfig, fun d => ?_⟩
  have hkey : Address.keyPath? "/x" "/x.js" = some .root := by decide
  obtain ⟨served, hserved, -⟩ := (classified_run start_lenientConfig []).1.serves rfl rfl d "GET"
    "/x.js" .root 0 (Or.inl rfl) hkey rfl
  exact ⟨served, hserved⟩

end Service

end TemplateBundler
