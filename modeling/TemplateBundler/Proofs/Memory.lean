import TemplateBundler.Gate

/-!
# What a gate remembers

A gate that answers from memory may be called in any order, and with an old tree after a new one.
Every artifact it gives back still holds the tree of its own call, as if nothing were remembered,
and a reused one is what the latest generation for its key path made, at the same request
(`Kept.faithful_run`).

One invariant carries this (`Kept`): what is remembered for a key path was left by the latest
generation for it, with nothing cleared since. Trees built at one time are one tree, so an entry
with the time of a tree came from that tree.

    Kept trees global g events →
      Faithful global events ⟨c, (g.answer c).1⟩ ∧
        Kept trees global (g.answer c).2 (events ++ [⟨c, (g.answer c).1⟩])          (Kept.answer)
-/

namespace TemplateBundler.Gate

/-! ## Runs -/

/-- A unit that a key path leads to. -/
structure Request where
  tree : UnitTree
  key : KeyPath
  unit : Nat
  resolves : tree.resolve key = some unit

inductive Call where
  /-- Serves a request; the disk has the clock. -/
  | serve (d : Disk) (r : Request)
  | generate (r : Request) (time : Time)
  | clear

inductive Answer where
  | served (result : Except BundleError Served)
  | generated (artifact : Artifact)
  | cleared

structure Event where
  call : Call
  answer : Answer

/-- What a gate says to a call, and the gate after it. -/
def answer (g : Gate) : Call → Answer × Gate
  | .serve d r => (.served (g.serve d r.tree r.unit r.key).1, (g.serve d r.tree r.unit r.key).2.1)
  | .generate r time =>
    (.generated (g.generateInline r.tree r.unit r.key time).1,
      (g.generateInline r.tree r.unit r.key time).2)
  | .clear => (.cleared, g.clear)

/-- What happens over some calls in a row. -/
def run (g : Gate) : List Call → List Event
  | [] => []
  | c :: calls => ⟨c, (g.answer c).1⟩ :: (g.answer c).2.run calls

def Call.tree? : Call → Option UnitTree
  | .serve _ r => some r.tree
  | .generate r _ => some r.tree
  | .clear => none

/-- The trees that calls pass to a gate. -/
def treesOf (calls : List Call) : List UnitTree := calls.filterMap Call.tree?

/-- No two of the trees were built at one time. -/
def BuiltApart (trees : List UnitTree) : Prop :=
  ∀ t ∈ trees, ∀ t' ∈ trees, t.builtAt = t'.builtAt → t = t'

/-! ## Generations -/

/-- The request and the artifact of an event that generates one. -/
def Event.generation? : Event → Option (Request × Artifact)
  | ⟨.generate r _, .generated artifact⟩ => some (r, artifact)
  | ⟨.serve _ r, .served (.ok (.inline artifact .rebuilt))⟩ => some (r, artifact)
  | _ => none

/-- The event generates for the key path, or clears. -/
def Event.Touches (e : Event) (k : KeyPath) : Prop :=
  e.call = .clear ∨ ∃ r artifact, e.generation? = some (r, artifact) ∧ r.key = k

/-- The latest generation for the key path of the request was at this request, gave the artifact,
and nothing was cleared since. -/
def Latest (events : List Event) (r : Request) (artifact : Artifact) : Prop :=
  ∃ older e newer, events = older ++ e :: newer ∧ e.generation? = some (r, artifact) ∧
    ∀ e' ∈ newer, ¬ e'.Touches r.key

/-- The artifact is that of the request, whenever it was made. -/
def Fits (global : String) (r : Request) (artifact : Artifact) : Prop :=
  artifact.body = Artifact.script r.tree r.unit global ∧
    artifact.keyPath = r.tree.keyPath r.unit

/-- An artifact comes back that is right for the request of the event, and one that is reused comes
from the latest generation for its key path. -/
def Faithful (global : String) (earlier : List Event) : Event → Prop
  | ⟨.serve _ r, .served (.ok (.inline artifact action))⟩ =>
    Fits global r artifact ∧ (action = .reused → Latest earlier r artifact)
  | ⟨.generate r _, .generated artifact⟩ => Fits global r artifact
  | ⟨.clear, .cleared⟩ => True
  | _ => False

/-- Every event is faithful to those before it. -/
def Transparent (global : String) (events : List Event) : Prop :=
  ∀ earlier e later, events = earlier ++ e :: later → Faithful global earlier e

/-! ## Lemmas -/

/-- The tree and the key path fix the unit. -/
theorem Request.eq_of {r r' : Request} (ht : r.tree = r'.tree) (hk : r.key = r'.key) : r = r' := by
  obtain ⟨t, k, i, hi⟩ := r
  obtain ⟨t', k', i', hi'⟩ := r'
  subst ht hk
  rw [Request.mk.injEq]
  exact ⟨rfl, rfl, Option.some.inj (hi.symm.trans hi')⟩

theorem latest_concat_self {e : Event} {r : Request} {artifact : Artifact} (events : List Event)
    (h : e.generation? = some (r, artifact)) : Latest (events ++ [e]) r artifact :=
  ⟨events, e, [], rfl, h, by simp⟩

theorem Latest.concat {events : List Event} {e : Event} {r : Request} {artifact : Artifact}
    (h : Latest events r artifact) (he : ¬ e.Touches r.key) :
    Latest (events ++ [e]) r artifact := by
  obtain ⟨older, made, newer, rfl, hmade, hnewer⟩ := h
  refine ⟨older, made, newer ++ [e], by simp, hmade, ?_⟩
  intro e' he'
  rcases List.mem_append.1 he' with hmem | hmem
  · exact hnewer e' hmem
  · rw [List.mem_singleton.1 hmem]
    exact he

theorem not_touches_of_generation {e : Event} {r : Request} {artifact : Artifact} {k : KeyPath}
    (h : e.generation? = some (r, artifact)) (hcall : e.call ≠ .clear) (hk : r.key ≠ k) :
    ¬ e.Touches k := by
  rintro (hclear | ⟨r', artifact', h', rfl⟩)
  · exact hcall hclear
  · rw [h] at h'
    cases h'
    exact hk rfl

theorem fits_generateInline (g : Gate) (r : Request) (time : Time) :
    Fits g.global r (g.generateInline r.tree r.unit r.key time).1 :=
  ⟨rfl, rfl⟩

/-- Either the artifact is remembered for the same tree, and nothing changes, or a new one is
generated. -/
theorem respond_cases (g : Gate) (t : UnitTree) (i : Nat) (k : KeyPath) (time : Time) :
    (∃ m, g.memory.lookup k = some m ∧ m.treeBuiltAt = t.builtAt ∧
      g.respond t i k time = (m.artifact, .reused, g)) ∨
    g.respond t i k time =
      ((g.generateInline t i k time).1, .rebuilt, (g.generateInline t i k time).2) := by
  unfold respond
  cases hm : g.remembered? t k with
  | none => exact Or.inr rfl
  | some artifact =>
    simp only
    cases hd : decide t i (some artifact.generatedAt) g.alwaysRebuild with
    | rebuilt => exact Or.inr rfl
    | reused =>
      left
      unfold remembered? at hm
      cases hl : g.memory.lookup k with
      | none =>
        rw [hl] at hm
        cases hm
      | some m =>
        rw [hl] at hm
        simp only [Option.ite_none_right_eq_some, Option.some.injEq] at hm
        obtain ⟨htime, rfl⟩ := hm
        exact ⟨m, rfl, htime, rfl⟩

/-! ## The invariant -/

/-- What a gate remembers after some events, whose trees are among the given ones. -/
structure Kept (trees : List UnitTree) (global : String) (g : Gate) (events : List Event) :
    Prop where
  delivery_eq : g.delivery = .respond
  global_eq : g.global = global
  latest : ∀ k m, g.memory.lookup k = some m → ∃ r, r.key = k ∧ r.tree ∈ trees ∧
    r.tree.builtAt = m.treeBuiltAt ∧ Fits global r m.artifact ∧ Latest events r m.artifact

section Kept
variable {trees : List UnitTree} {global : String} {g : Gate} {events : List Event}
  (h : Kept trees global g events)

include h

/-- An event that generates and remembers the artifact. -/
theorem Kept.generate {e : Event} {r : Request} {time : Time} (hr : r.tree ∈ trees)
    (hcall : e.call ≠ .clear)
    (he : e.generation? = some (r, (g.generateInline r.tree r.unit r.key time).1)) :
    Kept trees global (g.generateInline r.tree r.unit r.key time).2 (events ++ [e]) := by
  have hfits := fits_generateInline g r time
  rw [h.global_eq] at hfits
  refine ⟨h.delivery_eq, h.global_eq, ?_⟩
  intro k m hm
  simp only [generateInline, Association.lookup_assign] at hm
  by_cases hk : k = r.key
  · rw [hk, if_pos (beq_self_eq_true _)] at hm
    cases hm
    exact ⟨r, hk.symm, hr, rfl, hfits, latest_concat_self events he⟩
  · rw [if_neg (by rwa [beq_iff_eq])] at hm
    obtain ⟨r', rfl, htree, htime, hfits', hlatest⟩ := h.latest k m hm
    exact ⟨r', rfl, htree, htime, hfits',
      hlatest.concat (not_touches_of_generation he hcall (Ne.symm hk))⟩

/-- An event that leaves the memory alone. -/
theorem Kept.concat {e : Event} (he : ∀ k, ¬ e.Touches k) :
    Kept trees global g (events ++ [e]) := by
  refine ⟨h.delivery_eq, h.global_eq, ?_⟩
  intro k m hm
  obtain ⟨r, hk, htree, htime, hfits, hlatest⟩ := h.latest k m hm
  exact ⟨r, hk, htree, htime, hfits, hlatest.concat (he _)⟩

/-- What is remembered for a request fits it. -/
theorem Kept.of_lookup (apart : BuiltApart trees)
    {r : Request} (hr : r.tree ∈ trees) {m : Remembered} (hm : g.memory.lookup r.key = some m)
    (htime : m.treeBuiltAt = r.tree.builtAt) :
    Fits global r m.artifact ∧ Latest events r m.artifact := by
  obtain ⟨r', hk, htree, htime', hfits, hlatest⟩ := h.latest r.key m hm
  obtain rfl : r' = r := Request.eq_of (apart _ htree _ hr (htime'.trans htime)) hk
  exact ⟨hfits, hlatest⟩

theorem Kept.serve_eq (d : Disk) (r : Request) :
    g.serve d r.tree r.unit r.key =
      (.ok (.inline (g.respond r.tree r.unit r.key d.tick.1).1
        (g.respond r.tree r.unit r.key d.tick.1).2.1),
        (g.respond r.tree r.unit r.key d.tick.1).2.2, d.tick.2) := by
  simp only [serve, h.delivery_eq]

/-- **One call.** Its answer is faithful, and the invariant holds after it. -/
theorem Kept.answer (apart : BuiltApart trees) (c : Call)
    (hc : ∀ t, c.tree? = some t → t ∈ trees) :
    Faithful global events ⟨c, (g.answer c).1⟩ ∧
      Kept trees global (g.answer c).2 (events ++ [⟨c, (g.answer c).1⟩]) := by
  cases c with
  | clear =>
    refine ⟨trivial, h.delivery_eq, h.global_eq, ?_⟩
    intro k m hm
    cases hm
  | generate r time =>
    constructor
    · rw [← h.global_eq]
      exact fits_generateInline g r time
    · exact h.generate (hc _ rfl) (by simp) rfl
  | serve d r =>
    have hr := hc _ rfl
    simp only [Gate.answer, h.serve_eq d r]
    rcases respond_cases g r.tree r.unit r.key d.tick.1 with ⟨m, hm, htime, heq⟩ | heq
    · -- reused
      rw [heq]
      obtain ⟨hfits, hlatest⟩ := h.of_lookup apart hr hm htime
      refine ⟨⟨hfits, fun _ => hlatest⟩, h.concat fun k => ?_⟩
      rintro (hclear | ⟨r', artifact, he, -⟩)
      · cases hclear
      · cases he
    · -- generated anew
      rw [heq]
      refine ⟨⟨?_, fun hreused => by cases hreused⟩, h.generate hr (by simp) rfl⟩
      rw [← h.global_eq]
      exact fits_generateInline g r d.tick.1

end Kept

/-- **A run**, whatever came before it. -/
theorem Kept.faithful_run {trees : List UnitTree} {global : String} (apart : BuiltApart trees)
    (calls : List Call) : ∀ (g : Gate) (events : List Event), Kept trees global g events →
      (∀ t ∈ treesOf calls, t ∈ trees) →
      ∀ earlier e later, g.run calls = earlier ++ e :: later →
        Faithful global (events ++ earlier) e := by
  induction calls with
  | nil =>
    intro g events _ _ earlier e later hrun
    simp [Gate.run] at hrun
  | cons c calls ih =>
    intro g events h hcalls earlier e later hrun
    have hc : ∀ t, c.tree? = some t → t ∈ trees := fun t ht =>
      hcalls t (List.mem_filterMap.2 ⟨c, List.mem_cons_self, ht⟩)
    obtain ⟨hfaithful, hkept⟩ := h.answer apart c hc
    rw [Gate.run] at hrun
    cases earlier with
    | nil =>
      obtain ⟨rfl, -⟩ := List.cons.inj hrun
      rw [List.append_nil]
      exact hfaithful
    | cons first earlier =>
      obtain ⟨rfl, hrest⟩ := List.cons.inj hrun
      have hlater : ∀ t ∈ treesOf calls, t ∈ trees := by
        intro t ht
        obtain ⟨c', hc', ht'⟩ := List.mem_filterMap.1 ht
        exact hcalls t (List.mem_filterMap.2 ⟨c', List.mem_cons_of_mem _ hc', ht'⟩)
      have := ih _ _ hkept hlater earlier e later hrest
      rwa [List.append_assoc] at this

/-! ## Top theorem -/

theorem kept_ofSettings (trees : List UnitTree) (urlPrefix global : String) (always : Bool) :
    Kept trees global (ofSettings .respond urlPrefix global always) [] := by
  refine ⟨rfl, rfl, ?_⟩
  intro k m hm
  cases hm

/-- Every call has its event. -/
theorem map_call_run (calls : List Call) (g : Gate) : (g.run calls).map Event.call = calls := by
  induction calls generalizing g with
  | nil => rfl
  | cons c calls ih => rw [run, List.map_cons, ih]

/-- **A memory that does not show.** Every call of a run is answered faithfully. -/
theorem transparent_run (urlPrefix global : String) (always : Bool) (calls : List Call)
    (apart : BuiltApart (treesOf calls)) :
    ((ofSettings .respond urlPrefix global always).run calls).map Event.call = calls ∧
    Transparent global ((ofSettings .respond urlPrefix global always).run calls) :=
  ⟨map_call_run calls _, Kept.faithful_run apart calls _ []
    (kept_ofSettings _ urlPrefix global always) fun _ ht => ht⟩

/-- The root of a tree of nothing else. -/
def rootRequest (builtAt : Time) : Request :=
  ⟨UnitTree.ofRoot .empty (.root ⟨"views"⟩) (some 5) builtAt, .root, 0, rfl⟩

/-- An old tree is asked for again after a new one. -/
def mixedCalls : List Call :=
  [.serve ⟨[], [], 10⟩ (rootRequest 1), .generate (rootRequest 2) 20,
    .serve ⟨[], [], 30⟩ (rootRequest 1), .serve ⟨[], [], 40⟩ (rootRequest 1)]

/-- The third call cannot reuse what the second one left; the fourth reuses what the third made. -/
theorem transparent_mixedCalls : BuiltApart (treesOf mixedCalls) ∧
    Transparent "T" ((ofSettings .respond "/views" "T" false).run mixedCalls) ∧
    ∃ earlier artifact, (ofSettings .respond "/views" "T" false).run mixedCalls =
      earlier ++ [⟨.serve ⟨[], [], 30⟩ (rootRequest 1), .served (.ok (.inline artifact .rebuilt))⟩,
        ⟨.serve ⟨[], [], 40⟩ (rootRequest 1), .served (.ok (.inline artifact .reused))⟩] := by
  have hroot : ∀ t ∈ treesOf mixedCalls, t = (rootRequest t.builtAt).tree := by
    simp only [treesOf, mixedCalls, List.filterMap_cons, Call.tree?, List.filterMap_nil,
      List.forall_mem_cons]
    exact ⟨rfl, rfl, rfl, rfl, by simp⟩
  have apart : BuiltApart (treesOf mixedCalls) := by
    intro t ht t' ht' htime
    rw [hroot t ht, hroot t' ht', htime]
  exact ⟨apart, (transparent_run "/views" "T" false mixedCalls apart).2, [_, _], _, rfl⟩

end TemplateBundler.Gate
