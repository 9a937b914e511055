import TemplateBundler.Artifact.Basic
import TemplateBundler.Association
import TemplateBundler.Disk.Store
import TemplateBundler.Tree.Freshness

/-!
# The gate between requests and artifacts

A gate keeps an artifact until something below its unit is newer. It stores artifacts under a public
directory, or remembers them and gives them back. What it remembers belongs to the tree it was
generated from.

    decide t i (some time) false = .reused ↔ t.freshness i ≤ time          (decide_eq_reused_iff)
-/

namespace TemplateBundler

inductive Action where
  /-- The existing artifact is as new as its subtree. -/
  | reused
  | rebuilt
deriving DecidableEq, Repr, Inhabited

def Action.text : Action → String
  | reused => "reused"
  | rebuilt => "rebuilt"

inductive Delivery where
  /-- Artifacts are files below a public directory. -/
  | persist (directory : FilePath)
  /-- Artifacts stay in memory and go back with the answer. -/
  | respond
deriving DecidableEq, Repr, Inhabited

inductive Served where
  | stored (path : FilePath) (action : Action)
  | inline (artifact : Artifact) (action : Action)
deriving DecidableEq, Repr, Inhabited

structure Remembered where
  treeBuiltAt : Time
  artifact : Artifact
deriving DecidableEq, Repr, Inhabited

structure Gate where
  delivery : Delivery
  /-- The names of the URL prefix, which name directories as well. -/
  leading : List String
  global : String
  alwaysRebuild : Bool
  memory : List (KeyPath × Remembered)
deriving DecidableEq, Repr, Inhabited

namespace Gate

/-! ## Algorithm -/

def ofSettings (delivery : Delivery) (urlPrefix global : String) (alwaysRebuild : Bool) : Gate :=
  ⟨delivery, Text.cutNonempty '/' urlPrefix, global, alwaysRebuild, []⟩

/-- The unit of a key path. -/
def resolve (t : UnitTree) (k : KeyPath) : Except BundleError Nat :=
  match t.resolve k with
  | some i => .ok i
  | none => .error (.notFound k.text)

/-- Reuses an artifact of a time only if nothing in its subtree is newer. -/
def decide (t : UnitTree) (i : Nat) (existing : Option Time) (always : Bool) : Action :=
  match existing with
  | some time => if !always && t.freshness i ≤ time then .reused else .rebuilt
  | none => .rebuilt

/-! ## Stored artifacts -/

/-- A name that stands for itself in every directory. -/
def isSafeName (s : String) : Bool :=
  s != "" && s != "." && s != ".." &&
    s.toList.all fun c => c != '/' && c != '\\' && c.toNat != 0

/-- Where the artifact of a key path is stored below a public directory. -/
def storedPath (g : Gate) (directory : FilePath) (k : KeyPath) : Except BundleError FilePath :=
  let names := g.leading ++ k.segments
  match names.find? fun n => !isSafeName n with
  | some n => .error (.storage directory ("'" ++ n ++ "' cannot be used as a file name"))
  | none =>
    match names.getLast? with
    | none => .error (.storage directory "the root artifact needs a non-empty prefix to be named")
    | some last =>
      .ok ((directory.joinAll names.dropLast).join ⟨last ++ Conventions.artifactSuffix⟩)

/-- The file of a key path, where artifacts are stored at all. -/
def outputPath (g : Gate) (k : KeyPath) : Except BundleError (Option FilePath) :=
  match g.delivery with
  | .persist directory => (g.storedPath directory k).map some
  | .respond => .ok none

/-- Brings the file of a unit up to date. -/
def persist (g : Gate) (d : Disk) (t : UnitTree) (i : Nat) (path : FilePath) :
    Except BundleError Action × Disk :=
  match d.storedAt path with
  | .error e => (.error e, d)
  | .ok existing =>
    match decide t i existing g.alwaysRebuild with
    | .reused => (.ok .reused, d)
    | .rebuilt =>
      match d.store path (Artifact.script t i g.global) with
      | (.ok (), d) => (.ok .rebuilt, d)
      | (.error e, d) => (.error (.storing .writing path e.chain), d)

/-! ## Remembered artifacts -/

/-- The artifact remembered for a key path, if it belongs to this tree. -/
def remembered? (g : Gate) (t : UnitTree) (k : KeyPath) : Option Artifact :=
  match g.memory.lookup k with
  | some r => if r.treeBuiltAt = t.builtAt then some r.artifact else none
  | none => none

/-- Generates the artifact of a unit and remembers it. -/
def generateInline (g : Gate) (t : UnitTree) (i : Nat) (k : KeyPath) (time : Time) :
    Artifact × Gate :=
  let artifact := Artifact.generate t i g.global time
  (artifact, { g with memory := Association.assign k ⟨t.builtAt, artifact⟩ g.memory })

/-- The remembered artifact, or a new one of the given time. -/
def respond (g : Gate) (t : UnitTree) (i : Nat) (k : KeyPath) (time : Time) :
    Artifact × Action × Gate :=
  match g.remembered? t k with
  | some artifact =>
    match decide t i (some artifact.generatedAt) g.alwaysRebuild with
    | .reused => (artifact, .reused, g)
    | .rebuilt =>
      let (artifact, g) := g.generateInline t i k time
      (artifact, .rebuilt, g)
  | none =>
    let (artifact, g) := g.generateInline t i k time
    (artifact, .rebuilt, g)

/-! ## Serving -/

/-- Reuses or rebuilds the artifact of a unit, in the way the gate delivers. -/
def serve (g : Gate) (d : Disk) (t : UnitTree) (i : Nat) (k : KeyPath) :
    Except BundleError Served × Gate × Disk :=
  match g.delivery with
  | .persist directory =>
    match g.storedPath directory k with
    | .error e => (.error e, g, d)
    | .ok path =>
      match g.persist d t i path with
      | (.ok action, d) => (.ok (.stored path action), g, d)
      | (.error e, d) => (.error e, g, d)
  | .respond =>
    let (time, d) := d.tick
    let (artifact, action, g) := g.respond t i k time
    (.ok (.inline artifact action), g, d)

/-- Forgets every artifact. -/
def clear (g : Gate) : Gate := { g with memory := [] }

/-! ## Lemmas -/

theorem decide_eq_reused_iff (t : UnitTree) (i : Nat) (time : Time) :
    decide t i (some time) false = .reused ↔ t.freshness i ≤ time := by
  simp [decide]

theorem decide_always (t : UnitTree) (i : Nat) (existing : Option Time) :
    decide t i existing true = .rebuilt := by
  cases existing <;> simp [decide]

end Gate

end TemplateBundler
