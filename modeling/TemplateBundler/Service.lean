import TemplateBundler.Address
import TemplateBundler.Config.Basic
import TemplateBundler.Gate

/-!
# A service for one bundle

A service publishes the tree of its source and serves artifacts of it. A request that is not for an
artifact passes on to the next handler. A rebuild publishes a new tree once it is complete; one
that fails leaves the service as it was.
-/

namespace TemplateBundler

/-- What becomes of a request. -/
inductive Outcome where
  /-- The request is for the next handler. -/
  | passThrough
  | served (s : Served)
deriving DecidableEq, Repr, Inhabited

structure Service where
  config : Config
  /-- The published tree. -/
  tree : UnitTree
  gate : Gate

namespace Service

/-! ## Building -/

/-- Builds the tree of the source as it is now. -/
def buildTree [Template.Language] (c : Config) (d : Disk) : Except BundleError UnitTree × Disk :=
  let (now, after) := d.tick
  (Source.build d c.buildSettings c.source now, after)

/-- A service with its first tree published. -/
def start [Template.Language] (c : Config) (d : Disk) : Except BundleError Service × Disk :=
  match c.normalize d with
  | .error e => (.error e, d)
  | .ok c =>
    match buildTree c d with
    | (.error e, d) => (.error e, d)
    | (.ok tree, d) =>
      (.ok ⟨c, tree, .ofSettings c.delivery c.urlPrefix c.global c.reload⟩, d)

/-- Publishes a new tree and forgets the artifacts of the old one. -/
def rebuild [Template.Language] (s : Service) (d : Disk) :
    Except BundleError Unit × Service × Disk :=
  match buildTree s.config d with
  | (.error e, d) => (.error e, s, d)
  | (.ok tree, d) => (.ok (), { s with tree, gate := s.gate.clear }, d)

/-! ## Serving -/

def keyPathOfUrl? (s : Service) (url : String) : Option KeyPath :=
  Address.keyPath? s.config.urlPrefix url

/-- Serves a key path. An artifact that cannot be stored is given back, where the configuration
says so. -/
def serve (s : Service) (d : Disk) (k : KeyPath) : Except BundleError Served × Service × Disk :=
  match Gate.resolve s.tree k with
  | .error e => (.error e, s, d)
  | .ok i =>
    match s.gate.serve d s.tree i k with
    | (.ok served, gate, d) => (.ok served, { s with gate }, d)
    | (.error (.storage path reason), gate, d) =>
      if s.config.serveOnWriteFailure then
        let (now, d) := d.tick
        let (artifact, gate) := gate.generateInline s.tree i k now
        (.ok (.inline artifact .rebuilt), { s with gate }, d)
      else (.error (.storage path reason), { s with gate }, d)
    | (.error e, gate, d) => (.error e, { s with gate }, d)

/-- The methods that ask for an artifact, in capitals. -/
def methods : List String := ["GET", "HEAD"]

/-- Serves a key path that a request asked for; a unit that is not there is for the next handler. -/
def answer (s : Service) (d : Disk) (k : KeyPath) : Except BundleError Outcome × Service × Disk :=
  match s.serve d k with
  | (.ok served, s, d) => (.ok (.served served), s, d)
  | (.error e, s, d) => (if e.isPassThrough then .ok .passThrough else .error e, s, d)

/-- Handles a request; a service that reloads rebuilds before it serves. -/
def handle [Template.Language] (s : Service) (d : Disk) (method url : String) :
    Except BundleError Outcome × Service × Disk :=
  if method ∈ methods then
    match s.keyPathOfUrl? url with
    | none => (.ok .passThrough, s, d)
    | some k =>
      if s.config.reload then
        match s.rebuild d with
        | (.error e, s, d) => (.error e, s, d)
        | (.ok (), s, d) => s.answer d k
      else s.answer d k
  else (.ok .passThrough, s, d)

end Service

end TemplateBundler
