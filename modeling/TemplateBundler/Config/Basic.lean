import TemplateBundler.Disk.Paths
import TemplateBundler.Error
import TemplateBundler.Gate
import TemplateBundler.Source.Build

/-!
# The configuration of a bundle

Where the templates lie, where artifacts go, and how they are addressed. `normalize` brings the
paths and the URL prefix into one form and refuses a configuration that cannot work.

    normalPrefix p = .ok q → q = "/" ++ glue '/' (cutNonempty '/' p)          (normalPrefix_eq)
-/

namespace TemplateBundler

structure Config where
  /-- The directory of the templates. -/
  source : FilePath
  /-- The directory artifacts are stored under; without one they stay in memory. -/
  publicDirectory : Option FilePath
  /-- What the paths of artifact URLs start with. -/
  urlPrefix : String
  /-- The name an artifact publishes its tree under. -/
  global : String
  /-- Whether every request builds anew. -/
  reload : Bool
  /-- The extension of template files, without the dot. -/
  extension : String
  /-- Whether an artifact that cannot be stored is given back instead. -/
  serveOnWriteFailure : Bool
  compile : CompileFlags
deriving DecidableEq, Repr, Inhabited

/-- Values that take the place of configured ones. -/
structure Overrides where
  source : Option FilePath
  publicDirectory : Option FilePath
  urlPrefix : Option String
  global : Option String
  reload : Option Bool
deriving DecidableEq, Repr, Inhabited

namespace Config

/-! ## Making -/

/-- The defaults for everything but the two fields that have none. -/
def ofSource (source : FilePath) (urlPrefix : String) : Config :=
  ⟨source, none, urlPrefix, Conventions.globalName, false, Conventions.templateExtension, false,
    CompileFlags.standard⟩

def withOverrides (c : Config) (o : Overrides) : Config :=
  { c with
    source := o.source.getD c.source
    publicDirectory := o.publicDirectory <|> c.publicDirectory
    urlPrefix := o.urlPrefix.getD c.urlPrefix
    global := o.global.getD c.global
    reload := o.reload.getD c.reload }

/-- A configuration without a file. -/
def ofOverrides (o : Overrides) : Except BundleError Config :=
  match o.source, o.urlPrefix with
  | none, _ =>
    .error (.invalidConfig "source" "no configuration file found and no source directory given")
  | some _, none =>
    .error (.invalidConfig "prefix" "no configuration file found and no URL prefix given")
  | some source, some urlPrefix => .ok ((ofSource source urlPrefix).withOverrides o)

/-- The configuration with its relative paths below `base`. -/
def relativeTo (c : Config) (base : FilePath) : Config :=
  { c with
    source := base.join c.source
    publicDirectory := c.publicDirectory.map base.join }

/-! ## Normal form -/

/-- A name that no URL prefix may hold. -/
def isBadSegment (s : String) : Bool := s == "." || s == ".." || s.toList.contains '\\'

/-- One separator before each name of a prefix, and none after the last. -/
def normalPrefix (p : String) : Except BundleError String :=
  let segments := Text.cutNonempty '/' p
  if segments.isEmpty then
    .error (.invalidConfig "prefix" "must name at least one path segment")
  else
    match segments.find? isBadSegment with
    | some s => .error (.invalidConfig "prefix" ("segment '" ++ s ++ "' is not allowed"))
    | none => .ok ("/" ++ Text.glue '/' segments)

def checkGlobal (global : String) : Except BundleError Unit :=
  if Artifact.isIdentifier global then .ok ()
  else .error (.invalidConfig "global" ("'" ++ global ++ "' is not a valid JavaScript identifier"))

def checkExtension (extension : String) : Except BundleError Unit :=
  if extension.isEmpty || extension.toList.any fun c => c == '.' || c == '/' || c == '\\' then
    .error (.invalidConfig "extension" ("'" ++ extension ++ "' is not a bare file extension"))
  else .ok ()

def checkSource (d : Disk) (source : FilePath) : Except BundleError Unit :=
  if d.isDirectory source then .ok ()
  else .error (.invalidConfig "source" (source.text ++ " is not a directory"))

def checkPublic (d : Disk) : Option FilePath → Except BundleError Unit
  | some p =>
    if d.isFile p then .error (.invalidConfig "public" (p.text ++ " is a file")) else .ok ()
  | none => .ok ()

/-- The configuration in its normal form; the first field that cannot be used is the error. -/
def normalize (d : Disk) (c : Config) : Except BundleError Config := do
  let source := c.source.trimSeparators
  let publicDirectory := c.publicDirectory.map FilePath.trimSeparators
  let urlPrefix ← normalPrefix c.urlPrefix
  checkGlobal c.global
  checkExtension c.extension
  checkSource d source
  checkPublic d publicDirectory
  .ok { c with source, publicDirectory, urlPrefix }

/-! ## Use -/

def delivery (c : Config) : Delivery :=
  match c.publicDirectory with
  | some p => .persist p
  | none => .respond

def buildSettings (c : Config) : Source.BuildSettings := ⟨c.extension, c.compile⟩

/-! ## Lemmas -/

theorem normalPrefix_eq {p q : String} (h : normalPrefix p = .ok q) :
    q = "/" ++ Text.glue '/' (Text.cutNonempty '/' p) := by
  simp only [normalPrefix] at h
  split at h
  · cases h
  · split at h
    · cases h
    · injection h with h; exact h.symm

/-- **What is accepted**, one check after the other, and what it becomes. -/
theorem normalize_eq_ok_iff {c c' : Config} {d : Disk} : c.normalize d = .ok c' ↔
    ∃ urlPrefix, normalPrefix c.urlPrefix = .ok urlPrefix ∧ checkGlobal c.global = .ok () ∧
      checkExtension c.extension = .ok () ∧ checkSource d c.source.trimSeparators = .ok () ∧
      checkPublic d (c.publicDirectory.map FilePath.trimSeparators) = .ok () ∧
      c' = { c with
        source := c.source.trimSeparators
        publicDirectory := c.publicDirectory.map FilePath.trimSeparators
        urlPrefix } := by
  unfold normalize
  constructor
  · intro h
    simp only [bind, Except.bind] at h
    split at h
    · cases h
    next urlPrefix hprefix =>
    split at h
    · cases h
    next hglobal =>
    split at h
    · cases h
    next hextension =>
    split at h
    · cases h
    next hsource =>
    split at h
    · cases h
    next hpublic =>
    injection h with h
    exact ⟨urlPrefix, hprefix, hglobal, hextension, hsource, hpublic, h.symm⟩
  · rintro ⟨urlPrefix, hprefix, hglobal, hextension, hsource, hpublic, rfl⟩
    simp only [bind, Except.bind, hprefix, hglobal, hextension, hsource, hpublic]

end Config

end TemplateBundler
