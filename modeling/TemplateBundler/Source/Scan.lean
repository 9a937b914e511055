import TemplateBundler.Disk.Files

/-!
# What a source directory holds

`scan` reads a directory into a value that a build needs no disk for. Directories come in the order
a build visits them, and the reading stops at the first that cannot be listed. Links are followed;
a directory that holds a link to itself cannot be listed. Entries that are neither directories nor
files with the template extension leave no trace.
-/

namespace TemplateBundler.Source

structure SourceFile where
  path : FilePath
  /-- The file name without its extension. -/
  name : String
  /-- The modification time and the text, unless one of them cannot be read. -/
  content : Except Fault (Time × String)

/-- Directories next to each other, each with its template files and the directories inside. -/
inductive Folders where
  | done
  | failed (path : FilePath) (fault : Fault)
  | folder (name : String) (path : FilePath) (files : List SourceFile) (inside rest : Folders)

/-! ## Algorithm -/

def readFile (d : Disk) (path : FilePath) : Except Fault (Time × String) := do
  let time ← d.modified? path
  let text ← d.readText path
  .ok (time.getD Time.never, text)

/-- What an entry of a directory is, links followed. -/
inductive Entry where
  | folder
  | template
  | other

def fileEntry (extension name : String) : Entry :=
  if FilePath.extension? name == some extension then .template else .other

/-- Looks at an entry of the directory at `here`. A plain entry is known from the listing; only a
link has to be followed. -/
def entryOf (d : Disk) (extension : String) (here : Place) (path : FilePath) (name : String) :
    DiskNode → Except Fault Entry
  | .directory => .ok .folder
  | .file _ _ => .ok (fileEntry extension name)
  | .link _ => do
    match ← d.status path with
    | (place, .directory) => if place = here then .error .loop else .ok .folder
    | _ => .ok (fileEntry extension name)

/-- A directory's entries with their names and paths, in name order; the failure names the path
that caused it. -/
def entries (d : Disk) (extension : String) (path : FilePath) :
    Except (FilePath × Fault) (List (String × FilePath × Entry)) :=
  match d.status path with
  | .error e => .error (path, e)
  | .ok (here, .directory) =>
    (d.listing here).mapM fun (name, node) =>
      let inner := path.join ⟨name⟩
      match entryOf d extension here inner name node with
      | .ok entry => .ok (name, inner, entry)
      | .error e => .error (inner, e)
  | .ok _ => .error (path, .notDirectory)

def filesOf (d : Disk) (listed : List (String × FilePath × Entry)) : List SourceFile :=
  listed.filterMap fun (name, path, entry) =>
    match entry with
    | .template => some ⟨path, FilePath.stem name, readFile d path⟩
    | _ => none

def foldersOf (listed : List (String × FilePath × Entry)) : List (String × FilePath) :=
  listed.filterMap fun (name, path, entry) =>
    match entry with
    | .folder => some (name, path)
    | _ => none

/-- Whether the reading came to a stop. -/
def Folders.stops : Folders → Bool
  | done => false
  | failed _ _ => true
  | folder _ _ files inside rest =>
    files.any (fun f => !f.content.isOk) || inside.stops || rest.stops

/-- Directories next to each other; `deeper` reads the directories inside one of them. -/
def scanRow (d : Disk) (extension : String) (deeper : List (String × FilePath) → Folders) :
    List (String × FilePath) → Folders
  | [] => .done
  | (name, path) :: row =>
    match entries d extension path with
    | .error (culprit, e) => .failed culprit e
    | .ok listed =>
      let files := filesOf d listed
      let inside := if files.any (fun f => !f.content.isOk) then .done else deeper (foldersOf listed)
      let front := Folders.folder name path files inside .done
      if front.stops then front
      else .folder name path files inside (scanRow d extension deeper row)

/-- Directories down to a depth. -/
def scanDown (d : Disk) (extension : String) : Nat → List (String × FilePath) → Folders
  | _, [] => .done
  | 0, (_, path) :: _ => .failed path .nameTooLong
  | n + 1, row => scanRow d extension (scanDown d extension n) row

/-- The directory at `root`. Each directory inside has a longer path than the one it lies in, so the
limit on paths limits the depth, whatever links there are. -/
def scan (d : Disk) (extension : String) (root : FilePath) : Folders :=
  match d.status root with
  | .error e => .failed root e
  | .ok (_, .directory) => scanDown d extension Disk.pathLimit [("", root)]
  | .ok _ => .failed root .sourceNotDirectory

end TemplateBundler.Source
