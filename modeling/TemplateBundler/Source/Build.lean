import TemplateBundler.Error
import TemplateBundler.Source.Blocks
import TemplateBundler.Source.Scan
import TemplateBundler.Tree.Freshness

/-!
# Building the unit tree

Each template file becomes a unit named without the extension, with a unit per inline block below
it; each directory becomes the unit of that name, where a template file next to it or an inline
block has made one, and else an empty unit. Files come before directories. The build gives the
whole tree or the first error in scan order.
-/

namespace TemplateBundler.Source

/-- What a build needs besides the source. -/
structure BuildSettings where
  extension : String
  flags : CompileFlags
deriving DecidableEq, Repr, Inhabited

/-! ## Algorithm -/

/-- The name diagnostics give to a block of a file. -/
def blockFilename (path : FilePath) (block : String) : String := path.text ++ " [" ++ block ++ "]"

def compileUnit [Template.Language] (settings : BuildSettings) (path : FilePath)
    (block : Option String) (text : String) : Except BundleError Renderer :=
  let filename := match block with
    | some name => blockFilename path name
    | none => path.text
  match Renderer.compile filename text settings.flags with
  | .ok r => .ok r
  | .error e => .error (.compile path block e.message)

/-- Adds a block below the unit of its file. It has no freshness of its own. -/
def addBlock [Template.Language] (settings : BuildSettings) (path : FilePath) (owner : Nat)
    (t : UnitTree) (block : String × String) : Except BundleError UnitTree := do
  let renderer ← compileUnit settings path (some block.1) block.2
  .ok (t.insert owner block.1 renderer (.block path block.1) none).1

/-- Adds a template file and its blocks. -/
def addFile [Template.Language] (settings : BuildSettings) (parent : Nat) (t : UnitTree)
    (file : SourceFile) : Except BundleError UnitTree :=
  match file.content with
  | .error e => .error (.sourceRead file.path e)
  | .ok (time, text) => do
    let split := SplitText.ofText settings.extension text
    let renderer ← compileUnit settings file.path none split.primary
    let (t, id) := t.insert parent file.name renderer (.file file.path) none
    split.blocks.foldlM (addBlock settings file.path id) (t.mark id time)

/-- The unit of a directory, added where no unit of its name is there. -/
def folderUnit (t : UnitTree) (parent : Nat) (name : String) (path : FilePath) : UnitTree × Nat :=
  match t.child? parent name with
  | some id => (t, id)
  | none => t.insert parent name .empty (.directory path) (some Time.never)

def addFolders [Template.Language] (settings : BuildSettings) (parent : Nat) (t : UnitTree) :
    Folders → Except BundleError UnitTree
  | .done => .ok t
  | .failed path e => .error (.sourceRead path e)
  | .folder name path files inside rest => do
    let (t, id) := folderUnit t parent name path
    let t ← files.foldlM (addFile settings id) t
    let t ← addFolders settings id t inside
    addFolders settings parent t rest

/-- The tree of a scanned directory, built at a time. -/
def treeOf [Template.Language] (settings : BuildSettings) (root : FilePath) (builtAt : Time) :
    Folders → Except BundleError UnitTree
  | .failed path e => .error (.sourceRead path e)
  | .done => .ok (rootOnly root builtAt)
  | .folder _ _ files inside _ => do
    let t ← files.foldlM (addFile settings UnitTree.rootId) (rootOnly root builtAt)
    addFolders settings UnitTree.rootId t inside
where
  rootOnly (root : FilePath) (builtAt : Time) : UnitTree :=
    .ofRoot .empty (.root root) (some Time.never) builtAt

/-- The tree of the directory at `root`. -/
def build [Template.Language] (d : Disk) (settings : BuildSettings) (root : FilePath)
    (builtAt : Time) : Except BundleError UnitTree :=
  treeOf settings root builtAt (scan d settings.extension root)

end TemplateBundler.Source
