import TemplateBundler.Source.Build

/-!
# Building in two steps

A build compiles and inserts in turns. It gives the same tree to compile everything first, into an
outline of the source, and to plant the outline afterwards: an error throws the tree away in any
case. Planting cannot fail, so what is said of a tree is said of the planting of an outline.

    addFile settings p t file = (compileFile settings file).map (placeFile p t)       (addFile_eq)
    addFolders settings p t folders = (outlineOf settings folders).map (plant p t) (addFolders_eq)
-/

namespace TemplateBundler.Source

/-- A template file with its renderer and those of its blocks, in the order of the file. -/
structure Compiled where
  path : FilePath
  name : String
  time : Time
  renderer : Renderer
  blocks : List (String × Renderer)

/-- Directories next to each other, each with its compiled files and the directories inside. -/
inductive Outline where
  | done
  | folder (name : String) (path : FilePath) (files : List Compiled) (inside rest : Outline)

/-! ## Compiling -/

section

variable [Template.Language]

def compileBlock (settings : BuildSettings) (path : FilePath) (block : String × String) :
    Except BundleError (String × Renderer) :=
  (compileUnit settings path (some block.1) block.2).map fun r => (block.1, r)

def compileFile (settings : BuildSettings) (file : SourceFile) : Except BundleError Compiled :=
  match file.content with
  | .error e => .error (.sourceRead file.path e)
  | .ok (time, text) => do
    let split := SplitText.ofText settings.extension text
    let renderer ← compileUnit settings file.path none split.primary
    let blocks ← split.blocks.mapM (compileBlock settings file.path)
    .ok ⟨file.path, file.name, time, renderer, blocks⟩

def outlineOf (settings : BuildSettings) : Folders → Except BundleError Outline
  | .done => .ok .done
  | .failed path e => .error (.sourceRead path e)
  | .folder name path files inside rest => do
    let files ← files.mapM (compileFile settings)
    let inside ← outlineOf settings inside
    let rest ← outlineOf settings rest
    .ok (.folder name path files inside rest)

/-! ## Planting -/

def placeBlock (path : FilePath) (owner : Nat) (t : UnitTree) (block : String × Renderer) :
    UnitTree :=
  (t.insert owner block.1 block.2 (.block path block.1) none).1

/-- The unit of a file without its blocks, fresh as of the file's time. -/
def placeUnit (parent : Nat) (t : UnitTree) (file : Compiled) : UnitTree :=
  (t.insert parent file.name file.renderer (.file file.path) none).1.mark t.units.size file.time

def placeFile (parent : Nat) (t : UnitTree) (file : Compiled) : UnitTree :=
  file.blocks.foldl (placeBlock file.path t.units.size) (placeUnit parent t file)

def placeFiles (parent : Nat) (t : UnitTree) (files : List Compiled) : UnitTree :=
  files.foldl (placeFile parent) t

def plant (parent : Nat) (t : UnitTree) : Outline → UnitTree
  | .done => t
  | .folder name path files inside rest =>
    let spot := folderUnit t parent name path
    plant parent (plant spot.2 (placeFiles spot.2 spot.1 files) inside) rest

/-- The tree of the directory at `root`, from what is in it. -/
def grown (root : FilePath) (builtAt : Time) (files : List Compiled) (inside : Outline) :
    UnitTree :=
  plant UnitTree.rootId (placeFiles UnitTree.rootId (treeOf.rootOnly root builtAt) files) inside

/-! ## Both ways give the same tree -/

omit [Template.Language] in
theorem foldlM_eq_map_foldl {α β γ ε : Type} {f : β → α → Except ε β} {g : α → Except ε γ}
    {h : β → γ → β} (hf : ∀ b a, f b a = (g a).map (h b)) (as : List α) (b : β) :
    as.foldlM f b = (as.mapM g).map (List.foldl h b) := by
  induction as generalizing b with
  | nil => rfl
  | cons a as ih =>
    rw [List.foldlM_cons, List.mapM_cons, hf]
    cases g a with
    | error e => rfl
    | ok c =>
      simp only [Except.map, bind, Except.bind, ih]
      cases as.mapM g <;> rfl

theorem addBlock_eq (settings : BuildSettings) (path : FilePath) (owner : Nat) (t : UnitTree)
    (block : String × String) :
    addBlock settings path owner t block =
      (compileBlock settings path block).map (placeBlock path owner t) := by
  unfold addBlock compileBlock
  cases compileUnit settings path (some block.1) block.2 <;> rfl

theorem addFile_eq (settings : BuildSettings) (parent : Nat) (t : UnitTree) (file : SourceFile) :
    addFile settings parent t file = (compileFile settings file).map (placeFile parent t) := by
  unfold addFile compileFile
  cases file.content with
  | error e => rfl
  | ok pair =>
    obtain ⟨time, text⟩ := pair
    cases hr : compileUnit settings file.path none
        (SplitText.ofText settings.extension text).primary with
    | error e => simp only [hr, bind, Except.bind, Except.map]
    | ok r =>
      simp only [hr, bind, Except.bind]
      rw [foldlM_eq_map_foldl (addBlock_eq settings file.path _), UnitTree.insert_id]
      cases (SplitText.ofText settings.extension text).blocks.mapM
        (compileBlock settings file.path) <;> rfl

theorem addFiles_eq (settings : BuildSettings) (parent : Nat) (t : UnitTree)
    (files : List SourceFile) :
    files.foldlM (addFile settings parent) t =
      (files.mapM (compileFile settings)).map (placeFiles parent t) :=
  foldlM_eq_map_foldl (addFile_eq settings parent) files t

theorem addFolders_eq (settings : BuildSettings) (parent : Nat) (t : UnitTree) (folders : Folders) :
    addFolders settings parent t folders = (outlineOf settings folders).map (plant parent t) := by
  induction folders generalizing parent t with
  | done => rfl
  | failed path e => rfl
  | folder name path files inside rest ihi ihr =>
    simp only [addFolders, outlineOf, addFiles_eq, bind, Except.bind]
    cases files.mapM (compileFile settings) with
    | error e => rfl
    | ok files =>
      simp only [Except.map, ihi]
      cases outlineOf settings inside with
      | error e => rfl
      | ok inside =>
        simp only [Except.map, ihr]
        cases outlineOf settings rest <;> rfl

/-- The tree of a directory is grown from its compiled contents. -/
theorem treeOf_folder (settings : BuildSettings) (root : FilePath) (builtAt : Time) (name : String)
    (path : FilePath) (files : List SourceFile) (inside rest : Folders) :
    treeOf settings root builtAt (.folder name path files inside rest) =
      (files.mapM (compileFile settings) >>= fun files =>
        (outlineOf settings inside).map (grown root builtAt files)) := by
  unfold treeOf
  simp only [addFiles_eq, addFolders_eq, bind, Except.bind]
  cases files.mapM (compileFile settings) with
  | error e => rfl
  | ok files =>
    simp only [Except.map]
    cases outlineOf settings inside <;> rfl

/-! ## Compiling in parts -/

omit [Template.Language] in
theorem bind_eq_ok_iff {α β ε : Type} (x : Except ε α) (f : α → Except ε β) (b : β) :
    (x >>= f) = .ok b ↔ ∃ a, x = .ok a ∧ f a = .ok b := by
  cases x with
  | error e => simp [bind, Except.bind]
  | ok a => simp [bind, Except.bind]

theorem compileFile_eq_ok_iff (settings : BuildSettings) (file : SourceFile) (c : Compiled) :
    compileFile settings file = .ok c ↔
      ∃ text, file.content = .ok (c.time, text) ∧ c.path = file.path ∧ c.name = file.name ∧
        compileUnit settings file.path none (SplitText.ofText settings.extension text).primary =
          .ok c.renderer ∧
        (SplitText.ofText settings.extension text).blocks.mapM (compileBlock settings file.path) =
          .ok c.blocks := by
  unfold compileFile
  cases hc : file.content with
  | error e => simp
  | ok pair =>
    obtain ⟨time, text⟩ := pair
    simp only [bind_eq_ok_iff, Except.ok.injEq, Prod.mk.injEq]
    constructor
    · rintro ⟨r, hr, blocks, hb, rfl⟩
      exact ⟨text, ⟨rfl, rfl⟩, rfl, rfl, hr, hb⟩
    · rintro ⟨text', ⟨ht, rfl⟩, hpath, hname, hr, hb⟩
      refine ⟨c.renderer, hr, c.blocks, hb, ?_⟩
      rw [← hpath, ← hname, ht]

theorem outlineOf_folder_eq_ok_iff (settings : BuildSettings) (name : String) (path : FilePath)
    (files : List SourceFile) (inside rest : Folders) (o : Outline) :
    outlineOf settings (.folder name path files inside rest) = .ok o ↔
      ∃ cs oi orest, files.mapM (compileFile settings) = .ok cs ∧
        outlineOf settings inside = .ok oi ∧ outlineOf settings rest = .ok orest ∧
        o = .folder name path cs oi orest := by
  simp only [outlineOf, bind_eq_ok_iff, Except.ok.injEq]
  constructor
  · rintro ⟨cs, hcs, oi, hoi, orest, hor, rfl⟩
    exact ⟨cs, oi, orest, hcs, hoi, hor, rfl⟩
  · rintro ⟨cs, oi, orest, hcs, hoi, hor, rfl⟩
    exact ⟨cs, hcs, oi, hoi, orest, hor, rfl⟩

end

end TemplateBundler.Source
