import TemplateBundler.FilePath
import TemplateBundler.KeyPath
import TemplateBundler.Renderer
import TemplateBundler.Time

/-!
# The tree of template units

Units live in an array and name each other by position. Unit 0 is the root; every other unit knows
its parent, which always stands before it (`parent_lt`), so the way up ends. A unit that another one
replaces keeps its place in the array and its parent, but no list of children holds it any more.

    (t.insert p name r o f).2 = t.units.size                                   (insert_id)
    t.ancestors i = p :: t.ancestors p        where t.parent? i = some p       (ancestors_eq)
-/

namespace TemplateBundler

/-- Where a unit came from. -/
inductive Origin where
  | root (path : FilePath)
  | file (path : FilePath)
  | block (path : FilePath) (name : String)
  /-- A directory without a template file of the same name. -/
  | directory (path : FilePath)
deriving DecidableEq, Repr, Inhabited

namespace Origin

/-- The label listings use. -/
def kind : Origin → String
  | root _ => "root"
  | file _ => "file"
  | block _ _ => "block"
  | directory _ => "directory"

/-- The file or directory the unit was built from. -/
def path : Origin → FilePath
  | root p | file p | block p _ | directory p => p

end Origin

/-- A compiled template with its place in the tree. A unit without freshness of its own follows its
parent. -/
structure TemplateUnit where
  name : String
  renderer : Renderer
  origin : Origin
  freshness : Option Time
  parent : Option Nat
  children : List Nat
deriving Inhabited

@[ext]
structure UnitTree where
  units : Array TemplateUnit
  builtAt : Time
  parent_lt : ∀ (i p : Nat) (u : TemplateUnit), units[i]? = some u → u.parent = some p → p < i

namespace UnitTree

/-! ## Views -/

def rootId : Nat := 0

def unit? (t : UnitTree) (i : Nat) : Option TemplateUnit := t.units[i]?

def parent? (t : UnitTree) (i : Nat) : Option Nat := (t.unit? i).bind TemplateUnit.parent

def children (t : UnitTree) (i : Nat) : List Nat :=
  match t.unit? i with
  | some u => u.children
  | none => []

def name (t : UnitTree) (i : Nat) : String :=
  match t.unit? i with
  | some u => u.name
  | none => ""

/-- The stored freshness of a unit. -/
def own? (t : UnitTree) (i : Nat) : Option Time := (t.unit? i).bind TemplateUnit.freshness

theorem parent?_lt {t : UnitTree} {i p : Nat} (h : t.parent? i = some p) : p < i := by
  simp only [parent?, Option.bind_eq_some_iff] at h
  obtain ⟨u, hu, hp⟩ := h
  exact t.parent_lt i p u hu hp

/-- The way from a unit up to the root, the unit itself left out. -/
def ancestors (t : UnitTree) (i : Nat) : List Nat :=
  match _h : t.parent? i with
  | some p => p :: t.ancestors p
  | none => []
termination_by i
decreasing_by exact parent?_lt _h

/-! ## Building -/

/-- A tree of a root only. -/
def ofRoot (renderer : Renderer) (origin : Origin) (freshness : Option Time) (builtAt : Time) :
    UnitTree where
  units := #[⟨"", renderer, origin, freshness, none, []⟩]
  builtAt := builtAt
  parent_lt := by
    intro i p u hu hp
    cases i with
    | zero =>
      simp only [List.getElem?_toArray, List.getElem?_cons_zero, Option.some.injEq] at hu
      subst hu
      cases hp
    | succ i => simp at hu

/-- Changes one unit, but not its parent. -/
def modify (t : UnitTree) (i : Nat) (f : TemplateUnit → TemplateUnit)
    (hf : ∀ u, (f u).parent = u.parent) : UnitTree where
  units := t.units.modify i f
  builtAt := t.builtAt
  parent_lt := by
    intro j p u hu hp
    rw [Array.getElem?_modify] at hu
    split at hu
    · simp only [Option.map_eq_some_iff] at hu
      obtain ⟨v, hv, rfl⟩ := hu
      rw [hf] at hp
      exact t.parent_lt j p v hv hp
    · exact t.parent_lt j p u hu hp

/-- Adds a unit below one that is there already; no list of children holds it yet. -/
def push (t : UnitTree) (u : TemplateUnit) (h : ∀ p, u.parent = some p → p < t.units.size) :
    UnitTree where
  units := t.units.push u
  builtAt := t.builtAt
  parent_lt := by
    intro i p v hv hp
    rw [Array.getElem?_push] at hv
    split at hv
    · next hi =>
      subst hi
      injection hv with hv
      subst hv
      exact h p hp
    · exact t.parent_lt i p v hv hp

/-- The child of a name. -/
def child? (t : UnitTree) (i : Nat) (name : String) : Option Nat :=
  (t.children i).find? fun c => t.name c == name

def setChildren (t : UnitTree) (i : Nat) (children : List Nat) : UnitTree :=
  t.modify i (fun u => { u with children := children }) fun _ => rfl

/-- The list with `new` where `old` stands first. -/
def replaceFirst (old new : Nat) : List Nat → List Nat
  | [] => []
  | c :: cs => if c = old then new :: cs else c :: replaceFirst old new cs

/-- The children of `parent` once unit `id` of a name is among them. -/
def childrenWith (t : UnitTree) (parent : Nat) (name : String) (id : Nat) : List Nat :=
  match t.child? parent name with
  | some existing => replaceFirst existing id (t.children parent)
  | none => t.children parent ++ [id]

/-- Adds a unit below `parent`. A child of the same name gives its place to the new one and is
reached no more; otherwise the new unit stands last. An unknown parent changes nothing. -/
def insert (t : UnitTree) (parent : Nat) (name : String) (renderer : Renderer) (origin : Origin)
    (freshness : Option Time) : UnitTree × Nat :=
  let id := t.units.size
  if h : parent < id then
    let children := t.childrenWith parent name id
    let pushed := t.push ⟨name, renderer, origin, freshness, some parent, []⟩
      (by intro p hp; injection hp with hp; subst hp; exact h)
    (pushed.setChildren parent children, id)
  else (t, id)

/-! ## Key paths -/

/-- Follows a key path from the root, one name at a time. -/
def resolve (t : UnitTree) (k : KeyPath) : Option Nat :=
  k.segments.foldlM (fun i name => t.child? i name) rootId

/-- The names from the root down to a unit; the root itself has none. -/
def keyPath (t : UnitTree) (i : Nat) : KeyPath :=
  .ofSegments (((i :: t.ancestors i).filter fun j => (t.parent? j).isSome).map t.name).reverse

/-! ## Lemmas -/

theorem insert_id (t : UnitTree) (p : Nat) (name : String) (r : Renderer) (o : Origin)
    (f : Option Time) : (t.insert p name r o f).2 = t.units.size := by
  simp only [insert]
  split <;> rfl

theorem ancestors_of_none {t : UnitTree} {i : Nat} (h : t.parent? i = none) : t.ancestors i = [] := by
  rw [ancestors]
  split
  · next p hp => rw [h] at hp; cases hp
  · rfl

theorem ancestors_eq {t : UnitTree} {i p : Nat} (h : t.parent? i = some p) :
    t.ancestors i = p :: t.ancestors p := by
  rw [ancestors]
  split
  · next q hq => rw [h] at hq; injection hq with hq; subst hq; rfl
  · next hn => rw [h] at hn; cases hn

/-- Ancestors stand before the unit. -/
theorem lt_of_mem_ancestors {t : UnitTree} {i a : Nat} (h : a ∈ t.ancestors i) : a < i := by
  induction i using Nat.strongRecOn with
  | _ i ih =>
    cases hp : t.parent? i with
    | none => rw [ancestors_of_none hp] at h; cases h
    | some p =>
      have hlt := parent?_lt hp
      rw [ancestors_eq hp] at h
      rcases List.mem_cons.1 h with rfl | h
      · exact hlt
      · exact Nat.lt_trans (ih p hlt h) hlt

end UnitTree

end TemplateBundler
