import Mathlib.Order.Bounds.Basic
import TemplateBundler.Proofs.Marks
import TemplateBundler.Proofs.Shape

/-!
# What the freshness of a unit is

Every unit but a block starts with a freshness: a file with its modification time, the root and
empty units with the epoch. A file is heard at a unit above it, unless it was modified at the epoch
or before and an empty unit lies between. What a unit stores is exactly the newest of what it
started with and of the files heard there (`Exact`), in whatever order the units came.
-/

namespace TemplateBundler.Source

open UnitTree

/-! ## What is heard -/

/-- The freshness that a unit starts with. -/
def base? (times : FilePath → Time) : Origin → Option Time
  | .root _ | .directory _ => some Time.never
  | .file path => some (times path)
  | .block _ _ => none

/-- No empty unit stands between `u` and `i` below it. -/
def Clear (t : UnitTree) (i u : Nat) : Prop :=
  ∀ w ∈ t.ancestors i, u ∈ t.ancestors w → ∀ path, origin? t w ≠ some (.directory path)

/-- A template file below `u` with this modification time is heard there. -/
def Heard (times : FilePath → Time) (t : UnitTree) (u : Nat) (time : Time) : Prop :=
  ∃ i path, origin? t i = some (.file path) ∧ times path = time ∧ u ∈ t.ancestors i ∧
    (Time.never < time ∨ Clear t i u)

/-- What units store is what they started with or what is heard, whichever is newest. -/
structure Exact (times : FilePath → Time) (t : UnitTree) : Prop where
  root : ∃ path, origin? t rootId = some (.root path)
  eq_root : ∀ i path, origin? t i = some (.root path) → i = rootId
  own?_isSome : ∀ i o, origin? t i = some o → (t.own? i).isSome = (base? times o).isSome
  base_le : ∀ i o b x, origin? t i = some o → base? times o = some b → t.own? i = some x → b ≤ x
  heard_le : ∀ i time x, Heard times t i time → t.own? i = some x → time ≤ x
  attained : ∀ i o x, origin? t i = some o → t.own? i = some x →
    base? times o = some x ∨ Heard times t i x

variable {times : FilePath → Time}

/-! ## Insertion -/

theorem heard_congr {t t' : UnitTree} (h : ∀ i, t'.face? i = t.face? i) (u : Nat) (time : Time) :
    Heard times t' u time ↔ Heard times t u time := by
  have horigin : ∀ i, origin? t' i = origin? t i := fun i => origin?_congr (h i)
  unfold Heard Clear
  simp only [horigin, ancestors_congr h]

/-- One more unit, which starts with what it stores, keeps freshness exact if what the others store
is no less than before and the newest of what they hear now. -/
theorem Exact.extend {t t' : UnitTree} (he : Exact times t) (hpos : rootId < t.units.size)
    {o : Origin}
    (horigin : ∀ i, origin? t' i = if i = t.units.size then some o else origin? t i)
    (hroot : ∀ path, o ≠ .root path) (hquiet : ∀ time, ¬ Heard times t' t.units.size time)
    (hself : t'.own? t.units.size = base? times o)
    (hold : ∀ i o, i ≠ t.units.size → origin? t i = some o →
      (t'.own? i).isSome = (t.own? i).isSome ∧ ∀ x, t'.own? i = some x →
        (∀ y, t.own? i = some y → y ≤ x) ∧ (∀ time, Heard times t' i time → time ≤ x) ∧
          (base? times o = some x ∨ Heard times t' i x)) : Exact times t' := by
  have hcases : ∀ i o', origin? t' i = some o' →
      (i = t.units.size ∧ o' = o) ∨ (i ≠ t.units.size ∧ origin? t i = some o') := by
    intro i o' ho
    rw [horigin] at ho
    split at ho
    · next hi => exact Or.inl ⟨hi, (Option.some.inj ho).symm⟩
    · next hi => exact Or.inr ⟨hi, ho⟩
  refine ⟨?_, fun i path ho => ?_, fun i o' ho => ?_, fun i o' b x ho hb hx => ?_,
    fun i time x h hx => ?_, fun i o' x ho hx => ?_⟩
  · obtain ⟨path, h⟩ := he.root
    exact ⟨path, by rw [horigin, if_neg (Nat.ne_of_lt hpos), h]⟩
  · rcases hcases i _ ho with ⟨-, ho⟩ | ⟨-, ho⟩
    · exact absurd ho.symm (hroot path)
    · exact he.eq_root i path ho
  · rcases hcases i o' ho with ⟨rfl, rfl⟩ | ⟨hi, ho⟩
    · rw [hself]
    · rw [(hold i o' hi ho).1, he.own?_isSome i o' ho]
  · rcases hcases i o' ho with ⟨rfl, rfl⟩ | ⟨hi, ho⟩
    · rw [hself, hb] at hx
      exact Int.le_of_eq (Option.some.inj hx)
    · obtain ⟨hsome, hnewest⟩ := hold i o' hi ho
      rw [hx] at hsome
      obtain ⟨y, hy⟩ := Option.isSome_iff_exists.1 hsome.symm
      exact Int.le_trans (he.base_le i o' b y ho hb hy) ((hnewest x hx).1 y hy)
  · obtain ⟨o', ho⟩ := exists_origin? (lt_of_own? hx)
    rcases hcases i _ ho with ⟨rfl, -⟩ | ⟨hi, ho⟩
    · exact absurd h (hquiet time)
    · exact ((hold i _ hi ho).2 x hx).2.1 time h
  · rcases hcases i o' ho with ⟨rfl, rfl⟩ | ⟨hi, ho⟩
    · exact Or.inl (hself.symm.trans hx)
    · exact ((hold i o' hi ho).2 x hx).2.2

section Insert
variable {t : UnitTree} {p : Nat} (hp : p < t.units.size) (n : String) (r : Renderer) (o : Origin)
  (f : Option Time)

include hp

/-- A new unit does not change which of the others are empty units below `u`. -/
theorem forall_clear_insert {ws : List Nat} (hws : ∀ w ∈ ws, w ≠ t.units.size) (u : Nat) :
    (∀ w ∈ ws, u ∈ (t.insert p n r o f).1.ancestors w →
        ∀ path, origin? (t.insert p n r o f).1 w ≠ some (.directory path)) ↔
      ∀ w ∈ ws, u ∈ t.ancestors w → ∀ path, origin? t w ≠ some (.directory path) := by
  refine forall₂_congr fun w hw => ?_
  rw [ancestors_insert hp n r o f (hws w hw), origin?_insert hp, if_neg (hws w hw)]

theorem clear_insert {i u : Nat} (hi : i ≠ t.units.size) :
    Clear (t.insert p n r o f).1 i u ↔ Clear t i u := by
  have hws : ∀ w ∈ t.ancestors i, w ≠ t.units.size := by
    intro w hw
    have := lt_of_mem_ancestors hw
    have := lt_of_mem_ancestors_size hw
    omega
  unfold Clear
  rw [ancestors_insert hp n r o f hi]
  exact forall_clear_insert hp n r o f hws u

/-- What is heard after an insertion was heard before or comes from the new unit. -/
theorem heard_insert {u : Nat} (time : Time) :
    Heard times (t.insert p n r o f).1 u time ↔ Heard times t u time ∨
      ∃ path, o = .file path ∧ times path = time ∧ u ∈ t.lineage p ∧
        (Time.never < time ∨ Clear (t.insert p n r o f).1 t.units.size u) := by
  have hanc := ancestors_insert_self hp n r o f
  constructor
  · rintro ⟨i, path, hi, htime, hu, hclear⟩
    rw [origin?_insert hp] at hi
    by_cases hnew : i = t.units.size
    · subst hnew
      rw [if_pos rfl] at hi
      rw [hanc] at hu
      exact Or.inr ⟨path, Option.some.inj hi, htime, hu, hclear⟩
    · rw [if_neg hnew] at hi
      rw [ancestors_insert hp n r o f hnew] at hu
      rw [clear_insert hp n r o f hnew] at hclear
      exact Or.inl ⟨i, path, hi, htime, hu, hclear⟩
  · rintro (⟨i, path, hi, htime, hu, hclear⟩ | ⟨path, rfl, htime, hu, hclear⟩)
    · have hnew : i ≠ t.units.size := Nat.ne_of_lt (lt_of_origin? hi)
      refine ⟨i, path, by rw [origin?_insert hp, if_neg hnew, hi], htime, ?_, ?_⟩
      · rwa [ancestors_insert hp n r o f hnew]
      · rwa [clear_insert hp n r o f hnew]
    · refine ⟨t.units.size, path, by rw [origin?_insert hp, if_pos rfl], htime, ?_, hclear⟩
      rwa [hanc]

/-- Nothing lies below a new unit. -/
theorem not_heard_size (time : Time) : ¬ Heard times (t.insert p n r o f).1 t.units.size time := by
  rintro ⟨i, path, -, -, hu, -⟩
  have hlt := lt_of_mem_ancestors hu
  have hsize := lt_of_mem_ancestors_size hu
  rw [size_insert hp] at hsize
  omega

/-- A unit that is no file starts with its own freshness and is heard nowhere. -/
theorem Exact.insert (he : Exact times t) (hroot : ∀ path, o ≠ .root path)
    (hfile : ∀ path, o ≠ .file path) (hf : f = base? times o) :
    Exact times (t.insert p n r o f).1 := by
  have hheard : ∀ u time, Heard times (t.insert p n r o f).1 u time ↔ Heard times t u time := by
    intro u time
    rw [heard_insert hp]
    constructor
    · rintro (h | ⟨path, ho, -⟩)
      · exact h
      · exact absurd ho (hfile path)
    · exact Or.inl
  refine he.extend (Nat.zero_lt_of_lt hp) (origin?_insert hp n r o f) hroot
    (not_heard_size hp n r o f) ?_ ?_
  · rw [own?_insert hp, if_pos rfl, hf]
  · intro i o' hi ho
    rw [own?_insert hp, if_neg hi]
    refine ⟨rfl, fun x hx => ⟨fun y hy => ?_, fun time h => ?_, ?_⟩⟩
    · exact Int.le_of_eq (Option.some.inj (hy.symm.trans hx))
    · exact he.heard_le i time x ((hheard i time).1 h) hx
    · rw [hheard]
      exact he.attained i o' x ho hx

end Insert

/-! ## Files -/

theorem Exact.rooted {t : UnitTree} (ht : t.Linked) (he : Exact times t) : t.Rooted := by
  intro a ha hnone
  refine ht.parent?_isSome a ?_ ha
  rintro rfl
  obtain ⟨path, hroot⟩ := he.root
  have hsome := he.own?_isSome rootId _ hroot
  rw [hnone] at hsome
  cases hsome

/-- No empty unit stands between `u` and a unit that is added below `p`. -/
def ClearFrom (t : UnitTree) (p u : Nat) : Prop :=
  ∀ w ∈ t.lineage p, u ∈ t.ancestors w → ∀ path, origin? t w ≠ some (.directory path)

theorem ne_size_of_mem_lineage {t : UnitTree} {p : Nat} (hp : p < t.units.size) :
    ∀ w ∈ t.lineage p, w ≠ t.units.size :=
  fun _ hw => Nat.ne_of_lt (Nat.lt_of_le_of_lt (le_of_mem_lineage hw) hp)

theorem clear_insert_self {t : UnitTree} {p : Nat} (hp : p < t.units.size) (n : String)
    (r : Renderer) (o : Origin) (f : Option Time) (u : Nat) :
    Clear (t.insert p n r o f).1 t.units.size u ↔ ClearFrom t p u := by
  unfold Clear ClearFrom
  rw [ancestors_insert_self hp]
  exact forall_clear_insert hp n r o f (ne_size_of_mem_lineage hp) u

/-- **Where a climb may end.** What a unit on the way stores reaches those above that can hear the
new file, so these are as fresh. -/
theorem Exact.le_above {t : UnitTree} (ht : t.Linked) (he : Exact times t) {p w u : Nat}
    {time x y : Time} (hw : w ∈ t.lineage p) (hu : u ∈ t.ancestors w)
    (hx : t.own? w = some x) (hy : t.own? u = some y) (hle : time ≤ x)
    (hclear : Time.never < time ∨ ClearFrom t p u) : time ≤ y := by
  obtain ⟨o, ho⟩ := exists_origin? (lt_of_own? hx)
  have hbetween : ∀ z ∈ t.ancestors w, z ∈ t.lineage p := fun z hz =>
    lineage_trans (List.mem_cons_of_mem _ hz) hw
  suffices hheard : Heard times t u x from Int.le_trans hle (he.heard_le u x y hheard hy)
  have hlate : Time.never < time → Time.never < x := fun h => Int.lt_of_lt_of_le h hle
  rcases he.attained w o x ho hx with hbase | ⟨g, path, hg, htime, hwg, hheard⟩
  · -- the unit stores what it started with
    cases o with
    | root path =>
      rw [he.eq_root w path ho, ancestors_of_none ht.parent?_root] at hu
      exact absurd hu List.not_mem_nil
    | directory path =>
      rcases hclear with hlt | hclear
      · have := hlate hlt
        rw [← Option.some.inj hbase] at this
        exact absurd this (Int.lt_irrefl _)
      · exact absurd ho (hclear w hw hu path)
    | file path =>
      refine ⟨w, path, ho, Option.some.inj hbase, hu, ?_⟩
      rcases hclear with hlt | hclear
      · exact Or.inl (hlate hlt)
      · exact Or.inr fun z hz hzu => hclear z (hbetween z hz) hzu
    | block path name => cases hbase
  · -- the unit stores the time of a file below it
    refine ⟨g, path, hg, htime, ancestors_trans hu hwg, ?_⟩
    rcases hclear with hlt | hclear
    · exact Or.inl (hlate hlt)
    rcases hheard with hlt | hheard
    · exact Or.inl hlt
    refine Or.inr fun z hz hzu => ?_
    rcases ancestors_total hz hwg with rfl | hzw | hwz
    · exact hclear z hw hzu
    · exact hclear z (hbetween z hzw) hzu
    · exact hheard z hz hwz

/-- The way of the mark of a new file below `p`: up to `u` everything is older. -/
def Raised (t : UnitTree) (p : Nat) (time : Time) (u : Nat) : Prop :=
  u ∈ t.lineage p ∧ (t.own? u).isSome ∧
    ∀ w ∈ t.lineage p, w = u ∨ u ∈ t.ancestors w → ∀ x, t.own? w = some x → x < time

/-- A unit that can hear the new file and is not raised is as fresh. -/
theorem Exact.le_of_not_raised {t : UnitTree} (ht : t.Linked) (he : Exact times t) {p u : Nat}
    {time x : Time} (hu : u ∈ t.lineage p) (hx : t.own? u = some x)
    (hraised : ¬ Raised t p time u) (hclear : Time.never < time ∨ ClearFrom t p u) : time ≤ x := by
  -- the climb has ended at `u` or below it
  have hend : ∃ w ∈ t.lineage p, (w = u ∨ u ∈ t.ancestors w) ∧
      ∃ y, t.own? w = some y ∧ time ≤ y := by
    apply Classical.byContradiction
    intro hno
    refine hraised ⟨hu, by rw [hx]; rfl, fun w hw hwu y hy => ?_⟩
    apply Int.not_le.1
    exact fun hle => hno ⟨w, hw, hwu, y, hy, hle⟩
  obtain ⟨w, hw, rfl | hwu, y, hy, hle⟩ := hend
  · rw [← Option.some.inj (hy.symm.trans hx)]
    exact hle
  · exact he.le_above ht hw hwu hy hx hle hclear

/-- An empty unit on the way ends the climb of a file that is not younger than the epoch. -/
theorem Exact.clear_of_raised {t : UnitTree} (he : Exact times t) {p u : Nat} {time : Time}
    (h : Raised t p time u) : Time.never < time ∨ ClearFrom t p u := by
  by_cases hlate : Time.never < time
  · exact Or.inl hlate
  · refine Or.inr fun w hw hwu path hdir => hlate ?_
    obtain ⟨y, hy⟩ := Option.isSome_iff_exists.1 (he.own?_isSome w _ hdir)
    exact Int.lt_of_le_of_lt (he.base_le w _ Time.never y hdir rfl hy)
      (h.2.2 w hw (Or.inr hwu) y hy)

section File
variable {t : UnitTree} (ht : t.Linked) (he : Exact times t) {p : Nat} (hp : p < t.units.size)
  (file : Compiled)

include hp

theorem passes_insert_iff (n : String) (r : Renderer) (o : Origin) (f : Option Time) (time : Time)
    {u : Nat} (hu : u ≠ t.units.size) :
    Passes (t.insert p n r o f).1 time t.units.size u ↔ Raised t p time u := by
  have hw := ne_size_of_mem_lineage hp
  unfold Passes Raised
  rw [ancestors_insert_self hp, own?_insert hp, if_neg hu]
  refine and_congr_right fun _ => and_congr_right fun _ => forall₂_congr fun w hmem => ?_
  rw [ancestors_insert hp n r o f (hw w hmem), own?_insert hp, if_neg (hw w hmem)]

include ht he

theorem rooted_insert (n : String) (r : Renderer) (o : Origin) (f : Option Time) :
    (t.insert p n r o f).1.Rooted := by
  intro a ha hnone
  rw [parent?_insert hp]
  split
  · rfl
  · next hne =>
    rw [own?_insert hp, if_neg hne] at hnone
    rw [size_insert hp] at ha
    exact he.rooted ht a (by omega) hnone

theorem own?_placeUnit_self : (placeUnit p t file).own? t.units.size = some file.time := by
  have hsize : t.units.size <
      (t.insert p file.name file.renderer (.file file.path) none).1.units.size := by
    rw [size_insert hp]
    omega
  exact own?_mark_self (rooted_insert ht he hp _ _ _ _) hsize file.time

theorem own?_placeUnit {u : Nat} (hu : u ≠ t.units.size) :
    (Raised t p file.time u → (placeUnit p t file).own? u = some file.time) ∧
      (¬ Raised t p file.time u → (placeUnit p t file).own? u = t.own? u) := by
  have hrooted := rooted_insert ht he hp file.name file.renderer (.file file.path) none
  have hsize : t.units.size <
      (t.insert p file.name file.renderer (.file file.path) none).1.units.size := by
    rw [size_insert hp]
    omega
  rw [← passes_insert_iff hp file.name file.renderer (.file file.path) none file.time hu]
  unfold placeUnit
  refine ⟨own?_mark_of_passes hrooted hsize file.time, fun h => ?_⟩
  rw [own?_mark_of_not_passes hrooted hsize file.time hu h, own?_insert hp, if_neg hu]

/-- **A file that is added keeps freshness exact.** -/
theorem Exact.placeUnit (htime : file.time = times file.path) :
    Exact times (placeUnit p t file) := by
  have hface := face?_mark (t.insert p file.name file.renderer (.file file.path) none).1
    t.units.size file.time
  have horigin : ∀ i, origin? (Source.placeUnit p t file) i =
      if i = t.units.size then some (.file file.path) else origin? t i := by
    intro i
    unfold Source.placeUnit
    rw [origin?_congr (hface i), origin?_insert hp]
  have hheard : ∀ u time, Heard times (Source.placeUnit p t file) u time ↔ Heard times t u time ∨
      (file.time = time ∧ u ∈ t.lineage p ∧ (Time.never < time ∨ ClearFrom t p u)) := by
    intro u time
    unfold Source.placeUnit
    rw [heard_congr hface, heard_insert hp, clear_insert_self hp]
    simp [htime, eq_comm]
  have hfresh : ∀ time, ¬ Heard times (Source.placeUnit p t file) t.units.size time := by
    intro time h
    unfold Source.placeUnit at h
    rw [heard_congr hface] at h
    exact not_heard_size hp _ _ _ _ time h
  refine he.extend ht.root_lt horigin (fun _ => Origin.noConfusion) hfresh ?_ ?_
  · rw [own?_placeUnit_self ht he hp file, htime]
    rfl
  · intro i o hi ho
    obtain ⟨hyes, hno⟩ := own?_placeUnit ht he hp file hi
    simp only [hheard]
    by_cases hraised : Raised t p file.time i
    · -- everything that the unit stored or heard is older than the file
      obtain ⟨z, hz⟩ := Option.isSome_iff_exists.1 hraised.2.1
      have hlt := hraised.2.2 i hraised.1 (Or.inl rfl) z hz
      rw [hyes hraised, hz]
      refine ⟨rfl, fun x hx => ?_⟩
      obtain rfl := Option.some.inj hx
      refine ⟨fun y hy => ?_, fun time h => ?_, ?_⟩
      · rw [← Option.some.inj hy]
        exact Int.le_of_lt hlt
      · rcases h with h | ⟨heq, -, -⟩
        · exact Int.le_of_lt (Int.lt_of_le_of_lt (he.heard_le i time z h hz) hlt)
        · exact Int.le_of_eq heq.symm
      · exact Or.inr (Or.inr ⟨rfl, hraised.1, he.clear_of_raised hraised⟩)
    · rw [hno hraised]
      refine ⟨rfl, fun x hx => ⟨fun y hy => ?_, fun time h => ?_, ?_⟩⟩
      · exact Int.le_of_eq (Option.some.inj (hy.symm.trans hx))
      · rcases h with h | ⟨heq, hmem, hclear⟩
        · exact he.heard_le i time x h hx
        · exact heq ▸ he.le_of_not_raised ht hmem hx hraised (heq.symm ▸ hclear)
      · exact (he.attained i o x ho hx).imp_right Or.inl

end File

/-! ## Builds -/

theorem Exact.of_step {t t' : UnitTree} (h : Step times t t') (ht : t.Linked) (he : Exact times t) :
    Exact times t' := by
  cases h with
  | file f hp _ htime => exact he.placeUnit ht (ht.follow_lt ht.root_lt hp) f htime
  | block path b hp =>
    exact he.insert (ht.follow_lt ht.root_lt hp) _ _ _ _ (fun _ => Origin.noConfusion)
      (fun _ => Origin.noConfusion) rfl
  | folder name path hp =>
    exact he.insert (ht.follow_lt ht.root_lt hp) _ _ _ _ (fun _ => Origin.noConfusion)
      (fun _ => Origin.noConfusion) rfl

theorem exact_rootOnly (root : FilePath) (builtAt : Time) :
    Exact times (treeOf.rootOnly root builtAt) := by
  have hquiet : ∀ u time, ¬ Heard times (treeOf.rootOnly root builtAt) u time := by
    rintro u time ⟨i, path, hi, -⟩
    cases (eq_rootId_of_origin? hi).2
  refine ⟨⟨root, rfl⟩, fun i path ho => (eq_rootId_of_origin? ho).1, fun i o ho => ?_,
    fun i o b x ho hb hx => ?_, fun i time x hi _ => absurd hi (hquiet i time),
    fun i o x ho hx => ?_⟩
  · obtain ⟨rfl, rfl⟩ := eq_rootId_of_origin? ho
    rfl
  · obtain ⟨rfl, rfl⟩ := eq_rootId_of_origin? ho
    exact Int.le_of_eq (Option.some.inj (hb.symm.trans hx))
  · obtain ⟨rfl, rfl⟩ := eq_rootId_of_origin? ho
    exact Or.inl hx

section

variable [Template.Language]

/-- What a build says of its tree. -/
structure Built (d : Disk) (settings : BuildSettings) (root : FilePath) (t : UnitTree) : Prop where
  linked : t.Linked
  kept : Kept t
  owned : Owned t
  exact : Exact (timeOf d) t
  shaped : Shaped d settings root t

theorem built_of_build {d : Disk} (hd : d.WellFormed) {settings : BuildSettings} {root : FilePath}
    {builtAt : Time} {t : UnitTree} (h : build d settings root builtAt = .ok t) :
    Built d settings root t := by
  obtain ⟨files, inside, hchart, rfl⟩ := charted_of_build hd h
  obtain ⟨hfiles, hinside⟩ := hchart.tidy hd
  have hgrows := grows_grown root builtAt hfiles hinside
  have hlinked : (treeOf.rootOnly root builtAt).Linked := linked_ofRoot _ _ _ _
  exact ⟨hgrows.linked hlinked, hgrows.kept hlinked (kept_rootOnly root builtAt),
    hgrows.owned hlinked (owned_rootOnly root builtAt),
    hgrows.keeps (fun _ _ => Exact.of_step) hlinked (exact_rootOnly root builtAt),
    shaped_grown hd hchart builtAt⟩

/-! ## Units below a unit -/

section Built
variable {d : Disk} {settings : BuildSettings} {root : FilePath} {t : UnitTree}
  (h : Built d settings root t)

include h

theorem Built.follow_file {i : Nat} {path : FilePath} (hi : origin? t i = some (.file path)) :
    ∃ K, t.follow rootId K = some i := by
  rcases h.kept i (lt_of_origin? hi) with hK | ⟨-, path', n, hblock⟩
  · exact hK
  · rw [hi] at hblock
    cases hblock

theorem Built.templateAt {i : Nat} {path : FilePath} (hi : origin? t i = some (.file path)) :
    ∃ k, TemplateAt d settings root k path := by
  obtain ⟨K, hK⟩ := h.follow_file hi
  obtain ⟨u, hu, ho⟩ := Option.map_eq_some_iff.1 hi
  have hunit : UnitOf d settings root K u.renderer u.origin := h.shaped.unitOf ⟨K⟩ i u hK hu
  rw [ho] at hunit
  generalize u.renderer = r at hunit
  cases hunit with
  | file htemplate => exact ⟨K, htemplate⟩

/-- Where a block is, its owner is the parent; every other unit stores its freshness. -/
theorem Built.own?_eq_some {i : Nat} {o : Origin} {b : Time} (ho : origin? t i = some o)
    (hb : base? (timeOf d) o = some b) : t.own? i = some (t.freshness i) := by
  have hsome := h.exact.own?_isSome i o ho
  rw [hb] at hsome
  obtain ⟨x, hx⟩ := Option.isSome_iff_exists.1 hsome
  rw [freshness, List.findSome?_cons, hx]
  rfl

/-- A block is as fresh as its file. -/
theorem Built.freshness_block {i : Nat} {path : FilePath} {n : String}
    (hi : origin? t i = some (.block path n)) :
    ∃ p, t.parent? i = some p ∧ origin? t p = some (.file path) ∧
      t.freshness i = t.freshness p := by
  obtain ⟨p, hp, hfile⟩ := h.owned i path n hi
  have hnone : t.own? i = none := by
    have := h.exact.own?_isSome i _ hi
    exact Option.not_isSome_iff_eq_none.1 (by rw [this]; exact Bool.false_ne_true)
  refine ⟨p, hp, hfile, ?_⟩
  rw [freshness, freshness, List.findSome?_cons, hnone, ancestors_eq hp]

end Built

/-! ## Top theorems -/

end

end TemplateBundler.Source
