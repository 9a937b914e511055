import Mathlib.Data.List.Nodup
import Mathlib.Data.List.Pairwise
import TemplateBundler.Source.Build

/-!
# What a source directory holds

`Holds` says what an entry of a directory is once links are followed, without regard to how a
directory is read. On a disk as a file system keeps it (`WellFormed`), reading a directory gives its
template files and its directories, each once and in the order of their names:

    name ∈ namesOf Entry.isTemplate listed ↔ d.HasTemplate extension path name (mem_templateNames)
    name ∈ namesOf Entry.isFolder listed ↔ d.Holds path name .directory          (mem_folderNames)
    (namesOf kind listed).Pairwise (· < ·)                                      (namesOf_pairwise)
-/

namespace TemplateBundler

namespace Disk

/-- The name of an entry, as a directory can hold it. -/
def IsEntryName (name : String) : Prop := name ≠ "" ∧ '/' ∉ name.toList

/-- Each place is there once, and its names are names of entries. -/
structure WellFormed (d : Disk) : Prop where
  places_nodup : (d.nodes.map Prod.fst).Nodup
  isEntryName : ∀ place ∈ d.nodes.map Prod.fst, ∀ name ∈ place, IsEntryName name

/-- `path` leads to a directory with an entry `name`, which is `node` once links are followed. -/
inductive Holds (d : Disk) (path : FilePath) (name : String) : DiskNode → Prop where
  | plain {here : Place} {node : DiskNode} : d.status path = .ok (here, .directory) →
      d.find? (here ++ [name]) = some node → (∀ target, node ≠ .link target) →
        Holds d path name node
  | linked {here place : Place} {target : String} {node : DiskNode} :
      d.status path = .ok (here, .directory) → d.find? (here ++ [name]) = some (.link target) →
      d.status (path.join ⟨name⟩) = .ok (place, node) → Holds d path name node

/-- The directory at `path` holds a file, or a link to one, with the template extension. -/
def HasTemplate (d : Disk) (extension : String) (path : FilePath) (name : String) : Prop :=
  FilePath.extension? name = some extension ∧
    ∃ content modified, d.Holds path name (.file content modified)

/-- The directory at `path` can be listed: links in it lead somewhere, and none to itself. -/
def Lists (d : Disk) (path : FilePath) : Prop :=
  ∃ here, d.status path = .ok (here, .directory) ∧
    ∀ name target, d.find? (here ++ [name]) = some (.link target) →
      ∃ place node, d.status (path.join ⟨name⟩) = .ok (place, node) ∧
        (node = .directory → place ≠ here)

/-! ## Listings -/

theorem mem_nodes_iff {d : Disk} (hd : d.WellFormed) {place : Place} (hp : place ≠ [])
    (node : DiskNode) : (place, node) ∈ d.nodes ↔ d.find? place = some node := by
  rw [find?, if_neg hp, List.lookup_eq_some_iff]
  constructor
  · intro h
    obtain ⟨before, after, hsplit⟩ := List.append_of_mem h
    refine ⟨before, after, hsplit, fun pair hpair => ?_⟩
    have hnd := hd.places_nodup
    rw [hsplit, List.map_append, List.map_cons, List.nodup_append] at hnd
    have hne := hnd.2.2 pair.1 (List.mem_map_of_mem hpair) place List.mem_cons_self
    rw [bne_iff_ne]
    exact fun e => hne e.symm
  · rintro ⟨before, after, hsplit, -⟩
    rw [hsplit]
    exact List.mem_append_right _ List.mem_cons_self

theorem mem_listing {d : Disk} (hd : d.WellFormed) (here : Place) (name : String)
    (node : DiskNode) : (name, node) ∈ d.listing here ↔ d.find? (here ++ [name]) = some node := by
  rw [← mem_nodes_iff hd (by simp), listing, List.mem_mergeSort, List.mem_filterMap]
  constructor
  · rintro ⟨⟨place, node'⟩, hmem, h⟩
    cases hlast : place.getLast? with
    | none => simp only [hlast, reduceCtorEq] at h
    | some last =>
      simp only [hlast] at h
      split at h
      · next hinit =>
        simp only [Option.some.injEq, Prod.mk.injEq] at h
        obtain ⟨rfl, rfl⟩ := h
        obtain ⟨init, rfl⟩ := List.getLast?_eq_some_iff.1 hlast
        rw [List.dropLast_concat] at hinit
        subst hinit
        exact hmem
      · cases h
  · intro hmem
    refine ⟨(here ++ [name], node), hmem, ?_⟩
    simp only [List.getLast?_concat, List.dropLast_concat, if_pos]

theorem names_listing_pairwise {d : Disk} (hd : d.WellFormed) (here : Place) :
    ((d.listing here).map Prod.fst).Pairwise (· < ·) := by
  have hle : (d.listing here).Pairwise fun a b => a.1 ≤ b.1 := by
    have h : ∀ l : List (String × DiskNode), (l.mergeSort fun a b => decide (a.1 ≤ b.1)).Pairwise
        fun a b => decide (a.1 ≤ b.1) = true := by
      apply List.pairwise_mergeSort
      · intro a b c hab hbc
        simp only [decide_eq_true_eq] at hab hbc ⊢
        exact String.le_trans hab hbc
      · intro a b
        simp only [Bool.or_eq_true, decide_eq_true_eq]
        exact String.le_total a.1 b.1
    exact (h _).imp fun hab => of_decide_eq_true hab
  have hne : (d.listing here).Pairwise fun a b => a.1 ≠ b.1 := by
    unfold listing
    refine (List.mergeSort_perm _ _).symm.pairwise ?_ fun hab => Ne.symm hab
    refine List.pairwise_filterMap.2 ?_
    have hnd := List.pairwise_map.1 hd.places_nodup
    refine hnd.imp fun {p q} hpq a ha b hb hab => hpq ?_
    cases hp : p.1.getLast? with
    | none => simp only [hp, reduceCtorEq] at ha
    | some x =>
      cases hq : q.1.getLast? with
      | none => simp only [hq, reduceCtorEq] at hb
      | some y =>
        simp only [hp, hq, Option.ite_none_right_eq_some, Option.some.injEq] at ha hb
        obtain ⟨init, hinit⟩ := List.getLast?_eq_some_iff.1 hp
        obtain ⟨init', hinit'⟩ := List.getLast?_eq_some_iff.1 hq
        obtain ⟨ha1, rfl⟩ := ha
        obtain ⟨hb1, rfl⟩ := hb
        rw [hinit, List.dropLast_concat] at ha1
        rw [hinit', List.dropLast_concat] at hb1
        rw [hinit, hinit', ha1, hb1, show x = y from hab]
  rw [List.pairwise_map]
  refine (hle.and hne).imp fun ⟨h1, h2⟩ => ?_
  apply Classical.byContradiction
  intro h
  exact h2 (String.le_antisymm h1 h)

/-! ## Links are followed to their ends -/

/-- A path leads to a directory or to a file of the disk. -/
theorem found_of_walk {d : Disk} {links : Nat} {here place : Place} {names : List String}
    {node : DiskNode} (h : d.walk true links here names = .ok (.there place node)) :
    node = .directory ∨
      ∃ content modified, node = .file content modified ∧ d.find? place = some node := by
  fun_induction walk d true links here names with
  | case1 =>
    simp only [Except.ok.injEq, Spot.there.injEq] at h
    exact Or.inl h.2.symm
  | case8 links here name rest _ _ _ content modified hfind _ =>
    simp only [Except.ok.injEq, Spot.there.injEq] at h
    obtain ⟨rfl, rfl⟩ := h
    exact Or.inr ⟨content, modified, rfl, hfind⟩
  | _ => simp_all

theorem found_of_status {d : Disk} {path : FilePath} {place : Place} {node : DiskNode}
    (h : d.status path = .ok (place, node)) :
    node = .directory ∨
      ∃ content modified, node = .file content modified ∧ d.find? place = some node := by
  unfold status locate at h
  cases hc : checkPath path.text with
  | error e => simp [hc, bind, Except.bind] at h
  | ok u =>
    cases hw : d.walk true linkLimit (d.start path.text) (steps path.text) with
    | error e => simp [hc, hw, bind, Except.bind] at h
    | ok spot =>
      cases spot with
      | absent here name => simp [hc, hw, bind, Except.bind] at h
      | there place' node' =>
        simp only [hc, hw, bind, Except.bind, Except.ok.injEq, Prod.mk.injEq] at h
        obtain ⟨rfl, rfl⟩ := h
        exact found_of_walk hw

theorem status_ne_link {d : Disk} {path : FilePath} {place : Place} {node : DiskNode}
    (h : d.status path = .ok (place, node)) (target : String) : node ≠ .link target := by
  rcases found_of_status h with rfl | ⟨content, modified, rfl, -⟩
  · exact DiskNode.noConfusion
  · exact DiskNode.noConfusion

/-- An entry is one thing only. -/
theorem Holds.unique {d : Disk} {path : FilePath} {name : String} {node node' : DiskNode}
    (h : d.Holds path name node) (h' : d.Holds path name node') : node = node' := by
  cases h with
  | plain hs hf hne =>
    cases h' with
    | plain hs' hf' _ =>
      obtain ⟨rfl, -⟩ := Prod.mk.inj (Except.ok.inj (hs.symm.trans hs'))
      exact Option.some.inj (hf.symm.trans hf')
    | linked hs' hf' _ =>
      obtain ⟨rfl, -⟩ := Prod.mk.inj (Except.ok.inj (hs.symm.trans hs'))
      exact absurd (Option.some.inj (hf.symm.trans hf')) (hne _)
  | linked hs hf ht =>
    cases h' with
    | plain hs' hf' hne' =>
      obtain ⟨rfl, -⟩ := Prod.mk.inj (Except.ok.inj (hs.symm.trans hs'))
      exact absurd (Option.some.inj (hf'.symm.trans hf)) (hne' _)
    | linked hs' hf' ht' => exact (Prod.mk.inj (Except.ok.inj (ht.symm.trans ht'))).2

end Disk

namespace Source

/-! ## The entries of a directory -/

theorem mapM_eq_ok_iff {α β ε : Type} (f : α → Except ε β) (as : List α) (bs : List β) :
    as.mapM f = .ok bs ↔ List.Forall₂ (fun a b => f a = .ok b) as bs := by
  induction as generalizing bs with
  | nil =>
    rw [List.mapM_nil, List.forall₂_nil_left_iff]
    exact ⟨fun h => (Except.ok.inj h).symm, fun h => by rw [h]; rfl⟩
  | cons a as ih =>
    rw [List.mapM_cons, List.forall₂_cons_left_iff]
    cases ha : f a with
    | error e => simp [bind, Except.bind]
    | ok b =>
      cases hm : as.mapM f with
      | error e =>
        have hno : ∀ bs, ¬ List.Forall₂ (fun a b => f a = .ok b) as bs := by
          intro bs h
          rw [← ih, hm] at h
          cases h
        simp [bind, Except.bind, hno]
      | ok cs =>
        have hcs := (ih cs).1 hm
        simp only [bind, Except.bind, pure, Except.pure, Except.ok.injEq]
        constructor
        · rintro rfl
          exact ⟨b, cs, rfl, hcs, rfl⟩
        · rintro ⟨b', cs', rfl, hcs', rfl⟩
          rw [← ih, hm] at hcs'
          rw [Except.ok.inj hcs']

/-- An entry of a listing is read as `e`. -/
def ReadAs (d : Disk) (extension : String) (here : Place) (path : FilePath)
    (a : String × DiskNode) (e : String × FilePath × Entry) : Prop :=
  e.1 = a.1 ∧ e.2.1 = path.join ⟨a.1⟩ ∧
    entryOf d extension here (path.join ⟨a.1⟩) a.1 a.2 = .ok e.2.2

theorem entries_eq_ok_iff (d : Disk) (extension : String) (path : FilePath)
    (listed : List (String × FilePath × Entry)) :
    entries d extension path = .ok listed ↔
      ∃ here, d.status path = .ok (here, .directory) ∧
        List.Forall₂ (ReadAs d extension here path) (d.listing here) listed := by
  unfold entries
  cases hs : d.status path with
  | error e => simp
  | ok spot =>
    obtain ⟨here, node⟩ := spot
    cases node with
    | directory =>
      simp only [Except.ok.injEq, Prod.mk.injEq, and_true, exists_eq_left', mapM_eq_ok_iff]
      refine iff_of_eq (congrArg (fun R => List.Forall₂ R (d.listing here) listed) ?_)
      -- one entry
      funext a b
      obtain ⟨name, inner, entry⟩ := b
      apply propext
      unfold ReadAs
      cases entryOf d extension here (path.join ⟨a.1⟩) a.1 a.2 with
      | error e => simp
      | ok entry' => simp [eq_comm]
    | file content modified => simp
    | link target => simp

/-- An entry that can be looked at is what the directory holds under its name. -/
theorem holds_of_entryOf {d : Disk} {extension : String} {path : FilePath} {here : Place}
    {name : String} {node : DiskNode} {entry : Entry} (hs : d.status path = .ok (here, .directory))
    (hf : d.find? (here ++ [name]) = some node)
    (h : entryOf d extension here (path.join ⟨name⟩) name node = .ok entry) :
    (d.Holds path name .directory ∧ entry = .folder) ∨
      ∃ content modified, d.Holds path name (.file content modified) ∧
        entry = fileEntry extension name := by
  cases node with
  | directory =>
    exact Or.inl ⟨.plain hs hf fun _ => DiskNode.noConfusion, (Except.ok.inj h).symm⟩
  | file content modified =>
    exact Or.inr ⟨content, modified, .plain hs hf fun _ => DiskNode.noConfusion,
      (Except.ok.inj h).symm⟩
  | link target =>
    cases ht : d.status (path.join ⟨name⟩) with
    | error e => simp [entryOf, ht, bind, Except.bind] at h
    | ok spot =>
      obtain ⟨place, node'⟩ := spot
      have hold : d.Holds path name node' := .linked hs hf ht
      simp only [entryOf, ht, bind, Except.bind] at h
      cases node' with
      | directory =>
        simp only at h
        split at h
        · cases h
        · exact Or.inl ⟨hold, (Except.ok.inj h).symm⟩
      | file content modified => exact Or.inr ⟨content, modified, hold, (Except.ok.inj h).symm⟩
      | link target' => exact absurd rfl (Disk.status_ne_link ht target')

theorem entry_eq_folder_iff {d : Disk} {extension : String} {path : FilePath} {here : Place}
    {name : String} {node : DiskNode} {entry : Entry} (hs : d.status path = .ok (here, .directory))
    (hf : d.find? (here ++ [name]) = some node)
    (h : entryOf d extension here (path.join ⟨name⟩) name node = .ok entry) :
    entry = .folder ↔ d.Holds path name .directory := by
  rcases holds_of_entryOf hs hf h with ⟨hold, rfl⟩ | ⟨content, modified, hold, rfl⟩
  · exact iff_of_true rfl hold
  · refine iff_of_false ?_ fun hd => DiskNode.noConfusion (hold.unique hd)
    unfold fileEntry
    split <;> exact Entry.noConfusion

theorem entry_eq_template_iff {d : Disk} {extension : String} {path : FilePath} {here : Place}
    {name : String} {node : DiskNode} {entry : Entry} (hs : d.status path = .ok (here, .directory))
    (hf : d.find? (here ++ [name]) = some node)
    (h : entryOf d extension here (path.join ⟨name⟩) name node = .ok entry) :
    entry = .template ↔ d.HasTemplate extension path name := by
  unfold Disk.HasTemplate
  rcases holds_of_entryOf hs hf h with ⟨hold, rfl⟩ | ⟨content, modified, hold, rfl⟩
  · refine iff_of_false Entry.noConfusion ?_
    rintro ⟨-, content, modified, hfile⟩
    exact DiskNode.noConfusion (hold.unique hfile)
  · unfold fileEntry
    split
    · next he => exact iff_of_true rfl ⟨eq_of_beq he, content, modified, hold⟩
    · next he =>
      refine iff_of_false Entry.noConfusion ?_
      rintro ⟨hext, -⟩
      exact he (beq_iff_eq.2 hext)

/-! ## Template files and directories -/

/-- A template file as a scan finds it. -/
def templateFile (d : Disk) (path : FilePath) (name : String) : SourceFile :=
  ⟨path.join ⟨name⟩, FilePath.stem name, readFile d (path.join ⟨name⟩)⟩

def Entry.isTemplate : Entry → Bool
  | template => true
  | folder | other => false

def Entry.isFolder : Entry → Bool
  | folder => true
  | template | other => false

/-- The names of the entries of one kind. -/
def namesOf (kind : Entry → Bool) (listed : List (String × FilePath × Entry)) : List String :=
  (listed.filter fun e => kind e.2.2).map Prod.fst

theorem exists_of_mem_right {α β : Type} {R : α → β → Prop} {as : List α} {bs : List β}
    (h : List.Forall₂ R as bs) {b : β} (hb : b ∈ bs) : ∃ a ∈ as, R a b := by
  induction h with
  | nil => cases hb
  | cons hab _ ih =>
    rcases List.mem_cons.1 hb with rfl | hb
    · exact ⟨_, List.mem_cons_self, hab⟩
    · obtain ⟨a, ha, hab⟩ := ih hb
      exact ⟨a, List.mem_cons_of_mem _ ha, hab⟩

theorem exists_of_mem_left {α β : Type} {R : α → β → Prop} {as : List α} {bs : List β}
    (h : List.Forall₂ R as bs) {a : α} (ha : a ∈ as) : ∃ b ∈ bs, R a b := by
  obtain ⟨b, hb, hab⟩ := exists_of_mem_right (R := flip R) (List.Forall₂.flip h) ha
  exact ⟨b, hb, hab⟩

theorem map_eq_map_of_forall₂ {α β γ : Type} {R : α → β → Prop} {as : List α} {bs : List β}
    (h : List.Forall₂ R as bs) {f : α → γ} {g : β → γ} (hfg : ∀ a b, R a b → g b = f a) :
    bs.map g = as.map f := by
  induction h with
  | nil => rfl
  | cons hab _ ih => rw [List.map_cons, List.map_cons, hfg _ _ hab, ih]

theorem eq_of_forall₂ {α β : Type} {R S : α → β → Prop} {as : List α} {bs cs : List β}
    (h : List.Forall₂ R as bs) (h' : List.Forall₂ S as cs)
    (heq : ∀ a ∈ as, ∀ b c, R a b → S a c → b = c) : bs = cs := by
  induction h generalizing cs with
  | nil =>
    cases h'
    rfl
  | @cons a b as bs hab _ ih =>
    cases h' with
    | cons hac hrest =>
      rw [heq a List.mem_cons_self b _ hab hac,
        ih hrest fun a' ha' => heq a' (List.mem_cons_of_mem _ ha')]

theorem exists_forall₂ {α β : Type} {R : α → β → Prop} {as : List α} (h : ∀ a ∈ as, ∃ b, R a b) :
    ∃ bs, List.Forall₂ R as bs := by
  induction as with
  | nil => exact ⟨[], .nil⟩
  | cons a as ih =>
    obtain ⟨b, hb⟩ := h a List.mem_cons_self
    obtain ⟨bs, hbs⟩ := ih fun a' ha' => h a' (List.mem_cons_of_mem _ ha')
    exact ⟨b :: bs, .cons hb hbs⟩

section Entries
variable {d : Disk} {extension : String} {path : FilePath}
  {listed : List (String × FilePath × Entry)} (h : entries d extension path = .ok listed)

include h

theorem join_of_mem_entries {e : String × FilePath × Entry} (he : e ∈ listed) :
    e.2.1 = path.join ⟨e.1⟩ := by
  obtain ⟨here, -, hall⟩ := (entries_eq_ok_iff d extension path listed).1 h
  obtain ⟨a, -, hname, hjoin, -⟩ := exists_of_mem_right hall he
  rw [hjoin, hname]

theorem filesOf_eq :
    filesOf d listed = (namesOf Entry.isTemplate listed).map (templateFile d path) := by
  have hjoin : ∀ e ∈ listed, e.2.1 = path.join ⟨e.1⟩ := fun e he => join_of_mem_entries h he
  clear h
  unfold filesOf namesOf
  induction listed with
  | nil => rfl
  | cons e listed ih =>
    obtain ⟨name, inner, entry⟩ := e
    have hinner : inner = path.join ⟨name⟩ := hjoin _ List.mem_cons_self
    have ih := ih fun e he => hjoin e (List.mem_cons_of_mem _ he)
    cases entry with
    | template =>
      rw [List.filterMap_cons, List.filter_cons_of_pos rfl, List.map_cons, List.map_cons, ← ih,
        templateFile, ← hinner]
    | folder => rw [List.filterMap_cons_none rfl, List.filter_cons_of_neg Bool.false_ne_true, ih]
    | other => rw [List.filterMap_cons_none rfl, List.filter_cons_of_neg Bool.false_ne_true, ih]

theorem foldersOf_eq :
    foldersOf listed = (namesOf Entry.isFolder listed).map fun n => (n, path.join ⟨n⟩) := by
  have hjoin : ∀ e ∈ listed, e.2.1 = path.join ⟨e.1⟩ := fun e he => join_of_mem_entries h he
  clear h
  unfold foldersOf namesOf
  induction listed with
  | nil => rfl
  | cons e listed ih =>
    obtain ⟨name, inner, entry⟩ := e
    have hinner : inner = path.join ⟨name⟩ := hjoin _ List.mem_cons_self
    have ih := ih fun e he => hjoin e (List.mem_cons_of_mem _ he)
    cases entry with
    | folder =>
      rw [List.filterMap_cons, List.filter_cons_of_pos rfl, List.map_cons, List.map_cons, ← ih,
        ← hinner]
    | template => rw [List.filterMap_cons_none rfl, List.filter_cons_of_neg Bool.false_ne_true, ih]
    | other => rw [List.filterMap_cons_none rfl, List.filter_cons_of_neg Bool.false_ne_true, ih]

theorem map_fst_foldersOf : (foldersOf listed).map Prod.fst = namesOf Entry.isFolder listed := by
  rw [foldersOf_eq h, List.map_map]
  exact List.map_id _

theorem namesOf_pairwise (hd : d.WellFormed) (kind : Entry → Bool) :
    (namesOf kind listed).Pairwise (· < ·) := by
  obtain ⟨here, -, hall⟩ := (entries_eq_ok_iff d extension path listed).1 h
  have hmap : listed.map Prod.fst = (d.listing here).map Prod.fst :=
    map_eq_map_of_forall₂ hall fun _ _ hab => hab.1
  have hsorted : (listed.map Prod.fst).Pairwise (· < ·) := hmap ▸ d.names_listing_pairwise hd here
  exact hsorted.sublist (List.filter_sublist.map Prod.fst)

theorem mem_namesOf (hd : d.WellFormed) (kind : Entry → Bool) (name : String) :
    name ∈ namesOf kind listed ↔ ∃ here node entry, d.status path = .ok (here, .directory) ∧
      d.find? (here ++ [name]) = some node ∧
      entryOf d extension here (path.join ⟨name⟩) name node = .ok entry ∧ kind entry = true := by
  obtain ⟨here, hs, hall⟩ := (entries_eq_ok_iff d extension path listed).1 h
  unfold namesOf
  rw [List.mem_map]
  constructor
  · rintro ⟨⟨name', inner, entry⟩, hmem, rfl⟩
    obtain ⟨hmem, hkind⟩ := List.mem_filter.1 hmem
    obtain ⟨⟨name, node⟩, hlist, hname, -, hentry⟩ := exists_of_mem_right hall hmem
    simp only at hname hentry
    subst hname
    exact ⟨here, node, entry, hs, (Disk.mem_listing hd here _ node).1 hlist, hentry, hkind⟩
  · rintro ⟨here', node, entry, hs', hfind, hentry, hkind⟩
    obtain ⟨rfl, -⟩ := Prod.mk.inj (Except.ok.inj (hs.symm.trans hs'))
    obtain ⟨⟨name', inner, entry'⟩, hmem, hname, -, hentry'⟩ :=
      exists_of_mem_left hall ((Disk.mem_listing hd here name node).2 hfind)
    simp only at hname hentry'
    subst hname
    obtain rfl := Except.ok.inj (hentry.symm.trans hentry')
    exact ⟨(name', inner, entry), List.mem_filter.2 ⟨hmem, hkind⟩, rfl⟩

theorem exists_entry (hd : d.WellFormed) {name : String} {node : DiskNode}
    (hold : d.Holds path name node) :
    ∃ here found entry, d.status path = .ok (here, .directory) ∧
      d.find? (here ++ [name]) = some found ∧
      entryOf d extension here (path.join ⟨name⟩) name found = .ok entry := by
  obtain ⟨here, hs, hall⟩ := (entries_eq_ok_iff d extension path listed).1 h
  obtain ⟨found, hf⟩ : ∃ found, d.find? (here ++ [name]) = some found := by
    cases hold with
    | plain hs' hf _ =>
      obtain ⟨rfl, -⟩ := Prod.mk.inj (Except.ok.inj (hs.symm.trans hs'))
      exact ⟨_, hf⟩
    | linked hs' hf _ =>
      obtain ⟨rfl, -⟩ := Prod.mk.inj (Except.ok.inj (hs.symm.trans hs'))
      exact ⟨_, hf⟩
  obtain ⟨⟨name', inner, entry⟩, -, hname, -, hentry⟩ :=
    exists_of_mem_left hall ((Disk.mem_listing hd here name found).2 hf)
  exact ⟨here, found, entry, hs, hf, hentry⟩

theorem mem_templateNames (hd : d.WellFormed) (name : String) :
    name ∈ namesOf Entry.isTemplate listed ↔ d.HasTemplate extension path name := by
  rw [mem_namesOf h hd]
  constructor
  · rintro ⟨here, node, entry, hs, hf, he, hkind⟩
    cases entry with
    | template => exact (entry_eq_template_iff hs hf he).1 rfl
    | folder => cases hkind
    | other => cases hkind
  · rintro ⟨hext, content, modified, hold⟩
    obtain ⟨here, node, entry, hs, hf, he⟩ := exists_entry h hd hold
    obtain rfl := (entry_eq_template_iff hs hf he).2 ⟨hext, content, modified, hold⟩
    exact ⟨here, node, .template, hs, hf, he, rfl⟩

theorem mem_folderNames (hd : d.WellFormed) (name : String) :
    name ∈ namesOf Entry.isFolder listed ↔ d.Holds path name .directory := by
  rw [mem_namesOf h hd]
  constructor
  · rintro ⟨here, node, entry, hs, hf, he, hkind⟩
    cases entry with
    | folder => exact (entry_eq_folder_iff hs hf he).1 rfl
    | template => cases hkind
    | other => cases hkind
  · intro hold
    obtain ⟨here, node, entry, hs, hf, he⟩ := exists_entry h hd hold
    obtain rfl := (entry_eq_folder_iff hs hf he).2 hold
    exact ⟨here, node, .folder, hs, hf, he, rfl⟩

end Entries

/-- A directory that can be listed gives its entries. -/
theorem entries_of_lists {d : Disk} (hd : d.WellFormed) {path : FilePath} (h : d.Lists path)
    (extension : String) : ∃ listed, entries d extension path = .ok listed := by
  obtain ⟨here, hs, hlinks⟩ := h
  have hentry : ∀ a ∈ d.listing here, ∃ e, ReadAs d extension here path a e := by
    rintro ⟨name, node⟩ ha
    suffices hread : ∃ entry, entryOf d extension here (path.join ⟨name⟩) name node = .ok entry by
      obtain ⟨entry, he⟩ := hread
      exact ⟨(name, path.join ⟨name⟩, entry), rfl, rfl, he⟩
    have hf := (Disk.mem_listing hd here name node).1 ha
    cases node with
    | directory => exact ⟨_, rfl⟩
    | file content modified => exact ⟨_, rfl⟩
    | link target =>
      obtain ⟨place, node, ht, hne⟩ := hlinks name target hf
      simp only [entryOf, ht, bind, Except.bind]
      cases node with
      | directory => exact ⟨.folder, if_neg (hne rfl)⟩
      | file content modified => exact ⟨_, rfl⟩
      | link target' => exact ⟨_, rfl⟩
  obtain ⟨listed, hall⟩ := exists_forall₂ hentry
  exact ⟨listed, (entries_eq_ok_iff d extension path listed).2 ⟨here, hs, hall⟩⟩

theorem lists_of_entries {d : Disk} (hd : d.WellFormed) {extension : String} {path : FilePath}
    {listed : List (String × FilePath × Entry)} (h : entries d extension path = .ok listed) :
    d.Lists path := by
  obtain ⟨here, hs, hall⟩ := (entries_eq_ok_iff d extension path listed).1 h
  refine ⟨here, hs, fun name target hf => ?_⟩
  obtain ⟨⟨name', inner, entry⟩, -, -, -, hentry⟩ :=
    exists_of_mem_left hall ((Disk.mem_listing hd here name (.link target)).2 hf)
  simp only [entryOf] at hentry
  cases ht : d.status (path.join ⟨name⟩) with
  | error e => simp [ht, bind, Except.bind] at hentry
  | ok spot =>
    obtain ⟨place, node⟩ := spot
    refine ⟨place, node, rfl, fun hnode hplace => ?_⟩
    subst hnode hplace
    simp [ht, bind, Except.bind] at hentry

end Source

namespace FilePath

/-! ## Names and paths -/

/-- A name with an extension is its stem, a dot and the extension. -/
theorem toList_of_extension? {name extension : String} (h : extension? name = some extension) :
    name.toList = (stem name).toList ++ '.' :: extension.toList ∧ stem name ≠ "" := by
  have hcut := List.takeWhile_append_dropWhile (p := (· ≠ '.')) (l := name.toList.reverse)
  have hdot : ∀ c front, name.toList.reverse.dropWhile (· ≠ '.') = c :: front → c = '.' := by
    intro c front hd
    have hne : name.toList.reverse.dropWhile (· ≠ '.') ≠ [] := by
      rw [hd]
      exact List.cons_ne_nil _ _
    have hhead := List.head_dropWhile_not _ hne
    simp only [hd, List.head_cons] at hhead
    simpa using hhead
  unfold stem
  unfold extension? at h
  unfold splitName at h ⊢
  simp only at h ⊢
  generalize name.toList.reverse.takeWhile (· ≠ '.') = tail at h hcut ⊢
  generalize name.toList.reverse.dropWhile (· ≠ '.') = rest at h hcut hdot ⊢
  split at h
  · cases h
  · next hfront =>
    rw [if_neg hfront]
    obtain rfl := Option.some.inj h
    simp only [Bool.or_eq_true, not_or, List.isEmpty_iff] at hfront
    obtain ⟨-, hfront⟩ := hfront
    cases rest with
    | nil => exact absurd rfl hfront
    | cons c front =>
      obtain rfl := hdot c front rfl
      rw [List.drop_one, List.tail_cons] at hfront ⊢
      have hname := congrArg List.reverse hcut
      rw [List.reverse_append, List.reverse_cons, List.reverse_reverse] at hname
      constructor
      · rw [String.toList_ofList, String.toList_ofList, ← hname, List.append_assoc]
        rfl
      · intro h0
        have := congrArg String.toList h0
        rw [String.toList_ofList] at this
        exact hfront (List.reverse_eq_nil_iff.1 this)

theorem stem_inj {extension a b : String} (ha : extension? a = some extension)
    (hb : extension? b = some extension) (h : stem a = stem b) : a = b := by
  rw [← String.toList_inj, (toList_of_extension? ha).1, (toList_of_extension? hb).1, h]

theorem size_join_lt {path : FilePath} {name : String} (hn : Disk.IsEntryName name) :
    path.text.utf8ByteSize < (path.join ⟨name⟩).text.utf8ByteSize := by
  have hpos : 0 < name.utf8ByteSize :=
    Nat.pos_of_ne_zero fun h => hn.1 (String.utf8ByteSize_eq_zero_iff.1 h)
  have hrel : (⟨name⟩ : FilePath).isAbsolute = false := by
    unfold isAbsolute
    cases hl : name.toList with
    | nil => rfl
    | cons c cs =>
      have hc : c ≠ '/' := fun e => hn.2 (by rw [hl, e]; exact List.mem_cons_self)
      simpa using hc
  unfold join
  rw [hrel, if_neg Bool.false_ne_true]
  split
  · show path.text.utf8ByteSize < (path.text ++ name).utf8ByteSize
    rw [String.utf8ByteSize_append]
    omega
  · show path.text.utf8ByteSize < (path.text ++ "/" ++ name).utf8ByteSize
    rw [String.utf8ByteSize_append, String.utf8ByteSize_append]
    omega

end FilePath

end TemplateBundler
