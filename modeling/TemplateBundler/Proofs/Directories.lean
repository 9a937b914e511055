import TemplateBundler.Proofs.Walks

/-!
# Making directories

A directory is made with those above it that are missing. Whatever was there stays, what is new is a
directory (`Extends`), and a directory that had to be made is empty:

    d.makeFrom (upwards (n + 1) p) = (.ok (), d') → no name of p is .. →
      (∀ q, ¬ d.Reached p q) → d'.Fresh p                                    (fresh_of_makeFrom)

This holds to whatever end the making comes, also where it stops half way.
-/

namespace TemplateBundler.Disk

/-! ## New directories -/

/-- Whatever is on the first disk is on the second, where directories may be new. -/
structure Extends (d d' : Disk) : Prop where
  kept : ∀ place node, d.find? place = some node → d'.find? place = some node
  new : ∀ place, d.find? place = none → d'.find? place = none ∨ d'.find? place = some .directory
  workingDirectory_eq : d'.workingDirectory = d.workingDirectory

theorem Extends.refl (d : Disk) : Extends d d := ⟨fun _ _ h => h, fun _ h => Or.inl h, rfl⟩

theorem Extends.tick (d : Disk) : Extends d d.tick.2 :=
  ⟨fun _ _ h => h, fun _ h => Or.inl h, rfl⟩

/-- What is new is no link. -/
theorem Extends.link_of {d d' : Disk} (h : Extends d d') {place : Place} {target : String}
    (hlink : d'.find? place = some (.link target)) : d.find? place = some (.link target) := by
  cases hfind : d.find? place with
  | some node => rw [← h.kept place node hfind, hlink]
  | none =>
    rcases h.new place hfind with hnone | hdir
    · rw [hnone] at hlink
      cases hlink
    · rw [hdir] at hlink
      cases hlink

theorem Extends.trans {d d' d'' : Disk} (h : Extends d d') (h' : Extends d' d'') :
    Extends d d'' where
  kept place node hplace := h'.kept place node (h.kept place node hplace)
  new place hplace := by
    rcases h.new place hplace with hnone | hdir
    · exact h'.new place hnone
    · exact Or.inr (h'.kept place _ hdir)
  workingDirectory_eq := h'.workingDirectory_eq.trans h.workingDirectory_eq

theorem Extends.start_eq {d d' : Disk} (h : Extends d d') (text : String) :
    d'.start text = d.start text := by
  rw [start, start, h.workingDirectory_eq]

theorem Extends.goes {d d' : Disk} (h : Extends d d') {here q : Place} {ms : List String} {n : Nat}
    (hgo : d.Goes here ms n q) : d'.Goes here ms n q :=
  hgo.mono ⟨fun place => h.kept place _, fun place _ => h.kept place _⟩

theorem extends_put_directory {d : Disk} {place : Place} (h : d.find? place = none) :
    Extends d (d.put place .directory) where
  kept p node hp := by
    have hne : p ≠ place := fun e => by rw [e, h] at hp; cases hp
    rwa [find?_put_of_ne _ _ _ _ hne]
  new p hp := by
    by_cases hpp : p = place
    · right
      rw [hpp]
      refine find?_put _ _ _ fun hnil => ?_
      rw [hnil] at h
      cases h
    · rw [find?_put_of_ne _ _ _ _ hpp]
      exact Or.inl hp
  workingDirectory_eq := rfl

/-! ## Slots -/

/-- The names of a path lead to a directory, with no more links than are followed. -/
def Reached (d : Disk) (p : FilePath) (q : Place) : Prop :=
  ∃ n, n ≤ linkLimit ∧ d.Goes (d.start p.text) p.names n q

theorem find?_start {d : Disk} (hd : d.Sound) (text : String) :
    d.find? (d.start text) = some .directory := by
  unfold start
  split
  · rfl
  · exact hd.workingDirectory

theorem slot_some {d : Disk} {p : FilePath} {q : Place} {name : String} {isOpen : Bool}
    (h : d.slot p = .ok ⟨q, some name, isOpen⟩) :
    checkPath p.text = .ok () ∧ isOpen = endsInSeparator p.text ∧ name ≠ "." ∧ name ≠ ".." ∧
    ∃ front n, p.names = front ++ [name] ∧ n ≤ linkLimit ∧ d.Goes (d.start p.text) front n q := by
  simp only [slot, bind, Except.bind] at h
  cases hcheck : checkPath p.text with
  | error e => rw [hcheck] at h; cases h
  | ok u =>
    rw [hcheck] at h
    simp only at h
    cases hwalk : d.walk true linkLimit (d.start p.text) (Text.cutNonempty '/' p.text).dropLast with
    | error e => rw [hwalk] at h; cases h
    | ok spot =>
      rw [hwalk] at h
      cases spot with
      | absent place name => cases h
      | there place node =>
        cases node with
        | file content time => cases h
        | link target => cases h
        | directory =>
          simp only [Except.ok.injEq, Slot.mk.injEq] at h
          obtain ⟨rfl, hname, hopen⟩ := h
          obtain ⟨n, hn, hgo⟩ := goes_of_walk hwalk
          rw [Option.filter_eq_some_iff] at hname
          obtain ⟨hlast, hplain⟩ := hname
          simp only [Bool.and_eq_true, decide_eq_true_eq] at hplain
          refine ⟨rfl, hopen.symm, hplain.1, hplain.2, _, n, ?_, hn, hgo⟩
          exact (List.dropLast_append_getLast? name hlast).symm

/-- A way up to the last name of a path gives its slot. -/
theorem slot_of_goes {d : Disk} {p : FilePath} {front : List String} {n : Nat} {q : Place}
    (hcheck : checkPath p.text = .ok ()) (hn : n ≤ linkLimit)
    (hgo : d.Goes (d.start p.text) front n q) {name : String} (hnames : p.names = front ++ [name])
    (hname : IsEntry name) : d.slot p = .ok ⟨q, some name, endsInSeparator p.text⟩ := by
  have hwalk := hgo.walk linkLimit
  have hplain :
      (some name).filter (fun n => decide (n ≠ ".") && decide (n ≠ "..")) = some name := by
    simp [hname.ne_dot, hname.ne_dotdot]
  rw [if_pos hn] at hwalk
  rw [FilePath.names] at hnames
  simp only [slot, hcheck, hnames, List.dropLast_concat, hwalk, List.getLast?_concat, hplain, bind,
    Except.bind]

theorem checkPath_ne_missing {text : String} (h : text ≠ "") :
    checkPath text ≠ .error .missing := by
  unfold checkPath
  split
  · simp [Fault.missing]
  · rw [if_neg (by simpa using h)]
    split <;> simp [Fault.missing, Fault.nameTooLong]

/-- A slot is missing where the names before the last lead nowhere. -/
theorem not_goes_of_slot {d : Disk} {p : FilePath} (h : d.slot p = .error .missing)
    (htext : p.text ≠ "") {n : Nat} {q : Place} (hn : n ≤ linkLimit) :
    ¬ d.Goes (d.start p.text) p.names.dropLast n q := by
  intro hgo
  have hwalk := hgo.walk linkLimit
  rw [if_pos hn] at hwalk
  simp only [slot, bind, Except.bind] at h
  cases hcheck : checkPath p.text with
  | error e =>
    rw [hcheck] at h
    obtain rfl := Except.error.inj h
    exact checkPath_ne_missing htext hcheck
  | ok u =>
    rw [hcheck] at h
    simp only [FilePath.names] at hwalk
    simp only [hwalk] at h
    cases h

/-! ## Making directories -/

theorem makeDirectory_ok {d d' : Disk} {p : FilePath} (h : d.makeDirectory p = .ok d') :
    ∃ front name n q, p.names = front ++ [name] ∧ IsEntry name ∧ n ≤ linkLimit ∧
      d.Goes (d.start p.text) front n q ∧ d.find? (q ++ [name]) = none ∧
      d' = d.put (q ++ [name]) .directory := by
  simp only [makeDirectory, bind, Except.bind] at h
  cases hslot : d.slot p with
  | error e => rw [hslot] at h; cases h
  | ok s =>
    obtain ⟨q, name?, isOpen⟩ := s
    rw [hslot] at h
    cases name? with
    | none => cases h
    | some name =>
      simp only at h
      obtain ⟨-, -, hdot, hdotdot, front, n, hnames, hn, hgo⟩ := slot_some hslot
      split at h
      · cases h
      next hlong =>
      split at h
      · cases h
      next hfree =>
      refine ⟨front, name, n, q, hnames, ⟨hdot, hdotdot, by simpa using hlong⟩, hn, hgo, ?_, ?_⟩
      · simpa using hfree
      · exact (Except.ok.inj h).symm

theorem slot_of_makeDirectory {d : Disk} {p : FilePath} (h : d.makeDirectory p = .error .missing) :
    d.slot p = .error .missing := by
  simp only [makeDirectory, bind, Except.bind] at h
  cases hslot : d.slot p with
  | error e => rw [hslot] at h; exact congrArg _ (Except.error.inj h)
  | ok s =>
    obtain ⟨q, name?, isOpen⟩ := s
    rw [hslot] at h
    cases name? with
    | none => cases h
    | some name =>
      simp only at h
      split at h
      · cases h
      · split at h <;> cases h

theorem makeDirectory_extends {d d' : Disk} {p : FilePath} (h : d.makeDirectory p = .ok d') :
    Extends d d' := by
  obtain ⟨front, name, n, q, -, -, -, -, hfree, rfl⟩ := makeDirectory_ok h
  exact extends_put_directory hfree

theorem Sound.makeDirectory {d d' : Disk} (hd : d.Sound) {p : FilePath}
    (h : d.makeDirectory p = .ok d') : d'.Sound := by
  obtain ⟨front, name, n, q, -, -, -, hgo, hfree, rfl⟩ := makeDirectory_ok h
  refine hd.put (hgo.find?_eq hd (find?_start hd _)) ?_
  rw [hfree]
  exact Option.some_ne_none _ |>.symm

/-- What the making of one directory keeps, the making of several keeps, to whatever end. -/
theorem makeFrom_keeps {P : Disk → Prop} {ps : List FilePath}
    (hkeep : ∀ d d' p, p ∈ ps → P d → d.makeDirectory p = .ok d' → P d') {d : Disk} (h : P d) :
    P (d.makeFrom ps).2 := by
  induction ps with
  | nil => exact h
  | cons p ps ih =>
    have hfirst := fun d d' => hkeep d d' p List.mem_cons_self
    have ih := ih fun d d' q hq => hkeep d d' q (List.mem_cons_of_mem _ hq)
    unfold makeFrom
    split
    · exact h
    split
    · next made hmade => exact hfirst d made h hmade
    split
    · split
      · next e after hafter =>
        rw [hafter] at ih
        exact ih
      · next after hafter =>
        rw [hafter] at ih
        split
        · next made hmade => exact hfirst after made ih hmade
        · split <;> exact ih
    · split <;> exact h

theorem ensureDirectory_keeps {P : Disk → Prop} {p : FilePath}
    (hkeep : ∀ d d' a, a ∈ p.ancestors → P d → d.makeDirectory a = .ok d' → P d') {d : Disk}
    (h : P d) : P (d.ensureDirectory p).2 := by
  have hfrom := makeFrom_keeps hkeep h
  unfold ensureDirectory
  split
  · split
    · next after hafter =>
      rw [makeDirectories] at hafter
      rwa [hafter] at hfrom
    · next e after hafter =>
      rw [makeDirectories] at hafter
      rwa [hafter] at hfrom
  · split <;> exact h

theorem Sound.makeFrom {d : Disk} (hd : d.Sound) (ps : List FilePath) : (d.makeFrom ps).2.Sound :=
  makeFrom_keeps (fun _ _ _ _ hd hmade => hd.makeDirectory hmade) hd

theorem Sound.ensureDirectory {d : Disk} (hd : d.Sound) (p : FilePath) :
    (d.ensureDirectory p).2.Sound :=
  ensureDirectory_keeps (fun _ _ _ _ hd hmade => hd.makeDirectory hmade) hd

theorem extends_ensureDirectory (d : Disk) (p : FilePath) : Extends d (d.ensureDirectory p).2 :=
  ensureDirectory_keeps (fun _ _ _ _ h hmade => h.trans (makeDirectory_extends hmade)) (.refl d)

/-- Directories take no time. -/
theorem stamp_ensureDirectory (d : Disk) (p : FilePath) : (d.ensureDirectory p).2.stamp = d.stamp :=
  ensureDirectory_keeps (P := fun d' => d'.stamp = d.stamp)
    (fun _ _ _ _ h hmade => by
      obtain ⟨front, name, n, q, -, -, -, -, -, rfl⟩ := makeDirectory_ok hmade
      exact h) rfl

theorem Reliable.ensureDirectory {d : Disk} (hd : d.Reliable) (p : FilePath) :
    (d.ensureDirectory p).2.Reliable :=
  ensureDirectory_keeps (fun _ _ _ _ h hmade => by
    obtain ⟨front, name, n, q, -, -, -, -, -, rfl⟩ := makeDirectory_ok hmade
    exact h) hd

/-! ## A directory that had to be made -/

/-- Nothing stands below the directory that a path leads to. -/
def Fresh (d : Disk) (p : FilePath) : Prop :=
  ∃ q, d.Reached p q ∧ ∀ name, d.find? (q ++ [name]) = none

/-- What one directory was made for is reached, and empty. -/
theorem fresh_of_makeDirectory {d d' : Disk} (hd : d.Sound) {p : FilePath}
    (h : d.makeDirectory p = .ok d') : d'.Fresh p := by
  have hext := makeDirectory_extends h
  obtain ⟨front, name, n, q, hnames, hname, hn, hgo, hfree, rfl⟩ := makeDirectory_ok h
  refine ⟨q ++ [name], ⟨n, hn, ?_⟩, fun x => ?_⟩
  · rw [hnames, hext.start_eq, ← Nat.add_zero n]
    refine (hext.goes hgo).append (.enter hname ?_ (.nil _))
    exact find?_put _ _ _ (by simp)
  · rw [find?_put_of_ne _ _ _ _ (by simp)]
    refine hd.find?_eq_none ?_ x
    rw [hfree]
    exact Option.some_ne_none _ |>.symm

theorem status_ok {d : Disk} {p : FilePath} {place : Place} {node : DiskNode}
    (h : d.status p = .ok (place, node)) : checkPath p.text = .ok () ∧
      d.walk true linkLimit (d.start p.text) (steps p.text) = .ok (.there place node) := by
  simp only [status, locate, bind, Except.bind] at h
  cases hcheck : checkPath p.text with
  | error e => rw [hcheck] at h; cases h
  | ok u =>
    rw [hcheck] at h
    simp only at h
    cases hwalk : d.walk true linkLimit (d.start p.text) (steps p.text) with
    | error e => rw [hwalk] at h; cases h
    | ok spot =>
      rw [hwalk] at h
      cases spot with
      | absent place name => cases h
      | there place node =>
        simp only [Except.ok.injEq, Prod.mk.injEq] at h
        obtain ⟨rfl, rfl⟩ := h
        exact ⟨rfl, rfl⟩

theorem reached_of_isDirectory {d : Disk} {p : FilePath} (h : d.isDirectory p = true) :
    ∃ q, d.Reached p q := by
  unfold isDirectory at h
  split at h
  · next q hstatus =>
    obtain ⟨n, hn, hgo⟩ := goes_of_walk (status_ok hstatus).2
    obtain ⟨m, k, mid, hmk, hnames, -⟩ := Goes.split hgo
    exact ⟨mid, m, by omega, hnames⟩
  · cases h

theorem status_of_reached {d : Disk} {p : FilePath} {q : Place} (hcheck : checkPath p.text = .ok ())
    (h : d.Reached p q) : d.status p = .ok (q, .directory) := by
  obtain ⟨n, hn, hgo⟩ := h
  have hdots : d.Goes q (if endsInSeparator p.text then ["."] else []) 0 q := by
    refine goes_dots d q fun x hx => ?_
    split at hx
    · exact List.mem_singleton.1 hx
    · cases hx
  have hwalk := (hgo.append hdots).walk linkLimit
  rw [Nat.add_zero, if_pos hn] at hwalk
  simp only [status, locate, hcheck, steps, bind, Except.bind]
  rw [FilePath.names] at hwalk
  rw [hwalk]

/-- No way leads on from an empty directory. -/
theorem not_reached_of_fresh {d : Disk} {p parent : FilePath} (h : d.Fresh parent)
    (hstart : d.start p.text = d.start parent.text) {dots : List String} {last : String}
    (hdots : ∀ x ∈ dots, x = ".") (hnames : p.names = parent.names ++ dots ++ [last])
    (hdot : last ≠ ".") (hdotdot : last ≠ "..") (q : Place) : ¬ d.Reached p q := by
  obtain ⟨here, ⟨n, -, hparent⟩, hempty⟩ := h
  rintro ⟨m, -, hgo⟩
  rw [hnames, hstart] at hgo
  obtain ⟨_, _, mid, -, hfront, hlast⟩ := hgo.split
  obtain rfl := ((hparent.append (goes_dots d here hdots)).unique hfront)
  cases hlast with
  | dot _ => exact hdot rfl
  | dotdot _ => exact hdotdot rfl
  | enter _ hfind _ => rw [hempty] at hfind; cases hfind
  | jump _ hfind _ _ => rw [hempty] at hfind; cases hfind

theorem start_eq_of_isAbsolute (d : Disk) {p q : FilePath} (h : q.isAbsolute = p.isAbsolute) :
    d.start p.text = d.start q.text := by
  unfold FilePath.isAbsolute at h
  rw [start, start, isAbsolute, isAbsolute, h]

/-- How the directory of a path comes to be there: it is made, at once or after those above it, or
it was there. -/
theorem makeFrom_cons_ok {d d' : Disk} {p : FilePath} {ps : List FilePath} (htext : p.text ≠ "")
    (hparent : p.parent? ≠ none) (h : d.makeFrom (p :: ps) = (.ok (), d')) :
    d.makeDirectory p = .ok d' ∨ d.isDirectory p = true ∨
    d.makeDirectory p = .error .missing ∧ ∃ after, d.makeFrom ps = (.ok (), after) ∧
      (after.makeDirectory p = .ok d' ∨ after.isDirectory p = true ∧ d' = after) := by
  rw [makeFrom, if_neg (by simp [htext, hparent])] at h
  split at h
  · next made hmake =>
    cases h
    exact Or.inl hmake
  next e hmake =>
  split at h
  · next he =>
    refine Or.inr (Or.inr ⟨he ▸ hmake, ?_⟩)
    split at h
    · cases h
    next after hafter =>
    refine ⟨after, hafter, ?_⟩
    split at h
    · next made hagain =>
      cases h
      exact Or.inl hagain
    · split at h
      · next hthere =>
        cases h
        exact Or.inr ⟨hthere, rfl⟩
      · cases h
  · split at h
    · next hthere => exact Or.inr (Or.inl hthere)
    · cases h

section Making
variable {d d' : Disk} {p : FilePath} (hd : d.Sound) (ht : p.Trimmed) (hup : ".." ∉ p.names)
  (hnot : ∀ q, ¬ d.Reached p q)

include hd ht hup hnot

/-- One directory, where the one above was there or is empty now. -/
theorem fresh_of_makeFrom_cons {ps : List FilePath}
    (hparent : ∀ parent after, p.parent? = some parent → (∀ q, ¬ d.Reached parent q) →
      d.makeFrom ps = (.ok (), after) → after = d ∨ after.Fresh parent)
    (h : d.makeFrom (p :: ps) = (.ok (), d')) : d'.Fresh p := by
  have hnil : p.names ≠ [] := fun hnil =>
    hnot (d.start p.text) ⟨0, Nat.zero_le _, by rw [hnil]; exact .nil _⟩
  have htext : p.text ≠ "" := fun htext => hnil (by rw [FilePath.names, htext]; decide)
  obtain ⟨parent, hp⟩ : ∃ parent, p.parent? = some parent := by
    cases hp : p.parent? with
    | some parent => exact ⟨parent, rfl⟩
    | none =>
      have htop := (FilePath.text_of_parent?_eq_none ht hp).resolve_left htext
      exact absurd (by rw [FilePath.names, htop]; decide) hnil
  obtain ⟨-, habs, dots, last, hdots, hnames, hlast, -⟩ := FilePath.parent?_spec ht hp
  have hdot : last ≠ "." := fun e =>
    hnot (d.start p.text) ⟨0, Nat.zero_le _, by
      rw [hlast e]
      exact goes_dots d _ (by simp)⟩
  have hdotdot : last ≠ ".." := fun e => hup (by rw [hnames, e]; simp)
  rcases makeFrom_cons_ok htext (by rw [hp]; exact Option.some_ne_none _) h with
    hmade | hthere | ⟨hmissing, after, hafter, hmade⟩
  · exact fresh_of_makeDirectory hd hmade
  · obtain ⟨q, hq⟩ := reached_of_isDirectory hthere
    exact absurd hq (hnot q)
  -- the one above is missing
  have hparent' : ∀ q, ¬ d.Reached parent q := by
    rintro q ⟨n, hn, hgo⟩
    refine not_goes_of_slot (slot_of_makeDirectory hmissing) htext hn (q := q) ?_
    rw [hnames, List.dropLast_concat, start_eq_of_isAbsolute d habs, ← Nat.add_zero n]
    exact hgo.append (goes_dots d q hdots)
  rcases hmade with hmade | ⟨hthere, rfl⟩
  · have hsound := hd.makeFrom ps
    rw [hafter] at hsound
    exact fresh_of_makeDirectory hsound hmade
  · obtain ⟨q, hq⟩ := reached_of_isDirectory hthere
    rcases hparent parent _ hp hparent' hafter with rfl | hfresh
    · exact absurd hq (hnot q)
    · exact absurd hq (not_reached_of_fresh hfresh
        (start_eq_of_isAbsolute _ habs) hdots hnames hdot hdotdot q)

end Making

/-- **Directories that had to be made are empty.** The induction is on the directories above: one
that had to be made as well is empty, so this one is not there either. -/
theorem fresh_of_makeFrom {d : Disk} (hd : d.Sound) (n : Nat) {p : FilePath} {d' : Disk}
    (ht : p.Trimmed) (hup : ".." ∉ p.names) (hnot : ∀ q, ¬ d.Reached p q)
    (h : d.makeFrom (FilePath.upwards (n + 1) p) = (.ok (), d')) : d'.Fresh p := by
  induction n generalizing p d' with
  | zero =>
    have hps : ∃ ps, FilePath.upwards 1 p = p :: ps ∧ d.makeFrom ps = (.ok (), d) := by
      unfold FilePath.upwards
      split <;> exact ⟨[], rfl, rfl⟩
    obtain ⟨ps, hps, hmake⟩ := hps
    rw [hps] at h
    refine fresh_of_makeFrom_cons hd ht hup hnot (fun parent after _ _ hafter => ?_) h
    rw [hmake] at hafter
    exact Or.inl (congrArg Prod.snd hafter).symm
  | succ n ih =>
    unfold FilePath.upwards at h
    cases hp : p.parent? with
    | none =>
      rw [hp] at h
      refine fresh_of_makeFrom_cons hd ht hup hnot (fun parent after hparent _ _ => ?_) h
      rw [hp] at hparent
      cases hparent
    | some parent =>
      rw [hp] at h
      refine fresh_of_makeFrom_cons hd ht hup hnot (fun parent' after hparent hnone hafter => ?_) h
      rw [hp] at hparent
      cases hparent
      obtain ⟨ht', -, dots, last, -, hnames, -⟩ := FilePath.parent?_spec ht hp
      exact Or.inr (ih ht' (fun hmem => hup (by rw [hnames]; simp [hmem])) hnone hafter)

end TemplateBundler.Disk
