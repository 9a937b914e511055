import Mathlib.Data.List.Basic
import Mathlib.Data.List.Induction
import TemplateBundler.Disk.Store
import TemplateBundler.Proofs.Paths

/-!
# Where names lead on a disk

`Goes` says that names lead from one directory to another and how many links are followed on the
way. It does not depend on how many may be followed, so a way can be cut in two and put together
again, and a walk is told by it:

    d.Goes here ms n q → d.walk true links here (ms ++ rest) =
      if n ≤ links then d.walk true (links - n) q rest else .error .tooManyLinks  (Goes.walk_append)

A way is still there on another disk if the directories and links of the first are (`Keeps`). A file
that takes the place of a link is the one change that can cut a way off (`Goes.put_or_crosses`).
-/

namespace TemplateBundler.Disk

/-- Whatever is on the disk lies in a directory, and the working directory is there. -/
structure Sound (d : Disk) : Prop where
  parent : ∀ place name, (d.find? (place ++ [name])).isSome → d.find? place = some .directory
  workingDirectory : d.find? d.workingDirectory = some .directory

/-- A name that stands for an entry of a directory. -/
structure IsEntry (name : String) : Prop where
  ne_dot : name ≠ "."
  ne_dotdot : name ≠ ".."
  not_long : isLongName name = false

/-- Names lead from a directory to a directory, through so many links. -/
inductive Goes (d : Disk) : Place → List String → Nat → Place → Prop
  | nil (here : Place) : Goes d here [] 0 here
  | dot {here q : Place} {names : List String} {n : Nat} : Goes d here names n q →
      Goes d here ("." :: names) n q
  | dotdot {here q : Place} {names : List String} {n : Nat} : Goes d here.dropLast names n q →
      Goes d here (".." :: names) n q
  | enter {here q : Place} {name : String} {names : List String} {n : Nat} : IsEntry name →
      d.find? (here ++ [name]) = some .directory → Goes d (here ++ [name]) names n q →
      Goes d here (name :: names) n q
  | jump {here q : Place} {name target : String} {names : List String} {n : Nat} : IsEntry name →
      d.find? (here ++ [name]) = some (.link target) → target.isEmpty = false →
      Goes d (if isAbsolute target then [] else here) (steps target ++ names) n q →
      Goes d here (name :: names) (n + 1) q

/-! ## Walks and ways -/

theorem goes_of_walk {d : Disk} {links : Nat} {here place : Place} {names : List String}
    (h : d.walk true links here names = .ok (.there place .directory)) :
    ∃ n, n ≤ links ∧ d.Goes here names n place := by
  fun_induction walk d true links here names with
  | case1 links here =>
    simp only [Except.ok.injEq, Spot.there.injEq, and_true] at h
    exact ⟨0, Nat.zero_le _, h ▸ .nil here⟩
  | case2 links here rest ih =>
    obtain ⟨n, hn, hgo⟩ := ih h
    exact ⟨n, hn, .dot hgo⟩
  | case3 links here rest hdot ih =>
    obtain ⟨n, hn, hgo⟩ := ih h
    exact ⟨n, hn, .dotdot hgo⟩
  | case7 links here name rest hdot hdotdot hlong hfind ih =>
    obtain ⟨n, hn, hgo⟩ := ih h
    exact ⟨n, hn, .enter ⟨hdot, hdotdot, by simpa using hlong⟩ hfind hgo⟩
  | case13 here name rest hdot hdotdot hlong target hfind hopen links htarget ih =>
    obtain ⟨n, hn, hgo⟩ := ih h
    rw [dite_eq_ite] at hgo
    exact ⟨n + 1, Nat.succ_le_succ hn,
      .jump ⟨hdot, hdotdot, by simpa using hlong⟩ hfind (by simpa using htarget) hgo⟩
  | _ => simp_all

/-- What is walked over is told by the nodes alone. -/
theorem walk_congr {d d' : Disk} (h : ∀ place, d'.find? place = d.find? place) (follow : Bool)
    (links : Nat) (here : Place) (names : List String) :
    d'.walk follow links here names = d.walk follow links here names := by
  fun_induction walk d follow links here names <;> rw [walk] <;> simp_all

section Ways
variable {d : Disk} {here q : Place}

/-- **A walk over a way.** It takes the links of the way, or has too few of them. -/
theorem Goes.walk_append {ms : List String} {n : Nat} (h : d.Goes here ms n q) (rest : List String)
    (links : Nat) : d.walk true links here (ms ++ rest) =
      if n ≤ links then d.walk true (links - n) q rest else .error .tooManyLinks := by
  induction h generalizing links with
  | nil here => rw [List.nil_append, if_pos (Nat.zero_le _), Nat.sub_zero]
  | dot _ ih => rw [List.cons_append, walk, if_pos rfl, ih]
  | dotdot _ ih =>
    rw [List.cons_append, walk, if_neg (by decide), if_pos rfl, ih]
  | enter hname hfind _ ih =>
    rw [List.cons_append, walk, if_neg hname.ne_dot, if_neg hname.ne_dotdot,
      if_neg (by rw [hname.not_long]; exact Bool.false_ne_true)]
    simp only [hfind, ih]
  | @jump here q name target names n hname hfind htarget _ ih =>
    rw [List.cons_append, walk, if_neg hname.ne_dot, if_neg hname.ne_dotdot,
      if_neg (by rw [hname.not_long]; exact Bool.false_ne_true)]
    simp only [hfind, Bool.not_true, Bool.and_false, Bool.false_eq_true, if_false]
    cases links with
    | zero => rw [if_neg (Nat.not_succ_le_zero n)]
    | succ links =>
      simp only [htarget, Bool.false_eq_true, if_false, ← List.append_assoc, ih,
        Nat.succ_le_succ_iff, Nat.succ_sub_succ_eq_sub]

theorem Goes.walk {ms : List String} {n : Nat} (h : d.Goes here ms n q) (links : Nat) :
    d.walk true links here ms =
      if n ≤ links then .ok (.there q .directory) else .error .tooManyLinks := by
  have := h.walk_append [] links
  rwa [List.append_nil, Disk.walk] at this

/-- A way cut in two. -/
theorem Goes.split {ms rest : List String} {n : Nat} (h : d.Goes here (ms ++ rest) n q) :
    ∃ m k mid, n = m + k ∧ d.Goes here ms m mid ∧ d.Goes mid rest k q := by
  generalize hnames : ms ++ rest = names at h
  induction h generalizing ms with
  | nil here =>
    obtain ⟨rfl, rfl⟩ := List.append_eq_nil_iff.1 hnames
    exact ⟨0, 0, here, rfl, .nil here, .nil here⟩
  | @dot here q names n hgo ih =>
    cases ms with
    | nil =>
      rw [List.nil_append] at hnames
      exact ⟨0, n, here, (Nat.zero_add _).symm, .nil here, hnames.symm ▸ .dot hgo⟩
    | cons m ms =>
      rw [List.cons_append, List.cons.injEq] at hnames
      obtain ⟨rfl, htail⟩ := hnames
      obtain ⟨j, k, mid, hn, hms, hrest⟩ := ih htail
      exact ⟨j, k, mid, hn, .dot hms, hrest⟩
  | @dotdot here q names n hgo ih =>
    cases ms with
    | nil =>
      rw [List.nil_append] at hnames
      exact ⟨0, n, here, (Nat.zero_add _).symm, .nil here, hnames.symm ▸ .dotdot hgo⟩
    | cons m ms =>
      rw [List.cons_append, List.cons.injEq] at hnames
      obtain ⟨rfl, htail⟩ := hnames
      obtain ⟨j, k, mid, hn, hms, hrest⟩ := ih htail
      exact ⟨j, k, mid, hn, .dotdot hms, hrest⟩
  | @enter here q name names n hname hfind hgo ih =>
    cases ms with
    | nil =>
      rw [List.nil_append] at hnames
      exact ⟨0, n, here, (Nat.zero_add _).symm, .nil here, hnames.symm ▸ .enter hname hfind hgo⟩
    | cons m ms =>
      rw [List.cons_append, List.cons.injEq] at hnames
      obtain ⟨rfl, htail⟩ := hnames
      obtain ⟨j, k, mid, hn, hms, hrest⟩ := ih htail
      exact ⟨j, k, mid, hn, .enter hname hfind hms, hrest⟩
  | @jump here q name target names n hname hfind htarget hgo ih =>
    cases ms with
    | nil =>
      rw [List.nil_append] at hnames
      exact ⟨0, n + 1, here, (Nat.zero_add _).symm, .nil here,
        hnames.symm ▸ .jump hname hfind htarget hgo⟩
    | cons m ms =>
      rw [List.cons_append, List.cons.injEq] at hnames
      obtain ⟨rfl, htail⟩ := hnames
      obtain ⟨j, k, mid, hn, hms, hrest⟩ := @ih (steps target ++ ms) (by
        rw [List.append_assoc, htail])
      exact ⟨j + 1, k, mid, by omega, .jump hname hfind htarget hms, hrest⟩

theorem Goes.append {mid : Place} {ms ns : List String} {m n : Nat} (h : d.Goes here ms m mid)
    (h' : d.Goes mid ns n q) : d.Goes here (ms ++ ns) (m + n) q := by
  induction h with
  | nil here => rwa [Nat.zero_add]
  | dot _ ih => exact .dot (ih h')
  | dotdot _ ih => exact .dotdot (ih h')
  | enter hname hfind _ ih => exact .enter hname hfind (ih h')
  | jump hname hfind htarget _ ih =>
    have hrest := ih h'
    rw [List.append_assoc] at hrest
    rw [Nat.add_right_comm]
    exact .jump hname hfind htarget hrest

theorem Goes.unique {q' : Place} {ms : List String} {m n : Nat} (h : d.Goes here ms m q)
    (h' : d.Goes here ms n q') : q = q' := by
  have hw := h.walk (m + n)
  rw [h'.walk, if_pos (Nat.le_add_left n m), if_pos (Nat.le_add_right m n)] at hw
  injection hw with hw
  injection hw with hw
  exact hw.symm

theorem goes_dots (d : Disk) (here : Place) {dots : List String} (h : ∀ x ∈ dots, x = ".") :
    d.Goes here dots 0 here := by
  induction dots with
  | nil => exact .nil here
  | cons x dots ih =>
    obtain rfl := h x List.mem_cons_self
    exact .dot (ih fun y hy => h y (List.mem_cons_of_mem _ hy))

end Ways

/-! ## Ways on another disk -/

/-- Directories and links of the one disk are there on the other. -/
structure Keeps (d d' : Disk) : Prop where
  directory : ∀ place, d.find? place = some .directory → d'.find? place = some .directory
  link : ∀ place target, d.find? place = some (.link target) →
    d'.find? place = some (.link target)

theorem Goes.mono {d d' : Disk} (hkeeps : Keeps d d') {here q : Place} {ms : List String} {n : Nat}
    (h : d.Goes here ms n q) : d'.Goes here ms n q := by
  induction h with
  | nil here => exact .nil here
  | dot _ ih => exact .dot ih
  | dotdot _ ih => exact .dotdot ih
  | enter hname hfind _ ih => exact .enter hname (hkeeps.directory _ hfind) ih
  | jump hname hfind htarget _ ih => exact .jump hname (hkeeps.link _ _ hfind) htarget ih

theorem keeps_put {d : Disk} {p : Place} {node : DiskNode}
    (h : d.find? p ≠ some .directory) (h' : ∀ target, d.find? p ≠ some (.link target)) :
    Keeps d (d.put p node) where
  directory place hplace := by
    have hne : place ≠ p := fun e => h (e ▸ hplace)
    rw [find?_put_of_ne _ _ _ _ hne, hplace]
  link place target hplace := by
    have hne : place ≠ p := fun e => h' target (e ▸ hplace)
    rw [find?_put_of_ne _ _ _ _ hne, hplace]

/-- A way outlives the replacement of a link, unless it followed that link itself. -/
theorem Goes.put_or_crosses {d : Disk} {p : Place} {node : DiskNode}
    (hdir : d.find? p ≠ some .directory) {here q : Place} {ms : List String} {n : Nat}
    (h : d.Goes here ms n q) : (d.put p node).Goes here ms n q ∨
      ∃ before name target rest k, p = before ++ [name] ∧ IsEntry name ∧
        d.find? p = some (.link target) ∧ target.isEmpty = false ∧
        d.Goes (if isAbsolute target then [] else before) (steps target ++ rest) k q := by
  induction h with
  | nil here => exact Or.inl (.nil here)
  | dot _ ih => exact ih.imp_left .dot
  | dotdot _ ih => exact ih.imp_left .dotdot
  | @enter here q name names n hname hfind _ ih =>
    have hne : here ++ [name] ≠ p := fun e => hdir (e ▸ hfind)
    refine ih.imp_left (.enter hname ?_)
    rw [find?_put_of_ne _ _ _ _ hne, hfind]
  | @jump here q name target names n hname hfind htarget hgo ih =>
    by_cases hp : here ++ [name] = p
    · exact Or.inr ⟨here, name, target, names, n, hp.symm, hname, hp ▸ hfind, htarget, hgo⟩
    · refine ih.imp_left (.jump hname ?_ htarget)
      rw [find?_put_of_ne _ _ _ _ hp, hfind]

/-- No way leads through a file, so that one with a file in its way is one without it too. -/
theorem Goes.of_put {d : Disk} {p : Place} {content : Content} {time : Time} (hp : p ≠ [])
    {here q : Place} {ms : List String} {n : Nat}
    (h : (d.put p (.file content time)).Goes here ms n q) : d.Goes here ms n q := by
  have hback : ∀ place node, (∀ c t, node ≠ .file c t) →
      (d.put p (.file content time)).find? place = some node → d.find? place = some node := by
    intro place node hnode hfind
    by_cases hplace : place = p
    · rw [hplace, find?_put _ _ _ hp] at hfind
      exact absurd (Option.some.inj hfind).symm (hnode content time)
    · rwa [find?_put_of_ne _ _ _ _ hplace] at hfind
  induction h with
  | nil here => exact .nil here
  | dot _ ih => exact .dot ih
  | dotdot _ ih => exact .dotdot ih
  | enter hname hfind _ ih => exact .enter hname (hback _ _ nofun hfind) ih
  | jump hname hfind htarget _ ih => exact .jump hname (hback _ _ nofun hfind) htarget ih

/-! ## Sound disks -/

theorem Sound.find?_eq_none {d : Disk} (hd : d.Sound) {place : Place}
    (h : d.find? place ≠ some .directory) (name : String) : d.find? (place ++ [name]) = none := by
  cases hf : d.find? (place ++ [name]) with
  | none => rfl
  | some node => exact absurd (hd.parent place name (by rw [hf]; rfl)) h

/-- Nothing stands below a place where nothing stands. -/
theorem Sound.find?_append {d : Disk} (hd : d.Sound) {place : Place} (h : d.find? place = none)
    (names : List String) : d.find? (place ++ names) = none := by
  induction names using List.reverseRecOn with
  | nil => rwa [List.append_nil]
  | append_singleton names x ih =>
    rw [← List.append_assoc]
    refine hd.find?_eq_none ?_ x
    rw [ih]
    exact (Option.some_ne_none _).symm

theorem Sound.put {d : Disk} (hd : d.Sound) {place : Place} {name : String} {node : DiskNode}
    (hplace : d.find? place = some .directory)
    (hname : d.find? (place ++ [name]) ≠ some .directory) :
    (d.put (place ++ [name]) node).Sound := by
  have hkeep : ∀ p, d.find? p = some .directory →
      (d.put (place ++ [name]) node).find? p = some .directory := by
    intro p hp
    have hne : p ≠ place ++ [name] := fun e => hname (e ▸ hp)
    rwa [find?_put_of_ne _ _ _ _ hne]
  refine ⟨fun p n hsome => ?_, hkeep _ hd.workingDirectory⟩
  by_cases hp : p ++ [n] = place ++ [name]
  · obtain ⟨rfl, -⟩ := List.append_inj' hp rfl
    exact hkeep p hplace
  · rw [find?_put_of_ne _ _ _ _ hp] at hsome
    exact hkeep p (hd.parent p n hsome)

theorem Sound.tick {d : Disk} (hd : d.Sound) : d.tick.2.Sound := ⟨hd.parent, hd.workingDirectory⟩

theorem sound_of_nodes {d : Disk}
    (hparent : ∀ pair ∈ d.nodes, d.find? pair.1.dropLast = some .directory)
    (hworking : d.find? d.workingDirectory = some .directory) : d.Sound where
  parent place name h := by
    obtain ⟨node, hnode⟩ := Option.isSome_iff_exists.1 h
    rw [find?, if_neg (by simp)] at hnode
    obtain ⟨before, after, hsplit, -⟩ := List.lookup_eq_some_iff.1 hnode
    have hplace := hparent (place ++ [name], node) (by rw [hsplit]; simp)
    rwa [List.dropLast_concat] at hplace
  workingDirectory := hworking

/-- On a sound disk a way leads to a directory that is there. -/
theorem Goes.find?_eq {d : Disk} (hd : d.Sound) {here q : Place} {ms : List String} {n : Nat}
    (h : d.Goes here ms n q) (hhere : d.find? here = some .directory) :
    d.find? q = some .directory := by
  have hup : ∀ place, d.find? place = some .directory →
      d.find? place.dropLast = some .directory := by
    intro place hplace
    rcases List.eq_nil_or_concat' place with rfl | ⟨front, name, rfl⟩
    · rfl
    · rw [List.dropLast_concat]
      exact hd.parent front name (by rw [hplace]; rfl)
  induction h with
  | nil here => exact hhere
  | dot _ ih => exact ih hhere
  | dotdot _ ih => exact ih (hup _ hhere)
  | enter _ hfind _ ih => exact ih hfind
  | @jump here q name target names n _ _ _ _ ih =>
    refine ih ?_
    split
    · rfl
    · exact hhere

/-- Above a directory there are directories. -/
theorem Sound.above {d : Disk} (hd : d.Sound) {top : Place} {names ns : List String}
    (hns : ns <+: names) (h : d.find? (top ++ names) = some .directory) :
    d.find? (top ++ ns) = some .directory := by
  obtain ⟨rest, rfl⟩ := hns
  induction rest using List.reverseRecOn with
  | nil => rwa [List.append_nil] at h
  | append_singleton rest x ih =>
    apply ih
    rw [← List.append_assoc, ← List.append_assoc] at h
    rw [← List.append_assoc]
    exact hd.parent _ x (by rw [h]; rfl)

/-- Names lead to a directory that is there. -/
theorem Sound.goes {d : Disk} (hd : d.Sound) {top : Place} {names : List String}
    (hnames : ∀ x ∈ names, IsEntry x) (h : d.find? (top ++ names) = some .directory) :
    d.Goes top names 0 (top ++ names) := by
  induction names using List.reverseRecOn with
  | nil =>
    rw [List.append_nil]
    exact .nil top
  | append_singleton names x ih =>
    have habove := hd.above (List.prefix_append names [x]) h
    have hfront := ih (fun y hy => hnames y (List.mem_append_left _ hy)) habove
    rw [← List.append_assoc] at h ⊢
    exact hfront.append (.enter (hnames x (by simp)) h (.nil _))

end TemplateBundler.Disk
