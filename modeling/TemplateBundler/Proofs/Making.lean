import Mathlib.Data.List.Induction
import TemplateBundler.Proofs.Shelves

/-!
# Storing where the way is free

A store makes the directories of its path that are not there yet, from the first missing one down,
and then puts the file there. It comes to an end wherever the way to the file is free, which is to
say that what stands on it is a directory, and nothing stands at its end:

    d.OpenWay top dirs → d.find? (top ++ (dirs ++ [name])) = none →
      ∃ d', d.store path text = (.ok (), d') ∧ d.Placed d' top dirs name text   (exists_store_free)

`Placed` says all that is different then: the file, and directories above it. The induction is on
the names that are missing, last one first, as directories are made: where the parent of a path is
missing, it is made before a second try.
-/

namespace TemplateBundler

/-! ## Parents as texts -/

namespace FilePath

theorem text_ne_empty {p : FilePath} (h : p.names ≠ []) : p.text ≠ "" := by
  intro htext
  rw [names, htext] at h
  exact h (by decide)

theorem exists_parent {p : FilePath} (ht : p.Trimmed) (h : p.names ≠ []) :
    ∃ q, p.parent? = some q := by
  cases hp : p.parent? with
  | some q => exact ⟨q, rfl⟩
  | none =>
    have htop := (text_of_parent?_eq_none ht hp).resolve_left (text_ne_empty h)
    rw [names, htop] at h
    exact absurd (by decide) h

theorem trim_suffix (cs : List Char) : upTo.trim cs <:+ cs := by
  fun_induction upTo.trim cs with
  | case1 rest h =>
    obtain rfl := List.isEmpty_iff.1 h
    exact List.suffix_refl _
  | case2 rest h ih => exact ih.trans (List.suffix_cons _ _)
  | case3 rest h =>
    obtain rfl := List.isEmpty_iff.1 h
    exact List.suffix_cons _ _
  | case4 rest h ih => exact ih.trans (List.suffix_cons _ _)
  | case5 cs => exact List.suffix_refl cs

theorem prefix_of_upTo (cs : List Char) : upTo cs <+: cs := by
  have h := trim_suffix cs.reverse
  rw [← List.reverse_prefix, List.reverse_reverse] at h
  exact h

/-- What is left of a text without its last component stands at its start. -/
theorem prefix_of_parent? {p q : FilePath} (h : p.parent? = some q) :
    q.text.toList <+: p.text.toList := by
  unfold parent? at h
  simp only at h
  split at h
  · cases h
  · have hcut : ((upTo p.text.toList).reverse.dropWhile (· ≠ '/')).reverse <+:
        upTo p.text.toList := by
      rw [← List.reverse_suffix, List.reverse_reverse]
      exact List.dropWhile_suffix _
    obtain rfl := Option.some.inj h
    rw [String.toList_ofList]
    exact (prefix_of_upTo _).trans (hcut.trans (prefix_of_upTo _))

end FilePath

namespace Disk

/-- A path that the system takes, with room for the name of another file beside it. -/
structure Fits (p : FilePath) : Prop where
  clean : ∀ c ∈ p.text.toList, c.toNat ≠ 0
  room : p.text.utf8ByteSize + 20 < pathLimit
  short : ∀ name ∈ p.names, isLongName name = false

theorem checkPath_ok {text : String} (hclean : ∀ c ∈ text.toList, c.toNat ≠ 0) (hne : text ≠ "")
    (hsize : text.utf8ByteSize < pathLimit) : checkPath text = .ok () := by
  have hclean' : text.toList.any (·.toNat == 0) = false := by
    rw [List.any_eq_false]
    intro c hc
    simpa using hclean c hc
  have htext : text.isEmpty = false := by
    rw [Bool.eq_false_iff, ne_eq, String.isEmpty_iff]
    exact hne
  unfold checkPath
  rw [hclean', htext, if_neg Bool.false_ne_true, if_neg Bool.false_ne_true, if_neg (by omega)]

theorem Fits.checkPath_eq {p : FilePath} (h : Fits p) (hne : p.text ≠ "") :
    checkPath p.text = .ok () := by
  have hroom := h.room
  exact checkPath_ok h.clean hne (by omega)

theorem size_parent {p q : FilePath} (ht : p.Trimmed) (hq : p.parent? = some q) :
    q.text.utf8ByteSize < p.text.utf8ByteSize := by
  obtain ⟨-, -, dots, last, -, hnames, -⟩ := FilePath.parent?_spec ht hq
  obtain ⟨rest, hrest⟩ := FilePath.prefix_of_parent? hq
  have happend : q.text ++ String.ofList rest = p.text := by
    apply String.toList_injective
    rw [String.toList_append, String.toList_ofList, hrest]
  have hne : String.ofList rest ≠ "" := by
    intro hnil
    rw [hnil, String.append_empty] at happend
    rw [FilePath.names, FilePath.names, happend] at hnames
    have hlength := congrArg List.length hnames
    simp only [List.length_append, List.length_singleton] at hlength
    omega
  have hpos : 0 < (String.ofList rest).utf8ByteSize := by
    rw [Nat.pos_iff_ne_zero, ne_eq, String.utf8ByteSize_eq_zero_iff]
    exact hne
  rw [← happend, String.utf8ByteSize_append]
  omega

section Parent
variable {p : FilePath} (h : Fits p) (ht : p.Trimmed)

include h ht

theorem Fits.parent {q : FilePath} (hq : p.parent? = some q) : Fits q := by
  obtain ⟨-, -, dots, last, -, hnames, -⟩ := FilePath.parent?_spec ht hq
  have hchars := (FilePath.prefix_of_parent? hq).subset
  have hsize := size_parent ht hq
  have hroom := h.room
  refine ⟨fun c hc => h.clean c (hchars hc), by omega, fun name hname => h.short name ?_⟩
  rw [hnames]
  simp [hname]

/-- There is room in the home of a file for the temporary one. -/
theorem Fits.home : (homeOf p).text ≠ "" ∧ (∀ c ∈ (homeOf p).text.toList, c.toNat ≠ 0) ∧
    (homeOf p).text.utf8ByteSize + 21 < pathLimit := by
  have hcurrent : "." ≠ "" ∧ (∀ c ∈ ".".toList, c.toNat ≠ 0) ∧
      ".".utf8ByteSize + 21 < pathLimit := ⟨by decide, by simp, by decide⟩
  unfold homeOf
  split
  · next parent hparent =>
    split
    · exact hcurrent
    next hne =>
    have hsize := size_parent ht hparent
    have hroom := h.room
    exact ⟨by simpa using hne, (h.parent ht hparent).clean, by omega⟩
  · exact hcurrent

theorem Fits.checkPath_homeOf : checkPath (homeOf p).text = .ok () := by
  obtain ⟨hne, hclean, hsize⟩ := h.home ht
  exact checkPath_ok hclean hne (by omega)

theorem Fits.checkPath_temporary :
    checkPath ((homeOf p).join ⟨temporaryPattern⟩).text = .ok () := by
  obtain ⟨hne, hclean, hsize⟩ := h.home ht
  have hpattern : (∀ c ∈ temporaryPattern.toList, c.toNat ≠ 0) ∧
      temporaryPattern.utf8ByteSize = 20 ∧ temporaryPattern ≠ "" ∧
      FilePath.isAbsolute ⟨temporaryPattern⟩ = false :=
    ⟨by simp [temporaryPattern], by decide, by decide, by decide⟩
  obtain ⟨hplain, htwenty, hnonempty, hrelative⟩ := hpattern
  rw [FilePath.join, if_neg (by rw [hrelative]; exact Bool.false_ne_true)]
  split
  · refine checkPath_ok (fun c hc => ?_) (by simp [hnonempty]) ?_
    · rw [String.toList_append] at hc
      exact (List.mem_append.1 hc).elim (hclean c) (hplain c)
    · rw [String.utf8ByteSize_append, htwenty]
      omega
  · refine checkPath_ok (fun c hc => ?_) (by simp [hnonempty]) ?_
    · simp only [String.toList_append, List.mem_append] at hc
      rcases hc with (hc | hc) | hc
      · exact hclean c hc
      · obtain rfl := List.mem_singleton.1 hc
        decide
      · exact hplain c hc
    · have hsep : "/".utf8ByteSize = 1 := by decide
      rw [String.utf8ByteSize_append, String.utf8ByteSize_append, hsep, htwenty]
      omega

end Parent

/-! ## Free ways -/

/-- What stands on the way below a directory is a directory each. -/
def OpenWay (d : Disk) (top : Place) (names : List String) : Prop :=
  ∀ ns, ns ≠ [] → ns <+: names → d.find? (top ++ ns) = none ∨ d.find? (top ++ ns) = some .directory

theorem OpenWay.tail {d : Disk} {top : Place} {x : String} {names : List String}
    (h : d.OpenWay top (x :: names)) : d.OpenWay (top ++ [x]) names := by
  intro ns _ hns
  have := h (x :: ns) (List.cons_ne_nil _ _) ((List.prefix_cons_inj x).2 hns)
  rwa [List.append_assoc, List.singleton_append]

theorem OpenWay.take {d : Disk} {top : Place} {names ms : List String}
    (h : d.OpenWay top names) (hms : ms <+: names) : d.OpenWay top ms :=
  fun ns hne hns => h ns hne (hns.trans hms)

/-- A walk comes to nothing where a name is missing. -/
theorem OpenWay.walk_missing {d : Disk} {names : List String} (rest : List String) (links : Nat) :
    ∀ {top : Place}, d.OpenWay top names → names ≠ [] → (∀ x ∈ names, IsEntry x) →
      d.find? (top ++ names) = none →
      d.walk true links top (names ++ rest) = .error .missing ∨
        ∃ q x, d.walk true links top (names ++ rest) = .ok (.absent q x) := by
  induction names with
  | nil =>
    intro top _ hne
    exact absurd rfl hne
  | cons x names ih =>
    intro top hopen _ hnames hmissing
    have hx := hnames x List.mem_cons_self
    rw [List.cons_append, walk, if_neg hx.ne_dot, if_neg hx.ne_dotdot,
      if_neg (by rw [hx.not_long]; exact Bool.false_ne_true)]
    have hfirst := hopen [x] (List.cons_ne_nil _ _) ((List.prefix_cons_inj x).2 (List.nil_prefix))
    rcases hfirst with hfind | hfind
    · rw [hfind]
      by_cases hlast : (names ++ rest).isEmpty = true
      · right
        exact ⟨top, x, by simp only [hlast, if_true]⟩
      · left
        simp only [hlast, Bool.false_eq_true, if_false]
    · rw [hfind]
      have hne : names ≠ [] := by
        rintro rfl
        rw [hfind] at hmissing
        cases hmissing
      refine ih hopen.tail hne (fun y hy => hnames y (List.mem_cons_of_mem _ hy)) ?_
      rwa [List.append_assoc, List.singleton_append]

section Missing
variable {d : Disk} {p : FilePath} {front : List String} {n : Nat} {top : Place}
  (hcheck : checkPath p.text = .ok ()) (hn : n ≤ linkLimit)
  (hgo : d.Goes (d.start p.text) front n top) {names : List String} (hopen : d.OpenWay top names)
  (hne : names ≠ []) (hentry : ∀ x ∈ names, IsEntry x) (hmissing : d.find? (top ++ names) = none)

include hcheck hn hgo hopen hne hentry hmissing

theorem slot_of_missing {name : String} (hnames : p.names = front ++ names ++ [name]) :
    d.slot p = .error .missing := by
  have hwalk := hgo.walk_append names linkLimit
  rw [if_pos hn] at hwalk
  rw [FilePath.names] at hnames
  have hend := hopen.walk_missing [] (linkLimit - n) hne hentry hmissing
  rw [List.append_nil, ← hwalk] at hend
  rcases hend with hend | ⟨q, x, hend⟩
  · simp only [slot, hcheck, hnames, List.dropLast_concat, hend, bind, Except.bind]
  · simp only [slot, hcheck, hnames, List.dropLast_concat, hend, bind, Except.bind]

theorem status_of_missing (hnames : p.names = front ++ names) : d.status p = .error .missing := by
  have hwalk := hgo.walk_append (names ++ if endsInSeparator p.text then ["."] else []) linkLimit
  rw [if_pos hn, ← List.append_assoc, ← hnames, FilePath.names] at hwalk
  have hend := hopen.walk_missing (if endsInSeparator p.text then ["."] else []) (linkLimit - n) hne
    hentry hmissing
  rw [← hwalk] at hend
  rcases hend with hend | ⟨q, x, hend⟩
  · simp only [status, locate, hcheck, steps, hend, bind, Except.bind]
  · simp only [status, locate, hcheck, steps, hend, bind, Except.bind]

end Missing

/-! ## Making what is missing -/

/-- Directories are there up to the end of a way, and nothing is different elsewhere. -/
structure MadeWay (d d' : Disk) (top : Place) (names : List String) : Prop where
  sound : d'.Sound
  extend : Extends d d'
  there : d'.find? (top ++ names) = some .directory
  other : ∀ place, (∀ ns, ns ≠ [] → ns <+: names → place ≠ top ++ ns) →
    d'.find? place = d.find? place

theorem makeDirectory_of_slot {d : Disk} {p : FilePath} {q : Place} {name : String} {isOpen : Bool}
    (hslot : d.slot p = .ok ⟨q, some name, isOpen⟩) (hname : IsEntry name)
    (hfree : d.find? (q ++ [name]) = none) :
    d.makeDirectory p = .ok (d.put (q ++ [name]) .directory) := by
  simp only [makeDirectory, hslot, hname.not_long, hfree, Option.isSome_none, bind, Except.bind,
    Bool.false_eq_true, if_false]

theorem makeFrom_of_made {d made : Disk} {p : FilePath} (ps : List FilePath) (htext : p.text ≠ "")
    (hparent : p.parent? ≠ none) (h : d.makeDirectory p = .ok made) :
    d.makeFrom (p :: ps) = (.ok (), made) := by
  rw [makeFrom, if_neg (by simp [htext, hparent]), h]

/-- Where the directory above is missing, it is made before a second try. -/
theorem makeFrom_of_missing {d after made : Disk} {p : FilePath} {ps : List FilePath}
    (htext : p.text ≠ "") (hparent : p.parent? ≠ none) (h : d.makeDirectory p = .error .missing)
    (habove : d.makeFrom ps = (.ok (), after)) (hmade : after.makeDirectory p = .ok made) :
    d.makeFrom (p :: ps) = (.ok (), made) := by
  rw [makeFrom, if_neg (by simp [htext, hparent]), h]
  simp only [if_true, habove, hmade]

theorem MadeWay.put {d after : Disk} {top : Place} {names : List String} {x : String}
    (h : MadeWay d after top names) (hfree : after.find? (top ++ names ++ [x]) = none) :
    MadeWay d (after.put (top ++ names ++ [x]) .directory) top (names ++ [x]) where
  sound := by
    refine h.sound.put h.there ?_
    rw [hfree]
    exact (Option.some_ne_none _).symm
  extend := h.extend.trans (extends_put_directory hfree)
  there := by
    rw [← List.append_assoc]
    exact find?_put _ _ _ (by simp)
  other place hplace := by
    have hne : place ≠ top ++ names ++ [x] := by
      rw [List.append_assoc]
      exact hplace _ (by simp) (List.prefix_refl _)
    rw [find?_put_of_ne _ _ _ _ hne]
    exact h.other place fun ns hns hpre => hplace ns hns (hpre.trans (List.prefix_append _ _))

/-- The place behind the end of a way is as free as it was. -/
theorem MadeWay.free {d after : Disk} {top : Place} {names : List String} {x : String}
    (h : MadeWay d after top names) (hfree : d.find? (top ++ names ++ [x]) = none) :
    after.find? (top ++ names ++ [x]) = none := by
  rw [h.other _ fun ns _ hpre heq => ?_]
  · exact hfree
  · -- it is longer than the way that was made
    have hle := hpre.length_le
    have hsame := congrArg List.length heq
    simp only [List.length_append, List.length_singleton] at hle hsame
    omega

theorem eq_nil_of_dots {dots front names : List String} {y : String} (hdots : ∀ x ∈ dots, x = ".")
    (hy : y ≠ ".") (h : front ++ dots = names ++ [y]) : dots = [] := by
  rcases List.eq_nil_or_concat' dots with hnil | ⟨dots', x, rfl⟩
  · exact hnil
  · rw [← List.append_assoc] at h
    have hlast := List.singleton_inj.1 (List.append_inj' h rfl).2
    exact absurd (hlast ▸ hdots x (by simp)) hy

/-- The names of a parent are those of the path but for the last, where no dots stand before it. -/
theorem names_parent {p q : FilePath} (ht : p.Trimmed) (hq : p.parent? = some q)
    {names : List String} {y x : String} (hy : y ≠ ".") (hnames : p.names = names ++ [y] ++ [x]) :
    q.names = names ++ [y] := by
  obtain ⟨-, -, dots, last, hdots, hnames', -⟩ := FilePath.parent?_spec ht hq
  obtain ⟨hfront, -⟩ := List.append_inj' (hnames.symm.trans hnames') rfl
  rw [hfront, eq_nil_of_dots hdots hy hfront.symm, List.append_nil]

section Round
variable {d after : Disk} {p : FilePath} {front names : List String} {x : String} {n : Nat}
  {top : Place} (hway : MadeWay d after top names) (hcheck : checkPath p.text = .ok ())
  (hn : n ≤ linkLimit) (hgo : d.Goes (d.start p.text) front n top)
  (hnames : p.names = front ++ names ++ [x]) (hentry : ∀ y ∈ names, IsEntry y) (hx : IsEntry x)
  (hmissing : d.find? (top ++ names ++ [x]) = none)

include hway hcheck hn hgo hnames hentry hx hmissing

/-- Where everything above is there, or has been made, the directory itself can be made. -/
theorem MadeWay.exists_makeDirectory :
    ∃ made, after.makeDirectory p = .ok made ∧ MadeWay d made top (names ++ [x]) := by
  have hfree := hway.free hmissing
  have hgoes := (hway.extend.goes hgo).append (hway.sound.goes hentry hway.there)
  rw [← hway.extend.start_eq] at hgoes
  have hslot := slot_of_goes hcheck (by omega) hgoes hnames hx
  exact ⟨_, makeDirectory_of_slot hslot hx hfree, hway.put hfree⟩

/-- **A missing parent** is made, and then the directory itself. -/
theorem MadeWay.exists_makeFrom {q : FilePath} (hq : p.parent? = some q)
    (hopen : d.OpenWay top names) (hne : names ≠ []) (habove : d.find? (top ++ names) = none)
    {fuel : Nat} (hafter : d.makeFrom (FilePath.upwards (fuel + 1) q) = (.ok (), after)) :
    ∃ made, d.makeFrom (FilePath.upwards (fuel + 1 + 1) p) = (.ok (), made) ∧
      MadeWay d made top (names ++ [x]) := by
  have hslot := slot_of_missing hcheck hn hgo hopen hne hentry habove hnames
  have hfirst : d.makeDirectory p = .error .missing := by
    simp only [makeDirectory, hslot, bind, Except.bind]
  obtain ⟨made, hmake, hmade⟩ :=
    hway.exists_makeDirectory hcheck hn hgo hnames hentry hx hmissing
  have htext : p.text ≠ "" := FilePath.text_ne_empty (by simp [hnames])
  rw [FilePath.upwards, hq]
  exact ⟨made, makeFrom_of_missing htext (by simp [hq]) hfirst hafter hmake, hmade⟩

end Round

/-- **Directories are made as far as they are missing.** The names are taken off from the right, as
the parents of the path are; a parent that is missing takes one round of the fuel. -/
theorem exists_madeWay {d : Disk} (hd : d.Sound) {front : List String} {n : Nat} {top : Place}
    (hn : n ≤ linkLimit) (names : List String) :
    ∀ {p : FilePath} {fuel : Nat}, p.Trimmed → Fits p → p.names = front ++ names →
      d.Goes (d.start p.text) front n top → names ≠ [] → (∀ x ∈ names, IsEntry x) →
      d.OpenWay top names → d.find? (top ++ names) = none → names.length ≤ fuel + 1 →
      ∃ d', d.makeFrom (FilePath.upwards (fuel + 1) p) = (.ok (), d') ∧
        MadeWay d d' top names := by
  induction names using List.reverseRecOn with
  | nil =>
    intro p fuel _ _ _ _ hne
    exact absurd rfl hne
  | append_singleton names x ih =>
    intro p fuel ht hfit hnames hgo _ hentry hopen hmissing hfuel
    have hx : IsEntry x := hentry x (by simp)
    have hentry' : ∀ y ∈ names, IsEntry y := fun y hy => hentry y (List.mem_append_left _ hy)
    have hnonempty : p.names ≠ [] := by simp [hnames]
    have htext := FilePath.text_ne_empty hnonempty
    obtain ⟨q, hq⟩ := FilePath.exists_parent ht hnonempty
    have hcheck := hfit.checkPath_eq htext
    rw [← List.append_assoc] at hnames hmissing
    by_cases hdir : d.find? (top ++ names) = some .directory
    · -- only the last name is missing
      have hway : MadeWay d d top names := ⟨hd, .refl d, hdir, fun _ _ => rfl⟩
      obtain ⟨made, hmake, hmade⟩ :=
        hway.exists_makeDirectory hcheck hn hgo hnames hentry' hx hmissing
      obtain ⟨ps, hps⟩ := upwards_succ fuel p
      rw [hps]
      exact ⟨made, makeFrom_of_made ps htext (by simp [hq]) hmake, hmade⟩
    · have hne : names ≠ [] := by
        rintro rfl
        rw [List.append_nil] at hdir
        exact hdir (hgo.find?_eq hd (find?_start hd _))
      have habove : d.find? (top ++ names) = none :=
        (hopen names hne (List.prefix_append _ _)).resolve_right hdir
      have hopen' : d.OpenWay top names := hopen.take (List.prefix_append _ _)
      have hnamesq : q.names = front ++ names := by
        obtain ⟨ms, y, rfl⟩ := (List.eq_nil_or_concat' names).resolve_left hne
        rw [← List.append_assoc] at hnames ⊢
        exact names_parent ht hq (hentry' y (by simp)).ne_dot hnames
      obtain ⟨ht', habs, -⟩ := FilePath.parent?_spec ht hq
      rw [List.length_append, List.length_singleton] at hfuel
      have hlen := List.length_pos_of_ne_nil hne
      obtain ⟨fuel, rfl⟩ := Nat.exists_eq_succ_of_ne_zero (show fuel ≠ 0 by omega)
      have hfuel' : names.length ≤ fuel + 1 := by omega
      obtain ⟨after, hafter, hway⟩ := ih ht' (hfit.parent ht hq) hnamesq
        (by rwa [← start_eq_of_isAbsolute d habs]) hne hentry' hopen' habove hfuel'
      exact hway.exists_makeFrom hcheck hn hgo hnames hentry' hx hmissing hq hopen' hne habove
        hafter

/-! ## Storing -/

theorem length_pieces_le (sep : Char) (cs : List Char) :
    (Text.pieces sep cs).length ≤ cs.length + 1 := by
  induction cs with
  | nil => exact Nat.le_refl _
  | cons c cs ih =>
    rw [Text.pieces, List.length_cons]
    split
    · rw [List.length_cons]
      omega
    · cases hp : Text.pieces sep cs with
      | nil => exact absurd hp (Text.pieces_ne_nil sep cs)
      | cons q qs =>
        rw [hp, List.length_cons] at ih
        rw [List.length_cons]
        omega

theorem length_names_le (p : FilePath) : p.names.length ≤ p.text.length + 1 := by
  have hpieces := length_pieces_le '/' p.text.toList
  have hfilter := List.length_filter_le (fun name => decide (name ≠ ""))
    ((Text.pieces '/' p.text.toList).map String.ofList)
  rw [List.length_map] at hfilter
  rw [String.length_toList] at hpieces
  rw [FilePath.names_eq, FilePath.namesIn]
  omega

theorem ensureDirectory_of_isDirectory {d : Disk} {p : FilePath} (h : d.isDirectory p = true) :
    d.ensureDirectory p = (.ok (), d) := by
  simp [ensureDirectory, isThere_of_isDirectory h, h]

theorem ensureDirectory_of_missing {d d' : Disk} {p : FilePath} (h : d.status p = .error .missing)
    (hmake : d.makeDirectories p = (.ok (), d')) : d.ensureDirectory p = (.ok (), d') := by
  simp [ensureDirectory, isThere, h, hmake, Except.isOk, Except.toBool]

/-- A file is there with directories above it, and nothing is different elsewhere. -/
structure Placed (d d' : Disk) (top : Place) (dirs : List String) (name text : String) : Prop where
  sound : d'.Sound
  reliable : d'.Reliable
  reached : ∀ p q, d.Reached p q → d'.Reached p q
  file : ∃ time, d'.find? (top ++ (dirs ++ [name])) = some (.file (.text text) time)
  above : d'.find? (top ++ dirs) = some .directory
  other : ∀ place, (∀ ns, ns ≠ [] → ns <+: dirs ++ [name] → place ≠ top ++ ns) →
    d'.find? place = d.find? place

/-- The directories of a file are made, and then the file is put at the end of the way. -/
theorem MadeWay.placed {d made : Disk} {top : Place} {dirs : List String}
    (h : MadeWay d made top dirs) (hreliable : made.Reliable) {name : String}
    (hfree : made.find? (top ++ dirs ++ [name]) = none) (text : String) (time : Time) :
    Placed d (made.tick.2.put (top ++ dirs ++ [name]) (.file (.text text) time)) top dirs name
      text := by
  have hno : made.find? (top ++ dirs ++ [name]) ≠ some .directory :=
    hfree ▸ (Option.some_ne_none _).symm
  have hkeeps : Keeps made.tick.2
      (made.tick.2.put (top ++ dirs ++ [name]) (.file (.text text) time)) :=
    keeps_put hno fun target => hfree ▸ (Option.some_ne_none _).symm
  refine ⟨h.sound.tick.put h.there hno, hreliable, ?_, ?_, hkeeps.directory _ h.there, ?_⟩
  · rintro p q ⟨m, hm, hp⟩
    refine ⟨m, hm, ?_⟩
    have hstart : (made.tick.2.put (top ++ dirs ++ [name]) (.file (.text text) time)).start p.text =
        d.start p.text := h.extend.start_eq p.text
    rw [hstart]
    exact (goes_tick.2 (h.extend.goes hp)).mono hkeeps
  · rw [← List.append_assoc]
    exact ⟨_, find?_put _ _ _ (by simp)⟩
  · intro place hplace
    have hne : place ≠ top ++ dirs ++ [name] := by
      rw [List.append_assoc]
      exact hplace _ (by simp) (List.prefix_refl _)
    rw [find?_put_of_ne _ _ _ _ hne]
    exact h.other place fun ns hns hpre => hplace ns hns (hpre.trans (List.prefix_append _ _))

section Below
variable {d : Disk} (hd : d.Sound) {directory path : FilePath} {dirs : List String} {name : String}
  {top : Place} (hreached : d.Reached directory top) (hpath : directory.Below path (dirs ++ [name]))
  (hfit : Fits path)

include hpath hfit

theorem isEntry_of_below : ∀ x ∈ dirs ++ [name], IsEntry x := by
  intro x hx
  obtain ⟨hdot, hdotdot⟩ := hpath.plain x hx
  refine ⟨hdot, hdotdot, hfit.short x ?_⟩
  rw [hpath.names_eq]
  exact List.mem_append_right _ hx

theorem checkPath_of_below : checkPath path.text = .ok () := by
  refine hfit.checkPath_eq (FilePath.text_ne_empty ?_)
  simp [hpath.names_eq]

include hd hreached

/-- A file below a directory can be read. -/
theorem readText_of_placed {text : String} {time : Time}
    (hfind : d.find? (top ++ (dirs ++ [name])) = some (.file (.text text) time)) :
    d.readText path = .ok text := by
  obtain ⟨n, hn, hgo⟩ := hreached
  have hentry := isEntry_of_below hpath hfit
  have hdirs : d.find? (top ++ dirs) = some .directory := by
    rw [← List.append_assoc] at hfind
    exact hd.parent _ name (by rw [hfind]; rfl)
  have hway := hgo.append (hd.goes (fun x hx => hentry x (List.mem_append_left _ hx)) hdirs)
  rw [← start_eq_of_isAbsolute d hpath.isAbsolute_eq.symm] at hway
  rw [← List.append_assoc] at hfind
  have hstatus := status_of_file (checkPath_of_below hpath hfit) hpath.closed
    (by rw [hpath.names_eq, List.append_assoc]) (hentry name (by simp)) (by omega) hway hfind
  simp only [readText, hstatus, bind, Except.bind]

variable (hopen : d.OpenWay top dirs)

include hopen

/-- The directory of a file is there, or is made. -/
theorem exists_ensured : ∃ made, d.ensureDirectory (homeOf path) = (.ok (), made) ∧
    MadeWay d made top dirs := by
  obtain ⟨n, hn, hgo⟩ := hreached
  have htop := hgo.find?_eq hd (find?_start hd _)
  have hentry := isEntry_of_below hpath hfit
  have hentry' : ∀ x ∈ dirs, IsEntry x := fun x hx => hentry x (List.mem_append_left _ hx)
  have hnames : path.names = directory.names ++ dirs ++ [name] := by
    rw [hpath.names_eq, List.append_assoc]
  rcases homeOf_cases hnames (hentry name (by simp)) hpath.closed with
    ⟨hhome, hdots⟩ | ⟨dots, hdots, hfront, ht, htext, habs, hparent⟩
  · -- the working directory
    have hnil : dirs = [] := by
      cases dirs with
      | nil => rfl
      | cons x xs => exact absurd (hdots x (by simp)) (hentry' x List.mem_cons_self).ne_dot
    rw [hhome, hnil]
    refine ⟨d, ensureDirectory_of_isDirectory isDirectory_current, hd, .refl d, ?_, fun _ _ => rfl⟩
    rw [List.append_nil]
    exact htop
  have hfit' : Fits (homeOf path) := by
    refine hfit.parent ?_ hparent
    exact FilePath.trimmed_of_names hnames (hentry name (by simp)).ne_dot (by
      simpa [endsInSeparator] using hpath.closed)
  have hcheck := hfit'.checkPath_eq htext
  rw [start_eq_of_isAbsolute d (habs.trans hpath.isAbsolute_eq)] at hgo
  by_cases hdir : d.find? (top ++ dirs) = some .directory
  · -- it is there
    have hway := hgo.append (hd.goes hentry' hdir)
    rw [hfront] at hway
    obtain ⟨m, k, mid, hmk, hhome, hrest⟩ := hway.split
    obtain rfl := (goes_dots d mid hdots).unique hrest
    have hstatus := status_of_reached hcheck ⟨m, by omega, hhome⟩
    refine ⟨d, ensureDirectory_of_isDirectory ?_, hd, .refl d, hdir, fun _ _ => rfl⟩
    unfold isDirectory
    rw [hstatus]
  · -- it has to be made
    have hne : dirs ≠ [] := by
      rintro rfl
      exact hdir (by rw [List.append_nil]; exact htop)
    have hmissing := (hopen dirs hne (List.prefix_refl _)).resolve_right hdir
    obtain ⟨ms, y, rfl⟩ := (List.eq_nil_or_concat' dirs).resolve_left hne
    have hnil : dots = [] := by
      rw [← List.append_assoc] at hfront
      exact eq_nil_of_dots hdots (hentry' y (by simp)).ne_dot hfront.symm
    rw [hnil, List.append_nil] at hfront
    have hlen : (ms ++ [y]).length ≤ (homeOf path).text.length + 1 := by
      have hle := length_names_le (homeOf path)
      rw [← hfront, List.length_append] at hle
      omega
    obtain ⟨made, hmade, hway⟩ := exists_madeWay hd hn (ms ++ [y]) ht hfit' hfront.symm hgo hne
      hentry' hopen hmissing hlen
    have hstatus := status_of_missing hcheck hn hgo hopen hne hentry' hmissing hfront.symm
    exact ⟨made, ensureDirectory_of_missing hstatus hmade, hway⟩

variable (hfree : d.find? (top ++ (dirs ++ [name])) = none)

include hfree

omit hd in
theorem storedAt_of_free : d.storedAt path = .ok none := by
  obtain ⟨n, hn, hgo⟩ := hreached
  rw [← start_eq_of_isAbsolute d hpath.isAbsolute_eq.symm] at hgo
  have hopen' : d.OpenWay top (dirs ++ [name]) := by
    intro ns hne hns
    rcases List.prefix_concat_iff.1 hns with rfl | hns
    · exact Or.inl hfree
    · exact hopen ns hne hns
  have hstatus := status_of_missing (checkPath_of_below hpath hfit) hn hgo hopen' (by simp)
    (isEntry_of_below hpath hfit) hfree hpath.names_eq
  simp only [storedAt, hstatus, if_true]

/-- **A store comes to an end where the way is free**, unless its write fails. -/
theorem exists_store_free (hreliable : d.Reliable) (text : String) :
    ∃ d', d.store path text = (.ok (), d') ∧ Placed d d' top dirs name text := by
  obtain ⟨made, hmade, hway⟩ := exists_ensured hd hreached hpath hfit hopen
  have hreliable' := hreliable.ensureDirectory (homeOf path)
  rw [hmade] at hreliable'
  obtain ⟨n, hn, hgo⟩ := hreached
  have hentry := isEntry_of_below hpath hfit
  rw [← List.append_assoc] at hfree
  have hfree' := hway.free hfree
  have hgoes := (hway.extend.goes hgo).append
    (hway.sound.goes (fun x hx => hentry x (List.mem_append_left _ hx)) hway.there)
  rw [← hway.extend.start_eq, ← start_eq_of_isAbsolute made hpath.isAbsolute_eq.symm] at hgoes
  have hnames : path.names = directory.names ++ dirs ++ [name] := by
    rw [hpath.names_eq, List.append_assoc]
  have ht : path.Trimmed := FilePath.trimmed_of_names hnames (hentry name (by simp)).ne_dot (by
    simpa [endsInSeparator] using hpath.closed)
  have hslot := slot_of_goes (checkPath_of_below hpath hfit) (by omega) hgoes hnames
    (hentry name (by simp))
  obtain ⟨home, hhome⟩ := status_homeOf hnames (hentry name (by simp)) hpath.closed (by omega) hgoes
    (hfit.checkPath_homeOf ht)
  rw [hpath.closed] at hslot
  have hstore := store_of_slot hway.sound hreliable hmade hhome (hfit.checkPath_temporary ht) hslot
    (hentry name (by simp)).not_long (by rw [hfree']; simp) text
  exact ⟨_, hstore, hway.placed hreliable' hfree' text _⟩

end Below

end Disk

end TemplateBundler
