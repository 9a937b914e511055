import TemplateBundler.Config.Loading
import TemplateBundler.Proofs.NormalForm
import TemplateBundler.Proofs.Stores
import TemplateBundler.Proofs.Termination

/-!
# Overrides with and without a configuration file

Without a file the paths of overrides are put below the directory that was looked in. With a file
they come on top of paths that were put below a directory before, and stay as they are given:

    load d none directory o = .ok c →                 -- a file is there
      c.source = source.trimSeparators
    load d' none directory o = .ok c' →               -- none is there
      c'.source = (directory.join source).trimSeparators                        (Compared.paths)

Everything else is the same. The paths are for the same locations where the directory leads to the
one that is worked in, and nowhere else (`compared_of_setsOnly`).
-/

namespace TemplateBundler

/-! ## Relative paths -/

namespace FilePath

theorem rdropWhile_append {cs : List Char} (h : ∃ a ∈ cs, isSeparator a = false)
    (front : List Char) :
    (front ++ cs).rdropWhile isSeparator = front ++ cs.rdropWhile isSeparator := by
  induction cs using List.reverseRecOn with
  | nil =>
    obtain ⟨a, ha, -⟩ := h
    exact absurd ha List.not_mem_nil
  | append_singleton cs c ih =>
    rw [← List.append_assoc]
    by_cases hc : isSeparator c = true
    · rw [List.rdropWhile_concat_pos _ _ _ hc, List.rdropWhile_concat_pos _ _ _ hc]
      refine ih ?_
      obtain ⟨a, ha, hsep⟩ := h
      rcases List.mem_append.1 ha with ha | ha
      · exact ⟨a, ha, hsep⟩
      · rw [List.mem_singleton.1 ha, hc] at hsep
        cases hsep
    · rw [List.rdropWhile_concat_neg _ _ _ hc, List.rdropWhile_concat_neg _ _ _ hc,
        List.append_assoc]

theorem isAbsolute_trimSeparators (p : FilePath) : p.trimSeparators.isAbsolute = p.isAbsolute := by
  by_cases h : p.HasName
  · have hne : p.text.toList.rdropWhile isSeparator ≠ [] := fun hnil =>
      rdropWhile_eq_nil_iff.1 hnil h
    obtain ⟨tail, htail⟩ := List.rdropWhile_prefix isSeparator p.text.toList
    rw [isAbsolute, isAbsolute, trimSeparators_of_hasName h]
    conv_rhs => rw [← htail]
    rw [List.head?_append_of_ne_nil _ hne]
  · rw [trimSeparators_of_not_hasName h]

/-- Separators behind a path are taken off before or after it is joined. -/
theorem trimSeparators_join {p : FilePath} (hp : p.isAbsolute = false)
    (hname : p.HasName) (base : FilePath) :
    (base.join p).trimSeparators = base.join p.trimSeparators := by
  have hjoined : (base.join p).HasName := by
    obtain ⟨a, ha, hsep⟩ := hname
    unfold HasName
    rw [toList_join hp]
    exact ⟨a, List.mem_append_right _ ha, hsep⟩
  have hp' : p.trimSeparators.isAbsolute = false := by rw [isAbsolute_trimSeparators, hp]
  apply eq_of_toList
  rw [trimSeparators_of_hasName hjoined, toList_join hp, toList_join hp', rdropWhile_append hname,
    trimSeparators_of_hasName hname]

/-- Below a path that has something else in it, separators are only separators behind it. -/
theorem trimSeparators_join_of_not_hasName {p base : FilePath} (hp : p.isAbsolute = false)
    (hbare : ¬ p.HasName) (hbase : base.HasName) :
    (base.join p).trimSeparators = base.trimSeparators := by
  have hgap : ∀ c ∈ base.gap, isSeparator c = true := by
    rcases base.gap_cases with ⟨-, hgap⟩ | ⟨-, hgap⟩ | ⟨-, hgap⟩ <;> simp [hgap, isSeparator]
  have htail : ∀ c ∈ base.gap ++ p.text.toList, isSeparator c = true := by
    intro c hc
    rcases List.mem_append.1 hc with hc | hc
    · exact hgap c hc
    · by_contra hplain
      exact hbare ⟨c, hc, by simpa using hplain⟩
  refine (trimSeparators_eq_iff.2 ?_).symm
  rw [SameFront, toList_join hp, List.append_assoc]
  exact sameFront_append hbase htail

theorem trimSeparators_join_current (base : FilePath) :
    (base.join ⟨"."⟩).trimSeparators = base.join ⟨"."⟩ := by
  have hdot : trimSeparators ⟨"."⟩ = ⟨"."⟩ := by decide
  rw [trimSeparators_join (by decide) ⟨'.', by decide, by decide⟩, hdot]

end FilePath

/-! ## Locations -/

namespace Disk

/-- The directory that a path leads to, over any number of links. -/
def LeadsTo (d : Disk) (p : FilePath) (q : Place) : Prop := ∃ n, d.Goes (d.start p.text) p.names n q

/-- Two paths for one location: whatever else comes to be on the disk, they lead to the same
directory. -/
def SameLocation (d : Disk) (p q : FilePath) : Prop :=
  ∀ d', Keeps d d' → d'.workingDirectory = d.workingDirectory →
    ∀ place, d'.LeadsTo p place ↔ d'.LeadsTo q place

theorem SameLocation.refl (d : Disk) (p : FilePath) : d.SameLocation p p := fun _ _ _ _ => Iff.rfl

theorem LeadsTo.unique {d : Disk} {p : FilePath} {q q' : Place} (h : d.LeadsTo p q)
    (h' : d.LeadsTo p q') : q = q' := by
  obtain ⟨m, hgo⟩ := h
  obtain ⟨n, hgo'⟩ := h'
  exact hgo.unique hgo'

theorem LeadsTo.mono {d d' : Disk} (hkeeps : Keeps d d')
    (hworking : d'.workingDirectory = d.workingDirectory) {p : FilePath} {q : Place}
    (h : d.LeadsTo p q) : d'.LeadsTo p q := by
  obtain ⟨n, hgo⟩ := h
  refine ⟨n, ?_⟩
  rw [start, hworking, ← start]
  exact hgo.mono hkeeps

section Relative
variable {d : Disk} {p : FilePath} (hp : p.isAbsolute = false)

include hp

theorem leadsTo_iff {q : Place} :
    d.LeadsTo p q ↔ ∃ n, d.Goes d.workingDirectory p.names n q := by
  have hstart : d.start p.text = d.workingDirectory := if_neg (by
    show ¬ p.isAbsolute = true
    rw [hp]
    exact Bool.false_ne_true)
  rw [LeadsTo, hstart]

theorem leadsTo_join_iff {base : FilePath} {q : Place} :
    d.LeadsTo (base.join p) q ↔ ∃ here, d.LeadsTo base here ∧ ∃ n, d.Goes here p.names n q := by
  rw [LeadsTo, FilePath.names_join_of_relative hp,
    ← start_eq_of_isAbsolute d (FilePath.isAbsolute_join_of_relative hp base)]
  constructor
  · rintro ⟨n, hgo⟩
    obtain ⟨m, k, here, -, hbase, hrest⟩ := hgo.split
    exact ⟨here, ⟨m, hbase⟩, k, hrest⟩
  · rintro ⟨here, ⟨m, hbase⟩, k, hrest⟩
    exact ⟨m + k, hbase.append hrest⟩

/-- Below the working directory a relative path is what it is alone. -/
theorem sameLocation_join {base : FilePath} (h : d.LeadsTo base d.workingDirectory) :
    d.SameLocation p (base.join p) := by
  intro d' hkeeps hworking q
  have hbase := h.mono hkeeps hworking
  rw [leadsTo_iff hp, leadsTo_join_iff hp, hworking]
  constructor
  · exact fun hgo => ⟨_, hbase, hgo⟩
  · rintro ⟨here, hhere, hgo⟩
    rwa [hbase.unique hhere]

end Relative

/-- Where the working directory itself is the same below another one, that is the working
directory. -/
theorem leadsTo_of_sameLocation {d : Disk} {base : FilePath}
    (h : d.SameLocation ⟨"."⟩ (base.join ⟨"."⟩)) : d.LeadsTo base d.workingDirectory := by
  have hdot : FilePath.isAbsolute ⟨"."⟩ = false := by decide
  have hnames : FilePath.names ⟨"."⟩ = ["."] := by decide
  have hhere := (h d ⟨fun _ => id, fun _ _ => id⟩ rfl d.workingDirectory).1
    ((leadsTo_iff hdot).2 ⟨0, by rw [hnames]; exact .dot (.nil _)⟩)
  obtain ⟨here, hbase, n, hgo⟩ := (leadsTo_join_iff hdot).1 hhere
  rw [hnames] at hgo
  have hstays : d.Goes here ["."] 0 here := .dot (.nil here)
  rwa [hgo.unique hstays]

theorem isDirectory_top (d : Disk) : d.isDirectory ⟨"/"⟩ = true := by
  have h : d.Reached ⟨"/"⟩ (d.start "/") := ⟨0, Nat.zero_le _, .nil _⟩
  unfold isDirectory
  rw [status_of_reached (by decide) h]

/-- Names that end in a dot lead to no file. -/
theorem walk_ne_file {d : Disk} {links : Nat} {here : Place} {names : List String}
    (h : names.getLast? = some ".") (place : Place) (content : Content) (time : Time) :
    d.walk true links here names ≠ .ok (.there place (.file content time)) := by
  -- a name that is no dot has others behind it, and the last of them is the last of all
  have hrest : ∀ {name : String} {rest : List String}, name ≠ "." →
      (name :: rest).getLast? = some "." → rest.isEmpty = false ∧ rest.getLast? = some "." := by
    intro name rest hname hlast
    cases rest with
    | nil => exact absurd (Option.some.inj hlast) hname
    | cons x xs => exact ⟨rfl, hlast⟩
  fun_induction walk d true links here names with
  | case1 => cases h
  | case2 links here rest ih =>
    cases rest with
    | nil => simp [walk]
    | cons name rest => exact ih h
  | case3 links here rest hdot ih => exact ih (hrest hdot h).2
  | case5 links here name rest hdot _ _ _ hend => rw [(hrest hdot h).1] at hend; cases hend
  | case7 links here name rest hdot _ _ _ ih => exact ih (hrest hdot h).2
  | case8 links here name rest hdot _ _ _ _ _ hend => rw [(hrest hdot h).1] at hend; cases hend
  | case10 links here name rest hdot _ _ _ _ hend => rw [(hrest hdot h).1] at hend; cases hend
  | case13 here name rest hdot _ _ target _ _ links _ ih =>
    apply ih
    rw [List.getLast?_append_of_ne_nil _ (by
      intro hnil
      rw [hnil] at h
      exact absurd (Option.some.inj h) hdot)]
    exact (hrest hdot h).2
  | _ => simp

theorem isFile_join_current (d : Disk) (base : FilePath) :
    d.isFile (base.join ⟨"."⟩) = false := by
  have hdot : FilePath.isAbsolute ⟨"."⟩ = false := by decide
  have hclosed : endsInSeparator (base.join ⟨"."⟩).text = false := by
    rw [endsInSeparator, FilePath.toList_join hdot, List.getLast?_append_of_ne_nil _ (by decide)]
    decide
  have hsteps : (steps (base.join ⟨"."⟩).text).getLast? = some "." := by
    rw [steps, hclosed, if_neg Bool.false_ne_true, List.append_nil]
    show (base.join ⟨"."⟩).names.getLast? = _
    rw [FilePath.names_join_of_relative hdot]
    exact List.getLast?_concat
  unfold isFile
  split
  · next place content time hstatus =>
    obtain ⟨-, hwalk⟩ := status_ok hstatus
    exact absurd hwalk (walk_ne_file hsteps place content time)
  · rfl

end Disk

namespace Config

/-! ## What is loaded -/

/-- The file sets where the templates lie and what URLs start with, and nothing else. -/
def SetsOnly (d : Disk) (p : FilePath) : Prop :=
  ∃ text source urlPrefix entries, d.readText p = .ok text ∧ Toml.parse text = .ok entries ∧
    entries.Perm [("source", .text source), ("prefix", .text urlPrefix)]

theorem isFile_of_readText {d : Disk} {p : FilePath} {text : String} (h : d.readText p = .ok text) :
    d.isFile p = true := by
  simp only [Disk.readText, bind, Except.bind] at h
  split at h
  · cases h
  next hstatus =>
  unfold Disk.isFile
  rw [hstatus]
  split at h
  · rfl
  · cases h
  · cases h

theorem ofEntries_of_perm {entries : List (String × Toml.Value)} {source urlPrefix : String}
    (h : entries.Perm [("source", .text source), ("prefix", .text urlPrefix)]) :
    ofEntries entries = .ok (ofSource ⟨source⟩ urlPrefix) := by
  have hsorted := List.perm_pair.1
    ((List.mergeSort_perm entries fun a b => decide (a.1 ≤ b.1)).trans h)
  rw [ofEntries, sorted]
  rcases hsorted with hsorted | hsorted <;>
    simp [hsorted, readField, pathOf, textOf, Draft.finish, ofSource, Except.map, bind, Except.bind,
      pure, Except.pure]

theorem SetsOnly.exists_ofFile {d : Disk} {p : FilePath} (h : SetsOnly d p) :
    ∃ source urlPrefix, ofFile d p = .ok (ofSource source urlPrefix) := by
  obtain ⟨text, source, urlPrefix, entries, hread, hparse, hentries⟩ := h
  have hfields := ofEntries_of_perm hentries
  have htext : ofText text = .ok (ofSource ⟨source⟩ urlPrefix) := by
    unfold ofText
    rw [hparse]
    exact hfields
  exact ⟨⟨source⟩, urlPrefix, by rw [ofFile, hread]; simp only [htext]⟩

theorem orReport_eq_ok_iff {α : Type} {x : Except BundleError α} {a : α} :
    orReport x = .ok a ↔ x = .ok a := by
  cases x with
  | error e => exact ⟨nofun, nofun⟩
  | ok b =>
    rw [orReport, Except.ok.injEq, Except.ok.injEq]

section Load
variable {d : Disk} {directory : FilePath} {o : Overrides} {c : Config}

/-- Without a file the overrides are all there is, and their paths lie below the directory. -/
theorem load_iff_of_no_file (h : d.isFile (directory.join ⟨Conventions.configFile⟩) = false) :
    load d none directory o = .ok c ↔ ∃ source urlPrefix, o.source = some source ∧
      o.urlPrefix = some urlPrefix ∧
      normalize d (((ofSource source urlPrefix).withOverrides o).relativeTo directory) = .ok c := by
  simp only [load, assemble, locate, h, bind, Except.bind, Bool.false_eq_true, if_false,
    ofOverrides]
  cases hsource : o.source with
  | none => exact ⟨nofun, nofun⟩
  | some source =>
    cases hprefix : o.urlPrefix with
    | none => exact ⟨nofun, nofun⟩
    | some urlPrefix =>
      refine orReport_eq_ok_iff.trans ⟨fun hnormal => ⟨_, _, rfl, rfl, hnormal⟩, ?_⟩
      rintro ⟨_, _, ⟨⟩, ⟨⟩, hnormal⟩
      exact hnormal

/-- With a file the overrides that are given take the place of what it sets, as they are. -/
theorem load_iff_of_setsOnly (h : SetsOnly d (directory.join ⟨Conventions.configFile⟩))
    {source : FilePath} {urlPrefix : String} (hsource : o.source = some source)
    (hurl : o.urlPrefix = some urlPrefix) : load d none directory o = .ok c ↔
      normalize d ((ofSource source urlPrefix).withOverrides o) = .ok c := by
  obtain ⟨source', urlPrefix', hfile⟩ := h.exists_ofFile
  obtain ⟨text, -, -, -, hread, -⟩ := h
  have hsame : ∀ base, ((ofSource source' urlPrefix').relativeTo base).withOverrides o =
      (ofSource source urlPrefix).withOverrides o := by
    intro base
    simp [withOverrides, relativeTo, ofSource, hsource, hurl]
  simp only [load, assemble, locate, isFile_of_readText hread, hfile, hsame, bind, Except.bind,
    if_true]
  exact orReport_eq_ok_iff

end Load

/-! ## With a file and without one -/

/-- The same but for how paths are written. -/
structure Agree (d : Disk) (c c' : Config) : Prop where
  source : d.SameLocation c.source c'.source
  publicDirectory : Option.Rel d.SameLocation c.publicDirectory c'.publicDirectory
  rest : c' = { c with source := c'.source, publicDirectory := c'.publicDirectory }

/-- Loaded where a file is there, and where none is. -/
structure LoadsBoth (d d' : Disk) (directory : FilePath) (o : Overrides) (c c' : Config) :
    Prop where
  file : load d none directory o = .ok c
  no_file : load d' none directory o = .ok c'

/-- A path that starts at the top or has something else in it than separators. -/
def IsNamed (p : FilePath) : Prop := p.isAbsolute = true ∨ p.HasName

/-- What overrides come to on a disk with a file that sets nothing else, and on one without. -/
structure Compared (d d' : Disk) (directory : FilePath) : Prop where
  /-- Only the paths differ: those without a file are taken below the directory. -/
  paths : ∀ {o c c'}, LoadsBoth d d' directory o c c' → ∃ source, o.source = some source ∧
    c.source = source.trimSeparators ∧
    c.publicDirectory = o.publicDirectory.map FilePath.trimSeparators ∧
    c' = { c with
      source := (directory.join source).trimSeparators
      publicDirectory := o.publicDirectory.map fun p => (directory.join p).trimSeparators }
  /-- A relative path of separators is left as it is with a file, and taken off without one. -/
  bare : ∀ p, ¬ IsNamed p → p.trimSeparators = p ∧
    (directory.HasName → (directory.join p).trimSeparators = directory.trimSeparators)
  /-- They are for the same locations just where the directory is the one that is worked in. -/
  agree_iff : ∀ e : Disk, (∀ o c c', (∀ p, o.source = some p → IsNamed p) →
      (∀ p, o.publicDirectory = some p → IsNamed p) → LoadsBoth d d' directory o c c' →
      Agree e c c') ↔ e.LeadsTo directory e.workingDirectory

/-- A path that is named is for the same location, whether it is joined or not. -/
theorem sameLocation_of_named {d : Disk} {directory p : FilePath} (hp : IsNamed p)
    (h : d.LeadsTo directory d.workingDirectory) :
    d.SameLocation p.trimSeparators (directory.join p).trimSeparators := by
  cases habsolute : p.isAbsolute with
  | true =>
    rw [FilePath.join_absolute _ _ habsolute]
    exact .refl d _
  | false =>
    have hplain := hp.resolve_left (by rw [habsolute]; exact Bool.false_ne_true)
    rw [FilePath.trimSeparators_join habsolute hplain]
    exact Disk.sameLocation_join (by rw [FilePath.isAbsolute_trimSeparators, habsolute]) h

/-- Overrides that set the paths, and a prefix. -/
def pathOverrides (source : FilePath) (publicDirectory : Option FilePath) : Overrides :=
  ⟨some source, publicDirectory, some "x", none, none⟩

/-- What is loaded for such overrides, the paths apart. -/
def pathConfig (source : FilePath) (publicDirectory : Option FilePath) : Config :=
  { ofSource source "/x" with publicDirectory }

theorem normalize_paths {d : Disk} {source : FilePath} {publicDirectory : Option FilePath}
    (hsource : d.isDirectory source.trimSeparators = true)
    (hpublic : ∀ p, publicDirectory = some p → d.isFile p.trimSeparators = false) :
    normalize d { ofSource source "x" with publicDirectory } =
      .ok (pathConfig source.trimSeparators (publicDirectory.map FilePath.trimSeparators)) := by
  have hprefix : normalPrefix "x" = .ok "/x" := by decide
  have hglobal : checkGlobal Conventions.globalName = .ok () := by decide
  have hextension : checkExtension Conventions.templateExtension = .ok () := by decide
  refine normalize_eq_ok_iff.2 ⟨"/x", hprefix, hglobal, hextension, if_pos hsource, ?_, rfl⟩
  cases publicDirectory with
  | none => rfl
  | some p => simp [checkPublic, hpublic p rfl]

section Both
variable {d d' : Disk} {directory : FilePath}
  (hfile : SetsOnly d (directory.join ⟨Conventions.configFile⟩))
  (hnone : d'.isFile (directory.join ⟨Conventions.configFile⟩) = false)

include hfile hnone

theorem loadsBoth_paths {source : FilePath} {publicDirectory : Option FilePath}
    (hsource : d.isDirectory source.trimSeparators = true)
    (hsource' : d'.isDirectory (directory.join source).trimSeparators = true)
    (hpublic : ∀ p, publicDirectory = some p → d.isFile p.trimSeparators = false ∧
      d'.isFile (directory.join p).trimSeparators = false) :
    LoadsBoth d d' directory (pathOverrides source publicDirectory)
      (pathConfig source.trimSeparators (publicDirectory.map FilePath.trimSeparators))
      (pathConfig (directory.join source).trimSeparators
        (publicDirectory.map fun p => (directory.join p).trimSeparators)) := by
  have hjoined : ∀ p, publicDirectory.map directory.join = some p →
      d'.isFile p.trimSeparators = false := by
    intro p hp
    obtain ⟨q, hq, rfl⟩ := Option.map_eq_some_iff.1 hp
    exact (hpublic q hq).2
  have hnormal' := normalize_paths hsource' hjoined
  rw [Option.map_map] at hnormal'
  have hnormal := normalize_paths hsource fun p hp => (hpublic p hp).1
  cases publicDirectory with
  | none => exact ⟨(load_iff_of_setsOnly hfile rfl rfl).2 hnormal,
      (load_iff_of_no_file hnone).2 ⟨source, "x", rfl, rfl, hnormal'⟩⟩
  | some p => exact ⟨(load_iff_of_setsOnly hfile rfl rfl).2 hnormal,
      (load_iff_of_no_file hnone).2 ⟨source, "x", rfl, rfl, hnormal'⟩⟩

theorem paths_of_loadsBoth {o : Overrides} {c c' : Config} (h : LoadsBoth d d' directory o c c') :
    ∃ source, o.source = some source ∧ c.source = source.trimSeparators ∧
      c.publicDirectory = o.publicDirectory.map FilePath.trimSeparators ∧
      c' = { c with
        source := (directory.join source).trimSeparators
        publicDirectory := o.publicDirectory.map fun p => (directory.join p).trimSeparators } := by
  obtain ⟨source, urlPrefix, hsource, hprefix, hnormal'⟩ := (load_iff_of_no_file hnone).1 h.no_file
  have hnormal := (load_iff_of_setsOnly hfile hsource hprefix).1 h.file
  obtain ⟨q, hq, -, -, -, -, rfl⟩ := normalize_eq_ok_iff.1 hnormal
  obtain ⟨q', hq', -, -, -, -, rfl⟩ := normalize_eq_ok_iff.1 hnormal'
  obtain rfl : q = q' := Except.ok.inj (hq.symm.trans hq')
  refine ⟨source, hsource, ?_, ?_, ?_⟩ <;>
    simp [withOverrides, relativeTo, ofSource, hsource, Function.comp_def]

/-- The top for the source and the directory that is worked in for the public one are accepted on
every disk and below every directory. -/
theorem exists_loadsBoth :
    ∃ c c', LoadsBoth d d' directory (pathOverrides ⟨"/"⟩ (some ⟨"."⟩)) c c' := by
  have htop : (directory.join ⟨"/"⟩).trimSeparators = ⟨"/"⟩ := by
    rw [FilePath.join_absolute _ _ (by decide)]
    decide
  have hpublic : ∀ p, some (FilePath.mk ".") = some p → d.isFile p.trimSeparators = false ∧
      d'.isFile (directory.join p).trimSeparators = false := by
    rintro _ ⟨⟩
    rw [FilePath.trimSeparators_join_current]
    exact ⟨d.isFile_join_current ⟨""⟩, d'.isFile_join_current directory⟩
  exact ⟨_, _, loadsBoth_paths hfile hnone d.isDirectory_top
    (htop.symm ▸ d'.isDirectory_top) hpublic⟩

/-- **Overrides mean the same where the directory is the one that is worked in.** -/
theorem compared_of_setsOnly : Compared d d' directory where
  paths h := paths_of_loadsBoth hfile hnone h
  bare p hp := by
    obtain ⟨hrelative, hbare⟩ := not_or.1 hp
    exact ⟨FilePath.trimSeparators_of_not_hasName hbare, fun hdirectory =>
      FilePath.trimSeparators_join_of_not_hasName (by simpa using hrelative) hbare hdirectory⟩
  agree_iff e := by
    constructor
    · intro hagree
      obtain ⟨c, c', h⟩ := exists_loadsBoth hfile hnone
      have hsource : ∀ p, some (FilePath.mk "/") = some p → IsNamed p := by
        rintro _ ⟨⟩
        exact Or.inl (by decide)
      have hpublic : ∀ p, some (FilePath.mk ".") = some p → IsNamed p := by
        rintro _ ⟨⟩
        exact Or.inr ⟨'.', by decide, by decide⟩
      have hrel := (hagree _ c c' hsource hpublic h).publicDirectory
      obtain ⟨_, -, -, hc, rfl⟩ := paths_of_loadsBoth hfile hnone h
      rw [hc] at hrel
      cases hrel with
      | some hsame =>
        replace hsame : e.SameLocation ⟨"."⟩ (directory.join ⟨"."⟩).trimSeparators := hsame
        rw [FilePath.trimSeparators_join_current] at hsame
        exact Disk.leadsTo_of_sameLocation hsame
    · intro hleads o c c' hsource hpublic h
      obtain ⟨source, ho, hc, hcpublic, rfl⟩ := paths_of_loadsBoth hfile hnone h
      refine ⟨?_, ?_, rfl⟩
      · rw [hc]
        exact sameLocation_of_named (hsource source ho) hleads
      · rw [hcpublic]
        cases hdirectory : o.publicDirectory with
        | none => exact .none
        | some p => exact .some (sameLocation_of_named (hpublic p hdirectory) hleads)

end Both

end Config

/-! ## A directory in another one -/

namespace Disk

/-- A configuration file that sets the source and the prefix. -/
def shortFile : String := "prefix = \"/b\"\nsource = \"a\"\n"

/-- Templates where the work is done and in a directory there, each with such a file or without. -/
def nestedSite (hasFile : Bool) : Disk where
  nodes := [(["views"], .directory), (["app"], .directory), (["app", "views"], .directory)] ++
    if hasFile then
      [(["tmplpack.toml"], .file (.text shortFile) 5),
        (["app", "tmplpack.toml"], .file (.text shortFile) 5)]
    else []
  workingDirectory := []
  clock := 100

theorem status_file_nestedSite :
    (nestedSite true).status ⟨"./tmplpack.toml"⟩ =
      .ok (["tmplpack.toml"], .file (.text shortFile) 5) ∧
    (nestedSite true).status ⟨"app/tmplpack.toml"⟩ =
      .ok (["app", "tmplpack.toml"], .file (.text shortFile) 5) ∧
    (nestedSite false).status ⟨"./tmplpack.toml"⟩ = .error .missing ∧
    (nestedSite false).status ⟨"app/tmplpack.toml"⟩ = .error .missing := by
  have hhere : Spelled "./tmplpack.toml" [".", "tmplpack.toml"] :=
    ⟨by decide, by decide, by decide, by decide⟩
  have hbelow : Spelled "app/tmplpack.toml" ["app", "tmplpack.toml"] :=
    ⟨by decide, by decide, by decide, by decide⟩
  have hworking : ∀ hasFile, (nestedSite hasFile).workingDirectory = [] := fun _ => rfl
  have h1 : (nestedSite true).walk true linkLimit [] [".", "tmplpack.toml"] =
      .ok (.there ["tmplpack.toml"] (.file (.text shortFile) 5)) := by cbv
  have h2 : (nestedSite true).walk true linkLimit [] ["app", "tmplpack.toml"] =
      .ok (.there ["app", "tmplpack.toml"] (.file (.text shortFile) 5)) := by cbv
  have h3 : (nestedSite false).walk true linkLimit [] [".", "tmplpack.toml"] =
      .ok (.absent [] "tmplpack.toml") := by cbv
  have h4 : (nestedSite false).walk true linkLimit [] ["app", "tmplpack.toml"] =
      .ok (.absent ["app"] "tmplpack.toml") := by cbv
  rw [hhere.status_eq, hbelow.status_eq, hhere.status_eq, hbelow.status_eq, hworking, hworking, h1,
    h2, h3, h4]
  exact ⟨rfl, rfl, rfl, rfl⟩

theorem status_nestedSite (hasFile : Bool) :
    (nestedSite hasFile).status ⟨"views"⟩ = .ok (["views"], .directory) ∧
    (nestedSite hasFile).status ⟨"./views"⟩ = .ok (["views"], .directory) ∧
    (nestedSite hasFile).status ⟨"app/views"⟩ = .ok (["app", "views"], .directory) ∧
    (nestedSite hasFile).status ⟨"\\"⟩ = .error .missing := by
  have hviews : Spelled "./views" [".", "views"] :=
    ⟨by decide, by decide, by decide, by decide⟩
  have hbelow : Spelled "app/views" ["app", "views"] :=
    ⟨by decide, by decide, by decide, by decide⟩
  have hseparator : Spelled "\\" ["\\"] :=
    ⟨by decide, by decide, by decide, by decide⟩
  have hworking : (nestedSite hasFile).workingDirectory = [] := rfl
  have h1 : (nestedSite hasFile).walk true linkLimit [] ["views"] =
      .ok (.there ["views"] .directory) := by cases hasFile <;> cbv
  have h2 : (nestedSite hasFile).walk true linkLimit [] [".", "views"] =
      .ok (.there ["views"] .directory) := by cases hasFile <;> cbv
  have h3 : (nestedSite hasFile).walk true linkLimit [] ["app", "views"] =
      .ok (.there ["app", "views"] .directory) := by cases hasFile <;> cbv
  have h4 : (nestedSite hasFile).walk true linkLimit [] ["\\"] =
      .ok (.absent [] "\\") := by cases hasFile <;> cbv
  rw [spelled_views.status_eq, hviews.status_eq, hbelow.status_eq, hseparator.status_eq, hworking,
    h1, h2, h3, h4]
  exact ⟨rfl, rfl, rfl, rfl⟩

end Disk

namespace Config

theorem textOf_eq_ok_iff {expected s : String} {v : Toml.Value} :
    textOf expected v = .ok s ↔ v = .text s := by
  cases v <;> simp [textOf]

theorem parse_shortFile :
    Toml.parse Disk.shortFile = .ok [("prefix", .text "/b"), ("source", .text "a")] := by
  -- values hold floating-point numbers and cannot be compared, their texts can
  have h : (Toml.parse Disk.shortFile).toOption.map
      (List.map fun entry => (entry.1, (textOf "" entry.2).toOption)) =
        some [("prefix", some "/b"), ("source", some "a")] := by decide +kernel
  have hentry : ∀ {entry : String × Toml.Value} {k s : String},
      (entry.1, (textOf "" entry.2).toOption) = (k, some s) → entry = (k, .text s) := by
    rintro ⟨k, v⟩ l s hl
    simp only [Prod.mk.injEq] at hl
    obtain ⟨rfl, hl⟩ := hl
    have htext : textOf "" v = .ok s := by
      cases hv : textOf "" v with
      | error e => rw [hv] at hl; cases hl
      | ok t => rw [hv] at hl; exact congrArg Except.ok (Option.some.inj hl)
    rw [textOf_eq_ok_iff.1 htext]
  cases hparse : Toml.parse Disk.shortFile with
  | error e => rw [hparse] at h; cases h
  | ok entries =>
    rw [hparse, Except.toOption, Option.map_some, Option.some.injEq] at h
    obtain ⟨first, rest, rfl, hfirst, hrest⟩ := List.map_eq_cons_iff.1 h
    obtain ⟨second, rest, rfl, hsecond, hnil⟩ := List.map_eq_cons_iff.1 hrest
    rw [hentry hfirst, hentry hsecond, List.map_eq_nil_iff.1 hnil]

theorem joins_nestedSite :
    FilePath.join ⟨"."⟩ ⟨Conventions.configFile⟩ = ⟨"./tmplpack.toml"⟩ ∧
      FilePath.join ⟨"app"⟩ ⟨Conventions.configFile⟩ = ⟨"app/tmplpack.toml"⟩ ∧
      (FilePath.join ⟨"."⟩ ⟨"views/"⟩).trimSeparators = ⟨"./views"⟩ ∧
      (FilePath.join ⟨"app"⟩ ⟨"views/"⟩).trimSeparators = ⟨"app/views"⟩ ∧
      FilePath.trimSeparators ⟨"views/"⟩ = ⟨"views"⟩ := by decide

theorem setsOnly_nestedSite :
    SetsOnly (Disk.nestedSite true) (FilePath.join ⟨"."⟩ ⟨Conventions.configFile⟩) ∧
      SetsOnly (Disk.nestedSite true) (FilePath.join ⟨"app"⟩ ⟨Conventions.configFile⟩) := by
  obtain ⟨hhere, hbelow, -, -⟩ := Disk.status_file_nestedSite
  obtain ⟨hjoin, hjoin', -⟩ := joins_nestedSite
  have hswap : [("prefix", Toml.Value.text "/b"), ("source", .text "a")].Perm
      [("source", .text "a"), ("prefix", .text "/b")] := .swap _ _ _
  rw [hjoin, hjoin']
  exact ⟨⟨Disk.shortFile, "a", "/b", _, by rw [Disk.readText, hhere]; rfl, parse_shortFile,
    hswap⟩, ⟨Disk.shortFile, "a", "/b", _, by rw [Disk.readText, hbelow]; rfl, parse_shortFile,
    hswap⟩⟩

theorem isFile_nestedSite :
    (Disk.nestedSite false).isFile (FilePath.join ⟨"."⟩ ⟨Conventions.configFile⟩) = false ∧
      (Disk.nestedSite false).isFile (FilePath.join ⟨"app"⟩ ⟨Conventions.configFile⟩) = false := by
  obtain ⟨-, -, hhere, hbelow⟩ := Disk.status_file_nestedSite
  obtain ⟨hjoin, hjoin', -⟩ := joins_nestedSite
  rw [hjoin, hjoin', Disk.isFile, Disk.isFile, hhere, hbelow]
  exact ⟨rfl, rfl⟩

/-- What is loaded in the directory that is worked in. -/
theorem loadsBoth_nestedSite {publicDirectory : Option FilePath}
    (h : ∀ p, publicDirectory = some p →
      (Disk.nestedSite true).isFile p.trimSeparators = false ∧
        (Disk.nestedSite false).isFile (FilePath.join ⟨"."⟩ p).trimSeparators = false) :
    LoadsBoth (Disk.nestedSite true) (Disk.nestedSite false) ⟨"."⟩
      (pathOverrides ⟨"views/"⟩ publicDirectory)
      (pathConfig ⟨"views"⟩ (publicDirectory.map FilePath.trimSeparators))
      (pathConfig ⟨"./views"⟩
        (publicDirectory.map fun p => (FilePath.join ⟨"."⟩ p).trimSeparators)) := by
  obtain ⟨-, -, hjoin, -, htrim⟩ := joins_nestedSite
  obtain ⟨hviews, -⟩ := Disk.status_nestedSite true
  obtain ⟨-, hviews', -⟩ := Disk.status_nestedSite false
  have hloads := loadsBoth_paths setsOnly_nestedSite.1 isFile_nestedSite.1
    (htrim.symm ▸ Service.isDirectory_of_status hviews)
    (hjoin.symm ▸ Service.isDirectory_of_status hviews') h
  rwa [htrim, hjoin] at hloads

/-- Below the directory that is worked in, an override means the same. -/
theorem compared_nestedSite :
    let d := Disk.nestedSite true
    let d' := Disk.nestedSite false
    let c := pathConfig ⟨"views"⟩ (some ⟨"."⟩)
    let c' := pathConfig ⟨"./views"⟩ (some ⟨"./."⟩)
    SetsOnly d (FilePath.join ⟨"."⟩ ⟨Conventions.configFile⟩) ∧
      d'.isFile (FilePath.join ⟨"."⟩ ⟨Conventions.configFile⟩) = false ∧
      LoadsBoth d d' ⟨"."⟩ (pathOverrides ⟨"views/"⟩ (some ⟨"."⟩)) c c' ∧ Agree d c c' := by
  intro d d' c c'
  have hfile := setsOnly_nestedSite.1
  have hnone := isFile_nestedSite.1
  have hloads : LoadsBoth d d' ⟨"."⟩ (pathOverrides ⟨"views/"⟩ (some ⟨"."⟩)) c c' := by
    refine loadsBoth_nestedSite fun p hp => ?_
    obtain rfl : ⟨"."⟩ = p := Option.some.inj hp
    rw [FilePath.trimSeparators_join_current]
    exact ⟨d.isFile_join_current ⟨""⟩, d'.isFile_join_current ⟨"."⟩⟩
  have hleads : d.LeadsTo ⟨"."⟩ d.workingDirectory := ⟨0, .dot (.nil [])⟩
  refine ⟨hfile, hnone, hloads, ((compared_of_setsOnly hfile hnone).agree_iff d).2 hleads _ c c' ?_
    ?_ hloads⟩
  · rintro _ ⟨⟩
    exact Or.inr ⟨'v', by decide, by decide⟩
  · rintro _ ⟨⟩
    exact Or.inr ⟨'.', by decide, by decide⟩

/-- Elsewhere an override means something else with a file than without one, and one that is made of
separators does so everywhere. -/
theorem exists_loadsBoth_apart :
    let d := Disk.nestedSite true
    let d' := Disk.nestedSite false
    (SetsOnly d (FilePath.join ⟨"app"⟩ ⟨Conventions.configFile⟩) ∧
      d'.isFile (FilePath.join ⟨"app"⟩ ⟨Conventions.configFile⟩) = false ∧
      ∃ c c', LoadsBoth d d' ⟨"app"⟩ (pathOverrides ⟨"views/"⟩ none) c c' ∧
        d.LeadsTo c.source ["views"] ∧ d.LeadsTo c'.source ["app", "views"] ∧ ¬ Agree d c c') ∧
    (SetsOnly d (FilePath.join ⟨"."⟩ ⟨Conventions.configFile⟩) ∧
      d'.isFile (FilePath.join ⟨"."⟩ ⟨Conventions.configFile⟩) = false ∧
      d.LeadsTo ⟨"."⟩ d.workingDirectory ∧
      ∃ c c', LoadsBoth d d' ⟨"."⟩ (pathOverrides ⟨"views/"⟩ (some ⟨"\\"⟩)) c c' ∧
        ¬ Agree d c c') := by
  intro d d'
  obtain ⟨hfile, hfile'⟩ := setsOnly_nestedSite
  obtain ⟨hnone, hnone'⟩ := isFile_nestedSite
  obtain ⟨-, -, -, hjoin, htrim⟩ := joins_nestedSite
  have hentry : Disk.IsEntry "views" := ⟨by decide, by decide, by decide⟩
  have hleads : d.LeadsTo ⟨"."⟩ d.workingDirectory := ⟨0, .dot (.nil [])⟩
  refine ⟨⟨hfile', hnone', ?_⟩, hfile, hnone, hleads, ?_⟩
  · obtain ⟨hviews, -⟩ := Disk.status_nestedSite true
    obtain ⟨-, -, hviews', -⟩ := Disk.status_nestedSite false
    have hloads : LoadsBoth d d' ⟨"app"⟩ (pathOverrides ⟨"views/"⟩ none) _ _ :=
      loadsBoth_paths hfile' hnone' (htrim.symm ▸ Service.isDirectory_of_status hviews)
        (hjoin.symm ▸ Service.isDirectory_of_status hviews') nofun
    have hout : d.LeadsTo ⟨"views"⟩ ["views"] := ⟨0, .enter hentry rfl (.nil _)⟩
    have hin : d.LeadsTo ⟨"app/views"⟩ ["app", "views"] :=
      ⟨0, .enter ⟨by decide, by decide, by decide⟩ rfl (.enter hentry rfl (.nil _))⟩
    rw [htrim, hjoin] at hloads
    refine ⟨_, _, hloads, hout, hin, fun hagree => ?_⟩
    have hsame := (hagree.source d ⟨fun _ => id, fun _ _ => id⟩ rfl ["views"]).1 hout
    exact absurd (hsame.unique hin) (by decide)
  · obtain ⟨-, -, -, hmissing⟩ := Disk.status_nestedSite true
    have hkept : FilePath.trimSeparators ⟨"\\"⟩ = ⟨"\\"⟩ := by decide
    have hlost : (FilePath.join ⟨"."⟩ ⟨"\\"⟩).trimSeparators = ⟨"."⟩ := by decide
    have hpublic : ∀ p, some (FilePath.mk "\\") = some p → d.isFile p.trimSeparators = false ∧
        d'.isFile (FilePath.join ⟨"."⟩ p).trimSeparators = false := by
      intro p hp
      obtain rfl : ⟨"\\"⟩ = p := Option.some.inj hp
      rw [hkept, hlost, Disk.isFile, hmissing]
      exact ⟨rfl, d'.isFile_join_current ⟨""⟩⟩
    have hloads := loadsBoth_nestedSite hpublic
    rw [Option.map_some, Option.map_some, hkept, hlost] at hloads
    refine ⟨_, _, hloads, fun hagree => ?_⟩
    have hrel : Option.Rel d.SameLocation (some ⟨"\\"⟩) (some ⟨"."⟩) := hagree.publicDirectory
    cases hrel with
    | some hsame =>
      obtain ⟨n, hgo⟩ := (hsame d ⟨fun _ => id, fun _ _ => id⟩ rfl d.workingDirectory).2 hleads
      have hnames : FilePath.names ⟨"\\"⟩ = ["\\"] := by decide
      have hnothing : d.find? ["\\"] = none := by decide
      rw [hnames] at hgo
      rcases hgo.entry_cases (by decide) (by decide) with ⟨-, hfind, -⟩ | ⟨target, -, hfind, -⟩
      · cases hnothing.symm.trans hfind
      · cases hnothing.symm.trans hfind

end Config

end TemplateBundler
