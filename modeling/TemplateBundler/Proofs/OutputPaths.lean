import TemplateBundler.Proofs.Shelves

/-!
# Where artifacts can be stored

Prefix and key path come from URLs and from names of blocks, so any text may stand in them. A gate
that stores names a file only where each of them stands for itself in every directory, and then the
file lies below the public directory by those names:

    g.storedPath directory k = .ok path →
      path.components = directory.components ++ (artifactNames (g.leading ++ k.segments)).map .name
                                                                        (components_of_storedPath)

Read as components, a path tells these names, so two key paths never share a file
(`outputPath_contained`).
-/

namespace TemplateBundler

namespace FilePath

/-- What a path is made of, seen from one directory to the next. -/
inductive Component where
  /-- The top of the file system, which an absolute path starts from. -/
  | root
  /-- The working directory, where a relative path names it first. -/
  | here
  | up
  | name (s : String)
deriving DecidableEq, Repr

/-- Where a path starts from, as far as it says. -/
def startOf (p : FilePath) : List Component :=
  if p.isAbsolute then [.root] else if p.names.head? = some "." then [.here] else []

def componentOf (name : String) : Component := if name = ".." then .up else .name name

/-- The components of a path: separators at its end or one behind the other add nothing, and neither
does a dot behind its start. -/
def components (p : FilePath) : List Component :=
  p.startOf ++ (p.names.filter (· ≠ ".")).map componentOf

theorem componentOf_of_ne {name : String} (h : name ≠ "..") : componentOf name = .name name := by
  unfold componentOf
  rw [if_neg h]

theorem Below.startOf_eq {p path : FilePath} {tail : List String} (h : p.Below path tail) :
    path.startOf = p.startOf := by
  unfold startOf
  rw [h.isAbsolute_eq, h.names_eq]
  cases hnames : p.names with
  | nil =>
    obtain ⟨x, xs, hx⟩ := List.exists_cons_of_ne_nil h.ne_nil
    have hplain := (h.plain x (by rw [hx]; exact List.mem_cons_self)).1
    rw [hx]
    simp [hplain]
  | cons x xs => rfl

/-- A path below another one has its components first. -/
theorem Below.components_eq {p path : FilePath} {tail : List String} (h : p.Below path tail) :
    path.components = p.components ++ tail.map .name := by
  have hfilter : tail.filter (· ≠ ".") = tail := by
    apply List.filter_eq_self.2
    intro x hx
    simpa using (h.plain x hx).1
  have hmap : tail.map componentOf = tail.map .name :=
    List.map_congr_left fun x hx => componentOf_of_ne (h.plain x hx).2
  unfold components
  rw [h.startOf_eq, h.names_eq, List.filter_append, List.map_append, hfilter, hmap,
    List.append_assoc]

example : components ⟨"./public//a/./b.js/"⟩ =
    [.here, .name "public", .name "a", .name "b.js"] := by decide

end FilePath

namespace Gate

theorem components_of_storedPath {g : Gate} {directory path : FilePath} {k : KeyPath}
    (h : g.storedPath directory k = .ok path) :
    path.components = directory.components ++
      (artifactNames (g.leading ++ k.segments)).map .name :=
  (storedPath_ok h).components_eq

theorem isSafeName_artifactName {last : String} (h : isSafeName last = true) :
    isSafeName (last ++ Conventions.artifactSuffix) = true := by
  obtain ⟨-, -, -, hchars⟩ := isSafeName_iff.1 h
  have hsep : '/' ∉ last.toList := fun hmem => (hchars _ hmem).1 rfl
  obtain ⟨hne, -, hdot, hdotdot⟩ := plain_artifactName hsep
  refine isSafeName_iff.2 ⟨hne, hdot, hdotdot, fun c hc => ?_⟩
  rw [String.toList_append] at hc
  rcases List.mem_append.1 hc with hc | hc
  · exact hchars c hc
  · have hsuffix : (Conventions.artifactSuffix.toList.all fun c =>
        c != '/' && c != '\\' && c.toNat != 0) = true := by decide
    simpa [and_assoc] using List.all_eq_true.1 hsuffix c hc

theorem outputPath_persist {g : Gate} {directory : FilePath} (hg : g.delivery = .persist directory)
    {k : KeyPath} {path : FilePath} :
    g.outputPath k = .ok (some path) ↔ g.storedPath directory k = .ok path := by
  unfold outputPath
  rw [hg]
  show (g.storedPath directory k).map some = _ ↔ _
  cases g.storedPath directory k with
  | error e => simp [Except.map]
  | ok p => simp [Except.map]

/-- A path of an artifact goes on from the public directory by directories and the name of a
file. -/
theorem exists_below {g : Gate} {directory path : FilePath} {k : KeyPath}
    (h : g.storedPath directory k = .ok path) :
    ∃ dirs last, g.leading ++ k.segments = dirs ++ [last] ∧
      directory.Below path (dirs ++ [last ++ Conventions.artifactSuffix]) := by
  have hbelow := storedPath_ok h
  obtain hnil | ⟨dirs, last, hnames⟩ := List.eq_nil_or_concat' (g.leading ++ k.segments)
  · exact absurd (by rw [hnil]; rfl) hbelow.ne_nil
  · rw [hnames, artifactNames, List.getLast?_concat] at hbelow
    simp only [List.dropLast_concat] at hbelow
    exact ⟨dirs, last, hnames, hbelow⟩

/-- **Artifacts lie below the public directory, each at a place of its own.** The path of a key path
goes on from the public directory by the names of the prefix and of the key path, with a suffix on
the last, and none of them is one that a directory takes in another way; a second key path of the
same components is the same. -/
theorem outputPath_contained {g : Gate} {directory : FilePath} {urlPrefix : String}
    (hg : g.delivery = .persist directory) (hleading : g.leading = Text.cutNonempty '/' urlPrefix)
    {k : KeyPath} {path : FilePath} (h : g.outputPath k = .ok (some path)) :
    (∃ dirs last, Text.cutNonempty '/' urlPrefix ++ k.segments = dirs ++ [last] ∧
      path.components = directory.components ++ (dirs ++ [last ++ ".js"]).map .name ∧
      ∀ x ∈ dirs ++ [last ++ ".js"], x ≠ "" ∧ x ≠ "." ∧ x ≠ ".." ∧
        ∀ c ∈ x.toList, c ≠ '/' ∧ c ≠ '\\' ∧ c.toNat ≠ 0) ∧
    ∀ k' path', g.outputPath k' = .ok (some path') → path'.components = path.components →
      k' = k := by
  have hstored := (outputPath_persist hg).1 h
  have hsafe := safe_of_storedPath hstored
  constructor
  · obtain ⟨dirs, last, hnames, hbelow⟩ := exists_below hstored
    have hsuffix : Conventions.artifactSuffix = ".js" := by decide
    rw [hsuffix] at hbelow
    rw [hnames] at hsafe
    refine ⟨dirs, last, by rw [← hleading, hnames], hbelow.components_eq, fun x hx => ?_⟩
    rw [← isSafeName_iff]
    rcases List.mem_append.1 hx with hx | hx
    · exact hsafe x (List.mem_append_left _ hx)
    · rw [List.mem_singleton.1 hx, ← hsuffix]
      exact isSafeName_artifactName (hsafe last (by simp))
  · intro k' path' h' heq
    have hcomponents := components_of_storedPath ((outputPath_persist hg).1 h')
    rw [heq, components_of_storedPath hstored] at hcomponents
    have hmap := List.append_cancel_left hcomponents
    have hnames := List.map_injective_iff.2 (fun _ _ => FilePath.Component.name.inj) hmap
    have hsegments := List.append_cancel_left (artifactNames_inj hnames)
    cases k
    cases k'
    exact congrArg KeyPath.mk hsegments.symm

theorem outputPath_contained_static :
    let g := ofSettings (.persist ⟨"./public/"⟩) "/static//tmpl" "Templates" false
    g.delivery = .persist ⟨"./public/"⟩ ∧ g.leading = Text.cutNonempty '/' "/static//tmpl" ∧
      g.outputPath ⟨["say \"hi\"", "..."]⟩ =
        .ok (some ⟨"./public/static/tmpl/say \"hi\"/....js"⟩) ∧
      ∀ k' path', g.outputPath k' = .ok (some path') →
        path'.components = FilePath.components ⟨"./public/static/tmpl/say \"hi\"/....js"⟩ →
        k' = ⟨["say \"hi\"", "..."]⟩ :=
  ⟨rfl, rfl, by decide,
    (outputPath_contained rfl (rfl : Gate.leading _ = Text.cutNonempty '/' "/static//tmpl")
      (by decide)).2⟩

end Gate

end TemplateBundler
