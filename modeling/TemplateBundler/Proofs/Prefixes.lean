import TemplateBundler.Proofs.Addresses

/-!
# What an accepted prefix is good for

A URL prefix is looked at in three places: where the configuration is checked, where the key path of
a URL is read, and where the names of a stored file are checked. The first refuses dots and
backslashes only, while a URL ends at the first `?` or `#` and no file name holds a NUL. So a
configuration is accepted under which nothing can be requested, or nothing stored:

    c.normalize d = .ok c' →
      ((∃ url k, keyPath? c'.urlPrefix url = some k) ↔ no `?` and no `#` in the prefix) ∧
      ((∃ k path, c'.gate.outputPath k = .ok (some path)) ↔ no NUL in the prefix)
                                                                          (serves_of_normalize)

With any other prefix the whole tree is found at the prefix and the suffix of artifacts, and its
file below the public directory by the names of the prefix.
-/

namespace TemplateBundler

namespace Text

/-! ## The characters of a prefix -/

theorem forall_mem_joinWith {sep : Char} {P : Char → Prop} (hsep : P sep) (ps : List (List Char)) :
    (∀ c ∈ joinWith sep ps, P c) ↔ ∀ p ∈ ps, ∀ c ∈ p, P c := by
  induction ps with
  | nil => exact iff_of_true (fun c hc => absurd hc List.not_mem_nil) fun p hp =>
      absurd hp List.not_mem_nil
  | cons p ps ih =>
    cases ps with
    | nil => rw [joinWith, List.forall_mem_singleton]
    | cons q qs =>
      simp only [joinWith, List.forall_mem_append, List.forall_mem_cons (a := sep), ih,
        and_iff_right hsep, List.forall_mem_cons (a := p)]

/-- What holds of the separator holds of all of a text, or fails in one of the names in it. -/
theorem forall_mem_iff_cutNonempty {sep : Char} {P : Char → Prop} (hsep : P sep) (text : String) :
    (∀ c ∈ text.toList, P c) ↔ ∀ name ∈ cutNonempty sep text, ∀ c ∈ name.toList, P c := by
  rw [← joinWith_pieces sep text.toList, forall_mem_joinWith hsep, cutNonempty, cut]
  constructor
  · intro h name hname
    obtain ⟨p, hp, rfl⟩ := List.mem_map.1 (List.mem_of_mem_filter hname)
    rw [String.toList_ofList]
    exact h p hp
  · intro h p hp
    by_cases hne : p = []
    · rw [hne]
      exact fun c hc => absurd hc List.not_mem_nil
    · have hmem : String.ofList p ∈
          ((pieces sep text.toList).map String.ofList).filter (· ≠ "") := by
        refine List.mem_filter.2 ⟨List.mem_map_of_mem hp, ?_⟩
        simpa using hne
      have hall := h _ hmem
      rwa [String.toList_ofList] at hall

end Text

namespace Config

/-- An accepted prefix has names, none of which is refused. -/
theorem names_of_normalPrefix {p q : String} (h : normalPrefix p = .ok q) :
    Text.cutNonempty '/' p ≠ [] ∧ ∀ name ∈ Text.cutNonempty '/' p, isBadSegment name = false := by
  simp only [normalPrefix] at h
  split at h
  · cases h
  next hne =>
  split at h
  · cases h
  next hbad =>
  refine ⟨by simpa using hne, fun name hname => ?_⟩
  simpa using List.find?_eq_none.1 hbad name hname

/-- The normal form has the names of the prefix. -/
theorem cutNonempty_of_normalPrefix {p q : String} (h : normalPrefix p = .ok q) :
    Text.cutNonempty '/' q = Text.cutNonempty '/' p := by
  have hnames : ∀ name ∈ Text.cutNonempty '/' p, name ≠ "" ∧ '/' ∉ name.toList := fun name hname =>
    Disk.isEntryName_of_mem_names (p := ⟨p⟩) hname
  have hglue : (Text.glue '/' (Text.cutNonempty '/' p)).toList =
      Text.joinWith '/' ((Text.cutNonempty '/' p).map String.toList) := String.toList_ofList
  have hslash : "/".toList = [] ++ ['/'] := rfl
  change FilePath.namesIn q.toList = _
  rw [normalPrefix_eq h, String.toList_append, hglue, hslash, List.append_assoc,
    List.singleton_append, FilePath.namesIn_append, FilePath.namesIn_nil, List.nil_append,
    FilePath.namesIn_joinWith (names_of_normalPrefix h).1 hnames]

/-- A character that the separator is not tells a prefix and its normal form apart no more. -/
theorem forall_mem_normalPrefix {p q : String} (h : normalPrefix p = .ok q) {P : Char → Prop}
    (hsep : P '/') : (∀ c ∈ q.toList, P c) ↔ ∀ c ∈ p.toList, P c := by
  rw [Text.forall_mem_iff_cutNonempty hsep, Text.forall_mem_iff_cutNonempty hsep,
    cutNonempty_of_normalPrefix h]

/-- An accepted name can be that of a file if it holds no NUL. -/
theorem isSafeName_iff_of_accepted {p q : String} (h : normalPrefix p = .ok q) {name : String}
    (hname : name ∈ Text.cutNonempty '/' p) :
    Gate.isSafeName name = true ↔ ∀ c ∈ name.toList, c.toNat ≠ 0 := by
  obtain ⟨hempty, hsep⟩ := Disk.isEntryName_of_mem_names (p := ⟨p⟩) hname
  have hgood := (names_of_normalPrefix h).2 name hname
  rw [isBadSegment, Bool.or_eq_false_iff, Bool.or_eq_false_iff] at hgood
  obtain ⟨⟨hdot, hdotdot⟩, hback⟩ := hgood
  rw [Gate.isSafeName_iff]
  constructor
  · exact fun hsafe c hc => (hsafe.2.2.2 c hc).2.2
  · intro hnul
    refine ⟨hempty, by simpa using hdot, by simpa using hdotdot, fun c hc => ⟨?_, ?_, hnul c hc⟩⟩
    · rintro rfl
      exact hsep hc
    · rintro rfl
      simp [hc] at hback

end Config

namespace Address

/-! ## Requests -/

/-- What a URL is asked for under a prefix, the prefix can stand in the path of a URL. -/
theorem isPathChar_of_keyPath? {urlPrefix url : String} {k : KeyPath}
    (h : keyPath? urlPrefix url = some k) : ∀ c ∈ urlPrefix.toList, isPathChar c = true := by
  have hpart : urlPrefix.toList <+: pathPart url := by
    rcases keyPath?_eq_some_iff.1 h with ⟨hpath, -⟩ | ⟨cs, hpath, -⟩
    · exact ⟨suffix, hpath.symm⟩
    · exact ⟨_, hpath.symm⟩
  intro c hc
  have hmem : c ∈ url.toList.takeWhile isPathChar := hpart.subset hc
  exact List.mem_takeWhile_imp hmem

theorem ofKeyPath_root (urlPrefix : String) :
    ofKeyPath urlPrefix .root = urlPrefix ++ Conventions.artifactSuffix := by
  simp [ofKeyPath, KeyPath.root]

end Address

namespace Gate

/-! ## Files -/

/-- The file of the whole tree, where the names of the prefix can be those of files. -/
theorem outputPath_root {g : Gate} {directory : FilePath} (hg : g.delivery = .persist directory)
    (hne : g.leading ≠ []) (hsafe : ∀ name ∈ g.leading, isSafeName name = true) :
    g.outputPath .root = .ok (some (directory.joinAll (artifactNames g.leading))) := by
  have hroot : g.leading ++ KeyPath.root.segments = g.leading := List.append_nil _
  obtain ⟨dirs, last, hnames⟩ := (List.eq_nil_or_concat' g.leading).resolve_left hne
  obtain ⟨path, hpath⟩ : ∃ path, g.storedPath directory .root = .ok path := by
    unfold storedPath
    have hnone : g.leading.find? (fun n => !isSafeName n) = none := by
      rw [List.find?_eq_none]
      intro name hname
      rw [hsafe name hname]
      exact Bool.false_ne_true
    simp only [hroot, hnone]
    rw [hnames, List.getLast?_concat]
    exact ⟨_, rfl⟩
  rw [outputPath_persist hg, hpath, storedPath_eq_joinAll hpath, hroot]

end Gate

namespace Config

section Accepted
variable {c c' : Config} {d : Disk} (h : c.normalize d = .ok c')

/-- The gate of a service with these settings. -/
def gate (c : Config) : Gate := .ofSettings c.delivery c.urlPrefix c.global c.reload

include h

theorem leading_gate : c'.gate.leading = Text.cutNonempty '/' c.urlPrefix := by
  rw [gate, Gate.leading_ofSettings,
    cutNonempty_of_normalPrefix (Address.normalPrefix_of_normalize h)]

omit h in
theorem delivery_gate {directory : FilePath} (hpublic : c.publicDirectory = some directory) :
    c.gate.delivery = .persist directory := by
  rw [gate, Gate.ofSettings, delivery, hpublic]

/-- The characters of a prefix under which something is requested. -/
theorem isPathChar_of_request {url : String} {k : KeyPath}
    (hkey : Address.keyPath? c'.urlPrefix url = some k) :
    ∀ x ∈ c.urlPrefix.toList, Address.isPathChar x = true :=
  (forall_mem_normalPrefix (P := (Address.isPathChar · = true))
    (Address.normalPrefix_of_normalize h) (by decide)).1 (Address.isPathChar_of_keyPath? hkey)

theorem keyPath?_root (hchars : ∀ x ∈ c.urlPrefix.toList, Address.isPathChar x = true) :
    Address.keyPath? c'.urlPrefix (c'.urlPrefix ++ Conventions.artifactSuffix) = some .root := by
  rw [← Address.ofKeyPath_root]
  exact Address.keyPath?_root _ <| (forall_mem_normalPrefix (P := (Address.isPathChar · = true))
    (Address.normalPrefix_of_normalize h) (by decide)).2 hchars

/-- The names of a prefix can be those of files if it holds no NUL. -/
theorem isSafeName_leading_iff : (∀ name ∈ c'.gate.leading, Gate.isSafeName name = true) ↔
    ∀ x ∈ c.urlPrefix.toList, x.toNat ≠ 0 := by
  have hslash : '/'.toNat ≠ 0 := by decide
  rw [leading_gate h, Text.forall_mem_iff_cutNonempty (P := (·.toNat ≠ 0)) hslash]
  exact forall₂_congr fun name hname =>
    isSafeName_iff_of_accepted (Address.normalPrefix_of_normalize h) hname

variable {directory : FilePath} (hpublic : c'.publicDirectory = some directory)
include hpublic

/-- A stored file has the names of the prefix in front, and each is one of a file. -/
theorem ne_nul_of_outputPath {k : KeyPath} {path : FilePath}
    (hout : c'.gate.outputPath k = .ok (some path)) : ∀ x ∈ c.urlPrefix.toList, x.toNat ≠ 0 :=
  (isSafeName_leading_iff h).1 fun _ hname =>
    Gate.safe_of_storedPath ((Gate.outputPath_persist (delivery_gate hpublic)).1 hout) _
      (List.mem_append_left _ hname)

theorem outputPath_root (hchars : ∀ x ∈ c.urlPrefix.toList, x.toNat ≠ 0) :
    ∃ path dirs last, c'.gate.outputPath .root = .ok (some path) ∧
      Text.cutNonempty '/' c.urlPrefix = dirs ++ [last] ∧
      path = directory.joinAll (dirs ++ [last ++ ".js"]) ∧
      path.components = directory.components ++ (dirs ++ [last ++ ".js"]).map .name := by
  have hne : c'.gate.leading ≠ [] := by
    rw [leading_gate h]
    exact (names_of_normalPrefix (Address.normalPrefix_of_normalize h)).1
  have hout := Gate.outputPath_root (delivery_gate hpublic) hne
    ((isSafeName_leading_iff h).2 hchars)
  obtain ⟨dirs, last, hnames, hbelow⟩ :=
    Gate.exists_below ((Gate.outputPath_persist (delivery_gate hpublic)).1 hout)
  have hsuffix : Conventions.artifactSuffix = ".js" := by decide
  have hleading : c'.gate.leading = dirs ++ [last] := (List.append_nil _).symm.trans hnames
  have hartifact : Gate.artifactNames c'.gate.leading = dirs ++ [last ++ ".js"] := by
    rw [hleading, Gate.artifactNames, List.getLast?_concat, ← hsuffix]
    simp only [List.dropLast_concat]
  rw [hsuffix] at hbelow
  rw [hartifact] at hout hbelow
  exact ⟨_, dirs, last, hout, leading_gate h ▸ hleading, rfl, hbelow.components_eq⟩

end Accepted

/-- What can be requested and stored under the prefix of a configuration, by its normal form. -/
structure Serves (c c' : Config) : Prop where
  /-- The URL of the whole tree is read as such. -/
  root_iff : Address.keyPath? c'.urlPrefix (c'.urlPrefix ++ Conventions.artifactSuffix) =
    some .root ↔ ∀ x ∈ c.urlPrefix.toList, Address.isPathChar x = true
  /-- Anything at all can be requested. -/
  request_iff : (∃ url k, Address.keyPath? c'.urlPrefix url = some k) ↔
    ∀ x ∈ c.urlPrefix.toList, Address.isPathChar x = true
  /-- The file of the whole tree lies below the public directory by the names of the prefix. -/
  file_iff : ∀ directory, c'.publicDirectory = some directory →
    ((∃ path dirs last, c'.gate.outputPath .root = .ok (some path) ∧
      Text.cutNonempty '/' c.urlPrefix = dirs ++ [last] ∧
      path = directory.joinAll (dirs ++ [last ++ ".js"]) ∧
      path.components = directory.components ++ (dirs ++ [last ++ ".js"]).map .name) ↔
        ∀ x ∈ c.urlPrefix.toList, x.toNat ≠ 0)
  /-- Anything at all can be stored. -/
  store_iff : ∀ directory, c'.publicDirectory = some directory →
    ((∃ k path, c'.gate.outputPath k = .ok (some path)) ↔ ∀ x ∈ c.urlPrefix.toList, x.toNat ≠ 0)

/-- **Which accepted prefixes can be used**, by the gate of a service and in its URLs. -/
theorem serves_of_normalize {c c' : Config} {d : Disk} (h : c.normalize d = .ok c') :
    Serves c c' where
  root_iff := ⟨isPathChar_of_request h, keyPath?_root h⟩
  request_iff := by
    constructor
    · rintro ⟨url, k, hkey⟩
      exact isPathChar_of_request h hkey
    · exact fun hchars => ⟨_, _, keyPath?_root h hchars⟩
  file_iff directory hpublic := by
    constructor
    · rintro ⟨path, dirs, last, hout, -⟩
      exact ne_nul_of_outputPath h hpublic hout
    · exact outputPath_root h hpublic
  store_iff directory hpublic := by
    constructor
    · rintro ⟨k, path, hout⟩
      exact ne_nul_of_outputPath h hpublic hout
    · intro hchars
      obtain ⟨path, -, -, hout, -⟩ := outputPath_root h hpublic hchars
      exact ⟨.root, path, hout⟩

/-- The prefix is checked apart from the other settings. -/
theorem normalize_withPrefix {c c' : Config} {d : Disk} (h : c.normalize d = .ok c')
    {q q' : String} (hq : normalPrefix q = .ok q') :
    { c with urlPrefix := q }.normalize d = .ok { c' with urlPrefix := q' } := by
  obtain ⟨p, -, hglobal, hextension, hsource, hpublic, rfl⟩ := normalize_eq_ok_iff.1 h
  exact normalize_eq_ok_iff.2 ⟨q', hq, hglobal, hextension, hsource, hpublic, rfl⟩

/-- A configuration with this prefix, everything else accepted where there is a template. -/
def prefixedConfig (urlPrefix : String) : Config :=
  { Service.plainConfig "p" false with urlPrefix }

theorem normalize_prefixedConfig {q q' : String} (hq : normalPrefix q = .ok q') :
    (prefixedConfig q).normalize (Disk.oneTemplate 100) = .ok (prefixedConfig q') := by
  obtain ⟨hviews, -, hpublic, -⟩ := Disk.status_oneTemplate 100
  have hfile : (Disk.oneTemplate 100).isFile ⟨"p"⟩ = false := by rw [Disk.isFile, hpublic]
  exact normalize_withPrefix (Service.normalize_plainConfig false (by decide)
    (Service.isDirectory_of_status hviews) hfile) hq

theorem serves_prefixedConfig :
    let c := prefixedConfig "x//y/"
    let c' := prefixedConfig "/x/y"
    c.normalize (Disk.oneTemplate 100) = .ok c' ∧
      Address.keyPath? "/x/y" "/x/y.js" = some .root ∧
      c'.gate.outputPath .root = .ok (some ⟨"p/x/y.js"⟩) := by
  intro c c'
  have hnormal := normalize_prefixedConfig (show normalPrefix "x//y/" = .ok "/x/y" by decide)
  obtain ⟨hroot, -, hfile, -⟩ := serves_of_normalize hnormal
  have hchars : "x//y/".toList.all Address.isPathChar = true := by decide
  have hnul : ∀ x ∈ "x//y/".toList, x.toNat ≠ 0 := by simp
  have hkey := hroot.2 (List.all_eq_true.1 hchars)
  obtain ⟨path, dirs, last, hout, hnames, hpath, -⟩ := (hfile ⟨"p"⟩ rfl).2 hnul
  have hcut : Text.cutNonempty '/' c.urlPrefix = ["x"] ++ ["y"] := by decide
  obtain ⟨rfl, hlast⟩ := List.append_inj' (hcut.symm.trans hnames) rfl
  obtain rfl : "y" = last := List.head_eq_of_cons_eq hlast
  have hjoin : FilePath.joinAll ⟨"p"⟩ (["x"] ++ ["y" ++ ".js"]) = ⟨"p/x/y.js"⟩ := by decide
  have hurl : c'.urlPrefix ++ Conventions.artifactSuffix = "/x/y.js" := by decide
  rw [hurl] at hkey
  rw [hpath, hjoin] at hout
  exact ⟨hnormal, hkey, hout⟩

/-- Nothing can be requested under one accepted prefix, and nothing stored under another. -/
theorem exists_accepted_useless :
    (∃ (c c' : Config) (d : Disk), c.normalize d = .ok c' ∧
      Address.keyPath? c'.urlPrefix (c'.urlPrefix ++ ".js") ≠ some .root ∧
      ∀ url, Address.keyPath? c'.urlPrefix url = none) ∧
    ∃ (c c' : Config) (d : Disk), c.normalize d = .ok c' ∧ c'.publicDirectory = some ⟨"p"⟩ ∧
      ∀ k path, c'.gate.outputPath k ≠ .ok (some path) := by
  constructor
  · have hnormal := normalize_prefixedConfig (show normalPrefix "/a?b" = .ok "/a?b" by decide)
    have hnone : ∀ url, Address.keyPath? "/a?b" url = none := by
      intro url
      cases hkey : Address.keyPath? "/a?b" url with
      | none => rfl
      | some k =>
        have hcut := isPathChar_of_request hnormal hkey '?' (by decide)
        exact absurd hcut (by decide)
    refine ⟨_, _, _, hnormal, ?_, hnone⟩
    have hroot := hnone ("/a?b" ++ ".js")
    intro hkey
    exact Option.some_ne_none _ (hkey.symm.trans hroot)
  · have hnormal := normalize_prefixedConfig
      (show normalPrefix "/a\x00b" = .ok "/a\x00b" by decide)
    refine ⟨_, _, _, hnormal, rfl, fun k path hout => ?_⟩
    exact ne_nul_of_outputPath hnormal rfl hout '\x00' (by decide) rfl

end Config

end TemplateBundler
