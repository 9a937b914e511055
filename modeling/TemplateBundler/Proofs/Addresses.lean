import TemplateBundler.Address
import TemplateBundler.Config.Basic
import TemplateBundler.Proofs.StoredRuns
import TemplateBundler.Proofs.Together

/-!
# URLs and the files they name

A key path whose names can stand in a URL has one, and a server of files that looks for that URL
below the public directory finds the file of the key path (`addressed`):

    keyPath? urlPrefix (ofKeyPath urlPrefix k ++ tail) = some k
    outputPath k = .ok (some path) → path = directory.joinAll (names (ofKeyPath urlPrefix k ++ tail))

A URL names the file of the key path that is read from it, unless it ends in `/.js`
(`names_of_keyPath?`): the suffix is taken off first and the empty name before it dropped, so that
`/x/b/.js` is an alias of `/x/b.js` (`denotes_run`, `exists_alias`).
-/

namespace TemplateBundler

/-! ## Texts without a separator at the end -/

/-- A text that ends in something else than a separator. -/
structure IsClosed (cs : List Char) : Prop where
  ne_nil : cs ≠ []
  last : cs.getLast? ≠ some '/'

theorem isClosed_of_not_mem {cs : List Char} (hne : cs ≠ []) (h : '/' ∉ cs) : IsClosed cs where
  ne_nil := hne
  last hlast := h (List.mem_of_getLast? hlast)

theorem IsClosed.append {cs : List Char} (h : IsClosed cs) (front : List Char) :
    IsClosed (front ++ cs) where
  ne_nil := List.append_ne_nil_of_right_ne_nil front h.ne_nil
  last := by
    rw [List.getLast?_append_of_ne_nil front h.ne_nil]
    exact h.last

/-- Names that are not empty, with a separator between each two. -/
theorem isClosed_joinWith {ps : List (List Char)} (hne : ps ≠ [])
    (h : ∀ p ∈ ps, p ≠ [] ∧ '/' ∉ p) : IsClosed (Text.joinWith '/' ps) := by
  induction ps with
  | nil => exact absurd rfl hne
  | cons p ps ih =>
    obtain ⟨hp, hsep⟩ := h p List.mem_cons_self
    cases ps with
    | nil => exact isClosed_of_not_mem hp hsep
    | cons q qs =>
      have hrest := ih (List.cons_ne_nil q qs) fun r hr => h r (List.mem_cons_of_mem p hr)
      rw [Text.joinWith, ← List.singleton_append, ← List.append_assoc]
      exact hrest.append (p ++ ['/'])

/-- The last separator of a text. -/
theorem cut_last (cs : List Char) :
    '/' ∉ cs ∨ ∃ front last, cs = front ++ '/' :: last ∧ '/' ∉ last := by
  induction cs with
  | nil => exact Or.inl List.not_mem_nil
  | cons c cs ih =>
    rcases ih with hnot | ⟨front, last, rfl, hlast⟩
    · by_cases hc : c = '/'
      · exact Or.inr ⟨[], cs, by rw [hc, List.nil_append], hnot⟩
      · left
        rw [List.mem_cons, not_or]
        exact ⟨fun e => hc e.symm, hnot⟩
    · exact Or.inr ⟨c :: front, last, rfl, hlast⟩

namespace FilePath

theorem namesIn_joinWith {names : List String} (hne : names ≠ [])
    (h : ∀ name ∈ names, name ≠ "" ∧ '/' ∉ name.toList) :
    namesIn (Text.joinWith '/' (names.map String.toList)) = names := by
  have hpieces : Text.pieces '/' (Text.joinWith '/' (names.map String.toList)) =
      names.map String.toList :=
    Text.pieces_joinWith (by simpa) (by simpa using fun name hname => (h name hname).2)
  rw [namesIn, hpieces, List.map_map]
  have hmap : names.map (String.ofList ∘ String.toList) = names := by simp
  rw [hmap, List.filter_eq_self]
  intro name hname
  simpa using (h name hname).1

end FilePath

namespace Gate

theorem leading_ofSettings (delivery : Delivery) (urlPrefix global : String) (always : Bool) :
    (ofSettings delivery urlPrefix global always).leading = Text.cutNonempty '/' urlPrefix := rfl

theorem artifactNames_append {names : List String} (hne : names ≠ []) (front : List String) :
    artifactNames (front ++ names) = front ++ artifactNames names := by
  obtain ⟨dirs, last, rfl⟩ := (List.eq_nil_or_concat' names).resolve_left hne
  rw [← List.append_assoc]
  simp [artifactNames]

theorem length_artifactNames (names : List String) :
    (artifactNames names).length = names.length := by
  rcases List.eq_nil_or_concat' names with rfl | ⟨dirs, last, rfl⟩
  · rfl
  · simp [artifactNames]

theorem storedPath_eq_joinAll {g : Gate} {directory path : FilePath} {k : KeyPath}
    (h : g.storedPath directory k = .ok path) :
    path = directory.joinAll (artifactNames (g.leading ++ k.segments)) := by
  unfold storedPath at h
  simp only at h
  split at h
  · cases h
  rcases List.eq_nil_or_concat' (g.leading ++ k.segments) with hnil | ⟨dirs, last, hnames⟩
  · rw [hnil] at h
    cases h
  · rw [hnames] at h ⊢
    simp only [List.getLast?_concat, List.dropLast_concat, Except.ok.injEq] at h
    simp [← h, artifactNames, FilePath.joinAll]

end Gate

namespace Address

open FilePath (namesIn)
open Gate (artifactNames)

/-! ## The names of a URL -/

/-- The names in the path of a URL, which a server of files follows: repeated separators count
once. -/
def names (url : String) : List String := Text.cutNonempty '/' (String.ofList (pathPart url))

/-- The path of a URL ends in a name that is nothing but the suffix. -/
def EndsBare (url : String) : Prop := '/' :: suffix <:+ pathPart url

/-- A server of files that looks for the URL below the directory finds the path. -/
def Denotes (directory : FilePath) (url : String) (path : FilePath) : Prop :=
  path.components = directory.components ++ (names url).map .name

theorem names_eq (url : String) : names url = namesIn (pathPart url) := by
  rw [names, namesIn, Text.cutNonempty, Text.cut, String.toList_ofList]

theorem endsBare_iff {url : String} {cs : List Char} (h : pathPart url = cs ++ suffix) :
    EndsBare url ↔ cs.getLast? = some '/' := by
  rw [EndsBare, h, List.getLast?_eq_some_iff]
  constructor
  · rintro ⟨front, hfront⟩
    have hclosed : cs ++ suffix = (front ++ ['/']) ++ suffix := by
      rw [← hfront, List.append_assoc, List.singleton_append]
    exact ⟨front, List.append_cancel_right hclosed⟩
  · rintro ⟨front, rfl⟩
    exact ⟨front, by rw [List.append_assoc, List.singleton_append]⟩

theorem sep_not_mem_suffix : '/' ∉ suffix := by decide

theorem ofList_suffix : String.ofList suffix = Conventions.artifactSuffix := String.ofList_toList

/-- A suffix belongs to the last name. -/
theorem namesIn_suffix {cs : List Char} (h : IsClosed cs) :
    namesIn cs ≠ [] ∧ namesIn (cs ++ suffix) = artifactNames (namesIn cs) := by
  rcases cut_last cs with hnot | ⟨front, last, rfl, hnot⟩
  · have hnot' : '/' ∉ cs ++ suffix := by simp [hnot, sep_not_mem_suffix]
    rw [FilePath.namesIn_of_not_mem hnot h.ne_nil,
      FilePath.namesIn_of_not_mem hnot' (by simp [h.ne_nil])]
    simp [artifactNames, ← ofList_suffix]
  · have hne : last ≠ [] := by
      rintro rfl
      exact h.last (by simp)
    have hnot' : '/' ∉ last ++ suffix := by simp [hnot, sep_not_mem_suffix]
    rw [List.append_assoc, List.cons_append, FilePath.namesIn_append, FilePath.namesIn_append,
      FilePath.namesIn_of_not_mem hnot hne, FilePath.namesIn_of_not_mem hnot' (by simp [hne])]
    simp [artifactNames, ← ofList_suffix]

/-- Or it is a name itself. -/
theorem namesIn_suffix_of_open {cs : List Char} (h : cs.getLast? = some '/') :
    namesIn (cs ++ suffix) = namesIn cs ++ [Conventions.artifactSuffix] := by
  obtain ⟨front, rfl⟩ := List.getLast?_eq_some_iff.1 h
  have hsuffix : namesIn suffix = [Conventions.artifactSuffix] := by
    rw [FilePath.namesIn_of_not_mem sep_not_mem_suffix (by decide), ofList_suffix]
  rw [List.append_assoc, List.singleton_append, FilePath.namesIn_append, FilePath.namesIn_append,
    FilePath.namesIn_nil, List.append_nil, hsuffix]

/-! ## Key paths of URLs -/

/-- **Which URLs are those of artifacts**, and what they ask for. -/
theorem keyPath?_eq_some_iff {urlPrefix url : String} {k : KeyPath} :
    keyPath? urlPrefix url = some k ↔
      (pathPart url = urlPrefix.toList ++ suffix ∧ k = .root) ∨
      ∃ cs, pathPart url = urlPrefix.toList ++ '/' :: (cs ++ suffix) ∧ k.segments = namesIn cs ∧
        k.segments ≠ [] := by
  have hparse : ∀ cs : List Char, KeyPath.parse (String.ofList cs) = ⟨namesIn cs⟩ := by
    intro cs
    rw [KeyPath.parse, KeyPath.ofSegments, Text.cut, String.toList_ofList, namesIn]
  unfold keyPath?
  constructor
  · intro h
    split at h
    · cases h
    next rest hrest =>
    rw [Text.after?_eq_some_iff] at hrest
    split at h
    · next hroot =>
      cases h
      exact Or.inl ⟨by rw [hrest, hroot], rfl⟩
    split at h
    · cases h
    next cs hcs =>
    rw [Option.bind_eq_bind, Option.bind_eq_some_iff] at hcs
    obtain ⟨inner, hinner, hcs⟩ := hcs
    rw [Text.after?_eq_some_iff] at hinner
    rw [Text.before?_eq_some_iff] at hcs
    rw [hparse] at h
    simp only at h
    split at h
    · cases h
    · next hne =>
      cases h
      refine Or.inr ⟨cs, by rw [hrest, hinner, hcs]; rfl, rfl, ?_⟩
      simpa [KeyPath.isRoot] using hne
  · rintro (⟨hpath, rfl⟩ | ⟨cs, hpath, hsegments, hne⟩)
    · rw [hpath, Text.after?_append]
      simp
    · have hnotRoot : '/' :: (cs ++ suffix) ≠ suffix := by
        intro h
        have hhead : some '/' = suffix.head? := congrArg List.head? h
        exact absurd hhead (by decide)
      have hafter : Text.after? ['/'] ('/' :: (cs ++ suffix)) = some (cs ++ suffix) :=
        Text.after?_append ['/'] _
      have hbefore : Text.before? suffix (cs ++ suffix) = some cs :=
        Text.before?_eq_some_iff.2 rfl
      rw [hpath, Text.after?_append]
      simp only [if_neg hnotRoot, hafter, Option.bind_eq_bind, Option.bind_some, hbefore, hparse]
      rw [hsegments] at hne
      rw [if_neg (by simpa [KeyPath.isRoot] using hne), ← hsegments]

/-- **The names of an artifact's URL** are those of its file, or the suffix is one of its own. -/
theorem names_of_keyPath? {urlPrefix url : String} {k : KeyPath}
    (hclosed : IsClosed urlPrefix.toList) (h : keyPath? urlPrefix url = some k) :
    (¬ EndsBare url ∧
      names url = artifactNames (Text.cutNonempty '/' urlPrefix ++ k.segments)) ∨
    (EndsBare url ∧
      names url = Text.cutNonempty '/' urlPrefix ++ k.segments ++ [Conventions.artifactSuffix]) := by
  have hleading : Text.cutNonempty '/' urlPrefix = namesIn urlPrefix.toList := rfl
  rw [names_eq, hleading]
  rcases keyPath?_eq_some_iff.1 h with ⟨hpath, rfl⟩ | ⟨cs, hpath, hsegments, hne⟩
  · left
    rw [endsBare_iff hpath, hpath, (namesIn_suffix hclosed).2]
    exact ⟨hclosed.last, by simp [KeyPath.root]⟩
  · have hpath' : pathPart url = urlPrefix.toList ++ '/' :: cs ++ suffix := by
      rw [hpath, List.append_assoc, List.cons_append]
    have hcs : cs ≠ [] := by
      rintro rfl
      exact hne (by rw [hsegments, FilePath.namesIn_nil])
    have hlast : (urlPrefix.toList ++ '/' :: cs).getLast? = cs.getLast? := by
      rw [← List.singleton_append, ← List.append_assoc, List.getLast?_append_of_ne_nil _ hcs]
    rw [endsBare_iff hpath', hlast, hpath, FilePath.namesIn_append]
    by_cases hopen : cs.getLast? = some '/'
    · right
      rw [namesIn_suffix_of_open hopen, ← hsegments, List.append_assoc]
      exact ⟨hopen, rfl⟩
    · left
      rw [(namesIn_suffix ⟨hcs, hopen⟩).2, ← hsegments, Gate.artifactNames_append hne]
      exact ⟨hopen, rfl⟩

/-! ## URLs of key paths -/

/-- A key path whose names can stand in the path of a URL. -/
def Ordinary (k : KeyPath) : Prop :=
  ∀ name ∈ k.segments, name ≠ "" ∧ ∀ c ∈ name.toList, c ≠ '/' ∧ isPathChar c = true

/-- A query, a fragment, or nothing. -/
def IsTail (tail : String) : Prop := ∀ c, tail.toList.head? = some c → isPathChar c = false

/-- The text between the prefix and the suffix of a URL. -/
def between (k : KeyPath) : List Char :=
  if k.segments = [] then [] else '/' :: Text.joinWith '/' (k.segments.map String.toList)

theorem toList_join_names (names : List String) : (String.join (names.map ("/" ++ ·))).toList =
    if names = [] then [] else '/' :: Text.joinWith '/' (names.map String.toList) := by
  induction names with
  | nil => simp
  | cons name names ih =>
    have hslash : ("/" ++ name).toList = '/' :: name.toList := by
      rw [String.toList_append]
      rfl
    rw [List.map_cons, String.join_cons, String.toList_append, ih, hslash,
      if_neg (List.cons_ne_nil _ _)]
    cases names with
    | nil => simp [Text.joinWith]
    | cons other names => simp [Text.joinWith]

theorem toList_ofKeyPath (urlPrefix : String) (k : KeyPath) :
    (ofKeyPath urlPrefix k).toList = urlPrefix.toList ++ between k ++ suffix := by
  rw [ofKeyPath, String.toList_append, String.toList_append, toList_join_names]
  rfl

section Ordinary
variable {urlPrefix : String} (hclosed : IsClosed urlPrefix.toList)
  (hpath : ∀ c ∈ urlPrefix.toList, isPathChar c = true) {k : KeyPath} (hk : Ordinary k)
  {tail : String} (htail : IsTail tail)

include hk

theorem namesIn_of_ordinary (hne : k.segments ≠ []) :
    namesIn (Text.joinWith '/' (k.segments.map String.toList)) = k.segments :=
  FilePath.namesIn_joinWith hne fun name hname =>
    ⟨(hk name hname).1, fun hmem => ((hk name hname).2 _ hmem).1 rfl⟩

theorem isPathChar_of_mem_joinWith :
    ∀ c ∈ Text.joinWith '/' (k.segments.map String.toList), isPathChar c = true := by
  have hsep : isPathChar '/' = true := by decide
  have hall : ∀ ps : List (List Char), (∀ p ∈ ps, ∀ c ∈ p, isPathChar c = true) →
      ∀ c ∈ Text.joinWith '/' ps, isPathChar c = true := by
    intro ps
    induction ps with
    | nil =>
      intro _ c hc
      cases hc
    | cons p ps ih =>
      intro hps c hc
      have hrest := ih fun q hq => hps q (List.mem_cons_of_mem p hq)
      cases ps with
      | nil => exact hps p List.mem_cons_self c hc
      | cons q qs =>
        rcases List.mem_append.1 hc with hc | hc
        · exact hps p List.mem_cons_self c hc
        · rcases List.mem_cons.1 hc with rfl | hc
          · exact hsep
          · exact hrest c hc
  refine hall _ fun p hp c hc => ?_
  obtain ⟨name, hname, rfl⟩ := List.mem_map.1 hp
  exact ((hk name hname).2 c hc).2

include hpath htail

/-- What follows the URL of a key path is no part of its path. -/
theorem pathPart_ofKeyPath :
    pathPart (ofKeyPath urlPrefix k ++ tail) = urlPrefix.toList ++ between k ++ suffix := by
  have hsuffix : suffix.all isPathChar = true := by decide
  have hbetween : ∀ c ∈ between k, isPathChar c = true := by
    unfold between
    split
    · exact fun c hc => absurd hc List.not_mem_nil
    · intro c hc
      rcases List.mem_cons.1 hc with rfl | hc
      · decide
      · exact isPathChar_of_mem_joinWith hk c hc
  have htail' : tail.toList.takeWhile isPathChar = [] := by
    cases hc : tail.toList with
    | nil => rfl
    | cons c cs =>
      rw [List.takeWhile_cons, htail c (by rw [hc]; rfl)]
      rfl
  rw [pathPart, String.toList_append, toList_ofKeyPath, List.takeWhile_append_of_pos, htail',
    List.append_nil]
  intro c hc
  simp only [List.mem_append] at hc
  rcases hc with (hc | hc) | hc
  · exact hpath c hc
  · exact hbetween c hc
  · exact List.all_eq_true.1 hsuffix c hc

/-- **The URL of a key path leads back to it.** -/
theorem keyPath?_ofKeyPath : keyPath? urlPrefix (ofKeyPath urlPrefix k ++ tail) = some k := by
  have hpart := pathPart_ofKeyPath hpath hk htail
  rw [keyPath?_eq_some_iff, hpart]
  by_cases hne : k.segments = []
  · left
    obtain ⟨segments⟩ := k
    subst hne
    exact ⟨by simp [between], rfl⟩
  · right
    refine ⟨Text.joinWith '/' (k.segments.map String.toList), ?_,
      (namesIn_of_ordinary hk hne).symm, hne⟩
    rw [between, if_neg hne, List.append_assoc, List.cons_append]

include hclosed

theorem not_endsBare_ofKeyPath : ¬ EndsBare (ofKeyPath urlPrefix k ++ tail) := by
  rw [endsBare_iff (pathPart_ofKeyPath hpath hk htail)]
  by_cases hne : k.segments = []
  · rw [between, if_pos hne, List.append_nil]
    exact hclosed.last
  · have hnames : IsClosed (Text.joinWith '/' (k.segments.map String.toList)) := by
      refine isClosed_joinWith (by simpa using hne) fun p hp => ?_
      obtain ⟨name, hname, rfl⟩ := List.mem_map.1 hp
      obtain ⟨hempty, hchars⟩ := hk name hname
      exact ⟨by simpa using hempty, fun hmem => (hchars _ hmem).1 rfl⟩
    rw [between, if_neg hne, ← List.singleton_append, ← List.append_assoc]
    exact (hnames.append _).last

end Ordinary

/-- A prefix in its normal form ends in a name. -/
theorem isClosed_of_normalPrefix {p q : String} (h : Config.normalPrefix p = .ok q) :
    IsClosed q.toList := by
  have hq := Config.normalPrefix_eq h
  have hne : Text.cutNonempty '/' p ≠ [] := by
    intro hnil
    simp [Config.normalPrefix, hnil] at h
  have hclosed : IsClosed (Text.joinWith '/' ((Text.cutNonempty '/' p).map String.toList)) := by
    refine isClosed_joinWith (by simpa using hne) fun cs hcs => ?_
    obtain ⟨name, hname, rfl⟩ := List.mem_map.1 hcs
    obtain ⟨hempty, hsep⟩ := Disk.isEntryName_of_mem_names (p := ⟨p⟩) hname
    exact ⟨by simpa using hempty, hsep⟩
  have hglue : (Text.glue '/' (Text.cutNonempty '/' p)).toList =
      Text.joinWith '/' ((Text.cutNonempty '/' p).map String.toList) := String.toList_ofList
  rw [hq, String.toList_append, hglue]
  exact hclosed.append "/".toList

theorem normalPrefix_of_normalize {c c' : Config} {d : Disk} (h : c.normalize d = .ok c') :
    Config.normalPrefix c.urlPrefix = .ok c'.urlPrefix := by
  obtain ⟨urlPrefix, hprefix, -, -, -, -, rfl⟩ := Config.normalize_eq_ok_iff.1 h
  exact hprefix

/-- **Every ordinary key path has a URL, and its file is found there.** -/
theorem addressed {c c' : Config} {d : Disk} (hnormal : c.normalize d = .ok c')
    (hpath : ∀ x ∈ c'.urlPrefix.toList, isPathChar x = true) {k : KeyPath} (hk : Ordinary k)
    {tail : String} (htail : IsTail tail) :
    keyPath? c'.urlPrefix (ofKeyPath c'.urlPrefix k ++ tail) = some k ∧
    (∀ k', Ordinary k' → ofKeyPath c'.urlPrefix k' = ofKeyPath c'.urlPrefix k → k' = k) ∧
    ∀ path, (Gate.ofSettings c'.delivery c'.urlPrefix c'.global c'.reload).outputPath k =
        .ok (some path) →
      ∃ directory, c'.publicDirectory = some directory ∧
        path = directory.joinAll (names (ofKeyPath c'.urlPrefix k ++ tail)) ∧
        Denotes directory (ofKeyPath c'.urlPrefix k ++ tail) path := by
  have hclosed := isClosed_of_normalPrefix (normalPrefix_of_normalize hnormal)
  have hkey := keyPath?_ofKeyPath hpath hk htail
  refine ⟨hkey, fun k' hk' hurl => ?_, fun path hout => ?_⟩
  · have hempty : IsTail "" := by
      intro c hc
      simp at hc
    have hkey' := keyPath?_ofKeyPath hpath hk' hempty
    rw [hurl, keyPath?_ofKeyPath hpath hk hempty] at hkey'
    exact (Option.some.inj hkey').symm
  · obtain ⟨-, hnames⟩ := (names_of_keyPath? hclosed hkey).resolve_right fun hbare =>
      not_endsBare_ofKeyPath hclosed hpath hk htail hbare.1
    cases hpublic : c'.publicDirectory with
    | none =>
      have hdelivery : c'.delivery = .respond := by rw [Config.delivery, hpublic]
      rw [Gate.outputPath, Gate.ofSettings, hdelivery] at hout
      cases hout
    | some directory =>
      have hdelivery : c'.delivery = .persist directory := by rw [Config.delivery, hpublic]
      have hstored := (Gate.outputPath_persist (by rw [Gate.ofSettings, hdelivery])).1 hout
      have hjoin := Gate.storedPath_eq_joinAll hstored
      have hcomponents := Gate.components_of_storedPath hstored
      rw [Gate.leading_ofSettings] at hjoin hcomponents
      refine ⟨directory, rfl, ?_, ?_⟩
      · rw [hnames, hjoin]
      · rw [Denotes, hnames, hcomponents]

theorem addressed_plainConfig :
    let c := Service.plainConfig "p" false
    let k : KeyPath := ⟨["a.js", "b"]⟩
    c.normalize (Disk.oneTemplate 100) = .ok c ∧ Ordinary k ∧ IsTail "?v=1" ∧
      keyPath? "/x" "/x/a.js/b.js?v=1" = some k ∧
      (∀ k', Ordinary k' → ofKeyPath "/x" k' = "/x/a.js/b.js" → k' = k) ∧
      (⟨"p/x/a.js/b.js"⟩ : FilePath) = FilePath.joinAll ⟨"p"⟩ (names "/x/a.js/b.js?v=1") := by
  intro c k
  obtain ⟨hviews, -, hpublic, -⟩ := Disk.status_oneTemplate 100
  have hfile : (Disk.oneTemplate 100).isFile ⟨"p"⟩ = false := by rw [Disk.isFile, hpublic]
  have hnormal := Service.normalize_plainConfig false (by decide)
    (Service.isDirectory_of_status hviews) hfile
  have hclean : "/x".toList.all isPathChar = true := by decide
  have hk : Ordinary k := by simp [Ordinary, k, isPathChar]
  have htail : IsTail "?v=1" := by
    intro x hx
    obtain rfl : '?' = x := Option.some.inj hx
    decide
  have hurl : ofKeyPath "/x" k = "/x/a.js/b.js" := by decide
  have hout : (Gate.ofSettings c.delivery c.urlPrefix c.global c.reload).outputPath k =
      .ok (some ⟨"p/x/a.js/b.js"⟩) := by decide
  obtain ⟨hkey, hinj, hpath⟩ := addressed hnormal (List.all_eq_true.1 hclean) hk htail
  obtain ⟨directory, hdirectory, hjoin, -⟩ := hpath _ hout
  obtain rfl : ⟨"p"⟩ = directory := Option.some.inj hdirectory
  change keyPath? "/x" (ofKeyPath "/x" k ++ "?v=1") = some k at hkey
  change ∀ k', Ordinary k' → ofKeyPath "/x" k' = ofKeyPath "/x" k → k' = k at hinj
  change _ = FilePath.joinAll ⟨"p"⟩ (names (ofKeyPath "/x" k ++ "?v=1")) at hjoin
  rw [hurl] at hkey hinj hjoin
  exact ⟨hnormal, hk, htail, hkey, hinj, hjoin⟩

end Address

/-! ## Answers of a service -/

namespace Service

section Tuned
variable {c : Config} {s : State} (h : Tuned c s)

include h

/-- A stored artifact is that of the key path, below the public directory. -/
theorem Tuned.exists_storedPath {k : KeyPath} {path : FilePath} {action : Action}
    (hserved : (s.service.serve s.disk k).1 = .ok (.stored path action)) :
    ∃ directory, c.publicDirectory = some directory ∧
      (Gate.ofSettings c.delivery c.urlPrefix c.global c.reload).storedPath directory k =
        .ok path := by
  obtain ⟨i, -, hgate, -⟩ := serve_stored hserved
  obtain ⟨directory, -, hdelivery, hpath, -⟩ := Gate.serve_stored hgate
  rw [h.gate_eq] at hdelivery hpath
  refine ⟨directory, ?_, hpath⟩
  change c.delivery = .persist directory at hdelivery
  unfold Config.delivery at hdelivery
  split at hdelivery
  · next heq => rw [heq, Delivery.persist.inj hdelivery]
  · cases hdelivery

/-- A request that is answered with a stored artifact asked for its key path. -/
theorem Tuned.exists_storedPath_of_handle [Template.Language] {method url : String}
    {path : FilePath} {action : Action}
    (hhandled : (s.service.handle s.disk method url).1 = .ok (.served (.stored path action))) :
    ∃ k directory, Address.keyPath? c.urlPrefix url = some k ∧
      c.publicDirectory = some directory ∧
      (Gate.ofSettings c.delivery c.urlPrefix c.global c.reload).storedPath directory k =
        .ok path := by
  cases hk : s.service.asked? method url with
  | none =>
    rw [handle_eq, hk] at hhandled
    cases hhandled
  | some k =>
    refine ⟨k, ?_⟩
    cases hreload : s.service.config.reload with
    | false =>
      rw [handle_of_key hreload hk] at hhandled
      obtain ⟨directory, hpublic, hpath⟩ := h.exists_storedPath (answer_served hhandled)
      exact ⟨directory, h.keyPath?_of_asked? hk, hpublic, hpath⟩
    | true =>
      cases hb : (buildTree s.service.config s.disk).1 with
      | error e =>
        rw [handle_of_failed hreload hk hb] at hhandled
        cases hhandled
      | ok t =>
        rw [handle_of_build hreload hk hb] at hhandled
        obtain ⟨directory, hpublic, hpath⟩ :=
          (h.publish t).exists_storedPath (answer_served hhandled)
        exact ⟨directory, h.keyPath?_of_asked? hk, hpublic, hpath⟩

end Tuned

theorem exists_normalize_of_start [Template.Language] {c : Config} {d d' : Disk} {s : Service}
    (h : start c d = (.ok s, d')) : c.normalize d = .ok s.config := by
  unfold start at h
  split at h
  · cases h
  next c' hnormal =>
  split at h
  · cases h
  · cases h
    exact hnormal

/-- **A stored artifact is the file that its URL denotes**, unless the URL ends in a bare suffix. -/
theorem denotes_run [Template.Language] {c : Config} {d d' : Disk} {s : Service} (hd : d.Sound)
    (h : start c d = (.ok s, d')) (moves : List Move) :
    ∀ earlier e later, State.run ⟨s, d'⟩ moves = earlier ++ e :: later →
      ∀ method url path action, e.move = .handle method url →
        e.answer = .handled (.ok (.served (.stored path action))) →
        ∃ directory, s.config.publicDirectory = some directory ∧
          (Address.Denotes directory url path ↔ ¬ Address.EndsBare url) ∧
          (¬ Address.EndsBare url → path = directory.joinAll (Address.names url)) := by
  obtain ⟨-, -, htuned⟩ := start_ok h hd
  have hclosed := Address.isClosed_of_normalPrefix
    (Address.normalPrefix_of_normalize (exists_normalize_of_start h))
  refine run_keeps (I := fun state _ => Tuned s.config state) (A := fun _ => True)
    (P := fun _ e => ∀ method url path action, e.move = .handle method url →
      e.answer = .handled (.ok (.served (.stored path action))) → ∃ directory,
        s.config.publicDirectory = some directory ∧
        (Address.Denotes directory url path ↔ ¬ Address.EndsBare url) ∧
        (¬ Address.EndsBare url → path = directory.joinAll (Address.names url)))
    (fun state past m htuned _ => ⟨?_, htuned.play m⟩) moves ⟨s, d'⟩ [] htuned fun _ _ => trivial
  intro method url path action hm hanswer
  change m = .handle method url at hm
  subst hm
  obtain ⟨k, directory, hkey, hpublic, hpath⟩ :=
    htuned.exists_storedPath_of_handle (Answer.handled.inj hanswer)
  have hcomponents := Gate.components_of_storedPath hpath
  have hjoin := Gate.storedPath_eq_joinAll hpath
  rw [Gate.leading_ofSettings] at hcomponents hjoin
  refine ⟨directory, hpublic, ?_⟩
  rcases Address.names_of_keyPath? hclosed hkey with ⟨hbare, hnames⟩ | ⟨hbare, hnames⟩
  · rw [Address.Denotes, hnames]
    exact ⟨⟨fun _ => hbare, fun _ => hcomponents⟩, fun _ => hjoin⟩
  · refine ⟨⟨fun hdenotes => ?_, fun hnot => absurd hbare hnot⟩, fun hnot => absurd hbare hnot⟩
    -- the URL has one name more than the path
    rw [Address.Denotes, hcomponents, hnames] at hdenotes
    have hlength := congrArg List.length (List.append_cancel_left hdenotes)
    simp only [List.length_map, Gate.length_artifactNames, List.length_append,
      List.length_singleton] at hlength
    omega

/-! ## An alias -/

theorem fits_artifact_b : Disk.Fits ⟨"p/x/b.js"⟩ := by
  have hclean : ("p/x/b.js".toList.all fun c => c.toNat != 0) = true := by decide
  refine ⟨fun c hc => ?_, by decide, by decide⟩
  simpa using List.all_eq_true.1 hclean c hc

theorem fresh_oneTemplate (clock : Time) : (Disk.oneTemplate clock).Fresh ⟨"p"⟩ := by
  have hstart : (Disk.oneTemplate clock).start "p" = [] := ite_self []
  refine ⟨["p"], ⟨0, Nat.zero_le _, ?_⟩, fun name => ?_⟩
  · rw [FilePath.names, Disk.spelled_public.names_eq, hstart]
    exact .enter ⟨by decide, by decide, by decide⟩ rfl (.nil _)
  · simp [Disk.find?, Disk.oneTemplate, List.lookup_cons]

/-- The artifact of the one template is stored, and nothing is where the alias points. -/
theorem exists_handle_oneTemplate (r : Renderer) {url : String}
    (hurl : Address.keyPath? "/x" url = some ⟨["b"]⟩) : ∃ d',
    ((plainService "p" false (oneTree 100 r)).handle (Disk.oneTemplate 101) "GET" url) =
      (.ok (.served (.stored ⟨"p/x/b.js"⟩ .rebuilt)), plainService "p" false (oneTree 100 r), d') ∧
    d'.isThere ⟨"p/x/b/.js"⟩ = false := by
  have hout : (plainService "p" false (oneTree 100 r)).gate.outputPath ⟨["b"]⟩ =
      .ok (some ⟨"p/x/b.js"⟩) := by
    have hplain : (Gate.ofSettings (.persist ⟨"p"⟩) "/x" Conventions.globalName false).outputPath
        ⟨["b"]⟩ = .ok (some ⟨"p/x/b.js"⟩) := by decide
    exact hplain
  obtain ⟨dirs, last, top, d₁, hnames, -, hreached, hempty, hserve, hplaced⟩ :=
    Gate.exists_serve_first rfl (Disk.sound_oneTemplate 101) (fun _ => rfl)
      (fresh_oneTemplate 101) (oneTree 100 r) 1 hout fits_artifact_b
  have hleading : (plainService "p" false (oneTree 100 r)).gate.leading = ["x"] := by
    have hcut : Text.cutNonempty '/' "/x" = ["x"] := by decide
    exact hcut
  rw [hleading] at hnames
  obtain ⟨rfl, hlast⟩ := List.append_inj' hnames rfl
  obtain rfl : "b" = last := List.singleton_inj.1 hlast
  have hasked : (plainService "p" false (oneTree 100 r)).asked? "GET" url = some ⟨["b"]⟩ := by
    rw [asked?, if_pos (by decide)]
    exact hurl
  have hi : (oneTree 100 r).resolve ⟨["b"]⟩ = some 1 := by cbv
  have hserved : (plainService "p" false (oneTree 100 r)).serve (Disk.oneTemplate 101) ⟨["b"]⟩ =
      (.ok (.stored ⟨"p/x/b.js"⟩ .rebuilt), plainService "p" false (oneTree 100 r), d₁) :=
    serve_of_gate hi hserve
  refine ⟨d₁, ?_, ?_⟩
  · have hhandle : (plainService "p" false (oneTree 100 r)).handle (Disk.oneTemplate 101) "GET"
        url = (plainService "p" false (oneTree 100 r)).answer (Disk.oneTemplate 101) ⟨["b"]⟩ :=
      handle_of_key (s := ⟨_, Disk.oneTemplate 101⟩) rfl hasked
    rw [hhandle, answer, hserved]
  · obtain ⟨n, hn, hgo⟩ := hplaced.reached _ _ hreached
    have habs : FilePath.isAbsolute ⟨"p/x/b/.js"⟩ = FilePath.isAbsolute ⟨"p"⟩ := by decide
    rw [← Disk.start_eq_of_isAbsolute d₁ habs.symm] at hgo
    have hsound := Disk.sound_oneTemplate 101
    have hopen : d₁.OpenWay top ["x", "b", ".js"] :=
      Disk.openWay_of_placed hsound hempty hplaced (by decide)
    have hfree : d₁.find? (top ++ ["x", "b", ".js"]) = none :=
      Disk.find?_of_placed hsound hempty hplaced (by decide) (by decide)
    have hentry : ∀ x ∈ ["x", "b", ".js"], Disk.IsEntry x := by
      simp only [List.forall_mem_cons]
      exact ⟨⟨by decide, by decide, by decide⟩, ⟨by decide, by decide, by decide⟩,
        ⟨by decide, by decide, by decide⟩, by simp⟩
    have hstatus := Disk.status_of_missing (p := ⟨"p/x/b/.js"⟩) (by decide) hn hgo hopen
      (by decide) hentry hfree (by decide)
    rw [Disk.isThere, hstatus]
    rfl

theorem denotes_oneTemplate : ∃ r, (Disk.oneTemplate 100).Sound ∧
    start (plainConfig "p" false) (Disk.oneTemplate 100) =
      (.ok (plainService "p" false (oneTree 100 r)), Disk.oneTemplate 101) ∧
    (State.event ⟨plainService "p" false (oneTree 100 r), Disk.oneTemplate 101⟩
      (.handle "GET" "/x//b.js?v=2")).answer =
        .handled (.ok (.served (.stored ⟨"p/x/b.js"⟩ .rebuilt))) ∧
    Address.Denotes ⟨"p"⟩ "/x//b.js?v=2" ⟨"p/x/b.js"⟩ := by
  obtain ⟨r, hstart⟩ := start_oneTemplate
  have hsound := Disk.sound_oneTemplate 100
  have hurl : Address.keyPath? "/x" "/x//b.js?v=2" = some ⟨["b"]⟩ := by decide
  obtain ⟨d', hhandle, -⟩ := exists_handle_oneTemplate r hurl
  have hanswer : (State.event ⟨plainService "p" false (oneTree 100 r), Disk.oneTemplate 101⟩
      (.handle "GET" "/x//b.js?v=2")).answer =
        .handled (.ok (.served (.stored ⟨"p/x/b.js"⟩ .rebuilt))) :=
    congrArg (fun result => Answer.handled (Prod.fst result)) hhandle
  have hbare : ¬ Address.EndsBare "/x//b.js?v=2" := by
    unfold Address.EndsBare
    decide
  obtain ⟨directory, hdirectory, hdenotes, -⟩ := denotes_run hsound hstart
    [.handle "GET" "/x//b.js?v=2"] [] _ [] rfl _ _ _ _ rfl hanswer
  obtain rfl : ⟨"p"⟩ = directory := Option.some.inj hdirectory
  exact ⟨r, hsound, hstart, hanswer, hdenotes.2 hbare⟩

/-- The URL `/x/b/.js` is taken for the one of `b`, whose file is `x/b.js`; its own file is not
there. -/
theorem exists_alias : ∃ (c : Config) (d : Disk) (s : Service) (d' : Disk) (url : String)
    (directory path : FilePath) (action : Action), d.Sound ∧ start c d = (.ok s, d') ∧
    s.config.publicDirectory = some directory ∧
    (s.handle d' "GET" url).1 = .ok (.served (.stored path action)) ∧
    ¬ Address.Denotes directory url path ∧
    (s.handle d' "GET" url).2.2.isThere (directory.joinAll (Address.names url)) = false := by
  obtain ⟨r, hstart⟩ := start_oneTemplate
  have hurl : Address.keyPath? "/x" "/x/b/.js" = some ⟨["b"]⟩ := by decide
  obtain ⟨d', hhandle, hmissing⟩ := exists_handle_oneTemplate r hurl
  have hown : FilePath.joinAll ⟨"p"⟩ (Address.names "/x/b/.js") = ⟨"p/x/b/.js"⟩ := by
    decide
  refine ⟨_, _, _, _, "/x/b/.js", ⟨"p"⟩, ⟨"p/x/b.js"⟩, .rebuilt, Disk.sound_oneTemplate 100, hstart,
    rfl, congrArg Prod.fst hhandle, ?_, ?_⟩
  · unfold Address.Denotes
    decide
  · rw [hhandle, hown]
    exact hmissing

end Service

end TemplateBundler
