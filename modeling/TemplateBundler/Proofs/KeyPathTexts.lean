import TemplateBundler.Proofs.Outcomes
import TemplateBundler.Proofs.Together
import TemplateBundler.Suggestion

/-!
# Texts of key paths

A text is cut at every `/`, so it leads back to its key path where no name holds one
(`parse_text_iff`). The names of files and directories hold none, as a directory has them as
entries. The name of a block is any text without white space, so that in a built tree the blocks
with a `/` in their names, and no other units, are not found under the texts of their key paths:

    t.resolve (.parse (t.keyPath i).text) = some i ↔ ¬ IsCutBlock t i         (textsLead_of_build)

Such a block is listed and suggested all the same (`exists_listed_not_found`).
-/

namespace TemplateBundler

/-! ## Cutting and joining -/

/-- **A text leads back to its key path** where the names are those that it is cut to. -/
theorem KeyPath.parse_text_iff {k : KeyPath} (hk : ∀ n ∈ k.segments, n ≠ "") :
    KeyPath.parse k.text = k ↔ ∀ n ∈ k.segments, '/' ∉ n.toList := by
  obtain ⟨names⟩ := k
  simp only at hk ⊢
  constructor
  · intro h n hn
    have hmem : n ∈ (KeyPath.parse (KeyPath.text ⟨names⟩)).segments := by rwa [h]
    simp only [KeyPath.parse, KeyPath.ofSegments, List.mem_filter] at hmem
    obtain ⟨cs, hcs, rfl⟩ := List.mem_map.1 hmem.1
    rw [String.toList_ofList]
    exact Text.not_mem_of_mem_pieces '/' _ cs hcs
  · intro h
    by_cases hne : names = []
    · rw [hne]
      rfl
    have hpieces : Text.pieces '/' (Text.joinWith '/' (names.map String.toList)) =
        names.map String.toList := by
      refine Text.pieces_joinWith (by simpa using hne) fun cs hcs => ?_
      obtain ⟨n, hn, rfl⟩ := List.mem_map.1 hcs
      exact h n hn
    have hback : (names.map String.toList).map String.ofList = names := by
      rw [List.map_map]
      exact List.map_congr_left (fun n _ => String.ofList_toList) |>.trans (List.map_id names)
    rw [KeyPath.parse, KeyPath.text, Text.cut, Text.glue, String.toList_ofList, hpieces, hback,
      KeyPath.ofSegments_of_forall_ne hk]

namespace Source

open UnitTree

/-! ## Names in a source -/

section Names
variable {d : Disk} (hd : d.WellFormed) {settings : BuildSettings} {root : FilePath}

include hd

theorem not_mem_of_leads {k : List String} (h : Leads d root k) : ∀ n ∈ k, '/' ∉ n.toList := by
  induction k generalizing root with
  | nil => exact fun n hn => absurd hn List.not_mem_nil
  | cons m k ih =>
    rintro n (_ | ⟨_, hn⟩)
    · exact (isEntryName_of_holds hd h.1).2
    · exact ih h.2 n hn

theorem not_mem_of_templateAt {k : List String} {path : FilePath}
    (h : TemplateAt d settings root k path) : ∀ n ∈ k, '/' ∉ n.toList := by
  obtain ⟨ns, name, hns, ⟨hextension, content, modified, hholds⟩, rfl, -⟩ := h
  intro n hn
  rcases List.mem_append.1 hn with hn | hn
  · exact not_mem_of_leads hd hns n hn
  · rw [List.mem_singleton.1 hn]
    have hname := (isEntryName_of_holds hd hholds).2
    rw [(FilePath.toList_of_extension? hextension).1] at hname
    exact fun hmem => hname (List.mem_append_left _ hmem)

/-- **A separator stands in the names of blocks alone.** -/
theorem UnitOf.exists_slash_iff [Template.Language] {k : List String} {r : Renderer} {o : Origin}
    (h : UnitOf d settings root k r o) :
    (∃ n ∈ k, '/' ∈ n.toList) ↔ ∃ path n, o = .block path n ∧ '/' ∈ n.toList := by
  have hfalse : (∀ n ∈ k, '/' ∉ n.toList) → (∀ path n, o ≠ .block path n) →
      ((∃ n ∈ k, '/' ∈ n.toList) ↔ ∃ path n, o = .block path n ∧ '/' ∈ n.toList) := by
    intro hnames ho
    constructor
    · rintro ⟨n, hn, hslash⟩
      exact absurd hslash (hnames n hn)
    · rintro ⟨path, n, hblock, -⟩
      exact absurd hblock (ho path n)
  cases h with
  | root => exact hfalse (fun n hn => absurd hn List.not_mem_nil) nofun
  | file htemplate => exact hfalse (not_mem_of_templateAt hd htemplate) nofun
  | directory _ _ hfolder => exact hfalse (not_mem_of_leads hd hfolder.2) nofun
  | @block owner path n body r _ howner _ _ =>
    constructor
    · rintro ⟨m, hm, hslash⟩
      rcases List.mem_append.1 hm with hm | hm
      · exact absurd hslash (not_mem_of_templateAt hd howner m hm)
      · rw [List.mem_singleton.1 hm] at hslash
        exact ⟨path, n, rfl, hslash⟩
    · rintro ⟨path', n', hblock, hslash⟩
      cases hblock
      exact ⟨n, by simp, hslash⟩

end Names

/-! ## Units of a tree -/

/-- A block whose name the text of its key path is cut within. -/
def IsCutBlock (t : UnitTree) (i : Nat) : Prop :=
  ∃ path n, origin? t i = some (.block path n) ∧ '/' ∈ n.toList

/-- How the texts of key paths lead to the units of a tree. -/
structure TextsLead (t : UnitTree) : Prop where
  leads_iff : ∀ i ∈ t.descendants rootId,
    t.resolve (.parse (t.keyPath i).text) = some i ↔ ¬ IsCutBlock t i
  listed : ∀ k ∈ t.keyPaths, ∃ i ∈ t.descendants rootId, t.keyPath i = k
  suggested : ∀ missing text, text ∈ suggestions missing (t.keyPaths.map KeyPath.text) →
    ∃ i ∈ t.descendants rootId, (t.keyPath i).text = text
  served : ∀ i ∈ t.descendants rootId, ¬ IsCutBlock t i → ∀ (s : Service) d message, s.tree = t →
    (s.serve d (.parse (t.keyPath i).text)).1 ≠ .error (.notFound message)
  distinct : ∀ i ∈ t.descendants rootId, ∀ j ∈ t.descendants rootId, ¬ IsCutBlock t i →
    ¬ IsCutBlock t j → (t.keyPath i).text = (t.keyPath j).text → i = j

theorem Built.isCutBlock_iff [Template.Language] {d : Disk} (hd : d.WellFormed)
    {settings : BuildSettings} {root : FilePath} {t : UnitTree} (h : Built d settings root t)
    {i : Nat} (hi : i ∈ t.descendants rootId) :
    IsCutBlock t i ↔ ∃ n ∈ (t.keyPath i).segments, '/' ∈ n.toList := by
  have hresolve := (h.shaped.resolve_iff _ i).2 ⟨hi, rfl⟩
  obtain ⟨u, hu⟩ := unit?_isSome (h.linked.follow_lt h.linked.root_lt hresolve)
  rw [(h.shaped.unitOf _ i u hresolve hu).exists_slash_iff hd, IsCutBlock, origin?, hu]
  simp only [Option.map_some, Option.some.injEq]

theorem Built.resolve_text_iff [Template.Language] {d : Disk} (hd : d.WellFormed)
    {settings : BuildSettings} {root : FilePath} {t : UnitTree} (h : Built d settings root t)
    {i : Nat} (hi : i ∈ t.descendants rootId) :
    t.resolve (.parse (t.keyPath i).text) = some i ↔ ¬ IsCutBlock t i := by
  have hnames : ∀ n ∈ (t.keyPath i).segments, n ≠ "" := fun n =>
    KeyPath.ne_empty_of_mem_ofSegments
  rw [h.shaped.resolve_iff, h.isCutBlock_iff hd hi, eq_comm, KeyPath.parse_text_iff hnames]
  simp only [hi, true_and, not_exists, not_and]

/-- **Where texts lead** in a tree that was built. -/
theorem textsLead_of_build [Template.Language] {d : Disk} (hd : d.WellFormed)
    {settings : BuildSettings} {root : FilePath} {builtAt : Time} {t : UnitTree}
    (h : build d settings root builtAt = .ok t) : TextsLead t := by
  have hbuilt := built_of_build hd h
  have hleads := fun i (hi : i ∈ t.descendants rootId) => hbuilt.resolve_text_iff hd hi
  have hlisted : ∀ k ∈ t.keyPaths, ∃ i ∈ t.descendants rootId, t.keyPath i = k := by
    intro k hk
    obtain ⟨i, hi, hik⟩ := List.mem_map.1 hk
    exact ⟨i, List.mem_of_mem_drop hi, hik⟩
  refine ⟨hleads, hlisted, ?_, ?_, ?_⟩
  · intro missing text htext
    obtain ⟨k, hk, rfl⟩ := List.mem_map.1 (mem_suggestions missing _ text htext).1
    obtain ⟨i, hi, rfl⟩ := hlisted k hk
    exact ⟨i, hi, rfl⟩
  · rintro i hi hblock s d' message rfl hserve
    have hnone := (s.serve_notFound_iff d' _).1 ⟨message, hserve⟩
    rw [(hleads i hi).2 hblock] at hnone
    cases hnone
  · intro i hi j hj hblock hblock' htext
    have hresolve := (hleads i hi).2 hblock
    rw [htext, (hleads j hj).2 hblock'] at hresolve
    exact (Option.some.inj hresolve).symm

/-! ## A block with a separator in its name -/

/-- A template with one block. -/
def slashSource : Disk where
  nodes := [(["views"], .directory), (["views", "f.tmpl"], .file (.text "hi\n//-- a/b.tmpl\nyo") 5)]
  workingDirectory := []
  clock := 100

/-- Its tree. -/
def slashTree (a b : Template.Rendering) : UnitTree :=
  grown ⟨"views"⟩ 100
    [⟨⟨"views/f.tmpl"⟩, "f", 5, .template "views/f.tmpl" "hi\n" .standard a,
      [("a/b", .template "views/f.tmpl [a/b]" "yo" .standard b)]⟩] .done

theorem wellFormed_slashSource : slashSource.WellFormed where
  places_nodup := by decide
  isEntryName := by
    unfold Disk.IsEntryName
    decide

theorem build_slashSource : ∃ a b,
    build slashSource smallSettings ⟨"views"⟩ 100 = .ok (slashTree a b) := by
  have hstart : ∀ text, slashSource.start text = [] := fun text => ite_self []
  have hsteps : Disk.steps "views" = ["views"] := by decide
  have hsteps' : Disk.steps "views/f.tmpl" = ["views", "f.tmpl"] := by decide
  have hviews : slashSource.status ⟨"views"⟩ = .ok (["views"], .directory) := by
    refine status_of_walk (by decide) hsteps ?_
    rw [hstart]
    cbv
  have hfile : slashSource.status ⟨"views/f.tmpl"⟩ =
      .ok (["views", "f.tmpl"], .file (.text "hi\n//-- a/b.tmpl\nyo") 5) := by
    refine status_of_walk (by decide) hsteps' ?_
    rw [hstart]
    cbv
  have hsplit : SplitText.ofText "tmpl" "hi\n//-- a/b.tmpl\nyo" = ⟨"hi\n", [("a/b", "yo")]⟩ := by cbv
  have ha : (Renderer.compile "views/f.tmpl" "hi\n" .standard).isOk = true := by cbv
  have hb : (Renderer.compile "views/f.tmpl [a/b]" "yo" .standard).isOk = true := by cbv
  obtain ⟨a, ha⟩ := exists_rendering ha
  obtain ⟨b, hb⟩ := exists_rendering hb
  obtain ⟨htext, htime⟩ := readText_of_status hfile
  have hlisting : slashSource.listing ["views"] =
      [("f.tmpl", .file (.text "hi\n//-- a/b.tmpl\nyo") 5)] := by cbv
  have hentries : entries slashSource "tmpl" ⟨"views"⟩ =
      .ok [("f.tmpl", ⟨"views/f.tmpl"⟩, .template)] := by
    apply entries_of_listing hviews hlisting
    exact .cons (readAs_plain rfl (Or.inr ⟨_, _, rfl, rfl⟩)) .nil
  have hscanned : Scanned slashSource "tmpl" ⟨"views"⟩
      [templateFile slashSource ⟨"views"⟩ "f.tmpl"] .done := ⟨_, hentries, rfl, rfl⟩
  refine ⟨a, b, build_of_scanned wellFormed_slashSource 100 hscanned ?_ rfl⟩
  rw [mapM_eq_ok_iff]
  refine .cons ?_ .nil
  rw [compileFile_templateFile_iff]
  refine ⟨rfl, rfl, htime.symm, ⟨_, htext⟩, ?_, ?_⟩
  · simp only [splitOf, textOf, htext, smallSettings, hsplit, ha]
  · simp only [splitOf, textOf, htext, smallSettings, hsplit]
    exact .cons ⟨rfl, hb⟩ .nil

theorem descendants_slashTree (a b : Template.Rendering) :
    (slashTree a b).descendants rootId = [0, 1, 2] := by cbv

/-- The file is found under its text, and the block is not. -/
theorem textsLead_slashSource : slashSource.WellFormed ∧ ∃ t,
    build slashSource smallSettings ⟨"views"⟩ 100 = .ok t ∧
      t.resolve (.parse (t.keyPath 1).text) = some 1 ∧
      t.resolve (.parse (t.keyPath 2).text) ≠ some 2 := by
  obtain ⟨a, b, hb⟩ := build_slashSource
  have hlead := textsLead_of_build wellFormed_slashSource hb
  have hfile : origin? (slashTree a b) 1 = some (.file ⟨"views/f.tmpl"⟩) := by cbv
  have hblock : origin? (slashTree a b) 2 = some (.block ⟨"views/f.tmpl"⟩ "a/b") := by cbv
  have hmem : ∀ i ∈ [0, 1, 2], i ∈ (slashTree a b).descendants rootId := by
    rw [descendants_slashTree]
    exact fun _ hi => hi
  refine ⟨wellFormed_slashSource, _, hb, (hlead.leads_iff 1 (hmem 1 (by simp))).2 ?_, fun h => ?_⟩
  · rintro ⟨path, n, horigin, -⟩
    rw [hfile] at horigin
    cases horigin
  · exact (hlead.leads_iff 2 (hmem 2 (by simp))).1 h ⟨_, _, hblock, by decide⟩

/-- The block is listed, and suggested for its own text, which leads nowhere. -/
theorem exists_listed_not_found : ∃ d t i, d.WellFormed ∧
    build d smallSettings ⟨"views"⟩ 100 = .ok t ∧ i ∈ t.descendants rootId ∧ i ≠ rootId ∧
      t.keyPath i ∈ t.keyPaths ∧
      (t.keyPath i).text ∈ suggestions (t.keyPath i).text (t.keyPaths.map KeyPath.text) ∧
      t.resolve (.parse (t.keyPath i).text) = none := by
  obtain ⟨a, b, hb⟩ := build_slashSource
  have hpath : (slashTree a b).keyPath 2 = ⟨["f", "a/b"]⟩ := by cbv
  have hpaths : (slashTree a b).keyPaths = [⟨["f"]⟩, ⟨["f", "a/b"]⟩] := by cbv
  have hresolve : (slashTree a b).resolve ⟨["f", "a", "b"]⟩ = none := by cbv
  have hparse : KeyPath.parse (KeyPath.text ⟨["f", "a/b"]⟩) = ⟨["f", "a", "b"]⟩ := by decide
  refine ⟨slashSource, _, 2, wellFormed_slashSource, hb, ?_, by decide, ?_, ?_, ?_⟩
  · rw [descendants_slashTree]
    simp
  · rw [hpath, hpaths]
    simp
  · rw [hpath, hpaths]
    decide +kernel
  · rw [hpath, hparse, hresolve]

end Source

end TemplateBundler
