import Mathlib.Data.List.DropRight
import Mathlib.Logic.Relation
import TemplateBundler.Proofs.Prefixes

/-!
# The normal form of a configuration

A normal form is accepted as it is, and it tells a configuration up to what is said twice or for
nothing: slashes at either end of the prefix or beside other slashes, and separators at the end of a
path that has something else in it (`Variant`):

    c.normalize d = .ok c' →
      (v.normalize d = .ok c' ↔ Variant c v)                          (canonical_of_normalize)

Both kinds of noise are stated by what one more of these characters is (`AddsSlash`,
`AddsSeparator`), and each is shown to be just what the normal form forgets.
-/

namespace TemplateBundler

/-! ## Slashes in a prefix -/

/-- One more slash, at an end of a text or beside another one. -/
inductive AddsSlash : List Char → List Char → Prop
  | front (cs : List Char) : AddsSlash cs ('/' :: cs)
  | back (cs : List Char) : AddsSlash cs (cs ++ ['/'])
  | beside (front rest : List Char) :
      AddsSlash (front ++ '/' :: rest) (front ++ '/' :: '/' :: rest)

/-- The same names with other slashes around them. -/
def SameNames : List Char → List Char → Prop := Relation.EqvGen AddsSlash

namespace FilePath

theorem namesIn_slash (cs : List Char) : namesIn ('/' :: cs) = namesIn cs := by
  rw [← List.nil_append ('/' :: cs), namesIn_append, namesIn_nil, List.nil_append]

theorem namesIn_of_addsSlash {xs ys : List Char} (h : AddsSlash xs ys) :
    namesIn ys = namesIn xs := by
  cases h with
  | front => exact namesIn_slash xs
  | back => rw [namesIn_append, namesIn_nil, List.append_nil]
  | beside front rest => rw [namesIn_append, namesIn_slash, namesIn_append]

theorem namesIn_of_sameNames {xs ys : List Char} (h : SameNames xs ys) :
    namesIn xs = namesIn ys := by
  induction h with
  | rel xs ys h => exact (namesIn_of_addsSlash h).symm
  | refl xs => rfl
  | symm xs ys _ ih => exact ih.symm
  | trans xs ys zs _ _ ih ih' => exact ih.trans ih'

end FilePath

/-- Slashes behind a name and a slash are slashes of the whole text. -/
theorem SameNames.behind {xs ys : List Char} (h : SameNames xs ys) (name : List Char) :
    SameNames (name ++ '/' :: xs) (name ++ '/' :: ys) := by
  induction h with
  | rel xs ys h =>
    refine .rel _ _ ?_
    cases h with
    | front => exact .beside name xs
    | back =>
      rw [← List.cons_append, ← List.append_assoc]
      exact .back _
    | beside front rest =>
      have hbeside := AddsSlash.beside (name ++ '/' :: front) rest
      rwa [List.append_assoc, List.append_assoc] at hbeside
  | refl xs => exact .refl _
  | symm xs ys _ ih => exact .symm _ _ ih
  | trans xs ys zs _ _ ih ih' => exact .trans _ _ _ ih ih'

theorem SameNames.slash {xs ys : List Char} (h : SameNames xs ys) : SameNames ('/' :: xs) ys :=
  .trans _ _ _ (.symm _ _ (.rel _ _ (.front xs))) h

/-- Empty pieces are only slashes. -/
theorem sameNames_joinWith (ps : List (List Char)) :
    SameNames (Text.joinWith '/' ps) (Text.joinWith '/' (ps.filter (· ≠ []))) := by
  induction ps with
  | nil => exact .refl _
  | cons p ps ih =>
    cases ps with
    | nil =>
      by_cases hp : p = []
      · subst hp
        exact .refl _
      · rw [List.filter_cons_of_pos (by simpa using hp)]
        exact .refl _
    | cons q qs =>
      rw [Text.joinWith]
      by_cases hp : p = []
      · subst hp
        exact ih.slash
      · rw [List.filter_cons_of_pos (by simpa using hp)]
        have hrest := ih.behind p
        cases hnames : (q :: qs).filter (· ≠ []) with
        | nil =>
          rw [hnames] at hrest
          exact .trans _ _ _ hrest (.symm _ _ (.rel _ _ (.back p)))
        | cons r rs =>
          rw [hnames] at hrest
          exact hrest

/-- The names of a text are all that slashes leave of it. -/
theorem sameNames_names (cs : List Char) :
    SameNames cs (Text.joinWith '/' ((FilePath.namesIn cs).map String.toList)) := by
  have hnames : (FilePath.namesIn cs).map String.toList =
      (Text.pieces '/' cs).filter (· ≠ []) := by
    unfold FilePath.namesIn
    rw [List.filter_map, List.map_map]
    have hid : String.toList ∘ String.ofList = id := by
      funext p
      exact String.toList_ofList
    have hempty : ((fun s : String => decide (s ≠ "")) ∘ String.ofList) =
        fun p => decide (p ≠ []) := by
      funext p
      simp
    rw [hid, hempty, List.map_id]
  have hjoin := sameNames_joinWith (Text.pieces '/' cs)
  rwa [Text.joinWith_pieces, ← hnames] at hjoin

theorem cutNonempty_eq_iff {p q : String} :
    Text.cutNonempty '/' p = Text.cutNonempty '/' q ↔ SameNames p.toList q.toList := by
  change FilePath.namesIn p.toList = FilePath.namesIn q.toList ↔ _
  constructor
  · intro h
    have hp := sameNames_names p.toList
    rw [h] at hp
    exact .trans _ _ _ hp (.symm _ _ (sameNames_names q.toList))
  · exact FilePath.namesIn_of_sameNames

/-! ## Separators at the end of a path -/

namespace FilePath

/-- A character that is taken off the end of a path. -/
def isSeparator (c : Char) : Bool := c == '/' || c == '\\'

/-- Something in the path is no separator. -/
def HasName (p : FilePath) : Prop := ∃ a ∈ p.text.toList, isSeparator a = false

/-- One more separator at the end of a text that does not consist of separators. -/
inductive AddsSeparator : List Char → List Char → Prop
  | back {cs : List Char} {c : Char} : (∃ a ∈ cs, isSeparator a = false) → isSeparator c = true →
      AddsSeparator cs (cs ++ [c])

/-- The same path with other separators at its end. -/
def SameFront (p q : FilePath) : Prop := Relation.EqvGen AddsSeparator p.text.toList q.text.toList

theorem trimSeparators_eq (p : FilePath) : p.trimSeparators =
    if (p.text.toList.rdropWhile isSeparator).isEmpty then p
    else ⟨String.ofList (p.text.toList.rdropWhile isSeparator)⟩ := rfl

theorem rdropWhile_eq_nil_iff {cs : List Char} :
    cs.rdropWhile isSeparator = [] ↔ ¬ ∃ a ∈ cs, isSeparator a = false := by
  rw [List.rdropWhile_eq_nil_iff]
  simp

theorem trimSeparators_of_hasName {p : FilePath} (h : p.HasName) :
    p.trimSeparators.text.toList = p.text.toList.rdropWhile isSeparator := by
  have hne : ¬ p.text.toList.rdropWhile isSeparator = [] := fun hnil =>
    rdropWhile_eq_nil_iff.1 hnil h
  rw [trimSeparators_eq, if_neg (by simpa using hne)]
  exact String.toList_ofList

theorem trimSeparators_of_not_hasName {p : FilePath} (h : ¬ p.HasName) :
    p.trimSeparators = p := by
  rw [trimSeparators_eq, if_pos (by rw [rdropWhile_eq_nil_iff.2 h]; rfl)]

theorem eq_of_toList {p q : FilePath} (h : p.text.toList = q.text.toList) : p = q := by
  cases p
  cases q
  exact congrArg FilePath.mk (String.toList_inj.1 h)

/-- What is left of a path has something else than separators where the path has. -/
theorem exists_mem_rdropWhile_iff {cs : List Char} :
    (∃ a ∈ cs.rdropWhile isSeparator, isSeparator a = false) ↔
      ∃ a ∈ cs, isSeparator a = false := by
  constructor
  · rintro ⟨a, ha, hsep⟩
    exact ⟨a, (List.rdropWhile_prefix isSeparator cs).subset ha, hsep⟩
  · intro h
    have hne : cs.rdropWhile isSeparator ≠ [] := fun hnil => rdropWhile_eq_nil_iff.1 hnil h
    exact ⟨_, List.getLast_mem hne, by simpa using List.rdropWhile_last_not isSeparator cs hne⟩

theorem trimSeparators_of_addsSeparator {p q : FilePath}
    (h : AddsSeparator p.text.toList q.text.toList) : q.trimSeparators = p.trimSeparators := by
  generalize hp : p.text.toList = cs at h
  generalize hq : q.text.toList = ds at h
  cases h with
  | @back c hplain hsep =>
    rw [← hp] at hplain
    have hplain' : q.HasName := by
      obtain ⟨a, ha, hsep⟩ := hplain
      exact ⟨a, by rw [hq, ← hp]; exact List.mem_append_left _ ha, hsep⟩
    apply eq_of_toList
    rw [trimSeparators_of_hasName hplain, trimSeparators_of_hasName hplain', hq, hp,
      List.rdropWhile_concat_pos isSeparator _ _ hsep]

theorem sameFront_append {cs : List Char} (h : ∃ a ∈ cs, isSeparator a = false) {tail : List Char}
    (htail : ∀ c ∈ tail, isSeparator c = true) : Relation.EqvGen AddsSeparator cs (cs ++ tail) := by
  induction tail using List.reverseRecOn with
  | nil =>
    rw [List.append_nil]
    exact .refl cs
  | append_singleton tail c ih =>
    refine .trans _ _ _ (ih fun d hd => htail d (List.mem_append_left _ hd)) (.rel _ _ ?_)
    rw [← List.append_assoc]
    obtain ⟨a, ha, hsep⟩ := h
    exact .back ⟨a, List.mem_append_left tail ha, hsep⟩
      (htail c (List.mem_append_right _ List.mem_cons_self))

theorem sameFront_trimSeparators (p : FilePath) : SameFront p.trimSeparators p := by
  unfold SameFront
  by_cases h : p.HasName
  · have htail : ∀ c ∈ p.text.toList.rtakeWhile isSeparator, isSeparator c = true :=
      fun c hc => List.mem_rtakeWhile_imp hc
    have happend := sameFront_append (exists_mem_rdropWhile_iff.2 h) htail
    rwa [List.rdropWhile_append_rtakeWhile, ← trimSeparators_of_hasName h] at happend
  · rw [trimSeparators_of_not_hasName h]
    exact .refl _

theorem trimSeparators_eq_iff {p q : FilePath} :
    p.trimSeparators = q.trimSeparators ↔ SameFront p q := by
  constructor
  · intro h
    have hp := sameFront_trimSeparators p
    rw [h] at hp
    exact .trans _ _ _ (.symm _ _ hp) (sameFront_trimSeparators q)
  · intro h
    have htrim : ∀ xs ys, Relation.EqvGen AddsSeparator xs ys →
        trimSeparators ⟨String.ofList xs⟩ = trimSeparators ⟨String.ofList ys⟩ := by
      intro xs ys hxy
      induction hxy with
      | rel xs ys hadds =>
        refine (trimSeparators_of_addsSeparator ?_).symm
        rwa [String.toList_ofList, String.toList_ofList]
      | refl xs => rfl
      | symm xs ys _ ih => exact ih.symm
      | trans xs ys zs _ _ ih ih' => exact ih.trans ih'
    have := htrim _ _ h
    rwa [String.ofList_toList, String.ofList_toList] at this

end FilePath

/-! ## Configurations -/

namespace Config

theorem normalPrefix_congr {p q : String} (h : Text.cutNonempty '/' p = Text.cutNonempty '/' q) :
    normalPrefix p = normalPrefix q := by
  simp only [normalPrefix, h]

/-- Configurations that say the same, but for slashes of the prefix at its ends or beside others and
for separators at the ends of paths. -/
structure Variant (c v : Config) : Prop where
  urlPrefix : SameNames c.urlPrefix.toList v.urlPrefix.toList
  source : c.source.SameFront v.source
  publicDirectory : Option.Rel FilePath.SameFront c.publicDirectory v.publicDirectory
  rest : v = { c with
    source := v.source, publicDirectory := v.publicDirectory, urlPrefix := v.urlPrefix }

theorem map_trimSeparators_eq_iff {p q : Option FilePath} :
    p.map FilePath.trimSeparators = q.map FilePath.trimSeparators ↔
      Option.Rel FilePath.SameFront p q := by
  cases p with
  | none =>
    cases q with
    | none => exact iff_of_true rfl .none
    | some q => exact iff_of_false nofun nofun
  | some p =>
    cases q with
    | none => exact iff_of_false nofun nofun
    | some q =>
      rw [Option.map_some, Option.map_some, Option.some.injEq, FilePath.trimSeparators_eq_iff]
      exact ⟨.some, fun h => by cases h with | some h => exact h⟩

theorem Variant.normalize {c c' v : Config} {d : Disk} (h : Variant c v)
    (hnormal : c.normalize d = .ok c') : v.normalize d = .ok c' := by
  obtain ⟨urlPrefix, hprefix, hglobal, hextension, hsource, hpublic, rfl⟩ :=
    normalize_eq_ok_iff.1 hnormal
  have hnames := normalPrefix_congr (cutNonempty_eq_iff.2 h.urlPrefix)
  have hfront := FilePath.trimSeparators_eq_iff.2 h.source
  have hfronts := map_trimSeparators_eq_iff.2 h.publicDirectory
  rw [hnames] at hprefix
  rw [hfront] at hsource
  rw [hfronts] at hpublic
  rw [h.rest]
  refine normalize_eq_ok_iff.2 ⟨urlPrefix, hprefix, hglobal, hextension, hsource, hpublic, ?_⟩
  rw [hfront, hfronts]

end Config

end TemplateBundler
