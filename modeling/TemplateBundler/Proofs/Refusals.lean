import Mathlib.Data.List.Permutation
import TemplateBundler.Proofs.Lexis
import TemplateBundler.Renderer

/-!
# Which templates are refused

A source is searched, as it is written, for the opening of a tag that needs another template, and
refused where there is one. What the search finds is spoken of in terms of the text alone:

    unsupported? cs = none ↔ ¬HoldsOpening cs                           (unsupported?_eq_none_iff)

In a template whose tags begin with other words such openings stand in hidden texts only, and an
opening that begins in a hidden text ends there: none of its characters ends such a text.

    Lexed .standard cs words hidden → (∀ w ∈ words, w ∉ foreignWords) →
      (HoldsOpening cs ↔ ∃ t ∈ hidden, HoldsOpening t)                               (holds_lexed)

So in every language that reads comments, raw texts and literals as usual, a template without such
tags compiles just when none of those holds such an opening (`compiles_iff`), and one without any tag
may be refused (`refuses_remark`).
-/

namespace TemplateBundler.Renderer

open Text (Reader)
open Text.Reader
open Template (Language Lexis Lexed Inside Tagged Lead stock)

/-! ## Characters -/

theorem isWordChar_of_isNameChar {c : Char} (h : Template.isNameChar c = true) :
    isWordChar c = true := by
  simp only [Template.isNameChar, Template.isLetter, Bool.or_eq_true] at h
  rw [isWordChar, Bool.or_eq_true]
  rcases h with (h | h) | h
  · exact .inl (Text.isAlphanumeric_of_isAlphanum c (by rw [Char.isAlphanum, h, Bool.true_or]))
  · exact .inr h
  · exact .inl (Text.isAlphanumeric_of_isAlphanum c (by rw [Char.isAlphanum, h, Bool.or_true]))

theorem isBlank_of_isGap {c : Char} (h : Template.isGap c = true) : Text.isBlank c = true := by
  simp only [Template.isGap, Bool.or_eq_true, beq_iff_eq] at h
  rcases h with ((rfl | rfl) | rfl) | rfl <;> decide

/-- A range that meets none of the ranges of the blanks. -/
theorem not_isBlank_of_range {lo hi : Nat}
    (hapart : (Text.blanks.all fun r => decide (hi < r.1) || decide (r.2 < lo)) = true) {c : Char}
    (h1 : lo ≤ c.toNat) (h2 : c.toNat ≤ hi) : Text.isBlank c = false := by
  rw [Text.isBlank, Text.inRanges, List.any_eq_false]
  intro r hr
  have hr' := List.all_eq_true.1 hapart r hr
  simp only [Bool.or_eq_true, decide_eq_true_eq] at hr'
  simp only [Bool.and_eq_true, decide_eq_true_eq]
  omega

theorem not_isBlank_of_isNameChar {c : Char} (h : Template.isNameChar c = true) :
    Text.isBlank c = false := by
  delta Template.isNameChar Template.isLetter Char.isAlpha Char.isUpper Char.isLower
    Char.isDigit at h
  simp only [Bool.or_eq_true, Bool.and_eq_true, decide_eq_true_eq, ge_iff_le, beq_iff_eq,
    UInt32.le_iff_toNat_le] at h
  rcases h with ((⟨h1, h2⟩ | ⟨h1, h2⟩) | rfl) | ⟨h1, h2⟩
  · exact not_isBlank_of_range (by decide) h1 h2
  · exact not_isBlank_of_range (by decide) h1 h2
  · decide
  · exact not_isBlank_of_range (by decide) h1 h2

theorem dash_not_word : isWordChar '-' = false := by decide +kernel

/-- The first words of the tags that need other templates. -/
def foreignWords : List (List Char) := ["include".toList, "extends".toList, "import".toList]

theorem foreign_isNameChar {tag : List Char} (h : tag ∈ foreignWords) :
    tag ≠ [] ∧ tag.all Template.isNameChar = true := by
  simp only [foreignWords, List.mem_cons, List.not_mem_nil, or_false] at h
  rcases h with rfl | rfl | rfl <;> decide

/-- A character that may stand in front of the first word of a tag. -/
def isLead (c : Char) : Bool := Text.isBlank c || c == '-'

theorem isNameChar_of_isLead {c : Char} (h : isLead c = true) : Template.isNameChar c = false := by
  cases hname : Template.isNameChar c with
  | false => rfl
  | true =>
    rw [isLead, not_isBlank_of_isNameChar hname, Bool.false_or, beq_iff_eq] at h
    rw [h] at hname
    exact absurd hname (by decide)

/-! ## Openings -/

/-- The text begins like a tag that needs another template. -/
inductive Opens : List Char → Prop
  | intro {dashes blanks tag after : List Char} : (dashes.all (· == '-')) = true →
      blanks.all Text.isBlank = true → tag ∈ foreignWords →
      (after.head?.all fun c => !isWordChar c) = true →
      Opens ('\x7b' :: '%' :: (dashes ++ (blanks ++ (tag ++ after))))

/-- Such a tag opens somewhere in the text. -/
def HoldsOpening (cs : List Char) : Prop := ∃ front rest, cs = front ++ rest ∧ Opens rest

/-- The readers of the three words, in the order in which they are tried. -/
def foreignWord : Reader String :=
  (text "include" *> pure "include") <|> (text "extends" *> pure "extends")
    <|> (text "import" *> pure "import")

theorem text_pure {s : String} {cs rest : List Char} {t : String}
    (h : (text s *> (pure s : Reader String)) cs = some (t, rest)) :
    t = s ∧ cs = s.toList ++ rest := by
  obtain ⟨_, mid, hread, h⟩ := seqRight_eq_some_iff.1 h
  cases h
  exact ⟨rfl, word_eq_some_iff.1 hread⟩

theorem foreignWord_eq_some {cs rest : List Char} {t : String}
    (h : foreignWord cs = some (t, rest)) : t.toList ∈ foreignWords ∧ cs = t.toList ++ rest := by
  rcases orElse_cases h with h | ⟨-, h⟩
  · obtain ⟨rfl, hcs⟩ := text_pure h
    exact ⟨by decide, hcs⟩
  rcases orElse_cases h with h | ⟨-, h⟩
  · obtain ⟨rfl, hcs⟩ := text_pure h
    exact ⟨by decide, hcs⟩
  · obtain ⟨rfl, hcs⟩ := text_pure h
    exact ⟨by decide, hcs⟩

theorem text_eq_none {s t : String} (n : Nat) (hs : n ≤ s.toList.length) (ht : n ≤ t.toList.length)
    (hne : s.toList.take n ≠ t.toList.take n) (after : List Char) :
    text s (t.toList ++ after) = none := by
  rw [Option.eq_none_iff_forall_ne_some]
  rintro ⟨_, rest⟩ h
  have htake := congrArg (List.take n) (word_eq_some_iff.1 h)
  rw [List.take_append_of_le_length ht, List.take_append_of_le_length hs] at htake
  exact hne htake.symm

theorem exists_foreignWord {tag : List Char} (h : tag ∈ foreignWords) (after : List Char) :
    ∃ t, foreignWord (tag ++ after) = some (t, after) := by
  have hread : ∀ s : String, (text s *> (pure s : Reader String)) (s.toList ++ after) =
      some (s, after) := fun s => seqRight_eq_some_iff.2 ⟨(), after, word_eq_some_iff.2 rfl, rfl⟩
  have hother : ∀ {s t : String}, text s (t.toList ++ after) = none →
      (text s *> (pure s : Reader String)) (t.toList ++ after) = none := by
    intro s t hnone
    rw [Option.eq_none_iff_forall_ne_some]
    intro r hr
    obtain ⟨_, _, hsome, -⟩ := seqRight_eq_some_iff.1 (show _ = some (r.1, r.2) from hr)
    rw [hnone] at hsome
    cases hsome
  simp only [foreignWords, List.mem_cons, List.not_mem_nil, or_false] at h
  rcases h with rfl | rfl | rfl
  · refine ⟨"include", ?_⟩
    rw [foreignWord]
    exact orElse_of_some (hread "include")
  · refine ⟨"extends", ?_⟩
    have hextends := text_eq_none (s := "include") (t := "extends") 1 (by decide) (by decide)
      (by decide) after
    rw [foreignWord, orElse_of_none (hother hextends)]
    exact orElse_of_some (hread "extends")
  · refine ⟨"import", ?_⟩
    have hinclude := text_eq_none (s := "include") (t := "import") 2 (by decide) (by decide)
      (by decide) after
    have hextends := text_eq_none (s := "extends") (t := "import") 1 (by decide) (by decide)
      (by decide) after
    rw [foreignWord, orElse_of_none (hother hinclude), orElse_of_none (hother hextends)]
    exact hread "import"

theorem head_blanks {blanks rest : List Char} (hblanks : blanks.all Text.isBlank = true)
    (hrest : (rest.head?.all fun c => !(c == '-')) = true) :
    ((blanks ++ rest).head?.all fun c => !(c == '-')) = true := by
  cases blanks with
  | nil => exact hrest
  | cons b blanks =>
    rw [List.all_cons, Bool.and_eq_true] at hblanks
    have hb : b ≠ '-' := fun e => by
      rw [e] at hblanks
      exact absurd hblanks.1 (by decide)
    simpa using hb

theorem unsupportedTag_isSome_iff {cs : List Char} :
    (unsupportedTag cs).isSome = true ↔ Opens cs := by
  constructor
  · intro h
    obtain ⟨⟨tag, rest⟩, h⟩ := Option.isSome_iff_exists.1 h
    obtain ⟨_, mid, hopen, h⟩ := bind_eq_some_iff.1 h
    obtain ⟨dashes, mid', hdashes, h⟩ := bind_eq_some_iff.1 h
    obtain ⟨blanks, mid'', hblanks, h⟩ := bind_eq_some_iff.1 h
    obtain ⟨tag', after, htag, h⟩ := bind_eq_some_iff.1 h
    obtain ⟨_, after', hstop, h⟩ := bind_eq_some_iff.1 h
    cases h
    have hcs : cs = '\x7b' :: '%' :: mid := word_eq_some_iff.1 hopen
    obtain ⟨hmem, rfl⟩ := foreignWord_eq_some htag
    obtain ⟨hafter, rfl⟩ := notAt_char_iff.1 hstop
    obtain ⟨hmid, halldashes, -⟩ := chars_eq_some_iff.1 hdashes
    obtain ⟨hmid', hallblanks, -⟩ := chars_eq_some_iff.1 hblanks
    rw [hcs, hmid, hmid']
    exact .intro halldashes hallblanks hmem hafter
  · rintro @⟨dashes, blanks, tag, after, hdashes, hblanks, htag, hafter⟩
    obtain ⟨hne, hname⟩ := foreign_isNameChar htag
    have hlead := Template.head_word isNameChar_of_isLead hne hname after
    have hblank := head_all_of_imp (f := Text.isBlank) (fun c hc => by rw [isLead, hc]; rfl) hlead
    have hdash := head_all_of_imp (f := (· == '-'))
      (fun c hc => by rw [isLead, hc, Bool.or_true]) hlead
    obtain ⟨t, ht⟩ := exists_foreignWord htag after
    refine Option.isSome_iff_exists.2 ⟨(t, after), ?_⟩
    refine bind_eq_some_iff.2 ⟨(), _, word_eq_some_iff.2 rfl, ?_⟩
    have hdashes := chars_eq_some_iff.2 ⟨rfl, hdashes, head_blanks hblanks hdash⟩
    have hblanks := chars_eq_some_iff.2 ⟨rfl, hblanks, hblank⟩
    refine bind_eq_some_iff.2 ⟨dashes, _, hdashes, ?_⟩
    refine bind_eq_some_iff.2 ⟨blanks, _, hblanks, ?_⟩
    refine bind_eq_some_iff.2 ⟨t, after, ht, ?_⟩
    exact bind_eq_some_iff.2 ⟨(), after, notAt_char_iff.2 ⟨hafter, rfl⟩, rfl⟩

theorem holds_cons {c : Char} {cs : List Char} :
    HoldsOpening (c :: cs) ↔ Opens (c :: cs) ∨ HoldsOpening cs := by
  constructor
  · rintro ⟨front, rest, hcs, hopens⟩
    cases front with
    | nil => exact .inl (hcs ▸ hopens)
    | cons d front => exact .inr ⟨front, rest, (List.cons.inj hcs).2, hopens⟩
  · rintro (hopens | ⟨front, rest, rfl, hopens⟩)
    · exact ⟨[], c :: cs, rfl, hopens⟩
    · exact ⟨c :: front, rest, rfl, hopens⟩

theorem not_holds_nil : ¬HoldsOpening [] := by
  rintro ⟨front, rest, hnil, hopens⟩
  rw [(List.append_eq_nil_iff.1 hnil.symm).2] at hopens
  cases hopens

/-- **What the search for such a tag finds.** -/
theorem unsupported?_eq_none_iff {cs : List Char} : unsupported? cs = none ↔ ¬HoldsOpening cs := by
  induction cs with
  | nil => exact ⟨fun _ => not_holds_nil, fun _ => rfl⟩
  | cons c cs ih =>
    rw [holds_cons, ← unsupportedTag_isSome_iff, not_or, ← ih, unsupported?]
    cases unsupportedTag (c :: cs) with
    | none => simp
    | some r => simp

/-! ## Openings in parts of a text -/

/-- Only a brace with a percent sign behind it can open. -/
theorem not_opens {c d : Char} {cs : List Char} (h : c ≠ '\x7b' ∨ d ≠ '%') :
    ¬Opens (c :: d :: cs) := by
  intro hopens
  cases hopens
  rcases h with h | h
  · exact h rfl
  · exact h rfl

theorem not_opens_of_head {c : Char} {cs : List Char} (h : c ≠ '\x7b') : ¬Opens (c :: cs) := by
  intro hopens
  cases hopens
  exact h rfl

theorem holds_cons_of_ne {c : Char} {cs : List Char} (h : c ≠ '\x7b') :
    HoldsOpening (c :: cs) ↔ HoldsOpening cs := by
  rw [holds_cons, or_iff_right (not_opens_of_head h)]

theorem holds_append_of_free {front cs : List Char} (h : '\x7b' ∉ front) :
    HoldsOpening (front ++ cs) ↔ HoldsOpening cs := by
  induction front with
  | nil => exact Iff.rfl
  | cons c front ih =>
    rw [List.mem_cons, not_or] at h
    rw [List.cons_append, holds_cons_of_ne (Ne.symm h.1), ih h.2]

/-- The characters with which a text can go on behind a hidden one. -/
def stops : List Char := '#' :: Template.outer

/-- A text that goes on with no opening that began before it: behind its dashes comes a character
that is neither blank nor part of a word. -/
def Blunt (cs : List Char) : Prop :=
  ∃ dashes c rest, cs = dashes ++ c :: rest ∧ (dashes.all (· == '-')) = true ∧ c ∈ stops

theorem of_mem_stops {c : Char} (h : c ∈ stops) :
    c ≠ '-' ∧ c ≠ '%' ∧ Text.isBlank c = false ∧ isWordChar c = false := by
  have hall : (stops.all fun c =>
      c != '-' && c != '%' && !Text.isBlank c && !isWordChar c) = true := by decide +kernel
  simpa [and_assoc] using List.all_eq_true.1 hall c h

theorem foreign_isWordChar {tag : List Char} (h : tag ∈ foreignWords) :
    ∀ c ∈ tag, isWordChar c = true := fun c hc =>
  isWordChar_of_isNameChar (List.all_eq_true.1 (foreign_isNameChar h).2 c hc)

theorem head_of_blunt {cs : List Char} (h : Blunt cs) :
    (cs.head?.all fun c => !isWordChar c) = true := by
  obtain ⟨dashes, c, rest, rfl, hdashes, hc⟩ := h
  cases dashes with
  | nil =>
    change (!isWordChar c) = true
    rw [(of_mem_stops hc).2.2.2]
    rfl
  | cons d dashes =>
    rw [List.all_cons, Bool.and_eq_true, beq_iff_eq] at hdashes
    change (!isWordChar d) = true
    rw [hdashes.1, dash_not_word]
    rfl

/-- What a blunt text goes on with is no end of an opening. -/
theorem not_blunt_append {back after : List Char} {z : Char} (hz : z ∈ back)
    (hword : isWordChar z = true) (hback : ∀ c ∈ back, c ∉ stops) : ¬Blunt (back ++ after) := by
  rintro ⟨dashes, c, rest, hcs, hdashes, hc⟩
  have hz' : z ∉ dashes := fun h => by
    rw [beq_iff_eq.1 (List.all_eq_true.1 hdashes z h), dash_not_word] at hword
    cases hword
  rcases List.append_eq_append_iff.1 hcs with ⟨more, rfl, -⟩ | ⟨more, rfl, hmore⟩
  · exact hz' (List.mem_append_left _ hz)
  · cases more with
    | nil =>
      rw [List.append_nil] at hz
      exact hz' hz
    | cons d more =>
      obtain rfl := (List.cons.inj hmore).1
      exact hback c (List.mem_append_right _ List.mem_cons_self) hc

/-- None of the characters of an opening can end a hidden text. -/
theorem not_stops_of_mem {dashes blanks tag : List Char} (hdashes : (dashes.all (· == '-')) = true)
    (hblanks : blanks.all Text.isBlank = true) (htag : tag ∈ foreignWords) {c : Char}
    (hc : c ∈ '%' :: (dashes ++ (blanks ++ tag))) : c ∉ stops := by
  intro hstop
  obtain ⟨hdash, hpercent, hblank, hword⟩ := of_mem_stops hstop
  rcases List.mem_cons.1 hc with hc | hc
  · exact hpercent hc
  rcases List.mem_append.1 hc with hc | hc
  · exact hdash (beq_iff_eq.1 (List.all_eq_true.1 hdashes c hc))
  rcases List.mem_append.1 hc with hc | hc
  · rw [List.all_eq_true.1 hblanks c hc] at hblank
    cases hblank
  · rw [foreign_isWordChar htag c hc] at hword
    cases hword

theorem opens_append {c : Char} {t s : List Char} (hs : Blunt s) :
    Opens (c :: (t ++ s)) ↔ Opens (c :: t) := by
  constructor
  · intro h
    generalize hwhole : c :: (t ++ s) = cs at h
    obtain @⟨dashes, blanks, tag, after, hdashes, hblanks, htag, hafter⟩ := h
    obtain ⟨rfl, hcs⟩ := List.cons.inj hwhole
    have hbody : t ++ s = '%' :: (dashes ++ (blanks ++ tag)) ++ after := by
      rw [hcs]
      simp only [List.cons_append, List.append_assoc]
    rcases List.append_eq_append_iff.1 hbody with ⟨back, hback, rfl⟩ | ⟨more, rfl, rfl⟩
    · -- the hidden text ends inside the opening, or with it
      rcases List.eq_nil_or_concat' back with rfl | ⟨front, z, rfl⟩
      · rw [List.append_nil] at hback
        rw [← hback]
        rw [← List.append_nil tag]
        exact .intro hdashes hblanks htag rfl
      · obtain ⟨tag', y, rfl⟩ := (List.eq_nil_or_concat' tag).resolve_left (foreign_isNameChar htag).1
        have hends : '%' :: (dashes ++ (blanks ++ tag')) ++ [y] = t ++ front ++ [z] := by
          simpa only [List.append_assoc, List.cons_append] using hback
        obtain ⟨-, hlast⟩ := List.append_inj' hends rfl
        refine absurd hs (not_blunt_append (z := z) (List.mem_append_right _ List.mem_cons_self) ?_ ?_)
        · rw [← (List.cons.inj hlast).1]
          exact foreign_isWordChar htag y (List.mem_append_right _ List.mem_cons_self)
        · exact fun c hc => not_stops_of_mem hdashes hblanks htag
            (hback ▸ List.mem_append_right t hc)
    · rw [List.cons_append, List.append_assoc, List.append_assoc]
      refine .intro hdashes hblanks htag ?_
      cases more with
      | nil => rfl
      | cons d more => exact hafter
  · intro h
    generalize hwhole : c :: t = cs at h
    obtain @⟨dashes, blanks, tag, after, hdashes, hblanks, htag, hafter⟩ := h
    obtain ⟨rfl, rfl⟩ := List.cons.inj hwhole
    have hopens : Opens ('\x7b' :: '%' :: (dashes ++ (blanks ++ (tag ++ (after ++ s))))) := by
      refine .intro hdashes hblanks htag ?_
      cases after with
      | nil => exact head_of_blunt hs
      | cons d after => exact hafter
    simpa only [List.cons_append, List.append_assoc] using hopens

/-- A hidden text and what comes after it hold their openings apart. -/
theorem holds_hidden {t s : List Char} (hs : Blunt s) :
    HoldsOpening (t ++ s) ↔ HoldsOpening t ∨ HoldsOpening s := by
  induction t with
  | nil => exact (or_iff_right not_holds_nil).symm
  | cons c t ih => rw [List.cons_append, holds_cons, holds_cons, opens_append hs, ih, or_assoc]

theorem ne_brace_of_isInner {c : Char} (h : Template.isInner c = true) : c ≠ '\x7b' := by
  rintro rfl
  exact absurd h (by decide)

/-- The openings in an inside of a tag are those in its literals. -/
theorem holds_inside {front : List Char} {inner : List (List Char)} (h : Inside front inner)
    (s : List Char) :
    HoldsOpening (front ++ s) ↔ (∃ t ∈ inner, HoldsOpening t) ∨ HoldsOpening s := by
  induction h with
  | nil => simp
  | sign hc _ ih => rw [List.cons_append, holds_cons_of_ne (ne_brace_of_isInner hc), ih]
  | @literal mark t cs inner hmark _ _ ih =>
    have hinner : Template.isInner mark = false := by
      rw [Template.isInner, hmark, Bool.not_true, Bool.and_false]
    have hne : mark ≠ '\x7b' := by
      rintro rfl
      exact absurd hmark (by decide)
    have hs : Blunt (mark :: (cs ++ s)) :=
      ⟨[], mark, cs ++ s, rfl, rfl, List.mem_cons_of_mem _ (Template.mem_outer_of_isInner hinner)⟩
    rw [List.cons_append, List.append_assoc, List.cons_append, holds_cons_of_ne hne,
      holds_hidden hs, holds_cons_of_ne hne, ih, ← or_assoc, List.exists_mem_cons_iff]

/-! ## Openings in a template -/

theorem isLead_of_lead {lead : List Char} (h : Lead lead) : lead.all isLead = true := by
  refine List.all_eq_true.2 fun c hc => ?_
  have htail := List.all_eq_true.1 (Template.isTail_of_lead h) c hc
  rw [Template.isTail, Bool.or_eq_true] at htail
  rw [isLead, Bool.or_eq_true]
  exact htail.imp_left isBlank_of_isGap

/-- A tag with another first word is no opening. -/
theorem not_opens_of_tagged {cs word rest : List Char} {inner : List (List Char)}
    (h : Tagged .standard cs word inner rest) (hword : word ∉ foreignWords) : ¬Opens cs := by
  obtain @⟨lead, word, front, rest, inner, hlead, hne, hname, hhead, -⟩ := h
  intro hopens
  generalize hcs : '\x7b' :: '%' :: (lead ++ (word ++ (front ++ '%' :: '\x7d' :: rest))) = cs
    at hopens
  obtain @⟨dashes, blanks, tag, after, hdashes, hblanks, htag, hafter⟩ := hopens
  have hcs : lead ++ (word ++ (front ++ '%' :: '\x7d' :: rest)) =
      dashes ++ blanks ++ (tag ++ after) := by
    rw [List.append_assoc]
    exact (List.cons.inj (List.cons.inj hcs).2).2
  obtain ⟨hne', hname'⟩ := foreign_isNameChar htag
  have hlead' : (dashes ++ blanks).all isLead = true := by
    rw [List.all_append, Bool.and_eq_true]
    refine ⟨List.all_eq_true.2 fun c hc => ?_, List.all_eq_true.2 fun c hc => ?_⟩
    · rw [isLead, List.all_eq_true.1 hdashes c hc, Bool.or_true]
    · rw [isLead, List.all_eq_true.1 hblanks c hc, Bool.true_or]
  obtain ⟨-, hcs⟩ := chars_inj hcs (isLead_of_lead hlead) hlead'
    (Template.head_word isNameChar_of_isLead hne hname _)
    (Template.head_word isNameChar_of_isLead hne' hname' _)
  -- both words end where the run of their characters ends
  obtain ⟨rfl, -⟩ := chars_inj hcs hname hname' (Template.head_end hhead _)
    (head_all_of_imp (fun _ => isWordChar_of_isNameChar) hafter)
  exact hword htag

/-- Openings in a text that begins with a tag. -/
theorem holds_tagged {cs word rest : List Char} {inner : List (List Char)}
    (h : Tagged .standard cs word inner rest) (hword : word ∉ foreignWords) :
    HoldsOpening cs ↔ (∃ t ∈ inner, HoldsOpening t) ∨ HoldsOpening rest := by
  have hnot := not_opens_of_tagged h hword
  obtain @⟨lead, word, front, rest, inner, hlead, hne, hname, hhead, hfront⟩ := h
  have hleadfree : '\x7b' ∉ lead := by
    exact fun hmem => absurd (List.all_eq_true.1 (isLead_of_lead hlead) _ hmem) (by decide)
  have hwordfree : '\x7b' ∉ word := fun hmem =>
    absurd (List.all_eq_true.1 hname _ hmem) (by decide)
  have hpercent : '%' ≠ '\x7b' := by decide
  have hbrace : '\x7d' ≠ '\x7b' := by decide
  rw [holds_cons, or_iff_right hnot, holds_cons_of_ne hpercent, holds_append_of_free hleadfree,
    holds_append_of_free hwordfree, holds_inside hfront, holds_cons_of_ne hpercent,
    holds_cons_of_ne hbrace]

theorem commentEnd_eq_some {cs rest : List Char} {after : Bool}
    (h : Template.commentEnd cs = some (after, rest)) :
    ∃ dash, Template.IsDash dash ∧ cs = dash ++ '#' :: '\x7d' :: rest := by
  rcases orElse_cases h with h | ⟨-, h⟩
  · obtain ⟨_, _, hend, h⟩ := seqRight_eq_some_iff.1 h
    cases h
    have hcs := word_eq_some_iff.1 hend
    exact ⟨['-'], .inr rfl, hcs⟩
  · obtain ⟨_, _, hend, h⟩ := seqRight_eq_some_iff.1 h
    cases h
    have hcs := word_eq_some_iff.1 hend
    exact ⟨[], .inl rfl, hcs⟩

theorem holds_comment {cs t rest : List Char} {after : Bool}
    (h : textBefore Template.commentEnd cs = some ((t, after), rest)) :
    HoldsOpening cs ↔ HoldsOpening t ∨ HoldsOpening rest := by
  obtain ⟨s, rfl, hend⟩ := textBefore_eq_some h
  obtain ⟨dash, hdash, rfl⟩ := commentEnd_eq_some hend
  have hstop : '#' ∈ stops := List.mem_cons_self
  have hall : (dash.all (· == '-')) = true ∧ '\x7b' ∉ dash := by
    rcases hdash with rfl | rfl <;> decide
  rw [holds_hidden ⟨dash, '#', _, rfl, hall.1, hstop⟩, holds_append_of_free hall.2,
    holds_cons_of_ne (by decide), holds_cons_of_ne (by decide)]

theorem holds_raw {mid t rest : List Char} {stop : Template.Edges}
    (h : textBefore (Template.keywordTag "endraw") mid = some ((t, stop), rest)) :
    HoldsOpening mid ↔ HoldsOpening t ∨ HoldsOpening rest := by
  obtain ⟨s, rfl, hend⟩ := textBefore_eq_some h
  have htagged := Template.tagged_of_keywordTag (by decide) (by decide) hend
  have hs : Blunt s := by
    cases htagged
    exact ⟨[], _, _, rfl, rfl, by decide⟩
  rw [holds_hidden hs, holds_tagged htagged (by decide)]
  simp

/-- **Where openings stand in a template**: in its hidden texts only. -/
theorem holds_lexed {cs : List Char} {words hidden : List (List Char)}
    (h : Lexed .standard cs words hidden) (hwords : ∀ w ∈ words, w ∉ foreignWords) :
    HoldsOpening cs ↔ ∃ t ∈ hidden, HoldsOpening t := by
  induction h with
  | nil => simp [not_holds_nil]
  | @plain c cs words hidden hplain _ ih =>
    rw [holds_cons, or_iff_right, ih hwords]
    intro hopens
    cases hopens
    cases hplain
  | comment hend _ ih =>
    obtain ⟨after, hend⟩ := hend
    rw [holds_cons, or_iff_right (not_opens (.inr (by decide))), holds_cons_of_ne (by decide),
      holds_comment hend, ih hwords, List.exists_mem_cons_iff]
  | @print front cs inner words hidden hinside hhead _ ih =>
    have hnot : ¬Opens ('\x7b' :: (front ++ '\x7d' :: '\x7d' :: cs)) := by
      cases front with
      | nil => exact not_opens (.inr (by decide))
      | cons c front => exact not_opens (.inr fun hc => hhead (congrArg some hc))
    rw [holds_cons, or_iff_right (not_opens (.inr (by decide))), holds_cons, or_iff_right hnot,
      holds_inside hinside, holds_cons_of_ne (by decide), holds_cons_of_ne (by decide), ih hwords]
    simp only [List.mem_append, or_and_right, exists_or]
  | tag htagged _ _ ih =>
    rw [List.forall_mem_cons] at hwords
    rw [holds_tagged htagged hwords.1, ih hwords.2]
    simp only [List.mem_append, or_and_right, exists_or]
  | raw htagged hend _ ih =>
    obtain ⟨stop, hend⟩ := hend
    rw [holds_tagged htagged (by decide), holds_raw hend, ih hwords, List.exists_mem_cons_iff]
    simp

/-- **Which templates compile**, of those in which no tag needs another template: the ones with no
such tag in a comment, in a raw text or in a literal. -/
theorem compiles_iff [Language] {l : Lexis} (h : Language.ReadsBy l) {source : String}
    (haccepts : Language.Accepts source) :
    ∃ words hidden,
      (∀ words' hidden', Lexed l source.toList words' hidden' ↔ words' = words ∧ hidden' = hidden) ∧
      ((∀ w ∈ words, w ∉ foreignWords) → ∀ filename flags,
        ((∃ r, compile filename source flags = .ok r) ↔ ∀ t ∈ hidden, ¬HoldsOpening t) ∧
        ((∃ t ∈ hidden, HoldsOpening t) →
          ∃ tag, compile filename source flags = .error (.unsupported filename tag))) := by
  obtain ⟨words, hidden, hunique⟩ := h.existsUnique_lexed haccepts
  refine ⟨words, hidden, hunique, fun hwords filename flags => ?_⟩
  have hlexed := ((hunique words hidden).2 ⟨rfl, rfl⟩).standard h
  have hfound : unsupported? source.toList = none ↔ ∀ t ∈ hidden, ¬HoldsOpening t := by
    rw [unsupported?_eq_none_iff, holds_lexed hlexed hwords]
    simp
  obtain ⟨rendering, hparse⟩ := haccepts
  rw [← hfound]
  unfold compile
  cases hsearch : unsupported? source.toList with
  | none =>
    rw [hparse]
    refine ⟨⟨fun _ => rfl, fun _ => ⟨_, rfl⟩⟩, ?_⟩
    rintro ⟨t, ht, hopens⟩
    exact absurd hopens (hfound.1 hsearch t ht)
  | some tag =>
    refine ⟨⟨fun ⟨r, hr⟩ => ?_, fun hnone => ?_⟩, fun _ => ⟨tag, rfl⟩⟩
    · cases hr
    · cases hnone

/-- A text that begins with a comment and has no tag behind it. -/
theorem lexed_remark {cs t rest : List Char} (hend : Lexis.standard.comment cs t rest)
    (hfree : '\x7b' ∉ rest) : Lexed .standard ('\x7b' :: '#' :: cs) [] [t] := by
  refine .comment hend ?_
  clear hend
  induction rest with
  | nil => exact .nil
  | cons c rest ih =>
    rw [List.mem_cons, not_or] at hfree
    refine .plain ?_ (ih hfree.2)
    cases rest with
    | nil => rfl
    | cons d rest =>
      have hc : (c == '\x7b') = false := beq_eq_false_iff_ne.2 (Ne.symm hfree.1)
      rw [Template.beginsTag, Template.opensTag, hc, Bool.false_and]

/-- A comment may hold the opening of any other tag. -/
theorem compiles_remark :
    ∃ r, compile "t.tmpl" "\x7b# \x7b% x #\x7dok" ⟨true, false⟩ = .ok r := by
  have haccepts : stock.Accepts "\x7b# \x7b% x #\x7dok" := Template.stock_accepts_iff.2 (by cbv)
  have hend : Lexis.standard.comment " \x7b% x #\x7dok".toList " \x7b% x ".toList "ok".toList :=
    ⟨false, by decide +kernel⟩
  obtain ⟨words, hidden, hunique, hcompile⟩ := compiles_iff Template.readsBy_stock haccepts
  obtain ⟨rfl, rfl⟩ := (hunique [] [" \x7b% x ".toList]).1 (lexed_remark hend (by decide))
  refine (hcompile (by simp) "t.tmpl" ⟨true, false⟩).1.2 fun t ht => ?_
  rw [List.mem_singleton.1 ht]
  exact unsupported?_eq_none_iff.1 (by decide +kernel)

/-- A template without any tag that is refused for what its comment says. -/
theorem refuses_remark : stock.Accepts "\x7b# \x7b% include \"x\" %\x7d #\x7dok" ∧
    Lexed .standard "\x7b# \x7b% include \"x\" %\x7d #\x7dok".toList []
      [" \x7b% include \"x\" %\x7d ".toList] ∧
    ∀ filename flags, compile filename "\x7b# \x7b% include \"x\" %\x7d #\x7dok" flags =
      .error (.unsupported filename "include") := by
  have hend : Lexis.standard.comment " \x7b% include \"x\" %\x7d #\x7dok".toList
      " \x7b% include \"x\" %\x7d ".toList "ok".toList := ⟨false, by decide +kernel⟩
  have hsearch : unsupported? "\x7b# \x7b% include \"x\" %\x7d #\x7dok".toList =
      some "include" := by decide +kernel
  refine ⟨Template.stock_accepts_iff.2 (by cbv), lexed_remark hend (by decide),
    fun filename flags => ?_⟩
  rw [compile, hsearch]

end TemplateBundler.Renderer
