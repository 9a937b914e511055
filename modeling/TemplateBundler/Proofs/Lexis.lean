import TemplateBundler.Proofs.Quoting
import TemplateBundler.Template.Stock

/-!
# The tags of a template

A template has a lexical structure of its own, apart from which tags go together and what stands in
them: `Lexed l cs words hidden` says which words its tags begin with, and which texts of it are no
part of any tag although they may look like one, the comments, the raw texts and the literals. Where
such a text ends is for the lexis `l` of the language to say. Usually a comment and a raw text go up
to the first thing that ends them, and in the other tags braces stand in literals only
(`Lexis.standard`); a text has one such structure at most (`Lexed.unique`).

What is assumed of a language is that its templates have a structure, and that it reads comments,
raw texts and literals as usual (`ReadsBy`). The grammar of the program does:

    stock.ReadsBy .standard                                                          (readsBy_stock)
-/

namespace TemplateBundler.Template

open Text (Reader)
open Text.Reader

/-! ## Lexical structure -/

/-- Whether the text begins with the opening of a tag. -/
def beginsTag : List Char → Bool
  | c :: d :: _ => opensTag c d
  | _ => false

/-- What stands between the opening of a tag and its first word. -/
inductive Lead : List Char → Prop
  | blanks {cs : List Char} : cs.all isGap = true → Lead cs
  | dash {cs : List Char} : cs.all isGap = true → Lead ('-' :: cs)

/-- How a language reads the parts of a template that hold text. -/
structure Lexis where
  /-- What stands behind the opening of a comment: its text, and what comes after it. -/
  comment : List Char → List Char → List Char → Prop
  /-- What stands behind the tag in front of a raw text: that text, and what comes after its end. -/
  raw : List Char → List Char → List Char → Prop
  /-- What stands in another tag, with the texts of the literals in it. -/
  inside : List Char → List (List Char) → Prop

/-- Comments and raw texts go up to the first thing that ends them, and literals to their mark. -/
def Lexis.standard : Lexis where
  comment cs t rest := ∃ after, textBefore commentEnd cs = some ((t, after), rest)
  raw cs t rest := ∃ stop, textBefore (keywordTag "endraw") cs = some ((t, stop), rest)
  inside := Inside

section Structure

variable (l : Lexis)

/-- The text begins with a tag: the first word of the tag, the texts of the literals in it, and what
comes after it. -/
inductive Tagged : List Char → List Char → List (List Char) → List Char → Prop
  | intro {lead word front rest : List Char} {inner : List (List Char)} :
      Lead lead → word ≠ [] → word.all isNameChar = true →
      (front.head?.all fun c => !isNameChar c) = true → l.inside front inner →
      Tagged ('\x7b' :: '%' :: (lead ++ (word ++ (front ++ '%' :: '\x7d' :: rest)))) word inner rest

/-- The first words of the tags of a text, those around raw texts apart, and its hidden texts. -/
inductive Lexed : List Char → List (List Char) → List (List Char) → Prop
  | nil : Lexed [] [] []
  | plain {c : Char} {cs : List Char} {words hidden : List (List Char)} :
      beginsTag (c :: cs) = false → Lexed cs words hidden → Lexed (c :: cs) words hidden
  | comment {cs t rest : List Char} {words hidden : List (List Char)} :
      l.comment cs t rest → Lexed rest words hidden →
      Lexed ('\x7b' :: '#' :: cs) words (t :: hidden)
  | print {front cs : List Char} {inner words hidden : List (List Char)} :
      l.inside front inner → front.head? ≠ some '%' → Lexed cs words hidden →
      Lexed ('\x7b' :: '\x7b' :: (front ++ '\x7d' :: '\x7d' :: cs)) words (inner ++ hidden)
  | tag {cs word rest : List Char} {inner words hidden : List (List Char)} :
      Tagged l cs word inner rest → word ≠ "raw".toList → Lexed rest words hidden →
      Lexed cs (word :: words) (inner ++ hidden)
  | raw {cs mid t rest : List Char} {words hidden : List (List Char)} :
      Tagged l cs "raw".toList [] mid → l.raw mid t rest → Lexed rest words hidden →
      Lexed cs words (t :: hidden)

/-- What is assumed of a language that reads by the lexis `l`. -/
structure Language.ReadsBy [Language] : Prop where
  /-- A template is made of texts, comments, raw texts and tags. -/
  lexed : ∀ {source}, Accepts source → ∃ words hidden, Lexed l source.toList words hidden
  /-- In a comment, everything up to its end is text. -/
  comment : ∀ {cs t rest}, l.comment cs t rest → Lexis.standard.comment cs t rest
  /-- In a raw text, everything up to its end is text. -/
  raw : ∀ {cs t rest}, l.raw cs t rest → Lexis.standard.raw cs t rest
  /-- In a literal, everything up to its mark is text, and braces stand in literals only. -/
  inside : ∀ {front inner}, l.inside front inner → Lexis.standard.inside front inner

end Structure

/-! ## Tags -/

def IsDash (cs : List Char) : Prop := cs = [] ∨ cs = ['-']

theorem flag_dash {cs rest : List Char} {b : Bool} (h : flag (text "-") cs = some (b, rest)) :
    ∃ dash, IsDash dash ∧ cs = dash ++ rest := by
  rcases orElse_cases h with h | ⟨-, h⟩
  · obtain ⟨u, mid, hread, h⟩ := seqRight_eq_some_iff.1 h
    cases h
    exact ⟨['-'], .inr rfl, word_eq_some_iff.1 hread⟩
  · cases h
    exact ⟨[], .inl rfl, rfl⟩

theorem gap_eq_some {cs rest : List Char} {u : Unit} (h : gap cs = some (u, rest)) :
    ∃ blanks, cs = blanks ++ rest ∧ blanks.all isGap = true := by
  obtain ⟨blanks, mid, hread, h⟩ := bind_eq_some_iff.1 h
  cases h
  obtain ⟨hcs, hblanks, -⟩ := chars_eq_some_iff.1 hread
  exact ⟨blanks, hcs, hblanks⟩

theorem symbol_eq_some {w : String} {cs rest : List Char} {u : Unit}
    (h : symbol w cs = some (u, rest)) :
    ∃ blanks, cs = blanks ++ (w.toList ++ rest) ∧ blanks.all isGap = true := by
  obtain ⟨_, mid, hgap, hword⟩ := seqRight_eq_some_iff.1 h
  obtain ⟨blanks, rfl, hblanks⟩ := gap_eq_some hgap
  exact ⟨blanks, congrArg _ (word_eq_some_iff.1 hword), hblanks⟩

/-- A character that may stand between the last token of a tag and its end. -/
def isTail (c : Char) : Bool := isGap c || c == '-'

/-- What a tag is made of, around what is read in it. -/
theorem between_eq_some {α : Type} {opening closing : String} {p : Reader α} {cs rest : List Char}
    {edges : Edges} {a : α} (h : between opening closing p cs = some ((edges, a), rest)) :
    ∃ dash cs' tail, IsDash dash ∧ cs = opening.toList ++ (dash ++ cs') ∧
      p cs' = some (a, tail ++ (closing.toList ++ rest)) ∧ tail.all isTail = true := by
  obtain ⟨_, mid, hopen, h⟩ := bind_eq_some_iff.1 h
  obtain ⟨before, cs', hbefore, h⟩ := bind_eq_some_iff.1 h
  obtain ⟨a', mid', hread, h⟩ := bind_eq_some_iff.1 h
  obtain ⟨_, mid'', hgap, h⟩ := bind_eq_some_iff.1 h
  obtain ⟨after, rest', hclose, h⟩ := bind_eq_some_iff.1 h
  cases h
  obtain ⟨dash, hdash, rfl⟩ := flag_dash hbefore
  obtain ⟨blanks, rfl, hblanks⟩ := gap_eq_some hgap
  have htail : blanks.all isTail = true :=
    List.all_eq_true.2 fun c hc => by rw [isTail, List.all_eq_true.1 hblanks c hc, Bool.true_or]
  have hfront := word_eq_some_iff.1 hopen
  rcases orElse_cases hclose with h | ⟨-, h⟩
  · obtain ⟨_, _, hboth, h⟩ := seqRight_eq_some_iff.1 h
    obtain ⟨_, _, hminus, hend⟩ := seqRight_eq_some_iff.1 hboth
    cases h
    refine ⟨dash, cs', blanks ++ ['-'], hdash, hfront, ?_, ?_⟩
    · rw [hread, word_eq_some_iff.1 hminus, word_eq_some_iff.1 hend, List.append_assoc]
      rfl
    · rw [List.all_append, htail]
      rfl
  · obtain ⟨_, _, hend, h⟩ := seqRight_eq_some_iff.1 h
    cases h
    refine ⟨dash, cs', blanks, hdash, hfront, ?_, htail⟩
    rw [hread, word_eq_some_iff.1 hend]

theorem inside_tail {tail : List Char} (h : tail.all isTail = true) : Inside tail [] :=
  have hsigns : (outer.all fun c => !isTail c) = true := by decide
  inside_of_all (List.all_eq_true.2 fun c hc =>
    isInner_of_class hsigns (List.all_eq_true.1 h c hc))

theorem isNameChar_of_isTail {c : Char} (h : isTail c = true) : isNameChar c = false := by
  simp only [isTail, isGap, Bool.or_eq_true, beq_iff_eq] at h
  rcases h with (((rfl | rfl) | rfl) | rfl) | rfl <;> decide

theorem lead_of_dash {dash blanks : List Char} (hdash : IsDash dash)
    (hblanks : blanks.all isGap = true) : Lead (dash ++ blanks) := by
  rcases hdash with rfl | rfl
  · exact .blanks hblanks
  · exact .dash hblanks

theorem tagged_of_keywordTag {w : String} (hw : w.toList ≠ [])
    (hname : w.toList.all isNameChar = true) {cs rest : List Char} {edges : Edges}
    (h : keywordTag w cs = some (edges, rest)) : Tagged .standard cs w.toList [] rest := by
  obtain ⟨⟨edges', u⟩, _, htag, h⟩ := bind_eq_some_iff.1 h
  cases h
  obtain ⟨dash, cs', tail, hdash, rfl, hread, htail⟩ := between_eq_some htag
  obtain ⟨blanks, rfl, hblanks⟩ := symbol_eq_some hread
  have hhead : (tail.head?.all fun c => !isNameChar c) = true := by
    cases tail with
    | nil => rfl
    | cons c tail =>
      rw [List.all_cons, Bool.and_eq_true] at htail
      change (!isNameChar c) = true
      rw [isNameChar_of_isTail htail.1]
      rfl
  change Tagged .standard ('\x7b' :: '%' :: (dash ++ (blanks ++ (w.toList ++
    (tail ++ '%' :: '\x7d' :: rest))))) _ _ _
  rw [← List.append_assoc dash]
  exact .intro (lead_of_dash hdash hblanks) hw hname hhead (inside_tail htail)

theorem isTail_of_lead {lead : List Char} (h : Lead lead) : lead.all isTail = true := by
  have hgaps : ∀ {cs : List Char}, cs.all isGap = true → cs.all isTail = true := fun h =>
    List.all_eq_true.2 fun c hc => by rw [isTail, List.all_eq_true.1 h c hc, Bool.true_or]
  cases h with
  | blanks h => exact hgaps h
  | dash h =>
    rw [List.all_cons, hgaps h]
    rfl

/-- A word begins with no character of a class that has none of names. -/
theorem head_word {f : Char → Bool} (hf : ∀ {c}, f c = true → isNameChar c = false)
    {word : List Char} (hne : word ≠ []) (hname : word.all isNameChar = true) (after : List Char) :
    ((word ++ after).head?.all fun c => !f c) = true := by
  obtain ⟨c, word, rfl⟩ := List.exists_cons_of_ne_nil hne
  rw [List.all_cons, Bool.and_eq_true] at hname
  cases hc : f c with
  | false => simp [hc]
  | true =>
    rw [hf hc] at hname
    cases hname.1

/-- The end of a tag does not go on with its first word. -/
theorem head_end {front : List Char} (h : (front.head?.all fun c => !isNameChar c) = true)
    (rest : List Char) : ((front ++ '%' :: rest).head?.all fun c => !isNameChar c) = true := by
  cases front with
  | nil => rfl
  | cons c front => exact h

/-- A tag is read in one way only. -/
theorem Tagged.unique {cs word word' rest rest' : List Char} {inner inner' : List (List Char)}
    (h : Tagged .standard cs word inner rest) (h' : Tagged .standard cs word' inner' rest') :
    word = word' ∧ inner = inner' ∧ rest = rest' := by
  obtain @⟨lead, word, front, rest, inner, hlead, hne, hname, hhead, hfront⟩ := h
  generalize hcs : '\x7b' :: '%' :: (lead ++ (word ++ (front ++ '%' :: '\x7d' :: rest))) = cs at h'
  obtain @⟨lead', word', front', rest', inner', hlead', hne', hname', hhead', hfront'⟩ := h'
  obtain ⟨-, hwords⟩ := chars_inj (List.cons.inj (List.cons.inj hcs).2).2 (isTail_of_lead hlead)
    (isTail_of_lead hlead') (head_word isNameChar_of_isTail hne hname _)
    (head_word isNameChar_of_isTail hne' hname' _)
  obtain ⟨rfl, hfronts⟩ := chars_inj hwords hname hname' (head_end hhead _) (head_end hhead' _)
  -- the percent sign before the end counts as a sign here
  have hpercent : Inside ['%'] [] := .sign (by decide) .nil
  have hends : front ++ ['%'] ++ '\x7d' :: rest = front' ++ ['%'] ++ '\x7d' :: rest' := by
    simpa only [List.append_assoc, List.singleton_append] using hfronts
  obtain ⟨-, hinner, hrest⟩ := (hfront.append hpercent).unique (hfront'.append hpercent) hends
  exact ⟨rfl, by simpa using hinner, hrest⟩

/-- The first thing that ends a text fixes what the text is and what comes after it. -/
theorem eq_of_textBefore {α : Type} {p : Reader α} {cs t t' rest rest' : List Char}
    (h : ∃ a, textBefore p cs = some ((t, a), rest))
    (h' : ∃ a, textBefore p cs = some ((t', a), rest')) : t = t' ∧ rest = rest' := by
  obtain ⟨a, h⟩ := h
  obtain ⟨a', h'⟩ := h'
  rw [h, Option.some.injEq, Prod.mk.injEq, Prod.mk.injEq] at h'
  exact ⟨h'.1.1, h'.2⟩

-- What a text begins with fixes the first part of its structure and leaves a structure of the rest.
section Inversion

variable {l : Lexis} {cs : List Char} {words hidden : List (List Char)}

theorem Tagged.beginsTag {word rest : List Char} {inner : List (List Char)}
    (h : Tagged l cs word inner rest) : Template.beginsTag cs = true := by
  cases h
  rfl

theorem Lexed.of_nil (h : Lexed l [] words hidden) : words = [] ∧ hidden = [] := by
  cases h with
  | nil => exact ⟨rfl, rfl⟩
  | tag htagged | raw htagged => cases htagged

theorem Lexed.of_plain {c : Char} (hplain : Template.beginsTag (c :: cs) = false)
    (h : Lexed l (c :: cs) words hidden) : Lexed l cs words hidden := by
  cases h with
  | plain _ h => exact h
  | comment | print => cases hplain
  | tag htagged | raw htagged =>
    rw [htagged.beginsTag] at hplain
    cases hplain

theorem Lexed.of_comment (h : Lexed l ('\x7b' :: '#' :: cs) words hidden) :
    ∃ t rest hidden', l.comment cs t rest ∧ hidden = t :: hidden' ∧ Lexed l rest words hidden' := by
  cases h with
  | plain hplain => cases hplain
  | comment hend h => exact ⟨_, _, _, hend, rfl, h⟩
  | tag htagged | raw htagged => cases htagged

theorem Lexed.of_print (h : Lexed l ('\x7b' :: '\x7b' :: cs) words hidden) :
    ∃ front rest inner hidden', cs = front ++ '\x7d' :: '\x7d' :: rest ∧ l.inside front inner ∧
      hidden = inner ++ hidden' ∧ Lexed l rest words hidden' := by
  cases h with
  | plain hplain => cases hplain
  | print hinside _ h => exact ⟨_, _, _, _, rfl, hinside, rfl, h⟩
  | tag htagged | raw htagged => cases htagged

theorem Lexed.of_tagged {word rest : List Char} {inner : List (List Char)}
    (htagged : Tagged .standard cs word inner rest) (hword : word ≠ "raw".toList)
    (h : Lexed .standard cs words hidden) :
    ∃ words' hidden', words = word :: words' ∧ hidden = inner ++ hidden' ∧
      Lexed .standard rest words' hidden' := by
  cases h with
  | nil | comment | print => cases htagged
  | plain hplain =>
    rw [htagged.beginsTag] at hplain
    cases hplain
  | tag htagged' _ h =>
    obtain ⟨rfl, rfl, rfl⟩ := htagged.unique htagged'
    exact ⟨_, _, rfl, rfl, h⟩
  | raw htagged' => exact absurd (htagged.unique htagged').1 hword

theorem Lexed.of_raw {mid : List Char} (htagged : Tagged .standard cs "raw".toList [] mid)
    (h : Lexed .standard cs words hidden) :
    ∃ t rest hidden', Lexis.standard.raw mid t rest ∧ hidden = t :: hidden' ∧
      Lexed .standard rest words hidden' := by
  cases h with
  | nil | comment | print => cases htagged
  | plain hplain =>
    rw [htagged.beginsTag] at hplain
    cases hplain
  | tag htagged' hword => exact absurd (htagged.unique htagged').1.symm hword
  | raw htagged' hend h =>
    obtain ⟨-, -, rfl⟩ := htagged.unique htagged'
    exact ⟨_, _, _, hend, rfl, h⟩

end Inversion

/-- **A text has one lexical structure at most.** -/
theorem Lexed.unique {cs : List Char} {words words' hidden hidden' : List (List Char)}
    (h : Lexed .standard cs words hidden) (h' : Lexed .standard cs words' hidden') :
    words = words' ∧ hidden = hidden' := by
  induction h generalizing words' hidden' with
  | nil =>
    obtain ⟨rfl, rfl⟩ := h'.of_nil
    exact ⟨rfl, rfl⟩
  | plain hplain _ ih => exact ih (h'.of_plain hplain)
  | comment hend _ ih =>
    obtain ⟨t, rest, hidden', hend', rfl, hafter⟩ := h'.of_comment
    obtain ⟨rfl, rfl⟩ := eq_of_textBefore hend hend'
    obtain ⟨rfl, rfl⟩ := ih hafter
    exact ⟨rfl, rfl⟩
  | print hinside _ _ ih =>
    obtain ⟨front, rest, inner, hidden', hcs, hinside', rfl, hafter⟩ := h'.of_print
    obtain ⟨rfl, rfl, hrest⟩ := hinside.unique hinside' hcs
    obtain ⟨-, rfl⟩ := List.cons.inj hrest
    obtain ⟨rfl, rfl⟩ := ih hafter
    exact ⟨rfl, rfl⟩
  | tag htagged hword _ ih =>
    obtain ⟨words', hidden', rfl, rfl, hafter⟩ := h'.of_tagged htagged hword
    obtain ⟨rfl, rfl⟩ := ih hafter
    exact ⟨rfl, rfl⟩
  | raw htagged hend _ ih =>
    obtain ⟨t, rest, hidden', hend', rfl, hafter⟩ := h'.of_raw htagged
    obtain ⟨rfl, rfl⟩ := eq_of_textBefore hend hend'
    obtain ⟨rfl, rfl⟩ := ih hafter
    exact ⟨rfl, rfl⟩

section Reads

variable [Language] {l : Lexis} (h : Language.ReadsBy l)

include h

theorem Tagged.standard {cs word rest : List Char} {inner : List (List Char)}
    (htagged : Tagged l cs word inner rest) : Tagged .standard cs word inner rest := by
  cases htagged with
  | intro hlead hne hname hhead hfront => exact .intro hlead hne hname hhead (h.inside hfront)

/-- A text has no other structure than the usual one. -/
theorem Lexed.standard {cs : List Char} {words hidden : List (List Char)}
    (hlexed : Lexed l cs words hidden) : Lexed .standard cs words hidden := by
  induction hlexed with
  | nil => exact .nil
  | plain hplain _ ih => exact .plain hplain ih
  | comment hend _ ih => exact .comment (h.comment hend) ih
  | print hinside hhead _ ih => exact .print (h.inside hinside) hhead ih
  | tag htagged hraw _ ih => exact .tag (htagged.standard h) hraw ih
  | raw htagged hend _ ih => exact .raw (htagged.standard h) (h.raw hend) ih

/-- **Every template has one lexical structure.** -/
theorem Language.ReadsBy.existsUnique_lexed {source : String} (haccepts : Accepts source) :
    ∃ words hidden, ∀ words' hidden',
      Lexed l source.toList words' hidden' ↔ words' = words ∧ hidden' = hidden := by
  obtain ⟨words, hidden, hlexed⟩ := h.lexed haccepts
  refine ⟨words, hidden, fun words' hidden' => ⟨fun h' => ?_, ?_⟩⟩
  · exact (h'.standard h).unique (hlexed.standard h)
  · rintro ⟨rfl, rfl⟩
    exact hlexed

end Reads

/-! ## The grammar of the program -/

/-- The text has a lexical structure. -/
def IsLexed (cs : List Char) : Prop := ∃ words hidden, Lexed .standard cs words hidden

/-- The rest of the text comes after a word and an inside of a tag. -/
def AfterWord (w : String) (cs rest : List Char) : Prop :=
  ∃ blanks front inner, cs = blanks ++ (w.toList ++ (front ++ rest)) ∧ blanks.all isGap = true ∧
    Inside front inner

section Words
variable {α β : Type} {w : String} {p : Reader α}

theorem afterWord_symbol (w : String) : Leaves (AfterWord w) (symbol w) := by
  intro cs u rest h
  obtain ⟨blanks, hcs, hblanks⟩ := symbol_eq_some h
  exact ⟨blanks, [], [], hcs, hblanks, .nil⟩

theorem afterWord_bind {f : α → Reader β} (hp : Leaves (AfterWord w) p) (hf : ∀ a, Tidy (f a)) :
    Leaves (AfterWord w) (p >>= f) := by
  intro cs b rest h
  obtain ⟨a, mid, hfirst, hsecond⟩ := bind_eq_some_iff.1 h
  obtain ⟨blanks, front, inner, rfl, hblanks, hfront⟩ := hp hfirst
  obtain ⟨more, inner', rfl, hmore⟩ := hf a hsecond
  refine ⟨blanks, front ++ more, inner ++ inner', ?_, hblanks, hfront.append hmore⟩
  rw [List.append_assoc]

theorem afterWord_keyword (w : String) : Leaves (AfterWord w) (keyword w) :=
  afterWord_bind (afterWord_symbol w) fun _ => tidy_separation

/-- The first word of a tag begins with the word that is read first in it. -/
theorem tagged_of_tag (hw : w.toList ≠ []) (hname : w.toList.all isNameChar = true)
    (hp : Leaves (AfterWord w) p) {cs rest : List Char} {r : Edges × α}
    (h : tag p cs = some (r, rest)) :
    ∃ run inner, Tagged .standard cs (w.toList ++ run) inner rest := by
  obtain ⟨edges, a⟩ := r
  obtain ⟨dash, cs', tail, hdash, rfl, hread, htail⟩ := between_eq_some h
  obtain ⟨blanks, front, inner, rfl, hblanks, hfront⟩ := hp hread
  -- the word goes on as long as the inside goes on with characters of names
  obtain ⟨run, front', hread⟩ :
      ∃ run front', chars isNameChar (front ++ tail) = some (run, front') :=
    ⟨_, _, rfl⟩
  obtain ⟨hsplit, hrun, hhead⟩ := chars_eq_some_iff.1 hread
  have hinside : Inside front' inner := by
    have h := hfront.append (inside_tail htail)
    rw [hsplit, List.append_nil] at h
    exact h.of_append (f := isNameChar) (by decide) hrun
  have hword : (w.toList ++ run).all isNameChar = true := by
    rw [List.all_append, hname, hrun]
    rfl
  have hne : w.toList ++ run ≠ [] := fun h => hw (List.append_eq_nil_iff.1 h).1
  have hcs : dash ++ (blanks ++ (w.toList ++ (front ++ (tail ++ '%' :: '\x7d' :: rest)))) =
      dash ++ blanks ++ (w.toList ++ run ++ (front' ++ '%' :: '\x7d' :: rest)) := by
    rw [← List.append_assoc front, hsplit]
    simp only [List.append_assoc]
  refine ⟨run, inner, ?_⟩
  change Tagged .standard ('\x7b' :: '%' :: (dash ++ (blanks ++ (w.toList ++ (front ++
    (tail ++ '%' :: '\x7d' :: rest)))))) _ _ _
  rw [hcs]
  exact .intro (lead_of_dash hdash hblanks) hne hword hhead hinside

end Words

/-- The text has a lexical structure if what is left of it has one. -/
def Before (cs rest : List Char) : Prop := IsLexed rest → IsLexed cs

instance : IsPreorder (List Char) Before where
  refl _ := id
  trans _ _ _ h h' := h ∘ h'

theorem before_tag {α : Type} {w : String} {p : Reader α} (hp : Leaves (AfterWord w) p)
    (hname : w.toList.all isNameChar = true) (hw : w.toList.isPrefixOf "raw".toList = false) :
    Leaves Before (tag p) := by
  intro cs r rest h
  rintro ⟨words, hidden, hlexed⟩
  have hfree : ∀ run, w.toList ++ run ≠ "raw".toList := by
    intro run hraw
    have hbegins : w.toList.isPrefixOf (w.toList ++ run) = true :=
      List.isPrefixOf_iff_prefix.2 (List.prefix_append _ _)
    rw [hraw, hw] at hbegins
    cases hbegins
  have hne : w.toList ≠ [] := fun hnil => hfree "raw".toList (by rw [hnil]; rfl)
  obtain ⟨run, inner, htagged⟩ := tagged_of_tag hne hname hp h
  exact ⟨_, _, .tag htagged (hfree run) hlexed⟩

theorem before_keywordTag {w : String} (hname : w.toList.all isNameChar = true)
    (hw : w.toList.isPrefixOf "raw".toList = false) : Leaves Before (keywordTag w) :=
  (before_tag (afterWord_symbol w) hname hw).map _

theorem before_plainText (cs : List Char) : Before cs (plainText cs).2 := by
  induction cs using plainText.induct with
  | case1 => exact id
  | case2 c => exact fun ⟨words, hidden, h⟩ => ⟨words, hidden, .plain rfl h⟩
  | case3 c d cs hopen =>
    rw [plainText, if_pos hopen]
    exact id
  | case4 c d cs hopen front rest hplain ih =>
    rw [Bool.not_eq_true] at hopen
    rw [plainText, if_neg (by rw [hopen]; exact Bool.false_ne_true)]
    intro hrest
    obtain ⟨words, hidden, h⟩ := ih hrest
    exact ⟨words, hidden, .plain hopen h⟩

theorem before_textNode : Leaves Before textNode := by
  intro cs n rest h
  simp only [textNode] at h
  split at h
  · cases h
  · cases h
    exact before_plainText cs

/-- A dash in front of a comment's text does not end it with what follows. -/
theorem commentEnd_dash {cs : List Char} (h : commentEnd cs = none) :
    commentEnd ('-' :: cs) = none := by
  rw [Option.eq_none_iff_forall_ne_some]
  rintro ⟨after, rest⟩ hread
  rcases orElse_cases hread with hread | ⟨-, hread⟩
  · obtain ⟨_, _, hend, -⟩ := seqRight_eq_some_iff.1 hread
    obtain rfl := List.cons.inj (word_eq_some_iff.1 hend) |>.2
    cases h
  · obtain ⟨_, _, hend, -⟩ := seqRight_eq_some_iff.1 hread
    cases word_eq_some_iff.1 hend

theorem textBefore_dash {dash cs : List Char} (hdash : IsDash dash) (hnot : commentEnd cs = none)
    {t rest : List Char} {after : Bool} (h : textBefore commentEnd cs = some ((t, after), rest)) :
    textBefore commentEnd (dash ++ cs) = some ((dash ++ t, after), rest) := by
  rcases hdash with rfl | rfl
  · exact h
  · change textBefore commentEnd ('-' :: cs) = _
    rw [textBefore, commentEnd_dash hnot, h]
    rfl

theorem before_comment : Leaves Before comment := by
  intro cs edges rest h
  obtain ⟨_, mid, hopen, h⟩ := bind_eq_some_iff.1 h
  obtain ⟨before, mid', hbefore, h⟩ := bind_eq_some_iff.1 h
  obtain ⟨_, mid'', hnot, h⟩ := bind_eq_some_iff.1 h
  obtain ⟨⟨t, after⟩, rest', hend, h⟩ := bind_eq_some_iff.1 h
  cases h
  obtain ⟨dash, hdash, rfl⟩ := flag_dash hbefore
  obtain rfl := word_eq_some_iff.1 hopen
  simp only [notAt] at hnot
  split at hnot
  · cases hnot
  next hstop =>
    cases hnot
    rintro ⟨words, hidden, hlexed⟩
    exact ⟨words, _, .comment ⟨after, textBefore_dash hdash hstop hend⟩ hlexed⟩

theorem before_printNode : Leaves Before printNode := by
  refine Leaves.bind ?_ fun _ => leaves_pure _
  intro cs r rest h
  obtain ⟨edges, v⟩ := r
  rintro ⟨words, hidden, hlexed⟩
  obtain ⟨dash, cs', tail, hdash, rfl, hread, htail⟩ := between_eq_some h
  obtain ⟨front, inner, rfl, hfront⟩ := tidy_value hread
  have hinside : Inside (front ++ tail) inner := by
    have h := hfront.append (inside_tail htail)
    rwa [List.append_nil] at h
  have hcs : "\x7b\x7b".toList ++ (dash ++ (front ++ (tail ++ ("\x7d\x7d".toList ++ rest)))) =
      '\x7b' :: '\x7b' :: (dash ++ (front ++ tail) ++ '\x7d' :: '\x7d' :: rest) := by
    simp only [List.append_assoc]
    rfl
  rw [hcs]
  refine ⟨words, inner ++ hidden, .print ?_ ?_ hlexed⟩
  · rcases hdash with rfl | rfl
    · exact hinside
    · exact .sign (by decide) hinside
  · rcases hdash with rfl | rfl
    · intro hhead
      obtain ⟨more, hmore⟩ := List.head?_eq_some_iff.1 hhead
      rw [← List.append_assoc, show front ++ tail = '%' :: more from hmore, List.cons_append,
        value_percent] at hread
      cases hread
    · exact fun h => by cases h

theorem before_assignNode : Leaves Before assignNode := by
  refine Leaves.bind (before_tag (w := "set") ?_ (by decide) (by decide)) fun ⟨_, _, _⟩ => leaves_pure _
  exact afterWord_bind (afterWord_keyword "set") fun _ => (tidy_token tidy_name).bind fun _ =>
    (tidy_symbol (by decide)).bind fun _ => tidy_value.bind fun _ => leaves_pure _

theorem before_rawNode : Leaves Before rawNode := by
  intro cs n rest h
  obtain ⟨start, mid, hstart, h⟩ := bind_eq_some_iff.1 h
  obtain ⟨⟨t, stop⟩, rest', hend, h⟩ := bind_eq_some_iff.1 h
  cases h
  rintro ⟨words, hidden, hlexed⟩
  have htagged := tagged_of_keywordTag (by decide) (by decide) hstart
  exact ⟨words, t :: hidden, .raw htagged ⟨stop, hend⟩ hlexed⟩

section Bodies
variable {inner : Place → Reader Node} (h : ∀ place, Leaves Before (inner place))
include h

theorem before_body (place : Place) : Leaves Before (body inner place) := (h place).many

theorem before_branchNode (place : Place) : Leaves Before (branchNode inner place) := by
  have hcondition : ∀ {w : String}, w.toList.all isNameChar = true →
      w.toList.isPrefixOf "raw".toList = false →
      Leaves Before (tag (keyword w *> expression .logic)) := fun {w} hname hw =>
    before_tag (afterWord_bind (afterWord_keyword w) fun _ => tidy_expression .logic) hname hw
  refine (hcondition (by decide) (by decide)).bind fun ⟨_, _⟩ => ?_
  refine (before_body h place).bind fun _ => ?_
  refine Leaves.bind (Leaves.many ?_) fun _ => ?_
  · exact (hcondition (by decide) (by decide)).bind fun ⟨_, _⟩ =>
      (before_body h place).bind fun _ => leaves_pure _
  refine Leaves.bind (Leaves.option ?_) fun _ => ?_
  · exact (before_keywordTag (by decide) (by decide)).bind fun _ =>
      (before_body h place).bind fun _ => leaves_pure _
  exact (before_keywordTag (by decide) (by decide)).bind fun _ => leaves_pure _

theorem before_loopNode : Leaves Before (loopNode inner) := by
  refine Leaves.bind (before_tag (w := "for") ?_ (by decide) (by decide)) fun ⟨_, ⟨_, _⟩, _⟩ => ?_
  · exact afterWord_bind (afterWord_keyword "for") fun _ => tidy_loopNames.bind fun _ =>
      tidy_separation.bind fun _ => (tidy_keyword (by decide)).bind fun _ =>
        tidy_container.bind fun _ => leaves_pure _
  refine (before_body h .insideLoop).bind fun _ => ?_
  refine ((before_keywordTag (by decide) (by decide)).seqRight (before_body h .insideLoop)).many.bind
    fun _ => ?_
  exact (before_keywordTag (by decide) (by decide)).bind fun _ => leaves_pure _

theorem before_blockNode : Leaves Before (blockNode inner) := by
  refine Leaves.bind (before_tag (w := "block") ?_ (by decide) (by decide)) fun ⟨_, _⟩ => ?_
  · exact afterWord_bind (afterWord_keyword "block") fun _ => tidy_token tidy_name
  refine (before_body h .outside).bind fun _ => ?_
  refine Leaves.bind (before_tag (w := "endblock") ?_ (by decide) (by decide)) fun ⟨_, _⟩ =>
    leaves_pure _
  exact afterWord_bind (afterWord_symbol "endblock") fun _ => (tidy_token tidy_name).option

theorem before_placedNode (place : Place) : Leaves Before (placedNode inner place) := by
  cases place with
  | outside => exact before_blockNode h
  | insideLoop =>
    exact ((before_keywordTag (by decide) (by decide)).map _).orElse
      ((before_keywordTag (by decide) (by decide)).map _)

theorem before_node (place : Place) : Leaves Before (node inner place) :=
  before_textNode.orElse (before_printNode.orElse ((before_comment.map _).orElse
    (before_assignNode.orElse (before_rawNode.orElse ((before_branchNode h place).orElse
      ((before_loopNode h).orElse (before_placedNode h place)))))))

end Bodies

theorem before_template : Leaves Before template :=
  before_comment.many.seqRight (Leaves.many (leaves_nested (fun _ h => before_node h) .outside))

theorem isLexed_of_parse {cs : List Char} (h : (parse? cs).isSome = true) : IsLexed cs := by
  obtain ⟨body, h⟩ := Option.isSome_iff_exists.1 h
  obtain ⟨ns, hall, -⟩ := Option.bind_eq_some_iff.1 h
  simp only [all?] at hall
  split at hall
  · next hread =>
    cases hall
    exact before_template hread ⟨[], [], .nil⟩
  · cases hall

/-- **The program reads as usual.** -/
theorem readsBy_stock : stock.ReadsBy .standard where
  lexed h := isLexed_of_parse (stock_accepts_iff.1 h)
  comment h := h
  raw h := h
  inside h := h

end TemplateBundler.Template
