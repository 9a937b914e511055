import Mathlib.Data.List.Basic
import TemplateBundler.Proofs.Reading
import TemplateBundler.Template.Grammar

/-!
# What stands inside a tag

An inside is a row of signs, which are neither braces nor marks, and of literals, each a text between
two equal marks. The literals are a matter of the characters alone: a mark opens one, and the next
mark of the same kind ends it (`Inside`). All that the readers of expressions take is an inside, or a
part of one that cuts no literal:

    Tidy p, p cs = some (a, rest) → ∃ front hidden, cs = front ++ rest ∧ Inside front hidden
    Tidy value                                                                      (tidy_value)

An expression never begins with a percent sign (`value_percent`).
-/

namespace TemplateBundler.Template

open Text (Reader)
open Text.Reader

/-! ## Signs and literals -/

/-- A character that stands in a tag as it is: it opens no literal, and begins and ends no tag. -/
def isInner (c : Char) : Bool := c != '\x7b' && c != '\x7d' && !isMark c

/-- The inside of a tag, with the texts of the literals in it. -/
inductive Inside : List Char → List (List Char) → Prop
  | nil : Inside [] []
  | sign {c : Char} {cs : List Char} {hidden : List (List Char)} : isInner c = true →
      Inside cs hidden → Inside (c :: cs) hidden
  | literal {mark : Char} {t cs : List Char} {hidden : List (List Char)} : isMark mark = true →
      mark ∉ t → Inside cs hidden → Inside (mark :: (t ++ mark :: cs)) (t :: hidden)

theorem Inside.append {xs ys : List Char} {hidden hidden' : List (List Char)}
    (h : Inside xs hidden) (h' : Inside ys hidden') : Inside (xs ++ ys) (hidden ++ hidden') := by
  induction h with
  | nil => exact h'
  | sign hc _ ih => exact .sign hc ih
  | literal hmark ht _ ih =>
    rw [List.cons_append, List.append_assoc, List.cons_append]
    exact .literal hmark ht ih

theorem inside_of_all {cs : List Char} (h : cs.all isInner = true) : Inside cs [] := by
  induction cs with
  | nil => exact .nil
  | cons c cs ih =>
    rw [List.all_cons, Bool.and_eq_true] at h
    exact .sign h.1 (ih h.2)

/-- The characters that are no signs. -/
def outer : List Char := ['\x7b', '\x7d', '"', '\'', Char.ofNat 96]

theorem mem_outer_of_isInner {c : Char} (h : isInner c = false) : c ∈ outer := by
  have hat : ∀ {n}, c.toNat = n → c = Char.ofNat n := fun h => by rw [← h, Char.ofNat_toNat]
  have hc : c = '\x7b' ∨ c = '\x7d' ∨ c.toNat = 34 ∨ c.toNat = 39 ∨ c.toNat = 96 := by
    simpa [isInner, isMark, isQuote, isApostrophe, ← imp_iff_not_or, or_iff_not_imp_left] using h
  rcases hc with rfl | rfl | hc | hc | hc
  · decide
  · decide
  · rw [hat hc]
    decide
  · rw [hat hc]
    decide
  · rw [hat hc]
    decide

/-- A class of signs is one that leaves five characters out. -/
theorem isInner_of_class {f : Char → Bool} (hf : (outer.all fun c => !f c) = true) {c : Char}
    (hc : f c = true) : isInner c = true := by
  by_contra hinner
  rw [Bool.not_eq_true] at hinner
  have hout := List.all_eq_true.1 hf c (mem_outer_of_isInner hinner)
  rw [hc] at hout
  cases hout

/-- An inside goes on behind signs that it begins with. -/
theorem Inside.of_append {f : Char → Bool} (hf : (outer.all fun c => !f c) = true)
    {run cs : List Char} {hidden : List (List Char)} (h : Inside (run ++ cs) hidden)
    (hrun : run.all f = true) : Inside cs hidden := by
  induction run with
  | nil => exact h
  | cons c run ih =>
    rw [List.all_cons, Bool.and_eq_true] at hrun
    have hc := isInner_of_class hf hrun.1
    rw [List.cons_append] at h
    generalize run ++ cs = more at h ih
    cases h with
    | sign _ h => exact ih h hrun.2
    | literal hmark =>
      rw [isInner, hmark, Bool.not_true, Bool.and_false] at hc
      cases hc

/-- An inside ends at the first brace that stands outside its literals. -/
theorem Inside.unique {front front' rest rest' : List Char} {hidden hidden' : List (List Char)}
    (h : Inside front hidden) (h' : Inside front' hidden')
    (heq : front ++ '\x7d' :: rest = front' ++ '\x7d' :: rest') :
    front = front' ∧ hidden = hidden' ∧ rest = rest' := by
  have hbrace : isInner '\x7d' = false ∧ isMark '\x7d' = false := by decide
  have hboth : ∀ {c}, isInner c = true → isMark c = true → False := fun hc hmark => by
    rw [isInner, hmark, Bool.not_true, Bool.and_false] at hc
    cases hc
  induction h generalizing front' hidden' with
  | nil =>
    cases h' with
    | nil => exact ⟨rfl, rfl, (List.cons.inj heq).2⟩
    | sign hc =>
      rw [← (List.cons.inj heq).1, hbrace.1] at hc
      cases hc
    | literal hmark =>
      rw [← (List.cons.inj heq).1, hbrace.2] at hmark
      cases hmark
  | sign hc _ ih =>
    cases h' with
    | nil =>
      rw [(List.cons.inj heq).1, hbrace.1] at hc
      cases hc
    | sign _ h' =>
      obtain ⟨rfl, hmore⟩ := List.cons.inj heq
      obtain ⟨rfl, hrest⟩ := ih h' hmore
      exact ⟨rfl, hrest⟩
    | literal hmark =>
      obtain ⟨rfl, -⟩ := List.cons.inj heq
      exact (hboth hc hmark).elim
  | @literal mark t cs hidden hmark ht _ ih =>
    cases h' with
    | nil =>
      rw [(List.cons.inj heq).1, hbrace.2] at hmark
      cases hmark
    | sign hc =>
      obtain ⟨rfl, -⟩ := List.cons.inj heq
      exact (hboth hc hmark).elim
    | @literal mark' t' cs' hidden' _ ht' h' =>
      obtain ⟨rfl, hmore⟩ := List.cons.inj heq
      simp only [List.append_eq, List.append_assoc, List.cons_append] at hmore
      have hplain : ∀ {t : List Char}, mark ∉ t → (t.all fun c => c != mark) = true :=
        fun ht => List.all_eq_true.2 fun c hc => bne_iff_ne.2 fun e => ht (e ▸ hc)
      have hstop : ∀ cs : List Char, (((mark :: cs).head?).all fun c => !(c != mark)) = true := by simp
      obtain ⟨rfl, hmark⟩ := chars_inj hmore (hplain ht) (hplain ht') (hstop _) (hstop _)
      obtain ⟨rfl, rfl, hrest⟩ := ih h' (List.cons.inj hmark).2
      exact ⟨rfl, rfl, hrest⟩

/-! ## Readers of insides -/

/-- The rest of the text comes after an inside of a tag. -/
def AfterInside (cs rest : List Char) : Prop :=
  ∃ front hidden, cs = front ++ rest ∧ Inside front hidden

instance : IsPreorder (List Char) AfterInside where
  refl _ := ⟨[], [], rfl, .nil⟩
  trans := by
    rintro cs mid rest ⟨xs, hidden, rfl, hxs⟩ ⟨ys, hidden', rfl, hys⟩
    exact ⟨xs ++ ys, hidden ++ hidden', (List.append_assoc _ _ _).symm, hxs.append hys⟩

/-- What the reader takes is the inside of a tag, or a part of it. -/
abbrev Tidy {α : Type} (p : Reader α) : Prop := Leaves AfterInside p

theorem tidy_char {f : Char → Bool} (hf : (outer.all fun c => !f c) = true) : Tidy (char f) := by
  intro cs c rest h
  cases cs with
  | nil => cases h
  | cons d cs =>
    simp only [char] at h
    split at h
    · next hd =>
      cases h
      exact ⟨[c], [], rfl, .sign (isInner_of_class hf hd) .nil⟩
    · cases h

theorem tidy_chars {f : Char → Bool} (hf : (outer.all fun c => !f c) = true) :
    Tidy (chars f) := by
  intro cs front rest h
  obtain ⟨hcs, hfront, -⟩ := chars_eq_some_iff.1 h
  refine ⟨front, [], hcs, inside_of_all (List.all_eq_true.2 fun c hc => ?_)⟩
  exact isInner_of_class hf (List.all_eq_true.1 hfront c hc)

theorem tidy_chars1 {f : Char → Bool} (hf : (outer.all fun c => !f c) = true) :
    Tidy (chars1 f) :=
  (tidy_char hf).bind fun c => (tidy_chars hf).bind fun cs => leaves_pure (c :: cs)

theorem tidy_text {s : String} (hs : s.toList.all isInner = true) : Tidy (text s) := by
  intro cs u rest h
  exact ⟨s.toList, [], word_eq_some_iff.1 h, inside_of_all hs⟩

theorem tidy_gap : Tidy gap := (tidy_chars (by decide)).bind fun _ => leaves_pure ()

theorem tidy_token {α : Type} {p : Reader α} (hp : Tidy p) : Tidy (token p) := tidy_gap.seqRight hp

theorem tidy_symbol {s : String} (hs : s.toList.all isInner = true) : Tidy (symbol s) :=
  tidy_token (tidy_text hs)

theorem tidy_operatorWord {s : String} (hs : s.toList.all isInner = true) :
    Tidy (operatorWord s) :=
  (tidy_symbol hs).bind fun _ => (tidy_char (by decide)).bind fun _ => leaves_pure ()

theorem tidy_separation : Tidy separation := (tidy_chars1 (by decide)).bind fun _ => leaves_pure ()

theorem tidy_keyword {s : String} (hs : s.toList.all isInner = true) : Tidy (keyword s) :=
  (tidy_symbol hs).seqRight tidy_separation

theorem tidy_name : Tidy name :=
  (tidy_char (by decide)).bind fun c => (tidy_chars (by decide)).bind fun cs =>
    leaves_pure (String.ofList (c :: cs))

theorem tidy_numeral : Tidy numeral :=
  (tidy_text (by decide)).flag.bind fun negative =>
    (((tidy_text (by decide)).seqRight (leaves_pure ['0'])).orElse (tidy_chars1 (by decide))).bind
      fun digits => leaves_pure (negative, digits)

theorem tidy_int : Tidy int := by
  have hchecked : ∀ n : Int, Tidy (if Word.isSigned 64 n then pure n else failure) := by
    intro n
    split
    · exact leaves_pure n
    · exact leaves_failure
  exact tidy_numeral.bind fun ⟨_, _⟩ => hchecked _

theorem tidy_float : Tidy float := tidy_numeral.bind fun ⟨_, _⟩ =>
  (tidy_text (by decide)).bind fun _ => (tidy_chars1 (by decide)).bind fun _ => leaves_pure _

/-- A quoted text is one literal. -/
theorem tidy_quotedText : Tidy quotedText := by
  intro cs s rest h
  obtain ⟨mark, mid, hopen, h⟩ := bind_eq_some_iff.1 h
  obtain ⟨t, mid', htext, h⟩ := bind_eq_some_iff.1 h
  obtain ⟨stop, rest', hclose, h⟩ := bind_eq_some_iff.1 h
  cases h
  obtain ⟨hmark, rfl⟩ := char_eq_some_iff.1 hopen
  obtain ⟨hstop, rfl⟩ := char_eq_some_iff.1 hclose
  obtain rfl := eq_of_beq hstop
  obtain ⟨rfl, ht, -⟩ := chars_eq_some_iff.1 htext
  have hplain : stop ∉ t := fun hmem => by simpa using List.all_eq_true.1 ht stop hmem
  refine ⟨stop :: (t ++ [stop]), [t], ?_, .literal hmark hplain .nil⟩
  rw [List.cons_append, List.append_assoc, List.singleton_append]

/-! ## Expressions -/

theorem tidy_pathStep {inner : Reader Unit} (h : Tidy inner) : Tidy (pathStep inner) :=
  Leaves.orElse
    ((tidy_text (by decide)).bind fun _ => (tidy_chars1 (by decide)).bind fun _ => leaves_pure ())
    ((tidy_text (by decide)).bind fun _ =>
      Leaves.bind
        (((tidy_numeral.bind fun _ => leaves_pure ()).orElse
          ((tidy_quotedText.bind fun _ => leaves_pure ()).orElse h)))
        fun _ => tidy_text (by decide))

theorem tidy_path : Tidy path :=
  Leaves.bind (Leaves.written (leaves_nested (fun _ h _ =>
      tidy_name.bind fun _ => (tidy_pathStep (h ())).many.bind fun _ => leaves_pure ()) ()))
    fun _ => leaves_pure _

theorem tidy_boolean : Tidy boolean := by
  have hword : ∀ {s : String} (b : Bool), s.toList.all isInner = true →
      Tidy (text s *> pure b : Reader Bool) := fun b hs => (tidy_text hs).seqRight (leaves_pure b)
  exact (hword true (by decide)).orElse ((hword false (by decide)).orElse
    ((hword true (by decide)).orElse (hword false (by decide))))

theorem tidy_basicValue : Tidy basicValue :=
  (tidy_boolean.map _).orElse ((tidy_path.map _).orElse ((tidy_float.map _).orElse
    (tidy_int.map _)))

theorem tidy_sign {α : Type} {s : String} (hs : s.toList.all isInner = true) (a : α) :
    Tidy (symbol s *> pure a : Reader α) := (tidy_symbol hs).seqRight (leaves_pure a)

theorem tidy_arithmeticOp : Tidy arithmeticOp :=
  (tidy_sign (by decide) _).orElse ((tidy_sign (by decide) _).orElse
    ((tidy_sign (by decide) _).orElse ((tidy_sign (by decide) _).orElse
      (tidy_sign (by decide) _))))

theorem tidy_comparisonOp : Tidy comparisonOp :=
  (tidy_sign (by decide) _).orElse ((tidy_sign (by decide) _).orElse
    ((tidy_sign (by decide) _).orElse ((tidy_sign (by decide) _).orElse
      ((tidy_sign (by decide) _).orElse (tidy_sign (by decide) _)))))

theorem tidy_calculation {operand : Reader Expr} (h : Tidy operand) : Tidy (calculation operand) :=
  h.bind fun _ => (tidy_arithmeticOp.bind fun _ => h.bind fun _ => leaves_pure _).many.bind
    fun _ => leaves_pure _

theorem tidy_basicTerm : Tidy basicTerm :=
  Leaves.map Expr.term (leaves_nested (fun _ h _ => tidy_calculation
    ((((tidy_symbol (by decide)).seqRight (h ())).seqLeft (tidy_symbol (by decide))).orElse
      ((tidy_token tidy_basicValue).map _))) ())

theorem tidy_joinable : Tidy joinable :=
  (tidy_float.map _).orElse ((tidy_int.map _).orElse ((tidy_quotedText.map _).orElse
    (tidy_path.map _)))

theorem tidy_textTerm : Tidy textTerm := by
  have hjoined := tidy_token tidy_joinable
  refine Leaves.orElse ?_ ((tidy_token tidy_quotedText).map _)
  refine hjoined.bind fun first => ((tidy_symbol (by decide)).seqRight hjoined).many.bind
    fun rest => ?_
  split
  · exact leaves_failure
  · exact leaves_pure _

section
variable {inner : Form → Reader Expr} (h : ∀ form, Tidy (inner form))
include h

theorem tidy_argument : Tidy (argument inner) :=
  (tidy_token tidy_name).bind fun _ => (tidy_symbol (by decide)).bind fun _ =>
    ((h .logic).orElse (h .list)).bind fun _ => leaves_pure _

theorem tidy_filter : Tidy (filter inner) := by
  have hcomma : Tidy (symbol ",") := tidy_symbol (by decide)
  refine Leaves.orElse ?_ ((tidy_token tidy_name).map _)
  exact (tidy_token tidy_name).bind fun n => (tidy_symbol (by decide)).bind fun _ =>
    (((tidy_argument h).sepBy1 hcomma).seqLeft hcomma.option).option.bind fun _ =>
      (tidy_symbol (by decide)).bind fun _ => leaves_pure _

theorem tidy_filters : Tidy (filters inner) :=
  ((tidy_symbol (by decide)).seqRight (tidy_filter h)).many

theorem tidy_filtered {p : Reader Term} (hp : Tidy p) : Tidy (filtered inner p) :=
  hp.bind fun _ => (tidy_filters h).bind fun _ => leaves_pure _

theorem tidy_comparand : Tidy (comparand inner) :=
  (tidy_filtered h tidy_textTerm).orElse (tidy_calculation (tidy_filtered h tidy_basicTerm))

theorem tidy_comparison : Tidy (comparison inner) :=
  (tidy_comparand h).bind fun left =>
    Leaves.orElse (tidy_comparisonOp.bind fun _ => (tidy_comparand h).bind fun _ => leaves_pure _)
      (leaves_pure left)

theorem tidy_operand : Tidy (operand inner) :=
  Leaves.orElse
    ((tidy_operatorWord (by decide)).flag.bind fun _ => (tidy_comparison h).bind fun _ =>
      leaves_pure _)
    ((tidy_symbol (by decide)).bind fun _ => (h .logic).bind fun _ =>
      (tidy_symbol (by decide)).bind fun _ => leaves_pure _)

theorem tidy_logic : Tidy (logic inner) := by
  have hword : ∀ {s : String} (b : Bool), s.toList.all isInner = true →
      Tidy (operatorWord s *> pure b : Reader Bool) :=
    fun b hs => (tidy_operatorWord hs).seqRight (leaves_pure b)
  exact (tidy_operand h).bind fun _ =>
    (((hword true (by decide)).orElse (hword false (by decide))).bind fun _ =>
      (tidy_operand h).bind fun _ => leaves_pure _).many.bind fun _ => leaves_pure _

theorem tidy_list : Tidy (list inner) :=
  (tidy_symbol (by decide)).bind fun _ =>
    ((h .operand).seqLeft (tidy_symbol (by decide))).many.bind fun _ =>
      (h .operand).option.bind fun _ => (tidy_symbol (by decide)).bind fun _ =>
        (tidy_filters h).bind fun _ => leaves_pure _

end

theorem tidy_expression (form : Form) : Tidy (expression form) := by
  refine leaves_nested (fun inner h form => ?_) form
  cases form with
  | logic => exact tidy_logic h
  | operand => exact tidy_operand h
  | list => exact tidy_list h

theorem tidy_value : Tidy value := (tidy_expression .logic).orElse (tidy_expression .list)

theorem tidy_container : Tidy container :=
  (tidy_filtered tidy_expression tidy_basicTerm).orElse (tidy_expression .list)

theorem tidy_loopNames : Tidy loopNames :=
  tidy_name.bind fun _ =>
    Leaves.orElse ((tidy_text (by decide)).bind fun _ => (tidy_token tidy_name).bind fun _ =>
      leaves_pure _) (leaves_pure _)

/-! ## No expression begins with a percent sign -/

/-- The reader fails at a percent sign. -/
def Refuses {α : Type} (p : Reader α) : Prop := ∀ cs, p ('%' :: cs) = none

section Refusal
variable {α β ι : Type} {p q : Reader α}

theorem Refuses.bind (h : Refuses p) (f : α → Reader β) : Refuses (p >>= f) := fun cs =>
  congrArg (Option.bind · fun r => f r.1 r.2) (h cs)

theorem Refuses.seqRight (hp : Refuses p) (r : Reader β) : Refuses (p *> r) := hp.bind fun _ => r

theorem Refuses.seqLeft (hp : Refuses p) (r : Reader β) : Refuses (p <* r) :=
  hp.bind fun a => r >>= fun _ => pure a

theorem Refuses.orElse (hp : Refuses p) (hq : Refuses q) : Refuses (p <|> q) := fun cs =>
  (orElse_of_none (hp cs)).trans (hq cs)

theorem Refuses.map (f : α → β) (h : Refuses p) : Refuses (f <$> p) := h.bind _

theorem Refuses.flag {f : Bool → Reader β} (hp : Refuses p) (hf : Refuses (f false)) :
    Refuses (flag p >>= f) := by
  intro cs
  have hflag : Text.Reader.flag p ('%' :: cs) = some (false, '%' :: cs) :=
    orElse_of_none (hp.seqRight (pure true) cs)
  change (Text.Reader.flag p ('%' :: cs)).bind (fun r => f r.1 r.2) = none
  rw [hflag]
  exact hf cs

theorem Refuses.token (h : Refuses p) : Refuses (token p) := h

theorem Refuses.written (h : Refuses p) : Refuses (written p) := fun cs =>
  congrArg (Option.map _) (h cs)

theorem refuses_nested {step : (ι → Reader α) → ι → Reader α} {i : ι}
    (h : ∀ inner, Refuses (step inner i)) : Refuses (nested step i) := fun cs => h _ cs

theorem refuses_char {f : Char → Bool} (h : f '%' = false) : Refuses (char f) := by
  intro cs
  rw [char, h]
  rfl

theorem refuses_chars1 {f : Char → Bool} (h : f '%' = false) : Refuses (chars1 f) :=
  (refuses_char h).bind _

theorem refuses_text {s : String} (h : (s.toList.head?.any (· != '%')) = true) :
    Refuses (text s) := by
  intro cs
  unfold text
  cases hs : s.toList with
  | nil =>
    rw [hs] at h
    cases h
  | cons w ws =>
    rw [hs] at h
    have hw : '%' ≠ w := fun e => by
      subst e
      cases h
    rw [word]
    exact if_neg hw

end Refusal

theorem refuses_symbol {s : String} (h : (s.toList.head?.any (· != '%')) = true) :
    Refuses (symbol s) := (refuses_text h).token

theorem refuses_numeral : Refuses numeral :=
  (refuses_text (by decide)).flag
    ((((refuses_text (by decide)).seqRight _).orElse (refuses_chars1 (by decide))).bind _)

theorem refuses_float : Refuses float := refuses_numeral.bind _

theorem refuses_int : Refuses int := refuses_numeral.bind _

theorem refuses_quotedText : Refuses quotedText := (refuses_char (by decide)).bind _

theorem refuses_path : Refuses path :=
  have hname : Refuses name := (refuses_char (by decide)).bind _
  Refuses.bind (Refuses.written (refuses_nested (i := ()) fun _ => hname.bind _)) _

theorem refuses_basicValue : Refuses basicValue := by
  have hboolean : Refuses boolean :=
    ((refuses_text (by decide)).seqRight _).orElse
      (((refuses_text (by decide)).seqRight _).orElse
        (((refuses_text (by decide)).seqRight _).orElse ((refuses_text (by decide)).seqRight _)))
  exact (hboolean.map _).orElse ((refuses_path.map _).orElse ((refuses_float.map _).orElse
    (refuses_int.map _)))

theorem refuses_basicTerm : Refuses basicTerm :=
  Refuses.map _ (refuses_nested fun _ =>
    Refuses.bind ((((refuses_symbol (by decide)).seqRight _).seqLeft _).orElse
      (refuses_basicValue.token.map _)) _)

theorem refuses_textTerm : Refuses textTerm := by
  have hjoinable : Refuses joinable :=
    (refuses_float.map _).orElse ((refuses_int.map _).orElse ((refuses_quotedText.map _).orElse
      (refuses_path.map _)))
  exact (hjoinable.token.bind _).orElse (refuses_quotedText.token.map _)

theorem refuses_operand (inner : Form → Reader Expr) : Refuses (operand inner) := by
  have hcomparand : Refuses (comparand inner) :=
    Refuses.orElse (refuses_textTerm.bind _) (Refuses.bind (refuses_basicTerm.bind _) _)
  have hword : Refuses (operatorWord "not") := (refuses_symbol (by decide)).bind _
  exact (hword.flag (Refuses.bind (hcomparand.bind _) _)).orElse
    ((refuses_symbol (by decide)).bind _)

theorem value_percent (cs : List Char) : value ('%' :: cs) = none := by
  have hlogic : Refuses (expression .logic) := refuses_nested fun inner =>
    show Refuses (logic inner) from (refuses_operand inner).bind _
  have hlist : Refuses (expression .list) := refuses_nested fun inner =>
    show Refuses (list inner) from (refuses_symbol (by decide)).bind _
  exact hlogic.orElse hlist cs

end TemplateBundler.Template
