import Mathlib.Data.List.Forall2
import TemplateBundler.Proofs.Delimiters

/-!
# Splitting loses nothing

A text is its primary body and, for each block, a delimiter line and a body (`glued_splitFrom`), and
no line of a body is a delimiter line. The bodies are slices of the text between the offsets of its
delimiter lines, the line feed behind a delimiter line left out, and no slice is out of range:

    sliceFrom? cs 0 (spans ext true 0 cs) = some (splitFrom ext true cs)        (sliceFrom?_spans)

Blocks that are written one behind the other are read back where each delimiter line begins a line
and the bodies hold none:

    ofText ext (written ext primary blocks) = ⟨primary, blocks.map fun b => (b.name, b.body)⟩
                                                                              (ofText_written)
-/

namespace TemplateBundler

namespace Text

/-! ## Offsets -/

/-- The length of a text in bytes. -/
def bytes : List Char → Nat
  | [] => 0
  | c :: cs => c.utf8Size + bytes cs

/-- The first `n` bytes and the rest, where the cut is within the text and between two
characters. -/
def cutBytes? : Nat → List Char → Option (List Char × List Char)
  | 0, cs => some ([], cs)
  | _ + 1, [] => none
  | n + 1, c :: cs =>
    if c.utf8Size ≤ n + 1 then
      (cutBytes? (n + 1 - c.utf8Size) cs).map fun parts => (c :: parts.1, parts.2)
    else none

/-- The text from one offset to another one, where they are in order and the text can be cut at
both. -/
def slice? (cs : List Char) (start stop : Nat) : Option (List Char) := do
  let (_, rest) ← cutBytes? start cs
  if start ≤ stop then
    let (part, _) ← cutBytes? (stop - start) rest
    pure part
  else none

theorem bytes_append (cs ds : List Char) : bytes (cs ++ ds) = bytes cs + bytes ds := by
  induction cs with
  | nil => rw [List.nil_append, bytes, Nat.zero_add]
  | cons c cs ih => rw [List.cons_append, bytes, bytes, ih, Nat.add_assoc]

theorem cutBytes?_append (cs rest : List Char) :
    cutBytes? (bytes cs) (cs ++ rest) = some (cs, rest) := by
  induction cs with
  | nil => rw [bytes, List.nil_append, cutBytes?]
  | cons c cs ih =>
    have hpos := c.utf8Size_pos
    have hbytes : bytes (c :: cs) = (c.utf8Size - 1 + bytes cs) + 1 := by
      rw [bytes]
      omega
    have hleft : c.utf8Size - 1 + bytes cs + 1 - c.utf8Size = bytes cs := by omega
    rw [hbytes, List.cons_append, cutBytes?, if_pos (by omega), hleft, ih]
    rfl

theorem slice?_append (front part rest : List Char) :
    slice? (front ++ (part ++ rest)) (bytes front) (bytes front + bytes part) = some part := by
  simp only [slice?, cutBytes?_append, Option.bind_eq_bind, Option.bind_some, Nat.le_add_right,
    if_true, Nat.add_sub_cancel_left]
  rfl

theorem slice?_rest (front rest : List Char) :
    slice? (front ++ rest) (bytes front) (bytes (front ++ rest)) = some rest := by
  have h := slice?_append front rest []
  rwa [List.append_nil, ← bytes_append] at h

end Text

namespace Source

open Text

/-! ## Bodies -/

/-- A body behind each of some lines. -/
def glued (lines bodies : List (List Char)) : List Char :=
  (List.zipWith (· ++ ·) lines bodies).flatten

section
variable {ext : List Char} (hext : '\n' ∉ ext)

include hext

theorem forall₂_splitFrom (cs : List Char) :
    List.Forall₂ (fun line b => IsDelimiter ext b.1 (run line)) (delimiterLines ext cs)
      (splitFrom ext true cs).2 := by
  induction cs using delimiter_induction with
  | nil =>
    rw [splitFrom_nil]
    exact .nil
  | delimiter name r rest hr h hrest ih =>
    rw [delimiterLines_delimiter hr hrest h, splitFrom_delimiter hext hrest h]
    exact .cons ((run_append hr hrest.take).symm ▸ h) ih
  | plain r rest hr h hrest hne ih =>
    rw [delimiterLines_plain hr hrest hne h, splitFrom_plain hext hrest hr h]
    exact ih

theorem glued_splitFrom (cs : List Char) :
    cs = (splitFrom ext true cs).1 ++
      glued (delimiterLines ext cs) ((splitFrom ext true cs).2.map Prod.snd) := by
  induction cs using delimiter_induction with
  | nil => rw [splitFrom_nil]; rfl
  | delimiter name r rest hr h hrest ih =>
    rw [delimiterLines_delimiter hr hrest h, splitFrom_delimiter hext hrest h]
    simp only [glued, List.map_cons, List.zipWith_cons_cons, List.flatten_cons, List.append_assoc,
      List.nil_append] at ih ⊢
    rw [← ih, List.take_append_drop]
  | plain r rest hr h hrest hne ih =>
    rw [delimiterLines_plain hr hrest hne h, splitFrom_plain hext hrest hr h]
    simp only [List.append_assoc]
    rw [← ih, List.take_append_drop]

theorem plain_iff (cs : List Char) : Plain ext cs ↔ splitFrom ext true cs = (cs, []) := by
  rw [plain_iff_delimiterLines]
  constructor
  · intro h
    have hblocks := forall₂_splitFrom hext cs
    have hglued := glued_splitFrom hext cs
    rw [h, List.forall₂_nil_left_iff] at hblocks
    rw [h, hblocks] at hglued
    exact Prod.ext (hglued.trans (List.append_nil _)).symm hblocks
  · intro h
    have hblocks := forall₂_splitFrom hext cs
    rwa [h, List.forall₂_nil_right_iff] at hblocks

/-- A body is split into itself. -/
theorem splitFrom_bodies (cs : List Char) :
    splitFrom ext true (splitFrom ext true cs).1 = ((splitFrom ext true cs).1, []) ∧
      ∀ b ∈ (splitFrom ext true cs).2, splitFrom ext true b.2 = (b.2, []) := by
  induction cs using delimiter_induction with
  | nil => simp [splitFrom_nil]
  | delimiter name r rest hr h hrest ih =>
    rw [splitFrom_delimiter hext hrest h]
    exact ⟨splitFrom_nil ext true, List.forall_mem_cons.2 ih⟩
  | plain r rest hr h hrest hne ih =>
    obtain ⟨ihbody, ihblocks⟩ := ih
    rw [splitFrom_plain hext hrest hr h]
    refine ⟨?_, ihblocks⟩
    rcases hrest with rfl | ⟨cs, rfl⟩
    · simpa [splitFrom_nil] using splitFrom_plain hext (Or.inl rfl) hr h
    · have hline := splitFrom_plain hext (Or.inr ⟨(splitFrom ext true cs).1, rfl⟩) hr h
      simp only [List.take_succ_cons, List.take_zero, List.drop_succ_cons, List.drop_zero,
        List.append_assoc, List.singleton_append] at hline ihbody ⊢
      rw [hline, ihbody]

end

/-! ## Splitting by offsets -/

/-- A delimiter line in a text: the offsets it begins and ends at, and its name. -/
structure DelimiterSpan where
  start : Nat
  stop : Nat
  name : List Char

/-- The delimiter lines of a text that begins at an offset, one after the other. -/
def spans (ext : List Char) (lineStart : Bool) (offset : Nat) : List Char → List DelimiterSpan
  | [] => []
  | c :: cs =>
    match _h : delimiterAt? ext lineStart (c :: cs) with
    | some (name, rest) =>
      let stop := offset + (bytes (c :: cs) - bytes rest)
      ⟨offset, stop, name⟩ :: spans ext false stop rest
    | none => spans ext (c == '\n') (offset + c.utf8Size) cs
termination_by cs => cs.length
decreasing_by
  · exact delimiterAt?_lt _h
  · simp

/-- Where the body behind a delimiter line begins: behind its line feed, if there is one. -/
def bodyStart? (cs : List Char) (stop : Nat) : Option Nat := do
  let rest ← slice? cs stop (bytes cs)
  pure (if rest.head? = some '\n' then stop + 1 else stop)

/-- The body that begins at an offset, up to the next delimiter line, and the blocks from there
on. -/
def sliceFrom? (cs : List Char) (start : Nat) :
    List DelimiterSpan → Option (List Char × List (List Char × List Char))
  | [] => do
    let body ← slice? cs start (bytes cs)
    pure (body, [])
  | s :: ss => do
    let body ← slice? cs start s.start
    let next ← bodyStart? cs s.stop
    let (inner, blocks) ← sliceFrom? cs next ss
    pure (body, (s.name, inner) :: blocks)

theorem spans_nil (ext : List Char) (lineStart : Bool) (n : Nat) :
    spans ext lineStart n [] = [] := by
  rw [spans]

theorem spans_of_some {ext cs name rest : List Char}
    (h : delimiter? ext cs = some (name, rest)) (n : Nat) :
    spans ext true n cs = ⟨n, n + (bytes cs - bytes rest), name⟩ ::
      spans ext false (n + (bytes cs - bytes rest)) rest := by
  cases cs with
  | nil => cases h
  | cons c cs =>
    rw [spans]
    split
    · next hsome =>
      cases hsome.symm.trans h
      rfl
    · next hnone => cases hnone.symm.trans h

theorem spans_of_none {ext cs : List Char} (h : delimiter? ext cs = none) (n : Nat) :
    spans ext true n cs = spans ext false n cs := by
  cases cs with
  | nil => rw [spans_nil, spans_nil]
  | cons c cs =>
    rw [spans, spans]
    split
    · next hsome => cases hsome.symm.trans h
    · rfl

theorem spans_inside (ext : List Char) {r rest : List Char} (hr : '\n' ∉ r) (hrest : EndsLine rest)
    (n : Nat) : spans ext false n (r ++ rest) =
      spans ext true (n + bytes (r ++ rest.take 1)) (rest.drop 1) := by
  induction r generalizing n with
  | nil =>
    rcases hrest with rfl | ⟨cs, rfl⟩
    · rw [List.nil_append, List.drop_nil, spans_nil, spans_nil]
    · rw [List.nil_append, spans]
      rfl
  | cons c r ih =>
    rw [List.mem_cons, not_or] at hr
    have hc : (c == '\n') = false := beq_false_of_ne (Ne.symm hr.1)
    rw [List.cons_append, spans]
    split
    · next h => cases h
    · rw [hc, ih hr.2, Nat.add_assoc]
      rfl

section
variable {ext : List Char} (hext : '\n' ∉ ext)

include hext

section
variable {r rest : List Char} (hrest : EndsLine rest)

include hrest

theorem spans_delimiter {name : List Char} (h : IsDelimiter ext name r) (n : Nat) :
    spans ext true n (r ++ rest) = ⟨n, n + bytes r, name⟩ ::
      spans ext true (n + bytes (r ++ rest.take 1)) (rest.drop 1) := by
  have hstop : bytes (r ++ rest) - bytes rest = bytes r := by
    rw [bytes_append, Nat.add_sub_cancel]
  have hnext : spans ext false (n + bytes r) rest =
      spans ext true (n + bytes r + bytes (rest.take 1)) (rest.drop 1) :=
    spans_inside ext (r := []) List.not_mem_nil hrest (n + bytes r)
  rw [spans_of_some ((delimiter?_eq_some_iff hext _ _ _).2 ⟨r, h, hrest, rfl⟩), hstop, hnext,
    bytes_append, Nat.add_assoc]

theorem spans_plain (hr : '\n' ∉ r) (h : ∀ name, ¬ IsDelimiter ext name r) (n : Nat) :
    spans ext true n (r ++ rest) =
      spans ext true (n + bytes (r ++ rest.take 1)) (rest.drop 1) := by
  rw [spans_of_none (delimiter?_eq_none hext hr h hrest), spans_inside ext hr hrest]

end

/-- The spans are those of the delimiter lines, without their line feeds. -/
theorem forall₂_spans (pre cs : List Char) :
    List.Forall₂ (fun s line => slice? (pre ++ cs) s.start s.stop = some (run line) ∧
        IsDelimiter ext s.name (run line))
      (spans ext true (bytes pre) cs) (delimiterLines ext cs) := by
  induction cs using delimiter_induction generalizing pre with
  | nil =>
    rw [spans_nil]
    exact .nil
  | delimiter name r rest hr h hrest ih =>
    have htail := ih (pre ++ (r ++ rest.take 1))
    rw [bytes_append, List.append_assoc, List.append_assoc, List.take_append_drop] at htail
    rw [spans_delimiter hext hrest h, delimiterLines_delimiter hr hrest h]
    refine .cons ?_ htail
    rw [run_append hr hrest.take]
    exact ⟨slice?_append pre r rest, h⟩
  | plain r rest hr h hrest hne ih =>
    have htail := ih (pre ++ (r ++ rest.take 1))
    rw [bytes_append, List.append_assoc, List.append_assoc, List.take_append_drop] at htail
    rw [spans_plain hext hrest hr h, delimiterLines_plain hr hrest hne h]
    exact htail

/-- No slice is out of range. The first body may have begun before the offset, with `body`. -/
theorem sliceFrom?_spans (pre body cs : List Char) :
    sliceFrom? (pre ++ (body ++ cs)) (bytes pre) (spans ext true (bytes (pre ++ body)) cs) =
      some (body ++ (splitFrom ext true cs).1, (splitFrom ext true cs).2) := by
  induction cs using delimiter_induction generalizing pre body with
  | nil =>
    rw [spans_nil, sliceFrom?, splitFrom_nil, List.append_nil, slice?_rest]
    rfl
  | delimiter name r rest hr h hrest ih =>
    have hbody : slice? (pre ++ (body ++ (r ++ rest))) (bytes pre) (bytes (pre ++ body)) =
        some body := by
      rw [bytes_append]
      exact slice?_append pre body _
    have hnext : bodyStart? (pre ++ (body ++ (r ++ rest))) (bytes (pre ++ body) + bytes r) =
        some (bytes (pre ++ body ++ (r ++ rest.take 1))) := by
      have hline := slice?_rest (pre ++ body ++ r) rest
      simp only [List.append_assoc, bytes_append] at hline
      simp only [bodyStart?, bytes_append, Nat.add_assoc, hline]
      rcases hrest with rfl | ⟨cs, rfl⟩ <;> rfl
    have htail := ih (pre ++ body ++ (r ++ rest.take 1)) []
    simp only [List.append_nil, List.nil_append, List.append_assoc, List.take_append_drop] at htail
    rw [spans_delimiter hext hrest h, splitFrom_delimiter hext hrest h, sliceFrom?, hbody, hnext]
    simp only [List.append_assoc, ← bytes_append, htail, Option.bind_eq_bind, Option.bind_some,
      List.append_nil]
    rfl
  | plain r rest hr h hrest hne ih =>
    have hoffset : bytes (pre ++ body) + bytes (r ++ rest.take 1) =
        bytes (pre ++ (body ++ (r ++ rest.take 1))) := by
      simp only [bytes_append, Nat.add_assoc]
    have htail := ih pre (body ++ (r ++ rest.take 1))
    rw [spans_plain hext hrest hr h, splitFrom_plain hext hrest hr h, hoffset]
    simp only [List.append_assoc, List.take_append_drop] at htail ⊢
    exact htail

end

/-! ## Text in front of a delimiter line -/

/-- The text is empty or ends with a line feed. -/
def Closed (cs : List Char) : Prop := cs = [] ∨ ['\n'] <:+ cs

instance (cs : List Char) : Decidable (Closed cs) :=
  inferInstanceAs (Decidable (cs = [] ∨ ['\n'] <:+ cs))

theorem Closed.tail {r cs : List Char} (h : Closed (r ++ '\n' :: cs)) : Closed cs := by
  by_cases hnil : cs = []
  · exact Or.inl hnil
  right
  have hsuffix : ['\n'] <:+ r ++ '\n' :: cs := h.resolve_left (by simp)
  have hcs : cs <:+ r ++ '\n' :: cs := ⟨r ++ ['\n'], by simp⟩
  exact List.suffix_of_suffix_length_le hsuffix hcs (List.length_pos_iff.2 hnil)

theorem splitFrom_append {ext : List Char} (hext : '\n' ∉ ext) {cs ds : List Char}
    (hplain : Plain ext cs) (hclosed : ds ≠ [] → Closed cs) :
    splitFrom ext true (cs ++ ds) =
      (cs ++ (splitFrom ext true ds).1, (splitFrom ext true ds).2) := by
  by_cases hds : ds = []
  · subst hds
    rw [List.append_nil, splitFrom_nil, List.append_nil]
    exact (plain_iff hext cs).1 hplain
  have hclosed := hclosed hds
  -- the last line of `cs` has its line feed, so `ds` begins a line
  induction cs using delimiter_induction with
  | nil => rfl
  | delimiter name r rest hr h hrest ih =>
    rw [plain_iff_delimiterLines, delimiterLines_delimiter hr hrest h] at hplain
    cases hplain
  | plain r rest hr h hrest hne ih =>
    rw [plain_iff_delimiterLines, delimiterLines_plain hr hrest hne h] at hplain
    rcases hrest with rfl | ⟨cs, rfl⟩
    · have hfeed := (hclosed.resolve_left hne).subset List.mem_cons_self
      rw [List.append_nil] at hfeed
      exact absurd hfeed hr
    · have hline := splitFrom_plain hext (Or.inr ⟨cs ++ ds, rfl⟩) hr h
      have htail := ih ((plain_iff_delimiterLines _ _).2 hplain) (fun _ => hclosed.tail)
        hclosed.tail
      simp only [List.take_succ_cons, List.take_zero, List.drop_succ_cons, List.drop_zero,
        List.append_assoc, List.cons_append, List.nil_append] at hline htail ⊢
      rw [hline, htail]

end Source

namespace SplitText

open Text Source

/-! ## What a split keeps -/

/-- What a text and its split have to do with each other. -/
structure Lossless (ext text : String) (s : SplitText) : Prop where
  /-- The search for delimiters finds the lines of their form, -/
  matched : List.Forall₂ (fun s line => slice? text.toList s.start s.stop = some (run line) ∧
      IsDelimiter ext.toList s.name (run line))
    (spans ext.toList true 0 text.toList) (delimiterLines ext.toList text.toList)
  /-- and no slice that is taken between them is out of range. -/
  sliced : sliceFrom? text.toList 0 (spans ext.toList true 0 text.toList) =
    some (s.primary.toList, s.blocks.map fun b => (b.1.toList, b.2.toList))
  named : List.Forall₂ (fun line b => IsDelimiter ext.toList b.1.toList (run line))
    (delimiterLines ext.toList text.toList) s.blocks
  primary_plain : Plain ext.toList s.primary.toList
  body_plain : ∀ b ∈ s.blocks, Plain ext.toList b.2.toList
  split_primary : ofText ext s.primary = ⟨s.primary, []⟩
  split_body : ∀ b ∈ s.blocks, ofText ext b.2 = ⟨b.2, []⟩
  joined : text.toList = s.primary.toList ++
    glued (delimiterLines ext.toList text.toList) (s.blocks.map fun b => b.2.toList)

theorem splitFrom_toList (ext text : String) : splitFrom ext.toList true text.toList =
    ((ofText ext text).primary.toList,
      (ofText ext text).blocks.map fun b => (b.1.toList, b.2.toList)) := by
  simp [ofText, Function.comp_def]

theorem ofText_of_splitFrom {ext text primary : String} {blocks : List (String × String)}
    (h : splitFrom ext.toList true text.toList =
      (primary.toList, blocks.map fun b => (b.1.toList, b.2.toList))) :
    ofText ext text = ⟨primary, blocks⟩ := by
  simp [ofText, h, Function.comp_def]

/-- **Splitting loses nothing** and cuts at the delimiter lines alone. -/
theorem lossless_ofText {ext : String} (hext : '\n' ∉ ext.toList) (text : String) :
    Lossless ext text (ofText ext text) := by
  have hsliced := sliceFrom?_spans hext [] [] text.toList
  have hnamed := forall₂_splitFrom hext text.toList
  have hjoined := glued_splitFrom hext text.toList
  obtain ⟨hprimary, hbodies⟩ := splitFrom_bodies hext text.toList
  simp only [splitFrom_toList ext text, List.map_map, List.forall₂_map_right_iff,
    List.forall_mem_map] at hsliced hnamed hjoined hprimary hbodies
  exact {
    matched := forall₂_spans hext [] text.toList
    sliced := hsliced
    named := hnamed
    primary_plain := (plain_iff hext _).2 hprimary
    body_plain := fun b hb => (plain_iff hext _).2 (hbodies b hb)
    split_primary := ofText_of_splitFrom hprimary
    split_body := fun b hb => ofText_of_splitFrom (hbodies b hb)
    joined := hjoined }

/-- A text with delimiter lines that touch, and lines that are nearly ones. -/
def mixedText : String :=
  "ä\n//-- x.tmpl\r\n//--\tÿ.tmpl.tmpl\n //-- no.tmpl\n//-- z.html\nb\r\n//-- x.tmpl"

theorem lossless_mixedText : '\n' ∉ "tmpl".toList ∧
    Lossless "tmpl" mixedText
      ⟨"ä\n", [("x", ""), ("ÿ.tmpl", " //-- no.tmpl\n//-- z.html\nb\r\n"), ("x", "")]⟩ := by
  have hext : '\n' ∉ "tmpl".toList := by decide
  have hsplit : ofText "tmpl" mixedText =
      ⟨"ä\n", [("x", ""), ("ÿ.tmpl", " //-- no.tmpl\n//-- z.html\nb\r\n"), ("x", "")]⟩ := by
    decide +kernel
  exact ⟨hext, hsplit ▸ lossless_ofText hext mixedText⟩

/-! ## Writing blocks -/

/-- A block as it is written, its delimiter line with a carriage return or without. -/
structure WrittenBlock where
  name : String
  body : String
  hasReturn : Bool

def WrittenBlock.text (ext : String) (b : WrittenBlock) : String :=
  "//-- " ++ b.name ++ "." ++ ext ++ (if b.hasReturn then "\r\n" else "\n") ++ b.body

/-- A primary body with blocks behind it. -/
def written (ext primary : String) (blocks : List WrittenBlock) : String :=
  primary ++ String.join (blocks.map (WrittenBlock.text ext))

/-- The names are words, no line of a body is a delimiter line, and what a delimiter line follows is
closed. -/
structure Writable (ext primary : String) (blocks : List WrittenBlock) : Prop where
  name_ne_empty : ∀ b ∈ blocks, b.name ≠ ""
  not_isBlank : ∀ b ∈ blocks, ∀ c ∈ b.name.toList, isBlank c = false
  primary_plain : Plain ext.toList primary.toList
  body_plain : ∀ b ∈ blocks, Plain ext.toList b.body.toList
  primary_closed : blocks ≠ [] → Closed primary.toList
  body_closed : ∀ b ∈ blocks.dropLast, Closed b.body.toList

theorem WrittenBlock.exists_isDelimiter_text (ext : String) (b : WrittenBlock) (hne : b.name ≠ "")
    (hname : ∀ c ∈ b.name.toList, isBlank c = false) :
    ∃ r, IsDelimiter ext.toList b.name.toList r ∧
      (b.text ext).toList = r ++ '\n' :: b.body.toList := by
  refine ⟨_, ⟨[' '], if b.hasReturn then ['\r'] else [], rfl, by simp, by simpa using hne, hname,
    ?_⟩, ?_⟩
  · cases b.hasReturn <;> simp
  · unfold WrittenBlock.text
    cases b.hasReturn <;> simp

theorem splitFrom_written {ext : String} (hext : '\n' ∉ ext.toList) {blocks : List WrittenBlock}
    (hne : ∀ b ∈ blocks, b.name ≠ "") (hname : ∀ b ∈ blocks, ∀ c ∈ b.name.toList, isBlank c = false)
    (hplain : ∀ b ∈ blocks, Plain ext.toList b.body.toList)
    (hclosed : ∀ b ∈ blocks.dropLast, Closed b.body.toList) :
    splitFrom ext.toList true (String.join (blocks.map (WrittenBlock.text ext))).toList =
      ([], blocks.map fun b => (b.name.toList, b.body.toList)) := by
  induction blocks with
  | nil => exact splitFrom_nil _ _
  | cons b blocks ih =>
    rw [List.forall_mem_cons] at hne hname hplain
    obtain ⟨r, hr, htext⟩ := b.exists_isDelimiter_text ext hne.1 hname.1
    -- only a body with a block behind it has to be closed
    have hinner : ∀ c ∈ blocks.dropLast, Closed c.body.toList := by
      intro c hc
      have hblocks : blocks ≠ [] := fun h => by simp [h] at hc
      exact hclosed c (List.dropLast_cons_of_ne_nil hblocks ▸ List.mem_cons_of_mem b hc)
    have hbody : (String.join (blocks.map (WrittenBlock.text ext))).toList ≠ [] →
        Closed b.body.toList := by
      intro hrest
      have hblocks : blocks ≠ [] := fun h => by simp [h] at hrest
      exact hclosed b (List.dropLast_cons_of_ne_nil hblocks ▸ List.mem_cons_self)
    have htail := splitFrom_append hext hplain.1 hbody
    rw [ih hne.2 hname.2 hplain.2 hinner] at htail
    rw [List.map_cons, String.join_cons, String.toList_append, htext, List.append_assoc,
      List.cons_append, splitFrom_delimiter hext (Or.inr ⟨_, rfl⟩) hr, List.drop_succ_cons,
      List.drop_zero, htail, List.append_nil]
    rfl

/-- **What is written is read back.** -/
theorem ofText_written {ext primary : String} (hext : '\n' ∉ ext.toList)
    {blocks : List WrittenBlock} (h : Writable ext primary blocks) :
    ofText ext (written ext primary blocks) =
      ⟨primary, blocks.map fun b => (b.name, b.body)⟩ := by
  have hblocks := splitFrom_written hext h.name_ne_empty h.not_isBlank h.body_plain h.body_closed
  have hclosed : (String.join (blocks.map (WrittenBlock.text ext))).toList ≠ [] →
      Closed primary.toList := by
    intro hrest
    exact h.primary_closed fun hnil => by simp [hnil] at hrest
  have hsplit := splitFrom_append hext h.primary_plain hclosed
  rw [hblocks] at hsplit
  refine ofText_of_splitFrom ?_
  rw [written, String.toList_append, hsplit, List.append_nil, List.map_map]
  rfl

/-- Blocks with a name in common, names that hold the extension, and bodies with lines that are
nearly delimiter lines. -/
def writtenBlocks : List WrittenBlock := [
  ⟨"a.tmpl", "", true⟩,
  ⟨"x/-", "//-- no.html\r\n//--\n", false⟩,
  ⟨"a.tmpl", "//- y.tmpl\n //-- y.tmpl", false⟩]

theorem ofText_writtenBlocks : '\n' ∉ "tmpl".toList ∧ Writable "tmpl" "é\n" writtenBlocks ∧
    ofText "tmpl" (written "tmpl" "é\n" writtenBlocks) = ⟨"é\n", [("a.tmpl", ""),
      ("x/-", "//-- no.html\r\n//--\n"), ("a.tmpl", "//- y.tmpl\n //-- y.tmpl")]⟩ := by
  have hext : '\n' ∉ "tmpl".toList := by decide
  have hwords : ∀ b ∈ writtenBlocks, (b.name.toList.all fun c => !isBlank c) = true := by decide
  have hname : ∀ b ∈ writtenBlocks, ∀ c ∈ b.name.toList, isBlank c = false := by
    intro b hb c hc
    simpa using List.all_eq_true.1 (hwords b hb) c hc
  have h : Writable "tmpl" "é\n" writtenBlocks :=
    ⟨by decide, hname, by decide, by decide, fun _ => by decide, by decide⟩
  exact ⟨hext, h, ofText_written hext h⟩

end SplitText

end TemplateBundler
