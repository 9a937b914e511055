import Mathlib.Data.List.Permutation
import TemplateBundler.Renderer
import TemplateBundler.Template.Stock

/-!
# Code with a comment in it

With debugging on, the code of a template names its file in a comment. A script ends a comment at the
first character that ends a line, and there are four of these; in the name only line feeds are
replaced. What stands before the first of the other three is comment, and all behind it is code:

    withoutComment (templateCode filename source ⟨autoescape, true⟩) =
      functionCode (spilled filename ++ returnLine source autoescape)     (withoutComment_templateCode)
    spilled filename = "" ↔ ∀ c ∈ filename.toList, breaksComment c = false      (spilled_eq_empty_iff)

So the codes with and without debugging agree up to the comment for just the names that hold no such
character (`withoutComment_code_iff`), and a file name can bring in code of its own
(`exists_code_outside_comment`).
-/

namespace TemplateBundler.Renderer

/-! ## Comments of a script -/

/-- The characters that end a line of a script: line feed, carriage return, and the separators of
lines and of paragraphs. -/
def endsScriptLine (c : Char) : Bool :=
  c == '\n' || c == '\r' || c.toNat == 0x2028 || c.toNat == 0x2029

/-- What follows the first line of a script. -/
def afterLine (cs : List Char) : List Char := (cs.dropWhile fun c => !endsScriptLine c).drop 1

/-- A script without its first comment, which goes from two slashes to the end of their line. -/
def dropComment : List Char → List Char
  | [] => []
  | [c] => [c]
  | c :: d :: cs => if c = '/' ∧ d = '/' then afterLine cs else c :: dropComment (d :: cs)

def withoutComment (script : String) : String := String.ofList (dropComment script.toList)

/-- The characters that end a comment although they are no line feeds. -/
def breaksComment (c : Char) : Bool := endsScriptLine c && c != '\n'

/-- What of a file name comes to stand outside the comment that names it, with the end of its
line. -/
def spilled (filename : String) : String :=
  String.ofList (afterLine (sourceComment filename).toList)

/-- The line of the code that renders. -/
def returnLine (source : String) (autoescape : Bool) : String :=
  "return " ++ Conventions.runtimeName ++ ".render(" ++ Text.json source ++ ", locals, " ++
    toString autoescape ++ ");"

/-! ## Lines -/

theorem afterLine_append {front : List Char} (h : ∀ c ∈ front, endsScriptLine c = false) {t : Char}
    (ht : endsScriptLine t = true) (rest : List Char) : afterLine (front ++ t :: rest) = rest := by
  unfold afterLine
  rw [List.dropWhile_append_of_pos fun c hc => by rw [h c hc]; rfl, List.dropWhile_cons, ht]
  rfl

/-- A text has a first character of a kind, or none. -/
theorem cut_first (p : Char → Bool) (cs : List Char) : (∀ c ∈ cs, p c = false) ∨
    ∃ front t rest, cs = front ++ t :: rest ∧ (∀ c ∈ front, p c = false) ∧ p t = true := by
  induction cs with
  | nil => exact Or.inl fun c hc => absurd hc List.not_mem_nil
  | cons c cs ih =>
    by_cases hc : p c = true
    · exact Or.inr ⟨[], c, cs, rfl, fun d hd => absurd hd List.not_mem_nil, hc⟩
    rw [Bool.not_eq_true] at hc
    rcases ih with hall | ⟨front, t, rest, rfl, hfront, ht⟩
    · exact Or.inl (List.forall_mem_cons.2 ⟨hc, hall⟩)
    · exact Or.inr ⟨c :: front, t, rest, rfl, List.forall_mem_cons.2 ⟨hc, hfront⟩, ht⟩

/-- What is put behind the end of the first line follows it. -/
theorem afterLine_append_right {cs : List Char} (h : ∃ c ∈ cs, endsScriptLine c = true)
    (rest : List Char) : afterLine (cs ++ rest) = afterLine cs ++ rest := by
  rcases cut_first endsScriptLine cs with hall | ⟨front, t, more, rfl, hfront, ht⟩
  · obtain ⟨c, hc, hends⟩ := h
    rw [hall c hc] at hends
    cases hends
  · rw [List.append_assoc, List.cons_append, afterLine_append hfront ht, afterLine_append hfront ht]

theorem dropComment_append {front : List Char} (h : '/' ∉ front) (cs : List Char) :
    dropComment (front ++ '/' :: '/' :: cs) = front ++ afterLine cs := by
  induction front with
  | nil =>
    rw [List.nil_append, dropComment, if_pos ⟨rfl, rfl⟩]
    rfl
  | cons c front ih =>
    rw [List.mem_cons, not_or] at h
    obtain ⟨hc, hfront⟩ := h
    cases front with
    | nil => rw [List.cons_append, List.nil_append, dropComment, if_neg fun e => hc e.1.symm]
             exact congrArg (c :: ·) (ih hfront)
    | cons d front =>
      rw [List.cons_append, List.cons_append, dropComment, if_neg fun e => hc e.1.symm]
      exact congrArg (c :: ·) (ih hfront)

/-! ## The comment that names a file -/

theorem toList_oneLine (s : String) :
    (oneLine s).toList = s.toList.map fun c => if c == '\n' then ' ' else c := by
  rw [oneLine, String.toList_map]

theorem endsScriptLine_replaced (c : Char) :
    endsScriptLine (if c == '\n' then ' ' else c) = breaksComment c := by
  unfold breaksComment
  by_cases hc : c = '\n'
  · rw [hc]
    decide
  · have hbeq : (c == '\n') = false := by simpa using hc
    rw [hbeq, bne, hbeq]
    simp

/-- The comment up to a part of the name that does not break it. -/
theorem endsScriptLine_front {front : List Char} (h : ∀ c ∈ front, breaksComment c = false) :
    ∀ c ∈ "// source: ".toList ++ front.map fun c => if c == '\n' then ' ' else c,
      endsScriptLine c = false := by
  have hmark : ("// source: ".toList.all fun c => !endsScriptLine c) = true := by decide
  intro c hc
  rcases List.mem_append.1 hc with hc | hc
  · simpa using List.all_eq_true.1 hmark c hc
  · obtain ⟨d, hd, rfl⟩ := List.mem_map.1 hc
    rw [endsScriptLine_replaced, h d hd]

/-- The two slashes are no part of what ends at the line's end. -/
theorem afterLine_slashes (cs : List Char) : afterLine ('/' :: '/' :: cs) = afterLine cs := by
  have hslash : (!endsScriptLine '/') = true := by decide
  unfold afterLine
  rw [List.dropWhile_cons, if_pos hslash, List.dropWhile_cons, if_pos hslash]

theorem toList_sourceComment (filename : String) : (sourceComment filename).toList =
    "// source: ".toList ++ (filename.toList.map fun c => if c == '\n' then ' ' else c) ++ ['\n'] := by
  rw [sourceComment, String.toList_append, String.toList_append, toList_oneLine]
  rfl

/-- A name that does not break its comment stays in it. -/
theorem spilled_of_forall {filename : String}
    (h : ∀ c ∈ filename.toList, breaksComment c = false) : spilled filename = "" := by
  rw [spilled, toList_sourceComment, afterLine_append (endsScriptLine_front h) (by decide)]

/-- What follows the first character that breaks the comment stands outside of it. -/
theorem spilled_of_breaks {filename : String} {front more : List Char} {t : Char}
    (hname : filename.toList = front ++ t :: more) (hfront : ∀ c ∈ front, breaksComment c = false)
    (ht : breaksComment t = true) : spilled filename = oneLine (String.ofList more) ++ "\n" := by
  have hends : endsScriptLine (if t == '\n' then ' ' else t) = true := by
    rw [endsScriptLine_replaced, ht]
  rw [spilled, toList_sourceComment, hname, List.map_append, List.map_cons, ← List.append_assoc,
    List.append_assoc, List.cons_append, afterLine_append (endsScriptLine_front hfront) hends,
    ← String.toList_inj, String.toList_ofList, String.toList_append, toList_oneLine,
    String.toList_ofList]
  rfl

theorem spilled_eq_empty_iff (filename : String) :
    spilled filename = "" ↔ ∀ c ∈ filename.toList, breaksComment c = false := by
  refine ⟨fun h => ?_, spilled_of_forall⟩
  rcases cut_first breaksComment filename.toList with hall | ⟨front, t, more, hname, hfront, ht⟩
  · exact hall
  · rw [spilled_of_breaks hname hfront ht] at h
    exact absurd (congrArg String.toList h) (by simp)

/-! ## The codes with and without debugging -/

theorem templateCode_debug (filename source : String) (autoescape : Bool) :
    templateCode filename source ⟨autoescape, true⟩ =
      functionCode (sourceComment filename ++ returnLine source autoescape) := by
  simp only [templateCode, returnLine, if_true, String.append_assoc]

theorem templateCode_plain (filename source : String) (autoescape : Bool) :
    templateCode filename source ⟨autoescape, false⟩ =
      functionCode (returnLine source autoescape) := by
  simp only [templateCode, returnLine, Bool.false_eq_true, if_false, String.empty_append,
    String.append_assoc]

theorem toList_between (front body back : String) :
    (front ++ body ++ back).toList = front.toList ++ (body.toList ++ back.toList) := by
  rw [String.toList_append, String.toList_append, List.append_assoc]

/-- The code of a function is a body between two texts, and no comment begins before the body. -/
theorem exists_functionCode_eq : ∃ front back : List Char, '/' ∉ front ∧
    ∀ body, (functionCode body).toList = front ++ (body.toList ++ back) := by
  refine ⟨"function anonymous(locals) \x7b\n".toList, "\n\x7d".toList, by decide +kernel, fun body => ?_⟩
  exact toList_between _ body _

theorem functionCode_inj {body body' : String} (h : functionCode body = functionCode body') :
    body = body' := by
  obtain ⟨front, back, -, hcode⟩ := exists_functionCode_eq
  have hcs := congrArg String.toList h
  rw [hcode, hcode] at hcs
  exact String.toList_inj.1 (List.append_cancel_right (List.append_cancel_left hcs))

/-- **What is left of the code without its comment.** -/
theorem withoutComment_templateCode (filename source : String) (autoescape : Bool) :
    withoutComment (templateCode filename source ⟨autoescape, true⟩) =
      functionCode (spilled filename ++ returnLine source autoescape) := by
  obtain ⟨front, back, hfront, hcode⟩ := exists_functionCode_eq
  have hmark : "// source: ".toList = '/' :: '/' :: " source: ".toList := by decide
  obtain ⟨comment, hcomment⟩ : ∃ comment,
      (sourceComment filename).toList = '/' :: '/' :: comment := by
    rw [toList_sourceComment, hmark]
    exact ⟨_, rfl⟩
  -- the line feed that the comment is written with
  have hends : ∃ c ∈ comment, endsScriptLine c = true := by
    refine ⟨'\n', ?_, by decide⟩
    have hmem : '\n' ∈ (sourceComment filename).toList := by
      rw [toList_sourceComment]
      exact List.mem_append_right _ List.mem_cons_self
    rw [hcomment] at hmem
    simpa using hmem
  have hspilled : (spilled filename).toList = afterLine comment := by
    rw [spilled, String.toList_ofList, hcomment, afterLine_slashes]
  rw [templateCode_debug, ← String.toList_inj, withoutComment, String.toList_ofList, hcode, hcode,
    String.toList_append, String.toList_append, hcomment, hspilled]
  simp only [List.append_assoc, List.cons_append]
  rw [dropComment_append hfront, afterLine_append_right hends]

theorem compile_debug [Template.Language] {filename source : String} {autoescape : Bool}
    {r : Renderer} (h : compile filename source ⟨autoescape, true⟩ = .ok r) :
    ∃ r', compile filename source ⟨autoescape, false⟩ = .ok r' := by
  unfold compile at h ⊢
  split at h
  · cases h
  split at h
  · exact ⟨_, rfl⟩
  · cases h

/-- **Which file names leave the code as it is without debugging**, and what the others bring in. -/
theorem withoutComment_code_iff [Template.Language] {filename source : String} {autoescape : Bool}
    {r : Renderer} (h : compile filename source ⟨autoescape, true⟩ = .ok r) :
    ∃ r', compile filename source ⟨autoescape, false⟩ = .ok r' ∧
      (withoutComment r.code = r'.code ↔ ∀ c ∈ filename.toList, breaksComment c = false) ∧
      ∀ front t more, filename.toList = front ++ t :: more →
        (∀ c ∈ front, breaksComment c = false) → breaksComment t = true →
          withoutComment r.code =
            functionCode (oneLine (String.ofList more) ++ "\n" ++ returnLine source autoescape) := by
  obtain ⟨r', h'⟩ := compile_debug h
  have hcode := withoutComment_templateCode filename source autoescape
  rw [← code_of_compile h] at hcode
  refine ⟨r', h', ?_, ?_⟩
  · rw [hcode, code_of_compile h', templateCode_plain, ← spilled_eq_empty_iff]
    constructor
    · intro heq
      have hbody := congrArg String.toList (functionCode_inj heq)
      rw [String.toList_append] at hbody
      exact String.toList_inj.1 (List.append_left_eq_self.1 hbody)
    · intro hempty
      rw [hempty, String.empty_append]
  · intro front t more hname hfront ht
    rw [hcode, spilled_of_breaks hname hfront ht]

/-- A name with a space, a line feed and a block. -/
theorem withoutComment_code_twoLines :
    ∃ r r', compile "a\nb.tmpl [Row]" "x" ⟨true, true⟩ = .ok r ∧
      compile "a\nb.tmpl [Row]" "x" ⟨true, false⟩ = .ok r' ∧ withoutComment r.code = r'.code := by
  have hok : (compile "a\nb.tmpl [Row]" "x" ⟨true, true⟩).isOk = true := by cbv
  cases h : compile "a\nb.tmpl [Row]" "x" ⟨true, true⟩ with
  | error e =>
    rw [h] at hok
    cases hok
  | ok r =>
    obtain ⟨r', h', hiff, -⟩ := withoutComment_code_iff h
    have hplain : "a\nb.tmpl [Row]".toList.all (breaksComment · == false) = true := by decide
    exact ⟨r, r', rfl, h', hiff.2 fun c hc => eq_of_beq (List.all_eq_true.1 hplain c hc)⟩

/-- A file whose name holds a carriage return brings in code of its own. -/
theorem exists_code_outside_comment :
    ∃ r r', compile "a\rb.tmpl" "x" ⟨true, true⟩ = .ok r ∧
      compile "a\rb.tmpl" "x" ⟨true, false⟩ = .ok r' ∧ withoutComment r.code ≠ r'.code ∧
      withoutComment r.code =
        "function anonymous(locals) \x7b\nb.tmpl\nreturn tmplpack.render(\"x\", locals, true);\n\x7d" := by
  have hok : (compile "a\rb.tmpl" "x" ⟨true, true⟩).isOk = true := by cbv
  cases h : compile "a\rb.tmpl" "x" ⟨true, true⟩ with
  | error e =>
    rw [h] at hok
    cases hok
  | ok r =>
    obtain ⟨r', h'⟩ := compile_debug h
    have hcode := withoutComment_templateCode "a\rb.tmpl" "x" true
    have hspilled : spilled "a\rb.tmpl" = "b.tmpl\n" := by decide +kernel
    rw [← code_of_compile h, hspilled] at hcode
    refine ⟨r, r', rfl, h', fun heq => ?_, ?_⟩
    · rw [heq, code_of_compile h', templateCode_plain] at hcode
      exact absurd (functionCode_inj hcode) (by cbv)
    · exact hcode.trans (by decide +kernel)

end TemplateBundler.Renderer
