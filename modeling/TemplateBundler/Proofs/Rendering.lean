import TemplateBundler.Proofs.Outline
import TemplateBundler.Proofs.Refusals
import TemplateBundler.Template.Stock

/-!
# What templates render to

A source in which no tag opens is a template of the program, and renders to itself
(`compiles_untagged`). What a tag prints is escaped where the setting says so: a text that comes
from a path, a literal or a filter, and is not declared safe in the end, has no markup left in it
(`text_of_print`).

A node changes nothing of its scope but what is assigned in the innermost frame (`local_node`), and
so does a body (`Run.Local`). So all rounds of a loop start from the scope around the loop, and the
loop leaves that scope as it was (`runsOver_of_loop`).
-/

namespace TemplateBundler.Template

open Text (Reader)
open Text.Reader
open Source (bind_eq_ok_iff)

/-! ## Texts without tags -/

/-- No tag opens in the text. -/
def Untagged (cs : List Char) : Prop := ∀ rest, rest <:+ cs → beginsTag rest = false

theorem Untagged.tail {c : Char} {cs : List Char} (h : Untagged (c :: cs)) : Untagged cs :=
  fun rest hrest => h rest (hrest.trans (List.suffix_cons c cs))

theorem plainText_of_untagged {cs : List Char} (h : Untagged cs) : plainText cs = (cs, []) := by
  induction cs using plainText.induct with
  | case1 => rfl
  | case2 c => rfl
  | case3 c d cs hopen =>
    have hbegins : opensTag c d = false := h _ List.suffix_rfl
    rw [hopen] at hbegins
    cases hbegins
  | case4 c d cs hopen front rest hplain ih =>
    rw [plainText, if_neg hopen, ih h.tail]

/-- Where no tag opens, no comment does. -/
theorem comment_of_untagged {cs : List Char} (h : Untagged cs) : comment cs = none := by
  rw [Option.eq_none_iff_forall_ne_some]
  rintro ⟨edges, rest⟩ hread
  obtain ⟨_, mid, hopen, -⟩ := bind_eq_some_iff.1 hread
  have hcs : cs = '\x7b' :: '#' :: mid := word_eq_some_iff.1 hopen
  have hbegins := h cs List.suffix_rfl
  rw [hcs] at hbegins
  cases hbegins

section Many
variable {α : Type} {p : Reader α} {cs rest : List Char}

theorem upTo_of_none (h : p cs = none) (bound : List Char) : upTo p bound cs = some ([], cs) := by
  cases bound with
  | nil => rfl
  | cons _ bound =>
    refine orElse_of_none ?_
    rw [Option.eq_none_iff_forall_ne_some]
    rintro ⟨as, rest⟩ hread
    obtain ⟨_, _, hfirst, -⟩ := bind_eq_some_iff.1 hread
    rw [h] at hfirst
    cases hfirst

/-- A reader that takes everything reads once. -/
theorem many_of_whole {a : α} (hne : cs ≠ []) (h : p cs = some (a, [])) (hnil : p [] = none) :
    many p cs = some ([a], []) := by
  obtain ⟨c, cs, rfl⟩ := List.exists_cons_of_ne_nil hne
  refine orElse_of_some (bind_eq_some_iff.2 ⟨a, [], h, ?_⟩)
  exact bind_eq_some_iff.2 ⟨[], [], upTo_of_none hnil cs, rfl⟩

end Many

/-- **A text without tags** is a template of one node. -/
theorem parse?_of_untagged {cs : List Char} (hne : cs ≠ []) (h : Untagged cs) :
    parse? cs = some [.text (String.ofList cs)] := by
  have hcomments : many comment cs = some ([], cs) := upTo_of_none (comment_of_untagged h) cs
  have hnode : nested node Place.outside cs = some (.text (String.ofList cs), []) := by
    have htext : textNode cs = some (.text (String.ofList cs), []) := by
      rw [textNode, plainText_of_untagged h]
      simp [hne]
    cases cs with
    | nil => exact absurd rfl hne
    | cons c cs => exact orElse_of_some htext
  have hbody := many_of_whole hne hnode rfl
  have htemplate : template cs = some ([.text (String.ofList cs)], []) :=
    seqRight_eq_some_iff.2 ⟨[], cs, hcomments, hbody⟩
  rw [parse?, all?, htemplate, Option.bind_some]
  simp [trimBody, trimNode, trimSides, asksBefore, blocksOf, distinct]

theorem render_text (escaped : Bool) (s : String) (context : List (String × Value)) :
    render escaped [.text s] context = .ok s := by
  have hlimit : maxDepth = 999 + 1 := rfl
  rw [render, hlimit, renderWithin]
  simp only [renderBody, renderNode, Run.andThen, Run.emit, bind, Except.bind, Except.map,
    String.append_empty]

theorem exists_rendering_of_untagged {source : String} (h : Untagged source.toList) :
    ∃ rendering, stock.parse source = .ok rendering ∧
      ∀ escaped context, rendering escaped context = .ok source := by
  obtain ⟨body, hparse, hrender⟩ : ∃ body, parse? source.toList = some body ∧
      ∀ escaped context, render escaped body context = .ok source := by
    by_cases hne : source.toList = []
    · obtain rfl : source = "" := String.toList_inj.1 hne
      exact ⟨[], by cbv, fun escaped context => rfl⟩
    · refine ⟨_, parse?_of_untagged hne h, fun escaped context => ?_⟩
      rw [render_text, String.ofList_toList]
  refine ⟨fun escaped context =>
    (render escaped body context).mapError fun p => "Failed to render 'unit'" :: p.causes, ?_, ?_⟩
  · simp only [Language.parse, hparse]
  · intro escaped context
    simp only [hrender, Except.mapError]

/-! ## Escaped values -/

/-- A character that begins or ends a tag or an attribute of markup. -/
def isMarkup (c : Char) : Bool := c == '<' || c == '>' || c == '"' || c.toNat == 39

theorem isMarkup_of_mem_escapeChar {c d : Char} (h : c ∈ escapeChar d) : isMarkup c = false := by
  have hall : (["&amp;", "&lt;", "&gt;", "&quot;", "&#x2F;", "&#x27;"].all fun entity =>
      entity.toList.all fun c => !isMarkup c) = true := by decide
  have hentities : ∀ entity ∈ ["&amp;", "&lt;", "&gt;", "&quot;", "&#x2F;", "&#x27;"],
      ∀ c ∈ entity.toList, isMarkup c = false := fun entity hentity c hc =>
    Bool.not_eq_eq_eq_not.1 (List.all_eq_true.1 (List.all_eq_true.1 hall entity hentity) c hc)
  unfold escapeChar at h
  split at h
  · exact hentities "&amp;" (by decide) c h
  · exact hentities "&lt;" (by decide) c h
  · exact hentities "&gt;" (by decide) c h
  · exact hentities "&quot;" (by decide) c h
  · exact hentities "&#x2F;" (by decide) c h
  · split at h
    · exact hentities "&#x27;" (by decide) c h
    · obtain rfl := List.mem_singleton.1 h
      simp_all [isMarkup]

theorem isMarkup_of_mem_escape {s : String} {c : Char} (h : c ∈ (escape s).toList) :
    isMarkup c = false := by
  rw [escape, String.toList_ofList] at h
  obtain ⟨d, -, hc⟩ := List.mem_flatMap.1 h
  exact isMarkup_of_mem_escapeChar hc

theorem FilterReading.escapable_of_apply {f : FilterReading} {v w : Value} {b : Bool}
    (h : f.apply (v, true) = .ok (w, b)) : b = true := by
  simp only [FilterReading.apply] at h
  split at h
  · cases h
    rfl
  split at h
  · cases h
  split at h
  · cases h
    rfl
  · cases h

theorem escapable_of_foldlM {filters : List FilterReading} {v w : Value} {b : Bool}
    (h : filters.foldlM (fun w f => f.apply w) (v, true) = Except.ok (w, b)) : b = true := by
  induction filters generalizing v with
  | nil =>
    cases h
    rfl
  | cons f filters ih =>
    rw [List.foldlM_cons] at h
    cases hfirst : f.apply (v, true) with
    | error e =>
      rw [hfirst] at h
      cases h
    | ok r =>
      obtain ⟨w', b'⟩ := r
      rw [hfirst] at h
      obtain rfl := FilterReading.escapable_of_apply hfirst
      exact ih h

theorem getLast?_filterReadings (s : Scope) (filters : List Filter) :
    (filterReadings s filters).getLast? = filters.getLast?.map (Filter.reading s) := by
  have hmap : filterReadings s filters = filters.map (Filter.reading s) := by
    induction filters with
    | nil => rfl
    | cons f filters ih => rw [filterReadings, ih, List.map_cons]
  rw [hmap, List.getLast?_map]

/-- **A printed text is escaped**, if it is from a literal, a path or a filter, and `safe` is not
the last filter. -/
theorem exists_escape_of_value {s : Scope} {term : Term} {filters : List Filter} {out : String}
    (hterm : term.isEscapable = true)
    (hsafe : ∀ arguments, filters.getLast? ≠ some (.mk "safe" arguments))
    (h : ((Expr.mk false term filters).reading s).value true = .ok (.text out)) :
    ∃ t, out = escape t := by
  have hlast :
      ((filterReadings s filters).getLast?.map FilterReading.name == some "safe") = false := by
    rw [getLast?_filterReadings, beq_eq_false_iff_ne]
    cases hf : filters.getLast? with
    | none => exact nofun
    | some f =>
      obtain ⟨name, arguments⟩ := f
      intro hname
      obtain rfl : name = "safe" := Option.some.inj hname
      exact hsafe arguments hf
  simp only [Expr.reading, Reading.ofParts, Reading.valueOf, hterm, hlast, bind_eq_ok_iff] at h
  obtain ⟨first, -, hfiltered⟩ := h
  cases first with
  | none => cases hfiltered
  | some first =>
    obtain ⟨⟨w, b⟩, hfold, hshown⟩ := (bind_eq_ok_iff _ _ _).1 hfiltered
    obtain rfl := escapable_of_foldlM hfold
    simp only [Bool.false_eq_true, if_false] at hshown
    cases w with
    | text t =>
      cases hshown
      exact ⟨t, rfl⟩
    | _ => cases hshown

/-- **What a tag prints** of such a text has no markup in it. -/
theorem text_of_print {setting : Setting} (hescaped : setting.escaped = true) {s : Scope}
    {term : Term} {filters : List Filter} (hterm : term.isEscapable = true)
    (hsafe : ∀ arguments, filters.getLast? ≠ some (.mk "safe" arguments)) {out : String}
    (h : ((Expr.mk false term filters).reading s).value true = .ok (.text out)) (edges : Edges) :
    renderNode setting (.print edges (.mk false term filters)) s = .ok ⟨out, .done, s⟩ ∧
      ∀ c ∈ out.toList, isMarkup c = false := by
  obtain ⟨t, rfl⟩ := exists_escape_of_value hterm hsafe h
  refine ⟨?_, fun c => isMarkup_of_mem_escape⟩
  simp only [renderNode, hescaped, h, bind, Except.bind, Value.shownText]

/-! ## Scopes -/

/-- The scope differs from the first one in what is assigned in the innermost frame at most. -/
structure Scope.Beside (s s' : Scope) : Prop where
  context : s'.context = s.context
  around : s'.frames.tail = s.frames.tail
  round : s'.frames.head?.map Frame.round = s.frames.head?.map Frame.round

theorem Scope.Beside.refl (s : Scope) : s.Beside s := ⟨rfl, rfl, rfl⟩

theorem Scope.Beside.trans {s s' s'' : Scope} (h : s.Beside s') (h' : s'.Beside s'') :
    s.Beside s'' :=
  ⟨h'.context.trans h.context, h'.around.trans h.around, h'.round.trans h.round⟩

theorem Scope.beside_assign (s : Scope) (name : String) (v : Value) :
    s.Beside (s.assign name v) := by
  unfold Scope.assign
  split
  · next f frames hframes => exact ⟨rfl, by rw [hframes]; rfl, by rw [hframes]; rfl⟩
  · exact .refl s

/-- A round ends in the scope it was entered from. -/
theorem Scope.Beside.exit_eq {s s' : Scope} {r : Round} (h : (s.enter r).Beside s') :
    s'.exit = s := by
  have hframes : s'.frames.drop 1 = s.frames := by
    rw [List.drop_one]
    exact h.around
  rw [Scope.exit, hframes, show s'.context = s.context from h.context]

namespace Run

/-- The run changes its scope in the innermost frame at most. -/
def Local (run : Run) : Prop := ∀ s r, run s = .ok r → s.Beside r.scope

theorem local_emit (t : String) : (emit t).Local := by
  intro s r h
  cases h
  exact .refl s

theorem Local.andThen {first second : Run} (h : first.Local) (h' : second.Local) :
    (first.andThen second).Local := by
  intro s r hrun
  simp only [Run.andThen, bind_eq_ok_iff] at hrun
  obtain ⟨one, hone, hrest⟩ := hrun
  split at hrest
  · obtain ⟨more, hmore, hboth⟩ := (bind_eq_ok_iff _ _ _).1 hrest
    cases hboth
    exact (h s one hone).trans (h' one.scope more hmore)
  · cases hrest
    exact h s r hone

theorem local_jump (flow : Flow) (word : String) : (jump flow word).Local := by
  intro s r h
  unfold jump at h
  split at h
  · cases h
    exact .refl s
  · cases h

/-- The rounds of a loop start from one scope, up to the last or to the first that leaves; what they
come to is what the loop comes to, in the scope it started in. -/
structure RunsOver (body : Run) (all : List Round) (s : Scope) (r : Rendered) : Prop where
  scope_eq : r.scope = s
  flow_eq : r.flow = .done
  text_eq : ∃ ones, List.Forall₂ (fun round one => body (s.enter round) = .ok one)
      (all.take ones.length) ones ∧ r.text = String.join (ones.map Rendered.text) ∧
    (ones.length = all.length ∨ ones.getLast?.map Rendered.flow = some .leave)

/-- **The rounds of a loop** one after the other. -/
theorem Local.rounds {body : Run} (h : body.Local) {all : List Round} {s : Scope} {r : Rendered}
    (hrun : Run.rounds body all s = .ok r) : RunsOver body all s r := by
  induction all generalizing r with
  | nil =>
    cases hrun
    exact ⟨rfl, rfl, [], .nil, rfl, .inl rfl⟩
  | cons round all ih =>
    simp only [Run.rounds, bind_eq_ok_iff] at hrun
    obtain ⟨one, hone, hrest⟩ := hrun
    rw [(h _ one hone).exit_eq] at hrest
    have hlast : String.join [one.text] = one.text := by simp [String.join]
    split at hrest
    · next hleave =>
      cases hrest
      exact ⟨rfl, rfl, [one], .cons hone .nil, hlast.symm, .inr (congrArg some hleave)⟩
    · obtain ⟨more, hmore, hboth⟩ := (bind_eq_ok_iff _ _ _).1 hrest
      obtain ⟨hscope, hflow, ones, hones, htext, hend⟩ := ih hmore
      cases hboth
      refine ⟨hscope, hflow, one :: ones, .cons hone hones, ?_, ?_⟩
      · rw [List.map_cons, String.join_cons, htext]
      · rcases hend with hall | hleave
        · exact .inl (by rw [List.length_cons, List.length_cons, hall])
        · cases ones with
          | nil => cases hleave
          | cons two ones => exact .inr hleave

end Run

/-- Every block changes its scope in the innermost frame at most. -/
def Setting.Local (setting : Setting) : Prop :=
  ∀ name run, setting.block? name = some run → run.Local

section Nodes
variable {setting : Setting}

mutual

/-- **A node** changes its scope in the innermost frame at most. -/
theorem local_node (h : setting.Local) : ∀ n, (renderNode setting n).Local
  | .text t => Run.local_emit t
  | .comment _ => Run.local_emit ""
  | .raw _ t _ => Run.local_emit t
  | .print _ e => by
    intro s r hrun
    simp only [renderNode, bind_eq_ok_iff] at hrun
    obtain ⟨v, -, hprinted⟩ := hrun
    cases hprinted
    exact .refl s
  | .assign _ name e => by
    intro s r hrun
    simp only [renderNode, bind_eq_ok_iff] at hrun
    obtain ⟨v, -, hassigned⟩ := hrun
    cases hassigned
    exact s.beside_assign name v
  | .leave _ => Run.local_jump .leave "break"
  | .next _ => Run.local_jump .next "continue"
  | .branch arms otherwise _ => local_arms h arms (local_otherwise h otherwise)
  | .loop _ key item container body empty _ => by
    intro s r hrun
    simp only [renderNode, bind_eq_ok_iff] at hrun
    obtain ⟨all, -, hloop⟩ := hrun
    split at hloop
    · exact local_body h empty s r hloop
    · rw [((local_body h body).rounds hloop).scope_eq]
      exact .refl s
  | .block _ name body _ => by
    intro s r hrun
    simp only [renderNode] at hrun
    split at hrun
    · next run hblock => exact h name run hblock s r hrun
    · exact local_body h body s r hrun

theorem local_body (h : setting.Local) : ∀ nodes, (renderBody setting nodes).Local
  | [] => Run.local_emit ""
  | n :: nodes => (local_node h n).andThen (local_body h nodes)

theorem local_arms (h : setting.Local) : ∀ arms {last : Run}, last.Local →
    (renderArms setting last arms).Local
  | [], _, hlast => hlast
  | a :: arms, _, hlast => local_arm h a (local_arms h arms hlast)

theorem local_arm (h : setting.Local) : ∀ a {otherwise : Run}, otherwise.Local →
    (renderArm setting otherwise a).Local
  | .mk _ none body, _, _ => local_body h body
  | .mk _ (some condition) body, _, hother => by
    intro s r hrun
    simp only [renderArm, bind_eq_ok_iff] at hrun
    obtain ⟨holds, -, harm⟩ := hrun
    split at harm
    · exact local_body h body s r harm
    · exact hother s r harm

theorem local_otherwise (h : setting.Local) : ∀ arm?, (renderOtherwise setting arm?).Local
  | some arm => local_arm h arm (Run.local_emit "")
  | none => Run.local_emit ""

end

end Nodes

/-- The blocks of a template, down to any depth. -/
theorem local_within (escaped : Bool) (blocks : List (String × List Node)) (depth : Nat)
    (body : List Node) : (renderWithin escaped blocks depth body).Local := by
  induction depth generalizing body with
  | zero =>
    intro s r hrun
    cases hrun
  | succ depth ih =>
    refine local_body (fun name run hblock => ?_) body
    obtain ⟨inner, -, rfl⟩ := Option.map_eq_some_iff.1 hblock
    exact ih inner

/-- **A loop leaves the scope as it was**, if it runs at all: what is assigned in a round is gone
behind it, and every round starts from the scope around the loop. -/
theorem runsOver_of_loop {setting : Setting} (h : setting.Local) {s : Scope} {start stop : Edges}
    {key : Option String} {item : String} {container : Expr} {body empty : List Node}
    {all : List Round} (hrounds : loopRounds s key item container = .ok all) (hne : all ≠ [])
    {r : Rendered} (hrun : renderNode setting (.loop start key item container body empty stop) s =
      .ok r) : Run.RunsOver (renderBody setting body) all s r := by
  simp only [renderNode, hrounds, bind, Except.bind, List.isEmpty_iff, hne, if_false] at hrun
  exact (local_body h body).rounds hrun

end TemplateBundler.Template

namespace TemplateBundler.Renderer

open Template (Untagged)

/-- Where no tag opens, none opens that needs another template. -/
theorem not_holds_of_untagged {cs : List Char} (h : Untagged cs) : ¬HoldsOpening cs := by
  rintro ⟨front, rest, rfl, hopens⟩
  have hbegins := h rest (List.suffix_append front rest)
  cases hopens
  cases hbegins

/-- **A source without tags compiles**, and renders to itself in every context. -/
theorem compiles_untagged {source : String} (h : Untagged source.toList) (filename : String)
    (flags : CompileFlags) : ∃ r, compile filename source flags = .ok r ∧
      ∀ context, r.render context = .ok source := by
  obtain ⟨rendering, hparse, hrender⟩ := Template.exists_rendering_of_untagged h
  refine ⟨.template filename source flags rendering, ?_, fun context => ?_⟩
  · rw [compile, unsupported?_eq_none_iff.2 (not_holds_of_untagged h)]
    simp only [hparse]
  · rw [render, hrender]

end TemplateBundler.Renderer
