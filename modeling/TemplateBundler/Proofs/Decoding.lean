import Mathlib.Algebra.BigOperators.Group.List.Basic
import TemplateBundler.Proofs.Bindings

/-!
# Reading an artifact back

An artifact tells the list of its assignments: the names that lead to each unit from the top, and
the code of the unit. `readScript` undoes the whole text, piece by piece. Each reader stops by
itself, whatever text follows, since each piece ends in a mark of its own: a name in the character
that continues no identifier or in the bare quote, a comment in its line end, a source in its bare
quote.

    readNames n (accesses ns ++ " = " ++ rest) = some (ns, rest)               (readNames_accesses)
    readCode (r.code ++ rest) = some (r.function, rest)                             (readCode_code)
    readAssignments (script t top global) = some (assignments t top)       (readAssignments_script)

So two artifacts of one global have the same text exactly when they make the same assignments, and
neither freshness nor the place of a unit in its array leaves a trace.
-/

namespace TemplateBundler

/-- The function that the code of a renderer makes, as far as its text tells: the name of the file
in its comment, on one line, and the source with whether its values are escaped. -/
inductive ClientFunction where
  | empty
  | template (comment : Option String) (source : String) (escapes : Bool)
deriving DecidableEq, Repr

namespace Renderer

/-- The line that a comment gives of the file name. -/
def commentLine (filename : String) (flags : CompileFlags) : Option String :=
  if flags.debug then some (oneLine filename) else none

def function : Renderer → ClientFunction
  | empty => .empty
  | template filename source flags _ =>
    .template (commentLine filename flags) source flags.autoescape

end Renderer

namespace ClientFunction

/-- The comment that names a file, with the end of its line. -/
def commentText : Option String → String
  | none => ""
  | some line => "// source: " ++ line ++ "\n"

/-- The call that renders a source. -/
def call (source : String) (escapes : Bool) : String :=
  "return " ++ Conventions.runtimeName ++ ".render(" ++ Text.json source ++ ", locals, " ++
    toString escapes ++ ");"

/-- The statements of a function. -/
def body : ClientFunction → String
  | empty => "return \"\";"
  | template comment source escapes => commentText comment ++ call source escapes

def code (f : ClientFunction) : String := Renderer.functionCode f.body

end ClientFunction

theorem Renderer.code_function (r : Renderer) : r.function.code = r.code := by
  cases r with
  | empty => rfl
  | template filename source flags rendering =>
    obtain ⟨autoescape, debug⟩ := flags
    unfold ClientFunction.code Renderer.code Renderer.templateCode
    congr 1
    simp only [Renderer.function, Renderer.commentLine, ClientFunction.body, ClientFunction.call,
      String.append_assoc]
    cases debug <;> rfl

namespace Artifact

open UnitTree

/-! ## Algorithm -/

/-- Reads accesses up to the sign that ends a target. -/
def readNames : Nat → List Char → Option (List String × List Char)
  | 0, _ => none
  | n + 1, cs =>
    match Text.after? " = ".toList cs with
    | some rest => some ([], rest)
    | none => do
      let (name, cs) ← readAccess cs
      let (names, rest) ← readNames n cs
      some (name :: names, rest)

/-- Reads a comment line, where one stands. -/
def readComment (cs : List Char) : Option String × List Char :=
  match Text.after? "// source: ".toList cs with
  | some cs => (some (String.ofList (cs.takeWhile (· ≠ '\n'))), (cs.dropWhile (· ≠ '\n')).drop 1)
  | none => (none, cs)

def readTruth (cs : List Char) : Option (Bool × List Char) :=
  match Text.after? "true".toList cs with
  | some rest => some (true, rest)
  | none => (Text.after? "false".toList cs).map fun rest => (false, rest)

/-- Reads a source, quoted, and whether its values are escaped, from the call that renders it. -/
def readCall (cs : List Char) : Option ((String × Bool) × List Char) := do
  let cs ← Text.after? "return ".toList cs
  let cs ← Text.after? Conventions.runtimeName.toList cs
  let cs ← Text.after? ".render(".toList cs
  let cs ← Text.after? ['"'] cs
  let (source, cs) ← Text.readJson cs
  let cs ← Text.after? ", locals, ".toList cs
  let (escapes, cs) ← readTruth cs
  let rest ← Text.after? ");".toList cs
  some ((String.ofList source, escapes), rest)

/-- Reads the statements of a function. -/
def readBody (cs : List Char) : Option (ClientFunction × List Char) :=
  match Text.after? "return \"\";".toList cs with
  | some rest => some (.empty, rest)
  | none => do
    let (comment, cs) := readComment cs
    let ((source, escapes), rest) ← readCall cs
    some (.template comment source escapes, rest)

/-- Reads the code of a renderer. -/
def readCode (cs : List Char) : Option (ClientFunction × List Char) := do
  let cs ← Text.after? "function anonymous(locals) \x7b\n".toList cs
  let (function, cs) ← readBody cs
  let rest ← Text.after? "\n\x7d".toList cs
  some (function, rest)

/-- Reads an assignment with the end of its line. -/
def readBinding (cs : List Char) : Option ((List String × ClientFunction) × List Char) := do
  let cs ← Text.after? Conventions.rootVariable.toList cs
  let (names, cs) ← readNames cs.length cs
  let (function, cs) ← readCode cs
  let rest ← Text.after? ";\n".toList cs
  some ((names, function), rest)

/-- Reads assignments as long as one stands there, `n` at most. -/
def readBindings : Nat → List Char → List (List String × ClientFunction) × List Char
  | 0, cs => ([], cs)
  | n + 1, cs =>
    match readBinding cs with
    | some (b, cs) => (b :: (readBindings n cs).1, (readBindings n cs).2)
    | none => ([], cs)

/-- Reads an artifact: its assignments in order, and what stands behind them. -/
def readScript (text : String) : Option (List (List String × ClientFunction) × List Char) :=
  (Text.after? opening.toList text.toList).map fun cs => readBindings cs.length cs

/-- The assignments that a script makes, as names and code. -/
def readAssignments (text : String) : Option (List (List String × String)) :=
  (readScript text).map fun r => r.1.map fun b => (b.1, b.2.code)

/-! ## What an artifact tells -/

/-- The assignments of an artifact: the names that lead to each unit from the top, and its code. -/
def assignments (t : UnitTree) (top : Nat) : List (List String × String) :=
  (t.descendants top).map fun i => (namesBelow t top i, codeOf t i)

def rendererOf (t : UnitTree) (i : Nat) : Renderer :=
  match t.unit? i with
  | some u => u.renderer
  | none => .empty

/-- The same with the renderers that the code is of. -/
def published (t : UnitTree) (top : Nat) : List (List String × Renderer) :=
  (t.descendants top).map fun i => (namesBelow t top i, rendererOf t i)

/-- The line of an assignment. -/
def line (names : List String) (code : String) : String :=
  Conventions.rootVariable ++ String.join (names.map access) ++ " = " ++ code ++ ";\n"

theorem bindings_eq (t : UnitTree) (top : Nat) :
    bindings t top = (assignments t top).map fun a => line a.1 a.2 := by
  unfold bindings assignments
  rw [List.map_map]
  rfl

/-! ## Lemmas -/

theorem after?_of_ne {c d : Char} (h : c ≠ d) (p cs : List Char) :
    Text.after? (c :: p) (d :: cs) = none := by
  rw [Text.after?, if_neg h]

theorem after?_append_left (front p cs : List Char) :
    Text.after? (front ++ p) (front ++ cs) = Text.after? p cs := by
  induction front with
  | nil => rfl
  | cons c front ih =>
    show (if c = c then Text.after? (front ++ p) (front ++ cs) else none) = _
    rw [if_pos rfl, ih]

theorem access_cons (n : String) :
    ∃ c cs, (access n).toList = c :: cs ∧ continuesIdentifier c = false ∧ ' ' ≠ c := by
  unfold access
  split
  · exact ⟨'.', n.toList, by simp, by decide, by decide⟩
  · exact ⟨'[', (Text.json n).toList ++ [']'], by simp, by decide, by decide⟩

theorem readNames_accesses (ns : List String) (rest : List Char) {n : Nat} (h : ns.length < n) :
    readNames n (accesses ns ++ (" = ".toList ++ rest)) = some (ns, rest) := by
  have hsign : EndsIdentifier (" = ".toList ++ rest) := by
    have hspace : continuesIdentifier ' ' = false := by decide
    constructor <;> simp [hspace]
  induction ns generalizing n with
  | nil =>
    obtain ⟨n, rfl⟩ : ∃ m, n = m + 1 := ⟨n - 1, by simp at h; omega⟩
    have hread : Text.after? " = ".toList (accesses [] ++ (" = ".toList ++ rest)) = some rest :=
      Text.after?_append _ _
    rw [readNames, hread]
  | cons m ns ih =>
    obtain ⟨n, rfl⟩ : ∃ m, n = m + 1 := ⟨n - 1, by simp at h; omega⟩
    have htext : accesses (m :: ns) ++ (" = ".toList ++ rest) =
        (access m).toList ++ (accesses ns ++ (" = ".toList ++ rest)) := by
      show (access m).toList ++ accesses ns ++ _ = _
      rw [List.append_assoc]
    have hnone : Text.after? " = ".toList ((access m).toList ++
        (accesses ns ++ (" = ".toList ++ rest))) = none := by
      obtain ⟨c, cs, hc, -, hne⟩ := access_cons m
      rw [hc]
      exact after?_of_ne hne _ _
    have hlen : ns.length < n := by simp at h; omega
    rw [htext, readNames, hnone]
    simp only [readAccess_access m (endsIdentifier_accesses ns hsign), ih hlen,
      Option.bind_eq_bind, Option.bind_some]

theorem oneLine_ne (s : String) : ∀ c ∈ (Renderer.oneLine s).toList, c ≠ '\n' := by
  intro c hc
  unfold Renderer.oneLine at hc
  rw [String.toList_map, List.mem_map] at hc
  obtain ⟨d, -, rfl⟩ := hc
  split
  · decide
  · next h => simpa using h

theorem readComment_line {line : String} (h : ∀ c ∈ line.toList, c ≠ '\n') (rest : List Char) :
    readComment ((ClientFunction.commentText (some line)).toList ++ rest) = (some line, rest) := by
  have htext : (ClientFunction.commentText (some line)).toList ++ rest =
      "// source: ".toList ++ (line.toList ++ '\n' :: rest) := by
    simp [ClientFunction.commentText]
  have hall : ∀ c ∈ line.toList, decide (c ≠ '\n') = true := by simpa using h
  rw [htext, readComment, Text.after?_append]
  simp only [List.takeWhile_append_of_pos hall, List.dropWhile_append_of_pos hall]
  simp

theorem readTruth_toString (b : Bool) (rest : List Char) :
    readTruth ((toString b).toList ++ rest) = some (b, rest) := by
  cases b with
  | true =>
    show readTruth ("true".toList ++ rest) = _
    rw [readTruth, Text.after?_append]
  | false =>
    have hnone : Text.after? "true".toList ("false".toList ++ rest) = none :=
      after?_of_ne (by decide) _ _
    show readTruth ("false".toList ++ rest) = _
    rw [readTruth, hnone, Text.after?_append]
    rfl

theorem call_append (source : String) (escapes : Bool) (rest : List Char) :
    (ClientFunction.call source escapes).toList ++ rest = "return ".toList ++
      (Conventions.runtimeName.toList ++ (".render(".toList ++ (['"'] ++
        (Text.jsonChars source.toList ++ '"' :: (", locals, ".toList ++
          ((toString escapes).toList ++ (");".toList ++ rest))))))) := by
  simp only [ClientFunction.call, String.toList_append, Text.json_eq, List.append_assoc,
    List.cons_append, List.nil_append]

theorem readCall_call (source : String) (escapes : Bool) (rest : List Char) :
    readCall ((ClientFunction.call source escapes).toList ++ rest) =
      some ((source, escapes), rest) := by
  rw [call_append, readCall]
  simp only [Option.bind_eq_bind, Option.bind_some, Text.after?_append, Text.readJson_jsonChars,
    readTruth_toString, String.ofList_toList]

/-- A call starts like no comment, -/
theorem readComment_call (source : String) (escapes : Bool) (rest : List Char) :
    readComment ((ClientFunction.call source escapes).toList ++ rest) =
      (none, (ClientFunction.call source escapes).toList ++ rest) := by
  have hnone : Text.after? "// source: ".toList
      ((ClientFunction.call source escapes).toList ++ rest) = none := by
    rw [call_append]
    exact after?_of_ne (by decide) _ _
  rw [readComment, hnone]

/-- and neither it nor a comment like the statement that gives nothing. -/
theorem after?_empty_call (source : String) (escapes : Bool) (rest : List Char) :
    Text.after? "return \"\";".toList
      ((ClientFunction.call source escapes).toList ++ rest) = none := by
  have hempty : "return \"\";".toList = "return ".toList ++ "\"\";".toList := by decide
  rw [call_append, hempty, after?_append_left]
  exact after?_of_ne (by decide) _ _

theorem after?_empty_comment (line : String) (rest : List Char) :
    Text.after? "return \"\";".toList
      ((ClientFunction.commentText (some line)).toList ++ rest) = none := by
  rw [ClientFunction.commentText, String.toList_append, String.toList_append, List.append_assoc,
    List.append_assoc]
  exact after?_of_ne (by decide) _ _

theorem readBody_body (r : Renderer) (rest : List Char) :
    readBody (r.function.body.toList ++ rest) = some (r.function, rest) := by
  cases r with
  | empty =>
    show readBody ("return \"\";".toList ++ rest) = _
    rw [readBody, Text.after?_append]
    rfl
  | template filename source flags rendering =>
    have hbody : (Renderer.template filename source flags rendering).function.body.toList ++ rest =
        (ClientFunction.commentText (Renderer.commentLine filename flags)).toList ++
          ((ClientFunction.call source flags.autoescape).toList ++ rest) := by
      rw [← List.append_assoc, ← String.toList_append]
      rfl
    rw [hbody, Renderer.function, Renderer.commentLine]
    split
    · rw [readBody, after?_empty_comment]
      simp only [readComment_line (oneLine_ne filename), readCall_call, Option.bind_eq_bind,
        Option.bind_some]
    · rw [ClientFunction.commentText, String.toList_empty, List.nil_append, readBody,
        after?_empty_call]
      simp only [readComment_call, readCall_call, Option.bind_eq_bind, Option.bind_some]

theorem readCode_code (r : Renderer) (rest : List Char) :
    readCode (r.code.toList ++ rest) = some (r.function, rest) := by
  have htext : r.code.toList ++ rest = "function anonymous(locals) \x7b\n".toList ++
      (r.function.body.toList ++ ("\n\x7d".toList ++ rest)) := by
    rw [← r.code_function]
    unfold ClientFunction.code Renderer.functionCode
    rw [String.toList_append, String.toList_append, List.append_assoc, List.append_assoc]
  rw [htext, readCode, Text.after?_append]
  simp only [Option.bind_eq_bind, Option.bind_some, readBody_body, Text.after?_append]

/-- Two templates of one code have one source and are escaped alike, whatever their files. -/
theorem source_of_code {filename filename' source source' : String} {flags flags' : CompileFlags}
    {rendering rendering' : Template.Rendering}
    (h : (Renderer.template filename source flags rendering).code =
      (Renderer.template filename' source' flags' rendering').code) :
    source = source' ∧ flags.autoescape = flags'.autoescape := by
  have hread := readCode_code (.template filename source flags rendering) []
  rw [h, readCode_code] at hread
  simp only [Renderer.function, Option.some.injEq, Prod.mk.injEq, ClientFunction.template.injEq,
    and_true] at hread
  exact ⟨hread.2.1.symm, hread.2.2.symm⟩

/-! ## The lines -/

theorem readBinding_line (names : List String) (r : Renderer) (rest : List Char) :
    readBinding ((line names r.code).toList ++ rest) = some ((names, r.function), rest) := by
  have htext : (line names r.code).toList ++ rest = Conventions.rootVariable.toList ++
      (accesses names ++ (" = ".toList ++ (r.code.toList ++ (";\n".toList ++ rest)))) := by
    simp only [line, accesses, String.toList_append, String.toList_join, List.flatMap_map,
      List.append_assoc]
  have hlen : names.length < (accesses names ++
      (" = ".toList ++ (r.code.toList ++ (";\n".toList ++ rest)))).length := by
    have hle := length_le_accesses names
    simp only [List.length_append, String.length_toList]
    have hsign : (" = ").length = 3 := rfl
    omega
  rw [htext, readBinding, Text.after?_append]
  simp only [Option.bind_eq_bind, Option.bind_some, readNames_accesses names _ hlen, readCode_code,
    Text.after?_append]

/-- What stands behind the assignments starts like none of them. -/
theorem readBinding_closing (global : String) : readBinding (closing global).toList = none := by
  have hnone : Text.after? Conventions.rootVariable.toList (closing global).toList = none := by
    unfold closing
    simp [Conventions.rootVariable, Text.after?]
  rw [readBinding, hnone]
  rfl

/-- Lines are read one after the other. -/
theorem readBindings_lines (bs : List (List String × Renderer)) (global : String) {n : Nat}
    (h : bs.length ≤ n) :
    readBindings n ((bs.flatMap fun b => (line b.1 b.2.code).toList) ++ (closing global).toList) =
      (bs.map fun b => (b.1, b.2.function), (closing global).toList) := by
  induction bs generalizing n with
  | nil =>
    rw [List.flatMap_nil, List.nil_append]
    cases n with
    | zero => rw [readBindings, List.map_nil]
    | succ n => rw [readBindings, readBinding_closing, List.map_nil]
  | cons b bs ih =>
    obtain ⟨n, rfl⟩ : ∃ m, n = m + 1 := ⟨n - 1, by simp at h; omega⟩
    have hlen : bs.length ≤ n := by simp at h; omega
    rw [List.flatMap_cons, List.append_assoc, readBindings, readBinding_line]
    simp only [ih hlen, List.map_cons]

theorem codeOf_eq {t : UnitTree} {i : Nat} (hi : i < t.units.size) :
    codeOf t i = (rendererOf t i).code := by
  obtain ⟨u, hu⟩ := unit?_isSome hi
  simp only [codeOf, rendererOf, hu]

theorem assignments_eq {t : UnitTree} (ht : t.Linked) {top : Nat} (htop : top < t.units.size) :
    assignments t top = (published t top).map fun b => (b.1, b.2.code) := by
  unfold assignments published
  rw [List.map_map]
  refine List.map_congr_left fun i hi => ?_
  obtain ⟨ns, hns⟩ := (ht.mem_descendants htop i).1 hi
  show (_, codeOf t i) = (_, (rendererOf t i).code)
  rw [codeOf_eq (ht.follow_lt htop hns)]

theorem readScript_script {t : UnitTree} (ht : t.Linked) {top : Nat} (htop : top < t.units.size)
    (global : String) :
    readScript (script t top global) =
      some ((published t top).map fun b => (b.1, b.2.function), (closing global).toList) := by
  have hlines : (String.join (bindings t top)).toList =
      (published t top).flatMap fun b => (line b.1 b.2.code).toList := by
    rw [bindings_eq, assignments_eq ht htop, String.toList_join, List.flatMap_map, List.flatMap_map]
  have htext : (script t top global).toList = opening.toList ++
      (((published t top).flatMap fun b => (line b.1 b.2.code).toList) ++
        (closing global).toList) := by
    rw [script, String.toList_append, String.toList_append, hlines, List.append_assoc]
  have hlen : (published t top).length ≤
      (((published t top).flatMap fun b => (line b.1 b.2.code).toList) ++
        (closing global).toList).length := by
    have hone : ∀ n ∈ (published t top).map (fun b => (line b.1 b.2.code).toList.length),
        1 ≤ n := by
      intro n hn
      obtain ⟨b, -, rfl⟩ := List.mem_map.1 hn
      have hend : ";\n".toList.length = 2 := by decide
      rw [line, String.toList_append, List.length_append]
      omega
    have hsum := List.length_le_sum_of_one_le _ hone
    rw [List.length_map] at hsum
    rw [List.length_append, List.length_flatMap]
    omega
  rw [readScript, htext, Text.after?_append, Option.map_some, readBindings_lines _ _ hlen]

/-- What a script assigns is read off its text alone. -/
theorem readAssignments_script {t : UnitTree} (ht : t.Linked) {top : Nat}
    (htop : top < t.units.size) (global : String) :
    readAssignments (script t top global) = some (assignments t top) := by
  rw [readAssignments, readScript_script ht htop, Option.map_some, assignments_eq ht htop,
    List.map_map]
  congr 1
  refine List.map_congr_left fun b _ => ?_
  show (b.1, b.2.function.code) = (b.1, b.2.code)
  rw [b.2.code_function]

/-- **Two scripts are the same where they assign the same.** Whatever the units are named and made
of, the text tells the names from the top and the code of each unit, in their order, and nothing
else; and the code of a template tells its source and whether its values are escaped. -/
theorem script_eq_iff {t t' : UnitTree} (ht : t.Made) (ht' : t'.Made) {top top' : Nat}
    (htop : top < t.units.size) (htop' : top' < t'.units.size) (global : String) :
    readAssignments (script t top global) = some (assignments t top) ∧
    (script t top global = script t' top' global ↔ assignments t top = assignments t' top') ∧
    ∀ filename filename' source source' flags flags' rendering rendering',
      (Renderer.template filename source flags rendering).code =
        (Renderer.template filename' source' flags' rendering').code →
      source = source' ∧ flags.autoescape = flags'.autoescape := by
  have hread := readAssignments_script ht.linked htop global
  refine ⟨hread, ⟨fun h => ?_, fun h => ?_⟩, fun _ _ _ _ _ _ _ _ h => source_of_code h⟩
  · rw [h, readAssignments_script ht'.linked htop' global] at hread
    exact (Option.some.inj hread).symm
  · rw [script, script, bindings_eq, bindings_eq, h]

/-- A template whose file and source are written to look like the end of a line and an
assignment. -/
def forged : Renderer :=
  .template "a.tmpl\nT.b = 1;" "\");\n\x7d;\nT.b = (\"" ⟨true, true⟩ default

/-- The template with a block below it, -/
def forgedTree : UnitTree :=
  ((ofRoot forged (.file ⟨"a.tmpl"⟩) (some 3) 9).insert 0 "say \"hi\"\x07" .empty
    (.block ⟨"a.tmpl"⟩ "say") none).1

/-- and the same at another place of another tree, from a directory, at other times. -/
def movedTree : UnitTree :=
  let moved :=
    ((ofRoot .empty (.root ⟨"v"⟩) none 0).insert 0 "w" forged (.file ⟨"v/w.tmpl"⟩) none).1
  (moved.insert 1 "say \"hi\"\x07" .empty (.directory ⟨"v/w/say"⟩) (some 5)).1.mark 2 7

theorem made_forgedTree : forgedTree.Made := .insert (.ofRoot _ _ _ _) (by decide) _ _ _ _

theorem made_movedTree : movedTree.Made :=
  .mark (.insert (.insert (.ofRoot _ _ _ _) (by decide) _ _ _ _) (by decide) _ _ _ _) (by decide) _

theorem script_forgedTree_eq :
    forgedTree.Made ∧ movedTree.Made ∧ 0 < forgedTree.units.size ∧ 1 < movedTree.units.size ∧
      script forgedTree 0 "Templates" = script movedTree 1 "Templates" :=
  have hsize : 1 < movedTree.units.size := by decide +kernel
  ⟨made_forgedTree, made_movedTree, made_forgedTree.linked.root_lt, hsize,
    (script_eq_iff made_forgedTree made_movedTree made_forgedTree.linked.root_lt hsize
      "Templates").2.1.2 (by decide +kernel)⟩

end Artifact

end TemplateBundler
