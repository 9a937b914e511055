import TemplateBundler.Artifact.Basic
import TemplateBundler.Proofs.Preorder
import TemplateBundler.Text.Ends

/-!
# What an artifact binds

Targets go up the parent links and the order of the lines goes down the lists of children, in an
array that also holds units that lost their place. On a linked tree the two agree: what a line binds
is named by the way down to its unit,

    t.follow top ns = some i → namesBelow t top i = ns                      (namesBelow_of_follow)

and the text of a target tells that way. An identifier behind a dot ends where the next access
begins, since neither a dot nor a bracket continues an identifier, and a JSON string ends in its
first bare quote:

    readTarget (target t top i) = some ns                                  (readTarget_of_follow)

So no two lines of an artifact bind the same target, whatever the units are named.
-/

namespace TemplateBundler

/-- A tree that insertions and marks made of a root. -/
inductive UnitTree.Made : UnitTree → Prop
  | ofRoot (r : Renderer) (o : Origin) (f : Option Time) (now : Time) : Made (ofRoot r o f now)
  | insert {t : UnitTree} (h : Made t) {p : Nat} (hp : p < t.units.size) (n : String) (r : Renderer)
      (o : Origin) (f : Option Time) : Made (t.insert p n r o f).1
  | mark {t : UnitTree} (h : Made t) {i : Nat} (hi : i < t.units.size) (time : Time) :
      Made (t.mark i time)

theorem UnitTree.Made.linked {t : UnitTree} (h : t.Made) : t.Linked := by
  induction h with
  | ofRoot r o f now => exact linked_ofRoot r o f now
  | insert _ _ n r o f ih => exact ih.insert _ n r o f
  | mark _ _ time ih => exact ih.mark _ time

namespace Artifact

open UnitTree

/-! ## Names on the way down -/

theorem namesBelow_top (t : UnitTree) (top : Nat) : namesBelow t top top = [] := by
  unfold namesBelow
  rw [List.takeWhile_cons_of_neg (by simp)]
  rfl

theorem namesBelow_child {t : UnitTree} {top p i : Nat} (hp : t.parent? i = some p)
    (hne : i ≠ top) :
    namesBelow t top i = namesBelow t top p ++ [t.name i] := by
  unfold namesBelow
  rw [ancestors_eq hp, List.takeWhile_cons_of_pos (by simpa using hne), List.map_cons,
    List.reverse_cons]

theorem namesBelow_of_follow {t : UnitTree} (ht : t.Linked) {top i : Nat} {ns : List String}
    (h : t.follow top ns = some i) : namesBelow t top i = ns := by
  induction ns using List.reverseRecOn generalizing i with
  | nil =>
    obtain rfl := Option.some.inj h
    exact namesBelow_top t top
  | append_singleton ns n ih =>
    rw [follow_concat, Option.bind_eq_some_iff] at h
    obtain ⟨p, hp, hc⟩ := h
    have hmem := mem_children_of_child? hc
    have hle := le_of_mem_lineage (mem_lineage_of_follow ht hp)
    have hlt := (ht.child_lt hmem).1
    rw [namesBelow_child (ht.parent?_of_mem p i hmem) (by omega), ih hp, name_of_child? hc]

theorem target_top (t : UnitTree) (top : Nat) : target t top top = Conventions.rootVariable := by
  unfold target
  rw [namesBelow_top, List.map_nil, String.join_nil, String.append_empty]

theorem target_child {t : UnitTree} {top p i : Nat} (hp : t.parent? i = some p) (hne : i ≠ top) :
    target t top i = target t top p ++ access (t.name i) := by
  unfold target
  rw [namesBelow_child hp hne, List.map_append, List.map_singleton, String.join_append,
    String.join_cons, String.join_nil, String.append_empty, String.append_assoc]

/-! ## How a name is written -/

/-- The lowercase digits of base sixteen. -/
def hexadecimal : List Char :=
  ['0', '1', '2', '3', '4', '5', '6', '7', '8', '9', 'a', 'b', 'c', 'd', 'e', 'f']

/-- How a character stands in a JSON string: the quote and the backslash behind a backslash, five of
the control characters as a letter behind one, the other control characters by their code, and every
other character as it is. -/
inductive JsonEscape : Char → List Char → Prop
  | quote : JsonEscape '"' ['\\', '"']
  | backslash : JsonEscape '\\' ['\\', '\\']
  | backspace : JsonEscape '\x08' ['\\', 'b']
  | tab : JsonEscape '\t' ['\\', 't']
  | lineFeed : JsonEscape '\n' ['\\', 'n']
  | formFeed : JsonEscape '\x0c' ['\\', 'f']
  | carriageReturn : JsonEscape '\r' ['\\', 'r']
  | control {c high low : Char} (hc : c.toNat < 32) (hshort : c.toNat ∉ [8, 9, 10, 12, 13])
      (hhigh : hexadecimal[c.toNat / 16]? = some high)
      (hlow : hexadecimal[c.toNat % 16]? = some low) :
      JsonEscape c ['\\', 'u', '0', '0', high, low]
  | plain {c : Char} (hc : 32 ≤ c.toNat) (hquote : c ≠ '"') (hbackslash : c ≠ '\\') :
      JsonEscape c [c]

/-- A text as a JSON string: its characters one by one, between quotes. -/
def IsJsonString (text literal : String) : Prop :=
  ∃ parts, List.Forall₂ JsonEscape text.toList parts ∧
    literal.toList = '"' :: (parts.flatten ++ ['"'])

/-- The access to the member of a name: a dot and the name where it is an identifier, and elsewhere
the name as a JSON string in brackets. -/
inductive IsAccess (name : String) : String → Prop
  | dot (h : isIdentifier name = true) : IsAccess name ("." ++ name)
  | bracket (h : isIdentifier name = false) {literal : String} (hl : IsJsonString name literal) :
      IsAccess name ("[" ++ literal ++ "]")

theorem hexadecimal_hexDigit : ∀ d, d < 16 → hexadecimal[d]? = some (Text.hexDigit d) := by decide

theorem char_eq_of_toNat {c : Char} {n : Nat} (h : c.toNat = n) : c = Char.ofNat n := by
  rw [← h, Char.ofNat_toNat]

theorem jsonEscape_shortEscape {c letter : Char} (h : Text.shortEscape? c = some letter) :
    JsonEscape c ['\\', letter] := by
  unfold Text.shortEscape? at h
  split at h
  · next hc => subst hc; injection h with h; subst h; exact .lineFeed
  split at h
  · next hc => subst hc; injection h with h; subst h; exact .carriageReturn
  split at h
  · next hc => subst hc; injection h with h; subst h; exact .tab
  split at h
  · next hc => rw [char_eq_of_toNat hc]; injection h with h; subst h; exact .backspace
  split at h
  · next hc => rw [char_eq_of_toNat hc]; injection h with h; subst h; exact .formFeed
  · cases h

theorem not_short_of_shortEscape {c : Char} (h : Text.shortEscape? c = none) :
    c.toNat ∉ [8, 9, 10, 12, 13] := by
  intro hmem
  simp only [List.mem_cons, List.not_mem_nil, or_false] at hmem
  rcases hmem with hc | hc | hc | hc | hc
  all_goals
    rw [char_eq_of_toNat hc] at h
    revert h
    decide

theorem jsonEscape_jsonChar (c : Char) : JsonEscape c (Text.jsonChar c) := by
  unfold Text.jsonChar
  split
  · next h =>
    rcases h with rfl | rfl
    · exact .quote
    · exact .backslash
  · next h =>
    rw [not_or] at h
    split
    · next letter hl => exact jsonEscape_shortEscape hl
    · next hshort =>
      split
      · next hc =>
        exact .control hc (not_short_of_shortEscape hshort)
          (hexadecimal_hexDigit _ (by omega)) (hexadecimal_hexDigit _ (by omega))
      · next hc => exact .plain (by omega) h.1 h.2

theorem isJsonString_json (text : String) : IsJsonString text (Text.json text) := by
  refine ⟨text.toList.map Text.jsonChar, ?_, ?_⟩
  · rw [List.forall₂_map_right_iff, List.forall₂_same]
    intro c _
    exact jsonEscape_jsonChar c
  · rw [Text.json_eq, Text.jsonChars, List.flatMap_def]

theorem isAccess_access (name : String) : IsAccess name (access name) := by
  unfold access
  split
  · next h => exact .dot h
  · next h => exact .bracket (Bool.not_eq_true _ ▸ h) (isJsonString_json name)

/-! ## Reading a target -/

/-- Reads a member access and gives its name with what follows: an identifier, as long as it goes
on, behind a dot, or a JSON string in brackets. -/
def readAccess : List Char → Option (String × List Char)
  | '.' :: cs =>
    let name := String.ofList (cs.takeWhile continuesIdentifier)
    if isIdentifier name then some (name, cs.dropWhile continuesIdentifier) else none
  | '[' :: '"' :: cs =>
    match Text.readJson cs with
    | some (name, ']' :: rest) => some (String.ofList name, rest)
    | _ => none
  | _ => none

/-- Reads at most `n` accesses, which are to be all there is. -/
def readAccesses : Nat → List Char → Option (List String)
  | _, [] => some []
  | 0, _ :: _ => none
  | n + 1, c :: cs => do
    let (name, rest) ← readAccess (c :: cs)
    let names ← readAccesses n rest
    pure (name :: names)

/-- The names of a target: those of the accesses behind the root variable. -/
def readTarget (text : String) : Option (List String) := do
  let rest ← Text.after? Conventions.rootVariable.toList text.toList
  readAccesses rest.length rest

/-- The accesses of a list of names, one behind the other. -/
def accesses (ns : List String) : List Char := ns.flatMap fun n => (access n).toList

theorem continues_of_isIdentifier {name : String} (h : isIdentifier name = true) :
    ∀ c ∈ name.toList, continuesIdentifier c = true := by
  unfold isIdentifier at h
  split at h
  · next c cs hcs =>
    rw [Bool.and_eq_true, List.all_eq_true] at h
    rw [hcs]
    intro d hd
    rcases List.mem_cons.1 hd with rfl | hd
    · rw [continuesIdentifier, h.1, Bool.true_or]
    · exact h.2 d hd
  · cases h

/-- The text does not start with a character that continues an identifier. -/
def EndsIdentifier (cs : List Char) : Prop :=
  cs.takeWhile continuesIdentifier = [] ∧ cs.dropWhile continuesIdentifier = cs

/-- What an access starts with does not continue an identifier. -/
theorem endsIdentifier_accesses (ns : List String) {rest : List Char} (h : EndsIdentifier rest) :
    EndsIdentifier (accesses ns ++ rest) := by
  cases ns with
  | nil => exact h
  | cons n ns =>
    have hdot : continuesIdentifier '.' = false := by decide
    have hbracket : continuesIdentifier '[' = false := by decide
    unfold accesses access EndsIdentifier
    rw [List.flatMap_cons]
    split
    · simp [hdot]
    · simp [hbracket]

theorem readAccess_access (n : String) {rest : List Char} (hrest : EndsIdentifier rest) :
    readAccess ((access n).toList ++ rest) = some (n, rest) := by
  unfold access
  split
  · next h =>
    have hall := continues_of_isIdentifier h
    have htext : ("." ++ n).toList ++ rest = '.' :: (n.toList ++ rest) := by
      rw [String.toList_append]
      rfl
    rw [htext, readAccess, List.takeWhile_append_of_pos hall, hrest.1, List.append_nil,
      List.dropWhile_append_of_pos hall, hrest.2, String.ofList_toList, if_pos h]
  · have htext : ("[" ++ Text.json n ++ "]").toList ++ rest =
        '[' :: '"' :: (Text.jsonChars n.toList ++ '"' :: ']' :: rest) := by
      simp [Text.json_eq]
    rw [htext, readAccess, Text.readJson_jsonChars]
    simp only [String.ofList_toList]

theorem length_le_accesses (ns : List String) : ns.length ≤ (accesses ns).length := by
  induction ns with
  | nil => exact Nat.zero_le _
  | cons n ns ih =>
    have hone : 0 < (access n).toList.length := by
      unfold access
      split <;> simp
    have hcons : accesses (n :: ns) = (access n).toList ++ accesses ns := rfl
    rw [hcons, List.length_cons, List.length_append]
    omega

theorem readAccesses_accesses (ns : List String) {n : Nat} (h : ns.length ≤ n) :
    readAccesses n (accesses ns) = some ns := by
  induction ns generalizing n with
  | nil => cases n <;> rfl
  | cons m ns ih =>
    cases n with
    | zero => exact absurd h (Nat.not_succ_le_zero _)
    | succ n =>
      have hnext : EndsIdentifier (accesses ns) := by
        have hnil : EndsIdentifier [] := ⟨rfl, rfl⟩
        simpa using endsIdentifier_accesses ns hnil
      cases hcs : accesses (m :: ns) with
      | nil =>
        have hlen := length_le_accesses (m :: ns)
        rw [hcs] at hlen
        exact absurd hlen (Nat.not_succ_le_zero _)
      | cons c cs =>
        have hread : readAccess (accesses (m :: ns)) = some (m, accesses ns) :=
          readAccess_access m hnext
        rw [readAccesses, ← hcs, hread]
        simp only [Option.bind_eq_bind, Option.bind_some, ih (Nat.le_of_succ_le_succ h)]
        rfl

theorem readTarget_of_follow {t : UnitTree} (ht : t.Linked) {top i : Nat} {ns : List String}
    (h : t.follow top ns = some i) : readTarget (target t top i) = some ns := by
  have htext : (target t top i).toList = Conventions.rootVariable.toList ++ accesses ns := by
    rw [target, namesBelow_of_follow ht h, String.toList_append, String.toList_join,
      List.flatMap_map]
    rfl
  rw [readTarget, htext, Text.after?_append]
  exact readAccesses_accesses ns (length_le_accesses ns)

example : readTarget "T.a[\"say \\\"hi\\\"\\u0007\"].$1" = some ["a", "say \"hi\"\x07", "$1"] := by
  decide +kernel

/-! ## The lines of an artifact -/

/-- The line that assigns the code of a unit. -/
def IsBinding (t : UnitTree) (top i : Nat) (line : String) : Prop :=
  ∃ u, t.unit? i = some u ∧ line = target t top i ++ " = " ++ u.renderer.code ++ ";\n"

/-- The artifact of a unit binds the subtree below it. -/
structure BindsBelow (t : UnitTree) (top : Nat) : Prop where
  /-- One line per unit stands between what every artifact begins with and what it ends in. -/
  script_eq : ∀ global, ∃ lines, List.Forall₂ (IsBinding t top) (t.descendants top) lines ∧
    script t top global = opening ++ String.join lines ++ closing global
  /-- The units are those that names lead to, -/
  mem_iff : ∀ i, i ∈ t.descendants top ↔ ∃ ns, t.follow top ns = some i
  /-- each once, -/
  nodup : (t.descendants top).Nodup
  /-- and each before its children's subtrees, which come in their order. -/
  preorder : ∀ i ∈ t.descendants top,
    t.descendants i = i :: (t.children i).flatMap t.descendants
  target_top : target t top top = "T"
  /-- Below, a target adds one access to the target of the parent, which an earlier line binds. -/
  target_below : ∀ i ∈ t.descendants top, i ≠ top → ∃ p before after text,
    t.parent? i = some p ∧ t.descendants top = before ++ i :: after ∧ p ∈ before ∧
      IsAccess (t.name i) text ∧ target t top i = target t top p ++ text
  target_injOn : ∀ i ∈ t.descendants top, ∀ j ∈ t.descendants top,
    target t top i = target t top j → i = j
  readTarget_eq : ∀ i ns, t.follow top ns = some i → readTarget (target t top i) = some ns

theorem script_eq_of_linked {t : UnitTree} (ht : t.Linked) {top : Nat} (htop : top < t.units.size)
    (global : String) :
    ∃ lines, List.Forall₂ (IsBinding t top) (t.descendants top) lines ∧
      script t top global = opening ++ String.join lines ++ closing global := by
  refine ⟨bindings t top, ?_, rfl⟩
  unfold bindings
  rw [List.forall₂_map_right_iff, List.forall₂_same]
  intro i hi
  obtain ⟨ns, hns⟩ := (ht.mem_descendants htop i).1 hi
  obtain ⟨u, hu⟩ := unit?_isSome (ht.follow_lt htop hns)
  refine ⟨u, hu, ?_⟩
  simp only [binding, codeOf, hu]

theorem target_injOn_of_linked {t : UnitTree} (ht : t.Linked) {top : Nat}
    (htop : top < t.units.size) {i j : Nat} (hi : i ∈ t.descendants top)
    (hj : j ∈ t.descendants top) (h : target t top i = target t top j) : i = j := by
  obtain ⟨ms, hms⟩ := (ht.mem_descendants htop i).1 hi
  obtain ⟨ns, hns⟩ := (ht.mem_descendants htop j).1 hj
  have hread := readTarget_of_follow ht hms
  rw [h, readTarget_of_follow ht hns] at hread
  obtain rfl := Option.some.inj hread
  exact Option.some.inj (hms.symm.trans hns)

/-- **Every subtree of every tree is bound.** -/
theorem bindsBelow_of_made {t : UnitTree} (h : t.Made) {top : Nat} (htop : top < t.units.size) :
    BindsBelow t top := by
  have ht := h.linked
  refine ⟨script_eq_of_linked ht htop, ht.mem_descendants htop, ?_, fun i hi => ?_,
    target_top t top, fun i hi hne => ?_, fun i hi j hj => target_injOn_of_linked ht htop hi hj,
    fun i ns hns => readTarget_of_follow ht hns⟩
  · rw [ht.descendants_eq_preorder htop]
    exact ht.nodup_preorder top
  · obtain ⟨ns, hns⟩ := (ht.mem_descendants htop i).1 hi
    exact ht.descendants_eq (ht.follow_lt htop hns)
  · rw [ht.descendants_eq_preorder htop] at hi ⊢
    obtain ⟨p, before, after, hp, hpre, hmem⟩ := ht.parent_before hi hne
    exact ⟨p, before, after, access (t.name i), hp, hpre, hmem, isAccess_access _,
      target_child hp hne⟩

/-- A tree in which the file `a` took the place of a directory that had a unit below it, with blocks
that no identifier names. -/
def patchedTree : UnitTree :=
  let folder := ((ofRoot .empty (.root ⟨"v"⟩) none 0).insert 0 "a" .empty (.directory ⟨"v/a"⟩)
    (some 0)).1
  let inner := (folder.insert 1 "b" .empty (.file ⟨"v/a/b.tmpl"⟩) (some 3)).1
  let patched := (inner.insert 0 "a" .empty (.file ⟨"v/a.tmpl"⟩) (some 5)).1
  let quoted := (patched.insert 3 "say \"hi\"\x07" .empty (.block ⟨"v/a.tmpl"⟩ "say") none).1
  (quoted.insert 4 "$1" .empty (.file ⟨"v/a/say/$1.tmpl"⟩) (some 7)).1.mark 5 9

theorem made_patchedTree : patchedTree.Made :=
  .mark (.insert (.insert (.insert (.insert (.insert (.ofRoot _ _ _ _) (by decide) _ _ _ _)
    (by decide) _ _ _ _) (by decide) _ _ _ _) (by decide) _ _ _ _) (by decide) _ _ _ _)
    (by decide) _

theorem bindsBelow_patchedTree :
    patchedTree.Made ∧ 0 < patchedTree.units.size ∧ BindsBelow patchedTree 0 :=
  ⟨made_patchedTree, made_patchedTree.linked.root_lt,
    bindsBelow_of_made made_patchedTree made_patchedTree.linked.root_lt⟩

end Artifact

end TemplateBundler
