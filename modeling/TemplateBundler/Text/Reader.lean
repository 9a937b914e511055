/-!
# Readers

A reader takes a front of a text off and gives what it read together with the rest, or fails and
takes nothing. Choice is ordered: the second reader is tried only where the first one fails.

    word w cs = some ((), rest) ↔ cs = w ++ rest                          (word_eq_some_iff)
    chars p cs = some (front, rest) → cs = front ++ rest                  (chars_append)
-/

namespace TemplateBundler.Text

def Reader (α : Type) := List Char → Option (α × List Char)

namespace Reader

variable {α β ι : Type}

/-! ## Algorithm -/

instance : Monad Reader where
  pure a := fun cs => some (a, cs)
  bind p f := fun cs => (p cs).bind fun r => f r.1 r.2

instance : Alternative Reader where
  failure := fun _ => none
  orElse p q := fun cs =>
    match p cs with
    | some r => some r
    | none => q () cs

/-- The result of a reader that has to read the whole text. -/
def all? (p : Reader α) (cs : List Char) : Option α :=
  match p cs with
  | some (a, []) => some a
  | _ => none

/-- Reads the characters `w`. -/
def word : List Char → Reader Unit
  | [] => pure ()
  | w :: ws => fun cs =>
    match cs with
    | c :: cs => if c = w then word ws cs else none
    | [] => none

def text (s : String) : Reader Unit := word s.toList

def char (p : Char → Bool) : Reader Char := fun cs =>
  match cs with
  | c :: cs => if p c then some (c, cs) else none
  | [] => none

/-- The longest front whose characters satisfy `p`, which may be empty. -/
def chars (p : Char → Bool) : Reader (List Char) := fun cs => some (cs.takeWhile p, cs.dropWhile p)

/-- Like `chars`, but fails on an empty front. -/
def chars1 (p : Char → Bool) : Reader (List Char) := do
  let c ← char p
  let cs ← chars p
  pure (c :: cs)

/-- What stands before the first place where `stop` reads, and what it reads there. -/
def textBefore (stop : Reader α) : Reader (List Char × α)
  | [] => (stop []).map fun r => (([], r.1), r.2)
  | c :: cs =>
    match stop (c :: cs) with
    | some r => some (([], r.1), r.2)
    | none => (textBefore stop cs).map fun r => ((c :: r.1.1, r.1.2), r.2)

/-- What `p` reads, as it is written. -/
def written (p : Reader α) : Reader (List Char) := fun cs =>
  (p cs).map fun r => (cs.take (cs.length - r.2.length), r.2)

/-- Succeeds, reading nothing, exactly where `p` fails. -/
def notAt (p : Reader α) : Reader Unit := fun cs =>
  match p cs with
  | some _ => none
  | none => some ((), cs)

def option (p : Reader α) : Reader (Option α) := (some <$> p) <|> pure none

/-- Whether `p` reads here; what it reads is taken. -/
def flag (p : Reader α) : Reader Bool := (p *> pure true) <|> pure false

/-- At most one reading of `p` for each character of a bound, one after the other. -/
def upTo (p : Reader α) : List Char → Reader (List α)
  | [] => pure []
  | _ :: bound => (do
      let a ← p
      let as ← upTo p bound
      pure (a :: as)) <|> pure []

/-- As many readings of `p` as there are, where each of them takes a character at least. -/
def many (p : Reader α) : Reader (List α) := fun cs => upTo p cs cs

/-- `p` once at least, with `sep` between two readings. -/
def sepBy1 (p : Reader α) (sep : Reader β) : Reader (List α) := do
  let a ← p
  let as ← many (sep *> p)
  pure (a :: as)

/-- A family of readers described in terms of itself, one level deeper than a bound is long. -/
def levels (step : (ι → Reader α) → ι → Reader α) : List Char → ι → Reader α
  | [], i => step (fun _ => failure) i
  | _ :: bound, i => step (levels step bound) i

/-- The family that `step` describes in terms of itself, where each member reads a character at
least before it meets another. -/
def nested (step : (ι → Reader α) → ι → Reader α) (i : ι) : Reader α := fun cs => levels step cs i cs

/-! ## Lemmas -/

theorem word_eq_some_iff {w cs rest : List Char} :
    word w cs = some ((), rest) ↔ cs = w ++ rest := by
  induction w generalizing cs with
  | nil => simp only [word, pure, Option.some.injEq, Prod.mk.injEq, true_and, List.nil_append]
  | cons c w ih =>
    cases cs with
    | nil => simp [word]
    | cons d cs =>
      simp only [word, List.cons_append, List.cons.injEq]
      by_cases h : d = c
      · simp [h, ih]
      · simp [h]

theorem chars_append {p : Char → Bool} {cs front rest : List Char}
    (h : chars p cs = some (front, rest)) : cs = front ++ rest := by
  simp only [chars, Option.some.injEq, Prod.mk.injEq] at h
  obtain ⟨rfl, rfl⟩ := h
  exact List.takeWhile_append_dropWhile.symm

end Reader

end TemplateBundler.Text
