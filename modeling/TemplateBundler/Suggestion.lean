/-!
# Suggestions for a missing text

`suggestions missing known` are the (at most three) known texts closest to `missing`, the closest
first and equally close ones in text order. Close means an edit distance, counted in characters, of
at most half the bytes of `missing`, or of one where that is less.

    text ∈ suggestions missing known → text ∈ known ∧ distance missing text ≤ reach missing
                                                                            (mem_suggestions)
-/

namespace TemplateBundler

/-! ## Algorithm -/

/-- One row of the distance table from the row above it: `left` is the entry just written, `corner`
the one above it. -/
def distanceRow (a : Char) (left corner : Nat) : List Char → List Nat → List Nat
  | b :: bs, above :: row =>
    let here := min (min (left + 1) (above + 1)) (corner + if a = b then 0 else 1)
    here :: distanceRow a here above bs row
  | _, _ => []

/-- The last row of the table, for the characters `as` read below row number `n`. -/
def distanceRows (bs : List Char) : List Char → Nat → List Nat → List Nat
  | [], n, row => n :: row
  | a :: as, n, row => distanceRows bs as (n + 1) (distanceRow a (n + 1) n bs row)

/-- The least number of insertions, deletions and replacements of a character that turn one text
into the other. -/
def distance (s t : String) : Nat :=
  let row := List.range' 1 t.toList.length
  (distanceRows t.toList s.toList 0 row).getLast?.getD 0

/-- The largest distance that still counts as close to `missing`. -/
def reach (missing : String) : Nat := max 1 (missing.utf8ByteSize / 2)

/-- The order of suggestions: by distance, then by text. -/
def closer (a b : Nat × String) : Bool :=
  a.1 < b.1 || (a.1 == b.1 && decide (a.2 ≤ b.2))

def scored (missing : String) (known : List String) : List (Nat × String) :=
  (known.map fun text => (distance missing text, text)).filter fun s => s.1 ≤ reach missing

def suggestions (missing : String) (known : List String) : List String :=
  (((scored missing known).mergeSort closer).take 3).map (·.2)

/-! ## Lemmas -/

theorem mem_scored (missing : String) (known : List String) (s : Nat × String) :
    s ∈ scored missing known ↔
      s.2 ∈ known ∧ s.1 = distance missing s.2 ∧ distance missing s.2 ≤ reach missing := by
  obtain ⟨n, text⟩ := s
  simp only [scored, List.mem_filter, List.mem_map, Prod.mk.injEq, decide_eq_true_eq]
  constructor
  · rintro ⟨⟨t, ht, rfl, rfl⟩, hr⟩
    exact ⟨ht, rfl, hr⟩
  · rintro ⟨ht, rfl, hr⟩
    exact ⟨⟨text, ht, rfl, rfl⟩, hr⟩

theorem mem_suggestions (missing : String) (known : List String) (text : String)
    (h : text ∈ suggestions missing known) :
    text ∈ known ∧ distance missing text ≤ reach missing := by
  simp only [suggestions, List.mem_map] at h
  obtain ⟨s, hs, rfl⟩ := h
  have := List.mem_of_mem_take hs
  rw [List.mem_mergeSort] at this
  obtain ⟨h1, -, h3⟩ := (mem_scored missing known s).1 this
  exact ⟨h1, h3⟩

end TemplateBundler
