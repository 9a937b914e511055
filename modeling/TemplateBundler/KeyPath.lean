import TemplateBundler.Text.Pieces

/-!
# Key paths

A key path is the list of names that leads from the root of a unit tree to one unit; the empty
list is the root. `ofSegments` and `parse` drop empty names, so `"a//b/"` and `"a/b"` are one key
path:

    parse text = ofSegments (cut '/' text)
-/

namespace TemplateBundler

structure KeyPath where
  segments : List String
deriving DecidableEq, Repr, Inhabited

namespace KeyPath

/-! ## Algorithm -/

def root : KeyPath := ⟨[]⟩

def ofSegments (names : List String) : KeyPath := ⟨names.filter (· ≠ "")⟩

def parse (text : String) : KeyPath := ofSegments (Text.cut '/' text)

def isRoot (k : KeyPath) : Bool := k.segments.isEmpty

/-- The key path extended by one name, taken as it is. -/
def child (k : KeyPath) (name : String) : KeyPath := ⟨k.segments ++ [name]⟩

/-- The names with `/` between them. -/
def text (k : KeyPath) : String := Text.glue '/' k.segments

/-! ## Lemmas -/

theorem ne_empty_of_mem_ofSegments {names : List String} {s : String}
    (h : s ∈ (ofSegments names).segments) : s ≠ "" := by
  simp only [ofSegments, List.mem_filter, decide_eq_true_eq] at h
  exact h.2

theorem ofSegments_of_forall_ne {names : List String} (h : ∀ s ∈ names, s ≠ "") :
    ofSegments names = ⟨names⟩ := by
  simp only [ofSegments, mk.injEq]
  exact List.filter_eq_self.2 (fun s hs => by simp [h s hs])

end KeyPath

end TemplateBundler
