/-!
# Lists of pairs as maps

The first pair of a key counts. `assign` keeps the pairs in the order in which their keys first came.

    (assign k v pairs).lookup l = if l == k then some v else pairs.lookup l          (lookup_assign)
-/

namespace TemplateBundler.Association

/-- The pairs with the value under `k` replaced, or added at the end. -/
def assign {α β : Type} [BEq α] (k : α) (v : β) : List (α × β) → List (α × β)
  | [] => [(k, v)]
  | (l, w) :: pairs => if l == k then (k, v) :: pairs else (l, w) :: assign k v pairs

theorem lookup_cons_eq {α β : Type} [BEq α] (k l : α) (v : β) (pairs : List (α × β)) :
    ((k, v) :: pairs).lookup l = if l == k then some v else pairs.lookup l := by
  rw [List.lookup_cons]
  cases l == k <;> rfl

theorem lookup_assign {α β : Type} [BEq α] [LawfulBEq α] (k l : α) (v : β)
    (pairs : List (α × β)) :
    (assign k v pairs).lookup l = if l == k then some v else pairs.lookup l := by
  induction pairs with
  | nil => rw [assign, lookup_cons_eq]
  | cons pair pairs ih =>
    obtain ⟨q, w⟩ := pair
    simp only [assign]
    split
    · next hq =>
      rw [lookup_cons_eq, lookup_cons_eq, eq_of_beq hq]
      split <;> rfl
    · next hq =>
      rw [lookup_cons_eq, lookup_cons_eq, ih]
      split
      · next hl =>
        rw [← eq_of_beq hl] at hq
        rw [if_neg hq]
      · rfl

/-- A key that is new comes at the end. -/
theorem assign_of_lookup {α β : Type} [BEq α] [LawfulBEq α] {k : α} {pairs : List (α × β)}
    (h : pairs.lookup k = none) (v : β) : assign k v pairs = pairs ++ [(k, v)] := by
  induction pairs with
  | nil => rfl
  | cons pair pairs ih =>
    obtain ⟨l, w⟩ := pair
    rw [lookup_cons_eq] at h
    split at h
    · cases h
    next hl =>
    rw [assign, if_neg fun he => hl (by rw [eq_of_beq he]; exact BEq.rfl), ih h, List.cons_append]

end TemplateBundler.Association
