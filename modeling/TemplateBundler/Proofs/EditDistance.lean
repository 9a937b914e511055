import Mathlib.Order.Bounds.Basic
import Mathlib.Order.MinMax
import TemplateBundler.Suggestion

/-!
# Edit distance

`distance` fills a table row by row, one row for each character of the first text. What its last
entry counts is the edits that turn the one text into the other, where an edit puts in, takes out or
replaces one character anywhere:

    IsLeast {n | Edits n s.toList t.toList} (distance s t)                     (isLeast_distance)

In between stands `Aligned`: both texts are read from the left, and an edit is counted wherever they
differ. A table is nothing but the least counts of alignments of the two texts reversed (`cost`), and
edits in any order and at any places come down to one alignment (`Aligned.of_edits`).
-/

namespace TemplateBundler

/-! ## Edits and alignments -/

/-- One character is put in, taken out or replaced. -/
inductive Edit : List Char → List Char → Prop
  | insert (front rest : List Char) (b : Char) : Edit (front ++ rest) (front ++ b :: rest)
  | erase (front rest : List Char) (a : Char) : Edit (front ++ a :: rest) (front ++ rest)
  | replace (front rest : List Char) (a b : Char) : Edit (front ++ a :: rest) (front ++ b :: rest)

/-- So many edits, one after the other, turn the first text into the second. -/
inductive Edits : Nat → List Char → List Char → Prop
  | done (s : List Char) : Edits 0 s s
  | next {n : Nat} {s t u : List Char} : Edits n s t → Edit t u → Edits (n + 1) s u

/-- Two texts read side by side from the left, with so many edits on the way. -/
inductive Aligned : List Char → List Char → Nat → Prop
  | nil : Aligned [] [] 0
  | insert {s t : List Char} {n : Nat} (b : Char) : Aligned s t n → Aligned s (b :: t) (n + 1)
  | erase {s t : List Char} {n : Nat} (a : Char) : Aligned s t n → Aligned (a :: s) t (n + 1)
  | pair {s t : List Char} {n : Nat} (a b : Char) : Aligned s t n →
      Aligned (a :: s) (b :: t) (n + if a = b then 0 else 1)

theorem aligned_inserted (t : List Char) : Aligned [] t t.length := by
  induction t with
  | nil => exact .nil
  | cons b t ih => exact .insert b ih

theorem aligned_erased (s : List Char) : Aligned s [] s.length := by
  induction s with
  | nil => exact .nil
  | cons a s ih => exact .erase a ih

theorem aligned_self (s : List Char) : Aligned s s 0 := by
  induction s with
  | nil => exact .nil
  | cons a s ih =>
    have h := Aligned.pair a a ih
    rwa [if_pos rfl] at h

theorem Aligned.append {s t s' t' : List Char} {m n : Nat} (h : Aligned s t m)
    (h' : Aligned s' t' n) : Aligned (s ++ s') (t ++ t') (m + n) := by
  induction h with
  | nil => rwa [Nat.zero_add]
  | insert b _ ih =>
    rw [Nat.add_right_comm]
    exact .insert b ih
  | erase a _ ih =>
    rw [Nat.add_right_comm]
    exact .erase a ih
  | pair a b _ ih =>
    rw [Nat.add_right_comm]
    exact .pair a b ih

/-- What is read from the left can be read from the right. -/
theorem Aligned.reverse {s t : List Char} {n : Nat} (h : Aligned s t n) :
    Aligned s.reverse t.reverse n := by
  induction h with
  | nil => exact .nil
  | insert b _ ih =>
    have hlast := ih.append (.insert b .nil)
    rwa [List.append_nil, ← List.reverse_cons] at hlast
  | erase a _ ih =>
    have hlast := ih.append (.erase a .nil)
    rwa [List.append_nil, ← List.reverse_cons] at hlast
  | pair a b _ ih =>
    have hlast := ih.append (.pair a b .nil)
    rwa [Nat.zero_add, ← List.reverse_cons, ← List.reverse_cons] at hlast

theorem aligned_reverse_iff {s t : List Char} {n : Nat} :
    Aligned s.reverse t.reverse n ↔ Aligned s t n := by
  constructor
  · intro h
    have hback := h.reverse
    rwa [List.reverse_reverse, List.reverse_reverse] at hback
  · exact Aligned.reverse

/-! ## The table -/

/-- The least number of edits in an alignment. -/
def cost : List Char → List Char → Nat
  | [], t => t.length
  | a :: s, [] => (a :: s).length
  | a :: s, b :: t =>
    min (min (cost (a :: s) t + 1) (cost s (b :: t) + 1)) (cost s t + if a = b then 0 else 1)
termination_by s t => s.length + t.length

theorem cost_nil_right (s : List Char) : cost s [] = s.length := by
  cases s with
  | nil => rw [cost]
  | cons a s => rw [cost]

theorem aligned_cost (s t : List Char) : Aligned s t (cost s t) := by
  induction s, t using cost.induct with
  | case1 t =>
    rw [cost]
    exact aligned_inserted t
  | case2 a s =>
    rw [cost]
    exact aligned_erased (a :: s)
  | case3 a s b t hinsert herase hpair =>
    rw [cost]
    rcases min_choice (min (cost (a :: s) t + 1) (cost s (b :: t) + 1))
      (cost s t + if a = b then 0 else 1) with h | h
    · rw [h]
      rcases min_choice (cost (a :: s) t + 1) (cost s (b :: t) + 1) with h | h
      · rw [h]
        exact .insert b hinsert
      · rw [h]
        exact .erase a herase
    · rw [h]
      exact .pair a b hpair

theorem cost_insert_le (s t : List Char) (b : Char) : cost s (b :: t) ≤ cost s t + 1 := by
  cases s with
  | nil =>
    rw [cost, cost]
    exact le_rfl
  | cons a s =>
    rw [cost]
    exact (min_le_left _ _).trans (min_le_left _ _)

theorem cost_erase_le (s t : List Char) (a : Char) : cost (a :: s) t ≤ cost s t + 1 := by
  cases t with
  | nil =>
    rw [cost_nil_right, cost_nil_right]
    exact le_rfl
  | cons b t =>
    rw [cost]
    exact (min_le_left _ _).trans (min_le_right _ _)

theorem cost_le_of_aligned {s t : List Char} {n : Nat} (h : Aligned s t n) : cost s t ≤ n := by
  induction h with
  | nil => rw [cost]; exact le_rfl
  | @insert s t n b _ ih => exact (cost_insert_le s t b).trans (Nat.succ_le_succ ih)
  | @erase s t n a _ ih => exact (cost_erase_le s t a).trans (Nat.succ_le_succ ih)
  | pair a b _ ih =>
    rw [cost]
    exact (min_le_right _ _).trans (Nat.add_le_add_right ih _)

/-- The row of the table for a text read so far, from a column on. Both texts grow at the front here,
so what has been read stands reversed. -/
def costsFrom (s t : List Char) : List Char → List Nat
  | [] => []
  | b :: bs => cost s (b :: t) :: costsFrom s (b :: t) bs

theorem costsFrom_nil (t bs : List Char) :
    costsFrom [] t bs = List.range' (t.length + 1) bs.length := by
  induction bs generalizing t with
  | nil => rfl
  | cons b bs ih =>
    rw [costsFrom, ih, cost, List.length_cons, List.length_cons, List.range'_succ]

/-- **A row from the row above it.** -/
theorem distanceRow_eq (a : Char) (s t bs : List Char) :
    distanceRow a (cost (a :: s) t) (cost s t) bs (costsFrom s t bs) = costsFrom (a :: s) t bs := by
  induction bs generalizing t with
  | nil => rfl
  | cons b bs ih =>
    have hhere : min (min (cost (a :: s) t + 1) (cost s (b :: t) + 1))
        (cost s t + if a = b then 0 else 1) = cost (a :: s) (b :: t) := by rw [cost]
    simp only [costsFrom, distanceRow]
    rw [hhere, ih]

/-- **The last row**, from the row of what has been read so far. -/
theorem distanceRows_eq (bs as s : List Char) :
    distanceRows bs as s.length (costsFrom s [] bs) =
      (as.reverse ++ s).length :: costsFrom (as.reverse ++ s) [] bs := by
  induction as generalizing s with
  | nil => rfl
  | cons a as ih =>
    have hrow := distanceRow_eq a s [] bs
    rw [cost_nil_right, cost_nil_right] at hrow
    rw [List.reverse_cons, List.append_assoc, List.singleton_append, ← ih, distanceRows, ← hrow]
    rfl

theorem getLast?_costsFrom (s t bs : List Char) :
    (cost s t :: costsFrom s t bs).getLast? = some (cost s (bs.reverse ++ t)) := by
  induction bs generalizing t with
  | nil => rfl
  | cons b bs ih =>
    rw [costsFrom, List.getLast?_cons_cons, ih, List.reverse_cons, List.append_assoc,
      List.singleton_append]

theorem distance_eq_cost (s t : String) :
    distance s t = cost s.toList.reverse t.toList.reverse := by
  have hrows : distanceRows t.toList s.toList 0 (List.range' 1 t.toList.length) =
      cost s.toList.reverse [] :: costsFrom s.toList.reverse [] t.toList := by
    have hfill := distanceRows_eq t.toList s.toList []
    rw [costsFrom_nil, List.append_nil, ← cost_nil_right s.toList.reverse] at hfill
    exact hfill
  unfold distance
  simp only [hrows]
  rw [getLast?_costsFrom, Option.getD_some, List.append_nil]

theorem aligned_distance (s t : String) : Aligned s.toList t.toList (distance s t) := by
  rw [distance_eq_cost, ← aligned_reverse_iff]
  exact aligned_cost _ _

theorem distance_le_of_aligned {s t : String} {n : Nat} (h : Aligned s.toList t.toList n) :
    distance s t ≤ n := by
  rw [distance_eq_cost]
  exact cost_le_of_aligned h.reverse

/-! ## Edits in any order -/

theorem Edit.cons {s t : List Char} (c : Char) (h : Edit s t) : Edit (c :: s) (c :: t) := by
  cases h with
  | insert front rest b => exact .insert (c :: front) rest b
  | erase front rest a => exact .erase (c :: front) rest a
  | replace front rest a b => exact .replace (c :: front) rest a b

theorem Edits.cons {s t : List Char} {n : Nat} (c : Char) (h : Edits n s t) :
    Edits n (c :: s) (c :: t) := by
  induction h with
  | done s => exact .done (c :: s)
  | next _ hedit ih => exact .next ih (hedit.cons c)

/-- An alignment is a number of edits. -/
theorem Aligned.edits {s t : List Char} {n : Nat} (h : Aligned s t n) : Edits n s t := by
  induction h with
  | nil => exact .done []
  | @insert s t n b _ ih => exact .next ih (.insert [] t b)
  | @erase s t n a _ ih => exact .next (ih.cons a) (.erase [] t a)
  | @pair s t n a b _ ih =>
    by_cases hab : a = b
    · subst hab
      rw [if_pos rfl]
      exact ih.cons a
    · rw [if_neg hab]
      exact .next (ih.cons a) (.replace [] t a b)

/-- An alignment cut where the second text is. -/
theorem Aligned.split {s front rest : List Char} {n : Nat} (h : Aligned s (front ++ rest) n) :
    ∃ s₁ s₂ m k, s = s₁ ++ s₂ ∧ n = m + k ∧ Aligned s₁ front m ∧ Aligned s₂ rest k := by
  generalize ht : front ++ rest = t at h
  induction h generalizing front with
  | nil =>
    obtain ⟨rfl, rfl⟩ := List.append_eq_nil_iff.1 ht
    exact ⟨[], [], 0, 0, rfl, rfl, .nil, .nil⟩
  | @insert s t n b hst ih =>
    cases front with
    | nil =>
      rw [List.nil_append] at ht
      subst ht
      exact ⟨[], s, 0, n + 1, rfl, (Nat.zero_add _).symm, .nil, .insert b hst⟩
    | cons c front =>
      rw [List.cons_append, List.cons.injEq] at ht
      obtain ⟨rfl, ht⟩ := ht
      obtain ⟨s₁, s₂, m, k, hs, hn, hfront, hrest⟩ := ih ht
      exact ⟨s₁, s₂, m + 1, k, hs, by omega, .insert c hfront, hrest⟩
  | erase a _ ih =>
    obtain ⟨s₁, s₂, m, k, rfl, hn, hfront, hrest⟩ := ih ht
    exact ⟨a :: s₁, s₂, m + 1, k, rfl, by omega, .erase a hfront, hrest⟩
  | @pair s t n a b hst ih =>
    cases front with
    | nil =>
      rw [List.nil_append] at ht
      subst ht
      exact ⟨[], a :: s, 0, _, rfl, (Nat.zero_add _).symm, .nil, .pair a b hst⟩
    | cons c front =>
      rw [List.cons_append, List.cons.injEq] at ht
      obtain ⟨rfl, ht⟩ := ht
      obtain ⟨s₁, s₂, m, k, rfl, hn, hfront, hrest⟩ := ih ht
      exact ⟨a :: s₁, s₂, _, k, rfl, by omega, .pair a c hfront, hrest⟩

/-- What one edit of the first character costs at most. -/
theorem Aligned.edit_head {s t : List Char} {n : Nat} {c : Char} (h : Aligned s (c :: t) n) :
    (∃ m ≤ n + 1, Aligned s t m) ∧ ∀ d, ∃ m ≤ n + 1, Aligned s (d :: t) m := by
  generalize ht : c :: t = t' at h
  induction h with
  | nil => cases ht
  | @insert s t' n b hst _ =>
    obtain ⟨rfl, rfl⟩ := List.cons.inj ht
    exact ⟨⟨n, by omega, hst⟩, fun d => ⟨n + 1, by omega, .insert d hst⟩⟩
  | erase a _ ih =>
    obtain ⟨⟨m, hm, herased⟩, hreplaced⟩ := ih ht
    refine ⟨⟨m + 1, by omega, .erase a herased⟩, fun d => ?_⟩
    obtain ⟨k, hk, hd⟩ := hreplaced d
    exact ⟨k + 1, by omega, .erase a hd⟩
  | @pair s t' n a b hst _ =>
    obtain ⟨rfl, rfl⟩ := List.cons.inj ht
    refine ⟨⟨n + 1, by omega, .erase a hst⟩, fun d => ⟨_, ?_, .pair a d hst⟩⟩
    split <;> omega

/-- One more edit at any place costs one at most. -/
theorem Aligned.edit {s t u : List Char} {n : Nat} (h : Aligned s t n) (hedit : Edit t u) :
    ∃ m ≤ n + 1, Aligned s u m := by
  cases hedit with
  | insert front rest b =>
    obtain ⟨s₁, s₂, m, k, rfl, hn, hfront, hrest⟩ := h.split
    exact ⟨m + (k + 1), by omega, hfront.append (.insert b hrest)⟩
  | erase front rest a =>
    obtain ⟨s₁, s₂, m, k, rfl, hn, hfront, hrest⟩ := h.split
    obtain ⟨⟨j, hj, herased⟩, -⟩ := hrest.edit_head
    exact ⟨m + j, by omega, hfront.append herased⟩
  | replace front rest a b =>
    obtain ⟨s₁, s₂, m, k, rfl, hn, hfront, hrest⟩ := h.split
    obtain ⟨-, hreplaced⟩ := hrest.edit_head
    obtain ⟨j, hj, hb⟩ := hreplaced b
    exact ⟨m + j, by omega, hfront.append hb⟩

/-- Edits come down to an alignment that counts no more of them. -/
theorem Aligned.of_edits {s t : List Char} {n : Nat} (h : Edits n s t) :
    ∃ m ≤ n, Aligned s t m := by
  induction h with
  | done s => exact ⟨0, le_rfl, aligned_self s⟩
  | next _ hedit ih =>
    obtain ⟨m, hm, halign⟩ := ih
    obtain ⟨k, hk, hu⟩ := halign.edit hedit
    exact ⟨k, by omega, hu⟩

/-- **The distance is the least number of edits.** -/
theorem isLeast_distance (s t : String) :
    IsLeast {n | Edits n s.toList t.toList} (distance s t) := by
  refine ⟨(aligned_distance s t).edits, fun n hn => ?_⟩
  obtain ⟨m, hm, halign⟩ := Aligned.of_edits hn
  exact (distance_le_of_aligned halign).trans hm

example : distance "kitten" "sitting" = 3 := by decide

/-! ## How far texts are apart -/

theorem Aligned.length_le {s t : List Char} {n : Nat} (h : Aligned s t n) :
    t.length ≤ s.length + n := by
  induction h with
  | nil => exact le_rfl
  | insert b _ ih => simp only [List.length_cons]; omega
  | erase a _ ih => simp only [List.length_cons]; omega
  | pair a b _ ih => simp only [List.length_cons]; omega

/-- Where no character is shared, each of them has to go. -/
theorem Aligned.length_le_of_disjoint {s t : List Char} {n : Nat} (h : Aligned s t n)
    (hdisjoint : ∀ c ∈ s, c ∉ t) : s.length ≤ n := by
  induction h with
  | nil => exact le_rfl
  | insert b _ ih =>
    have := ih fun c hc ht => hdisjoint c hc (List.mem_cons_of_mem b ht)
    omega
  | erase a _ ih =>
    have := ih fun c hc => hdisjoint c (List.mem_cons_of_mem a hc)
    simp only [List.length_cons]
    omega
  | pair a b _ ih =>
    have hab : a ≠ b := fun h => hdisjoint a List.mem_cons_self (h ▸ List.mem_cons_self)
    have := ih fun c hc ht =>
      hdisjoint c (List.mem_cons_of_mem a hc) (List.mem_cons_of_mem b ht)
    rw [if_neg hab]
    simp only [List.length_cons]
    omega

/-- Texts of one length are no farther apart than that. -/
theorem aligned_of_length_eq {s t : List Char} (h : s.length = t.length) :
    ∃ n ≤ s.length, Aligned s t n := by
  induction s generalizing t with
  | nil =>
    rw [List.length_eq_zero_iff.1 h.symm]
    exact ⟨0, le_rfl, .nil⟩
  | cons a s ih =>
    cases t with
    | nil => cases h
    | cons b t =>
      obtain ⟨n, hn, halign⟩ := ih (Nat.succ.inj h)
      refine ⟨_, ?_, .pair a b halign⟩
      simp only [List.length_cons]
      split <;> omega

/-- Characters behind a text are as many edits. -/
theorem distance_append (s t : String) : distance s (s ++ t) = t.length := by
  have hlist : (s ++ t).toList = s.toList ++ t.toList := String.toList_append
  apply le_antisymm
  · have halign := (aligned_self s.toList).append (aligned_inserted t.toList)
    rw [← hlist, List.append_nil, Nat.zero_add] at halign
    exact distance_le_of_aligned halign
  · have hlength := (aligned_distance s (s ++ t)).length_le
    rw [hlist, List.length_append] at hlength
    rw [← String.length_toList]
    omega

/-- Texts of one length that share no character are apart by all of it. -/
theorem distance_of_disjoint {s t : String} (hlength : s.length = t.length)
    (hdisjoint : ∀ c ∈ s.toList, c ∉ t.toList) : distance s t = s.length := by
  rw [← String.length_toList, ← String.length_toList] at hlength
  apply le_antisymm
  · obtain ⟨n, hn, halign⟩ := aligned_of_length_eq hlength
    rw [← String.length_toList]
    exact (distance_le_of_aligned halign).trans hn
  · rw [← String.length_toList]
    exact (aligned_distance s t).length_le_of_disjoint hdisjoint

end TemplateBundler
