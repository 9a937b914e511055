import Mathlib.Data.List.Sort
import Mathlib.Data.Prod.Lex
import Mathlib.Data.String.Basic
import TemplateBundler.Proofs.EditDistance

/-!
# The best suggestions

Texts are suggested by their rank: the smaller distance first, and of equally far ones the one that
comes first as a text. No two texts have one rank, so that what is suggested does not depend on the
order in which texts are known:

    Best missing known chosen ↔ chosen = suggestions missing known             (best_iff)

How far a suggestion may be is half of what is missing, and there bytes are counted, while a distance
counts characters. For a text with characters of several bytes that is more than half of it, up to
texts that have nothing in common with it (`similarity`).
-/

namespace TemplateBundler

/-! ## The order of suggestions -/

/-- What decides whether a text is suggested before another one. -/
def rank (missing text : String) : Nat ×ₗ String := toLex (distance missing text, text)

theorem rank_injective (missing : String) : Function.Injective (rank missing) := by
  intro a b h
  have hpair : (distance missing a, a) = (distance missing b, b) := toLex.injective h
  exact (Prod.mk.inj hpair).2

theorem closer_eq (missing a b : String) :
    closer (distance missing a, a) (distance missing b, b) =
      decide (rank missing a ≤ rank missing b) := by
  unfold closer rank
  rw [Bool.eq_iff_iff, decide_eq_true_eq, Prod.Lex.toLex_le_toLex]
  simp only [Bool.or_eq_true, Bool.and_eq_true, decide_eq_true_eq, beq_iff_eq]

/-- The known texts that are close enough to be suggested, each as often as it is known. -/
def near (missing : String) (known : List String) : List String :=
  known.filter fun text => distance missing text ≤ reach missing

theorem mem_near {missing text : String} {known : List String} :
    text ∈ near missing known ↔ text ∈ known ∧ distance missing text ≤ reach missing := by
  unfold near
  rw [List.mem_filter, decide_eq_true_eq]

theorem scored_eq (missing : String) (known : List String) :
    scored missing known = (near missing known).map fun text => (distance missing text, text) := by
  unfold scored near
  rw [List.filter_map]
  rfl

/-- Close texts, the best one first. -/
def ranked (missing : String) (known : List String) : List String :=
  (near missing known).mergeSort fun a b => rank missing a ≤ rank missing b

theorem suggestions_eq (missing : String) (known : List String) :
    suggestions missing known = (ranked missing known).take 3 := by
  have hsort : ((near missing known).mergeSort fun a b => rank missing a ≤ rank missing b).map
      (fun text => (distance missing text, text)) = (scored missing known).mergeSort closer := by
    rw [scored_eq]
    exact List.map_mergeSort fun a _ b _ => (closer_eq missing a b).symm
  unfold suggestions ranked
  rw [← hsort, ← List.map_take, List.map_map]
  exact List.map_id _

theorem ranked_perm (missing : String) (known : List String) :
    (ranked missing known).Perm (near missing known) := List.mergeSort_perm _ _

theorem ranked_pairwise (missing : String) (known : List String) :
    (ranked missing known).Pairwise fun a b => rank missing a ≤ rank missing b := by
  have hsorted := @List.pairwise_mergeSort _ (fun a b => decide (rank missing a ≤ rank missing b))
    (fun a b c hab hbc => by
      rw [decide_eq_true_eq] at hab hbc ⊢
      exact hab.trans hbc)
    (fun a b => by
      rw [Bool.or_eq_true, decide_eq_true_eq, decide_eq_true_eq]
      exact le_total _ _)
    (near missing known)
  exact hsorted.imp fun h => by rwa [decide_eq_true_eq] at h

/-- Texts in the order of their ranks are told by how often each of them is there. -/
theorem eq_of_perm_of_ranked {missing : String} {xs ys : List String} (h : xs.Perm ys)
    (hxs : xs.Pairwise fun a b => rank missing a ≤ rank missing b)
    (hys : ys.Pairwise fun a b => rank missing a ≤ rank missing b) : xs = ys :=
  h.eq_of_pairwise (fun _ _ _ _ hab hba => rank_injective missing (le_antisymm hab hba)) hxs hys

/-! ## What is suggested -/

/-- The best of the known texts, and no more than three of them. -/
structure Best (missing : String) (known chosen : List String) : Prop where
  length_le : chosen.length ≤ 3
  mem_known : ∀ text ∈ chosen, text ∈ known
  close : ∀ text ∈ chosen, distance missing text ≤ reach missing
  ordered : chosen.Pairwise fun a b => rank missing a ≤ rank missing b
  /-- Every close text is chosen or left over, as often as it is known. None that is left over comes
  before a chosen one, and where there was room for another one, none is left over. -/
  exists_rest : ∃ rest, (chosen ++ rest).Perm (near missing known) ∧
    (∀ a ∈ chosen, ∀ b ∈ rest, ¬ rank missing b < rank missing a) ∧
    (chosen.length < 3 → rest = [])

theorem best_take (missing : String) (known : List String) :
    Best missing known ((ranked missing known).take 3) := by
  have hmem : ∀ text ∈ (ranked missing known).take 3, text ∈ near missing known :=
    fun text htext => (ranked_perm missing known).mem_iff.1 (List.mem_of_mem_take htext)
  have hsplit := ranked_pairwise missing known
  rw [← List.take_append_drop 3 (ranked missing known), List.pairwise_append] at hsplit
  refine ⟨?_, fun text htext => (mem_near.1 (hmem text htext)).1,
    fun text htext => (mem_near.1 (hmem text htext)).2, hsplit.1,
    (ranked missing known).drop 3, ?_, fun a ha b hb => not_lt.2 (hsplit.2.2 a ha b hb), ?_⟩
  · rw [List.length_take]
    omega
  · rw [List.take_append_drop]
    exact ranked_perm missing known
  · intro hshort
    rw [List.length_take] at hshort
    rw [List.drop_eq_nil_iff]
    omega

/-- The best texts are the first ones of all that are close, in order. -/
theorem Best.eq_take {missing : String} {known chosen : List String}
    (h : Best missing known chosen) : chosen = (ranked missing known).take 3 := by
  obtain ⟨rest, hperm, hbefore, hroom⟩ := h.exists_rest
  -- what is left over, put in order behind what is chosen
  have hrest : (ranked missing rest).Perm (near missing rest) := ranked_perm missing rest
  have hnear : near missing rest = rest := by
    unfold near
    refine List.filter_eq_self.2 fun text htext => ?_
    rw [decide_eq_true_eq]
    exact (mem_near.1 (hperm.mem_iff.1 (List.mem_append_right chosen htext))).2
  rw [hnear] at hrest
  have hall : chosen ++ ranked missing rest = ranked missing known := by
    refine eq_of_perm_of_ranked (((hrest.append_left chosen).trans hperm).trans
      (ranked_perm missing known).symm) ?_ (ranked_pairwise missing known)
    refine List.pairwise_append.2 ⟨h.ordered, ranked_pairwise missing rest, fun a ha b hb => ?_⟩
    exact not_lt.1 (hbefore a ha b (hrest.mem_iff.1 hb))
  rw [← hall]
  by_cases hthree : chosen.length = 3
  · rw [← hthree, List.take_left]
  · have hless : chosen.length < 3 := by
      have := h.length_le
      omega
    have hnone : ranked missing rest = [] := by
      rw [hroom hless] at hrest ⊢
      exact hrest.eq_nil
    rw [hnone, List.append_nil, List.take_of_length_le h.length_le]

theorem Best.of_perm {missing : String} {known known' chosen : List String}
    (h : Best missing known chosen) (hperm : known.Perm known') : Best missing known' chosen where
  length_le := h.length_le
  mem_known text htext := hperm.mem_iff.1 (h.mem_known text htext)
  close := h.close
  ordered := h.ordered
  exists_rest := by
    obtain ⟨rest, hrest, hbefore, hroom⟩ := h.exists_rest
    exact ⟨rest, hrest.trans (hperm.filter _), hbefore, hroom⟩

theorem best_iff {missing : String} {known chosen : List String} :
    Best missing known chosen ↔ chosen = suggestions missing known := by
  rw [suggestions_eq]
  constructor
  · exact Best.eq_take
  · rintro rfl
    exact best_take missing known

/-- **Suggestions are the best of the known texts**, and nothing else is, in whatever order these are
known; distances are least numbers of edits. -/
theorem best_suggestions (missing : String) (known : List String) :
    (∀ chosen, Best missing known chosen ↔ chosen = suggestions missing known) ∧
    (∀ known', known.Perm known' → suggestions missing known' = suggestions missing known) ∧
    ∀ text, IsLeast {n | Edits n missing.toList text.toList} (distance missing text) := by
  refine ⟨fun chosen => best_iff, fun known' hperm => ?_, fun text => isLeast_distance missing text⟩
  have hbest : Best missing known (suggestions missing known) := best_iff.2 rfl
  exact (best_iff.1 (hbest.of_perm hperm)).symm

theorem best_suggestions_repeated :
    let known := ["b", "ac", "xyz", "aa", "b", "ab"]
    known.Perm known.reverse ∧ suggestions "a" known.reverse = suggestions "a" known ∧
      suggestions "a" known = ["aa", "ab", "ac"] := by
  intro known
  have hperm : known.Perm known.reverse := (List.reverse_perm known).symm
  obtain ⟨hbest, horder, -⟩ := best_suggestions "a" known
  refine ⟨hperm, horder _ hperm, ((hbest _).1 ⟨by decide, by decide, by decide, by decide, ?_⟩).symm⟩
  exact ⟨["b", "b"], by decide, by decide, by decide⟩

/-! ## Half the characters -/

/-- Half the characters of a text, or one where that is less. -/
def letterReach (missing : String) : Nat := max 1 (missing.length / 2)

theorem mem_suggestions_self {missing text : String} (h : distance missing text ≤ reach missing) :
    text ∈ suggestions missing [text] := by
  have hnear : near missing [text] = [text] := by
    unfold near
    rw [List.filter_singleton, decide_eq_true h]
    rfl
  have hranked : ranked missing [text] = [text] := by
    rw [ranked, hnear, List.mergeSort_singleton]
  rw [suggestions_eq, hranked]
  exact List.mem_singleton_self text

theorem exists_mem_suggestions_iff {missing text : String} :
    (∃ known, text ∈ suggestions missing known) ↔ distance missing text ≤ reach missing := by
  constructor
  · rintro ⟨known, h⟩
    exact (mem_suggestions missing known text h).2
  · exact fun h => ⟨[text], mem_suggestions_self h⟩

theorem utf8ByteSize_of_ascii {s : String} (h : ∀ c ∈ s.toList, c.toNat < 128) :
    s.utf8ByteSize = s.length := by
  have hlen : ∀ cs : List Char, (∀ c ∈ cs, c.toNat < 128) → String.utf8Len cs = cs.length := by
    intro cs hcs
    induction cs with
    | nil => rfl
    | cons c cs ih =>
      have hc : c.utf8Size = 1 := Char.utf8Size_eq_one_iff.2 <| by
        have := hcs c List.mem_cons_self
        rw [UInt32.le_iff_toNat_le]
        exact Nat.lt_succ_iff.1 this
      rw [String.utf8Len_cons, ih fun d hd => hcs d (List.mem_cons_of_mem c hd), hc,
        List.length_cons]
  rw [← String.length_toList, ← hlen _ h, ← String.utf8ByteSize_ofList, String.ofList_toList]

/-- How far suggestions for a text can be from it, in characters. -/
structure Similarity (missing : String) : Prop where
  /-- They stay within half its characters only where half its bytes are no more. -/
  within_iff : (∀ known, ∀ text ∈ suggestions missing known,
    distance missing text ≤ letterReach missing) ↔ reach missing ≤ letterReach missing
  /-- Of a text without a character of several bytes that is so. -/
  ascii : (∀ c ∈ missing.toList, c.toNat < 128) → ∀ known, ∀ text ∈ suggestions missing known,
    distance missing text ≤ letterReach missing
  /-- A text of its length that shares no character with it can be suggested where its characters
  have two bytes on average. -/
  foreign_iff : ∀ text, text.length = missing.length → 2 ≤ missing.length →
    (∀ c ∈ missing.toList, c ∉ text.toList) →
    ((∃ known, text ∈ suggestions missing known) ↔ 2 * missing.length ≤ missing.utf8ByteSize)

/-- **Suggestions are similar in bytes.** -/
theorem similarity (missing : String) : Similarity missing := by
  have hwithin : (∀ known, ∀ text ∈ suggestions missing known,
      distance missing text ≤ letterReach missing) ↔ reach missing ≤ letterReach missing := by
    constructor
    · intro h
      -- the farthest text that is suggested has that many characters more
      have hfar : distance missing (missing ++ String.ofList (List.replicate (reach missing) 'a')) =
          reach missing := by
        rw [distance_append, String.length_ofList, List.length_replicate]
      obtain ⟨known, hknown⟩ := exists_mem_suggestions_iff.2 hfar.le
      have hletters := h known _ hknown
      rwa [hfar] at hletters
    · intro h known text htext
      exact (mem_suggestions missing known text htext).2.trans h
  refine ⟨hwithin, fun hascii => hwithin.2 ?_, fun text hlength htwo hdisjoint => ?_⟩
  · rw [reach, utf8ByteSize_of_ascii hascii, letterReach]
  · rw [exists_mem_suggestions_iff, distance_of_disjoint hlength.symm hdisjoint, reach]
    omega

/-- Half of three Cyrillic letters is one letter and three bytes. -/
theorem similarity_cyrillic :
    ("abc".length = "мир".length ∧ 2 ≤ "мир".length ∧ ∀ c ∈ "мир".toList, c ∉ "abc".toList) ∧
      ∃ known, "abc" ∈ suggestions "мир" known := by
  have hlength : "abc".length = "мир".length := by decide
  have htwo : 2 ≤ "мир".length := by decide
  have hdisjoint : ∀ c ∈ "мир".toList, c ∉ "abc".toList := by simp
  refine ⟨⟨hlength, htwo, hdisjoint⟩,
    ((similarity "мир").foreign_iff "abc" hlength htwo hdisjoint).2 ?_⟩
  decide

/-- A suggestion that has no character in common with what is missing. -/
theorem exists_suggested_foreign : ∃ missing known text, text ∈ suggestions missing known ∧
    ¬ distance missing text ≤ max 1 (missing.length / 2) ∧
    text.length = missing.length ∧ 2 ≤ missing.length ∧ ∀ c ∈ missing.toList, c ∉ text.toList := by
  refine ⟨"日本", ["ab"], "ab", mem_suggestions_self ?_, by decide, by decide, by decide, by simp⟩
  decide

end TemplateBundler
