import MarketBridge.Ranking.Comparator

/-!
# The best of a prefix

Items are chosen as the best ones among the first `m` of a list.  They are the best of the
whole list, whatever order it comes in, only if few items are worse than others.
-/

namespace Ranking

section

variable {α : Type*} {score : α -> ℚ} {m k : Nat}

def byScore (score : α -> ℚ) : Comparator α := fun a b =>
  score b - score a

theorem byScore_le_iff {a b : α} : byScore score a b ≤ 0 ↔ score b ≤ score a :=
  sub_nonpos

theorem byScore_isComparator (score : α -> ℚ) : IsComparator (byScore score) where
  antisymm a b := by
    unfold byScore
    constructor <;> intro h <;> linarith
  trans a b e hab hbe := by
    rw [byScore_le_iff] at *
    exact hbe.trans hab

theorem sorted_byScore_map {β : Type*} {f : β -> α} {score' : β -> ℚ} {xs : List β}
    (h : forall b, b ∈ xs -> score (f b) = score' b) :
    sorted (byScore score) (xs.map f) = (sorted (byScore score') xs).map f := by
  refine (List.map_insertionSort _ _ f xs fun a ha b hb => ?_).symm
  rw [byScore_le_iff, byScore_le_iff, h a ha, h b hb]

/-- The `k` best of the first `m` items. -/
def bestOfPrefix (score : α -> ℚ) (m k : Nat) (xs : List α) : List α :=
  (sorted (byScore score) (xs.take m)).take k

def IsBest (score : α -> ℚ) (xs chosen : List α) : Prop :=
  forall a, a ∈ xs -> a ∉ chosen -> forall b, b ∈ chosen -> score a ≤ score b

theorem mem_of_mem_bestOfPrefix {xs : List α} {a : α} (h : a ∈ bestOfPrefix score m k xs) :
    a ∈ xs.take m :=
  mem_sorted.1 (List.mem_of_mem_take h)

theorem length_bestOfPrefix (xs : List α) :
    (bestOfPrefix score m k xs).length = min k (min m xs.length) := by
  unfold bestOfPrefix
  rw [List.length_take, length_sorted, List.length_take]

/-! ## Choices that are best -/

def FewWorse (score : α -> ℚ) (m k : Nat) (xs : List α) : Prop :=
  m < xs.length -> 0 < k -> forall a, a ∈ xs -> xs.countP (score · < score a) ≤ m - k

theorem le_countP_of_mem_bestOfPrefix {xs : List α} {a b : α}
    (hb : b ∈ bestOfPrefix score m k xs) (hlt : score b < score a) :
    min m xs.length - k + 1 ≤ (xs.take m).countP (score · < score a) := by
  have hpairwise : (sorted (byScore score) (xs.take m)).Pairwise fun a b => score b ≤ score a :=
    (sorted_pairwise (byScore_isComparator _) _).imp byScore_le_iff.1
  have hlength : (sorted (byScore score) (xs.take m)).length = min m xs.length := by
    rw [length_sorted, List.length_take]
  have hperm := sorted_perm (byScore score) (xs.take m)
  unfold bestOfPrefix at hb
  rw [← hperm.countP_eq]
  generalize sorted (byScore score) (xs.take m) = ys at hb hpairwise hlength
  obtain ⟨front, back, hsplit⟩ := List.append_of_mem hb
  have hys : ys = front ++ b :: (back ++ ys.drop k) := by
    rw [← List.cons_append, ← List.append_assoc, ← hsplit, List.take_append_drop]
  have hfront : front.length < k := by
    have htake := congrArg List.length hsplit
    rw [List.length_take, List.length_append, List.length_cons] at htake
    omega
  rw [hys, List.pairwise_append, List.pairwise_cons] at hpairwise
  have hworse : (b :: (back ++ ys.drop k)).countP (score · < score a) =
      (b :: (back ++ ys.drop k)).length := by
    rw [List.countP_eq_length]
    intro c hc
    rcases List.mem_cons.1 hc with rfl | hc
    · exact decide_eq_true hlt
    · exact decide_eq_true ((hpairwise.2.1.1 c hc).trans_lt hlt)
  have htotal := congrArg List.length hys
  rw [List.length_append] at htotal
  have hcount := congrArg (List.countP (score · < score a)) hys
  rw [List.countP_append, hworse, List.length_cons] at hcount
  rw [List.length_cons] at htotal
  omega

theorem isBest_of_fewWorse {xs ys : List α} (h : FewWorse score m k xs) (hperm : xs.Perm ys) :
    IsBest score ys (bestOfPrefix score m k ys) := by
  intro a ha hout b hb
  by_cases hfirst : a ∈ ys.take m
  · have hsorted : a ∈ sorted (byScore score) (ys.take m) := mem_sorted.2 hfirst
    rw [← List.take_append_drop k (sorted (byScore score) (ys.take m)), List.mem_append] at hsorted
    have hdrop := hsorted.resolve_left hout
    exact byScore_le_iff.1
      (take_before_drop (sorted_pairwise (byScore_isComparator _) _) k b hb a hdrop)
  · by_contra hlt
    have hlong : m < ys.length := by
      by_contra hshort
      rw [List.take_of_length_le (not_lt.1 hshort)] at hfirst
      exact hfirst ha
    have hpos : 0 < k := by
      have hlength := List.length_pos_of_mem hb
      rw [length_bestOfPrefix] at hlength
      omega
    have hcount := le_countP_of_mem_bestOfPrefix hb (not_le.1 hlt)
    have hfew := h (hperm.length_eq ▸ hlong) hpos a (hperm.mem_iff.2 ha)
    have hprefix : (ys.take m).countP (score · < score a) ≤ ys.countP (score · < score a) :=
      (List.take_sublist m ys).countP_le
    rw [hperm.countP_eq] at hfew
    omega

theorem fewWorse_of_isBest [DecidableEq α] {xs : List α} (hnodup : xs.Nodup) (hkm : k ≤ m)
    (h : forall ys, xs.Perm ys -> IsBest score ys (bestOfPrefix score m k ys)) :
    FewWorse score m k xs := by
  intro hlong hpos a ha
  by_contra hmany
  rw [not_le] at hmany
  let worse : α -> Bool := fun x => score x < score a
  have ha_not : a ∈ xs.filter fun x => !worse x :=
    List.mem_filter.2 ⟨ha, by simp [worse]⟩
  have hperm : xs.Perm ((xs.filter worse ++ (xs.filter fun x => !worse x).erase a) ++ [a]) := by
    have hsplit : (xs.filter worse ++ xs.filter fun x => !worse x).Perm xs :=
      List.filter_append_perm worse xs
    refine hsplit.symm.trans ?_
    rw [List.append_assoc]
    exact ((List.perm_cons_erase ha_not).trans (List.perm_append_singleton _ _).symm).append_left _
  have hlength := hperm.length_eq
  rw [List.length_append, List.length_singleton] at hlength
  have hcount : xs.countP worse = (xs.filter worse).length := List.countP_eq_length_filter
  generalize hothers : (xs.filter fun x => !worse x).erase a = others at hperm hlength
  have hbest := h _ hperm
  have htake : (xs.filter worse ++ others ++ [a]).take m = (xs.filter worse ++ others).take m :=
    List.take_append_of_le_length (by omega)
  have hout : a ∉ (xs.filter worse ++ others).take m := by
    have hnodup' := hperm.nodup_iff.1 hnodup
    intro hmem
    exact (List.nodup_append.1 hnodup').2.2 a (List.mem_of_mem_take hmem) a (by simp) rfl
  have hchosen : forall b, b ∈ bestOfPrefix score m k (xs.filter worse ++ others ++ [a]) ->
      worse b = false := by
    intro b hb
    have hle := hbest a (by simp) (fun hmem => hout (htake ▸ mem_of_mem_bestOfPrefix hmem)) b hb
    exact decide_eq_false (not_lt.2 hle)
  -- the chosen ones are `k` items that are not worse, among `m` of which more than `m - k` are
  have hnot : (bestOfPrefix score m k (xs.filter worse ++ others ++ [a])).countP (!worse ·) = k := by
    rw [List.countP_eq_length.2 fun b hb => by rw [hchosen b hb]; rfl, length_bestOfPrefix,
      List.length_append, List.length_singleton]
    omega
  have hle : (bestOfPrefix score m k (xs.filter worse ++ others ++ [a])).countP (!worse ·) ≤
      ((xs.filter worse ++ others).take m).countP (!worse ·) := by
    unfold bestOfPrefix
    rw [htake]
    exact (List.take_sublist k _).countP_le.trans_eq ((sorted_perm _ _).countP_eq _)
  have hfront : ((xs.filter worse ++ others).take m).countP worse ≥ min m (xs.countP worse) := by
    rw [List.take_append, List.countP_append]
    have hall : ((xs.filter worse).take m).countP worse = ((xs.filter worse).take m).length := by
      rw [List.countP_eq_length]
      exact fun b hb => (List.mem_filter.1 (List.mem_of_mem_take hb)).2
    rw [hall, List.length_take, ← hcount]
    omega
  have hsum := @List.length_eq_countP_add_countP α worse ((xs.filter worse ++ others).take m)
  simp only [List.length_take, List.length_append, Bool.not_eq_true, Bool.decide_eq_false]
    at hsum hlength
  have hmany' : m - k < xs.countP worse := hmany
  omega

end

end Ranking
