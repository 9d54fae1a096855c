import Mathlib.Data.List.GetD
import MarketBridge.Ranking.Comparator

/-!
# The middle of a sample

A sample in ascending order has one middle number or two.  Which numbers these are does not
depend on the order of the sample; they follow every number of it, and every monotone
function.
-/

namespace Ranking

def ascending (xs : List ℚ) : List ℚ :=
  sorted (byKey fun x => x) xs

def lowerMiddle (xs : List ℚ) : ℚ :=
  (ascending xs).getD ((xs.length - 1) / 2) 0

def upperMiddle (xs : List ℚ) : ℚ :=
  (ascending xs).getD (xs.length / 2) 0

theorem byKey_le_iff {a b : ℚ} : byKey (fun x => x) a b ≤ 0 ↔ a ≤ b :=
  sub_nonpos

/-! ## Ascending samples -/

theorem ascending_perm (xs : List ℚ) : (ascending xs).Perm xs :=
  sorted_perm _ xs

@[simp] theorem length_ascending (xs : List ℚ) : (ascending xs).length = xs.length :=
  length_sorted _ xs

theorem ascending_pairwise (xs : List ℚ) : (ascending xs).Pairwise (· ≤ ·) :=
  (sorted_pairwise (byKey_isComparator _) xs).imp byKey_le_iff.1

variable {xs ys : List ℚ} {f : ℚ -> ℚ}

theorem ascending_eq (hperm : ys.Perm xs) (hys : ys.Pairwise (· ≤ ·)) :
    ascending xs = ys :=
  List.Perm.eq_of_pairwise (fun _ _ _ _ => le_antisymm) (ascending_pairwise xs) hys
    ((ascending_perm xs).trans hperm.symm)

theorem ascending_of_perm (h : xs.Perm ys) : ascending xs = ascending ys :=
  ascending_eq ((ascending_perm ys).trans h.symm) (ascending_pairwise ys)

theorem ascending_map (hf : Monotone f) (xs : List ℚ) :
    ascending (xs.map f) = (ascending xs).map f :=
  ascending_eq ((ascending_perm xs).map f)
    (List.pairwise_map.2 ((ascending_pairwise xs).imp fun h => hf h))

/-! ## Larger samples -/

theorem orderedInsert_forall₂ {a b : ℚ} (hab : a ≤ b) (h : List.Forall₂ (· ≤ ·) xs ys)
    (hxs : xs.Pairwise (· ≤ ·)) (hys : ys.Pairwise (· ≤ ·)) :
    List.Forall₂ (· ≤ ·) (xs.orderedInsert (fun a b => byKey (fun x => x) a b ≤ 0) a)
      (ys.orderedInsert (fun a b => byKey (fun x => x) a b ≤ 0) b) := by
  induction h generalizing a b with
  | nil =>
      exact List.Forall₂.cons hab .nil
  | @cons x y xs ys hxy hrest ih =>
      obtain ⟨hx, hxs'⟩ := List.pairwise_cons.1 hxs
      obtain ⟨hy, hys'⟩ := List.pairwise_cons.1 hys
      rw [List.orderedInsert_cons, List.orderedInsert_cons]
      -- the smaller of the first two numbers stands in front on either side
      by_cases hax : a ≤ x
      · rw [if_pos (byKey_le_iff.2 hax)]
        by_cases hby : b ≤ y
        · rw [if_pos (byKey_le_iff.2 hby)]
          exact .cons hab (.cons hxy hrest)
        · rw [if_neg fun h => hby (byKey_le_iff.1 h)]
          have hinsert := ih (a := x) (b := b) (hxy.trans (not_le.1 hby).le) hxs' hys'
          have hfirst : xs.orderedInsert (fun a b => byKey (fun x => x) a b ≤ 0) x = x :: xs := by
            cases xs with
            | nil => rfl
            | cons x' xs =>
                exact List.orderedInsert_cons_of_le _ xs
                  (byKey_le_iff.2 (hx x' (List.mem_cons_self ..)))
          rw [hfirst] at hinsert
          exact .cons (hax.trans hxy) hinsert
      · rw [if_neg fun h => hax (byKey_le_iff.1 h)]
        by_cases hby : b ≤ y
        · rw [if_pos (byKey_le_iff.2 hby)]
          have hinsert := ih (a := a) (b := y) (hab.trans hby) hxs' hys'
          have hfirst : ys.orderedInsert (fun a b => byKey (fun x => x) a b ≤ 0) y = y :: ys := by
            cases ys with
            | nil => rfl
            | cons y' ys =>
                exact List.orderedInsert_cons_of_le _ ys
                  (byKey_le_iff.2 (hy y' (List.mem_cons_self ..)))
          rw [hfirst] at hinsert
          exact .cons ((not_le.1 hax).le.trans hab) hinsert
        · rw [if_neg fun h => hby (byKey_le_iff.1 h)]
          exact .cons hxy (ih hab hxs' hys')

theorem ascending_forall₂ (h : List.Forall₂ (· ≤ ·) xs ys) :
    List.Forall₂ (· ≤ ·) (ascending xs) (ascending ys) := by
  induction h with
  | nil => exact .nil
  | cons hxy _ ih =>
      exact orderedInsert_forall₂ hxy ih (ascending_pairwise _) (ascending_pairwise _)

theorem getD_le_getD (h : List.Forall₂ (· ≤ ·) xs ys) (k : Nat) :
    xs.getD k 0 ≤ ys.getD k 0 := by
  induction h generalizing k with
  | nil => exact le_rfl
  | cons hxy _ ih =>
      cases k with
      | zero => exact hxy
      | succ k => exact ih k

/-! ## The middle numbers -/

theorem upperMiddle_of_perm (h : xs.Perm ys) :
    upperMiddle xs = upperMiddle ys := by
  unfold upperMiddle
  rw [ascending_of_perm h, h.length_eq]

theorem lowerMiddle_mono (h : List.Forall₂ (· ≤ ·) xs ys) :
    lowerMiddle xs ≤ lowerMiddle ys := by
  unfold lowerMiddle
  rw [h.length_eq]
  exact getD_le_getD (ascending_forall₂ h) _

theorem upperMiddle_mono (h : List.Forall₂ (· ≤ ·) xs ys) :
    upperMiddle xs ≤ upperMiddle ys := by
  unfold upperMiddle
  rw [h.length_eq]
  exact getD_le_getD (ascending_forall₂ h) _

theorem getD_ascending {k : Nat} (hk : k < xs.length) :
    (ascending xs).getD k 0 ∈ xs := by
  have hlength : k < (ascending xs).length := by rwa [length_ascending]
  rw [List.getD_eq_getElem _ _ hlength]
  exact (ascending_perm xs).mem_iff.1 (List.getElem_mem hlength)

theorem lowerMiddle_mem (hxs : xs ≠ []) : lowerMiddle xs ∈ xs := by
  have hlength := List.length_pos_iff.2 hxs
  exact getD_ascending (by omega)

theorem upperMiddle_mem (hxs : xs ≠ []) : upperMiddle xs ∈ xs := by
  have hlength := List.length_pos_iff.2 hxs
  exact getD_ascending (by omega)

theorem lowerMiddle_le_upperMiddle (xs : List ℚ) : lowerMiddle xs ≤ upperMiddle xs := by
  cases xs with
  | nil => exact le_rfl
  | cons x xs =>
      unfold lowerMiddle upperMiddle
      have hlength : (ascending (x :: xs)).length = xs.length + 1 := by simp
      rw [List.length_cons, List.getD_eq_getElem _ _ (by omega), List.getD_eq_getElem _ _ (by omega)]
      rcases (show (xs.length + 1 - 1) / 2 ≤ (xs.length + 1) / 2 by omega).lt_or_eq with hlt | heq
      · exact List.pairwise_iff_getElem.1 (ascending_pairwise (x :: xs)) _ _ _ _ hlt
      · exact le_of_eq (getElem_congr_idx heq)

theorem lowerMiddle_eq_upperMiddle (hodd : xs.length % 2 = 1) :
    lowerMiddle xs = upperMiddle xs := by
  unfold lowerMiddle upperMiddle
  rw [show (xs.length - 1) / 2 = xs.length / 2 by omega]

theorem getD_map {k : Nat} (hk : k < xs.length) :
    (xs.map f).getD k 0 = f (xs.getD k 0) := by
  rw [List.getD_eq_getElem _ _ (by rwa [List.length_map]), List.getElem_map,
    List.getD_eq_getElem _ _ hk]

theorem lowerMiddle_map (hf : Monotone f) (hxs : xs ≠ []) :
    lowerMiddle (xs.map f) = f (lowerMiddle xs) := by
  have hlength := List.length_pos_iff.2 hxs
  unfold lowerMiddle
  rw [ascending_map hf, List.length_map, getD_map (by rw [length_ascending]; omega)]

theorem upperMiddle_map (hf : Monotone f) (hxs : xs ≠ []) :
    upperMiddle (xs.map f) = f (upperMiddle xs) := by
  have hlength := List.length_pos_iff.2 hxs
  unfold upperMiddle
  rw [ascending_map hf, List.length_map, getD_map (by rw [length_ascending]; omega)]

end Ranking
