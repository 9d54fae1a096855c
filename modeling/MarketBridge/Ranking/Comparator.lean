import Mathlib.Algebra.Order.Ring.Rat
import Mathlib.Data.List.Sort
import Mathlib.Tactic.Linarith

/-!
# Sorting with a comparator

A comparator tells by the sign of a number which of two items comes first.  The sort of a
list with it is stable, and what it puts in front is not after what it leaves behind.
-/

namespace Ranking

variable {α β : Type*}

abbrev Comparator (α : Type*) :=
  α -> α -> ℚ

/-- The signs are those of a total preorder. -/
structure IsComparator (c : Comparator α) : Prop where
  antisymm : forall a b, c b a < 0 ↔ 0 < c a b
  trans : forall a b d, c a b ≤ 0 -> c b d ≤ 0 -> c a d ≤ 0

namespace IsComparator

variable {c d : Comparator α}

theorem le_iff (h : IsComparator c) (a b : α) : 0 ≤ c b a ↔ c a b ≤ 0 := by
  rw [← not_lt, ← not_lt, h.antisymm]

theorem total (h : IsComparator c) (a b : α) : c a b ≤ 0 ∨ c b a ≤ 0 := by
  rw [← h.le_iff a b]
  exact (le_total (c b a) 0).symm

theorem eq_zero_iff (h : IsComparator c) (a b : α) : c b a = 0 ↔ c a b = 0 := by
  rw [le_antisymm_iff, le_antisymm_iff, h.le_iff a b, ← h.le_iff b a, and_comm]

theorem trans_lt (h : IsComparator c) {a b e : α} (hab : c a b ≤ 0) (hbe : c b e < 0) :
    c a e < 0 := by
  by_contra hae
  have hea : c e a ≤ 0 := (h.le_iff e a).1 (not_lt.1 hae)
  exact absurd ((h.antisymm e b).1 hbe) (not_lt.2 (h.trans e a b hea hab))

theorem lt_trans (h : IsComparator c) {a b e : α} (hab : c a b < 0) (hbe : c b e ≤ 0) :
    c a e < 0 := by
  by_contra hae
  have hea : c e a ≤ 0 := (h.le_iff e a).1 (not_lt.1 hae)
  exact absurd ((h.antisymm b a).1 hab) (not_lt.2 (h.trans b e a hbe hea))

end IsComparator

/-! ## Building comparators -/

def byKey (f : α -> ℚ) : Comparator α := fun a b =>
  f a - f b

def thenBy (c d : Comparator α) : Comparator α := fun a b =>
  if c a b = 0 then d a b else c a b

theorem byKey_isComparator (f : α -> ℚ) : IsComparator (byKey f) where
  antisymm a b := by
    unfold byKey
    constructor <;> intro h <;> linarith
  trans a b e hab hbe := by
    unfold byKey at hab hbe ⊢
    linarith

theorem thenBy_le_iff {c d : Comparator α} {a b : α} :
    thenBy c d a b ≤ 0 ↔ c a b < 0 ∨ c a b = 0 ∧ d a b ≤ 0 := by
  unfold thenBy
  split
  · rename_i hzero
    simp [hzero]
  · rename_i hne
    simp [hne, lt_iff_le_and_ne]

theorem thenBy_isComparator {c d : Comparator α} (hc : IsComparator c) (hd : IsComparator d) :
    IsComparator (thenBy c d) where
  antisymm a b := by
    unfold thenBy
    by_cases hzero : c a b = 0
    · rw [if_pos hzero, if_pos ((hc.eq_zero_iff a b).2 hzero)]
      exact hd.antisymm a b
    · rw [if_neg hzero, if_neg fun h => hzero ((hc.eq_zero_iff a b).1 h)]
      exact hc.antisymm a b
  trans a b e hab hbe := by
    rw [thenBy_le_iff] at hab hbe ⊢
    rcases hab with hab | ⟨hab, hab'⟩
    · rcases hbe with hbe | ⟨hbe, -⟩
      · exact Or.inl (hc.lt_trans hab hbe.le)
      · exact Or.inl (hc.lt_trans hab hbe.le)
    · rcases hbe with hbe | ⟨hbe, hbe'⟩
      · exact Or.inl (hc.trans_lt hab.le hbe)
      · rcases (hc.trans a b e hab.le hbe.le).lt_or_eq with hlt | heq
        · exact Or.inl hlt
        · exact Or.inr ⟨heq, hd.trans a b e hab' hbe'⟩

/-! ## Sorting -/

def sorted (c : Comparator α) (xs : List α) : List α :=
  xs.insertionSort fun a b => c a b ≤ 0

theorem sorted_perm (c : Comparator α) (xs : List α) : (sorted c xs).Perm xs :=
  List.perm_insertionSort _ xs

@[simp] theorem mem_sorted {c : Comparator α} {xs : List α} {a : α} :
    a ∈ sorted c xs ↔ a ∈ xs :=
  (sorted_perm c xs).mem_iff

@[simp] theorem length_sorted (c : Comparator α) (xs : List α) :
    (sorted c xs).length = xs.length :=
  (sorted_perm c xs).length_eq

theorem sorted_pairwise {c : Comparator α} (hc : IsComparator c) (xs : List α) :
    (sorted c xs).Pairwise fun a b => c a b ≤ 0 := by
  have htotal : Std.Total fun a b => c a b ≤ 0 := ⟨hc.total⟩
  have htrans : IsTrans α fun a b => c a b ≤ 0 := ⟨hc.trans⟩
  exact List.pairwise_insertionSort _ xs

theorem take_before_drop {r : α -> α -> Prop} {xs : List α} (h : xs.Pairwise r) (n : Nat) :
    forall a, a ∈ xs.take n -> forall b, b ∈ xs.drop n -> r a b := by
  rw [← List.take_append_drop n xs, List.pairwise_append] at h
  exact h.2.2

end Ranking
