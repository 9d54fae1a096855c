import Mathlib.Data.List.Flatten

/-!
# Lists in pages

A list that is read a page at a time: the pages, put together again, are the list.
-/

namespace Relational

section

variable {α : Type*}

/-- Page `i` of a list, counted from 0. -/
def page (size i : Nat) (xs : List α) : List α :=
  (xs.drop (i * size)).take size

theorem flatMap_page (size n : Nat) (xs : List α) :
    (List.range n).flatMap (fun i => page size i xs) = xs.take (n * size) := by
  induction n with
  | zero => simp
  | succ n ih =>
      rw [List.range_succ, List.flatMap_append, ih, List.flatMap_singleton, Nat.succ_mul,
        List.take_add]
      rfl

theorem flatMap_page_of_le {size n : Nat} {xs : List α} (h : xs.length ≤ n * size) :
    (List.range n).flatMap (fun i => page size i xs) = xs := by
  rw [flatMap_page, List.take_of_length_le h]

theorem page_zero_append {size : Nat} {xs : List α} (h : xs.length ≤ size) (ys : List α) :
    page size 0 (xs ++ ys) = xs ++ ys.take (size - xs.length) := by
  rw [page, Nat.zero_mul, List.drop_zero, List.take_append, List.take_of_length_le h]

theorem page_succ_append {size : Nat} {xs : List α} (h : xs.length ≤ size) (ys : List α)
    (i : Nat) :
    page size (i + 1) (xs ++ ys) =
      (ys.drop ((i + 1) * size - xs.length)).take size := by
  have hdropped : xs.length ≤ (i + 1) * size :=
    Nat.le_trans h (Nat.le_mul_of_pos_left size i.succ_pos)
  rw [page, List.drop_append, List.drop_of_length_le hdropped, List.nil_append]

end

end Relational
