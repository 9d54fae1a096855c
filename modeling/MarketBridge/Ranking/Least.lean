import Mathlib.Data.List.Basic
import Mathlib.Order.Lattice

/-!
# The first of the least

A scan that keeps what it has until something strictly smaller comes.
-/

namespace Ranking

section

variable {α κ : Type*} [LinearOrder κ] {key : α -> κ}

def keepLeast (key : α -> κ) (best : Option α) (a : α) : Option α :=
  match best with
  | none => some a
  | some b => if key a < key b then some a else some b

def firstLeast (key : α -> κ) (items : List α) : Option α :=
  items.foldl (keepLeast key) none

theorem keepLeast_eq_self {a b : α} (h : key b ≤ key a) :
    keepLeast key (some b) a = some b :=
  if_neg (not_lt.2 h)

theorem foldl_keepLeast_some (key : α -> κ) (b : α) (items : List α) :
    exists a, items.foldl (keepLeast key) (some b) = some a ∧ a ∈ b :: items ∧
      forall c, c ∈ b :: items -> key a ≤ key c := by
  induction items generalizing b with
  | nil => exact ⟨b, rfl, List.mem_cons_self .., fun c hc => (List.mem_singleton.1 hc) ▸ le_rfl⟩
  | cons x items ih =>
      rw [List.foldl_cons]
      by_cases hlt : key x < key b
      · obtain ⟨a, ha, hmem, hleast⟩ := ih x
        rw [show keepLeast key (some b) x = some x from if_pos hlt]
        refine ⟨a, ha, List.mem_cons_of_mem b hmem, fun c hc => ?_⟩
        rcases List.mem_cons.1 hc with rfl | hc
        · exact le_trans (hleast x (List.mem_cons_self ..)) (le_of_lt hlt)
        · exact hleast c hc
      · obtain ⟨a, ha, hmem, hleast⟩ := ih b
        rw [keepLeast_eq_self (not_lt.1 hlt)]
        refine ⟨a, ha, ?_, fun c hc => ?_⟩
        · rcases List.mem_cons.1 hmem with rfl | hmem
          · exact List.mem_cons_self ..
          · exact List.mem_cons_of_mem b (List.mem_cons_of_mem x hmem)
        · rcases List.mem_cons.1 hc with rfl | hc
          · exact hleast c (List.mem_cons_self ..)
          · rcases List.mem_cons.1 hc with rfl | hc
            · exact le_trans (hleast b (List.mem_cons_self ..)) (not_lt.1 hlt)
            · exact hleast c (List.mem_cons_of_mem b hc)

variable {items : List α}

theorem firstLeast_eq_none_iff : firstLeast key items = none ↔ items = [] := by
  cases items with
  | nil => exact ⟨fun _ => rfl, fun _ => rfl⟩
  | cons b items =>
      obtain ⟨a, ha, -⟩ := foldl_keepLeast_some key b items
      have hsome : firstLeast key (b :: items) = some a := ha
      simp [hsome]

theorem firstLeast_spec {a : α} (h : firstLeast key items = some a) :
    a ∈ items ∧ forall c, c ∈ items -> key a ≤ key c := by
  cases items with
  | nil => cases h
  | cons b items =>
      obtain ⟨a', ha', hspec⟩ := foldl_keepLeast_some key b items
      have hsome : firstLeast key (b :: items) = some a' := ha'
      obtain rfl : a' = a := Option.some.inj (hsome.symm.trans h)
      exact hspec

theorem firstLeast_cons {a : α} (h : forall c, c ∈ items -> key a ≤ key c) :
    firstLeast key (a :: items) = some a := by
  have hkept : items.foldl (keepLeast key) (some a) = some a := by
    induction items with
    | nil => rfl
    | cons b items ih =>
        rw [List.foldl_cons, keepLeast_eq_self (h b (List.mem_cons_self ..))]
        exact ih fun c hc => h c (List.mem_cons_of_mem b hc)
  exact hkept

end

end Ranking
