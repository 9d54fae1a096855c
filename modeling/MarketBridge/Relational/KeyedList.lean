import Mathlib.Data.List.Nodup

/-!
# Rows in the order of a scan

A list of rows with distinct keys, of which one is rewritten in place.
-/

namespace Relational

section

variable {α κ : Type*} [DecidableEq κ] {key : α -> κ} {k : κ} {g : α -> α} {p : α -> Bool}

def updateKey (key : α -> κ) (k : κ) (g : α -> α) (rows : List α) : List α :=
  rows.map fun a => if key a = k then g a else a

theorem mem_updateKey {rows : List α} {b : α} :
    b ∈ updateKey key k g rows ↔
      b ∈ rows ∧ key b ≠ k ∨ exists a, a ∈ rows ∧ key a = k ∧ g a = b := by
  constructor
  · intro hb
    obtain ⟨a, ha, rfl⟩ := List.mem_map.1 hb
    by_cases hk : key a = k
    · rw [if_pos hk]
      exact Or.inr ⟨a, ha, hk, rfl⟩
    · rw [if_neg hk]
      exact Or.inl ⟨ha, hk⟩
  · rintro (⟨hb, hk⟩ | ⟨a, ha, hk, rfl⟩)
    · exact List.mem_map.2 ⟨b, hb, if_neg hk⟩
    · exact List.mem_map.2 ⟨a, ha, if_pos hk⟩

theorem map_updateKey (key : α -> κ) (k : κ) (g : α -> α)
    (hg : forall a, key a = k -> key (g a) = k) (rows : List α) :
    (updateKey key k g rows).map key = rows.map key := by
  rw [updateKey, List.map_map]
  refine List.map_congr_left fun a _ => ?_
  rw [Function.comp_apply]
  split
  · rename_i hk
    exact (hg a hk).trans hk.symm
  · rfl

theorem updateKey_of_notMem {rows : List α} (h : k ∉ rows.map key) :
    updateKey key k g rows = rows := by
  refine (List.map_congr_left fun a ha => if_neg ?_).trans (List.map_id _)
  exact fun hk => h (List.mem_map.2 ⟨a, ha, hk⟩)

theorem countP_updateKey_le_of (rows : List α)
    (hg : forall a, a ∈ rows -> key a = k -> p (g a) = true -> p a = true) :
    (updateKey key k g rows).countP p ≤ rows.countP p := by
  rw [updateKey, List.countP_map]
  refine List.countP_mono_left fun a ha hp => ?_
  rw [Function.comp_apply] at hp
  split at hp
  · rename_i hk
    exact hg a ha hk hp
  · exact hp

theorem countP_updateKey_le {rows : List α} (hkeys : (rows.map key).Nodup) :
    (updateKey key k g rows).countP p ≤ (rows.countP fun a => key a ≠ k && p a) + 1 := by
  induction rows with
  | nil => exact Nat.zero_le _
  | cons a rows ih =>
      rw [List.map_cons, List.nodup_cons] at hkeys
      obtain ⟨hfirst, hrest⟩ := hkeys
      by_cases hk : key a = k
      · subst hk
        have hothers : rows.countP p = rows.countP fun b => key b ≠ key a && p b := by
          refine List.countP_congr fun b hb => ?_
          have hb' : key b ≠ key a := fun hkey => hfirst (hkey ▸ List.mem_map_of_mem hb)
          simp [hb']
        have htail : updateKey key (key a) g rows = rows := updateKey_of_notMem hfirst
        have hcons : updateKey key (key a) g (a :: rows) = g a :: rows := by
          rw [updateKey, List.map_cons, if_pos rfl]
          exact congrArg (g a :: ·) htail
        rw [hcons, List.countP_cons, List.countP_cons, hothers]
        have hself : (decide (key a ≠ key a) && p a) = false := by simp
        rw [hself]
        split <;> omega
      · have hcons : updateKey key k g (a :: rows) = a :: updateKey key k g rows := by
          rw [updateKey, List.map_cons, if_neg hk]
          rfl
        have hself : (decide (key a ≠ k) && p a) = p a := by simp [hk]
        rw [hcons, List.countP_cons, List.countP_cons, hself]
        have htail := ih hrest
        omega

end

end Relational
