import MarketBridge.Relational.Table

/-!
# Threads of a table

A row may answer another row of its table. In a threaded table a row has at most one
answer, and what a row says goes with its place in the thread.
-/

namespace Relational.Table

variable {ρ : Type*}

/-- Some row answers row `i`. -/
def Answered (parent : ρ -> Option Nat) (t : Table ρ) (i : Nat) : Prop :=
  exists j r, t.findUnique j = some r ∧ parent r = some i

/-- Row `i` has `n` rows before it in its thread. -/
inductive Depth (parent : ρ -> Option Nat) (t : Table ρ) : Nat -> Nat -> Prop
  | opening {i : Nat} {r : ρ} (hr : t.findUnique i = some r) (hp : parent r = none) :
      Depth parent t i 0
  | answer {i j n : Nat} {r : ρ} (hr : t.findUnique i = some r) (hp : parent r = some j)
      (hd : Depth parent t j n) : Depth parent t i (n + 1)

/-- The loop that counts the rows before row `i`. -/
def countParents (parent : ρ -> Option Nat) (t : Table ρ) (i : Nat) : Nat -> Nat
  | 0 => 0
  | fuel + 1 =>
      match (t.findUnique i).bind parent with
      | none => 0
      | some j => countParents parent t j fuel + 1

/-- Where `P n r` says that the row may be number `n` of a thread. -/
structure Threaded (parent : ρ -> Option Nat) (P : Nat -> ρ -> Prop) (t : Table ρ) : Prop where
  depth : forall i r, t.findUnique i = some r -> exists n, Depth parent t i n ∧ P n r
  linear : forall i j k r s, t.findUnique i = some r -> t.findUnique j = some s ->
    parent r = some k -> parent s = some k -> i = j

variable {parent : ρ -> Option Nat} {P : Nat -> ρ -> Prop} {t u : Table ρ} {i j m n : Nat}
  {r s : ρ}

namespace Depth

theorem countParents_eq (h : Depth parent t i n) :
    forall fuel, n ≤ fuel -> countParents parent t i fuel = n := by
  induction h with
  | opening hr hp =>
      intro fuel _
      cases fuel with
      | zero => rfl
      | succ fuel => simp [countParents, hr, hp]
  | answer hr hp _ ih =>
      intro fuel hn
      cases fuel with
      | zero => cases hn
      | succ fuel => simp [countParents, hr, hp, ih fuel (Nat.le_of_succ_le_succ hn)]

theorem unique (h : Depth parent t i m) (h' : Depth parent t i n) : m = n :=
  (h.countParents_eq (max m n) (le_max_left m n)).symm.trans
    (h'.countParents_eq (max m n) (le_max_right m n))

/-- The depth goes by the parents alone. -/
theorem mono (h : Depth parent t i n)
    (hkeep : forall i r, t.findUnique i = some r ->
      exists s, u.findUnique i = some s ∧ parent s = parent r) :
    Depth parent u i n := by
  induction h with
  | opening hr hp =>
      obtain ⟨s, hs, hsame⟩ := hkeep _ _ hr
      exact .opening hs (hsame.trans hp)
  | answer hr hp _ ih =>
      obtain ⟨s, hs, hsame⟩ := hkeep _ _ hr
      exact .answer hs (hsame.trans hp) ih

theorem create (h : Depth parent t i n) : Depth parent (t.create s) i n :=
  h.mono fun _ r hr => ⟨r, findUnique_create_of_some hr, rfl⟩

end Depth

namespace Threaded

theorem empty : (Table.empty : Table ρ).Threaded parent P := by
  constructor <;> intros <;> simp_all

/-- Rows are rewritten, each in its place. -/
theorem rel (h : t.Threaded parent P)
    (hrel : t.Rel (fun _ r s => parent s = parent r ∧ forall n, P n r -> P n s) u) :
    u.Threaded parent P := by
  refine ⟨fun i s hs => ?_, fun i j k r s hr hs hpr hps => ?_⟩
  · obtain ⟨r, hr, -, hplace⟩ := hrel.of_right hs
    obtain ⟨n, hd, hP⟩ := h.depth i r hr
    refine ⟨n, hd.mono fun k q hq => ?_, hplace n hP⟩
    obtain ⟨q', hq', hsame, -⟩ := hrel.of_left hq
    exact ⟨q', hq', hsame⟩
  · obtain ⟨r', hr', hsame, -⟩ := hrel.of_right hr
    obtain ⟨s', hs', hsame', -⟩ := hrel.of_right hs
    exact h.linear i j k r' s' hr' hs' (hsame.symm.trans hpr) (hsame'.symm.trans hps)

/-- A thread is opened. -/
theorem opening (h : t.Threaded parent P) (hp : parent r = none) (hP : P 0 r) :
    (t.create r).Threaded parent P := by
  refine ⟨fun i s hs => ?_, fun i j k q s hq hs hpq hps => ?_⟩
  · rcases of_findUnique_create hs with ⟨rfl, rfl⟩ | ⟨-, hold⟩
    · exact ⟨0, .opening hs hp, hP⟩
    · obtain ⟨n, hd, hP'⟩ := h.depth i s hold
      exact ⟨n, hd.create, hP'⟩
  · rcases of_findUnique_create hq with ⟨rfl, rfl⟩ | ⟨-, hq⟩
    · cases hp.symm.trans hpq
    · rcases of_findUnique_create hs with ⟨rfl, rfl⟩ | ⟨-, hs⟩
      · cases hp.symm.trans hps
      · exact h.linear i j k q s hq hs hpq hps

/-- The last row of a thread is answered. -/
theorem answer (h : t.Threaded parent P) (hr : t.findUnique j = some r)
    (hlast : ¬ Answered parent t j) (hp : parent s = some j)
    (hP : forall n, Depth parent t j n -> P n r -> P (n + 1) s) :
    (t.create s).Threaded parent P := by
  refine ⟨fun i q hq => ?_, fun i i' k q q' hq hq' hpq hpq' => ?_⟩
  · rcases of_findUnique_create hq with ⟨rfl, rfl⟩ | ⟨-, hold⟩
    · obtain ⟨n, hd, hP'⟩ := h.depth j r hr
      exact ⟨n + 1, .answer hq hp hd.create, hP n hd hP'⟩
    · obtain ⟨n, hd, hP'⟩ := h.depth i q hold
      exact ⟨n, hd.create, hP'⟩
  · rcases of_findUnique_create hq with ⟨rfl, rfl⟩ | ⟨-, hq⟩ <;>
      rcases of_findUnique_create hq' with ⟨rfl, rfl⟩ | ⟨-, hq'⟩
    · rfl
    · obtain rfl := Option.some.inj (hp.symm.trans hpq)
      exact absurd ⟨i', q', hq', hpq'⟩ hlast
    · obtain rfl := Option.some.inj (hp.symm.trans hpq')
      exact absurd ⟨i, q, hq, hpq⟩ hlast
    · exact h.linear i i' k q q' hq hq' hpq hpq'

end Threaded

end Relational.Table
