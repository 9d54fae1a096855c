import Mathlib.Data.List.Induction
import MarketBridge.Relational.Table

/-!
# Rows entered once for each key

A table in which every row carries a key of its own, and into which a row is
entered only if its key is not there yet.
-/

namespace Relational

namespace Table

section Keyed

variable {ρ κ : Type*} {key : ρ -> κ}

def Keyed (key : ρ -> κ) (t : Table ρ) : Prop :=
  forall i j r s, t.findUnique i = some r -> t.findUnique j = some s -> key r = key s -> i = j

theorem keyed_empty : Keyed key (empty : Table ρ) := by
  intro i j r s hr
  simp at hr

variable {t : Table ρ} {i : Nat} {rs : List ρ}

theorem Keyed.findMany_eq_singleton (h : Keyed key t) {p : Nat -> ρ -> Bool} {r : ρ}
    (hr : t.findUnique i = some r) (hp : p i r = true)
    (hkey : forall j s, t.findUnique j = some s -> p j s = true -> key s = key r) :
    t.findMany p = [(i, r)] := by
  have hmem : forall e, e ∈ t.findMany p -> e = (i, r) := by
    rintro ⟨j, s⟩ he
    obtain ⟨hs, hselected⟩ := mem_findMany.mp he
    have hji : j = i := h j i s r hs hr (hkey j s hs hselected)
    subst hji
    rw [hr, Option.some.injEq] at hs
    rw [hs]
  have hfound : (i, r) ∈ t.findMany p := mem_findMany.mpr ⟨hr, hp⟩
  have hnodup := nodup_keys_findMany t p
  generalize t.findMany p = es at hmem hfound hnodup
  match es with
  | [] =>
      cases hfound
  | [e] =>
      rw [hmem e List.mem_cons_self]
  | e :: e' :: es =>
      have hsame : e = e' := by
        rw [hmem e (by simp), hmem e' (by simp)]
      rw [hsame] at hnodup
      simp at hnodup

variable [DecidableEq κ]

def holdsKey (key : ρ -> κ) (t : Table ρ) (k : κ) : Bool :=
  t.any fun _ r => key r = k

def createOnce (key : ρ -> κ) (t : Table ρ) (r : ρ) : Table ρ :=
  if t.holdsKey key (key r) then t else t.create r

def createEachOnce (key : ρ -> κ) (t : Table ρ) (rs : List ρ) : Table ρ :=
  rs.foldl (createOnce key) t

theorem holdsKey_iff {k : κ} :
    t.holdsKey key k = true ↔ exists i r, t.findUnique i = some r ∧ key r = k := by
  unfold holdsKey
  rw [any_eq_true_iff]
  simp

theorem holdsKey_of_findUnique {r : ρ} (hr : t.findUnique i = some r) :
    t.holdsKey key (key r) = true :=
  holdsKey_iff.mpr ⟨i, r, hr, rfl⟩

/-! ## One row -/

theorem findUnique_createOnce_of_some {r s : ρ} (hs : t.findUnique i = some s) :
    (createOnce key t r).findUnique i = some s := by
  unfold createOnce
  split
  · exact hs
  · rw [findUnique_create, if_neg (Nat.ne_of_lt (lt_size_of_findUnique hs))]
    exact hs

theorem of_findUnique_createOnce {r s : ρ} (hs : (createOnce key t r).findUnique i = some s) :
    t.findUnique i = some s ∨ s = r := by
  unfold createOnce at hs
  split at hs
  · exact Or.inl hs
  · rw [findUnique_create] at hs
    split at hs
    · exact Or.inr (Option.some.inj hs).symm
    · exact Or.inl hs

theorem holdsKey_createOnce {r : ρ} {k : κ} :
    (createOnce key t r).holdsKey key k = true ↔ t.holdsKey key k = true ∨ k = key r := by
  constructor
  · intro h
    obtain ⟨i, s, hs, hk⟩ := holdsKey_iff.mp h
    rcases of_findUnique_createOnce hs with hbefore | hnew
    · exact Or.inl (holdsKey_iff.mpr ⟨i, s, hbefore, hk⟩)
    · exact Or.inr (hk.symm.trans (congrArg key hnew))
  · rintro (h | rfl)
    · obtain ⟨i, s, hs, hk⟩ := holdsKey_iff.mp h
      exact holdsKey_iff.mpr ⟨i, s, findUnique_createOnce_of_some hs, hk⟩
    · unfold createOnce
      split
      · assumption
      · exact holdsKey_of_findUnique (findUnique_create_self t r)

theorem Keyed.createOnce (h : Keyed key t) (r : ρ) :
    Keyed key (Table.createOnce key t r) := by
  unfold Table.createOnce
  split
  · exact h
  · next hfresh =>
      have hnot : forall i s, t.findUnique i = some s -> key s ≠ key r := by
        intro i s hs hk
        exact hfresh (holdsKey_iff.mpr ⟨i, s, hs, hk⟩)
      intro i j p q hp hq hk
      rw [findUnique_create] at hp hq
      split at hp
      · next hi =>
          split at hq
          · next hj =>
              exact hi.trans hj.symm
          · rw [← Option.some.inj hp] at hk
            exact absurd hk.symm (hnot j q hq)
      · split at hq
        · rw [← Option.some.inj hq] at hk
          exact absurd hk (hnot i p hp)
        · exact h i j p q hp hq hk

/-! ## A list of rows -/

theorem findUnique_createEachOnce_of_some {s : ρ} (hs : t.findUnique i = some s) :
    (createEachOnce key t rs).findUnique i = some s := by
  induction rs generalizing t with
  | nil =>
      exact hs
  | cons r rs ih =>
      exact ih (findUnique_createOnce_of_some hs)

theorem of_findUnique_createEachOnce {s : ρ}
    (hs : (createEachOnce key t rs).findUnique i = some s) :
    t.findUnique i = some s ∨ s ∈ rs := by
  induction rs generalizing t with
  | nil =>
      exact Or.inl hs
  | cons r rs ih =>
      rcases ih hs with hstep | htail
      · rcases of_findUnique_createOnce hstep with hbefore | hnew
        · exact Or.inl hbefore
        · exact Or.inr (List.mem_cons.mpr (Or.inl hnew))
      · exact Or.inr (List.mem_cons_of_mem r htail)

theorem holdsKey_createEachOnce {k : κ} :
    (createEachOnce key t rs).holdsKey key k = true ↔
      t.holdsKey key k = true ∨ k ∈ rs.map key := by
  induction rs generalizing t with
  | nil =>
      simp [createEachOnce]
  | cons r rs ih =>
      have hrest : (createEachOnce key t (r :: rs)).holdsKey key k = true ↔
          (Table.createOnce key t r).holdsKey key k = true ∨ k ∈ rs.map key := ih
      rw [hrest, holdsKey_createOnce, List.map_cons, List.mem_cons, or_assoc]

theorem Keyed.createEachOnce (h : Keyed key t) (rs : List ρ) :
    Keyed key (Table.createEachOnce key t rs) := by
  induction rs generalizing t with
  | nil =>
      exact h
  | cons r rs ih =>
      exact ih (h.createOnce r)

theorem createEachOnce_of_holds (h : forall r, r ∈ rs -> t.holdsKey key (key r) = true) :
    createEachOnce key t rs = t := by
  induction rs with
  | nil =>
      rfl
  | cons r rs ih =>
      have hhead : createOnce key t r = t := if_pos (h r List.mem_cons_self)
      have hrest : createEachOnce key t (r :: rs) =
          createEachOnce key (createOnce key t r) rs := rfl
      rw [hrest, hhead]
      exact ih fun s hs => h s (List.mem_cons_of_mem r hs)

theorem sumOf_createEachOnce {M : Type*} [AddCommMonoid M]
    (hfresh : forall r, r ∈ rs -> t.holdsKey key (key r) = false) (hnodup : (rs.map key).Nodup)
    (w : ρ -> M) :
    (createEachOnce key t rs).sumOf (fun _ r => w r) =
      t.sumOf (fun _ r => w r) + (rs.map w).sum := by
  induction rs generalizing t with
  | nil =>
      simp [createEachOnce]
  | cons r rs ih =>
      rw [List.map_cons, List.nodup_cons] at hnodup
      have hhead : createOnce key t r = t.create r := by
        unfold createOnce
        rw [hfresh r List.mem_cons_self]
        rfl
      have hrest : createEachOnce key t (r :: rs) = createEachOnce key (t.create r) rs := by
        rw [← hhead]
        rfl
      have hstill : forall s, s ∈ rs -> (t.create r).holdsKey key (key s) = false := by
        intro s hs
        rw [← hhead, Bool.eq_false_iff]
        intro hholds
        rcases holdsKey_createOnce.mp hholds with hbefore | hsame
        · rw [hfresh s (List.mem_cons_of_mem r hs)] at hbefore
          cases hbefore
        · exact hnodup.1 (hsame ▸ List.mem_map_of_mem hs)
      rw [hrest, ih hstill hnodup.2, sumOf_create, List.map_cons, List.sum_cons, add_assoc]

end Keyed

/-! ## Tables that gain rows -/

section Gains

variable {ρ τ κ : Type*} {terms : ρ -> τ} {key : τ -> κ} {may may' : τ -> Prop} [DecidableEq κ]

/-- Rows keep their terms, and a new row has permitted terms and a key that was not there. -/
structure Gains (terms : ρ -> τ) (key : τ -> κ) (may : τ -> Prop) (t u : Table ρ) : Prop where
  kept : forall k r, t.findUnique k = some r ->
    exists r', u.findUnique k = some r' ∧ terms r' = terms r
  gained : forall k r', u.findUnique k = some r' ->
    (exists r, t.findUnique k = some r ∧ terms r' = terms r) ∨
      (t.holdsKey (fun r => key (terms r)) (key (terms r')) = false ∧ may (terms r'))
  keyed : t.Keyed (fun r => key (terms r)) -> u.Keyed (fun r => key (terms r))

variable {t u : Table ρ}

theorem Gains.of_rel (h : t.Rel (fun _ r r' => terms r' = terms r) u) :
    Gains terms key may t u := by
  refine ⟨fun k r hr => h.of_left hr, fun k r' hr' => Or.inl (h.of_right hr'), ?_⟩
  intro hkeyed i j r' s' hr' hs' hkey
  obtain ⟨r, hr, hrterms⟩ := h.of_right hr'
  obtain ⟨s, hs, hsterms⟩ := h.of_right hs'
  have hsame : key (terms r') = key (terms s') := hkey
  rw [hrterms, hsterms] at hsame
  exact hkeyed i j r s hr hs hsame

theorem Gains.refl (t : Table ρ) : Gains terms key may t t :=
  ⟨fun _ r hr => ⟨r, hr, rfl⟩, fun _ r hr => Or.inl ⟨r, hr, rfl⟩, id⟩

theorem Gains.create {r : ρ} (hfree : t.holdsKey (fun r => key (terms r)) (key (terms r)) = false)
    (hmay : may (terms r)) :
    Gains terms key may t (t.create r) := by
  have honce : Table.createOnce (fun r => key (terms r)) t r = t.create r :=
    if_neg (by rw [hfree]; exact Bool.false_ne_true)
  refine ⟨?_, ?_, ?_⟩
  · intro k s hs
    rw [← honce]
    exact ⟨s, findUnique_createOnce_of_some hs, rfl⟩
  · intro k s hs
    rw [← honce] at hs
    rcases of_findUnique_createOnce hs with hbefore | rfl
    · exact Or.inl ⟨s, hbefore, rfl⟩
    · exact Or.inr ⟨hfree, hmay⟩
  · intro hkeyed
    rw [← honce]
    exact hkeyed.createOnce r

theorem Gains.holdsKey (h : Gains terms key may t u) {k : κ}
    (hk : t.holdsKey (fun r => key (terms r)) k = true) :
    u.holdsKey (fun r => key (terms r)) k = true := by
  obtain ⟨i, r, hr, rfl⟩ := holdsKey_iff.mp hk
  obtain ⟨r', hr', hterms⟩ := h.kept i r hr
  exact holdsKey_iff.mpr ⟨i, r', hr', congrArg key hterms⟩

theorem Gains.trans {v : Table ρ} (h : Gains terms key may t u) (h' : Gains terms key may u v) :
    Gains terms key may t v := by
  refine ⟨?_, ?_, fun hkeyed => h'.keyed (h.keyed hkeyed)⟩
  · intro k r hr
    obtain ⟨s, hs, hsterms⟩ := h.kept k r hr
    obtain ⟨q, hq, hqterms⟩ := h'.kept k s hs
    exact ⟨q, hq, hqterms.trans hsterms⟩
  · intro k q hq
    rcases h'.gained k q hq with ⟨s, hs, hqterms⟩ | ⟨hfree, hmay⟩
    · rw [hqterms]
      exact h.gained k s hs
    · refine Or.inr ⟨Bool.eq_false_iff.mpr fun hholds => ?_, hmay⟩
      rw [h.holdsKey hholds] at hfree
      cases hfree

theorem Gains.mono (h : Gains terms key may t u) (himp : forall x, may x -> may' x) :
    Gains terms key may' t u :=
  ⟨h.kept, fun k r' hr' => (h.gained k r' hr').imp_right (And.imp_right (himp _)), h.keyed⟩

end Gains

/-! ## Totals over related tables -/

section Totals

variable {ρ M : Type*} [AddCommMonoid M]

variable {t : Table ρ} {w : Nat -> ρ -> M}

theorem Rel.sumOf_eq {R : Nat -> ρ -> ρ -> Prop} {u : Table ρ} (h : t.Rel R u) {v : Nat -> ρ -> M}
    (hweight : forall i r s, R i r s -> v i r = w i s) :
    t.sumOf v = u.sumOf w := by
  unfold sumOf
  congr 1
  apply List.ext_getElem?
  intro i
  rw [List.getElem?_mapIdx, List.getElem?_mapIdx]
  have hi := h i
  unfold findUnique at hi
  cases hr : t.rows[i]? with
  | none =>
      rw [hr] at hi
      cases hs : u.rows[i]? with
      | none =>
          rfl
      | some s =>
          rw [hs] at hi
          cases hi
  | some r =>
      rw [hr] at hi
      cases hs : u.rows[i]? with
      | none =>
          rw [hs] at hi
          cases hi
      | some s =>
          rw [hs] at hi
          cases hi with
          | some hrs =>
              simp only [Option.map_some]
              rw [hweight i r s hrs]

theorem sumOf_zero (t : Table ρ) : t.sumOf (fun _ _ => (0 : M)) = 0 := by
  unfold sumOf
  apply List.sum_eq_zero
  intro m hm
  rw [List.mem_mapIdx] at hm
  obtain ⟨_, _, hm⟩ := hm
  exact hm.symm

theorem sumOf_add (t : Table ρ) (v w : Nat -> ρ -> M) :
    t.sumOf (fun i r => v i r + w i r) = t.sumOf v + t.sumOf w := by
  obtain ⟨rows⟩ := t
  unfold sumOf
  induction rows using List.reverseRecOn with
  | nil =>
      simp
  | append_singleton rows r ih =>
      simp only [List.mapIdx_append, List.sum_append, ih]
      simp only [List.mapIdx_cons, List.mapIdx_nil, List.sum_cons, List.sum_nil]
      abel

theorem sumOf_eq_single {i : Nat} {r : ρ} (hr : t.findUnique i = some r)
    (hzero : forall j s, j ≠ i -> w j s = 0) :
    t.sumOf w = w i r := by
  have h := sum_mapIdx_replace t.rows w (fun _ _ => 0) hr hzero
  have hall : (t.rows.mapIdx fun _ _ => (0 : M)).sum = 0 := sumOf_zero t
  rw [hall, add_zero, zero_add] at h
  exact h

theorem sumOf_of_single {i : Nat} {r : ρ} (hr : t.findUnique i = some r)
    (hzero : t.All fun j s => j ≠ i -> w j s = 0) :
    t.sumOf w = w i r := by
  have hcongr : t.sumOf w = t.sumOf fun j s => if j = i then w j s else 0 := by
    refine sumOf_congr fun j s hs => ?_
    dsimp only
    by_cases hj : j = i
    · rw [if_pos hj]
    · rw [if_neg hj]
      exact hzero j s hs hj
  rw [hcongr, sumOf_eq_single hr fun j s hj => if_neg hj, if_pos rfl]

theorem sumOf_of_zero (hzero : t.All fun i r => w i r = 0) :
    t.sumOf w = 0 := by
  rw [sumOf_congr (w := fun _ _ => 0) hzero]
  exact sumOf_zero t

end Totals

end Table

end Relational
