import Mathlib.Algebra.BigOperators.Group.List.Basic
import Mathlib.Tactic.Abel

/-!
# Relational tables

Tables of rows that are created and updated but never deleted.  The position
of a row is its primary key, so a key never dangles and never changes owner.
Queries and bulk writes are given by predicates on the key and the row.
-/

namespace Relational

/-- A table; row `i` is the row with primary key `i`. -/
structure Table (ρ : Type*) where
  rows : List ρ
deriving DecidableEq, Repr

namespace Table

variable {ρ : Type*}

def empty : Table ρ :=
  ⟨[]⟩

/-- Number of rows, which is also the key the next created row receives. -/
def size (t : Table ρ) : Nat :=
  t.rows.length

def findUnique (t : Table ρ) (i : Nat) : Option ρ :=
  t.rows[i]?

def create (t : Table ρ) (r : ρ) : Table ρ :=
  ⟨t.rows ++ [r]⟩

/-- Apply `f` to every row whose key and value satisfy `p`. -/
def updateMany (t : Table ρ) (p : Nat -> ρ -> Bool) (f : ρ -> ρ) : Table ρ :=
  ⟨t.rows.mapIdx fun i r => if p i r then f r else r⟩

def update (t : Table ρ) (i : Nat) (f : ρ -> ρ) : Table ρ :=
  t.updateMany (fun j _ => j == i) f

def entries (t : Table ρ) : List (Nat × ρ) :=
  t.rows.mapIdx Prod.mk

def findMany (t : Table ρ) (p : Nat -> ρ -> Bool) : List (Nat × ρ) :=
  t.entries.filter fun e => p e.1 e.2

def findFirst (t : Table ρ) (p : Nat -> ρ -> Bool) : Option (Nat × ρ) :=
  t.entries.find? fun e => p e.1 e.2

def any (t : Table ρ) (p : Nat -> ρ -> Bool) : Bool :=
  t.entries.any fun e => p e.1 e.2

def sumOf {M : Type*} [AddCommMonoid M] (t : Table ρ) (w : Nat -> ρ -> M) : M :=
  (t.rows.mapIdx w).sum

/-- Every row of the table satisfies `P`. -/
def All (t : Table ρ) (P : Nat -> ρ -> Prop) : Prop :=
  forall i r, t.findUnique i = some r -> P i r

/-! ## Reading after writing -/

@[simp] theorem findUnique_empty (i : Nat) :
    (empty : Table ρ).findUnique i = none := by
  simp [empty, findUnique]

variable {t : Table ρ} {i : Nat} {r : ρ} {f : ρ -> ρ} {p : Nat -> ρ -> Bool} {P : Nat -> ρ -> Prop}
  {same : ρ -> ρ -> Bool}

theorem lt_size_of_findUnique (h : t.findUnique i = some r) :
    i < t.size := by
  obtain ⟨hlt, _⟩ := List.getElem?_eq_some_iff.mp h
  exact hlt

theorem findUnique_eq_none_of_size_le (h : t.size <= i) :
    t.findUnique i = none :=
  List.getElem?_eq_none h

@[simp] theorem findUnique_size (t : Table ρ) :
    t.findUnique t.size = none :=
  findUnique_eq_none_of_size_le (Nat.le_refl _)

theorem findUnique_create (t : Table ρ) (r : ρ) (i : Nat) :
    (t.create r).findUnique i =
      if i = t.size then some r else t.findUnique i := by
  unfold create findUnique size
  by_cases h : i = t.rows.length
  · simp [h]
  · rcases Nat.lt_or_gt_of_ne h with hlt | hgt
    · simp [h, List.getElem?_append_left hlt]
    · have hout : (t.rows ++ [r]).length <= i := by
        rw [List.length_append, List.length_singleton]
        omega
      rw [if_neg h, List.getElem?_eq_none hout, List.getElem?_eq_none (Nat.le_of_lt hgt)]

@[simp] theorem findUnique_create_self (t : Table ρ) (r : ρ) :
    (t.create r).findUnique t.size = some r := by
  simp [findUnique_create]

theorem findUnique_create_of_some {s : ρ} (h : t.findUnique i = some r) :
    (t.create s).findUnique i = some r := by
  rw [findUnique_create, if_neg (Nat.ne_of_lt (lt_size_of_findUnique h)), h]

theorem findUnique_updateMany
    (t : Table ρ) (p : Nat -> ρ -> Bool) (f : ρ -> ρ) (i : Nat) :
    (t.updateMany p f).findUnique i =
      (t.findUnique i).map fun r => if p i r then f r else r := by
  simp [updateMany, findUnique]

theorem findUnique_update (t : Table ρ) (i j : Nat) (f : ρ -> ρ) :
    (t.update i f).findUnique j =
      if j = i then (t.findUnique j).map f else t.findUnique j := by
  rw [update, findUnique_updateMany]
  by_cases h : j = i <;> simp [h]

@[simp] theorem findUnique_update_self (t : Table ρ) (i : Nat) (f : ρ -> ρ) :
    (t.update i f).findUnique i = (t.findUnique i).map f := by
  simp [findUnique_update]

theorem findUnique_update_ne {j : Nat} (h : j ≠ i) :
    (t.update i f).findUnique j = t.findUnique j := by
  simp [findUnique_update, h]

theorem of_findUnique_update {j : Nat} {q : ρ} (h : (t.update i f).findUnique j = some q) :
    (j = i ∧ exists r, t.findUnique j = some r ∧ f r = q) ∨ j ≠ i ∧ t.findUnique j = some q := by
  rw [findUnique_update] at h
  split at h
  · next hj => exact Or.inl ⟨hj, Option.map_eq_some_iff.1 h⟩
  · next hj => exact Or.inr ⟨hj, h⟩

theorem of_findUnique_update_some {j : Nat} {q : ρ} (hr : t.findUnique i = some r)
    (h : (t.update i f).findUnique j = some q) :
    j = i ∧ f r = q ∨ j ≠ i ∧ t.findUnique j = some q := by
  rcases of_findUnique_update h with ⟨rfl, s, hs, hq⟩ | hold
  · obtain rfl := Option.some.inj (hr.symm.trans hs)
    exact Or.inl ⟨rfl, hq⟩
  · exact Or.inr hold

theorem of_findUnique_create {j : Nat} {q : ρ} (h : (t.create r).findUnique j = some q) :
    j = t.size ∧ r = q ∨ j ≠ t.size ∧ t.findUnique j = some q := by
  rw [findUnique_create] at h
  split at h
  · next hj => exact Or.inl ⟨hj, Option.some.inj h⟩
  · next hj => exact Or.inr ⟨hj, h⟩

@[simp] theorem size_create (t : Table ρ) (r : ρ) :
    (t.create r).size = t.size + 1 := by
  simp [create, size]

@[simp] theorem size_updateMany
    (t : Table ρ) (p : Nat -> ρ -> Bool) (f : ρ -> ρ) :
    (t.updateMany p f).size = t.size := by
  simp [updateMany, size]

@[simp] theorem size_update (t : Table ρ) (i : Nat) (f : ρ -> ρ) :
    (t.update i f).size = t.size := by
  simp [update]

theorem ext_findUnique {u : Table ρ} (h : forall i, t.findUnique i = u.findUnique i) :
    t = u := by
  cases t with
  | mk xs =>
      cases u with
      | mk ys =>
          have hrows : xs = ys := List.ext_getElem? h
          rw [hrows]

theorem updateMany_eq_self_iff
    (t : Table ρ) (p : Nat -> ρ -> Bool) (f : ρ -> ρ) :
    t.updateMany p f = t ↔ t.All fun i r => p i r = true -> f r = r := by
  constructor
  · intro h i r hr hp
    have hread := findUnique_updateMany t p f i
    rw [h, hr] at hread
    simpa [hp] using hread.symm
  · intro h
    apply ext_findUnique
    intro i
    rw [findUnique_updateMany]
    cases hr : t.findUnique i with
    | none =>
        rfl
    | some r =>
        by_cases hp : p i r = true
        · simp [hp, h i r hr hp]
        · simp [hp]

theorem update_eq_self_iff (hr : t.findUnique i = some r) (f : ρ -> ρ) :
    t.update i f = t ↔ f r = r := by
  rw [update, updateMany_eq_self_iff]
  constructor
  · intro h
    exact h i r hr (by simp)
  · intro h j s hs hj
    obtain rfl : j = i := by simpa using hj
    obtain rfl : r = s := by simpa [hr] using hs
    exact h

theorem update_eq_self_of_findUnique_eq_none (h : t.findUnique i = none) (f : ρ -> ρ) :
    t.update i f = t := by
  rw [update, updateMany_eq_self_iff]
  intro j s hs hj
  obtain rfl : j = i := by simpa using hj
  simp [h] at hs

theorem update_congr {g : ρ -> ρ} (h : forall r, t.findUnique i = some r -> f r = g r) :
    t.update i f = t.update i g := by
  apply ext_findUnique
  intro j
  rw [findUnique_update, findUnique_update]
  by_cases hj : j = i
  · subst hj
    cases hr : t.findUnique j with
    | none =>
        rfl
    | some r =>
        simp [h r hr]
  · simp [hj]

theorem update_update (t : Table ρ) (i : Nat) (f g : ρ -> ρ) :
    (t.update i f).update i g = t.update i fun r => g (f r) := by
  apply ext_findUnique
  intro j
  rw [findUnique_update, findUnique_update, findUnique_update]
  by_cases hj : j = i
  · simp [hj, Option.map_map, Function.comp_def]
  · simp [hj]

theorem create_ne_self (t : Table ρ) (r : ρ) :
    t.create r ≠ t := by
  intro h
  have hsize := congrArg size h
  simp at hsize

/-! ## Queries -/

theorem mem_entries :
    (i, r) ∈ t.entries ↔ t.findUnique i = some r := by
  unfold entries findUnique
  rw [List.mem_mapIdx]
  constructor
  · rintro ⟨j, hj, hpair⟩
    obtain ⟨rfl, rfl⟩ := Prod.mk.inj hpair
    exact List.getElem?_eq_getElem hj
  · intro h
    obtain ⟨hlt, hget⟩ := List.getElem?_eq_some_iff.mp h
    exact ⟨i, hlt, by rw [hget]⟩

theorem mem_findMany :
    (i, r) ∈ t.findMany p ↔ t.findUnique i = some r ∧ p i r = true := by
  simp [findMany, mem_entries]

theorem findFirst_eq_some (h : t.findFirst p = some (i, r)) :
    t.findUnique i = some r ∧ p i r = true :=
  ⟨mem_entries.mp (List.mem_of_find?_eq_some h),
    List.find?_some (p := fun e : Nat × ρ => p e.1 e.2) h⟩

theorem findFirst_eq_some_iff :
    t.findFirst p = some (i, r) ↔
      t.findUnique i = some r ∧ p i r = true ∧
        forall j s, j < i -> t.findUnique j = some s -> p j s = false := by
  have hentry : forall j (hj : j < t.entries.length),
      t.findUnique j = some t.entries[j].2 ∧ t.entries[j].1 = j := by
    intro j hj
    simp only [entries, List.getElem_mapIdx, and_true]
    exact List.getElem?_eq_getElem (by simpa [entries] using hj)
  unfold findFirst
  rw [List.find?_eq_some_iff_getElem]
  constructor
  · rintro ⟨hp, k, hk, hget, hbefore⟩
    obtain ⟨hread, hkey⟩ := hentry k hk
    rw [hget] at hread hkey
    subst hkey
    refine ⟨hread, hp, ?_⟩
    intro j s hj hs
    have hlt : j < t.entries.length := Nat.lt_trans hj hk
    obtain ⟨hreadj, hkeyj⟩ := hentry j hlt
    have hnot := hbefore j hj
    rw [hs, Option.some.injEq] at hreadj
    rw [hkeyj, ← hreadj] at hnot
    simpa using hnot
  · rintro ⟨hread, hp, hbefore⟩
    have hk : i < t.entries.length := by
      simpa [entries, size] using lt_size_of_findUnique hread
    obtain ⟨hreadi, hkeyi⟩ := hentry i hk
    rw [hread, Option.some.injEq] at hreadi
    refine ⟨hp, i, hk, Prod.ext hkeyi hreadi.symm, ?_⟩
    intro j hj
    have hlt : j < t.entries.length := Nat.lt_trans hj hk
    obtain ⟨hreadj, hkeyj⟩ := hentry j hlt
    have hnot := hbefore j _ hj hreadj
    rw [hkeyj, hnot]
    rfl

theorem findFirst_eq_none_iff :
    t.findFirst p = none ↔ t.All fun i r => p i r = false := by
  unfold findFirst All
  rw [List.find?_eq_none]
  constructor
  · intro h i r hr
    simpa using h (i, r) (mem_entries.mpr hr)
  · intro h e he
    simpa using h e.1 e.2 (mem_entries.mp he)

theorem findFirst_update (hp : forall r, p i (f r) = p i r) :
    (t.update i f).findFirst p =
      (t.findFirst p).map fun e => if e.1 = i then (e.1, f e.2) else e := by
  have hread : forall j s, (t.update i f).findUnique j = some s ->
      exists r, t.findUnique j = some r ∧ s = (if j = i then f r else r) ∧ p j s = p j r := by
    intro j s hs
    rw [findUnique_update] at hs
    by_cases hj : j = i
    · rw [if_pos hj] at hs
      obtain ⟨r, hr, rfl⟩ := Option.map_eq_some_iff.mp hs
      exact ⟨r, hr, by rw [if_pos hj], by rw [hj, hp]⟩
    · rw [if_neg hj] at hs
      exact ⟨s, hs, by rw [if_neg hj], rfl⟩
  cases hfind : t.findFirst p with
  | none =>
      rw [Option.map_none, findFirst_eq_none_iff]
      intro j s hs
      obtain ⟨r, hr, -, hsame⟩ := hread j s hs
      rw [hsame]
      exact findFirst_eq_none_iff.mp hfind j r hr
  | some e =>
      obtain ⟨k, r⟩ := e
      obtain ⟨hr, hpr, hbefore⟩ := findFirst_eq_some_iff.mp hfind
      have hwritten : (t.update i f).findUnique k = some (if k = i then f r else r) := by
        rw [findUnique_update, hr]
        split <;> rfl
      have hgoal : (t.update i f).findFirst p = some (k, if k = i then f r else r) := by
        rw [findFirst_eq_some_iff]
        obtain ⟨r', hr', -, hsame⟩ := hread k _ hwritten
        have hrr : r' = r := Option.some.inj (hr'.symm.trans hr)
        refine ⟨hwritten, by rw [hsame, hrr, hpr], ?_⟩
        intro j s hj hs
        obtain ⟨q, hq, -, hsameq⟩ := hread j s hs
        rw [hsameq]
        exact hbefore j q hj hq
      rw [hgoal, Option.map_some]
      split <;> rfl

theorem any_eq_true_iff :
    t.any p = true ↔ exists i r, t.findUnique i = some r ∧ p i r = true := by
  unfold any
  rw [List.any_eq_true]
  constructor
  · rintro ⟨e, he, hp⟩
    exact ⟨e.1, e.2, mem_entries.mp he, hp⟩
  · rintro ⟨i, r, hr, hp⟩
    exact ⟨(i, r), mem_entries.mpr hr, hp⟩

theorem any_eq_false_iff :
    t.any p = false ↔ t.All fun i r => p i r = false := by
  rw [Bool.eq_false_iff, ne_eq, any_eq_true_iff]
  constructor
  · intro h i r hr
    by_contra hp
    exact h ⟨i, r, hr, by simpa using hp⟩
  · rintro h ⟨i, r, hr, hp⟩
    simp [h i r hr] at hp

/-! ## Updating the rows of a query one by one -/

/-- One `update` after the other, for each key of a list. -/
def updateEach (t : Table ρ) (keys : List Nat) (f : ρ -> ρ) : Table ρ :=
  keys.foldl (fun t i => t.update i f) t

theorem findUnique_updateEach {keys : List Nat} (hnodup : keys.Nodup)
    (t : Table ρ) (f : ρ -> ρ) (j : Nat) :
    (t.updateEach keys f).findUnique j =
      if j ∈ keys then (t.findUnique j).map f else t.findUnique j := by
  induction keys generalizing t with
  | nil =>
      simp [updateEach]
  | cons i keys ih =>
      obtain ⟨hi, hkeys⟩ := List.nodup_cons.mp hnodup
      have hrest := ih hkeys (t.update i f)
      unfold updateEach at hrest ⊢
      rw [List.foldl_cons, hrest, findUnique_update]
      by_cases hj : j = i
      · subst hj
        simp [hi]
      · simp [hj]

theorem nodup_keys_findMany (t : Table ρ) (p : Nat -> ρ -> Bool) :
    ((t.findMany p).map Prod.fst).Nodup := by
  have hkeys : t.entries.map Prod.fst = List.range t.rows.length := by
    apply List.ext_getElem?
    intro i
    unfold entries
    rw [List.getElem?_map, List.getElem?_mapIdx]
    by_cases hi : i < t.rows.length
    · simp [hi]
    · simp [hi]
  have hsub : ((t.findMany p).map Prod.fst).Sublist (t.entries.map Prod.fst) :=
    List.filter_sublist.map Prod.fst
  rw [hkeys] at hsub
  exact hsub.nodup List.nodup_range

theorem mem_keys_findMany :
    i ∈ (t.findMany p).map Prod.fst ↔
      exists r, t.findUnique i = some r ∧ p i r = true := by
  rw [List.mem_map]
  constructor
  · rintro ⟨⟨j, r⟩, hmem, rfl⟩
    exact ⟨r, mem_findMany.mp hmem⟩
  · rintro ⟨r, hr⟩
    exact ⟨(i, r), mem_findMany.mpr hr, rfl⟩

theorem updateEach_findMany (t : Table ρ) (p : Nat -> ρ -> Bool) (f : ρ -> ρ) :
    t.updateEach ((t.findMany p).map Prod.fst) f = t.updateMany p f := by
  apply ext_findUnique
  intro j
  rw [findUnique_updateEach (nodup_keys_findMany t p), findUnique_updateMany]
  cases hr : t.findUnique j with
  | none =>
      simp
  | some r =>
      by_cases hp : p j r = true
      · have hmem : j ∈ (t.findMany p).map Prod.fst := mem_keys_findMany.mpr ⟨r, hr, hp⟩
        simp [hmem, hp]
      · have hmem : ¬ j ∈ (t.findMany p).map Prod.fst := by
          intro hmem
          obtain ⟨s, hs, hps⟩ := mem_keys_findMany.mp hmem
          obtain rfl : r = s := by simpa [hr] using hs
          exact hp hps
        rw [if_neg hmem]
        simp [hp]

/-! ## Properties of every row -/

theorem All.create (h : t.All P) (hr : P t.size r) :
    (t.create r).All P := by
  intro i s hs
  rw [findUnique_create] at hs
  by_cases hi : i = t.size
  · obtain rfl : r = s := by simpa [hi] using hs
    exact hi ▸ hr
  · exact h i s (by simpa [hi] using hs)

theorem All.updateMany (h : t.All P)
    (hf : forall i r, t.findUnique i = some r -> p i r = true -> P i (f r)) :
    (t.updateMany p f).All P := by
  intro i s hs
  rw [findUnique_updateMany] at hs
  obtain ⟨r, hr, rfl⟩ := Option.map_eq_some_iff.mp hs
  by_cases hp : p i r = true
  · simpa [hp] using hf i r hr hp
  · simpa [hp] using h i r hr

theorem All.update (h : t.All P) (hf : forall r, t.findUnique i = some r -> P i (f r)) :
    (t.update i f).All P := by
  apply h.updateMany
  intro j r hr hj
  obtain rfl : j = i := by simpa using hj
  exact hf r hr

theorem All.mono {Q : Nat -> ρ -> Prop} (h : t.All P) (hPQ : forall i r, P i r -> Q i r) :
    t.All Q :=
  fun i r hr => hPQ i r (h i r hr)

@[simp] theorem all_empty (P : Nat -> ρ -> Prop) :
    (empty : Table ρ).All P := by
  intro i r h
  simp at h

/-! ## Unique indexes -/

def Unique (t : Table ρ) (same : ρ -> ρ -> Bool) : Prop :=
  forall i j r s, t.findUnique i = some r -> t.findUnique j = some s -> i ≠ j ->
    same r s = false

@[simp] theorem unique_empty (same : ρ -> ρ -> Bool) :
    (empty : Table ρ).Unique same := by
  intro i j r s hr
  simp at hr

theorem Unique.update {t : Table ρ} {same : ρ -> ρ -> Bool} {i : Nat} {f : ρ -> ρ}
    (h : t.Unique same) (hsymm : forall r s, same r s = same s r)
    (hf : forall r j s, t.findUnique i = some r -> t.findUnique j = some s -> j ≠ i ->
      same (f r) s = false) :
    (t.update i f).Unique same := by
  intro j k r s hr hs hjk
  rw [findUnique_update] at hr hs
  by_cases hj : j = i
  · have hk : k ≠ i := fun hk => hjk (hj.trans hk.symm)
    rw [if_pos hj] at hr
    rw [if_neg hk] at hs
    obtain ⟨r', hr', rfl⟩ := Option.map_eq_some_iff.mp hr
    exact hf r' k s (hj ▸ hr') hs hk
  · rw [if_neg hj] at hr
    by_cases hk : k = i
    · rw [if_pos hk] at hs
      obtain ⟨s', hs', rfl⟩ := Option.map_eq_some_iff.mp hs
      rw [hsymm]
      exact hf s' j r (hk ▸ hs') hr hj
    · rw [if_neg hk] at hs
      exact h j k r s hr hs hjk

theorem Unique.updateMany (h : t.Unique same)
    (hleft : forall r s, same (f r) s = true -> same r s = true)
    (hright : forall r s, same r (f s) = true -> same r s = true) :
    (t.updateMany p f).Unique same := by
  intro j k r s hr hs hjk
  rw [findUnique_updateMany] at hr hs
  obtain ⟨r', hr', rfl⟩ := Option.map_eq_some_iff.mp hr
  obtain ⟨s', hs', rfl⟩ := Option.map_eq_some_iff.mp hs
  have hsame := h j k r' s' hr' hs' hjk
  by_contra hmeet
  rw [Bool.not_eq_false] at hmeet
  have hbefore : same r' s' = true := by
    split at hmeet
    · have hhalf := hleft _ _ hmeet
      split at hhalf
      · exact hright _ _ hhalf
      · exact hhalf
    · split at hmeet
      · exact hright _ _ hmeet
      · exact hmeet
  rw [hsame] at hbefore
  cases hbefore

theorem Unique.create (h : t.Unique same) (hsymm : forall r s, same r s = same s r)
    (hr : forall i s, t.findUnique i = some s -> same r s = false) :
    (t.create r).Unique same := by
  intro j k q s hq hs hjk
  rw [findUnique_create] at hq hs
  by_cases hj : j = t.size
  · have hk : k ≠ t.size := fun hk => hjk (hj.trans hk.symm)
    rw [if_pos hj, Option.some.injEq] at hq
    rw [if_neg hk] at hs
    exact hq ▸ hr k s hs
  · rw [if_neg hj] at hq
    by_cases hk : k = t.size
    · rw [if_pos hk, Option.some.injEq] at hs
      rw [hsymm, ← hs]
      exact hr j q hq
    · rw [if_neg hk] at hs
      exact h j k q s hq hs hjk

/-! ## Tables with related rows -/

section Related

variable {R S : Nat -> ρ -> ρ -> Prop} {t u v : Table ρ}

/-- The tables have the same keys, and the rows under each key are related. -/
def Rel (t : Table ρ) (R : Nat -> ρ -> ρ -> Prop) (u : Table ρ) : Prop :=
  forall i, Option.Rel (R i) (t.findUnique i) (u.findUnique i)

theorem Rel.refl (hR : forall i r, R i r r) (t : Table ρ) : t.Rel R t := by
  intro i
  cases t.findUnique i with
  | none =>
      exact .none
  | some r =>
      exact .some (hR i r)

theorem Rel.of_left (h : t.Rel R u) {i : Nat} {r : ρ} (hr : t.findUnique i = some r) :
    exists s, u.findUnique i = some s ∧ R i r s := by
  have hi := h i
  rw [hr] at hi
  cases hs : u.findUnique i with
  | none =>
      rw [hs] at hi
      cases hi
  | some s =>
      rw [hs] at hi
      cases hi with
      | some hrs => exact ⟨s, rfl, hrs⟩

theorem Rel.of_right (h : t.Rel R u) {i : Nat} {s : ρ} (hs : u.findUnique i = some s) :
    exists r, t.findUnique i = some r ∧ R i r s := by
  have hi := h i
  rw [hs] at hi
  cases hr : t.findUnique i with
  | none =>
      rw [hr] at hi
      cases hi
  | some r =>
      rw [hr] at hi
      cases hi with
      | some hrs => exact ⟨r, rfl, hrs⟩

theorem Rel.none_right (h : t.Rel R u) {i : Nat} (hr : t.findUnique i = none) :
    u.findUnique i = none := by
  cases hs : u.findUnique i with
  | none =>
      rfl
  | some s =>
      obtain ⟨r, hr', -⟩ := h.of_right hs
      rw [hr] at hr'
      cases hr'

theorem Rel.trans (hR : forall i r s q, R i r s -> R i s q -> R i r q) (h : t.Rel R u)
    (h' : u.Rel R v) :
    t.Rel R v := by
  intro i
  cases hr : t.findUnique i with
  | none =>
      rw [h'.none_right (h.none_right hr)]
      exact .none
  | some r =>
      obtain ⟨s, hs, hrs⟩ := h.of_left hr
      obtain ⟨q, hq, hsq⟩ := h'.of_left hs
      rw [hq]
      exact .some (hR i r s q hrs hsq)

theorem Rel.mono (h : t.Rel R u) (hRS : forall i r s, R i r s -> S i r s) : t.Rel S u := by
  intro i
  cases hr : t.findUnique i with
  | none =>
      rw [h.none_right hr]
      exact .none
  | some r =>
      obtain ⟨s, hs, hrs⟩ := h.of_left hr
      rw [hs]
      exact .some (hRS i r s hrs)

variable {p : Nat -> ρ -> Bool}

theorem rel_updateMany {f : ρ -> ρ} (hR : forall i r, R i r r)
    (hf : forall i r, t.findUnique i = some r -> p i r = true -> R i r (f r)) :
    t.Rel R (t.updateMany p f) := by
  intro i
  rw [findUnique_updateMany]
  cases hr : t.findUnique i with
  | none =>
      exact .none
  | some r =>
      rw [Option.map_some]
      by_cases hp : p i r = true
      · rw [if_pos hp]
        exact .some (hf i r hr hp)
      · rw [if_neg hp]
        exact .some (hR i r)

theorem rel_update {i : Nat} {f : ρ -> ρ} (hR : forall i r, R i r r)
    (hf : forall r, t.findUnique i = some r -> R i r (f r)) :
    t.Rel R (t.update i f) := by
  apply rel_updateMany hR
  intro j r hr hj
  rw [eq_of_beq hj] at hr ⊢
  exact hf r hr

theorem Rel.findFirst (h : t.Rel R u) (hp : forall i r s, R i r s -> p i s = p i r) :
    Option.Rel (fun e e' => e.1 = e'.1 ∧ R e.1 e.2 e'.2) (t.findFirst p) (u.findFirst p) := by
  cases hfind : t.findFirst p with
  | none =>
      have hnone : u.findFirst p = none := by
        rw [findFirst_eq_none_iff]
        intro i s hs
        obtain ⟨r, hr, hrs⟩ := h.of_right hs
        rw [hp i r s hrs]
        exact findFirst_eq_none_iff.mp hfind i r hr
      rw [hnone]
      exact .none
  | some e =>
      obtain ⟨i, r⟩ := e
      obtain ⟨hr, hpr, hbefore⟩ := findFirst_eq_some_iff.mp hfind
      obtain ⟨s, hs, hrs⟩ := h.of_left hr
      have hfound : u.findFirst p = some (i, s) := by
        rw [findFirst_eq_some_iff]
        refine ⟨hs, by rw [hp i r s hrs, hpr], ?_⟩
        intro j q hj hq
        obtain ⟨r', hr', hrq⟩ := h.of_right hq
        rw [hp j r' q hrq]
        exact hbefore j r' hj hr'
      rw [hfound]
      exact .some ⟨rfl, hrs⟩

theorem Rel.any (h : t.Rel R u) (hp : forall i r s, R i r s -> p i s = p i r) :
    u.any p = t.any p := by
  rw [Bool.eq_iff_iff, any_eq_true_iff, any_eq_true_iff]
  constructor
  · rintro ⟨i, s, hs, hps⟩
    obtain ⟨r, hr, hrs⟩ := h.of_right hs
    exact ⟨i, r, hr, by rw [← hp i r s hrs, hps]⟩
  · rintro ⟨i, r, hr, hpr⟩
    obtain ⟨s, hs, hrs⟩ := h.of_left hr
    exact ⟨i, s, hs, by rw [hp i r s hrs, hpr]⟩

end Related

/-! ## Totals -/

section Totals

variable {M : Type*} [AddCommMonoid M]

@[simp] theorem sumOf_empty (w : Nat -> ρ -> M) :
    (empty : Table ρ).sumOf w = 0 := by
  simp [empty, sumOf]

@[simp] theorem sumOf_create (t : Table ρ) (r : ρ) (w : Nat -> ρ -> M) :
    (t.create r).sumOf w = t.sumOf w + w t.size r := by
  simp [create, sumOf, size, List.mapIdx_append]

theorem sumOf_congr {t : Table ρ} {v w : Nat -> ρ -> M}
    (h : t.All fun i r => v i r = w i r) :
    t.sumOf v = t.sumOf w := by
  unfold sumOf
  congr 1
  apply List.ext_getElem?
  intro i
  rw [List.getElem?_mapIdx, List.getElem?_mapIdx]
  cases hr : t.rows[i]? with
  | none =>
      rfl
  | some r =>
      simp [h i r hr]

theorem sumOf_updateMany
    (t : Table ρ) (p : Nat -> ρ -> Bool) (f : ρ -> ρ) (w : Nat -> ρ -> M) :
    (t.updateMany p f).sumOf w =
      t.sumOf fun i r => w i (if p i r then f r else r) := by
  unfold sumOf updateMany
  congr 1
  apply List.ext_getElem?
  intro i
  rw [List.getElem?_mapIdx, List.getElem?_mapIdx, List.getElem?_mapIdx,
    Option.map_map]
  rfl

theorem sum_mapIdx_replace
    (xs : List ρ) (v w : Nat -> ρ -> M) {i : Nat} {r : ρ}
    (hr : xs[i]? = some r)
    (hne : forall j s, j ≠ i -> v j s = w j s) :
    (xs.mapIdx v).sum + w i r = (xs.mapIdx w).sum + v i r := by
  induction xs generalizing v w i with
  | nil =>
      simp at hr
  | cons x xs ih =>
      rw [List.mapIdx_cons, List.mapIdx_cons, List.sum_cons, List.sum_cons]
      cases i with
      | zero =>
          obtain rfl : x = r := by simpa using hr
          have htail : xs.mapIdx (fun j => v (j + 1)) =
              xs.mapIdx (fun j => w (j + 1)) := by
            congr 1
            funext j s
            exact hne (j + 1) s (by omega)
          rw [htail]
          abel
      | succ i =>
          have hrest := ih (fun j => v (j + 1)) (fun j => w (j + 1))
            (i := i) (by simpa using hr)
            (fun j s hj => hne (j + 1) s (by omega))
          have hhead : v 0 x = w 0 x := hne 0 x (by omega)
          rw [hhead]
          calc
            w 0 x + (xs.mapIdx fun j => v (j + 1)).sum + w (i + 1) r =
                w 0 x + ((xs.mapIdx fun j => v (j + 1)).sum + w (i + 1) r) := by
              abel
            _ = w 0 x + ((xs.mapIdx fun j => w (j + 1)).sum + v (i + 1) r) := by
              rw [hrest]
            _ = w 0 x + (xs.mapIdx fun j => w (j + 1)).sum + v (i + 1) r := by
              abel

theorem sumOf_update
    {t : Table ρ} {i : Nat} {r : ρ} (hr : t.findUnique i = some r)
    (f : ρ -> ρ) (w : Nat -> ρ -> M) :
    (t.update i f).sumOf w + w i r = t.sumOf w + w i (f r) := by
  rw [update, sumOf_updateMany]
  have h := sum_mapIdx_replace t.rows
    (fun j s => w j (if (j == i) = true then f s else s)) w hr
    (fun j s hj => by simp [hj])
  simpa [sumOf] using h

end Totals

end Table

end Relational
