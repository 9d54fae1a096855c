import Mathlib.Data.Option.Basic

/-!
# Exclusive resources

Holders take resources and give them back.  A state is lawful if no resource has
two holders and none is on offer while it is held.  The moves that keep a state
lawful also return every resource that loses its holder.
-/

namespace Relational

variable {κ ρ : Type*}

/-- Who holds which resource, which resources are on offer and which are in use. -/
structure Holdings (κ ρ : Type*) where
  held : κ -> Option ρ
  free : ρ -> Prop
  busy : ρ -> Prop

namespace Holdings

def IsIdle (s : Holdings κ ρ) (r : ρ) : Prop :=
  forall i, s.held i ≠ some r

structure Lawful (s : Holdings κ ρ) : Prop where
  exclusive : forall i j r, s.held i = some r -> s.held j = some r -> i = j
  occupied : forall i r, s.held i = some r -> ¬ s.free r

def Returned (s s' : Holdings κ ρ) : Prop :=
  forall i r, s.held i = some r -> s.busy r -> s'.IsIdle r -> s'.free r

def Tidy (s : Holdings κ ρ) (r : ρ) : Prop :=
  (exists i, s.held i = some r) ∧ s.busy r ∨ s.IsIdle r ∧ s.free r

/-- The second state is lawful, and what was tidy still is. -/
structure Keeps (s s' : Holdings κ ρ) : Prop where
  lawful : s'.Lawful
  tidy : forall r, s.Tidy r -> s'.Tidy r

variable {s s' s'' : Holdings κ ρ}

theorem Keeps.trans (h : s.Keeps s') (h' : s'.Keeps s'') : s.Keeps s'' :=
  ⟨h'.lawful, fun r hr => h'.tidy r (h.tidy r hr)⟩

theorem Keeps.refl (h : s.Lawful) : s.Keeps s :=
  ⟨h, fun _ => id⟩

theorem Keeps.returned (h : s.Keeps s') : s.Returned s' := by
  intro i r hi hbusy hidle
  rcases h.tidy r (Or.inl ⟨⟨i, hi⟩, hbusy⟩) with ⟨⟨j, hj⟩, -⟩ | ⟨-, hfree⟩
  · exact absurd hj (hidle j)
  · exact hfree

theorem Returned.of_held (h : forall i r, s.held i = some r -> exists j, s'.held j = some r) :
    s.Returned s' := by
  intro i r hi _ hidle
  obtain ⟨j, hj⟩ := h i r hi
  exact absurd hj (hidle j)

theorem Lawful.mono (h : s.Lawful) (hheld : s'.held = s.held)
    (hfree : forall r, s'.free r -> s.free r) :
    s'.Lawful :=
  ⟨fun i j r hi hj => h.exclusive i j r (hheld ▸ hi) (hheld ▸ hj),
    fun i r hi hr => h.occupied i r (hheld ▸ hi) (hfree r hr)⟩

/-! ## Moves -/

theorem Lawful.drop (h : s.Lawful) (hfree : forall r, s'.free r ↔ s.free r)
    (hbusy : forall r, s'.busy r ↔ s.busy r)
    (hheld : forall i, s'.held i = s.held i ∨
      s'.held i = none ∧ forall r, s.held i = some r -> ¬ s.busy r) :
    s.Keeps s' := by
  have hback : forall i r, s'.held i = some r -> s.held i = some r := by
    intro i r hi
    rcases hheld i with hsame | ⟨hnone, -⟩
    · exact hsame ▸ hi
    · rw [hnone] at hi
      cases hi
  refine ⟨⟨fun i j r hi hj => h.exclusive i j r (hback i r hi) (hback j r hj),
    fun i r hi hr => h.occupied i r (hback i r hi) ((hfree r).1 hr)⟩, fun r hr => ?_⟩
  rcases hr with ⟨⟨i, hi⟩, hr⟩ | ⟨hidle, hr⟩
  · left
    refine ⟨⟨i, ?_⟩, (hbusy r).2 hr⟩
    rcases hheld i with hsame | ⟨-, hnot⟩
    · exact hsame.trans hi
    · exact absurd hr (hnot r hi)
  · right
    exact ⟨fun i hi => hidle i (hback i r hi), (hfree r).2 hr⟩

theorem Lawful.same (h : s.Lawful) (hheld : s'.held = s.held)
    (hfree : forall r, s'.free r ↔ s.free r) (hbusy : forall r, s'.busy r ↔ s.busy r) :
    s.Keeps s' :=
  h.drop hfree hbusy fun i => Or.inl (congrFun hheld i)

section Gain

variable {k : κ} {q : ρ}

/-- All but the resource that `k` comes by are held as before. -/
theorem held_of_gain (hheld : s'.held k = some q)
    (hothers : forall i, i ≠ k -> s'.held i = s.held i) {i : κ} {r : ρ} (hr : r ≠ q)
    (hi : s'.held i = some r) :
    s.held i = some r := by
  by_cases hik : i = k
  · subst hik
    exact absurd (Option.some.inj (hi.symm.trans hheld)) hr
  · exact hothers i hik ▸ hi

theorem Lawful.gain (h : s.Lawful) (hheld : s'.held k = some q)
    (hothers : forall i, i ≠ k -> s'.held i = s.held i)
    (halone : forall i, i ≠ k -> s.held i ≠ some q) (hnotfree : ¬ s'.free q)
    (hfree : forall r, r ≠ q -> s'.free r -> s.free r) :
    s'.Lawful := by
  have howner : forall i, s'.held i = some q -> i = k := by
    intro i hi
    by_contra hik
    exact halone i hik (hothers i hik ▸ hi)
  refine ⟨fun i j r hi hj => ?_, fun i r hi hr => ?_⟩
  · by_cases hrq : r = q
    · subst hrq
      exact (howner i hi).trans (howner j hj).symm
    · exact h.exclusive i j r (held_of_gain hheld hothers hrq hi)
        (held_of_gain hheld hothers hrq hj)
  · by_cases hrq : r = q
    · subst hrq
      exact hnotfree hr
    · exact h.occupied i r (held_of_gain hheld hothers hrq hi) (hfree r hrq hr)

/-- A holder keeps what it held beside the resource that `k` comes by. -/
theorem held_gain (hheld : s'.held k = some q) (hothers : forall i, i ≠ k -> s'.held i = s.held i)
    (hbefore : s.held k = none ∨ s.held k = some q) {i : κ} {r : ρ} (hi : s.held i = some r) :
    s'.held i = some r := by
  by_cases hik : i = k
  · subst hik
    rcases hbefore with hnone | hsome
    · rw [hnone] at hi
      cases hi
    · exact hheld.trans (hsome.symm.trans hi)
  · exact (hothers i hik).trans hi

theorem Lawful.hold (h : s.Lawful) (hheld : s'.held k = some q)
    (hothers : forall i, i ≠ k -> s'.held i = s.held i)
    (hbefore : s.held k = none ∨ s.held k = some q)
    (halone : forall i, i ≠ k -> s.held i ≠ some q) (hnotfree : ¬ s.free q)
    (hfree : forall r, s'.free r ↔ s.free r) (hbusy : forall r, s'.busy r ↔ s.busy r) :
    s.Keeps s' := by
  refine ⟨h.gain hheld hothers halone (fun hq => hnotfree ((hfree q).1 hq))
    fun r _ => (hfree r).1, fun r hr => ?_⟩
  rcases hr with ⟨⟨i, hi⟩, hr⟩ | ⟨hidle, hr⟩
  · exact Or.inl ⟨⟨i, held_gain hheld hothers hbefore hi⟩, (hbusy r).2 hr⟩
  · by_cases hrq : r = q
    · subst hrq
      exact absurd hr hnotfree
    · exact Or.inr ⟨fun i hi => hidle i (held_of_gain hheld hothers hrq hi), (hfree r).2 hr⟩

end Gain

/-- A holder ends, and the resource of its name is on offer if it is in use. -/
theorem Lawful.release (h : s.Lawful) {k : κ} {q : Option ρ} (hheld : s'.held k = none)
    (hothers : forall i, i ≠ k -> s'.held i = s.held i)
    (hbefore : forall r, s.held k = some r -> q = some r)
    (halone : forall i r, i ≠ k -> s.held i = some r -> q = some r -> ¬ s.busy r)
    (hfree : forall r, s'.free r ↔ s.free r ∨ q = some r ∧ s.busy r)
    (hbusy : forall r, s'.busy r ↔ s.busy r ∧ q ≠ some r) :
    s.Keeps s' := by
  have hback : forall i r, s'.held i = some r -> i ≠ k ∧ s.held i = some r := by
    intro i r hi
    have hik : i ≠ k := by
      rintro rfl
      rw [hheld] at hi
      cases hi
    exact ⟨hik, hothers i hik ▸ hi⟩
  refine ⟨⟨fun i j r hi hj => h.exclusive i j r (hback i r hi).2 (hback j r hj).2,
    fun i r hi hr => ?_⟩, fun r hr => ?_⟩
  · obtain ⟨hik, hi⟩ := hback i r hi
    rcases (hfree r).1 hr with hr | ⟨hq, hr⟩
    · exact h.occupied i r hi hr
    · exact halone i r hik hi hq hr
  · rcases hr with ⟨⟨i, hi⟩, hr⟩ | ⟨hidle, hr⟩
    · by_cases hq : q = some r
      · right
        refine ⟨fun j hj => ?_, (hfree r).2 (Or.inr ⟨hq, hr⟩)⟩
        obtain ⟨hjk, hj⟩ := hback j r hj
        exact halone j r hjk hj hq hr
      · left
        refine ⟨⟨i, ?_⟩, (hbusy r).2 ⟨hr, hq⟩⟩
        have hik : i ≠ k := by
          rintro rfl
          exact hq (hbefore r hi)
        exact (hothers i hik).trans hi
    · right
      exact ⟨fun i hi => hidle i (hback i r hi).2, (hfree r).2 (Or.inl hr)⟩

end Holdings

end Relational
