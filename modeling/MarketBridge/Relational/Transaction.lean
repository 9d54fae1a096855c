import MarketBridge.Relational.Table

/-!
# Transactions and runs

A transaction either fails, and then leaves the database as it was, or commits
a new database.  A run is a sequence of transactions; the rules below carry a
property of one step to every state a run reaches.
-/

namespace Relational

universe u v

variable {σ α β : Type u} {ε : Type v}

theorem bind_eq_ok {x : Except ε α} {f : α -> Except ε β} {b : β} :
    (x >>= f) = .ok b ↔ exists a, x = .ok a ∧ f a = .ok b := by
  cases x with
  | error e =>
      simp [bind, Except.bind]
  | ok a =>
      simp [bind, Except.bind]

@[simp] theorem ok_bind (a : α) (f : α -> Except ε β) :
    ((Except.ok a : Except ε α) >>= f) = f a :=
  rfl

@[simp] theorem error_bind (e : ε) (f : α -> Except ε β) :
    ((Except.error e : Except ε α) >>= f) = .error e :=
  rfl

theorem guard_eq_ok {c : Prop} [Decidable c] {e : ε} {x : Except ε α} {a : α} :
    (if c then .error e else x) = .ok a ↔ ¬ c ∧ x = .ok a := by
  by_cases h : c <;> simp [h]

def commit (r : Except ε σ) (s : σ) : σ :=
  match r with
  | .ok s' => s'
  | .error _ => s

@[simp] theorem commit_ok (s s' : σ) :
    commit (.ok s' : Except ε σ) s = s' :=
  rfl

@[simp] theorem commit_error (e : ε) (s : σ) :
    commit (.error e) s = s :=
  rfl

theorem commit_cases (r : Except ε σ) (s : σ) :
    r = .ok (commit r s) ∨ commit r s = s := by
  cases r with
  | error e =>
      exact Or.inr rfl
  | ok s' =>
      exact Or.inl rfl

theorem eq_ok_commit {r : Except ε σ} (h : r.isOk = true) (s : σ) :
    r = .ok (commit r s) := by
  cases r with
  | error e =>
      cases h
  | ok s' =>
      rfl

theorem commit_preserves {P : σ -> Prop} {r : Except ε σ} {s : σ}
    (hs : P s) (hr : forall s', r = .ok s' -> P s') :
    P (commit r s) := by
  rcases commit_cases r s with h | h
  · exact hr _ h
  · rw [h]
    exact hs

/-! ## Loops inside one transaction -/

theorem foldlM_preserves {P : σ -> Prop} {f : σ -> α -> Except ε σ}
    (hf : forall s a s', P s -> f s a = .ok s' -> P s')
    {as : List α} {s s' : σ} (hs : P s)
    (h : as.foldlM f s = .ok s') :
    P s' := by
  induction as generalizing s with
  | nil =>
      obtain rfl : s = s' := by simpa [pure, Except.pure] using h
      exact hs
  | cons a as ih =>
      rw [List.foldlM_cons, bind_eq_ok] at h
      obtain ⟨t, ht, hrest⟩ := h
      exact ih (hf s a t hs ht) hrest

/--
What the loop relates, step after step, and what it has established for every element,
provided that the later steps do not undo it.
-/
theorem foldlM_establishes {R : σ -> σ -> Prop} {Q : α -> σ -> Prop} {f : σ -> α -> Except ε σ}
    (hrefl : forall s, R s s) (htrans : forall s s' s'', R s s' -> R s' s'' -> R s s'')
    (hstable : forall a s s', R s s' -> Q a s -> Q a s') {as : List α} {s₀ s s' : σ}
    (hf : forall a, a ∈ as -> forall s s', R s₀ s -> f s a = .ok s' -> R s s' ∧ Q a s')
    (hs : R s₀ s) (h : as.foldlM f s = .ok s') :
    R s s' ∧ forall a, a ∈ as -> Q a s' := by
  induction as generalizing s with
  | nil =>
      obtain rfl : s = s' := by simpa [pure, Except.pure] using h
      exact ⟨hrefl s, nofun⟩
  | cons a as ih =>
      rw [List.foldlM_cons, bind_eq_ok] at h
      obtain ⟨t, ht, hrest⟩ := h
      obtain ⟨hfirst, ha⟩ := hf a (List.mem_cons_self ..) s t hs ht
      obtain ⟨hlast, hestablished⟩ :=
        ih (fun b hb => hf b (List.mem_cons_of_mem a hb)) (htrans _ _ _ hs hfirst) hrest
      refine ⟨htrans _ _ _ hfirst hlast, fun b hb => ?_⟩
      rcases List.mem_cons.1 hb with rfl | hb
      · exact hstable b t s' hlast ha
      · exact hestablished b hb

/-! ## Runs -/

/-- Execute the steps `as` one after the other. -/
def run (step : σ -> α -> σ) (s : σ) (as : List α) : σ :=
  as.foldl step s

@[simp] theorem run_nil (step : σ -> α -> σ) (s : σ) :
    run step s [] = s :=
  rfl

@[simp] theorem run_cons (step : σ -> α -> σ) (s : σ) (a : α) (as : List α) :
    run step s (a :: as) = run step (step s a) as :=
  rfl

theorem run_append (step : σ -> α -> σ) (s : σ) (as bs : List α) :
    run step s (as ++ bs) = run step (run step s as) bs := by
  simp [run]

/-- Every step of the run meets `ok` in the state it is taken from. -/
def RunMeets (step : σ -> α -> σ) (ok : σ -> α -> Prop) : σ -> List α -> Prop
  | _, [] => True
  | s, a :: as => ok s a ∧ RunMeets step ok (step s a) as

instance (step : σ -> α -> σ) (ok : σ -> α -> Prop)
    [hok : forall s a, Decidable (ok s a)] :
    forall s as, Decidable (RunMeets step ok s as)
  | _, [] => isTrue trivial
  | s, a :: as =>
      match hok s a, instDecidableRunMeets step ok (step s a) as with
      | isTrue ha, isTrue has => isTrue ⟨ha, has⟩
      | isFalse ha, _ => isFalse fun h => ha h.1
      | _, isFalse has => isFalse fun h => has h.2

theorem runMeets_of_forall {step : σ -> α -> σ} {ok : σ -> α -> Prop} {as : List α}
    (h : forall a, a ∈ as -> forall s, ok s a) (s : σ) :
    RunMeets step ok s as := by
  induction as generalizing s with
  | nil =>
      exact trivial
  | cons a as ih =>
      exact ⟨h a List.mem_cons_self s, ih (fun b hb => h b (List.mem_cons_of_mem a hb)) _⟩

theorem runMeets_append {step : σ -> α -> σ} {ok : σ -> α -> Prop}
    {s : σ} {as bs : List α} :
    RunMeets step ok s (as ++ bs) ↔
      RunMeets step ok s as ∧ RunMeets step ok (run step s as) bs := by
  induction as generalizing s with
  | nil =>
      simp [RunMeets]
  | cons a as ih =>
      simp [RunMeets, ih, and_assoc]

theorem RunMeets.and {step : σ -> α -> σ} {ok ok' : σ -> α -> Prop} {s : σ} {as : List α}
    (h : RunMeets step ok s as) (h' : RunMeets step ok' s as) :
    RunMeets step (fun s a => ok s a ∧ ok' s a) s as := by
  induction as generalizing s with
  | nil =>
      exact trivial
  | cons a as ih =>
      exact ⟨⟨h.1, h'.1⟩, ih h.2 h'.2⟩

theorem run_invariant {step : σ -> α -> σ} {ok : σ -> α -> Prop} {Inv : σ -> Prop}
    (hstep : forall s a, Inv s -> ok s a -> Inv (step s a))
    {s : σ} {as : List α} (hs : Inv s) (hmeets : RunMeets step ok s as) :
    Inv (run step s as) := by
  induction as generalizing s with
  | nil =>
      exact hs
  | cons a as ih =>
      exact ih (hstep s a hs hmeets.1) hmeets.2

theorem run_preserves {step : σ -> α -> σ} {Inv : σ -> Prop}
    (hstep : forall s a, Inv s -> Inv (step s a)) {s : σ} (hs : Inv s) (as : List α) :
    Inv (run step s as) := by
  induction as generalizing s with
  | nil =>
      exact hs
  | cons a as ih =>
      exact ih (hstep s a hs)

theorem RunMeets.imp_of_invariant
    {step : σ -> α -> σ} {ok ok' : σ -> α -> Prop} (Inv : σ -> Prop)
    (hstep : forall s a, Inv s -> ok s a -> Inv (step s a))
    (himp : forall s a, Inv s -> ok s a -> ok' s a)
    {s : σ} {as : List α} (hs : Inv s) (h : RunMeets step ok s as) :
    RunMeets step ok' s as := by
  induction as generalizing s with
  | nil =>
      exact trivial
  | cons a as ih =>
      exact ⟨himp s a hs h.1, ih (hstep s a hs h.1) h.2⟩

theorem runMeets_of_invariant
    {step : σ -> α -> σ} {ok : σ -> α -> Prop} (Inv : σ -> Prop)
    (hstep : forall s a, Inv s -> Inv (step s a)) (himp : forall s a, Inv s -> ok s a)
    {s : σ} (hs : Inv s) (as : List α) :
    RunMeets step ok s as := by
  induction as generalizing s with
  | nil =>
      exact trivial
  | cons a as ih =>
      exact ⟨himp s a hs, ih (hstep s a hs)⟩

theorem runMeets_iff_of_invariant
    {step : σ -> α -> σ} {ok ok' : σ -> α -> Prop} (Inv : σ -> Prop)
    (hiff : forall s a, Inv s -> (ok s a ↔ ok' s a))
    (hstep : forall s a, Inv s -> ok' s a -> Inv (step s a))
    {s : σ} {as : List α} (hs : Inv s) :
    RunMeets step ok s as ↔ RunMeets step ok' s as := by
  induction as generalizing s with
  | nil =>
      exact Iff.rfl
  | cons a as ih =>
      constructor
      · intro h
        have ha : ok' s a := (hiff s a hs).1 h.1
        exact ⟨ha, (ih (hstep s a hs ha)).1 h.2⟩
      · intro h
        exact ⟨(hiff s a hs).2 h.1, (ih (hstep s a hs h.1)).2 h.2⟩

end Relational
