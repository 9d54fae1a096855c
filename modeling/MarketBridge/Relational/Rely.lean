import MarketBridge.Relational.Requests

/-!
# What requests rely on

Between two statements of a request the others change the state, but only within a
relation that all of them keep.  A request promises, label by label, what a write does
to the state that it becomes visible in, and it may use what it has read as far as the
relation preserves it.  Here a transaction is taken at once.
-/

namespace Relational

universe v

variable {ι κ σ : Type} {ε : Type v}

theorem Txn.Commits.alone {P : (σ -> σ) -> Prop} {t : Txn ε σ} {own : σ -> σ}
    (h : t.Commits P own) {s s' : σ} (hs : t.alone (own s) = .ok s') :
    exists write, P write ∧ s' = write s := by
  induction t generalizing own with
  | commit =>
      exact ⟨own, h, (Except.ok.inj hs).symm⟩
  | abort e =>
      cases hs
  | statement check write next ih =>
      rw [Txn.alone_statement] at hs
      cases hcheck : check (own s) with
      | error e =>
          rw [hcheck] at hs
          cases hs
      | ok _ =>
          rw [hcheck] at hs
          exact ih (own s) (h (own s) hcheck) hs

namespace Request

def atOnce : Request ι ε σ -> Request ι ε σ
  | .done => .done
  | .read next => .read fun s => (next s).atOnce
  | .statement label write next => .statement label write fun s => (next s).atOnce
  | .transaction label txn next =>
      .statement label (fun s => commit (txn.alone s) s) fun s =>
        (next ((txn.alone s).map fun _ => ())).atOnce
  | .ask next => .ask fun b => (next b).atOnce

def relabel (f : ι -> κ) : Request ι ε σ -> Request κ ε σ
  | .done => .done
  | .read next => .read fun s => (next s).relabel f
  | .statement label write next => .statement (f label) write fun s => (next s).relabel f
  | .transaction label txn next => .transaction (f label) txn fun r => (next r).relabel f
  | .ask next => .ask fun b => (next b).relabel f

/--
As long as the others keep `E`, every write does what its label says, or nothing at all,
from a state that was `b` once.  There are no transactions any more.
-/
def Keeps (E : σ -> σ -> Prop) (P : ι -> σ -> σ -> Prop) : Request ι ε σ -> σ -> Prop
  | .done, _ => True
  | .read next, b => forall s, E b s -> (next s).Keeps E P s
  | .statement label write next, b =>
      forall s, E b s -> (write s = s ∨ P label s (write s)) ∧ (next s).Keeps E P (write s)
  | .transaction _ _ _, _ => False
  | .ask next, b => forall answer, (next answer).Keeps E P b

variable {E : σ -> σ -> Prop} {P : ι -> σ -> σ -> Prop} {b b' : σ}

variable {r : Request ι ε σ}

theorem Keeps.mono (htrans : forall s s' s'', E s s' -> E s' s'' -> E s s'') (h : r.Keeps E P b)
    (hb : E b b') :
    r.Keeps E P b' := by
  induction r generalizing b b' with
  | done => exact trivial
  | read next ih => exact fun s hs => h s (htrans _ _ _ hb hs)
  | statement label write next ih => exact fun s hs => h s (htrans _ _ _ hb hs)
  | transaction label txn next ih => exact h
  | ask next ih => exact fun answer => ih answer (h answer) hb

theorem Keeps.attempt {label : ι} {f : σ -> Except ε σ} {next : Except ε Unit -> Request ι ε σ}
    (hok : forall s s', E b s -> f s = .ok s' -> P label s s' ∧ (next (.ok ())).Keeps E P s')
    (herror : forall s e, E b s -> f s = .error e -> (next (.error e)).Keeps E P s) :
    (attempt label f next).Keeps E P b := by
  intro s hs
  dsimp only
  cases hf : f s with
  | error e => exact ⟨Or.inl rfl, herror s e hs hf⟩
  | ok s' => exact ⟨Or.inr (hok s s' hs hf).1, (hok s s' hs hf).2⟩

theorem keeps_relabel_iff {P : κ -> σ -> σ -> Prop} (f : ι -> κ) :
    (r.relabel f).Keeps E P b ↔ r.Keeps E (fun label => P (f label)) b := by
  induction r generalizing b with
  | done => exact Iff.rfl
  | read next ih => exact forall_congr' fun s => imp_congr_right fun _ => ih s
  | statement label write next ih =>
      exact forall_congr' fun s => imp_congr_right fun _ => and_congr_right fun _ => ih s
  | transaction label txn next ih => exact Iff.rfl
  | ask next ih => exact forall_congr' fun answer => ih answer

theorem Writes.keeps {Q : ι -> (σ -> σ) -> Prop}
    (hwrite : forall label write s, Q label write -> P label s (write s)) (h : r.Writes Q) (b : σ) :
    r.atOnce.Keeps E P b := by
  induction r generalizing b with
  | done => exact trivial
  | read next ih => exact fun s _ => ih s (h s) s
  | statement label write next ih =>
      exact fun s _ => ⟨Or.inr (hwrite label write s h.1), ih s (h.2 s) (write s)⟩
  | transaction label txn next ih =>
      intro s _
      refine ⟨?_, ih _ (h.2 _) _⟩
      dsimp only
      cases hs' : txn.alone s with
      | error e => exact Or.inl rfl
      | ok s' =>
          have halone : txn.alone (id s) = .ok s' := hs'
          obtain ⟨write, hQ, rfl⟩ := h.1.alone halone
          exact Or.inr (hwrite label write s hQ)
  | ask next ih => exact fun answer => ih answer (h answer) b

end Request

namespace Server

def Keeps (E : σ -> σ -> Prop) (P : ι -> σ -> σ -> Prop) (s : Server ι ε σ) : Prop :=
  forall a, a ∈ s.active -> exists r, a = .waiting r ∧ r.Keeps E P s.state

variable {E : σ -> σ -> Prop} {P : ι -> σ -> σ -> Prop} {s : Server ι ε σ}

theorem Keeps.submit (h : s.Keeps E P) {r : Request ι ε σ} (hr : r.Keeps E P s.state) :
    (s.submit r).Keeps E P := by
  intro a ha
  rcases List.mem_append.1 ha with hold | hnew
  · exact h a hold
  · exact ⟨r, List.mem_singleton.1 hnew, hr⟩

theorem Keeps.moved (htrans : forall s s' s'', E s s' -> E s' s'' -> E s s'') (h : s.Keeps E P)
    {s' : Server ι ε σ} (hactive : s'.active = s.active) (hstate : E s.state s'.state) :
    s'.Keeps E P := by
  intro a ha
  obtain ⟨r, rfl, hr⟩ := h a (hactive ▸ ha)
  exact ⟨r, rfl, hr.mono htrans hstate⟩

theorem Keeps.answer (h : s.Keeps E P) (k : Nat) (b : Bool) : (s.answer k b).Keeps E P := by
  intro a ha
  obtain ⟨i, hi⟩ := List.mem_iff_getElem?.1 ha
  rw [show (s.answer k b).active = s.active.modify k (Activity.answer b) from rfl,
    List.getElem?_modify] at hi
  obtain ⟨before, hbefore, rfl⟩ := Option.map_eq_some_iff.1 hi
  obtain ⟨r, rfl, hr⟩ := h before (List.mem_of_getElem? hbefore)
  split
  · cases r with
    | ask next => exact ⟨next b, rfl, hr b⟩
    | _ => exact ⟨_, rfl, hr⟩
  · exact ⟨r, rfl, hr⟩

/--
A step makes at most one write visible, which does what its label says.  The requests keep
their promises if the write keeps the relation they rely on.
-/
theorem Keeps.advance (hrefl : forall s, E s s)
    (htrans : forall s s' s'', E s s' -> E s' s'' -> E s s'') (h : s.Keeps E P) (k : Nat)
    (hstep : forall label s', s.publishes k = some label -> P label s.state s' -> E s.state s') :
    (s.advance k).Keeps E P ∧
      ((s.advance k).state = s.state ∨
        exists label, s.publishes k = some label ∧ P label s.state (s.advance k).state) := by
  cases ha : s.active[k]? with
  | none =>
      have hsame : s.advance k = s := by
        unfold Server.advance
        rw [ha]
      rw [hsame]
      exact ⟨h, Or.inl rfl⟩
  | some a =>
      obtain ⟨r, rfl, hr⟩ := h a (List.mem_of_getElem? ha)
      have hpublishes : s.publishes k = (Activity.waiting r).publishes := by
        unfold publishes
        rw [ha, Option.bind_some]
      have hadvance : s.advance k =
          { state := ((Activity.waiting r).advance s.state).1
            active := s.active.set k ((Activity.waiting r).advance s.state).2 } := by
        unfold Server.advance
        rw [ha]
      -- what the request itself does, and what that means for the others
      have hown : (exists r', ((Activity.waiting r).advance s.state).2 = .waiting r' ∧
            r'.Keeps E P ((Activity.waiting r).advance s.state).1) ∧
          (((Activity.waiting r).advance s.state).1 = s.state ∨
            exists label, (Activity.waiting r).publishes = some label ∧
              P label s.state ((Activity.waiting r).advance s.state).1) := by
        cases r with
        | done => exact ⟨⟨_, rfl, hr⟩, Or.inl rfl⟩
        | read next => exact ⟨⟨_, rfl, hr s.state (hrefl s.state)⟩, Or.inl rfl⟩
        | statement label write next =>
            obtain ⟨hwrite, hnext⟩ := hr s.state (hrefl s.state)
            exact ⟨⟨_, rfl, hnext⟩, hwrite.imp_right fun hwrite => ⟨label, rfl, hwrite⟩⟩
        | transaction label txn next => exact hr.elim
        | ask next => exact ⟨⟨_, rfl, hr⟩, Or.inl rfl⟩
      rw [hadvance, hpublishes]
      refine ⟨?_, hown.2⟩
      have hmoved : E s.state ((Activity.waiting r).advance s.state).1 := by
        rcases hown.2 with hsame | ⟨label, hlabel, hwrite⟩
        · rw [hsame]
          exact hrefl s.state
        · exact hstep label _ (hpublishes.trans hlabel) hwrite
      intro c hc
      rcases List.mem_or_eq_of_mem_set hc with hold | rfl
      · obtain ⟨q, rfl, hq⟩ := h c hold
        exact ⟨q, rfl, hq.mono htrans hmoved⟩
      · exact hown.1

end Server

end Relational
