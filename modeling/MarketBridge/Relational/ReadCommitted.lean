import MarketBridge.Relational.Transaction

/-!
# Interleaved transactions under `READ COMMITTED`

A transaction is a tree of statements.  Every statement sees what is committed
when it runs, with the writes of its own transaction on top, and decides from
that how the transaction goes on.  The writes of a transaction become visible to
the others all at once, when it commits.

A row that a transaction has written stays locked until its end, so replaying
the writes on the newest committed state at the commit is what the database
does, as long as no two transactions in flight write the same row.
-/

namespace Relational

universe v

variable {σ : Type} {ε : Type v}

inductive Txn (ε : Type v) (σ : Type) where
  | commit
  | abort (e : ε)
  /-- A statement: its check, its write, and how the transaction goes on. -/
  | statement (check : σ -> Except ε Unit) (write : σ -> σ) (next : σ -> Txn ε σ)

namespace Txn

def read (next : σ -> Txn ε σ) : Txn ε σ :=
  .statement (fun _ => .ok ()) id next

def write (f : σ -> σ) (next : Txn ε σ) : Txn ε σ :=
  .statement (fun _ => .ok ()) f fun _ => next

def alone : Txn ε σ -> σ -> Except ε σ
  | commit, s => .ok s
  | abort e, _ => .error e
  | statement check write next, s => do
      check s
      (next s).alone (write s)

@[simp] theorem alone_commit (s : σ) :
    (commit : Txn ε σ).alone s = .ok s :=
  rfl

@[simp] theorem alone_abort (e : ε) (s : σ) :
    (abort e : Txn ε σ).alone s = .error e :=
  rfl

@[simp] theorem alone_read (next : σ -> Txn ε σ) (s : σ) :
    (read next).alone s = (next s).alone s :=
  rfl

@[simp] theorem alone_write (f : σ -> σ) (next : Txn ε σ) (s : σ) :
    (write f next).alone s = next.alone (f s) :=
  rfl

theorem alone_statement (check : σ -> Except ε Unit) (f : σ -> σ) (next : σ -> Txn ε σ) (s : σ) :
    (statement check f next).alone s = (check s >>= fun _ => (next s).alone (f s)) :=
  rfl

/-- What is left reads nothing any more, and writes `f` in all. -/
inductive StraightLine : Txn ε σ -> (σ -> σ) -> Prop where
  | commit : StraightLine .commit id
  | statement (check : σ -> Except ε Unit) (write : σ -> σ) (rest : Txn ε σ) (f : σ -> σ)
      (h : StraightLine rest f) :
      StraightLine (.statement check write fun _ => rest) (f ∘ write)

theorem StraightLine.write {f g : σ -> σ} {rest : Txn ε σ} (h : StraightLine rest g) :
    StraightLine (write f rest) (g ∘ f) :=
  .statement _ f rest g h

end Txn

/-! ## Sessions -/

/-- A transaction of a session. -/
inductive Running (ε : Type v) (σ : Type) where
  /-- The writes made so far, and the statements to come. -/
  | inFlight (own : σ -> σ) (rest : Txn ε σ)
  | committed
  | aborted

/-- The committed state and the transactions. -/
structure Session (ε : Type v) (σ : Type) where
  state : σ
  txns : List (Running ε σ)

namespace Session

def start (s : σ) (txns : List (Txn ε σ)) : Session ε σ :=
  { state := s
    txns := txns.map (.inFlight id) }

/-- Transaction `k` issues its next statement, or commits. -/
def step (s : Session ε σ) (k : Nat) : Session ε σ :=
  match s.txns[k]? with
  | some (.inFlight own .commit) =>
      { state := own s.state
        txns := s.txns.set k .committed }
  | some (.inFlight _ (.abort _)) =>
      { s with txns := s.txns.set k .aborted }
  | some (.inFlight own (.statement check write next)) =>
      match check (own s.state) with
      | .ok _ =>
          { s with txns := s.txns.set k (.inFlight (write ∘ own) (next (own s.state))) }
      | .error _ => { s with txns := s.txns.set k .aborted }
  | _ => s

/-- Transaction `k` has committed. -/
def IsCommitted (s : Session ε σ) (k : Nat) : Prop :=
  s.txns[k]? = some .committed

/-- Everything that a step of transaction `k` does to the session. -/
inductive StepOf (s : Session ε σ) (k : Nat) : Session ε σ -> Prop where
  | idle (h : forall own rest, s.txns[k]? ≠ some (.inFlight own rest)) : StepOf s k s
  | aborted (own : σ -> σ) (rest : Txn ε σ) (h : s.txns[k]? = some (.inFlight own rest)) :
      StepOf s k { s with txns := s.txns.set k .aborted }
  | issued (own : σ -> σ) (check : σ -> Except ε Unit) (write : σ -> σ) (next : σ -> Txn ε σ)
      (h : s.txns[k]? = some (.inFlight own (.statement check write next)))
      (hcheck : check (own s.state) = .ok ()) :
      StepOf s k
        { s with txns := s.txns.set k (.inFlight (write ∘ own) (next (own s.state))) }
  | committed (own : σ -> σ) (h : s.txns[k]? = some (.inFlight own .commit)) :
      StepOf s k
        { state := own s.state
          txns := s.txns.set k .committed }

theorem step_of (s : Session ε σ) (k : Nat) : StepOf s k (s.step k) := by
  unfold step
  split
  · rename_i own h
    exact .committed own h
  · rename_i own e h
    exact .aborted own _ h
  · rename_i own check write next h
    split
    · rename_i hcheck
      exact .issued own check write next h hcheck
    · exact .aborted own _ h
  · rename_i hcommit habort hstatement
    apply StepOf.idle
    intro own rest h
    cases rest with
    | commit => exact hcommit own h
    | abort e => exact habort own e h
    | statement check write next => exact hstatement own check write next h

/-- A transaction of a step on transaction `k`. -/
theorem getElem?_set {txns : List (Running ε σ)} {k i : Nat} {t t' : Running ε σ}
    (h : txns[k]? = some t) :
    (txns.set k t')[i]? = if i = k then some t' else txns[i]? := by
  obtain ⟨hlt, -⟩ := List.getElem?_eq_some_iff.1 h
  rw [List.getElem?_set]
  by_cases hi : i = k
  · subst hi
    simp [hlt]
  · have hki : k ≠ i := fun heq => hi heq.symm
    simp [hi, hki]

theorem IsCommitted.step {s : Session ε σ} {i : Nat} (h : s.IsCommitted i) (k : Nat) :
    (s.step k).IsCommitted i := by
  have hother : forall own rest t, s.txns[k]? = some (.inFlight own rest) ->
      (s.txns.set k t)[i]? = some .committed := by
    intro own rest t hk
    have hne : i ≠ k := by
      rintro rfl
      rw [show s.txns[i]? = some .committed from h] at hk
      cases hk
    rw [getElem?_set hk, if_neg hne]
    exact h
  have hstep := step_of s k
  generalize s.step k = s' at hstep ⊢
  cases hstep with
  | idle => exact h
  | aborted own rest hk => exact hother own rest _ hk
  | issued own check write next hk => exact hother own _ _ hk
  | committed own hk => exact hother own _ _ hk

end Session

end Relational
