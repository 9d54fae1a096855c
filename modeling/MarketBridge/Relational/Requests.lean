import MarketBridge.Relational.ReadCommitted

/-!
# Requests in flight

A request is a tree of statements that commit by themselves, of transactions and of
questions to the outside.  Any number of requests is in flight, and every step belongs
to one of them.  A discipline on the writes of the requests says what a step can do to
the state, in whatever order the statements come.
-/

namespace Relational

universe v

variable {ι σ : Type} {ε : Type v}

/-! ## Writes of a transaction -/

namespace Txn

def call (f : σ -> Except ε σ) (next : Txn ε σ) : Txn ε σ :=
  .statement (fun s => (f s).map fun _ => ()) (fun s => Relational.commit (f s) s) fun _ => next

theorem alone_call (f : σ -> Except ε σ) (next : Txn ε σ) (s : σ) :
    (call f next).alone s = (f s >>= fun s => next.alone s) := by
  unfold call
  rw [alone_statement]
  cases f s with
  | error e =>
      rfl
  | ok s' =>
      rfl

/-- Whatever the statements find, the writes that are committed satisfy `P`. -/
def Commits (P : (σ -> σ) -> Prop) : Txn ε σ -> (σ -> σ) -> Prop
  | .commit, own => P own
  | .abort _, _ => True
  | .statement check write next, own =>
      forall s, check s = .ok () -> (next s).Commits P (write ∘ own)

variable {P : (σ -> σ) -> Prop} {own : σ -> σ}

variable {next : σ -> Txn ε σ}

theorem Commits.read (h : forall s, (next s).Commits P own) :
    (read next).Commits P own :=
  fun s _ => h s

theorem Commits.write {f : σ -> σ} {next : Txn ε σ} (h : next.Commits P (f ∘ own)) :
    (write f next).Commits P own :=
  fun _ _ => h

theorem Commits.statement {check : σ -> Except ε Unit} {f : σ -> σ}
    (h : forall s, check s = .ok () -> (next s).Commits P (f ∘ own)) :
    (statement check f next).Commits P own :=
  h

/-- Every statement writes within `R`. -/
def Within (R : σ -> σ -> Prop) : Txn ε σ -> Prop
  | .commit => True
  | .abort _ => True
  | .statement check write next =>
      (forall s, R s (write s)) ∧ forall s, check s = .ok () -> (next s).Within R

variable {R : σ -> σ -> Prop}

theorem Within.read (hrefl : forall s, R s s) (h : forall s, (next s).Within R) :
    (read next).Within R :=
  ⟨hrefl, fun s _ => h s⟩

theorem Within.write {f : σ -> σ} {next : Txn ε σ} (hf : forall s, R s (f s))
    (h : next.Within R) :
    (write f next).Within R :=
  ⟨hf, fun _ _ => h⟩

theorem Within.call (hrefl : forall s, R s s) {f : σ -> Except ε σ} {next : Txn ε σ}
    (hf : forall s s', f s = .ok s' -> R s s') (h : next.Within R) :
    (call f next).Within R :=
  ⟨fun s => commit_preserves (P := R s) (hrefl s) (hf s), fun _ _ => h⟩

/-- What a transaction commits is within `R` as its statements are. -/
theorem Within.commits (htrans : forall s s' s'', R s s' -> R s' s'' -> R s s'')
    {t : Txn ε σ} (h : t.Within R) (hown : forall s, R s (own s)) :
    t.Commits (fun own => forall s, R s (own s)) own := by
  induction t generalizing own with
  | commit => exact hown
  | abort e => exact trivial
  | statement check write next ih =>
      intro s hcheck
      exact ih s (h.2 s hcheck) fun s => htrans _ _ _ (hown s) (h.1 (own s))

end Txn

/-! ## Requests -/

/-- A request; a label says what a write is about. -/
inductive Request (ι : Type) (ε : Type v) (σ : Type) where
  | done
  | read (next : σ -> Request ι ε σ)
  /-- A statement that commits by itself, and what it has found. -/
  | statement (label : ι) (write : σ -> σ) (next : σ -> Request ι ε σ)
  | transaction (label : ι) (txn : Txn ε σ) (next : Except ε Unit -> Request ι ε σ)
  /-- A question to the outside. -/
  | ask (next : Bool -> Request ι ε σ)

namespace Request

def attempt (label : ι) (f : σ -> Except ε σ) (next : Except ε Unit -> Request ι ε σ) :
    Request ι ε σ :=
  .statement label (fun s => commit (f s) s) fun s => next ((f s).map fun _ => ())

def Writes (P : ι -> (σ -> σ) -> Prop) : Request ι ε σ -> Prop
  | .done => True
  | .read next => forall s, (next s).Writes P
  | .statement label write next => P label write ∧ forall s, (next s).Writes P
  | .transaction label txn next => txn.Commits (P label) id ∧ forall r, (next r).Writes P
  | .ask next => forall b, (next b).Writes P

theorem Writes.attempt {P : ι -> (σ -> σ) -> Prop} {label : ι} {f : σ -> Except ε σ}
    {next : Except ε Unit -> Request ι ε σ} (hwrite : P label fun s => commit (f s) s)
    (hnext : forall r, (next r).Writes P) :
    (attempt label f next).Writes P :=
  ⟨hwrite, fun s => hnext ((f s).map fun _ => ())⟩

end Request

/-- A request at its next statement, or inside of a transaction with its writes so far. -/
inductive Activity (ι : Type) (ε : Type v) (σ : Type) where
  | waiting (r : Request ι ε σ)
  | running (label : ι) (own : σ -> σ) (rest : Txn ε σ) (next : Except ε Unit -> Request ι ε σ)

namespace Activity

/-- The next statement, which sees what is committed and the writes of its transaction. -/
def advance (s : σ) : Activity ι ε σ -> σ × Activity ι ε σ
  | waiting (.read next) => (s, waiting (next s))
  | waiting (.statement _ write next) => (write s, waiting (next s))
  | waiting (.transaction label txn next) => (s, running label id txn next)
  | waiting r => (s, waiting r)
  | running _ own .commit next => (own s, waiting (next (.ok ())))
  | running _ _ (.abort e) next => (s, waiting (next (.error e)))
  | running label own (.statement check write rest) next =>
      match check (own s) with
      | .ok _ => (s, running label (write ∘ own) (rest (own s)) next)
      | .error e => (s, waiting (next (.error e)))

def answer (b : Bool) : Activity ι ε σ -> Activity ι ε σ
  | waiting (.ask next) => waiting (next b)
  | a => a

def publishes : Activity ι ε σ -> Option ι
  | waiting (.statement label _ _) => some label
  | running label _ .commit _ => some label
  | _ => none

def Writes (P : ι -> (σ -> σ) -> Prop) : Activity ι ε σ -> Prop
  | waiting r => r.Writes P
  | running label own rest next => rest.Commits (P label) own ∧ forall r, (next r).Writes P

variable {P : ι -> (σ -> σ) -> Prop}

theorem Writes.answer {a : Activity ι ε σ} (h : a.Writes P) (b : Bool) : (a.answer b).Writes P := by
  unfold Activity.answer
  split
  · exact h b
  · exact h

theorem Writes.advance {a : Activity ι ε σ} (h : a.Writes P) (s : σ) :
    (a.advance s).2.Writes P ∧
      ((a.advance s).1 = s ∨
        exists label write, a.publishes = some label ∧ P label write ∧
          (a.advance s).1 = write s) := by
  cases a with
  | waiting r =>
      cases r with
      | done => exact ⟨h, Or.inl rfl⟩
      | read next => exact ⟨h s, Or.inl rfl⟩
      | statement label write next =>
          exact ⟨h.2 s, Or.inr ⟨label, write, rfl, h.1, rfl⟩⟩
      | transaction label txn next => exact ⟨h, Or.inl rfl⟩
      | ask next => exact ⟨h, Or.inl rfl⟩
  | running label own rest next =>
      cases rest with
      | commit => exact ⟨h.2 _, Or.inr ⟨label, own, rfl, h.1, rfl⟩⟩
      | abort e => exact ⟨h.2 _, Or.inl rfl⟩
      | statement check write rest =>
          unfold Activity.advance
          dsimp only
          split
          · rename_i hcheck
            exact ⟨⟨h.1 (own s) hcheck, h.2⟩, Or.inl rfl⟩
          · exact ⟨h.2 _, Or.inl rfl⟩

end Activity

/-! ## Servers -/

/-- The committed state and the requests in flight. -/
structure Server (ι : Type) (ε : Type v) (σ : Type) where
  state : σ
  active : List (Activity ι ε σ) := []

namespace Server

def submit (s : Server ι ε σ) (r : Request ι ε σ) : Server ι ε σ :=
  { s with active := s.active ++ [.waiting r] }

/-- The next statement of request `k`. -/
def advance (s : Server ι ε σ) (k : Nat) : Server ι ε σ :=
  match s.active[k]? with
  | none => s
  | some a =>
      { state := (a.advance s.state).1
        active := s.active.set k (a.advance s.state).2 }

/-- The outside answers request `k`. -/
def answer (s : Server ι ε σ) (k : Nat) (b : Bool) : Server ι ε σ :=
  { s with active := s.active.modify k (Activity.answer b) }

/-- The label of what the next statement of request `k` makes visible. -/
def publishes (s : Server ι ε σ) (k : Nat) : Option ι :=
  s.active[k]?.bind Activity.publishes

def Writes (P : ι -> (σ -> σ) -> Prop) (s : Server ι ε σ) : Prop :=
  forall a, a ∈ s.active -> a.Writes P

variable {P : ι -> (σ -> σ) -> Prop} {s : Server ι ε σ}

theorem Writes.submit (h : s.Writes P) {r : Request ι ε σ} (hr : r.Writes P) :
    (s.submit r).Writes P := by
  intro a ha
  rcases List.mem_append.1 ha with hold | hnew
  · exact h a hold
  · rw [List.mem_singleton.1 hnew]
    exact hr

theorem Writes.answer (h : s.Writes P) (k : Nat) (b : Bool) : (s.answer k b).Writes P := by
  intro a ha
  obtain ⟨i, hi⟩ := List.mem_iff_getElem?.1 ha
  rw [show (s.answer k b).active = s.active.modify k (Activity.answer b) from rfl,
    List.getElem?_modify] at hi
  obtain ⟨before, hbefore, rfl⟩ := Option.map_eq_some_iff.1 hi
  have hwrites := h before (List.mem_of_getElem? hbefore)
  split
  · exact hwrites.answer b
  · exact hwrites

theorem Writes.advance (h : s.Writes P) (k : Nat) :
    (s.advance k).Writes P ∧
      ((s.advance k).state = s.state ∨
        exists label write, s.publishes k = some label ∧ P label write ∧
          (s.advance k).state = write s.state) := by
  unfold Server.advance
  split
  · exact ⟨h, Or.inl rfl⟩
  · rename_i a ha
    obtain ⟨hafter, hstate⟩ := (h a (List.mem_of_getElem? ha)).advance s.state
    refine ⟨?_, ?_⟩
    · intro b hb
      rcases List.mem_or_eq_of_mem_set hb with hold | rfl
      · exact h b hold
      · exact hafter
    · unfold publishes
      rw [ha]
      exact hstate

end Server

end Relational
