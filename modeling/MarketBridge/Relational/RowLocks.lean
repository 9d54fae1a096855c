import MarketBridge.Relational.Transaction

/-!
# Row locks under `READ COMMITTED`

A statement that writes finds its rows in what is committed when it starts.  It waits
for the rows among them that another transaction has written, and then writes those
that its condition still selects; rows committed in the meantime it does not find.
A written row stays locked until its transaction ends, so replaying the writes of a
transaction on the newest committed state is what the database does.
-/

namespace Relational

variable {ι κ α σ : Type}

/-- A transaction that answers `α` and locks rows by their keys `κ`. -/
inductive LockTxn (κ α σ : Type) where
  | commit (result : α)
  | abort
  | read (next : σ -> LockTxn κ α σ)
  /-- Write the rows of a query, or fail; the transaction learns which were written. -/
  | write (finds : σ -> List κ) (allowed : σ -> Bool) (effect : List κ -> σ -> σ)
      (next : List κ -> LockTxn κ α σ)

/-- A transaction with its writes so far, its locks and the rows its statement has found. -/
inductive LockRun (κ α σ : Type) where
  | running (own : σ -> σ) (held : List κ) (found : Option (List κ)) (rest : LockTxn κ α σ)
  | committed (result : α)
  | aborted

namespace LockRun

def held : LockRun κ α σ -> List κ
  | running _ held _ _ => held
  | _ => []

end LockRun

/-- The committed state and all transactions, each with its label. -/
structure LockServer (ι κ α σ : Type) where
  state : σ
  txns : List (ι × LockRun κ α σ) := []

namespace LockServer

def submit (s : LockServer ι κ α σ) (label : ι) (t : LockTxn κ α σ) : LockServer ι κ α σ :=
  { s with txns := s.txns ++ [(label, .running id [] none t)] }

/-- The transaction is rolled back: it has timed out or was chosen to end a deadlock. -/
def rollback (s : LockServer ι κ α σ) (k : Nat) : LockServer ι κ α σ :=
  { s with
    txns := s.txns.modify k fun e =>
      match e.2 with
      | .running _ _ _ _ => (e.1, .aborted)
      | _ => e }

variable {e : ι × LockRun κ α σ} {s : LockServer ι κ α σ}

theorem getElem?_set {txns : List (ι × LockRun κ α σ)} {k i : Nat} {e' : ι × LockRun κ α σ}
    (h : txns[k]? = some e) :
    (txns.set k e')[i]? = if i = k then some e' else txns[i]? := by
  obtain ⟨hlt, -⟩ := List.getElem?_eq_some_iff.1 h
  rw [List.getElem?_set]
  by_cases hi : i = k
  · subst hi
    simp [hlt]
  · have hki : k ≠ i := fun heq => hi heq.symm
    simp [hi, hki]

/-! ## Locks -/

def Exclusive (s : LockServer ι κ α σ) : Prop :=
  forall (i j : Nat) (e f : ι × LockRun κ α σ), s.txns[i]? = some e -> s.txns[j]? = some f ->
    i ≠ j -> forall x, x ∈ e.2.held -> x ∉ f.2.held

theorem Exclusive.set {s : LockServer ι κ α σ} (h : s.Exclusive) {k : Nat}
    {e e' : ι × LockRun κ α σ} (hk : s.txns[k]? = some e) {state : σ}
    (hheld : forall x, x ∈ e'.2.held -> x ∈ e.2.held ∨
      forall j f, s.txns[j]? = some f -> j ≠ k -> x ∉ f.2.held) :
    Exclusive { state := state, txns := s.txns.set k e' } := by
  intro i j a b ha hb hij x hxa hxb
  dsimp only at ha hb
  rw [getElem?_set hk] at ha hb
  split at ha
  · rename_i hi
    rw [if_neg (fun hj => hij (hi.trans hj.symm))] at hb
    obtain rfl := Option.some.inj ha
    rcases hheld x hxa with hold | hfree
    · exact h k j e b hk hb (fun hkj => hij (hi.trans hkj)) x hold hxb
    · exact hfree j b hb (fun hj => hij (hi.trans hj.symm)) hxb
  · rename_i hi
    split at hb
    · obtain rfl := Option.some.inj hb
      rcases hheld x hxb with hold | hfree
      · exact h i k a e ha hk hi x hxa hold
      · exact hfree i a ha hi hxa
    · exact h i j a b ha hb hij x hxa hxb

theorem getElem?_submit {label : ι} {t : LockTxn κ α σ} {i : Nat}
    (h : (s.submit label t).txns[i]? = some e) :
    s.txns[i]? = some e ∨ e = (label, .running id [] none t) := by
  have happend : (s.submit label t).txns = s.txns ++ [(label, .running id [] none t)] := rfl
  rw [happend, List.getElem?_append] at h
  split at h
  · exact Or.inl h
  · obtain ⟨hlt, hget⟩ := List.getElem?_eq_some_iff.1 h
    rw [List.getElem_singleton] at hget
    exact Or.inr hget.symm

theorem Exclusive.submit (h : s.Exclusive) (label : ι) (t : LockTxn κ α σ) :
    (s.submit label t).Exclusive := by
  intro i j e f he hf hij x hxe hxf
  rcases getElem?_submit he with he | rfl
  · rcases getElem?_submit hf with hf | rfl
    · exact h i j e f he hf hij x hxe hxf
    · cases hxf
  · cases hxe

theorem getElem?_rollback {k i : Nat} (h : (s.rollback k).txns[i]? = some e) :
    s.txns[i]? = some e ∨ exists a, s.txns[i]? = some (e.1, a) ∧ e.2 = .aborted := by
  unfold rollback at h
  rw [List.getElem?_modify] at h
  obtain ⟨before, hbefore, rfl⟩ := Option.map_eq_some_iff.1 h
  split
  · split
    · exact Or.inr ⟨before.2, hbefore, rfl⟩
    · exact Or.inl hbefore
  · exact Or.inl hbefore

theorem Exclusive.rollback (h : s.Exclusive) (k : Nat) :
    (s.rollback k).Exclusive := by
  intro i j e f he hf hij x hxe hxf
  rcases getElem?_rollback he with he | ⟨a, -, hnone⟩
  · rcases getElem?_rollback hf with hf | ⟨b, -, hnone⟩
    · exact h i j e f he hf hij x hxe hxf
    · rw [hnone] at hxf
      cases hxf
  · rw [hnone] at hxe
    cases hxe

end LockServer

/-! ## Steps -/

section

variable [DecidableEq κ]

namespace LockRun

/-- The transaction goes on: a statement first finds its rows, and then writes them. -/
def advance (blocked : List κ -> Bool) (s : σ) : LockRun κ α σ -> σ × LockRun κ α σ
  | running own _ _ (.commit result) => (own s, committed result)
  | running _ _ _ .abort => (s, aborted)
  | running own held _ (.read next) => (s, running own held none (next (own s)))
  | running own held none (.write finds allowed effect next) =>
      (s, running own held (some (finds (own s))) (.write finds allowed effect next))
  | running own held (some found) (.write finds allowed effect next) =>
      if blocked found then
        (s, running own held (some found) (.write finds allowed effect next))
      else if allowed (own s) then
        let kept := found.filter fun x => x ∈ finds (own s)
        (s, running (effect kept ∘ own) (held ++ kept) none (next kept))
      else
        (s, aborted)
  | a => (s, a)

/-- If the statement writes now, it has found every row that its condition selects. -/
def FindsAll (blocked : List κ -> Bool) (s : σ) : LockRun κ α σ -> Prop
  | running own _ (some found) (.write finds _ _ _) =>
      blocked found = false -> forall x, x ∈ finds (own s) -> x ∈ found
  | _ => True

instance (blocked : List κ -> Bool) (s : σ) (a : LockRun κ α σ) :
    Decidable (a.FindsAll blocked s) := by
  unfold FindsAll
  split <;> infer_instance

theorem held_advance {blocked : List κ -> Bool} {s : σ} {a : LockRun κ α σ} {x : κ}
    (hx : x ∈ (a.advance blocked s).2.held) :
    x ∈ a.held ∨ exists found, blocked found = false ∧ x ∈ found := by
  unfold advance at hx
  split at hx
  · cases hx
  · cases hx
  · exact Or.inl hx
  · exact Or.inl hx
  · rename_i own held found finds allowed effect next
    dsimp only at hx
    split at hx
    · exact Or.inl hx
    · rename_i hblocked
      split at hx
      · rcases List.mem_append.1 hx with hold | hkept
        · exact Or.inl hold
        · exact Or.inr ⟨found, Bool.eq_false_iff.2 hblocked, List.mem_of_mem_filter hkept⟩
      · cases hx
  · exact Or.inl hx

theorem advance_eq_committed {blocked : List κ -> Bool} {s : σ} {a : LockRun κ α σ} {result : α}
    (h : (a.advance blocked s).2 = committed result) :
    a = committed result ∨
      exists own held found, a = running own held found (.commit result) := by
  unfold advance at h
  split at h
  · rename_i own held found result'
    obtain rfl : result' = result := by simpa using h
    exact Or.inr ⟨own, held, found, rfl⟩
  · cases h
  · cases h
  · cases h
  · dsimp only at h
    split at h
    · cases h
    · split at h <;> cases h
  · exact Or.inl h

end LockRun

namespace LockServer

/-- A transaction other than `k` holds one of the rows. -/
def blocked (s : LockServer ι κ α σ) (k : Nat) (found : List κ) : Bool :=
  s.txns.zipIdx.any fun e => e.2 ≠ k && found.any fun x => x ∈ e.1.2.held

/-- Transaction `k` goes on. -/
def advance (s : LockServer ι κ α σ) (k : Nat) : LockServer ι κ α σ :=
  match s.txns[k]? with
  | none => s
  | some (label, a) =>
      { state := (a.advance (s.blocked k) s.state).1
        txns := s.txns.set k (label, (a.advance (s.blocked k) s.state).2) }

variable {s : LockServer ι κ α σ}

theorem blocked_eq_false_iff {k : Nat} {found : List κ} :
    s.blocked k found = false ↔
      forall j e, s.txns[j]? = some e -> j ≠ k -> forall x, x ∈ found -> x ∉ e.2.held := by
  unfold blocked
  rw [List.any_eq_false]
  constructor
  · intro h j e he hjk x hx hheld
    have hmem : (e, j) ∈ s.txns.zipIdx := List.mk_mem_zipIdx_iff_getElem?.2 he
    have hany : (found.any fun x => x ∈ e.2.held) = true :=
      List.any_eq_true.2 ⟨x, hx, decide_eq_true hheld⟩
    exact h (e, j) hmem (by simp [hjk, hany])
  · intro h e hmem hany
    obtain ⟨hjk, hsome⟩ := Bool.and_eq_true_iff.1 hany
    obtain ⟨x, hx, hheld⟩ := List.any_eq_true.1 hsome
    exact h e.2 e.1 (List.mem_zipIdx_iff_getElem?.1 hmem) (of_decide_eq_true hjk) x hx
      (of_decide_eq_true hheld)

/-- The transactions after transaction `k` has gone on. -/
theorem getElem?_advance {k i : Nat} {e : ι × LockRun κ α σ} (h : (s.advance k).txns[i]? = some e) :
    (i ≠ k ∧ s.txns[i]? = some e) ∨
      i = k ∧ exists a, s.txns[k]? = some (e.1, a) ∧ e.2 = (a.advance (s.blocked k) s.state).2 := by
  unfold advance at h
  split at h
  · rename_i hnone
    refine Or.inl ⟨?_, h⟩
    rintro rfl
    rw [hnone] at h
    cases h
  · rename_i label a hk
    dsimp only at h
    rw [getElem?_set hk] at h
    split at h
    · rename_i hi
      obtain rfl := Option.some.inj h
      exact Or.inr ⟨hi, a, hk, rfl⟩
    · rename_i hi
      exact Or.inl ⟨hi, h⟩

theorem Exclusive.advance (h : s.Exclusive) (k : Nat) :
    (s.advance k).Exclusive := by
  unfold LockServer.advance
  split
  · exact h
  · rename_i label a hk
    refine h.set hk fun x hx => ?_
    rcases LockRun.held_advance hx with hold | ⟨found, hfree, hfound⟩
    · exact Or.inl hold
    · exact Or.inr fun j f hf hjk => blocked_eq_false_iff.1 hfree j f hf hjk x hfound

end LockServer

end

end Relational
