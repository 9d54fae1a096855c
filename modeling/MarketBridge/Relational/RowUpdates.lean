import MarketBridge.Relational.Transaction

/-!
# Updates of one row from earlier reads

Transactions that read a row, decide, and then write it by its key, beside a log to
which they append.  A write waits while another transaction holds the row, and is then
applied to whatever the row has become.  Where every write meets the row as its
transaction has seen it, the writes are what the transactions have decided on.
-/

namespace Relational

variable {ι ρ β ε α : Type}

/-- A transaction on a row `ρ` with a log of entries `β`. -/
inductive RowTxn (ρ β ε α : Type) where
  | done (result : α)
  | fail (e : ε)
  | read (next : Option ρ -> RowTxn ρ β ε α)
  /-- Create the row unless it is there. -/
  | upsert (fresh : ρ) (next : ρ -> RowTxn ρ β ε α)
  /-- Write the row that was read as `seen`. -/
  | update (seen : ρ) (data : ρ -> ρ) (next : ρ -> RowTxn ρ β ε α)
  | log (entry : β) (next : RowTxn ρ β ε α)
  | count (p : β -> Bool) (next : Nat -> RowTxn ρ β ε α)

/-- The row and the log. -/
structure RowStore (ρ β : Type) where
  row : Option ρ := none
  entries : List β := []

/-- How a transaction ends. -/
inductive RowOutcome (ε α : Type) where
  | answered (result : α)
  | refused (e : ε)
  /-- The row to be written does not exist. -/
  | missing
deriving DecidableEq, Repr

namespace RowTxn

/-- The transaction run with nothing beside it, on a store that has not been written yet. -/
def runFrom (start : RowStore ρ β) : RowTxn ρ β ε α -> RowStore ρ β ->
    RowStore ρ β × RowOutcome ε α
  | done result, s => (s, .answered result)
  | fail e, _ => (start, .refused e)
  | read next, s => (next s.row).runFrom start s
  | upsert fresh next, s =>
      match s.row with
      | some r => (next r).runFrom start s
      | none => (next fresh).runFrom start { s with row := some fresh }
  | update _ data next, s =>
      match s.row with
      | some r => (next (data r)).runFrom start { s with row := some (data r) }
      | none => (start, .missing)
  | log entry next, s => next.runFrom start { s with entries := s.entries ++ [entry] }
  | count p next, s => (next (s.entries.countP p)).runFrom start s

def alone (t : RowTxn ρ β ε α) (s : RowStore ρ β) : RowStore ρ β × RowOutcome ε α :=
  t.runFrom s s

section

variable {start s : RowStore ρ β}

@[simp] theorem runFrom_done (result : α) :
    (done result : RowTxn ρ β ε α).runFrom start s = (s, .answered result) :=
  rfl

@[simp] theorem runFrom_log (entry : β) (next : RowTxn ρ β ε α) :
    (log entry next).runFrom start s =
      next.runFrom start { s with entries := s.entries ++ [entry] } :=
  rfl

@[simp] theorem runFrom_count (p : β -> Bool) (next : Nat -> RowTxn ρ β ε α) :
    (count p next).runFrom start s = (next (s.entries.countP p)).runFrom start s :=
  rfl

theorem runFrom_upsert (fresh : ρ) (next : ρ -> RowTxn ρ β ε α) :
    (upsert fresh next).runFrom start s =
      (next (s.row.getD fresh)).runFrom start { s with row := some (s.row.getD fresh) } := by
  cases s with
  | mk row entries =>
      cases row with
      | none => rfl
      | some r => rfl

theorem runFrom_update (seen : ρ) (data : ρ -> ρ) (next : ρ -> RowTxn ρ β ε α) {r : ρ}
    (hr : s.row = some r) :
    (update seen data next).runFrom start s =
      (next (data r)).runFrom start { s with row := some (data r) } := by
  cases s with
  | mk row entries =>
      obtain rfl : row = some r := hr
      rfl

end

/-- Every write is one that `L` allows, and every answer one that `D` allows, where the row
is as the transaction has seen it. -/
def Lawful (agree L : ρ -> ρ -> Prop) (D : α -> Prop) : RowTxn ρ β ε α -> Prop
  | done result => D result
  | fail _ => True
  | read next => forall o, (next o).Lawful agree L D
  | upsert _ next => forall r, (next r).Lawful agree L D
  | update seen data next =>
      forall r, agree seen r -> L r (data r) ∧ (next (data r)).Lawful agree L D
  | log _ next => next.Lawful agree L D
  | count _ next => forall n, (next n).Lawful agree L D

/-- Every write of an existing row is within `R`, and every entry one of `Q`. -/
def Within (R : ρ -> ρ -> Prop) (Q : β -> Prop) : RowTxn ρ β ε α -> Prop
  | done _ => True
  | fail _ => True
  | read next => forall o, (next o).Within R Q
  | upsert _ _ => False
  | update _ data next => forall r, R r (data r) ∧ (next (data r)).Within R Q
  | log entry next => Q entry ∧ next.Within R Q
  | count _ next => forall n, (next n).Within R Q

/-- A store that has moved within `R` and `Q`. -/
structure MovedWithin (R : ρ -> ρ -> Prop) (Q : β -> Prop) (s s' : RowStore ρ β) : Prop where
  row : forall r', s'.row = some r' -> exists r, s.row = some r ∧ R r r'
  noRow : s'.row = none -> s.row = none
  entries : exists es, s'.entries = s.entries ++ es ∧ forall e, e ∈ es -> Q e

theorem MovedWithin.refl {R : ρ -> ρ -> Prop} {Q : β -> Prop} (hrefl : forall r, R r r)
    (s : RowStore ρ β) : MovedWithin R Q s s where
  row := fun r' hr' => ⟨r', hr', hrefl r'⟩
  noRow := fun h => h
  entries := ⟨[], (List.append_nil _).symm, fun e he => by cases he⟩

theorem Within.runFrom {R : ρ -> ρ -> Prop} {Q : β -> Prop} (hrefl : forall r, R r r)
    (htrans : forall r r' r'', R r r' -> R r' r'' -> R r r'') {t : RowTxn ρ β ε α}
    (h : t.Within R Q) {start s : RowStore ρ β} (hs : MovedWithin R Q start s) :
    MovedWithin R Q start (t.runFrom start s).1 := by
  induction t generalizing s with
  | done result => exact hs
  | fail e => exact .refl hrefl start
  | read next ih => exact ih _ (h _) hs
  | upsert fresh next ih => exact h.elim
  | update seen data next ih =>
      cases hrow : s.row with
      | none =>
          have hmissing : ((update seen data next).runFrom start s).1 = start := by
            unfold RowTxn.runFrom
            rw [hrow]
          rw [hmissing]
          exact .refl hrefl start
      | some r =>
          rw [runFrom_update _ _ _ hrow]
          obtain ⟨hdata, hnext⟩ := h r
          refine ih _ hnext ⟨?_, ?_, hs.entries⟩
          · intro r' hr'
            obtain rfl := Option.some.inj hr'
            obtain ⟨r₀, hr₀, hmoved⟩ := hs.row r hrow
            exact ⟨r₀, hr₀, htrans r₀ r (data r) hmoved hdata⟩
          · intro hnone
            cases hnone
  | log entry next ih =>
      refine ih h.2 ⟨hs.row, hs.noRow, ?_⟩
      obtain ⟨es, hes, hall⟩ := hs.entries
      refine ⟨es ++ [entry], by rw [← List.append_assoc, ← hes], ?_⟩
      intro e he
      rcases List.mem_append.1 he with hold | hnew
      · exact hall e hold
      · rw [List.mem_singleton.1 hnew]
        exact h.1
  | count p next ih => exact ih _ (h _) hs

end RowTxn

/-! ## Transactions beside each other -/

/-- A transaction with its version of the row and its entries so far. -/
inductive RowRun (ρ β ε α : Type) where
  | running (own : Option ρ) (ownEntries : List β) (rest : RowTxn ρ β ε α)
  | ended (outcome : RowOutcome ε α)

namespace RowRun

def holds : RowRun ρ β ε α -> Bool
  | running own _ _ => own.isSome
  | ended _ => false

/-- The next statement; `held` says that another transaction holds the row. -/
def advance (held : Bool) (s : RowStore ρ β) : RowRun ρ β ε α ->
    RowStore ρ β × RowRun ρ β ε α
  | running own ownEntries (.done result) =>
      ({ row := own <|> s.row
         entries := s.entries ++ ownEntries }, ended (.answered result))
  | running _ _ (.fail e) => (s, ended (.refused e))
  | running own ownEntries (.read next) =>
      (s, running own ownEntries (next (own <|> s.row)))
  | running own ownEntries (.upsert fresh next) =>
      match own <|> s.row with
      | some r => (s, running own ownEntries (next r))
      | none =>
          if held then
            (s, running own ownEntries (.upsert fresh next))
          else
            (s, running (some fresh) ownEntries (next fresh))
  | running own ownEntries (.update seen data next) =>
      if held then
        (s, running own ownEntries (.update seen data next))
      else
        match own <|> s.row with
        | some r => (s, running (some (data r)) ownEntries (next (data r)))
        | none => (s, ended .missing)
  | running own ownEntries (.log entry next) =>
      (s, running own (ownEntries ++ [entry]) next)
  | running own ownEntries (.count p next) =>
      (s, running own ownEntries (next ((s.entries ++ ownEntries).countP p)))
  | ended outcome => (s, ended outcome)

/-- The write that the next statement makes: the row as seen, as it is, and as it will be. -/
def writes (held : Bool) (s : RowStore ρ β) : RowRun ρ β ε α -> Option (ρ × ρ × ρ)
  | running own _ (.update seen data _) =>
      if held then none else (own <|> s.row).map fun r => (seen, r, data r)
  | _ => none

def answers (s : RowStore ρ β) : RowRun ρ β ε α -> Option (α × Option ρ)
  | running own _ (.done result) => some (result, own <|> s.row)
  | _ => none

def Lawful (agree L : ρ -> ρ -> Prop) (D : α -> Prop) : RowRun ρ β ε α -> Prop
  | running _ _ rest => rest.Lawful agree L D
  | ended _ => True

variable {agree L : ρ -> ρ -> Prop} {D : α -> Prop} {held : Bool} {s : RowStore ρ β}

theorem Lawful.advance {a : RowRun ρ β ε α} (h : a.Lawful agree L D)
    (hcurrent : forall seen r r', a.writes held s = some (seen, r, r') -> agree seen r) :
    (a.advance held s).2.Lawful agree L D ∧
      (forall seen r r', a.writes held s = some (seen, r, r') -> L r r') ∧
      forall result row, a.answers s = some (result, row) -> D result := by
  have hsilent : forall (b : RowRun ρ β ε α), b.Lawful agree L D -> a.writes held s = none ->
      a.answers s = none ->
      b.Lawful agree L D ∧
        (forall seen r r', a.writes held s = some (seen, r, r') -> L r r') ∧
        forall result row, a.answers s = some (result, row) -> D result := by
    intro b hb hwrites hanswers
    refine ⟨hb, ?_, ?_⟩
    · intro seen r r' hw
      rw [hwrites] at hw
      cases hw
    · intro result row ha
      rw [hanswers] at ha
      cases ha
  cases a with
  | ended outcome => exact hsilent _ h rfl rfl
  | running own ownEntries rest =>
      cases rest with
      | done result =>
          refine ⟨trivial, ?_, ?_⟩
          · intro seen r r' hw
            cases hw
          · intro result' row ha
            obtain ⟨rfl, -⟩ := Prod.mk.inj (Option.some.inj ha)
            exact h
      | fail e => exact hsilent _ trivial rfl rfl
      | read next => exact hsilent _ (h _) rfl rfl
      | upsert fresh next =>
          unfold RowRun.advance
          dsimp only
          split
          · exact hsilent _ (h _) rfl rfl
          · split
            · exact hsilent _ h rfl rfl
            · exact hsilent _ (h _) rfl rfl
      | update seen data next =>
          unfold RowRun.advance RowRun.writes at *
          dsimp only at hcurrent ⊢
          cases held with
          | true =>
              refine ⟨h, ?_, ?_⟩
              · intro seen' r r' hw
                cases hw
              · intro result row ha
                cases ha
          | false =>
              simp only [Bool.false_eq_true, if_false] at hcurrent ⊢
              cases hrow : own <|> s.row with
              | none =>
                  refine ⟨trivial, ?_, ?_⟩
                  · intro seen' r r' hw
                    cases hw
                  · intro result row ha
                    cases ha
              | some r =>
                  rw [hrow] at hcurrent
                  obtain ⟨hlaw, hnext⟩ := h r (hcurrent seen r (data r) rfl)
                  refine ⟨hnext, ?_, ?_⟩
                  · intro seen' q q' hw
                    obtain ⟨-, hq⟩ := Prod.mk.inj (Option.some.inj hw)
                    obtain ⟨rfl, rfl⟩ := Prod.mk.inj hq
                    exact hlaw
                  · intro result row ha
                    cases ha
      | log entry next => exact hsilent _ h rfl rfl
      | count p next => exact hsilent _ (h _) rfl rfl

end RowRun

/-- The committed row and log, and the transactions, each with its label. -/
structure RowServer (ι ρ β ε α : Type) where
  store : RowStore ρ β
  runs : List (ι × RowRun ρ β ε α) := []

namespace RowServer

def submit (s : RowServer ι ρ β ε α) (label : ι) (t : RowTxn ρ β ε α) : RowServer ι ρ β ε α :=
  { s with runs := s.runs ++ [(label, .running none [] t)] }

/-- A transaction other than `k` holds the row. -/
def held (s : RowServer ι ρ β ε α) (k : Nat) : Bool :=
  s.runs.zipIdx.any fun e => e.2 ≠ k && e.1.2.holds

/-- Transaction `k` goes on. -/
def advance (s : RowServer ι ρ β ε α) (k : Nat) : RowServer ι ρ β ε α :=
  match s.runs[k]? with
  | none => s
  | some (label, a) =>
      { store := (a.advance (s.held k) s.store).1
        runs := s.runs.set k (label, (a.advance (s.held k) s.store).2) }

/-- The transaction is rolled back: it has timed out or was chosen to end a deadlock. -/
def rollback (s : RowServer ι ρ β ε α) (k : Nat) : RowServer ι ρ β ε α :=
  { s with
    runs := s.runs.modify k fun e =>
      match e.2 with
      | .running _ _ _ => (e.1, .ended .missing)
      | _ => e }

/-- The write that transaction `k` makes next, with its label. -/
def writes (s : RowServer ι ρ β ε α) (k : Nat) : Option (ι × ρ × ρ × ρ) :=
  s.runs[k]?.bind fun e => (e.2.writes (s.held k) s.store).map fun w => (e.1, w)

/-- The answer that transaction `k` gives next, with its label. -/
def answers (s : RowServer ι ρ β ε α) (k : Nat) : Option (ι × α × Option ρ) :=
  s.runs[k]?.bind fun e => (e.2.answers s.store).map fun w => (e.1, w)

def Lawful (agree : ρ -> ρ -> Prop) (L : ι -> ρ -> ρ -> Prop) (D : ι -> α -> Prop)
    (s : RowServer ι ρ β ε α) : Prop :=
  forall e, e ∈ s.runs -> e.2.Lawful agree (L e.1) (D e.1)

variable {agree : ρ -> ρ -> Prop} {L : ι -> ρ -> ρ -> Prop} {D : ι -> α -> Prop}
  {s : RowServer ι ρ β ε α}

theorem Lawful.submit (h : s.Lawful agree L D) {label : ι} {t : RowTxn ρ β ε α}
    (ht : t.Lawful agree (L label) (D label)) :
    (s.submit label t).Lawful agree L D := by
  intro e he
  rcases List.mem_append.1 he with hold | hnew
  · exact h e hold
  · rw [List.mem_singleton.1 hnew]
    exact ht

theorem Lawful.rollback (h : s.Lawful agree L D) (k : Nat) : (s.rollback k).Lawful agree L D := by
  intro e he
  obtain ⟨i, hi⟩ := List.mem_iff_getElem?.1 he
  unfold RowServer.rollback at hi
  rw [List.getElem?_modify] at hi
  obtain ⟨before, hbefore, rfl⟩ := Option.map_eq_some_iff.1 hi
  have hlawful := h before (List.mem_of_getElem? hbefore)
  split
  · split
    · exact trivial
    · exact hlawful
  · exact hlawful

theorem Lawful.advance (h : s.Lawful agree L D) {k : Nat}
    (hcurrent : forall label seen r r', s.writes k = some (label, seen, r, r') ->
      agree seen r) :
    (s.advance k).Lawful agree L D ∧
      (forall label seen r r', s.writes k = some (label, seen, r, r') -> L label r r') ∧
      forall label result row, s.answers k = some (label, result, row) -> D label result := by
  unfold RowServer.advance RowServer.writes RowServer.answers at *
  cases hk : s.runs[k]? with
  | none =>
      refine ⟨h, ?_, ?_⟩
      · intro label seen r r' hw
        cases hw
      · intro label result row ha
        cases ha
  | some e =>
      obtain ⟨label, a⟩ := e
      rw [hk] at hcurrent
      dsimp only [Option.bind_some] at hcurrent ⊢
      have hlawful : a.Lawful agree (L label) (D label) := h _ (List.mem_of_getElem? hk)
      have hagrees : forall seen r r', a.writes (s.held k) s.store = some (seen, r, r') ->
          agree seen r :=
        fun seen r r' hw => hcurrent label seen r r' (by rw [hw]; rfl)
      obtain ⟨hafter, hwrites, hanswers⟩ := hlawful.advance hagrees
      refine ⟨?_, ?_, ?_⟩
      · intro e he
        rcases List.mem_or_eq_of_mem_set he with hold | rfl
        · exact h e hold
        · exact hafter
      · intro label' seen r r' hw
        obtain ⟨w, hsome, heq⟩ := Option.map_eq_some_iff.1 hw
        obtain ⟨rfl, rfl⟩ := Prod.mk.inj heq
        exact hwrites seen r r' hsome
      · intro label' result row ha
        obtain ⟨w, hsome, heq⟩ := Option.map_eq_some_iff.1 ha
        obtain ⟨rfl, rfl⟩ := Prod.mk.inj heq
        exact hanswers result row hsome

end RowServer

end Relational
