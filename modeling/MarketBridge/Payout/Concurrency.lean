import MarketBridge.Payout.Service

/-!
# Interleaved payout operations

Every statement is one atomic step, as under `READ COMMITTED`.  An operation in
flight is the list of the writes it has still to issue, computed by the read it
started with, and any number of operations take their steps in any order.

The releases write with a condition on the current status.  The dispute
operations, `cancelPayoutsForOrder` and `markPaidOut` check the status when they
read and write by id alone, so a stale write lands on whatever status the payout
has by then.
-/

namespace MarketBridge

open Relational

def PayoutStatus.isFinal (s : PayoutStatus) : Bool :=
  s = .paidOut || s = .cancelled

/-- The database, the operations in flight, and the payouts marked paid out so far. -/
structure PayoutSession where
  db : Db
  /-- The writes that each operation in flight has still to issue. -/
  tasks : List (List PayoutWrite) := []
  /-- One entry for each time a payout was marked paid out. -/
  marked : List Id := []
deriving Repr

inductive PayoutStep where
  | releaseDuePayouts (updatedAt : UpdatedAt) (now : Nat)
  | releaseInspectorPayoutsForRequest (now : Nat) (inspectionRequestId : Id)
  | holdForDispute (orderId : Id) (disputeType : String)
  | resumeAfterDispute (orderId : Id) (disputeType : String)
  | cancelAfterDispute (orderId : Id)
  | cancelPayoutsForOrder (orderId : Id) (retainInspectionRequestIds : List Id)
  | markPaidOut (payoutId actorId : Id) (payoutReference : Option String)
  /-- The operation number `k` in flight issues its next write. -/
  | statement (k : Nat)
  /-- Something else writes the other tables. -/
  | elsewhere (db : Db)

namespace PayoutWrite

/-- The payouts that a statement marks paid out; a missing row makes it throw. -/
def marks (payouts : Table Payout) : PayoutWrite -> List Id
  | payOut id _ _ => if (payouts.findUnique id).isSome then [id] else []
  | _ => []

def mayOverwrite : PayoutWrite -> PayoutStatus -> Bool
  | hold _, s => !s.isFinal
  | resume _, s => !s.isFinal
  | cancel _, s => s != .paidOut
  | defer _ _, _ => true
  | claim _ _ _, _ => true
  | payOut _ _ _, s => s = .released

end PayoutWrite

namespace PayoutSession

def next (s : PayoutSession) (k : Nat) : Option (PayoutWrite × List PayoutWrite) :=
  match s.tasks[k]? with
  | some (w :: ws) => some (w, ws)
  | _ => none

def start (s : PayoutSession) (ws : List PayoutWrite) : PayoutSession :=
  { s with tasks := s.tasks ++ [ws] }

def step (s : PayoutSession) (a : Env × PayoutStep) : PayoutSession :=
  match a.2 with
  | .releaseDuePayouts updatedAt now =>
      s.start (releaseDuePayoutsWrites a.1 updatedAt now s.db)
  | .releaseInspectorPayoutsForRequest now inspectionRequestId =>
      { s with
        db := { s.db with
          payouts := releaseInspectorPayoutsForRequest now inspectionRequestId s.db } }
  | .holdForDispute orderId disputeType =>
      s.start (holdForDisputeWrites a.1 orderId disputeType s.db)
  | .resumeAfterDispute orderId disputeType =>
      s.start (resumeAfterDisputeWrites orderId disputeType s.db)
  | .cancelAfterDispute orderId => s.start (cancelAfterDisputeWrites orderId s.db)
  | .cancelPayoutsForOrder orderId retainInspectionRequestIds =>
      s.start (cancelPayoutsForOrderWrites orderId retainInspectionRequestIds s.db)
  | .markPaidOut payoutId actorId payoutReference =>
      match markPaidOutWrite payoutId actorId payoutReference s.db with
      | .ok w => s.start [w]
      | .error _ => s
  | .statement k =>
      match s.next k with
      | some (w, ws) =>
          { db := { s.db with payouts := w.apply a.1 s.db.payouts }
            tasks := s.tasks.set k ws
            marked := s.marked ++ w.marks s.db.payouts }
      | none => s
  | .elsewhere db => { s with db := { db with payouts := s.db.payouts } }

end PayoutSession

/-! ## Safety and its condition -/

/-- `PAID_OUT` and `CANCELLED` are kept, and `PAID_OUT` is entered from `RELEASED`. -/
def PayoutStatus.mayBecome (before after : PayoutStatus) : Bool :=
  (!before.isFinal || after = before) &&
    (after != .paidOut || before = .paidOut || before = .released)

def StatusesMove (before after : Table Payout) : Prop :=
  forall i p p', before.findUnique i = some p -> after.findUnique i = some p' ->
    p.status.mayBecome p'.status = true

/-- The step is safe for every payout, and none has been marked paid out twice. -/
def PayoutSession.StepSafe (s : PayoutSession) (a : Env × PayoutStep) : Prop :=
  StatusesMove s.db.payouts (s.step a).db.payouts ∧
    forall i, (s.step a).marked.count i ≤ 1

/--
A write by id lands on a status that it may overwrite: a write of a dispute or
of a cancellation never on a payout paid out in the meantime, one that freezes
or resumes never on a cancelled one, and the write of `markPaidOut` only on a
payout that is still `RELEASED`.
-/
def PayoutSession.landsSafely (s : PayoutSession) (a : Env × PayoutStep) : Bool :=
  match a.2 with
  | .statement k =>
      (s.next k).all fun next =>
        (s.db.payouts.findUnique next.1.id).all fun payout =>
          next.1.mayOverwrite payout.status
  | _ => true

/-! ## One statement -/

@[simp] theorem PayoutStatus.mayBecome_self (s : PayoutStatus) :
    s.mayBecome s = true := by
  cases s <;> rfl

theorem StatusesMove.refl (t : Table Payout) : StatusesMove t t := by
  intro i p p' hp hp'
  rw [hp] at hp'
  have heq : p = p' := Option.some.inj hp'
  rw [heq]
  exact PayoutStatus.mayBecome_self _

def IsPaidOut (t : Table Payout) (i : Id) : Prop :=
  exists p, t.findUnique i = some p ∧ p.status = .paidOut

namespace PayoutWrite

/-- The write of `markPaidOut`. -/
def isPayOut : PayoutWrite -> Bool
  | payOut _ _ _ => true
  | _ => false

theorem findUnique_apply (env : Env) (w : PayoutWrite) (t : Table Payout) (i : Id) :
    (w.apply env t).findUnique i =
      (t.findUnique i).map fun p =>
        if i = w.id ∧ w.guard p = true then w.write env p else p := by
  rw [apply, Table.findUnique_updateMany]
  congr 1
  funext p
  simp

variable {w : PayoutWrite} {t : Table Payout}

theorem mayOverwrite_of_not_guard {p : Payout} (h : w.guard p = false) :
    w.mayOverwrite p.status = true := by
  cases w <;> first | rfl | exact absurd h (by simp [guard])

/-- What a write may do to the status: all but the second `PAID_OUT` is a forbidden move. -/
theorem mayBecome_write (env : Env) {p : Payout} (h : w.guard p = true) :
    p.status.mayBecome (w.write env p).status =
      (w.mayOverwrite p.status || (w.isPayOut && p.status = .paidOut)) := by
  cases w with
  | hold id =>
      cases hs : p.status <;> simp [write, mayOverwrite, isPayOut] <;> decide
  | resume id =>
      cases hs : p.status <;> simp [write, mayOverwrite, isPayOut] <;> decide
  | cancel id =>
      cases hs : p.status <;> simp [write, mayOverwrite, isPayOut] <;> decide
  | defer id releaseAt =>
      simp [write, mayOverwrite]
  | claim id at_ reviewedAt =>
      have hs : p.status = .held := by
        simp only [guard, Bool.and_eq_true, decide_eq_true_eq] at h
        exact h.1
      simp only [write, mayOverwrite, hs]
      rfl
  | payOut id actorId payoutReference =>
      cases hs : p.status <;> simp [write, mayOverwrite, isPayOut] <;> decide

theorem mem_marks {i : Id} :
    i ∈ w.marks t ↔ w.isPayOut = true ∧ i = w.id ∧ (t.findUnique i).isSome = true := by
  cases w with
  | payOut id actorId payoutReference =>
      by_cases hi : i = id
      · subst hi
        simp [marks, isPayOut, PayoutWrite.id]
      · simp [marks, isPayOut, PayoutWrite.id, hi]
  | _ => simp [marks, isPayOut]

/-- Where it may, only the write of `markPaidOut` makes a payout paid out. -/
theorem write_paidOut_iff (env : Env) {p : Payout} (hguard : w.guard p = true)
    (hmay : w.mayOverwrite p.status = true) :
    (w.write env p).status = .paidOut ↔ w.isPayOut = true ∨ p.status = .paidOut := by
  cases w with
  | hold id =>
      have hs : p.status ≠ .paidOut := by
        rintro hs
        simp [mayOverwrite, hs, PayoutStatus.isFinal] at hmay
      simp [write, isPayOut, hs]
  | resume id =>
      have hs : p.status ≠ .paidOut := by
        rintro hs
        simp [mayOverwrite, hs, PayoutStatus.isFinal] at hmay
      simp [write, isPayOut, hs]
  | cancel id =>
      have hs : p.status ≠ .paidOut := by
        simpa [mayOverwrite] using hmay
      simp [write, isPayOut, hs]
  | defer id releaseAt =>
      simp [write, isPayOut]
  | claim id at_ reviewedAt =>
      have hs : p.status = .held := by
        simp only [guard, Bool.and_eq_true, decide_eq_true_eq] at hguard
        exact hguard.1
      simp [write, isPayOut, hs]
  | payOut id actorId payoutReference =>
      simp [write, isPayOut]

def LandsOn (w : PayoutWrite) (t : Table Payout) : Prop :=
  forall p, t.findUnique w.id = some p -> w.mayOverwrite p.status = true

theorem statusesMove_apply (env : Env) (h : w.LandsOn t) :
    StatusesMove t (w.apply env t) := by
  intro i p p' hp hp'
  rw [findUnique_apply, hp, Option.map_some, Option.some.injEq] at hp'
  by_cases hi : i = w.id ∧ w.guard p = true
  · have hmay : w.mayOverwrite p.status = true := h p (hi.1 ▸ hp)
    rw [if_pos hi] at hp'
    rw [← hp', mayBecome_write env hi.2, hmay, Bool.true_or]
  · rw [if_neg hi] at hp'
    rw [← hp']
    exact PayoutStatus.mayBecome_self _

theorem isPaidOut_apply (env : Env) (h : w.LandsOn t) (i : Id) :
    IsPaidOut (w.apply env t) i ↔ IsPaidOut t i ∨ i ∈ w.marks t := by
  unfold IsPaidOut
  rw [findUnique_apply, mem_marks]
  cases hp : t.findUnique i with
  | none =>
      simp
  | some p =>
      by_cases hi : i = w.id
      · have hmay : w.mayOverwrite p.status = true := h p (hi ▸ hp)
        by_cases hg : w.guard p = true
        · simp [hi, hg, write_paidOut_iff env hg hmay, or_comm]
        · have hpay : w.isPayOut = false := by
            cases w <;> first | rfl | exact absurd rfl hg
          simp [hg, hpay]
      · simp [hi]

end PayoutWrite

/-! ## The invariant of a session -/

/-- The marks so far are the payouts paid out, each once, and a stale mark shows. -/
structure PayoutSession.Inv (s : PayoutSession) : Prop where
  /-- A pending mark of a payout already paid out is a second one. -/
  pending : forall ws, ws ∈ s.tasks -> forall w, w ∈ ws -> w.isPayOut = true ->
    IsPaidOut s.db.payouts w.id -> w.id ∈ s.marked
  once : forall i, s.marked.count i ≤ 1
  paid : forall i, i ∈ s.marked -> IsPaidOut s.db.payouts i

namespace PayoutSession

variable {s : PayoutSession} {ws : List PayoutWrite} {w : PayoutWrite}

theorem Inv.start (h : s.Inv)
    (hws : forall w, w ∈ ws -> w.isPayOut = true -> ¬ IsPaidOut s.db.payouts w.id) :
    (s.start ws).Inv := by
  refine ⟨?_, h.once, h.paid⟩
  intro ws' hws' w hw hpay hpaid
  have hmem : ws' ∈ s.tasks ∨ ws' = ws := by
    simpa [PayoutSession.start] using hws'
  cases hmem with
  | inl hold =>
      exact h.pending ws' hold w hw hpay hpaid
  | inr hnew =>
      exact absurd hpaid (hws w (hnew ▸ hw) hpay)

theorem Inv.congr {db : Db} (h : s.Inv)
    (hdb : forall i, IsPaidOut db.payouts i ↔ IsPaidOut s.db.payouts i) :
    Inv { s with db := db } := by
  refine ⟨?_, h.once, ?_⟩
  · intro ws hws w hw hpay hpaid
    exact h.pending ws hws w hw hpay ((hdb _).1 hpaid)
  · intro i hi
    exact (hdb i).2 (h.paid i hi)

theorem next_eq_some {k : Nat} :
    s.next k = some (w, ws) ↔ s.tasks[k]? = some (w :: ws) := by
  unfold next
  split <;> rename_i h <;> simp_all

theorem landsSafely_statement (s : PayoutSession) (env : Env) (k : Nat) :
    s.landsSafely (env, .statement k) = true ↔
      forall w ws, s.next k = some (w, ws) -> w.LandsOn s.db.payouts := by
  simp only [landsSafely, PayoutWrite.LandsOn, Option.all_eq_true]
  constructor
  · intro h w ws hn p hp
    exact h (w, ws) hn p hp
  · intro h next hn p hp
    exact h next.1 next.2 hn p hp

theorem Inv.statement {env : Env} {k : Nat} (h : s.Inv) (hn : s.next k = some (w, ws))
    (hlands : w.LandsOn s.db.payouts) :
    Inv
      { db := { s.db with payouts := w.apply env s.db.payouts }
        tasks := s.tasks.set k ws
        marked := s.marked ++ w.marks s.db.payouts } := by
  have htask : w :: ws ∈ s.tasks := List.mem_of_getElem? (next_eq_some.1 hn)
  have hpaid := PayoutWrite.isPaidOut_apply env hlands
  refine ⟨?_, ?_, ?_⟩
  · intro ws' hws' w' hw' hpay hpaid'
    have hbefore : exists ws₀, ws₀ ∈ s.tasks ∧ w' ∈ ws₀ := by
      cases List.mem_or_eq_of_mem_set hws' with
      | inl hold =>
          exact ⟨ws', hold, hw'⟩
      | inr hnew =>
          exact ⟨w :: ws, htask, List.mem_cons_of_mem w (hnew ▸ hw')⟩
    obtain ⟨ws₀, hws₀, hw₀⟩ := hbefore
    cases (hpaid w'.id).1 hpaid' with
    | inl hp =>
        exact List.mem_append_left _ (h.pending ws₀ hws₀ w' hw₀ hpay hp)
    | inr hmarks =>
        exact List.mem_append_right _ hmarks
  · intro i
    rw [List.count_append]
    have honce := h.once i
    by_cases hi : i ∈ w.marks s.db.payouts
    · -- A payout that is marked now is still `RELEASED`, so it has no mark yet.
      have hnot : i ∉ s.marked := by
        intro hmem
        obtain ⟨p, hp, hs⟩ := h.paid i hmem
        have hmark := PayoutWrite.mem_marks.1 hi
        have hmay := hlands p (hmark.2.1 ▸ hp)
        cases w <;> simp_all [PayoutWrite.mayOverwrite, PayoutWrite.isPayOut]
      have hle : (w.marks s.db.payouts).count i ≤ 1 := by
        refine Nat.le_trans List.count_le_length ?_
        cases w <;> simp [PayoutWrite.marks]
        split <;> simp
      rw [List.count_eq_zero_of_not_mem hnot]
      omega
    · rw [List.count_eq_zero_of_not_mem hi]
      omega
  · intro i hi
    refine (hpaid i).2 ?_
    cases List.mem_append.1 hi with
    | inl hold =>
        exact Or.inl (h.paid i hold)
    | inr hnew =>
        exact Or.inr hnew

theorem isPayOut_of_mem_writesFor {db : Db} {selects : Payout -> Bool} {f : Id -> PayoutWrite}
    (hf : forall i, (f i).isPayOut = false) (hw : w ∈ writesFor db selects f) :
    w.isPayOut = false := by
  unfold writesFor at hw
  obtain ⟨i, -, rfl⟩ := List.mem_map.1 hw
  exact hf i

theorem isPayOut_of_mem_releaseDuePayoutsWrites {env : Env} {updatedAt : UpdatedAt} {now : Nat}
    {db : Db} (hw : w ∈ releaseDuePayoutsWrites env updatedAt now db) :
    w.isPayOut = false := by
  unfold releaseDuePayoutsWrites at hw
  obtain ⟨e, -, he⟩ := List.mem_filterMap.1 hw
  simp only [releaseWrite] at he
  cases hc : completion env updatedAt db e.2 with
  | none =>
      simp [hc] at he
  | some c =>
      rw [hc] at he
      dsimp only at he
      generalize (if c.2.2 then c.1 + c.2.1 else max e.2.releaseAt (c.1 + c.2.1)) = at_ at he
      split at he
      · split at he
        · cases he
          rfl
        · cases he
      · cases he
        rfl

theorem Inv.start_quiet (h : s.Inv) (hws : forall w, w ∈ ws -> w.isPayOut = false) :
    (s.start ws).Inv :=
  h.start fun w hw hpay => absurd hpay (by simp [hws w hw])

theorem markPaidOutWrite_eq_ok {payoutId actorId : Id} {payoutReference : Option String} {db : Db}
    (h : markPaidOutWrite payoutId actorId payoutReference db = .ok w) :
    w = .payOut payoutId actorId payoutReference ∧
      exists p, db.payouts.findUnique payoutId = some p ∧ p.status = .released := by
  unfold markPaidOutWrite at h
  split at h
  · exact absurd h (by simp)
  · rename_i p hp
    split at h
    · rename_i hs
      have hw := Except.ok.inj h
      exact ⟨hw.symm, p, hp, hs⟩
    · exact absurd h (by simp)

theorem releaseInspectorPayoutsForRequest_status (now : Nat) (requestId : Id) (db : Db)
    {i : Id} {p p' : Payout} (hp : db.payouts.findUnique i = some p)
    (hp' : (releaseInspectorPayoutsForRequest now requestId db).findUnique i = some p') :
    p'.status = p.status ∨ p.status = .held ∧ p'.status = .released := by
  rw [releaseInspectorPayoutsForRequest, Table.findUnique_updateMany, hp,
    Option.map_some, Option.some.injEq] at hp'
  split at hp'
  · rename_i hsel
    simp only [Bool.and_eq_true, decide_eq_true_eq] at hsel
    rw [← hp']
    exact Or.inr ⟨hsel.1.1, rfl⟩
  · rw [hp']
    exact Or.inl rfl

theorem isPaidOut_releaseInspectorPayoutsForRequest
    (now : Nat) (requestId : Id) (db : Db) (i : Id) :
    IsPaidOut (releaseInspectorPayoutsForRequest now requestId db) i ↔
      IsPaidOut db.payouts i := by
  unfold IsPaidOut
  cases hp : db.payouts.findUnique i with
  | none =>
      simp [releaseInspectorPayoutsForRequest, Table.findUnique_updateMany, hp]
  | some p =>
      cases hp' : (releaseInspectorPayoutsForRequest now requestId db).findUnique i with
      | none =>
          simp [releaseInspectorPayoutsForRequest, Table.findUnique_updateMany, hp] at hp'
      | some p' =>
          cases releaseInspectorPayoutsForRequest_status now requestId db hp hp' with
          | inl hsame =>
              simp [hsame]
          | inr hmove =>
              simp [hmove.1, hmove.2]

theorem Inv.step {a : Env × PayoutStep} (h : s.Inv) (hlands : s.landsSafely a = true) :
    (s.step a).Inv := by
  obtain ⟨env, a⟩ := a
  cases a with
  | releaseDuePayouts updatedAt now =>
      exact h.start_quiet fun w => isPayOut_of_mem_releaseDuePayoutsWrites
  | releaseInspectorPayoutsForRequest now requestId =>
      exact h.congr (isPaidOut_releaseInspectorPayoutsForRequest now requestId s.db)
  | holdForDispute orderId disputeType =>
      exact h.start_quiet fun w => isPayOut_of_mem_writesFor fun _ => rfl
  | resumeAfterDispute orderId disputeType =>
      exact h.start_quiet fun w => isPayOut_of_mem_writesFor fun _ => rfl
  | cancelAfterDispute orderId =>
      exact h.start_quiet fun w => isPayOut_of_mem_writesFor fun _ => rfl
  | cancelPayoutsForOrder orderId retain =>
      exact h.start_quiet fun w => isPayOut_of_mem_writesFor fun _ => rfl
  | markPaidOut payoutId actorId payoutReference =>
      simp only [PayoutSession.step]
      split
      · rename_i w hw
        obtain ⟨rfl, p, hp, hs⟩ := markPaidOutWrite_eq_ok hw
        apply h.start
        intro w' hw' _ hpaid
        rw [List.mem_singleton.1 hw'] at hpaid
        obtain ⟨q, hq, hqs⟩ := hpaid
        simp only [PayoutWrite.id] at hq
        rw [hp] at hq
        cases hq
        rw [hs] at hqs
        cases hqs
      · exact h
  | statement k =>
      have hstmt := (landsSafely_statement s env k).1 hlands
      simp only [PayoutSession.step]
      split
      · rename_i w ws hn
        exact h.statement hn (hstmt w ws hn)
      · exact h
  | elsewhere db =>
      exact h.congr fun _ => Iff.rfl

theorem stepSafe_iff {a : Env × PayoutStep} (h : s.Inv) :
    s.StepSafe a ↔ s.landsSafely a = true := by
  constructor
  · intro hsafe
    obtain ⟨env, a⟩ := a
    cases a with
    | statement k =>
        rw [landsSafely_statement]
        intro w ws hn p hp
        by_cases hg : w.guard p = true
        · have hstep : s.step (env, .statement k) =
              { db := { s.db with payouts := w.apply env s.db.payouts }
                tasks := s.tasks.set k ws
                marked := s.marked ++ w.marks s.db.payouts } := by
            simp [PayoutSession.step, hn]
          obtain ⟨hmoves, honce⟩ := hsafe
          rw [hstep] at hmoves honce
          have hafter : (w.apply env s.db.payouts).findUnique w.id =
              some (w.write env p) := by
            simp [PayoutWrite.findUnique_apply, hp, hg]
          have hmove := hmoves w.id p _ hp hafter
          rw [PayoutWrite.mayBecome_write env hg, Bool.or_eq_true] at hmove
          cases hmove with
          | inl hmay =>
              exact hmay
          | inr hagain =>
              -- The payout is paid out already, so this would be its second mark.
              rw [Bool.and_eq_true, decide_eq_true_eq] at hagain
              have htask : w :: ws ∈ s.tasks := List.mem_of_getElem? (next_eq_some.1 hn)
              have hmarked : w.id ∈ s.marked :=
                h.pending (w :: ws) htask w List.mem_cons_self hagain.1 ⟨p, hp, hagain.2⟩
              have hmark : w.id ∈ w.marks s.db.payouts :=
                PayoutWrite.mem_marks.2 ⟨hagain.1, rfl, by simp [hp]⟩
              have htwice := honce w.id
              rw [List.count_append] at htwice
              have h1 := List.count_pos_iff.2 hmarked
              have h2 := List.count_pos_iff.2 hmark
              omega
        · exact PayoutWrite.mayOverwrite_of_not_guard (by simpa using hg)
    | _ => rfl
  · intro hlands
    refine ⟨?_, (h.step hlands).once⟩
    obtain ⟨env, a⟩ := a
    cases a with
    | releaseInspectorPayoutsForRequest now requestId =>
        intro i p p' hp hp'
        cases releaseInspectorPayoutsForRequest_status now requestId s.db hp hp' with
        | inl hsame =>
            rw [hsame]
            exact PayoutStatus.mayBecome_self _
        | inr hmove =>
            rw [hmove.1, hmove.2]
            rfl
    | markPaidOut payoutId actorId payoutReference =>
        simp only [PayoutSession.step]
        split <;> exact StatusesMove.refl _
    | statement k =>
        have hstmt := (landsSafely_statement s env k).1 hlands
        simp only [PayoutSession.step]
        split
        · rename_i w ws hn
          exact PayoutWrite.statusesMove_apply env (hstmt w ws hn)
        · exact StatusesMove.refl _
    | _ => exact StatusesMove.refl _

theorem Inv.fresh (db : Db) : Inv { db := db } := by
  constructor <;> simp

end PayoutSession

/-! ## Runs -/

/--
From a database with nothing in flight: every step of a run is safe, and no
payout is marked paid out twice, exactly when every write by id lands on a
status that it may overwrite.
-/
theorem payoutOperations_safe_iff (db : Db) (as : List (Env × PayoutStep)) :
    RunMeets PayoutSession.step PayoutSession.StepSafe { db := db } as ↔
      RunMeets PayoutSession.step (fun s a => s.landsSafely a = true) { db := db } as :=
  runMeets_iff_of_invariant PayoutSession.Inv
    (fun s a h => PayoutSession.stepSafe_iff (s := s) (a := a) h)
    (fun s a h hlands => PayoutSession.Inv.step (s := s) (a := a) h hlands)
    (PayoutSession.Inv.fresh db)

/-- A database with one released payout, of a seller. -/
def releasedDb : Db :=
  { payouts := Table.empty.create
      { orderId := some 0
        payeeRole := .seller
        payeeId := 1
        paymentId := 0
        amount := 100
        status := .released
        releaseAt := 0 } }

/-- The order is cancelled between the read and the write of `markPaidOut`. -/
def cancelledInBetween : List (Env × PayoutStep) :=
  [(env0, .markPaidOut 0 9 none), (env0, .cancelPayoutsForOrder 0 []),
    (env0, .statement 1), (env0, .statement 0)]

/-- Two calls of `markPaidOut` read before either writes. -/
def markedTogether : List (Env × PayoutStep) :=
  [(env0, .markPaidOut 0 9 none), (env0, .markPaidOut 0 9 none),
    (env0, .statement 0), (env0, .statement 1)]

/-- A cancelled payout becomes `PAID_OUT`, and one payout is marked paid out twice. -/
theorem payouts_leave_cancelled_and_are_paid_twice :
    (¬ RunMeets PayoutSession.step PayoutSession.StepSafe { db := releasedDb }
      cancelledInBetween) ∧
    (run PayoutSession.step { db := releasedDb } markedTogether).marked.count 0 = 2 := by
  refine ⟨?_, by decide +kernel⟩
  intro h
  obtain ⟨hmoves, -⟩ := h.2.2.2.1
  have hmove := hmoves 0
    { orderId := some 0, payeeRole := .seller, payeeId := 1, paymentId := 0, amount := 100
      status := .cancelled, releaseAt := 0 }
    { orderId := some 0, payeeRole := .seller, payeeId := 1, paymentId := 0, amount := 100
      status := .paidOut, releaseAt := 0, paidOutAt := some 0, paidOutById := some 9 }
    (by decide +kernel) (by decide +kernel)
  exact absurd hmove (by decide)

end MarketBridge
