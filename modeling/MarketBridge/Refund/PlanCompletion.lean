import MarketBridge.Refund.Interleaved

/-!
# Completing the refund of an installment plan

The refunds of all installments of a plan are completed, each in a transaction
of its own, in any interleaving.  Every transaction reads the installments as
the others have committed them so far.  So the parent is refunded with them only
if one of the transactions reads the installments after all the others have
committed; two that overlap both take the other for unfinished, and the parent
stays `REFUND_PENDING` for good.
-/

namespace MarketBridge

open Relational

/-! ## The plan and its runs -/

/-- Refund `j` is under way and returns a live installment of the plan. -/
structure IsRefunding (db : Db) (parentId j : Id) (r : PaymentRefund) (child : Payment) :
    Prop where
  refund : db.refunds.findUnique j = some r
  processing : r.status = .processing
  payment : db.payments.findUnique r.paymentId = some child
  ofPlan : child.parentPaymentId = some parentId
  live : child.installmentSequence.isSome = true
  pending : child.status = .refundPending

/-- A plan whose parent and live installments wait for the refunds to be completed. -/
structure RefundingPlan (db : Db) (parentId : Id) (parent : Payment)
    (refunds : List (Env × Id)) : Prop where
  found : db.payments.findUnique parentId = some parent
  isParent : parent.isInstallmentParent = true
  pending : parent.status = .refundPending
  root : parent.parentPaymentId = none
  obligation : forall o, parent.obligationId = some o ->
    exists b, db.obligations.findUnique o = some b
  refunding : forall (k : Nat) e, refunds[k]? = some e ->
    exists r child, IsRefunding db parentId e.2 r child
  /-- Each transaction returns an installment of its own. -/
  distinct : forall (k k' : Nat) e e' r r', refunds[k]? = some e -> refunds[k']? = some e' ->
    db.refunds.findUnique e.2 = some r -> db.refunds.findUnique e'.2 = some r' ->
    r.paymentId = r'.paymentId -> k = k'
  covered : forall i child, db.payments.findUnique i = some child ->
    child.parentPaymentId = some parentId -> child.installmentSequence.isSome = true ->
    exists (k : Nat) (e : Env × Id) (r : PaymentRefund), refunds[k]? = some e ∧
      db.refunds.findUnique e.2 = some r ∧ r.paymentId = i

abbrev RefundSession :=
  Session ApiError Db

def startRefunds (db : Db) (refunds : List (Env × Id)) : RefundSession :=
  .start db (refunds.map fun e => completeRefundTxn e.1 e.2)

def refundsAfter (db : Db) (refunds : List (Env × Id)) (steps : List Nat) : RefundSession :=
  run Session.step (startRefunds db refunds) steps

def AllCommitted (refunds : List (Env × Id)) (s : RefundSession) : Prop :=
  forall k, k < refunds.length -> s.IsCommitted k

def IsPaymentStatus (db : Db) (id : Id) (status : PaymentStatus) : Prop :=
  exists p, db.payments.findUnique id = some p ∧ p.status = status

def ParentRefunded (db : Db) (parentId : Id) (parent : Payment) : Prop :=
  IsPaymentStatus db parentId .refunded ∧
    forall o, parent.obligationId = some o ->
      exists b, db.obligations.findUnique o = some b ∧ b.status = .cancelled

def NeverTooEarly (db : Db) (parentId : Id) (refunds : List (Env × Id)) (steps : List Nat) :
    Prop :=
  forall before after, steps = before ++ after ->
    IsPaymentStatus (refundsAfter db refunds before).state parentId .refunded ->
    installmentsHeld (refundsAfter db refunds before).state parentId = false

/-! ## The condition -/

def NoReplacedHeld (db : Db) (parentId : Id) : Prop :=
  forall i child, db.payments.findUnique i = some child ->
    child.parentPaymentId = some parentId -> child.installmentSequence = none ->
    child.status ∉ [PaymentStatus.paid, .refundPending, .processing]

/--
Transaction `k` reads the installments, with the sixth of its statements, when all
the others have committed.
-/
def ReadsLast (db : Db) (refunds : List (Env × Id)) (steps : List Nat) (k : Nat) : Prop :=
  exists before after, steps = before ++ k :: after ∧ before.count k = 5 ∧
    forall i, i < refunds.length -> i ≠ k -> (refundsAfter db refunds before).IsCommitted i

def SomeReadsLast (db : Db) (refunds : List (Env × Id)) (steps : List Nat) : Prop :=
  exists k, k < refunds.length ∧ ReadsLast db refunds steps k

variable {refunds : List (Env × Id)} {steps : List Nat}

theorem readsLast_append {db : Db} {k : Nat} (x : Nat) (h : ReadsLast db refunds steps k) :
    ReadsLast db refunds (steps ++ [x]) k := by
  obtain ⟨before, after, rfl, hcount, hothers⟩ := h
  exact ⟨before, after ++ [x], by simp, hcount, hothers⟩

theorem readsLast_append_iff {db : Db} {k x : Nat} (hdone : x ≠ k ∨ steps.count k ≠ 5) :
    ReadsLast db refunds (steps ++ [x]) k ↔ ReadsLast db refunds steps k := by
  constructor
  · rintro ⟨before, after, hsplit, hcount, hothers⟩
    rcases List.eq_nil_or_concat after with rfl | ⟨after, y, rfl⟩
    · obtain ⟨rfl, hxk⟩ := List.append_inj' hsplit rfl
      obtain rfl : x = k := by simpa using hxk
      cases hdone with
      | inl hne => exact absurd rfl hne
      | inr hne => exact absurd hcount hne
    · have hsplit' : steps ++ [x] = (before ++ k :: after) ++ [y] := by simpa using hsplit
      obtain ⟨rfl, -⟩ := List.append_inj' hsplit' rfl
      exact ⟨before, after, rfl, hcount, hothers⟩
  · exact readsLast_append x

theorem readsLast_of_sixth {db : Db} {k : Nat} (hcount : steps.count k = 5) :
    ReadsLast db refunds (steps ++ [k]) k ↔
      forall i, i < refunds.length -> i ≠ k -> (refundsAfter db refunds steps).IsCommitted i := by
  constructor
  · rintro ⟨before, after, hsplit, hbefore, hothers⟩
    rcases List.eq_nil_or_concat after with rfl | ⟨after, y, rfl⟩
    · obtain ⟨rfl, -⟩ := List.append_inj' hsplit rfl
      exact hothers
    · have hsplit' : steps ++ [k] = (before ++ k :: after) ++ [y] := by simpa using hsplit
      obtain ⟨rfl, -⟩ := List.append_inj' hsplit' rfl
      simp [hbefore] at hcount
  · intro hothers
    exact ⟨steps, [], by simp, hcount, hothers⟩

/-! ## Writes of a transaction -/

def childWrites (env : Env) (j paymentId : Id) : Db -> Db :=
  setPayment paymentId (·.withStatus .refunded) ∘
    moveRefundRow j PaymentRefundStatus.isOpen (·.complete env.now)

def leaveWrites (env : Env) (j paymentId : Id) (child : Payment) : Db -> Db :=
  recordOrderEvent env child.orderId .paymentRefunded ∘ childWrites env j paymentId

def closeWrites (env : Env) (j paymentId : Id) (child : Payment) (parentId : Id)
    (parent : Payment) : Db -> Db :=
  recordOrderEvent env child.orderId .paymentRefunded ∘ cancelObligation parent.obligationId ∘
    setPayment parentId (·.withStatus .refunded) ∘ childWrites env j paymentId

theorem recordOrderEvent_obligations (env : Env) (orderId : Option Id) (type : OrderEventType)
    (db : Db) :
    (recordOrderEvent env orderId type db).obligations = db.obligations := by
  cases orderId <;> rfl

@[simp] theorem cancelObligation_payments (o : Option Id) (db : Db) :
    (cancelObligation o db).payments = db.payments := by
  cases o <;> rfl

@[simp] theorem cancelObligation_refunds (o : Option Id) (db : Db) :
    (cancelObligation o db).refunds = db.refunds := by
  cases o <;> rfl

section Writes

variable (env : Env) (j paymentId : Id) (child : Payment) (parentId : Id) (parent : Payment)
  (db : Db)

@[simp] theorem childWrites_payments :
    (childWrites env j paymentId db).payments =
      db.payments.update paymentId (·.withStatus .refunded) :=
  rfl

theorem leaveWrites_payments :
    (leaveWrites env j paymentId child db).payments =
      db.payments.update paymentId (·.withStatus .refunded) := by
  simp [leaveWrites]

theorem leaveWrites_obligations :
    (leaveWrites env j paymentId child db).obligations = db.obligations := by
  unfold leaveWrites
  rw [Function.comp_apply, recordOrderEvent_obligations]
  rfl

theorem closeWrites_payments :
    (closeWrites env j paymentId child parentId parent db).payments =
      (db.payments.update paymentId (·.withStatus .refunded)).update parentId
        (·.withStatus .refunded) := by
  simp [closeWrites, setPayment]

theorem leaveWrites_refunds_of_ne {i : Id} (hi : i ≠ j) :
    (leaveWrites env j paymentId child db).refunds.findUnique i = db.refunds.findUnique i := by
  have hrow : (leaveWrites env j paymentId child db).refunds =
      db.refunds.updateMany (fun i r => i == j && r.status.isOpen) (·.complete env.now) := by
    simp [leaveWrites, childWrites, setPayment, moveRefundRow]
  rw [hrow, Table.findUnique_updateMany]
  cases db.refunds.findUnique i <;> simp [hi]

theorem closeWrites_refunds_of_ne {i : Id} (hi : i ≠ j) :
    (closeWrites env j paymentId child parentId parent db).refunds.findUnique i =
      db.refunds.findUnique i := by
  have hrow : (closeWrites env j paymentId child parentId parent db).refunds =
      db.refunds.updateMany (fun i r => i == j && r.status.isOpen) (·.complete env.now) := by
    simp [closeWrites, childWrites, setPayment, moveRefundRow]
  rw [hrow, Table.findUnique_updateMany]
  cases db.refunds.findUnique i <;> simp [hi]

theorem closeWrites_obligation {o : Id} (ho : parent.obligationId = some o)
    {b : PaymentObligation} (hb : db.obligations.findUnique o = some b) :
    exists b', (closeWrites env j paymentId child parentId parent db).obligations.findUnique o =
      some b' ∧ b'.status = .cancelled := by
  refine ⟨{ b with status := .cancelled }, ?_, rfl⟩
  unfold closeWrites
  rw [Function.comp_apply, recordOrderEvent_obligations]
  simp [cancelObligation, ho, setPayment, childWrites, moveRefundRow, hb]

end Writes

end MarketBridge
