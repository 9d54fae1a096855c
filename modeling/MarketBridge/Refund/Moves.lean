import Mathlib.Logic.Relation
import MarketBridge.Refund.Frame
import MarketBridge.Refund.Requests

/-!
# How refund operations move payments

A refund operation moves payments along three edges: a received payment comes
under refund, a payment under refund is received again when its refund fails, and
it is refunded when the refund is completed.
-/

namespace MarketBridge

open Relational

/-! ## Moves of payments -/

def Payment.core (p : Payment) : Payment :=
  { p with
    status := .pending
    provider := none
    providerTransactionId := none
    reference := none
    obligationId := none }

section Core

variable {p p' : Payment}

theorem Payment.core_type (h : p'.core = p.core) : p'.type = p.type := by
  have hsame : p'.core.type = p.core.type := congrArg Payment.type h
  exact hsame

theorem Payment.core_amount (h : p'.core = p.core) : p'.amount = p.amount := by
  have hsame : p'.core.amount = p.core.amount := congrArg Payment.amount h
  exact hsame

theorem Payment.core_parentPaymentId (h : p'.core = p.core) :
    p'.parentPaymentId = p.parentPaymentId := by
  have hsame : p'.core.parentPaymentId = p.core.parentPaymentId :=
    congrArg Payment.parentPaymentId h
  exact hsame

theorem Payment.core_installmentCount (h : p'.core = p.core) :
    p'.installmentCount = p.installmentCount := by
  have hsame : p'.core.installmentCount = p.core.installmentCount :=
    congrArg Payment.installmentCount h
  exact hsame

end Core

abbrev StatusEdges : Type :=
  Id -> PaymentStatus -> PaymentStatus -> Prop

def Moved (edges : StatusEdges) (i : Id) (p p' : Payment) : Prop :=
  p'.core = p.core ∧ Relation.ReflTransGen (edges i) p.status p'.status

theorem Moved.refl (edges : StatusEdges) (i : Id) (p : Payment) : Moved edges i p p :=
  ⟨rfl, .refl⟩

theorem Moved.trans {edges : StatusEdges} {i : Id} {p q r : Payment} (h : Moved edges i p q)
    (h' : Moved edges i q r) :
    Moved edges i p r :=
  ⟨h'.1.trans h.1, h.2.trans h'.2⟩

theorem Moved.mono {edges edges' : StatusEdges} {i : Id} {p p' : Payment}
    (h : Moved edges i p p') (hedges : forall s s', edges i s s' -> edges' i s s') :
    Moved edges' i p p' :=
  ⟨h.1, Relation.ReflTransGen.mono hedges _ _ h.2⟩

abbrev PaymentsMoved (edges : StatusEdges) (db db' : Db) : Prop :=
  db.payments.Rel (Moved edges) db'.payments

section PaymentsMoved

variable {edges : StatusEdges} {db db' db'' : Db}

theorem PaymentsMoved.of_eq (h : db'.payments = db.payments) : PaymentsMoved edges db db' := by
  unfold PaymentsMoved
  rw [h]
  exact .refl (Moved.refl edges) _

theorem PaymentsMoved.trans (h : PaymentsMoved edges db db') (h' : PaymentsMoved edges db' db'') :
    PaymentsMoved edges db db'' :=
  Table.Rel.trans (fun _ _ _ _ => Moved.trans) h h'

theorem PaymentsMoved.mono {edges' : StatusEdges} (h : PaymentsMoved edges db db')
    (hedges : forall i s s', edges i s s' -> edges' i s s') :
    PaymentsMoved edges' db db' :=
  Table.Rel.mono h fun i _ _ hmoved => hmoved.mono (hedges i)

theorem paymentsMoved_status {k : Id} {s : PaymentStatus}
    (hedge : forall p, db.payments.findUnique k = some p ->
      Relation.ReflTransGen (edges k) p.status s)
    (hpayments : db'.payments = db.payments.update k (·.withStatus s)) :
    PaymentsMoved edges db db' := by
  unfold PaymentsMoved
  rw [hpayments]
  exact Table.rel_update (Moved.refl edges) fun p hp => ⟨rfl, hedge p hp⟩

end PaymentsMoved

/-! ## Edges of the refund operations -/

section Refunds

variable {edges : StatusEdges} {env : Env} {db db' : Db}

theorem requestRefund_status {paymentId id : Id} {amount : Option JsNumber}
    {reason : Option String} {requestedById : Option Id}
    (h : requestRefund env paymentId amount reason requestedById db = .ok (db', id)) :
    exists p, db.payments.findUnique paymentId = some p ∧
      p.status ∈ [PaymentStatus.paid, .refundPending] := by
  unfold requestRefund at h
  split at h
  · cases h
  · next p hp =>
      split at h
      · next hs => exact ⟨p, hp, hs⟩
      · cases h

theorem requestRefund_moved {paymentId id : Id} {amount : Option JsNumber}
    {reason : Option String} {requestedById : Option Id}
    (hstart : ¬ HasBlockingRefund db paymentId -> edges paymentId .paid .refundPending)
    (h : requestRefund env paymentId amount reason requestedById db = .ok (db', id)) :
    PaymentsMoved edges db db' := by
  obtain ⟨p, hp, hs⟩ := requestRefund_status h
  obtain ⟨q, hq, hcases⟩ := requestRefund_cases h
  have hpq : p = q := Option.some.inj (hp.symm.trans hq)
  subst hpq
  rcases hcases with ⟨rfl, -⟩ | ⟨-, hrequested⟩
  · exact .of_eq rfl
  · have hfree : ¬ HasBlockingRefund db paymentId := by
      rintro ⟨j, r, hr, howner, hblocks⟩
      cases hrs : r.status with
      | requested =>
          exact hrequested.none_open j ⟨r, hr, howner, by rw [hrs]; rfl⟩
      | processing =>
          exact hrequested.none_open j ⟨r, hr, howner, by rw [hrs]; rfl⟩
      | completed =>
          exact hrequested.none_completed j ⟨r, hr, howner, by rw [hrs]; rfl⟩
      | failed =>
          rw [hrs] at hblocks
          cases hblocks
      | cancelled =>
          rw [hrs] at hblocks
          cases hblocks
    obtain ⟨r, events, -, -, -, hdb'⟩ := hrequested.writes
    refine paymentsMoved_status ?_ (by rw [hdb'])
    intro p' hp'
    rw [hp, Option.some.injEq] at hp'
    subst hp'
    simp only [List.mem_cons, List.not_mem_nil, or_false] at hs
    rcases hs with hs | hs
    · rw [hs]
      exact .single (hstart hfree)
    · rw [hs]

theorem failRefund_moved (hgive : forall i, edges i .refundPending .paid) (env : Env)
    (refundId : Id) (failureReason : Option String) (allowProcessing : Bool) (db : Db) :
    PaymentsMoved edges db (failRefund env refundId failureReason allowProcessing db).1 := by
  unfold failRefund
  split
  · exact .of_eq rfl
  · next refund hrefund =>
      split
      · exact .of_eq rfl
      · dsimp only
        split
        · exact .of_eq rfl
        · next db₁ moved hmove =>
            rcases movePayment_cases hmove with ⟨-, rfl, -⟩ | ⟨-, p, hp, hs, -, rfl⟩
            · exact .of_eq (recordOrderEvent_payments _ _ _ _)
            · refine paymentsMoved_status ?_ (recordOrderEvent_payments _ _ _ _)
              intro p' hp'
              have hpp' : p = p' := Option.some.inj (hp.symm.trans hp')
              subst hpp'
              rw [hs]
              exact .single (hgive _)

/-- The refund is open, and neither its order nor its payment stands in the way. -/
def Completable (db : Db) (j : Id) : Prop :=
  exists r p, db.refunds.findUnique j = some r ∧ r.status.isOpen = true ∧
    db.payments.findUnique r.paymentId = some p ∧ assertOrderCancelled "completion" p db = .ok () ∧
    canTransition p.status .refunded = true

theorem markParentOfInstallment_moved {payment : Payment}
    (hdone : forall i, edges i .refundPending .refunded)
    (h : markParentOfInstallment payment db = .ok db') :
    PaymentsMoved edges db db' := by
  unfold markParentOfInstallment markParentRefundedIfComplete at h
  split at h
  · obtain rfl := Except.ok.inj h
    exact .of_eq rfl
  · next parentId _ =>
      split at h
      · obtain rfl := Except.ok.inj h
        exact .of_eq rfl
      · next parent hparent =>
          dsimp only at h
          split at h
          · next hcomplete =>
              rw [bind_eq_ok] at h
              obtain ⟨written, hwrite, h⟩ := h
              obtain ⟨-, -, -, rfl⟩ := updatePayment_eq_ok_iff.mp hwrite
              simp only [Bool.and_eq_true, decide_eq_true_eq] at hcomplete
              have hedge : forall p, db.payments.findUnique parentId = some p ->
                  Relation.ReflTransGen (edges parentId) p.status .refunded := by
                intro p hp
                rw [hparent, Option.some.injEq] at hp
                rw [← hp, hcomplete.1.2]
                exact .single (hdone _)
              split at h
              · obtain rfl := Except.ok.inj h
                exact paymentsMoved_status hedge rfl
              · obtain rfl := Except.ok.inj h
                exact paymentsMoved_status hedge rfl
          · obtain rfl := Except.ok.inj h
            exact .of_eq rfl

theorem completeRefund_moved {refundId : Id}
    (hdone : Completable db refundId -> forall i, edges i .refundPending .refunded)
    (h : completeRefund env refundId db = .ok db') :
    PaymentsMoved edges db db' := by
  unfold completeRefund at h
  split at h
  · cases h
  · next fresh hfresh =>
      split at h
      · obtain rfl := Except.ok.inj h
        exact .of_eq rfl
      · obtain ⟨hopen, h⟩ := guard_eq_ok.mp h
        split at h
        · cases h
        · next payment hpayment =>
            simp only [bind_eq_ok] at h
            obtain ⟨_, hcancelled, _, htransition, ⟨claimedDb, claimed⟩, hmove, h⟩ := h
            have hcan := assertTransition_eq_ok_iff.mp htransition
            have hedges := hdone ⟨fresh, payment, hfresh, by simpa using hopen, hpayment,
              hcancelled, hcan⟩
            have hclaimed : claimedDb.payments = db.payments := by
              rcases moveRefund_cases hmove with ⟨-, rfl⟩ | ⟨-, r, -, -, -, rfl⟩
              · rfl
              · rfl
            have hclaim : PaymentsMoved edges db claimedDb := .of_eq hclaimed
            dsimp only at h
            split at h
            · simp only [bind_eq_ok] at h
              obtain ⟨written, hwrite, marked, hmark, h⟩ := h
              obtain rfl := Except.ok.inj h
              obtain ⟨p, hp, -, rfl⟩ := updatePayment_eq_ok_iff.mp hwrite
              have hrefunded : PaymentsMoved edges claimedDb { claimedDb with
                  payments := claimedDb.payments.update fresh.paymentId
                    (·.withStatus .refunded) } := by
                refine paymentsMoved_status ?_ rfl
                intro q hq
                rw [hclaimed, hpayment, Option.some.injEq] at hq
                subst hq
                rcases (canTransition_refunded_iff _).mp hcan with hs | hs
                · rw [hs]
                · rw [hs]
                  exact .single (hedges _)
              have hmarked := markParentOfInstallment_moved hedges hmark
              exact ((hclaim.trans hrefunded).trans hmarked).trans
                (.of_eq (recordOrderEvent_payments _ _ _ _))
            · obtain rfl := Except.ok.inj h
              exact hclaim

theorem finalizeRefund_moved {refundId : Id} {providerStatus : Option String}
    (hdone : providerStatus = some "refunded" ∧ Completable db refundId ->
      forall i, edges i .refundPending .refunded)
    (h : finalizeRefund env refundId providerStatus db = .ok db') :
    PaymentsMoved edges db db' := by
  unfold finalizeRefund at h
  split at h
  · cases h
  · split at h
    · obtain rfl := Except.ok.inj h
      exact .of_eq rfl
    · obtain ⟨hstatus, h⟩ := guard_eq_ok.mp h
      exact completeRefund_moved (fun hcompletable => hdone ⟨not_not.mp hstatus, hcompletable⟩) h

def ReportsRefunded (answer : Except ApiError String) : Prop :=
  exists status, answer = .ok status ∧ RefundVerification.ofText status = .refunded

theorem verifyAndFinalizeRefund_moved {refundId : Id} {answer : Except ApiError String}
    (hgive : forall i, edges i .refundPending .paid)
    (hdone : ReportsRefunded answer ∧ Completable db refundId ->
      forall i, edges i .refundPending .refunded) :
    PaymentsMoved edges db (verifyAndFinalizeRefund env refundId answer db).1 := by
  unfold verifyAndFinalizeRefund
  split
  · exact .of_eq rfl
  · split
    · exact .of_eq rfl
    · split
      · exact .of_eq rfl
      · split
        · exact .of_eq rfl
        · next status =>
            split
            · next hrefunded =>
                split
                · exact .of_eq rfl
                · next hfinal =>
                    exact finalizeRefund_moved
                      (fun hcan => hdone ⟨⟨status, rfl, hrefunded⟩, hcan.2⟩) hfinal
            · exact failRefund_moved hgive env refundId _ true db
            · split
              · exact .of_eq rfl
              · next hmove =>
                  rcases moveRefund_cases hmove with ⟨-, rfl⟩ | ⟨-, r, -, -, -, rfl⟩
                  · exact .of_eq rfl
                  · exact .of_eq rfl

theorem refundSubmissionFailed_moved (hgive : forall i, edges i .refundPending .paid)
    (refundId : Id) (e : ApiError) :
    PaymentsMoved edges db (refundSubmissionFailed env refundId e db).1 := by
  have hfail := failRefund_moved hgive env refundId (some e.message) true db
  unfold refundSubmissionFailed
  split
  · split
    · next hfailed =>
        rw [hfailed] at hfail
        exact hfail
    · next hfailed =>
        rw [hfailed] at hfail
        exact hfail
  · split
    · exact .of_eq rfl
    · next hmove =>
        rcases moveRefund_cases hmove with ⟨-, rfl⟩ | ⟨-, r, -, -, -, rfl⟩
        · exact .of_eq rfl
        · exact .of_eq rfl

theorem Completable.of_write {refundId : Id} {f : PaymentRefund -> PaymentRefund}
    {r : PaymentRefund} (hr : db.refunds.findUnique refundId = some r)
    (hopen : r.status.isOpen = true) (howner : (f r).paymentId = r.paymentId)
    (h : Completable { db with refunds := db.refunds.update refundId f } refundId) :
    Completable db refundId := by
  obtain ⟨q, p, hq, -, hp, hcancelled, hcan⟩ := h
  simp only [Table.findUnique_update_self, hr, Option.map_some, Option.some.injEq] at hq
  subst hq
  exact ⟨r, p, hr, hopen, by rw [← howner]; exact hp, hcancelled, hcan⟩

theorem processRefund_moved {refundId : Id} {answers : ProviderAnswers}
    (hgive : forall i, edges i .refundPending .paid)
    (hdone : ReportsRefunded answers.verification ∧ Completable db refundId ->
      forall i, edges i .refundPending .refunded) :
    PaymentsMoved edges db (processRefund env refundId answers db).1 := by
  unfold processRefund
  split
  · exact .of_eq rfl
  · exact .of_eq rfl
  · next claimed provider hclaim =>
      obtain ⟨r, p, hr, hrequested, hp, -, -, rfl⟩ := claimForProcessing_eq_ok hclaim
      have hopen : r.status.isOpen = true := by
        rw [hrequested]
        rfl
      have hsubmit : PaymentsMoved edges db
          { db with refunds := db.refunds.update refundId (·.submit provider) } :=
        .of_eq rfl
      split
      · exact hsubmit.trans (refundSubmissionFailed_moved hgive refundId _)
      · next refId _ =>
          split
          · exact hsubmit.trans (refundSubmissionFailed_moved hgive refundId _)
          · next hmove =>
              rcases moveRefund_cases hmove with ⟨-, rfl⟩ | ⟨-, q, -, -, -, rfl⟩
              · exact .of_eq rfl
              · exact .of_eq rfl
          · next hmove =>
              refine hsubmit.trans ?_
              rcases moveRefund_cases hmove with ⟨hfalse, -⟩ | ⟨-, q, hq, hqs, -, rfl⟩
              · cases hfalse
              · have haccept : PaymentsMoved edges
                    { db with refunds := db.refunds.update refundId (·.submit provider) }
                    { db with
                      refunds := (db.refunds.update refundId (·.submit provider)).update refundId
                        (·.accept provider refId) } :=
                  .of_eq rfl
                refine haccept.trans (verifyAndFinalizeRefund_moved hgive ?_)
                rintro ⟨hreports, hcan⟩
                apply hdone ⟨hreports, ?_⟩
                have hsubmitted := Completable.of_write hq
                  (by rw [of_decide_eq_true hqs]; rfl) rfl hcan
                exact Completable.of_write hr hopen rfl hsubmitted

theorem assertOrderCancelled_congr {action : String} {p p' : Payment}
    (horder : p'.orderId = p.orderId) (htype : p'.type = p.type)
    (hrequest : p'.inspectionRequestId = p.inspectionRequestId)
    (horders : db'.orders = db.orders)
    (hrequests : db'.inspectionRequests = db.inspectionRequests) :
    assertOrderCancelled action p' db' = assertOrderCancelled action p db := by
  unfold assertOrderCancelled isStalledInspectionRefund
  rw [horder, htype, hrequest, horders, hrequests]

/-- The refund that a retry submits is one of the payment of the failed refund. -/
theorem retryRefund_moved {refundId : Id} {actorId : Option Id} {note : Option String}
    {answers : ProviderAnswers}
    (hstart : forall r, db.refunds.findUnique refundId = some r ->
      ¬ HasBlockingRefund db r.paymentId -> edges r.paymentId .paid .refundPending)
    (hgive : forall i, edges i .refundPending .paid)
    (hdone : ReportsRefunded answers.verification ∧
        (exists r p, db.refunds.findUnique refundId = some r ∧
          db.payments.findUnique r.paymentId = some p ∧
          assertOrderCancelled "completion" p db = .ok ()) ->
      forall i, edges i .refundPending .refunded) :
    PaymentsMoved edges db (retryRefund env refundId actorId note answers db).1 := by
  unfold retryRefund
  split
  · exact .of_eq rfl
  · next previous hprevious =>
      split
      · exact .of_eq rfl
      · split
        · exact .of_eq rfl
        · next requested refund hrequest =>
            have hmoved := requestRefund_moved (hstart previous hprevious) hrequest
            refine hmoved.trans (processRefund_moved hgive ?_)
            rintro ⟨hreports, r, p', hr, -, hp', hcancelled, -⟩
            apply hdone ⟨hreports, ?_⟩
            obtain ⟨p, hp, hcases⟩ := requestRefund_cases hrequest
            refine ⟨previous, p, hprevious, hp, ?_⟩
            rcases hcases with ⟨rfl, q, hq, howner⟩ | ⟨rfl, hnew⟩
            · have hrq : r = q := Option.some.inj (hr.symm.trans hq)
              rw [hrq, howner, hp, Option.some.injEq] at hp'
              rw [hp']
              exact hcancelled
            · obtain ⟨q, events, howner, -, -, rfl⟩ := hnew.writes
              rw [Table.findUnique_create_self, Option.some.injEq] at hr
              rw [← hr, howner, Table.findUnique_update_self, hp, Option.map_some,
                Option.some.injEq] at hp'
              subst hp'
              rw [← hcancelled]
              exact (@assertOrderCancelled_congr db _ _ p _ rfl rfl rfl rfl rfl).symm

end Refunds

end MarketBridge
