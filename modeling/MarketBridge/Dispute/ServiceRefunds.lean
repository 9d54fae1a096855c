import MarketBridge.Inspection.Cancellation
import MarketBridge.Transport.CancellationPaths

/-!
# Refunds of a cancelled service

A service is cancelled by the resolution of a dispute or on its own.  Whoever
cancels it, what was received for it has to come under refund, and the refund
has to complete although the order goes on.
-/

namespace MarketBridge

open Relational

/-! ## Operations -/

/-- The operations that cancel an inspection or a transport and keep the order. -/
inductive ServiceCancellation where
  /-- `PATCH /disputes/:id/resolve` with `CANCEL_SERVICE`. -/
  | dispute (adminId disputeId : Id) (resolution : String)
  | inspectionRoute (isAdmin : Bool) (userId requestId : Id)
  | inspectionExpiry (requestId : Id)
  | inspectionLapse (code : LapseCode) (actorId : Option Id) (role : CancelledByRole)
      (requestId : Id)
  | transport (path : TransportCancelPath) (jobId : Id)
deriving DecidableEq, Repr

def TransportCancelPath.isAlone : TransportCancelPath -> Bool
  | route _ _ => true
  | preparationExpiry => true
  | loadingExpiry => true
  | workflowExpiry => true
  | _ => false

def isDisputedPayment (db : Db) (dispute : Dispute) (p : Payment) : Bool :=
  match affectedService db dispute with
  | .inspection =>
      (liveInspections db dispute.orderId).any fun request => isInspectionPaymentOf request.1 p
  | .transport =>
      (transportJobOf db dispute.orderId).any fun job => isTransportPaymentOf job.1 p
  | .goods => false

namespace ServiceCancellation

def exec (env : Env) : ServiceCancellation -> Tx
  | dispute adminId disputeId resolution =>
      resolveDispute env.asDeclared adminId disputeId .cancelService resolution
  | inspectionRoute isAdmin userId requestId => cancelInspectionByRoute isAdmin userId requestId
  | inspectionExpiry requestId => fun db =>
      .ok (((db.inspectionRequests.findUnique requestId).map fun request =>
        expireInspectionWorkflow env requestId request db).getD db)
  | inspectionLapse code actorId role requestId =>
      lapseInspectionAgreement env requestId code actorId role
  | transport path jobId => fun db =>
      match db.transportJobs.findUnique jobId with
      | none => .ok db
      | some job => path.exec env jobId job db

def isPaymentOf (db : Db) : ServiceCancellation -> Payment -> Bool
  | dispute _ disputeId _ => fun p =>
      (db.disputes.findUnique disputeId).any fun dispute => isDisputedPayment db dispute p
  | inspectionRoute _ _ requestId => isInspectionPaymentOf requestId
  | inspectionExpiry requestId => isInspectionPaymentOf requestId
  | inspectionLapse _ _ _ requestId => isInspectionPaymentOf requestId
  | transport _ jobId => isTransportPaymentOf jobId

/-- The guards of the operation pass and it is about to cancel the service alone. -/
def Guard (env : Env) (db : Db) : ServiceCancellation -> Prop
  | dispute _ disputeId _ =>
      exists dispute order, db.disputes.findUnique disputeId = some dispute ∧
        dispute.status.isOpen = true ∧ db.orders.findUnique dispute.orderId = some order ∧
        order.status = .disputed ∧ affectedService db dispute ≠ .goods
  | inspectionRoute isAdmin userId requestId =>
      exists request order, db.inspectionRequests.findUnique requestId = some request ∧
        related db.orders request.orderId = some order ∧
        (order.buyerId = userId ∨ order.sellerId = userId ∨ isAdmin = true) ∧
        request.status ≠ .cancelled ∧
        assertMayCancelInspection requestId request db = .ok () ∧
        order.status ∉ [OrderStatus.disputed, .cancelled]
  | inspectionExpiry requestId =>
      exists request, db.inspectionRequests.findUnique requestId = some request ∧
        inspectionIsDue env.now request = true
  | inspectionLapse _ _ _ requestId =>
      exists request, db.inspectionRequests.findUnique requestId = some request ∧
        request.status = .accepted ∧ moneyMoved db requestId = false ∧
        forall orderId order, request.orderId = some orderId ->
          db.orders.findUnique orderId = some order -> closesOrder db orderId order = false
  | transport path jobId =>
      path.isAlone = true ∧ exists job order, db.transportJobs.findUnique jobId = some job ∧
        db.orders.findUnique job.orderId = some order ∧ path.Guard env jobId job order db

end ServiceCancellation

/-! ## The law -/

def providerRefunds (refId : String) : ProviderAnswers :=
  { submission := .ok (some refId)
    verification := .ok "refunded" }

def CanComplete (env : Env) (db : Db) (j : Id) : Prop :=
  forall refId, refId ≠ "" ->
    ((verifyAndFinalizeRefund env j (.ok "refunded")
      (processRefund env j (providerRefunds refId) db).1).1.refunds.findUnique j).map
        (·.status) = some .completed

/-- What was received for the service is under refund, and the refund can complete. -/
structure ServiceRefunded (env : Env) (isPaidFor : Payment -> Bool) (db db' : Db) : Prop where
  under : forall i p, db.payments.findUnique i = some p -> isPaidFor p = true ->
    p.status = .paid -> UnderRefund db' i
  completes : forall i p, db.payments.findUnique i = some p -> isPaidFor p = true ->
    p.status = .paid -> forall j, OpenRefund db'.refunds i j -> CanComplete env db' j

/-- The order of a resolved dispute goes on as before, with the other payouts held again. -/
structure OrderResumed (dispute : Dispute) (db db' : Db) : Prop where
  status : (db'.orders.findUnique dispute.orderId).map (·.status) = dispute.previousOrderStatus
  payouts : forall k payout, db.payouts.findUnique k = some payout ->
    payout.orderId = some dispute.orderId -> payout.status = .onHoldDispute ->
    (forall p, db.payments.findUnique payout.paymentId = some p ->
      isDisputedPayment db dispute p = false) ->
    (db'.payouts.findUnique k).map (·.status) = some .held

/-- The operation commits, refunds what was received, and a resolution resumes the order. -/
def ServiceCancellation.Lawful (env : Env) (c : ServiceCancellation) (db : Db) : Prop :=
  exists db', c.exec env db = .ok db' ∧ ServiceRefunded env (c.isPaymentOf db) db db' ∧
    forall adminId disputeId resolution dispute, c = .dispute adminId disputeId resolution ->
      db.disputes.findUnique disputeId = some dispute -> OrderResumed dispute db db'

def NothingReceived (isPaidFor : Payment -> Bool) (db : Db) : Prop :=
  forall i p, db.payments.findUnique i = some p -> isPaidFor p = true -> p.status ≠ .paid

/-- When the operation keeps the law: never for a dispute, else when there is nothing to refund. -/
def ServiceCancellation.Suffices (db : Db) (c : ServiceCancellation) : Prop :=
  match c with
  | .dispute _ _ _ => False
  | c => NothingReceived (c.isPaymentOf db) db

/-! ## Refunds on a live order -/

/-! ## When the law is kept -/

theorem refundServicePayments_eq_ok_iff {isPaidFor : Payment -> Bool} {db : Db} :
    refundServicePayments isPaidFor db = .ok () ↔ NothingReceived isPaidFor db := by
  have hread : refundServicePayments isPaidFor db = .ok () ↔
      db.payments.any (fun _ p => isPaidFor p && p.status = .paid) = false := by
    unfold refundServicePayments
    split
    · next hany => simp [hany]
    · next hany => simp [hany]
  rw [hread, Table.any_eq_false_iff]
  constructor
  · intro hall i p hp hfor hpaid
    have hnot : (isPaidFor p && decide (p.status = .paid)) = false := hall i p hp
    rw [hfor, hpaid] at hnot
    cases hnot
  · intro hnone i p hp
    by_contra hpaid
    rw [Bool.not_eq_false, Bool.and_eq_true, decide_eq_true_eq] at hpaid
    exact hnone i p hp hpaid.1 hpaid.2

section Lawful

variable {env : Env} {c : ServiceCancellation} {db db' : Db}

theorem NothingReceived.refunded {isPaidFor : Payment -> Bool}
    (h : NothingReceived isPaidFor db) (env : Env) (db' : Db) :
    ServiceRefunded env isPaidFor db db' := by
  constructor
  · intro i p hp hfor hpaid
    exact absurd hpaid (h i p hp hfor)
  · intro i p hp hfor hpaid
    exact absurd hpaid (h i p hp hfor)

theorem ServiceRefunded.nothingReceived {isPaidFor : Payment -> Bool}
    (h : ServiceRefunded env isPaidFor db db') (hpayments : db'.payments = db.payments) :
    NothingReceived isPaidFor db := by
  intro i p hp hfor hpaid
  obtain ⟨q, hq, hpending⟩ := (h.under i p hp hfor hpaid).pending
  rw [hpayments, hp, Option.some.injEq] at hq
  rw [← hq, hpaid] at hpending
  cases hpending

theorem lawful_iff_of_payments (hnot : forall a d r, c ≠ .dispute a d r)
    (hok : c.exec env db = .ok db') (hpayments : db'.payments = db.payments) :
    c.Lawful env db ↔ NothingReceived (c.isPaymentOf db) db := by
  constructor
  · rintro ⟨result, hresult, hrefunded, -⟩
    rw [hok, Except.ok.injEq] at hresult
    subst hresult
    exact hrefunded.nothingReceived hpayments
  · intro hnone
    exact ⟨db', hok, hnone.refunded env db', fun a d r _ hc => absurd hc (hnot a d r)⟩

theorem lawful_iff_of_commits (hnot : forall a d r, c ≠ .dispute a d r)
    (hcommits : (exists db', c.exec env db = .ok db') ↔ NothingReceived (c.isPaymentOf db) db) :
    c.Lawful env db ↔ NothingReceived (c.isPaymentOf db) db := by
  constructor
  · rintro ⟨result, hresult, -⟩
    exact hcommits.mp ⟨result, hresult⟩
  · intro hnone
    obtain ⟨result, hresult⟩ := hcommits.mpr hnone
    exact ⟨result, hresult, hnone.refunded env result, fun a d r _ hc => absurd hc (hnot a d r)⟩

theorem inspectionRoute_lawful_iff {isAdmin : Bool} {userId requestId : Id}
    (hguard : (ServiceCancellation.inspectionRoute isAdmin userId requestId).Guard env db) :
    (ServiceCancellation.inspectionRoute isAdmin userId requestId).Lawful env db ↔
      NothingReceived (isInspectionPaymentOf requestId) db := by
  obtain ⟨request, order, hrequest, horder, hparty, hlive, hmay, hactive⟩ := hguard
  have hopen : assertNotClosed order
      "the inspection cannot be cancelled until the order dispute is resolved" = .ok () := by
    unfold assertNotClosed
    rw [if_neg hactive]
  have hallowed : ¬ (order.buyerId ≠ userId ∧ order.sellerId ≠ userId ∧ isAdmin = false) := by
    rintro ⟨hbuyer, hseller, hadmin⟩
    rw [hadmin] at hparty
    rcases hparty with h | h | h
    · exact hbuyer h
    · exact hseller h
    · cases h
  apply lawful_iff_of_commits (by simp)
  unfold ServiceCancellation.exec ServiceCancellation.isPaymentOf cancelInspectionByRoute
  simp only [hrequest, horder, if_neg hallowed, if_neg hlive, hmay, hopen, ok_bind]
  unfold cancelInspection
  simp only [bind_eq_ok]
  constructor
  · rintro ⟨_, _, hrefunds, -⟩
    exact refundServicePayments_eq_ok_iff.mp hrefunds
  · intro hnone
    exact ⟨_, (), refundServicePayments_eq_ok_iff.mpr hnone, rfl⟩

theorem inspectionExpiry_lawful_iff {requestId : Id}
    (hguard : (ServiceCancellation.inspectionExpiry requestId).Guard env db) :
    (ServiceCancellation.inspectionExpiry requestId).Lawful env db ↔
      NothingReceived (isInspectionPaymentOf requestId) db := by
  obtain ⟨request, hrequest, hdue⟩ := hguard
  have hexec : (ServiceCancellation.inspectionExpiry requestId).exec env db =
      .ok (expireInspectionWorkflow env requestId request db) := by
    unfold ServiceCancellation.exec
    simp only [hrequest, Option.map_some, Option.getD_some]
  have hpayments : (expireInspectionWorkflow env requestId request db).payments = db.payments := by
    unfold expireInspectionWorkflow
    rw [if_pos hdue]
    obtain ⟨events, hevents⟩ := recordOrderEvent_frame env request.orderId
      .inspectionWorkflowExpired { db with
        inspectionRequests := db.inspectionRequests.update requestId ({ · with status := .cancelled })
        inspectionQuotes := db.inspectionQuotes.updateMany
          (fun _ quote => quote.inspectionRequestId = requestId &&
            quote.status ∈ [InspectionQuoteStatus.pending, .selected, .countered])
          ({ · with status := .expired }) }
    rw [hevents]
  exact lawful_iff_of_payments (by simp) hexec hpayments

theorem inspectionLapse_lawful_iff {code : LapseCode} {actorId : Option Id}
    {role : CancelledByRole} {requestId : Id}
    (hguard : (ServiceCancellation.inspectionLapse code actorId role requestId).Guard env db) :
    (ServiceCancellation.inspectionLapse code actorId role requestId).Lawful env db ↔
      NothingReceived (isInspectionPaymentOf requestId) db := by
  obtain ⟨request, hrequest, haccepted, hmoved, halone⟩ := hguard
  have hnone : NothingReceived (isInspectionPaymentOf requestId) db := by
    intro i p hp hfor hpaid
    unfold moneyMoved hasInspectionPayment at hmoved
    have hnot : (isInspectionPaymentOf requestId p && decide (p.status ∈
        [PaymentStatus.paid, .processing, .refundPending, .reconciliationRequired])) = false :=
      Table.any_eq_false_iff.mp hmoved i p hp
    rw [hfor, hpaid] at hnot
    cases hnot
  have hcommits : exists db', (ServiceCancellation.inspectionLapse code actorId role
      requestId).exec env db = .ok db' := by
    unfold ServiceCancellation.exec lapseInspectionAgreement
    simp only [hrequest, haccepted, hmoved]
    cases horderId : request.orderId with
    | none =>
        exact ⟨_, rfl⟩
    | some orderId =>
        obtain ⟨events, hevents⟩ := recordOrderEvent_frame env (some orderId)
          .inspectionAgreementClosed (closeAgreement requestId db)
        simp only [hevents]
        unfold closeOrderOfAgreement
        cases horder : (closeAgreement requestId db).orders.findUnique orderId with
        | none =>
            exact ⟨_, rfl⟩
        | some order =>
            have hkeeps : closesOrder
                { closeAgreement requestId db with orderEvents := events } orderId order = false :=
              halone orderId order horderId horder
            simp only [hkeeps]
            exact ⟨_, rfl⟩
  exact lawful_iff_of_commits (by simp) (iff_of_true hcommits hnone)

theorem transport_lawful_iff {path : TransportCancelPath} {jobId : Id}
    (hguard : (ServiceCancellation.transport path jobId).Guard env db) :
    (ServiceCancellation.transport path jobId).Lawful env db ↔
      NothingReceived (isTransportPaymentOf jobId) db := by
  obtain ⟨halone, job, order, hjob, horder, hpath⟩ := hguard
  have hexec : (ServiceCancellation.transport path jobId).exec env db =
      path.exec env jobId job db := by
    unfold ServiceCancellation.exec
    simp only [hjob]
  cases path with
  | route isAdmin userId =>
      obtain ⟨hmay, hactive⟩ := hpath
      have hopen : assertNotClosed order
          "transport cannot proceed until the order dispute is resolved" = .ok () := by
        unfold assertNotClosed
        rw [if_neg hactive]
      have hroute : (TransportCancelPath.route isAdmin userId).exec env jobId job db =
          cancelTransportJob env jobId job db := by
        unfold TransportCancelPath.exec cancelTransportByRoute
        simp only [hjob, horder, hmay, hopen, ok_bind]
      have hfees : NoPaidFee db jobId ↔ NothingReceived (isTransportPaymentOf jobId) db := by
        constructor
        · intro hnone i p hp hfor hpaid
          exact hnone i p ⟨hp, hfor, hpaid⟩
        · rintro hnone i p ⟨hp, hfor, hpaid⟩
          exact hnone i p hp hfor hpaid
      apply lawful_iff_of_commits (by simp)
      rw [hexec, hroute]
      unfold ServiceCancellation.isPaymentOf
      rw [← hfees]
      rcases cancelTransportJob_cases env jobId job db with
        ⟨hnone, result, hok, -⟩ | ⟨hpaid, e, herror⟩
      · exact iff_of_true ⟨result, hok⟩ hnone
      · rw [herror]
        simp [hpaid]
  | preparationExpiry =>
      have hdue : preparationIsDue env.now job = true := hpath
      apply lawful_iff_of_payments (by simp) hexec
      unfold expireSellerPreparation
      rw [if_pos hdue]
      exact (expireTransportJob_expired _ _ _ _ _ _ _).payments
  | loadingExpiry =>
      have hdue : loadingIsDue env.now jobId job db = true := hpath
      apply lawful_iff_of_payments (by simp) hexec
      unfold expireBuyerLoading
      rw [if_pos hdue]
      exact (expireTransportJob_expired _ _ _ _ _ _ _).payments
  | workflowExpiry =>
      have hdue : workflowIsDue env.now job = true := hpath
      apply lawful_iff_of_payments (by simp) hexec
      unfold expireTransportWorkflow
      rw [if_pos hdue]
      exact (expireTransportJob_expired _ _ _ _ _ _ _).payments
  | disputeService adminId disputeId resolution => cases halone
  | orderCancellation load actorId reason role => cases halone

/--
The law is kept exactly where there is nothing to refund, and by no resolution
of a dispute.
-/
theorem serviceCancellation_lawful_iff (hguard : c.Guard env db) :
    c.Lawful env db ↔ c.Suffices db := by
  cases c with
  | dispute adminId disputeId resolution =>
      obtain ⟨e, herror⟩ := resolveDispute_asDeclared env adminId disputeId .cancelService
        resolution db
      unfold ServiceCancellation.Lawful ServiceCancellation.exec ServiceCancellation.Suffices
      simp [herror]
  | inspectionRoute isAdmin userId requestId =>
      exact inspectionRoute_lawful_iff hguard
  | inspectionExpiry requestId =>
      exact inspectionExpiry_lawful_iff hguard
  | inspectionLapse code actorId role requestId =>
      exact inspectionLapse_lawful_iff hguard
  | transport path jobId =>
      exact transport_lawful_iff hguard

end Lawful

section DisputedFee

/-- The buyer of a paid transport disputes it with the transporter. -/
def disputedFeeDb : Db :=
  { paidFeeDb with
    orders := Table.empty.create { hiredOrder with status := .disputed }
    payouts := Table.empty.create
      { orderId := some 0
        payeeRole := .transporter
        payeeId := 3
        paymentId := 0
        amount := 100
        status := .onHoldDispute
        releaseAt := 0 }
    disputes := Table.empty.create
      { orderId := 0
        raisedById := 1
        againstId := 3
        disputeType := "TRANSPORT"
        previousOrderStatus := some .transportArranged } }

def unpaidInspectionDb : Db :=
  { orders := Table.empty.create { hiredOrder with status := .pendingPayment }
    inspectionRequests := Table.empty.create
      { orderId := some 0
        fee := some 50 } }

/-- The buyer cancels an inspection that is not paid. -/
theorem unpaidInspection_lawful :
    (ServiceCancellation.inspectionRoute false 1 0).Lawful env0 unpaidInspectionDb := by
  have hguard : (ServiceCancellation.inspectionRoute false 1 0).Guard env0 unpaidInspectionDb :=
    ⟨_, _, rfl, rfl, Or.inl rfl, by decide, by decide +kernel, by decide⟩
  apply (serviceCancellation_lawful_iff hguard).mpr
  intro i p hp
  rw [show unpaidInspectionDb.payments = Table.empty from rfl, Table.findUnique_empty] at hp
  cases hp

/-- The dispute with the transporter cannot be resolved by cancelling the transport. -/
theorem disputedFee_not_resolved :
    ¬ forall (env : Env) (c : ServiceCancellation) (db : Db), c.Guard env db ->
        c.Lawful env db := by
  intro hall
  have hguard : (ServiceCancellation.dispute 9 0 "Refund the fee").Guard env0 disputedFeeDb :=
    ⟨_, _, rfl, by decide, rfl, by decide, by decide +kernel⟩
  obtain ⟨db', hok, -⟩ := hall env0 (.dispute 9 0 "Refund the fee") disputedFeeDb hguard
  obtain ⟨e, herror⟩ := resolveDispute_asDeclared env0 9 0 .cancelService "Refund the fee"
    disputedFeeDb
  have hboth : Except.error e = Except.ok db' := herror.symm.trans hok
  cases hboth

end DisputedFee

end MarketBridge
