import MarketBridge.Inspection.Arrival
import MarketBridge.Inspection.Cancellation
import MarketBridge.Order.CancellationRefunds
import MarketBridge.Payment.Checkout
import MarketBridge.Payment.SettlementExits

/-!
# The lapse of an inspection agreement

`lapseInspectionAgreement` is driven by the codes of its callers and closes what the
agreement has opened: its request, quotes, fees and coordination, and the provisional
order as long as nothing hangs on it.  All of it is one transaction.
-/

namespace MarketBridge

open Relational

/-! ## Codes -/

/-- The codes that the callers pass. -/
inductive LapseReason where
  /-- `POST /inspections/:id/seller-decline`. -/
  | sellerDeclined
  /-- `expireInspectionWorkflows`, before the seller has confirmed. -/
  | sellerConfirmationExpired
  /-- `expireInspectionWorkflows`, after the arrival. -/
  | inspectionPaymentExpired
  /-- `POST /inspections/:id/seller-confirm` and `GET /inspections/:id/coordination`. -/
  | inspectorCoordinationExpired
deriving DecidableEq, Repr

namespace LapseReason

def text : LapseReason -> String
  | sellerDeclined => "SELLER_DECLINED"
  | sellerConfirmationExpired => "SELLER_CONFIRMATION_EXPIRED"
  | inspectionPaymentExpired => "INSPECTION_PAYMENT_EXPIRED"
  | inspectorCoordinationExpired => "INSPECTOR_COORDINATION_EXPIRED"

/-- `REASONS[code]`. -/
def code : LapseReason -> Option LapseCode
  | sellerDeclined => some .sellerDeclined
  | sellerConfirmationExpired => some .sellerConfirmationExpired
  | inspectionPaymentExpired => some .inspectionPaymentExpired
  | inspectorCoordinationExpired => none

theorem code_eq_none_iff (reason : LapseReason) :
    reason.code = none ↔ reason = .inspectorCoordinationExpired := by
  cases reason <;> decide

end LapseReason

/-! ## The transaction -/

/-- One inspection request with its other deadlines and its coordination. -/
structure AgreementSession where
  db : Db
  requestId : Id
  startDueAt : Option Nat := none
  completionDueAt : Option Nat := none
  coordination : Option InspectionCoordination := none
deriving DecidableEq, Repr

/-- `closeCoordination`, of a row that is there. -/
def InspectionCoordination.close (env : Env) (coordination : InspectionCoordination) :
    InspectionCoordination :=
  if coordination.supersededAt.isSome then coordination
  else { coordination with supersededAt := some env.now }

namespace AgreementSession

def request (s : AgreementSession) : Option InspectionRequest :=
  s.db.inspectionRequests.findUnique s.requestId

/-- The request is `ACCEPTED`, and none of its fee is in flight. -/
def isOpen (s : AgreementSession) : Bool :=
  (s.request.any fun request => request.status = .accepted) && !moneyMoved s.db s.requestId

/-- `lapseInspectionAgreement` with the code of its caller; the result says whether it lapsed. -/
def lapse (env : Env) (reason : LapseReason) (actorId : Option Id) (role : CancelledByRole)
    (s : AgreementSession) : Except ApiError (AgreementSession × Bool) :=
  match reason.code with
  | none => .error { message := "Unknown lapse code: " ++ reason.text }
  | some code =>
      if s.isOpen then do
        let db ← lapseInspectionAgreement env s.requestId code actorId role s.db
        .ok ({ s with
          db := db
          startDueAt := none
          completionDueAt := none
          coordination := s.coordination.map (·.close env) }, true)
      else
        .ok (s, false)

end AgreementSession

/-! ## What has to be closed -/

def isPendingFee (requestId : Id) (p : Payment) : Bool :=
  isInspectionPaymentOf requestId p && p.status = .pending

/-- A checkout is opened for the payment, or a notification of the provider settles it. -/
def CanBePaid (db : Db) (i : Id) (p : Payment) : Prop :=
  checkoutGates db p = .ok () ∨
    exists env args, args.paymentId = i ∧
      ((commit (settlePaymentCore env args db) db).payments.findUnique i).map (·.status) =
        some .paid

/-- The rows of an agreement are closed. -/
structure RequestClosed (requestId : Id) (request : InspectionRequest) (db : Db) : Prop where
  request : db.inspectionRequests.findUnique requestId =
    some { request with status := .cancelled, workflowDueAt := none }
  quotes : db.inspectionQuotes.All fun _ quote =>
    quote.inspectionRequestId = requestId -> quote.status.isLive = false
  obligations : db.obligations.All fun _ b =>
    b.inspectionRequestId = some requestId -> b.type = .inspector -> b.status ≠ .open

/-- The order is neither closed nor disputed, nothing of it is paid and nothing is decided. -/
def mustClose (db : Db) (orderId : Id) (order : Order) : Bool :=
  order.status ∉ [OrderStatus.cancelled, .completed, .disputed] &&
    !((paymentsOf db orderId).any fun p => p.2.status = .paid) &&
    order.buyerDecision.isNone

def Listing.isOffered (l : Listing) : Bool :=
  l.status ∈ [ListingStatus.active, .underNegotiation]

/-- The order is cancelled, and its listing is open again. -/
structure OrderReleased (orderId : Id) (order : Order) (db db' : Db) : Prop where
  cancelled : (db'.orders.findUnique orderId).map (·.status) = some .cancelled
  listing : forall l, db.listings.findUnique order.listingId = some l ->
    exists l', db'.listings.findUnique order.listingId = some l' ∧ l'.isOffered = true

/-- Everything that the agreement has opened is closed. -/
structure AgreementClosed (request : InspectionRequest) (s s' : AgreementSession) : Prop where
  rows : RequestClosed s.requestId request s'.db
  start : s'.startDueAt = none
  completion : s'.completionDueAt = none
  coordination : forall coordination, s'.coordination = some coordination ->
    coordination.supersededAt.isSome = true
  payments : s'.db.payments.All fun i p =>
    isPendingFee s.requestId p = true -> ¬ CanBePaid s'.db i p
  order : forall orderId order, request.orderId = some orderId ->
    s.db.orders.findUnique orderId = some order -> mustClose s.db orderId order = true ->
    OrderReleased orderId order s.db s'.db

/-! ## What has to hold before -/

def Payment.isOnlinePayable (p : Payment) : Bool :=
  !p.isInstallmentParent && p.amount ≤ maxTransactionAmount

/-- Nothing keeps the order from being cancelled with the agreement. -/
structure MayRelease (role : CancelledByRole) (db : Db) (orderId : Id) (order : Order) :
    Prop where
  settled : ((paymentsOf db orderId).any fun p => p.2.status = .processing) = false
  status : order.status ∈ [OrderStatus.pendingPayment, .confirmed, .transportArranged]
  transport : role ≠ .admin -> forall jobId job, transportJobOf db orderId = some (jobId, job) ->
    job.status.isInMotion = false
  /-- The stock that the listing gets back counts as available. -/
  stock : order.status ≠ .pendingPayment -> forall l,
    db.listings.findUnique order.listingId = some l -> l.category.isPhysical = true ->
    epsilon < min l.quantity (l.availableQuantity + order.quantity)

def OrdersMayRelease (role : CancelledByRole) (request : InspectionRequest) (db : Db) : Prop :=
  forall orderId order, request.orderId = some orderId ->
    db.orders.findUnique orderId = some order -> mustClose db orderId order = true ->
    MayRelease role db orderId order

/-- No fee of the request is pending that a cancelled request leaves payable. -/
def FeesSafe (requestId : Id) (request : InspectionRequest) (db : Db) : Prop :=
  db.payments.All fun _ p => isPendingFee requestId p = true ->
    (request.orderId = none -> p.isOnlinePayable = false) ∧
      forall order, related db.orders p.orderId = some order -> order.status ≠ .disputed

/-- The agreement can be closed with everything that it has opened. -/
structure MayLapse (reason : LapseReason) (role : CancelledByRole) (request : InspectionRequest)
    (s : AgreementSession) : Prop where
  reason : reason ≠ .inspectorCoordinationExpired
  payments : FeesSafe s.requestId request s.db
  order : OrdersMayRelease role request s.db

/-- What the schema, the validators and the acceptance of a quote guarantee of the rows. -/
structure RowsValid (db : Db) : Prop where
  inspectors : db.inspectionRequests.All fun _ request =>
    request.status = .accepted -> request.inspectorId.isSome = true
  indexed : PaymentsIndexed db.payments
  amounts : db.payments.All fun _ p =>
    0 < p.amount ∧ storableAmount (some (.finite p.amount)) = true
  quantities : db.orders.All fun _ order => 0 < order.quantity

/-! ## A fee that can still be paid -/

section Fee

variable {db : Db} {requestId i : Id} {request : InspectionRequest} {p : Payment}

theorem isPendingFee_eq_true_iff :
    isPendingFee requestId p = true ↔
      p.inspectionRequestId = some requestId ∧ p.type = .inspector ∧ p.status = .pending := by
  simp [isPendingFee, isInspectionPaymentOf, and_assoc]

theorem checkoutGates_eq_ok_iff
    (hrequest : db.inspectionRequests.findUnique requestId = some request)
    (hcancelled : request.status = .cancelled) (hfee : isPendingFee requestId p = true) :
    checkoutGates db p = .ok () ↔ request.orderId = none ∧ p.isOnlinePayable = true := by
  obtain ⟨hof, htype, -⟩ := isPendingFee_eq_true_iff.1 hfee
  have htransport : assertTransportCheckout db p = .ok () := by
    simp [assertTransportCheckout, htype]
  have hgoods : assertGoodsCheckout db p = .ok () := by
    simp [assertGoodsCheckout, htype]
  have hrelated : related db.inspectionRequests p.inspectionRequestId = some request := by
    rw [hof, related_some]
    exact hrequest
  unfold checkoutGates assertInspectionCheckout
  simp only [hrelated, htransport, hgoods, htype]
  cases horder : request.orderId with
  | some orderId =>
      cases hconfirmed : request.sellerConfirmedAt with
      | none => simp
      | some confirmedAt => simp [hcancelled]
  | none =>
      unfold Payment.isOnlinePayable
      cases hparent : p.isInstallmentParent with
      | true => simp
      | false =>
          by_cases hlarge : maxTransactionAmount < p.amount
          · simp [hlarge, not_le.2 hlarge]
          · simp [hlarge, not_lt.1 hlarge]

def paidNoticeOf (i : Id) (p : Payment) : SettleArgs :=
  { paymentId := i
    status := .paid
    amount := some (.finite p.amount) }

/-- A settlement of the fee fails with the inspection, unless a dispute keeps it from looking. -/
theorem paidCommittable_fee_iff
    (hrequest : db.inspectionRequests.findUnique requestId = some request)
    (hcancelled : request.status = .cancelled) (hinspector : request.inspectorId.isSome = true)
    (hfee : isPendingFee requestId p = true) (args : SettleArgs) :
    paidCommittable args (paymentRecord db i p) db = true ↔
      (exists order, related db.orders p.orderId = some order ∧ order.status = .disputed) ∧
        storableAmount args.amount = true := by
  obtain ⟨hof, htype, -⟩ := isPendingFee_eq_true_iff.1 hfee
  obtain ⟨inspectorId, hinspectorId⟩ := Option.isSome_iff_exists.1 hinspector
  have hrelated : related db.inspectionRequests p.inspectionRequestId = some request := by
    rw [hof, related_some]
    exact hrequest
  have hcommitment : inspectionCommitment (paymentRecord db i p) =
      some (requestId, request, inspectorId) := by
    unfold inspectionCommitment paymentRecord
    dsimp only
    rw [if_pos htype, hrelated, hof]
    simp [hinspectorId]
  have hlost : inspectionCommittable (paymentRecord db i p) = false := by
    simp [inspectionCommittable, hcommitment, hcancelled]
  unfold paidCommittable receivedUnderDispute
  rw [hlost, Bool.and_false]
  change (if (related db.orders p.orderId).any _ = true then _ else _) = true ↔ _
  cases related db.orders p.orderId with
  | none => simp
  | some order =>
      by_cases hdisputed : order.status = .disputed
      · simp [hdisputed]
      · simp [hdisputed]

/-- A pending fee of a cancelled request can be paid without an order or under a dispute. -/
theorem canBePaid_iff (hp : db.payments.findUnique i = some p)
    (hrequest : db.inspectionRequests.findUnique requestId = some request)
    (hcancelled : request.status = .cancelled) (hinspector : request.inspectorId.isSome = true)
    (hkeys : forall j q, db.payments.findUnique j = some q -> j ≠ i ->
      p.sameProviderTransaction q = false)
    (hfee : isPendingFee requestId p = true)
    (hstorable : storableAmount (some (.finite p.amount)) = true) :
    CanBePaid db i p ↔
      (request.orderId = none ∧ p.isOnlinePayable = true) ∨
        exists order, related db.orders p.orderId = some order ∧ order.status = .disputed := by
  obtain ⟨-, htype, hpending⟩ := isPendingFee_eq_true_iff.1 hfee
  unfold CanBePaid
  rw [checkoutGates_eq_ok_iff hrequest hcancelled hfee]
  apply or_congr_right
  constructor
  · rintro ⟨env, args, rfl, hpaid⟩
    rcases settlePaymentCore_payments env hp with
      ⟨hwrites, hafter⟩ | ⟨-, hafter⟩ | ⟨-, -, -, hafter⟩
    · rw [hafter, Table.findUnique_update_self, hp] at hpaid
      have hstatus : args.status = .paid := Option.some.inj hpaid
      simp only [settlementWrites, hstatus, Bool.and_eq_true] at hwrites
      have hcommittable : paidCommittable args (paymentRecord db args.paymentId p) db = true := by
        simpa using hwrites.2
      exact ((paidCommittable_fee_iff hrequest hcancelled hinspector hfee args).1 hcommittable).1
    · rw [hafter, hp, Option.map_some, hpending] at hpaid
      cases hpaid
    · rw [hafter, Table.findUnique_update_self, hp] at hpaid
      cases hpaid
  · intro hdisputed
    have hcommittable : paidCommittable (paidNoticeOf i p) (paymentRecord db i p) db = true :=
      (paidCommittable_fee_iff hrequest hcancelled hinspector hfee _).2 ⟨hdisputed, hstorable⟩
    have hconflict : paymentConflict db i (p.settled (paidNoticeOf i p)) = false := by
      rw [paymentConflict_eq_false_iff]
      intro j q hq hj
      rw [Bool.or_eq_false_iff]
      refine ⟨hkeys j q hq hj, ?_⟩
      simp [Payment.sameActiveTransportJob, Payment.holdsTransportJob, Payment.settled, htype]
    have hwrites : settlementWrites (paidNoticeOf i p) db p = true := by
      simp only [settlementWrites, Bool.and_eq_true]
      refine ⟨⟨⟨⟨?_, rfl⟩, ?_⟩, ?_⟩, ?_⟩
      · simp [mismatchReason, paidNoticeOf, moneyEqual_self, currencyMismatch, truthy]
      · simp [ignoresNotification, paidNoticeOf, hpending]
      · rw [Bool.not_eq_true']
        exact hconflict
      · rw [Bool.or_eq_true]
        exact Or.inr hcommittable
    refine ⟨env0, paidNoticeOf i p, rfl, ?_⟩
    have hp' : db.payments.findUnique (paidNoticeOf i p).paymentId = some p := hp
    rcases settlePaymentCore_payments env0 hp' with ⟨-, hafter⟩ | ⟨hnot, -⟩ | ⟨hnot, -, -, -⟩
    · rw [hafter]
      change ((db.payments.update i _).findUnique i).map _ = _
      rw [Table.findUnique_update_self, hp]
      rfl
    · rw [hwrites] at hnot
      cases hnot
    · rw [hwrites] at hnot
      cases hnot

end Fee

/-! ## The rows of the agreement -/

section Rows

variable {env : Env} {db db' : Db} {requestId : Id}

theorem closeAgreement_closed {request : InspectionRequest}
    (hrequest : db.inspectionRequests.findUnique requestId = some request) :
    RequestClosed requestId request (closeAgreement requestId db) := by
  refine ⟨?_, ?_, ?_⟩
  · unfold closeAgreement
    dsimp only
    rw [Table.findUnique_update_self, hrequest]
    rfl
  · intro i quote hquote hof
    unfold closeAgreement at hquote
    dsimp only at hquote
    rw [Table.findUnique_updateMany] at hquote
    obtain ⟨before, -, rfl⟩ := Option.map_eq_some_iff.1 hquote
    split
    · rfl
    · rename_i hkept
      rw [if_neg hkept] at hof
      simpa [hof] using hkept
  · intro i b hb hof htype hopen
    unfold closeAgreement at hb
    dsimp only at hb
    rw [Table.findUnique_updateMany] at hb
    obtain ⟨before, -, rfl⟩ := Option.map_eq_some_iff.1 hb
    split at hopen
    · cases hopen
    · rename_i hkept
      rw [if_neg hkept] at hof htype
      simp [hof, htype, hopen] at hkept

theorem cancelOrderInTransaction_inspections {order : OrderRecord} {actorId : Option Id}
    {reason : Option String} {role : CancelledByRole}
    (h : cancelOrderInTransaction env order actorId reason role db = .ok db') :
    exists earned,
      db'.inspectionRequests = (cancelInspections order.id earned db).inspectionRequests ∧
        db'.inspectionQuotes = (cancelInspections order.id earned db).inspectionQuotes := by
  obtain ⟨-, -, -, restored, refunded, hrestore, hrefunds, rfl⟩ :=
    cancelOrderInTransaction_eq_ok_iff.1 h
  obtain ⟨listings, orders, hrestored, -⟩ := restoreGoods_eq_ok hrestore
  have hrequests : (cancelTransport order restored).inspectionRequests = db.inspectionRequests := by
    rw [(cancelTransport_frame order restored).2, hrestored]
    rfl
  have hquotes : (cancelTransport order restored).inspectionQuotes = db.inspectionQuotes := by
    have hkept : (cancelTransport order restored).inspectionQuotes =
        restored.inspectionQuotes := by
      unfold cancelTransport
      split
      · rfl
      · split <;> rfl
    rw [hkept, hrestored]
    rfl
  obtain ⟨-, -, payments, refunds, events, hshape⟩ := requestRefunds_refundsAdded hrefunds
  obtain ⟨offers, listings', -, hwinner⟩ := releaseWinner_frame env order refunded
  refine ⟨earnedInspections (cancelTransport order restored) order.id, ?_, ?_⟩
  · rw [hwinner, hshape]
    unfold servicesClosed
    simp only [cancelPayoutsForOrder_eq, closeInstallmentPlans, cancelInspections, hrequests]
  · rw [hwinner, hshape]
    unfold servicesClosed
    simp only [cancelPayoutsForOrder_eq, closeInstallmentPlans, cancelInspections, hrequests,
      hquotes]

theorem RequestClosed.cancelOrder {request : InspectionRequest}
    (hclosed : RequestClosed requestId request db) {order : OrderRecord}
    {actorId : Option Id} {reason : Option String} {role : CancelledByRole}
    (h : cancelOrderInTransaction env order actorId reason role db = .ok db') :
    RequestClosed requestId request db' := by
  obtain ⟨earned, hrequests, hquotes⟩ := cancelOrderInTransaction_inspections h
  have hobligations := (cancelOrderInTransaction_released h).obligations
  refine ⟨?_, ?_, ?_⟩
  · rw [hrequests]
    unfold cancelInspections
    dsimp only
    rw [Table.findUnique_updateMany, hclosed.request]
    simp
  · intro i quote hquote hof
    rw [hquotes] at hquote
    unfold cancelInspections at hquote
    dsimp only at hquote
    rw [Table.findUnique_updateMany] at hquote
    obtain ⟨before, hbefore, rfl⟩ := Option.map_eq_some_iff.1 hquote
    split
    · rfl
    · rename_i hkept
      rw [if_neg hkept] at hof
      exact hclosed.quotes i before hbefore hof
  · intro i b hb hof htype
    rw [hobligations, Table.findUnique_updateMany] at hb
    obtain ⟨before, hbefore, rfl⟩ := Option.map_eq_some_iff.1 hb
    split
    · intro hopen
      cases hopen
    · rename_i hkept
      rw [if_neg hkept] at hof htype
      exact hclosed.obligations i before hbefore hof htype

end Rows

end MarketBridge
