import MarketBridge.Order.Lifecycle
import MarketBridge.Payment.Service

/-!
# Disputes

The routes of `disputes.js` that raise and resolve a dispute.  Raising one
freezes the order and the payouts it is about; a resolution either cancels the
order or brings it back to where it was, and replays the payments that arrived
in between.
-/

namespace MarketBridge

open Relational

namespace DisputeStatus

def text : DisputeStatus -> String
  | .open => "OPEN"
  | .underReview => "UNDER_REVIEW"
  | .resolved => "RESOLVED"
  | .rejected => "REJECTED"

def isOpen (s : DisputeStatus) : Bool :=
  s ∈ [DisputeStatus.open, .underReview]

end DisputeStatus

/-! ## Raising -/

structure DisputeRequest where
  orderId : Id
  againstId : Id
  disputeType : String
deriving DecidableEq, Repr

def orderParticipants (db : Db) (orderId : Id) (order : Order) : List Id :=
  [order.buyerId, order.sellerId] ++
    ((transportJobOf db orderId).bind (·.2.truckOwnerId)).toList ++
    (liveInspections db orderId).filterMap (·.2.inspectorId)

def assertMayDispute (db : Db) (userId : Id) (request : DisputeRequest) (order : Order) :
    Except ApiError Unit :=
  let participants := orderParticipants db request.orderId order
  if userId ∉ participants then
    .error (httpError 403 "You are not a participant on this order")
  else if request.againstId = userId then
    .error (httpError 400 "You cannot raise a dispute against yourself")
  else if request.againstId ∉ participants then
    .error (httpError 400 "againstId must be another participant on this order")
  else if order.status = .disputed then
    .error (httpError 409 "This order already has an open dispute")
  else if order.status ∉ disputableStatuses then
    .error (httpError 400 ("An order in " ++ order.status.text ++
      " status cannot be disputed"))
  else
    .ok ()

/-- `POST /disputes`. -/
def raiseDispute (env : Env) (userId : Id) (request : DisputeRequest) : Tx := fun db =>
  match db.orders.findUnique request.orderId with
  | none => .error (httpError 404 "Order not found")
  | some order => do
      assertMayDispute db userId request order
      let disputes := db.disputes.create
        { orderId := request.orderId
          raisedById := userId
          againstId := request.againstId
          disputeType := request.disputeType
          previousOrderStatus := some order.status }
      let db ← transitionOrderStatus request.orderId order.status .disputed
        { db with disputes := disputes }
      .ok (holdForDispute env request.orderId request.disputeType db)

/-! ## Resolving -/

inductive ResolutionType where
  /-- The dispute is dropped and the order goes on. -/
  | dismissed
  /-- The disputed service is cancelled and the order goes on. -/
  | cancelService
  /-- The whole order is cancelled and refunded. -/
  | cancelOrder
deriving DecidableEq, Repr

inductive AffectedService where
  | inspection
  | transport
  | goods
deriving DecidableEq, Repr

/-- The service of the party that the dispute is against. -/
def affectedService (db : Db) (dispute : Dispute) : AffectedService :=
  if (liveInspections db dispute.orderId).any fun request =>
      request.2.inspectorId = some dispute.againstId then
    .inspection
  else if (transportJobOf db dispute.orderId).any fun job =>
      job.2.truckOwnerId = some dispute.againstId then
    .transport
  else
    .goods

/-- `paymentService` does not export `requestRefund`, so the call throws. -/
def notAFunctionError : ApiError :=
  { message := "paymentService.requestRefund is not a function" }

def refundServicePayments (isPaidFor : Payment -> Bool) (db : Db) : Except ApiError Unit :=
  if db.payments.any fun _ p => isPaidFor p && p.status = .paid then
    .error notAFunctionError
  else
    .ok ()

/-- Cancel one inspection with its quotes. -/
def cancelInspectionService (requestId : Id) : Tx := fun db => do
  refundServicePayments
    (fun p => p.inspectionRequestId = some requestId && p.type = .inspector) db
  .ok { db with
    inspectionRequests := db.inspectionRequests.update requestId
      ({ · with
        inspectorId := none
        fee := none
        sellerConfirmedAt := none
        inspectorOnSiteConfirmedAt := none
        feeTermsLockedAt := none
        lockedFee := none
        lockedFeePayer := none
        lockedBuyerFeeAmount := none
        lockedSellerFeeAmount := none
        status := .cancelled })
    inspectionQuotes := db.inspectionQuotes.updateMany
      (fun _ quote => quote.inspectionRequestId = requestId && quote.status.isLive)
      ({ · with status := .expired }) }

def cancelInspectionServices (requestIds : List Id) : Tx := fun db =>
  requestIds.foldlM (fun db requestId => cancelInspectionService requestId db) db

/-- Cancel the transport job of an order with its quotes. -/
def cancelTransportService (orderId : Id) : Tx := fun db =>
  match transportJobOf db orderId with
  | none => .ok db
  | some (jobId, job) =>
      if job.status = .cancelled then
        .ok db
      else do
        refundServicePayments
          (fun p => p.transportJobId = some jobId && p.type = .transport) db
        .ok { db with
          transportJobs := db.transportJobs.update jobId ({ · with
            truckOwnerId := none
            truckId := none
            agreedAmount := none
            truckArrivedAt := none
            sellerPickupConfirmedAt := none
            sellerPreparationDueAt := none
            buyerLoadingConfirmedAt := none
            buyerLoadingDueAt := none
            status := .cancelled })
          transportQuotes := db.transportQuotes.updateMany
            (fun _ quote => quote.transportJobId = jobId && quote.status.isLive)
            ({ · with status := .expired }) }

/-- The service that `CANCEL_SERVICE` cancels; goods are no service. -/
def cancelService (dispute : Dispute) : Tx := fun db =>
  match affectedService db dispute with
  | .inspection =>
      cancelInspectionServices ((liveInspections db dispute.orderId).map Prod.fst) db
  | .transport => cancelTransportService dispute.orderId db
  | .goods => .ok db

def replayPaidPayments (env : Env) (paymentIds : List Id) : Tx := fun db =>
  paymentIds.foldlM (fun db paymentId => replayDisputedPaidPayment env paymentId db) db

def paidPaymentsOf (db : Db) (orderId : Id) : List Id :=
  ((paymentsOf db orderId).filter fun p => p.2.status = .paid).map Prod.fst

/-- Bring the order back to where it was, and its payouts and payments with it. -/
def restoreOrder (env : Env) (dispute : Dispute) : Tx := fun db => do
  let db := resumeAfterDispute env dispute.orderId dispute.disputeType db
  let db ← transitionOrderStatus dispute.orderId .disputed
    (dispute.previousOrderStatus.getD .confirmed) db
  replayPaidPayments env (paidPaymentsOf db dispute.orderId) db

/-- The decision on a dispute, before the dispute itself is closed. -/
def applyResolution (env : Env) (adminId : Id) (dispute : Dispute)
    (resolutionType : ResolutionType) : Tx := fun db =>
  match resolutionType with
  | .cancelOrder =>
      cancelLoadedOrder env .included dispute.orderId (some adminId)
        (some "Dispute resolved: order cancelled and buyer refund requested") .admin db
  | .cancelService =>
      if affectedService db dispute = .goods then
        .error
          { message := "A goods dispute cannot be resolved by cancelling only one service. " ++
              "Use CANCEL_ORDER to cancel the whole order, or DISMISSED to resume " ++
              "without cancelling."
            status := some 400
            code := some "CANCEL_SERVICE_NOT_ALLOWED_FOR_GOODS" }
      else do
        let db ← cancelService dispute db
        restoreOrder env dispute db
  | .dismissed => restoreOrder env dispute db

/-- The last write of a resolution, with two columns the schema does not declare. -/
def closeDispute (env : Env) (disputeId : Id) (resolution : String) : Tx := fun db =>
  if env.hasResolutionColumns then
    .ok { db with
      disputes := db.disputes.update disputeId
        ({ · with status := .resolved, resolution := some resolution }) }
  else
    .error { message := "Unknown argument resolutionType" }

/-- `PATCH /disputes/:id/resolve`. -/
def resolveDispute (env : Env) (adminId disputeId : Id) (resolutionType : ResolutionType)
    (resolution : String) : Tx := fun db =>
  match db.disputes.findUnique disputeId with
  | none => .error (httpError 404 "Dispute not found")
  | some dispute =>
      if !dispute.status.isOpen then
        .error (httpError 409 ("Dispute is already " ++ dispute.status.text))
      else
        match db.orders.findUnique dispute.orderId with
        | none => .error (httpError 404 "Order not found")
        | some order =>
            if order.status ≠ .disputed then
              .error
                { message := "Order is " ++ order.status.text ++
                    "; the open dispute can no longer be resolved here"
                  status := some 409
                  code := some "ORDER_STATE_CONFLICT" }
            else do
              let db ← applyResolution env adminId dispute resolutionType db
              closeDispute env disputeId resolution db

end MarketBridge
