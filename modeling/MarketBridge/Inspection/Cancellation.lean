import MarketBridge.Transport.Cancellation

/-!
# Cancellation of an inspection

The operations besides a dispute and the cancellation of the order that set the
status of an inspection to `CANCELLED`: the cancel route, the expiry of a
request that found no inspector, and the lapse of a provisional agreement.
-/

namespace MarketBridge

open Relational

namespace InspectionStatus

def text : InspectionStatus -> String
  | .requested => "REQUESTED"
  | .accepted => "ACCEPTED"
  | .inProgress => "IN_PROGRESS"
  | .completed => "COMPLETED"
  | .cancelled => "CANCELLED"
  | .stalled => "STALLED"

end InspectionStatus

def isInspectionPaymentOf (requestId : Id) (p : Payment) : Bool :=
  p.inspectionRequestId = some requestId && p.type = .inspector

def hasInspectionPayment (db : Db) (requestId : Id) (statuses : List PaymentStatus) : Bool :=
  db.payments.any fun _ p => isInspectionPaymentOf requestId p && p.status ∈ statuses

/-! ## The cancel route -/

/-- The checks of `PATCH /inspections/:id/cancel` on a request that is not yet cancelled. -/
def assertMayCancelInspection (requestId : Id) (request : InspectionRequest) (db : Db) :
    Except ApiError Unit :=
  if request.status ∈ [InspectionStatus.completed, .inProgress] then
    .error (httpError 409 ("An inspection cannot be cancelled while it is " ++
      request.status.text.toLower))
  else if hasInspectionPayment db requestId [.pending, .processing] then
    .error (httpError 409 ("An inspection payment is still in flight. " ++
      "Wait for it to settle or fail, then try again."))
  else
    .ok ()

/-- The transaction of the route. -/
def cancelInspection (requestId : Id) : Tx := fun db => do
  let db : Db := { db with
    inspectionRequests := db.inspectionRequests.update requestId
      ({ · with
        inspectorId := none
        fee := none
        feeTermsLockedAt := none
        lockedFee := none
        lockedFeePayer := none
        lockedBuyerFeeAmount := none
        lockedSellerFeeAmount := none
        status := .cancelled })
    inspectionQuotes := db.inspectionQuotes.updateMany
      (fun _ quote => quote.inspectionRequestId = requestId &&
        quote.status ∈ [InspectionQuoteStatus.pending, .selected, .countered])
      ({ · with status := .expired }) }
  refundServicePayments (isInspectionPaymentOf requestId) db
  .ok db

/-- `PATCH /inspections/:id/cancel`. -/
def cancelInspectionByRoute (isAdmin : Bool) (userId requestId : Id) : Tx := fun db =>
  match db.inspectionRequests.findUnique requestId with
  | none => .error (httpError 404 "Inspection request not found")
  | some request =>
      match related db.orders request.orderId with
      | none => .error (httpError 409 "This inspection is not attached to an order")
      | some order =>
          if order.buyerId ≠ userId ∧ order.sellerId ≠ userId ∧ isAdmin = false then
            .error (httpError 403 "Only an order participant can cancel this inspection request")
          else if request.status = .cancelled then
            .ok db
          else do
            assertMayCancelInspection requestId request db
            assertNotClosed order
              "the inspection cannot be cancelled until the order dispute is resolved"
            cancelInspection requestId db

/-! ## Deadlines -/

def inspectionIsDue (now : Nat) (request : InspectionRequest) : Bool :=
  request.status = .requested && isDue now request.workflowDueAt

/-- One request of `expireInspectionWorkflows` that is still `REQUESTED`. -/
def expireInspectionWorkflow (env : Env) (requestId : Id) (request : InspectionRequest)
    (db : Db) : Db :=
  if inspectionIsDue env.now request then
    recordOrderEvent env request.orderId .inspectionWorkflowExpired
      { db with
        inspectionRequests := db.inspectionRequests.update requestId ({ · with status := .cancelled })
        inspectionQuotes := db.inspectionQuotes.updateMany
          (fun _ quote => quote.inspectionRequestId = requestId &&
            quote.status ∈ [InspectionQuoteStatus.pending, .selected, .countered])
          ({ · with status := .expired }) }
  else
    db

/-- The codes of `REASONS`. -/
inductive LapseCode where
  | sellerDeclined
  | sellerConfirmationExpired
  | inspectionPaymentExpired
deriving DecidableEq, Repr

def LapseCode.order : LapseCode -> String
  | sellerDeclined => "The seller declined the selected inspector or agreed inspection fee"
  | sellerConfirmationExpired => "The seller did not confirm the selected inspector in time"
  | inspectionPaymentExpired => "The inspection fee was not paid in time"

def moneyMoved (db : Db) (requestId : Id) : Bool :=
  hasInspectionPayment db requestId
    [.paid, .processing, .refundPending, .reconciliationRequired]

def closesOrder (db : Db) (orderId : Id) (order : Order) : Bool :=
  order.status ∉ [OrderStatus.cancelled, .completed, .disputed] &&
    !((paymentsOf db orderId).any fun p => p.2.status ∈ [PaymentStatus.paid, .processing]) &&
    order.buyerDecision.isNone

/-- The agreement is closed: its request, its quotes and its open fees. -/
def closeAgreement (requestId : Id) (db : Db) : Db :=
  { db with
    inspectionRequests := db.inspectionRequests.update requestId
      ({ · with status := .cancelled, workflowDueAt := none })
    inspectionQuotes := db.inspectionQuotes.updateMany
      (fun _ quote => quote.inspectionRequestId = requestId && quote.status.isLive)
      ({ · with status := .expired })
    obligations := db.obligations.updateMany
      (fun _ b => b.inspectionRequestId = some requestId && b.type = .inspector &&
        b.status = .open)
      ({ · with status := .cancelled }) }

/-- The order of a closed agreement, which is cancelled as long as nothing hangs on it. -/
def closeOrderOfAgreement (env : Env) (code : LapseCode) (actorId : Option Id)
    (role : CancelledByRole) (orderId : Id) : Tx := fun db =>
  match db.orders.findUnique orderId with
  | none => .ok db
  | some order =>
      if closesOrder db orderId order then
        cancelLoadedOrder env .included orderId actorId (some code.order) role db
      else
        .ok db

/-- `lapseInspectionAgreement`. -/
def lapseInspectionAgreement (env : Env) (requestId : Id) (code : LapseCode)
    (actorId : Option Id) (role : CancelledByRole) : Tx := fun db =>
  match db.inspectionRequests.findUnique requestId with
  | none => .ok db
  | some request =>
      if request.status ≠ .accepted ∨ moneyMoved db requestId = true then
        .ok db
      else
        let db := closeAgreement requestId db
        match request.orderId with
        | none => .ok db
        | some orderId =>
            closeOrderOfAgreement env code actorId role orderId
              (recordOrderEvent env (some orderId) .inspectionAgreementClosed db)

end MarketBridge
