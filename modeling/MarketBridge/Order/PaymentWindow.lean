import MarketBridge.Order.Unwinding
import MarketBridge.Payment.Obligation

/-!
# Price reviews and decisions

The checks before a party answers a price review and before the buyer decides, and the
deadlines that the answers write.
-/

namespace MarketBridge

open Relational

/-! ## Deadlines -/

/-- `computePaymentDueAt`. -/
def computePaymentDueAt (env : Env) : Nat :=
  env.now + env.paymentTimeoutMs

/-- `computeInspectionWorkflowDueAt`. -/
def computeInspectionWorkflowDueAt (env : Env) : Nat :=
  env.now + env.inspectionWorkflowMs

/-! ## Requests -/

/-- The user of a request with the roles that the routes look at. -/
structure Caller where
  userId : Id
  isAdmin : Bool := false
  isInspector : Bool := false
deriving DecidableEq, Repr

def Order.isParty (order : Order) (userId : Id) : Bool :=
  order.buyerId = userId || order.sellerId = userId

/-- `status.toLowerCase()`. -/
def OrderStatus.lowerText : OrderStatus -> String
  | .pendingPayment => "pending_payment"
  | .confirmed => "confirmed"
  | .transportArranged => "transport_arranged"
  | .inTransit => "in_transit"
  | .delivered => "delivered"
  | .completed => "completed"
  | .disputed => "disputed"
  | .cancelled => "cancelled"

/-! ## Price reviews -/

def goodsPaymentStarted (db : Db) (orderId : Id) : Bool :=
  (paymentsOf db orderId).any fun p =>
    p.2.type = .marketplace && p.2.status ∈ [PaymentStatus.pending, .processing, .paid]

inductive PriceReviewAction where
  | accept
  | counter (proposedPrice : Option ℚ) (reasonCode : Option PriceReviewReason)
  | reject
deriving DecidableEq, Repr

def assertMayAnswer (db : Db) (userId orderId : Id) (order : Order) (review : Option PriceReview) :
    Except ApiError PriceReview :=
  if !order.isParty userId then
    .error (httpError 403 "Only the buyer or seller can respond")
  else if order.status ∈ [OrderStatus.cancelled, .completed, .disputed] ∨
      goodsPaymentStarted db orderId = true ∨ order.buyerDecision = some .buy then
    .error (httpError 409 ("Price review is closed for this order once goods payment has " ++
      "started or the order is no longer active"))
  else
    match review with
    | none => .error (httpError 404 "Price review not found")
    | some review =>
        if review.orderId ≠ orderId then
          .error (httpError 404 "Price review not found")
        else if review.status ≠ .pending then
          .error (httpError 409 "This proposal is no longer awaiting a response")
        else if review.proposedById = userId then
          .error (httpError 403 "The proposer cannot respond to their own proposal")
        else
          .ok review

/-- The counter proposal, with its price and reason checked. -/
def counterProposal (env : Env) (userId orderId reviewId : Id) (order : Order)
    (review : PriceReview) (proposedPrice : Option ℚ) (reasonCode : Option PriceReviewReason)
    (mustDiffer : Bool) : Tx := fun db =>
  match proposedPrice, reasonCode with
  | some price, some reason =>
      if mustDiffer = true ∧ price = review.proposedPrice then
        .error (httpError 400 "Counter price must differ from the current proposal")
      else if ((related db.listings (some order.listingId)).bind Listing.minAcceptablePrice).any
          fun minimum => 0 < minimum * order.quantity && price < minimum * order.quantity then
        .error (httpError 409 "The counter price is below the seller's minimum acceptable price")
      else
        .ok (recordOrderEvent env (some orderId) .priceReviewCounter { db with
          priceReviews := (db.priceReviews.update reviewId ({ · with status := .countered })).create
            { orderId := orderId
              proposedById := userId
              proposedPrice := price
              reasonCode := reason
              parentId := some reviewId } })
  | _, _ => .error (httpError 400 "Counter price and reason are required")

def Order.acceptPrice (env : Env) (price : ℚ) (order : Order) : Order :=
  { order with
    finalPrice := price
    buyerDecision := some .buy
    buyerReviewedReportAt := some env.now
    paymentDueAt := some (computePaymentDueAt env) }

/-! ## The decision of the buyer -/

def latestInspection (db : Db) (orderId : Id) : Option (Id × InspectionRequest) :=
  (liveInspections db orderId).getLast?

def hasReport (db : Db) (requestId : Id) : Bool :=
  db.inspectionReports.any fun _ report => report.requestId = requestId

/-- The checks of a decision to buy on the price reviews of the order. -/
def assertPriceConfirmed (db : Db) (orderId : Id) : Except ApiError Unit :=
  match db.priceReviews.findFirst fun _ r => r.orderId = orderId && r.status = .pending with
  | some (_, review) =>
      if review.reasonCode = .buyerWantsCancellation then
        .error
          { message := "You have an open cancellation request. " ++
              "Wait for the seller to respond, or withdraw it first."
            status := some 409
            code := some "CANCELLATION_REQUEST_PENDING" }
      else
        .error
          { message := "Respond to the pending price review before proceeding to payment."
            status := some 409
            code := some "PRICE_REVIEW_PENDING" }
  | none =>
      if db.priceReviews.any fun _ r => r.orderId = orderId && r.status = .accepted &&
          r.reasonCode ≠ .buyerWantsCancellation then
        .ok ()
      else
        .error
          { message := "The price must be formally confirmed by both parties after the " ++
              "inspection report. Use \"Confirm at agreed price\" or \"Propose a different " ++
              "price\" to open the price review."
            status := some 409
            code := some "PRICE_CONFIRMATION_REQUIRED" }

/-- The window `buyerDecisionDueAt` is not selected, so that it is never found to be over. -/
def assertMayDecide (db : Db) (userId orderId : Id) (decision : BuyerDecision) (order : Order) :
    Except ApiError Unit := do
  if order.buyerId ≠ userId then
    .error (httpError 403 "Only the buyer can make the purchase decision")
  else if !(db.listings.findUnique order.listingId).any fun l => l.category.isPhysical then
    .error (httpError 400
      "Buyer decision is only available for Agricultural and Products Marketplace orders")
  else if order.status = .disputed then
    .error
      { message := "This order is under dispute. Buyer decisions are paused until the dispute " ++
          "is resolved."
        status := some 409
        code := some "ORDER_DISPUTED" }
  else if order.status ∈ [OrderStatus.cancelled, .completed] then
    .error (httpError 409 ("Order is already " ++ order.status.lowerText))
  else do
    if decision = .buy then assertPriceConfirmed db orderId else .ok ()
    match order.buyerDecision with
    | some recorded =>
        .error (httpError 409 ("Buyer decision has already been recorded as " ++
          (match recorded with
          | .buy => "BUY"
          | .cancel => "CANCEL")))
    | none =>
        match latestInspection db orderId with
        | none =>
            .error
              { message := "Request and complete the inspection before the buyer can decide " ++
                  "to buy or cancel."
                status := some 409
                code := some "INSPECTION_REQUIRED_FOR_BUYER_DECISION" }
        | some (requestId, request) =>
            if request.status ≠ .completed ∨ hasReport db requestId = false then
              .error
                { message := "The inspection report must be completed and published before " ++
                    "the buyer can decide."
                  status := some 409
                  code := some "INSPECTION_REPORT_REQUIRED_FOR_BUYER_DECISION" }
            else
              .ok ()

/-! ## Transport -/

def transportIsPaid (db : Db) (jobId : Id) : Bool :=
  db.payments.any fun _ p =>
    p.transportJobId = some jobId && p.type = .transport && p.status = .paid

end MarketBridge
