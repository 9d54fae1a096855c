import MarketBridge.Inventory.Service
import MarketBridge.Payout.Service
import MarketBridge.Refund.Service

/-!
# Order cancellation

`orderCancellationService.js`: an order is cancelled with everything that hangs
on it, in one transaction.  The order is handed in as a record that the caller
has loaded.
-/

namespace MarketBridge

open Relational

/-! ## Promotion of the next waiting buyer -/

def Offer.isExpired (env : Env) (o : Offer) : Bool :=
  o.expiresAt.any fun expiresAt => expiresAt ≤ env.now

def expireWaitingOffers (env : Env) (listingId : Id) (db : Db) : Db :=
  { db with
    offers := db.offers.updateMany
      (fun _ o => o.listingId = listingId && o.status = .pending && o.isExpired env)
      ({ · with status := .expired }) }

def Offer.isPromotable (env : Env) (listingId : Id) (availableQuantity : ℚ) (o : Offer) :
    Bool :=
  o.listingId = listingId && o.status = .pending &&
    (o.quantity.any fun quantity => 0 < quantity && quantity ≤ availableQuantity) &&
    !o.isExpired env

def Offer.ranksBefore (o o' : Offer) : Bool :=
  o'.amount < o.amount || (o.amount = o'.amount && o.createdAt < o'.createdAt)

/-- The first row in the given order; of rows that rank the same, the one found first. -/
def firstRanked (rows : List (Id × Offer)) : Option (Id × Offer) :=
  rows.foldl
    (fun best e =>
      match best with
      | none => some e
      | some b => if e.2.ranksBefore b.2 then some e else best)
    none

/-- The waiting bid that `promoteNextWaitingBuyer` selects. -/
def nextWaitingOffer (env : Env) (listingId : Id) (db : Db) : Option (Id × Offer) :=
  let available := ((db.listings.findUnique listingId).map (·.availableQuantity)).getD 0
  firstRanked (db.offers.findMany fun _ o => o.isPromotable env listingId available)

def setListingStatus (listingId : Id) (status : ListingStatus) (db : Db) : Db :=
  { db with listings := db.listings.update listingId ({ · with status := status }) }

def promoteNextWaitingBuyer (env : Env) (listingId : Id) (db : Db) : Db :=
  let db := expireWaitingOffers env listingId db
  match nextWaitingOffer env listingId db with
  | none => setListingStatus listingId .active db
  | some next =>
      setListingStatus listingId .underNegotiation
        { db with offers := db.offers.update next.1 ({ · with status := .selected }) }

/-! ## The steps of a cancellation -/

/-- Who cancels; the maintenance scheduler cancels as the system. -/
inductive CancelledByRole where
  | buyer
  | seller
  | admin
  | system
deriving DecidableEq, Repr

def assertCancellable (order : OrderRecord) (role : CancelledByRole) : Except ApiError Unit :=
  if order.status ∈ [OrderStatus.completed, .cancelled] then
    .error
      { message := "Order is no longer cancellable"
        status := some 409 }
  else if role ≠ .admin ∧ (order.transportJob.any fun job =>
      job.status ∈ [TransportStatus.pickup, .inTransit, .delivered]) then
    .error
      { message := "Goods are already in transit or delivered for this order. " ++
          "Raise a dispute instead of cancelling."
        status := some 400
        code := some "TRANSPORT_MOVEMENT_STARTED" }
  else
    .ok ()

def earnedInspections (db : Db) (orderId : Id) : List Id :=
  (db.inspectionRequests.findMany fun _ request =>
    request.orderId = some orderId && request.status = .completed).map Prod.fst

/-- No decision is due any more, and the open obligations are cancelled. -/
def closeOrder (env : Env) (orderId : Id) (db : Db) : Db :=
  recordOrderEvent env (some orderId) .orderCancelled
    { db with
      orders := db.orders.update orderId ({ · with
        buyerDecisionDueAt := none
        cancelledWith := some (earnedInspections db orderId) })
      obligations := db.obligations.updateMany
        (fun _ obligation => obligation.orderId = orderId && obligation.status = .open)
        ({ · with status := .cancelled }) }

/-- Give the goods back; a listing that gets nothing back is at least active again. -/
def restoreGoods (order : OrderRecord) : Tx := fun db => do
  match ← releaseListingQuantity order db with
  | some db =>
      .ok { db with
        orders := db.orders.update order.id ({ · with goodsCommitted := false }) }
  | none =>
      if order.status ≠ .pendingPayment then
        .ok (setListingStatus order.listingId .active db)
      else
        .ok db

def TransportQuoteStatus.isLive (s : TransportQuoteStatus) : Bool :=
  s ∈ [TransportQuoteStatus.pending, .selected, .countered, .accepted]

def InspectionQuoteStatus.isLive (s : InspectionQuoteStatus) : Bool :=
  s ∈ [InspectionQuoteStatus.pending, .selected, .countered, .accepted]

/-- The job that has not arrived is cancelled, its quotes rejected, its truck freed. -/
def cancelTransport (order : OrderRecord) (db : Db) : Db :=
  match order.transportJob with
  | none => db
  | some job =>
      if job.status ∈ [TransportStatus.delivered, .cancelled] then
        db
      else
        { db with
          transportJobs := db.transportJobs.update job.id
            ({ · with status := .cancelled, workflowDueAt := none })
          transportQuotes := db.transportQuotes.updateMany
            (fun _ quote => quote.transportJobId = job.id && quote.status.isLive)
            ({ · with status := .rejected })
          trucks := db.trucks.updateMany
            (fun i truck => some i = job.truckId && truck.availability = .busy)
            ({ · with availability := .available }) }

/-- Inspections without a report are cancelled, and the open negotiations closed. -/
def cancelInspections (orderId : Id) (earned : List Id) (db : Db) : Db :=
  { db with
    inspectionRequests := db.inspectionRequests.updateMany
      (fun i request => request.orderId = some orderId && request.status ≠ .cancelled &&
        i ∉ earned)
      ({ · with status := .cancelled })
    inspectionQuotes := db.inspectionQuotes.updateMany
      (fun _ quote =>
        (db.inspectionRequests.findUnique quote.inspectionRequestId).any
          (·.orderId = some orderId) && quote.status.isLive)
      ({ · with status := .rejected }) }

def Payment.isEarnedInspectionFee (earned : List Id) (p : Payment) : Bool :=
  p.type = .inspector && p.inspectionRequestId.any fun requestId => requestId ∈ earned

def paymentsToRefund (orderId : Id) (earned : List Id) (db : Db) : List Id :=
  (db.payments.findMany fun _ p =>
    p.orderId = some orderId && p.status = .paid && !p.isInstallmentParent &&
      !p.isEarnedInspectionFee earned).map Prod.fst

def transportPaymentsToRefund (order : OrderRecord) (db : Db) : List Id :=
  match order.transportJob with
  | none => []
  | some job =>
      (db.payments.findMany fun _ p =>
        p.transportJobId = some job.id && p.status = .paid).map Prod.fst

def closeInstallmentPlans (orderId : Id) (db : Db) : Db :=
  { db with
    payments := (db.payments.updateMany
      (fun _ p => p.orderId = some orderId && p.status = .paid && p.isInstallmentParent)
      (·.withStatus .refundPending)).updateMany
      (fun _ p => p.orderId = some orderId && p.status = .pending &&
        (p.isInstallmentParent || p.type = .marketplaceInstallment))
      (·.withStatus .failed) }

def requestRefunds (env : Env) (reason : Option String) (actorId : Option Id)
    (paymentIds : List Id) : Tx := fun db =>
  paymentIds.foldlM
    (fun db paymentId => do
      let (db, _) ← requestRefund env paymentId none
        (jsOr reason (some "Order cancellation")) actorId db
      .ok db)
    db

/-- An unpaid winner leaves the negotiation, and the next waiting buyer is selected. -/
def releaseWinner (env : Env) (order : OrderRecord) (db : Db) : Db :=
  if order.status = .pendingPayment then
    promoteNextWaitingBuyer env order.listingId
      { db with
        offers := db.offers.updateMany
          (fun i o => some i = order.agreedOfferId && o.status = .accepted)
          ({ · with status := .withdrawn }) }
  else
    db

/-- `cancelOrderInTransaction`. -/
def cancelOrderInTransaction (env : Env) (order : OrderRecord) (actorId : Option Id)
    (reason : Option String) (cancelledByRole : CancelledByRole) : Tx := fun db => do
  assertCancellable order cancelledByRole
  let db ← transitionOrderStatus order.id order.status .cancelled db
  let db := closeOrder env order.id db
  let db ← restoreGoods order db
  let db := cancelTransport order db
  let earned := earnedInspections db order.id
  let db := cancelInspections order.id earned db
  let db := cancelPayoutsForOrder env order.id earned db
  let paid := paymentsToRefund order.id earned db
  let db := closeInstallmentPlans order.id db
  let db ← requestRefunds env reason actorId (paid ++ transportPaymentsToRefund order db) db
  .ok (releaseWinner env order db)

end MarketBridge
