import MarketBridge.Payment.SettlementExits
import MarketBridge.Refund.Service

/-!
# Payment service entry points

What stands around the settlement transaction: the public `settlePayment`, which
reports goods that are gone and settles a complete installment plan, and
`replayDisputedPaidPayment`, which makes up for the effects that a payment
received under dispute did not have.
-/

namespace MarketBridge

open Relational

/-! ## Installment plans -/

def installmentsOf (db : Db) (parentPaymentId : Id) : List (Id × Payment) :=
  db.payments.findMany fun _ child =>
    child.parentPaymentId = some parentPaymentId && child.installmentSequence.isSome

def planIsPaid (db : Db) (parentPaymentId : Id) (parent : Payment) : Bool :=
  let children := installmentsOf db parentPaymentId
  some children.length = parent.installmentCount &&
    children.all fun child => child.2.status = .paid

/-- The notification that a complete plan sends for its parent. -/
def planNotice (parentPaymentId : Id) (parent : Payment) : SettleArgs :=
  { paymentId := parentPaymentId
    status := .paid
    provider := some "INSTALLMENTS"
    providerTransactionId := some ("installments:" ++ toString parentPaymentId)
    reference := jsOr parent.reference none
    eventId := some ("installments-complete:" ++ toString parentPaymentId)
    amount := some (.finite parent.amount)
    currency := some (if parent.currency = "" then "ETB" else parent.currency) }

/-- `finalizeInstallmentPlan`. -/
def finalizeInstallmentPlan (env : Env) (parentPaymentId : Id) : Tx := fun db =>
  match db.payments.findUnique parentPaymentId with
  | none => .ok db
  | some parent =>
      if parent.isInstallmentParent = false then
        .ok db
      else if parent.status ∈
          [PaymentStatus.paid, .refunded, .refundPending, .failed] then
        .ok db
      else if planIsPaid db parentPaymentId parent then
        settlePaymentCore env (planNotice parentPaymentId parent) db
      else
        .ok db

/-! ## Public settlement -/

/-- Move the payment to `RECONCILIATION_REQUIRED` unless it is there already. -/
def flagForReconciliation (args : SettleArgs) (p : Payment) : Tx := fun db =>
  if p.status = .reconciliationRequired then
    .ok db
  else do
    assertTransition p.status .reconciliationRequired
    updatePayment args.paymentId (·.flagged args) db

/-- The payment of which the goods are gone waits for a decision. -/
def reconcileInventory (env : Env) (args : SettleArgs) : Tx := fun db =>
  match db.payments.findUnique args.paymentId with
  | none => .error insufficientInventoryError
  | some p => do
      let db ← flagForReconciliation args p db
      createReconciliationIssue env
        { paymentId := args.paymentId
          provider := jsOr args.provider (jsOr p.provider (some "UNKNOWN"))
          observedStatus := .paid
          expectedAmount := p.amount
          observedAmount := args.amount
          expectedCurrency := p.currency
          observedCurrency := jsOr args.currency none
          reason := .insufficientInventoryAfterProviderPayment }
        db

/-- The settlement, or the report that replaces it when the goods are gone. -/
def settleOrReconcile (env : Env) (args : SettleArgs) : Tx := fun db =>
  match settlePaymentCore env args db with
  | .ok db => .ok db
  | .error e =>
      if e.code = some "INSUFFICIENT_INVENTORY" ∧ args.status = .paid then
        match reconcileInventory env args db with
        | .ok db => .ok db
        | .error _ => .error e
      else
        .error e

def planOfInstallment (db : Db) (paymentId : Id) : Option Id :=
  match db.payments.findUnique paymentId with
  | none => none
  | some p =>
      if p.type = .marketplaceInstallment ∧ p.status = .paid then p.parentPaymentId else none

def isWaitingOffer (db : Db) (listingId i : Id) (o : Offer) : Bool :=
  o.listingId = listingId && o.status = .pending &&
    !db.offers.any fun _ child => child.parentOfferId = some i

/-- `releaseWaitingBidders`: the goods are gone, so the waiting bids are withdrawn. -/
def releaseWaitingBidders (listingId : Id) (db : Db) : Db :=
  { db with
    offers := db.offers.updateMany (isWaitingOffer db listingId)
      ({ · with status := .withdrawn }) }

/-- The order whose goods payment has just been received, unless it is disputed or closed. -/
def orderToRelease (db : Db) (paymentId : Id) : Option Order :=
  match db.payments.findUnique paymentId with
  | none => none
  | some p =>
      if p.type = .marketplace ∧ p.status = .paid then
        (related db.orders p.orderId).filter fun order =>
          order.status ∉ [OrderStatus.disputed, .cancelled]
      else
        none

def releaseBiddersAfter (paymentId : Id) (db : Db) : Db :=
  match orderToRelease db paymentId with
  | none => db
  | some order => releaseWaitingBidders order.listingId db

/-- `settlePayment`: what follows the settlement never undoes it. -/
def settlePayment (env : Env) (args : SettleArgs) : Tx := fun db => do
  let db ← settleOrReconcile env args db
  match planOfInstallment db args.paymentId with
  | none => .ok (releaseBiddersAfter args.paymentId db)
  | some parentPaymentId =>
      .ok (releaseBiddersAfter parentPaymentId
        (commit (finalizeInstallmentPlan env parentPaymentId db) db))

/-! ## Reconciliation -/

/-- `resolveReconciliation`: an issue is closed once, as resolved or dismissed. -/
def resolveReconciliation (env : Env) (reconciliationId : Id)
    (status : PaymentReconciliationStatus) (actorId : Id) (note : Option String) : Tx :=
  fun db =>
    match db.reconciliations.findUnique reconciliationId with
    | none =>
        .error
          { message := "Reconciliation record not found"
            status := some 404 }
    | some item =>
        if item.status ≠ .open then
          .ok db
        else if status = .open then
          .error
            { message := "Invalid reconciliation resolution"
              status := some 400 }
        else
          .ok (recordOrderEvent env (paymentOrderId db item.paymentId)
            .paymentReconciliationResolved { db with
              reconciliations := db.reconciliations.update reconciliationId ({ · with
                status := status
                resolvedById := some actorId
                resolvedAt := some env.now
                resolutionNote := jsOr note none }) })

/-! ## Replay after a dispute -/

def confirmWaitingOrder (orderId : Id) (order : Order) : Tx := fun db =>
  if order.status = .pendingPayment then do
    let db ← commitGoods orderId order db
    transitionOrderStatus orderId .pendingPayment .confirmed db
  else
    .ok db

def replayGoods (env : Env) (r : PaymentRecord) : Tx := fun db =>
  match r.row.type, r.row.orderId, r.order with
  | .marketplace, some orderId, some order => do
      let db ← confirmWaitingOrder orderId order db
      .ok (createPayoutHold env (some orderId) .seller (some order.sellerId) r.id r.row db)
  | _, _, _ => .ok db

def quoteAligned (job : TransportJob) (quote : TransportQuote) : Bool :=
  quote.status = .accepted && some quote.truckId = job.truckId &&
    some quote.truckOwnerId = job.truckOwnerId

/-- The transport that the payment pays for is committed if it still can be. -/
def replayTransport (env : Env) (r : PaymentRecord) (db : Db) : Db :=
  match r.row.type, r.row.transportJobId, r.transportJob, r.row.transportQuoteId,
    r.transportQuote with
  | .transport, some jobId, some job, some quoteId, some quote =>
      if isHired r && job.status ∈ [TransportStatus.requested, .quoted, .accepted] &&
          quoteAligned job quote then
        acceptTransport env jobId quoteId job { db with
          trucks := db.trucks.updateMany
            (fun i truck => some i = job.truckId && truck.availability = .available)
            ({ · with availability := .busy }) }
      else
        db
  | _, _, _, _, _ => db

def replayInspection (r : PaymentRecord) (db : Db) : Db :=
  match inspectionCommitment r with
  | none => db
  | some (requestId, request, _) =>
      if request.status ∈ [InspectionStatus.requested, .accepted] then
        { db with
          inspectionRequests := db.inspectionRequests.update requestId
            ({ · with status := .accepted }) }
      else
        db

/-- `replayDisputedPaidPayment`. -/
def replayDisputedPaidPayment (env : Env) (paymentId : Id) : Tx := fun db =>
  match db.payments.findUnique paymentId with
  | none => .ok db
  | some p =>
      let r := paymentRecord db paymentId p
      if p.status = .paid ∧ r.order.isSome then do
        let db ← replayGoods env r db
        .ok (holdInspectionPayout env r
          (replayInspection r
            (holdTransportPayout env r
              (replayTransport env r db))))
      else
        .ok db

end MarketBridge
