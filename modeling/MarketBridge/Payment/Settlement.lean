import MarketBridge.Inventory.Service
import MarketBridge.Payment.Records

/-!
# Settlement of a payment

`settlePaymentCore` applies one provider notification to a payment inside one
transaction: it checks the amount and the currency, registers the provider
event, guards the status, writes the payment with its obligation, and runs the
business effects of a received or refunded payment.
-/

namespace MarketBridge

open Relational

/-- The arguments of `settlePaymentCore`; `amount` and `currency` come from `payload`. -/
structure SettleArgs where
  paymentId : Id
  status : PaymentStatus
  provider : Option String := none
  providerTransactionId : Option String := none
  reference : Option String := none
  eventId : Option String := none
  amount : Option JsNumber := none
  currency : Option String := none
deriving DecidableEq, Repr

/-- A payment with the relations that the transaction loads at its start. -/
structure PaymentRecord where
  id : Id
  row : Payment
  order : Option Order
  transportJob : Option TransportJob
  transportQuote : Option TransportQuote
  inspectionRequest : Option InspectionRequest
  advertisement : Option Advertisement
  digitalPurchase : Option (Id × DigitalPurchase)
  digitalProduct : Option DigitalProduct
deriving DecidableEq, Repr

def paymentRecord (db : Db) (id : Id) (p : Payment) : PaymentRecord :=
  { id := id
    row := p
    order := related db.orders p.orderId
    transportJob := related db.transportJobs p.transportJobId
    transportQuote := related db.transportQuotes p.transportQuoteId
    inspectionRequest := related db.inspectionRequests p.inspectionRequestId
    advertisement := related db.advertisements p.advertisementId
    digitalPurchase := db.digitalPurchases.findFirst fun _ d => d.paymentId = id
    digitalProduct := related db.digitalProducts p.digitalProductId }

def paymentNotFoundError : ApiError :=
  { message := "Payment not found"
    status := some 404 }

/-! ## Provider amount and currency -/

/-- `payload.currency` is present and differs from the currency of the payment. -/
def currencyMismatch (p : Payment) (args : SettleArgs) : Bool :=
  truthy args.currency && upper (args.currency.getD "") ≠ upper p.currency

/-- The reason for which a notification is flagged before it is processed. -/
def mismatchReason (p : Payment) (args : SettleArgs) : Option ReconciliationReason :=
  if args.status = .paid ∧ args.amount = none then
    some .providerAmountMissing
  else if args.status = .paid ∧ args.amount.any (fun a => !moneyEqual p.amount a) then
    some .providerAmountMismatch
  else if currencyMismatch p args then
    some .providerCurrencyMismatch
  else
    none

def issueData (r : PaymentRecord) (args : SettleArgs)
    (reason : ReconciliationReason) : ReconciliationData :=
  { paymentId := r.id
    provider := jsOr args.provider r.row.provider
    observedStatus := args.status
    expectedAmount := r.row.amount
    observedAmount := args.amount
    expectedCurrency := r.row.currency
    observedCurrency := args.currency
    reason := reason }

def Payment.flagged (p : Payment) (args : SettleArgs) : Payment :=
  { p with
    status := .reconciliationRequired
    provider := jsOr args.provider (jsOr p.provider none)
    providerTransactionId :=
      jsOr args.providerTransactionId (jsOr p.providerTransactionId none)
    reference := jsOr args.reference (jsOr p.reference none) }

/--
Open a reconciliation issue and flag the payment.  A payment that cannot move
to `RECONCILIATION_REQUIRED` is left as it is.
-/
def flagMismatch (env : Env) (args : SettleArgs) (r : PaymentRecord)
    (reason : ReconciliationReason) : Tx := fun db => do
  let db ← createReconciliationIssue env (issueData r args reason) db
  if canTransition r.row.status .reconciliationRequired then
    updatePayment r.id (·.flagged args) db
  else
    .ok db

/-! ## Provider event and status guards -/

def paymentEventConflictError : ApiError :=
  { message := "Payment provider event is already associated with another payment"
    status := some 409
    code := some "PAYMENT_EVENT_CONFLICT" }

/--
Register the provider event.  The result is `none` when this payment has
processed the event before.
-/
def registerEvent (args : SettleArgs) (r : PaymentRecord) (db : Db) :
    Except ApiError (Option Db) :=
  match args.eventId with
  | none => .ok (some db)
  | some eventId =>
      if eventId = "" then
        .ok (some db)
      else
        match db.paymentEvents.findFirst fun _ e => e.eventId = eventId with
        | some (_, e) =>
            if e.paymentId = r.id then
              .ok none
            else
              .error paymentEventConflictError
        | none =>
            .ok (some { db with
              paymentEvents := db.paymentEvents.create
                { paymentId := r.id
                  provider := (jsOr (jsOr args.provider r.row.provider)
                    (some "UNKNOWN")).getD "UNKNOWN"
                  eventId := eventId
                  status := args.status } })

/-- The state guards: a notification that does not fit the current status. -/
def ignoresNotification (current requested : PaymentStatus) : Bool :=
  (current = .refunded && requested ≠ .refunded) ||
  (current = .paid && requested ∈ [PaymentStatus.failed, .reconciliationRequired]) ||
  (current = .reconciliationRequired &&
    !(requested ∈ [PaymentStatus.paid, .failed, .refunded, .reconciliationRequired]))

/-! ## Payment and obligation -/

def Payment.settled (p : Payment) (args : SettleArgs) : Payment :=
  { p with
    status := args.status
    provider := jsOr args.provider p.provider
    providerTransactionId := jsOr args.providerTransactionId p.providerTransactionId
    reference := jsOr args.reference p.reference }

def obligationStatusFor : PaymentStatus -> Option PaymentObligationStatus
  | .paid => some .paid
  | .refunded => some .cancelled
  | .failed => some .open
  | _ => none

def settledObligations (args : SettleArgs) (p : Payment) (db : Db) :
    Table PaymentObligation :=
  match p.obligationId with
  | none => db.obligations
  | some o =>
      db.obligations.update o fun b =>
        { b with status := (obligationStatusFor args.status).getD b.status }

def settleObligation (args : SettleArgs) (r : PaymentRecord) (db : Db) : Db :=
  { db with
    obligations := settledObligations args r.row db
    payments :=
      if r.row.obligationId.isSome ∧ args.status = .failed then
        db.payments.update r.id ({ · with obligationId := none })
      else
        db.payments }

def writeSettlement (env : Env) (args : SettleArgs) (r : PaymentRecord) : Tx :=
  fun db => do
    let db ← updatePayment r.id (·.settled args) db
    .ok (recordOrderEvent env r.row.orderId .paymentStatusChanged
      (settleObligation args r db))

/-! ## Ledger -/

def netAmount (p : Payment) : ℚ :=
  roundMoney (max 0 (p.amount - roundMoney (p.commissionAmount.getD 0)))

def ledgerCommission (p : Payment) : ℚ :=
  roundMoney (p.commissionAmount.getD 0)

def transportPayee (r : PaymentRecord) : Option Id :=
  match r.transportJob with
  | none => none
  | some job =>
      match r.transportQuote with
      | some quote => some quote.truckOwnerId
      | none => job.truckOwnerId

def isHired (r : PaymentRecord) : Bool :=
  r.transportJob.any fun job =>
    job.method = .hireTransporter && job.truckOwnerId.isSome

def commissionEntry (r : PaymentRecord) : PaymentLedgerEntry :=
  { paymentId := r.id
    type := .platformCommission
    amount := ledgerCommission r.row
    currency := r.row.currency }

/-- The earning of a payee and the commission of the platform, where positive. -/
def earningEntries (r : PaymentRecord) (type : PaymentLedgerEntryType) (payee : Id) :
    List PaymentLedgerEntry :=
  [{ paymentId := r.id
     userId := some payee
     type := type
     amount := netAmount r.row
     currency := r.row.currency },
    commissionEntry r].filter fun e => 0 < e.amount

/-- The entries that `writeLedger(tx, payment, 'PAID')` creates, in its order. -/
def paidLedgerEntries (r : PaymentRecord) : List PaymentLedgerEntry :=
  match r.row.type with
  | .marketplace =>
      match r.order with
      | some order => earningEntries r .sellerEarning order.sellerId
      | none => []
  | .transport =>
      if isHired r then
        match transportPayee r with
        | some payee => earningEntries r .transporterEarning payee
        | none => []
      else
        []
  | .inspector =>
      match r.inspectionRequest.bind (·.inspectorId) with
      | some inspectorId => earningEntries r .inspectorEarning inspectorId
      | none => []
  | .advertising =>
      [{ paymentId := r.id
         type := .platformRevenue
         amount := r.row.amount
         currency := r.row.currency }]
  | .digital =>
      match r.digitalProduct with
      | some product => earningEntries r .sellerEarning product.sellerId
      | none => [commissionEntry r].filter fun e => 0 < e.amount
  | .marketplaceInstallment => []

/-- `writeLedger(tx, payment, 'PAID')`. -/
def writeLedgerPaid (r : PaymentRecord) (db : Db) : Db :=
  (paidLedgerEntries r).foldl (fun db e => createLedgerEntryOnce e db) db

/-- `writeLedger(tx, payment, 'REFUNDED')`. -/
def writeLedgerRefunded (r : PaymentRecord) (db : Db) : Db :=
  createLedgerEntryOnce
    { paymentId := r.id
      type := .refund
      amount := -r.row.amount
      currency := r.row.currency }
    db

/-! ## Effects of a received payment -/

/-- Take the goods of an order from its listing and remember that they are taken. -/
def commitGoods (orderId : Id) (order : Order) : Tx := fun db =>
  match db.listings.findUnique order.listingId with
  | none => .ok db
  | some listing =>
      if listing.category.isPhysical then do
        let db ← commitListingQuantity order.listingId order.quantity db
        .ok { db with
          orders := db.orders.update orderId ({ · with goodsCommitted := true }) }
      else
        .ok db

/-- The goods payment of an order confirms it, or is reported if it is cancelled. -/
def settleGoods (env : Env) (args : SettleArgs) (r : PaymentRecord) : Tx :=
  fun db =>
    match r.row.type, r.row.orderId, r.order with
    | .marketplace, some orderId, some order =>
        if order.status = .pendingPayment then do
          let db ← commitGoods orderId order db
          let db ← transitionOrderStatus orderId .pendingPayment .confirmed db
          .ok (createPayoutHold env (some orderId) .seller (some order.sellerId)
            r.id r.row db)
        else if order.status = .cancelled then
          createReconciliationIssue env
            { issueData r args .paymentReceivedForCancelledOrder with
              observedAmount := some (args.amount.getD (.finite r.row.amount))
              observedCurrency := jsOr args.currency (some r.row.currency) }
            db
        else
          .ok db
    | _, _, _ => .ok db

def conflictError (message : String) : ApiError :=
  { message := message
    status := some 409 }

def truckInUseElsewhere (db : Db) (jobId truckId : Id) : Bool :=
  db.transportJobs.any fun j job =>
    j ≠ jobId && job.truckId = some truckId &&
      job.status ∈ [TransportStatus.accepted, .pickup, .inTransit]

def setAvailability (truckId : Id) (availability : TruckAvailability) (db : Db) : Db :=
  { db with
    trucks := db.trucks.update truckId ({ · with availability := availability }) }

/-- Claim the truck of a job whose transport is being paid. -/
def claimTruck (jobId truckId : Id) (jobStatus : TransportStatus) : Tx := fun db =>
  match db.trucks.findUnique truckId with
  | none =>
      if jobStatus = .accepted then
        .error (conflictError "The selected truck no longer exists")
      else
        .error (conflictError "The selected truck is no longer available")
  | some truck =>
      match truck.availability with
      | .available => .ok (setAvailability truckId .busy db)
      | .busy =>
          if jobStatus ≠ .accepted then
            .error (conflictError "The selected truck is no longer available")
          else if truckInUseElsewhere db jobId truckId then
            .error (conflictError
              "The selected truck is committed to another active transport job")
          else
            .ok db
      | .offline => .error (conflictError "The selected truck is no longer available")

def transportAligned (p : Payment) (jobId : Id) (job : TransportJob)
    (quote : TransportQuote) : Bool :=
  quote.transportJobId = jobId && quote.status = .accepted &&
    some quote.truckId = job.truckId && some quote.truckOwnerId = job.truckOwnerId &&
    moneyEqual quote.amount (.finite (job.agreedAmount.getD 0)) &&
    moneyEqual p.amount (.finite quote.amount)

/-- `now + 24 h`, the go-to-site deadline of the paid transporter. -/
def siteDeadline (env : Env) : Nat :=
  env.now + 24 * 60 * 60 * 1000

/-- The job, quote and order writes of a paid transport. -/
def acceptTransport (env : Env) (jobId quoteId : Id) (job : TransportJob) (db : Db) :
    Db :=
  { db with
    transportJobs := db.transportJobs.update jobId ({ · with status := .accepted })
    transportQuotes := db.transportQuotes.update quoteId
      ({ · with expiresAt := some (siteDeadline env) })
    orders := db.orders.updateMany
      (fun i o => i == job.orderId && o.status = .confirmed)
      ({ · with status := .transportArranged }) }

/-- The data a hired transport needs to be committed by its payment. -/
def transportCommitment (r : PaymentRecord) :
    Option (Id × TransportJob × Id × Id × TransportQuote) :=
  if r.row.type = .transport then
    match r.row.transportJobId, r.transportJob, r.row.transportQuoteId,
      r.transportQuote with
    | some jobId, some job, some quoteId, some quote =>
        match job.truckId with
        | some truckId =>
            if isHired r then some (jobId, job, truckId, quoteId, quote) else none
        | none => none
    | _, _, _, _ => none
  else
    none

/-- Commit the hired transport that the payment pays for. -/
def commitTransport (env : Env) (r : PaymentRecord) : Tx := fun db =>
  match transportCommitment r with
  | none => .ok db
  | some (jobId, job, truckId, quoteId, quote) =>
      if job.status ∉ [TransportStatus.requested, .quoted, .accepted] then
        .error (conflictError
          "Transport job is no longer available for payment commitment")
      else if transportAligned r.row jobId job quote then do
        let db ← claimTruck jobId truckId job.status db
        .ok (acceptTransport env jobId quoteId job db)
      else
        .error (conflictError
          "Transport payment is no longer aligned with its accepted quote")

/-- The inspection that an inspector payment pays for, with its inspector. -/
def inspectionCommitment (r : PaymentRecord) :
    Option (Id × InspectionRequest × Id) :=
  if r.row.type = .inspector then
    match r.row.inspectionRequestId, r.inspectionRequest with
    | some requestId, some request =>
        request.inspectorId.map fun inspectorId => (requestId, request, inspectorId)
    | _, _ => none
  else
    none

def commitInspection (r : PaymentRecord) : Tx := fun db =>
  match inspectionCommitment r with
  | none => .ok db
  | some (requestId, request, _) =>
      if request.status ∈ [InspectionStatus.requested, .accepted] then
        .ok { db with
          inspectionRequests := db.inspectionRequests.update requestId
            ({ · with status := .accepted }) }
      else
        .error (conflictError
          "Inspection is no longer available for payment commitment")

def holdTransportPayout (env : Env) (r : PaymentRecord) (db : Db) : Db :=
  match r.transportJob with
  | some job =>
      if r.row.type = .transport && isHired r then
        createPayoutHold env (some job.orderId) .transporter (transportPayee r)
          r.id r.row db
      else
        db
  | none => db

def holdInspectionPayout (env : Env) (r : PaymentRecord) (db : Db) : Db :=
  match inspectionCommitment r with
  | some (_, request, inspectorId) =>
      createPayoutHold env request.orderId .inspector (some inspectorId) r.id r.row db
  | none => db

def setPurchaseStatus (r : PaymentRecord) (status : DigitalPurchaseStatus)
    (db : Db) : Db :=
  match r.digitalPurchase with
  | some (purchaseId, _) =>
      { db with
        digitalPurchases := db.digitalPurchases.update purchaseId
          ({ · with status := status }) }
  | none => db

def completePurchase (r : PaymentRecord) (db : Db) : Db :=
  if r.row.type = .digital then setPurchaseStatus r .completed db else db

def Advertisement.paidStatus (env : Env) (ad : Advertisement) : AdStatus :=
  if ad.type ∈ [AdType.banner, .telegramPromotion] then .paidPendingReview
  else if ad.startDate > env.now then .scheduled
  else .published

def Advertisement.paid (env : Env) (amount : ℚ) (ad : Advertisement) :
    Advertisement :=
  { ad with
    amountPaid := some amount
    status := ad.paidStatus env
    publishedAt := if ad.paidStatus env = .published then some env.now
      else ad.publishedAt }

def payAdvertisement (env : Env) (r : PaymentRecord) (db : Db) : Db :=
  match r.row.type, r.row.advertisementId with
  | .advertising, some adId =>
      { db with
        advertisements := db.advertisements.update adId (·.paid env r.row.amount) }
  | _, _ => db

def receivedUnderDispute (r : PaymentRecord) : Bool :=
  r.order.any fun o => o.status = .disputed

def recordPaid (env : Env) (r : PaymentRecord) (db : Db) : Db :=
  writeLedgerPaid r
    (payAdvertisement env r
      (completePurchase r
        (holdInspectionPayout env r
          (holdTransportPayout env r db))))

/-- The business effects of a received payment. -/
def applyPaid (env : Env) (args : SettleArgs) (r : PaymentRecord) : Tx := fun db =>
  if receivedUnderDispute r then
    createReconciliationIssue env
      (issueData r args .paymentReceivedWhileOrderDisputed) (writeLedgerPaid r db)
  else do
    let db ← settleGoods env args r db
    let db ← commitTransport env r db
    let db ← commitInspection r db
    .ok (recordPaid env r db)

def applyRefunded (r : PaymentRecord) (db : Db) : Db :=
  writeLedgerRefunded r (setPurchaseStatus r .refunded db)

def applyEffects (env : Env) (args : SettleArgs) (r : PaymentRecord) : Tx := fun db =>
  match args.status with
  | .paid => applyPaid env args r db
  | .refunded => .ok (applyRefunded r db)
  | _ => .ok db

/-! ## The transaction -/

def processNotification (env : Env) (args : SettleArgs) (r : PaymentRecord) : Tx :=
  fun db =>
    if ignoresNotification r.row.status args.status then
      .ok db
    else do
      let db ← writeSettlement env args r db
      applyEffects env args r db

def settlePaymentCore (env : Env) (args : SettleArgs) : Tx := fun db =>
  match db.payments.findUnique args.paymentId with
  | none => .error paymentNotFoundError
  | some p =>
      let r := paymentRecord db args.paymentId p
      match mismatchReason p args with
      | some reason => flagMismatch env args r reason db
      | none => do
          match ← registerEvent args r db with
          | none => .ok db
          | some db => processNotification env args r db

end MarketBridge
