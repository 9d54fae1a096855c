import MarketBridge.Payment.Creation
import MarketBridge.Payment.Checkout
import MarketBridge.Order.PaymentWindow
import MarketBridge.Transport.StatusRoute

/-!
# The intent to pay

The checks of `POST /payments` on its body and on the rows it reads: the limit of the
provider, the gates of the five types of payment and the payment that is a duplicate.
-/

namespace MarketBridge

open Relational

/-- The body of `POST /payments`, with the key of its header. -/
structure PaymentBody where
  type : PaymentType
  amount : JsNumber
  method : String
  installments : Bool := false
  orderId : Option Id := none
  digitalProductId : Option Id := none
  advertisementId : Option Id := none
  inspectionRequestId : Option Id := none
  reference : Option String := none
  idempotencyKey : Option String := none
deriving DecidableEq, Repr

/-- Who asked for an inspection and for which listing; the columns are never written again. -/
structure InspectionOrigin where
  requestedById : Id
  listingId : Id
deriving DecidableEq, Repr

namespace PaymentBody

def isAdmitted (body : PaymentBody) : Bool :=
  body.type ≠ .marketplaceInstallment &&
    (match body.amount with
    | .finite amount => 0 < amount
    | .notFinite => true) &&
    body.method ∈ ["TELEBIRR", "CBE", "QR", "OTHER"] &&
    body.reference.all fun reference => reference.length ≤ 200

/-! ## Limit of the provider -/

def usesChapa (body : PaymentBody) : Bool :=
  body.method ∈ ["TELEBIRR", "QR"]

def overProviderLimit (body : PaymentBody) : Bool :=
  body.usesChapa &&
    match body.amount with
    | .finite amount => maxTransactionAmount < amount
    | .notFinite => true

end PaymentBody

/-- The length of `splitAmount(total, max)`. -/
def installmentCountOf (total : ℚ) : Nat :=
  max 1 (Rat.ceil (roundMoney total / maxTransactionAmount)).toNat

def limitError (advice : String) : ApiError :=
  codedError 400 "PAYMENT_AMOUNT_EXCEEDS_LIMIT"
    ("Online payments are limited to 1,000,000 ETB per transaction. " ++ advice)

def supportAdvice : String :=
  "Please contact MarketBridge support to arrange this payment."

/-- The number of installments that are asked for, where they are possible and needed. -/
def PaymentBody.checkLimit (body : PaymentBody) : Except ApiError (Option Nat) :=
  if body.overProviderLimit then
    if body.type ≠ .marketplace then
      .error (limitError supportAdvice)
    else
      match body.amount with
      | .notFinite =>
          if body.installments then .error (httpError 400 "Invalid amount to split")
          else .error (limitError supportAdvice)
      | .finite amount =>
          if body.installments then
            .ok (some (installmentCountOf amount))
          else
            .error (limitError ("This order can be paid in " ++
              toString (installmentCountOf amount) ++ " installments."))
  else if body.installments then
    .error (codedError 400 "INSTALLMENTS_NOT_NEEDED"
      "Installments are only available for amounts above the online payment limit")
  else
    .ok none

/-! ## Idempotency key -/

namespace PaymentBody

def key (body : PaymentBody) : Option String :=
  body.idempotencyKey.filter (· ≠ "")

def replayed (body : PaymentBody) (db : Db) : Bool :=
  body.key.any fun key => db.payments.any fun _ p => p.idempotencyKey = some key

end PaymentBody

/-! ## Goods -/

def assertOrderPayable (caller : Caller) (order : Order) : Except ApiError Unit :=
  if !order.isParty caller.userId && !caller.isAdmin then
    .error (httpError 403 "Not authorized")
  else if order.status = .disputed then
    .error (codedError 409 "ORDER_DISPUTED"
      "This order is under dispute. Payments are paused until the dispute is resolved.")
  else
    .ok ()

/-- The inspection of physical goods is over, and the buyer has decided to buy. -/
def assertInspected (db : Db) (orderId : Id) (order : Order) (listing : Listing) :
    Except ApiError Unit :=
  match latestInspection db orderId with
  | none =>
      if listing.inspectionRequired then
        .error (codedError 409 "INSPECTION_REQUIRED_BEFORE_BUYER_DECISION" ("An inspection must " ++
          "be requested and completed before the buyer can pay for these goods."))
      else
        .ok ()
  | some (requestId, current) =>
      if current.status ≠ .completed ∨ hasReport db requestId = false then
        .error (codedError 409 "INSPECTION_REQUIRED_BEFORE_BUYER_DECISION" ("Complete the current " ++
          "inspection and publish its report before the buyer can pay for the goods."))
      else if order.buyerDecision ≠ some .buy then
        .error (codedError 409 "BUYER_DECISION_REQUIRED" ("The buyer must explicitly choose BUY " ++
          "after reviewing the inspection report before paying for the goods."))
      else
        .ok ()

/-- The gates of a goods payment. -/
def assertGoodsIntent (db : Db) (caller : Caller) (amount : JsNumber) (orderId : Id)
    (order : Order) : Except ApiError Unit := do
  let listing := db.listings.findUnique order.listingId
  if order.buyerId ≠ caller.userId ∧ caller.isAdmin = false then
    .error (httpError 403 "Only the buyer may create the marketplace payment")
  else if moneyEqual order.finalPrice amount = false then
    .error (httpError 400 "Amount must match order final price")
  else if order.status = .completed then
    .error (httpError 400 "Order already completed")
  else if (listing.any fun l => l.category = .product) ∧ order.agreedOfferId = none then
    .error (codedError 409 "NEGOTIATION_REQUIRED" ("This product must first be won through " ++
      "seller bidding and bilateral negotiation before payment."))
  else do
    match listing.filter fun l => l.category.isPhysical with
    | none => .ok ()
    | some listing => assertInspected db orderId order listing
    if goodsPaymentUnlocked ((transportJobOf db orderId).map (·.2)) then
      .ok ()
    else
      .error (codedError 409 "LOADING_APPROVAL_REQUIRED" ("The buyer must approve the " ++
        "loading-preparation report before goods payment can begin."))

/-! ## Transport -/

/-- The job of the order that may be paid. -/
def transportToPay (db : Db) (orderId : Id) : Except ApiError (Id × TransportJob) :=
  match transportJobOf db orderId with
  | none => .error (httpError 400 "Transport job required")
  | some (jobId, job) =>
      if job.method = .ownTruck then
        .error (httpError 400 "No separate transport payment for OWN_TRUCK")
      else if job.status ∉ [TransportStatus.quoted, .accepted] then
        .error (httpError 400 "A transporter must be provisionally agreed before payment")
      else
        .ok (jobId, job)

/-- The accepted quote of the job, which the payment is bound to. -/
def quoteToPay (db : Db) (caller : Caller) (amount : JsNumber) (order : Order) (jobId : Id)
    (job : TransportJob) : Except ApiError Id :=
  match db.transportQuotes.findFirst fun _ quote =>
      quote.transportJobId = jobId && quote.status = .accepted with
  | none =>
      .error (httpError 409
        "A provisionally accepted transporter quote is required before payment")
  | some (quoteId, quote) =>
      if job.truckOwnerId ≠ some quote.truckOwnerId ∨ job.truckId ≠ some quote.truckId ∨
          moneyEqual (job.agreedAmount.getD 0) (.finite quote.amount) = false then
        .error (codedError 409 "TRANSPORT_QUOTE_JOB_MISMATCH" ("The selected transporter quote " ++
          "no longer matches the transport agreement. Please reopen negotiation and select " ++
          "the current quote."))
      else
        match job.agreedAmount with
        | none => .error (httpError 400 "Agreed amount missing")
        | some agreedAmount =>
            if moneyEqual agreedAmount amount = false then
              .error (httpError 400 "Amount mismatch")
            else if order.buyerId ≠ caller.userId ∧ caller.isAdmin = false then
              .error (httpError 403 "Only the buyer may pay the hired transporter")
            else
              .ok quoteId

/-! ## Digital products and campaigns -/

def assertDigitalIntent (db : Db) (caller : Caller) (amount : JsNumber) (productId : Id) :
    Except ApiError Unit :=
  match (db.digitalProducts.findUnique productId).filter fun product =>
      product.status = .active with
  | none => .error (httpError 404 "Digital product not found")
  | some product =>
      if product.sellerId = caller.userId then
        .error (httpError 400 "Cannot purchase own product")
      else if moneyEqual product.price amount = false then
        .error (httpError 400 "Amount mismatch")
      else
        .ok ()

/-- `status.toLowerCase()`, with blanks. -/
def AdStatus.lowerText : AdStatus -> String
  | .pending => "pending"
  | .active => "active"
  | .pendingPayment => "pending payment"
  | .paidPendingReview => "paid pending review"
  | .approved => "approved"
  | .scheduled => "scheduled"
  | .published => "published"
  | .expired => "expired"
  | .rejected => "rejected"
  | .cancelled => "cancelled"

def assertAdvertisingIntent (db : Db) (caller : Caller) (amount : JsNumber) (adId : Id) :
    Except ApiError Unit :=
  match db.advertisements.findUnique adId with
  | none => .error (httpError 404 "Ad not found")
  | some ad =>
      if ad.advertiserId ≠ caller.userId ∧ caller.isAdmin = false then
        .error (httpError 403 "Not authorized")
      else if ad.priceQuoted ≤ 0 then
        .error (httpError 400 "Advertisement has no valid server-calculated price")
      else if moneyEqual ad.priceQuoted amount = false then
        .error (httpError 400 "Amount mismatch")
      else if ad.status ≠ .pendingPayment then
        .error (httpError 400 ("Cannot pay a campaign that is " ++ ad.status.lowerText))
      else
        .ok ()

/-! ## Inspection fees -/

namespace InspectionRequest

/-- `buyerFeeAmount`, which an acceptance derives from the fee. -/
def buyerFeeAmount (request : InspectionRequest) : Option ℚ :=
  match request.feePayer with
  | .seller => none
  | .split => request.fee.map fun fee => roundMoney (fee / 2)
  | .buyer => request.fee

def sellerFeeAmount (request : InspectionRequest) : Option ℚ :=
  match request.feePayer with
  | .buyer => none
  | .split => request.fee.map fun fee => roundMoney (fee - roundMoney (fee / 2))
  | .seller => request.fee

end InspectionRequest

/-- Whether the caller may pay the fee, and how much of it. -/
structure FeeShare where
  allowed : Bool := false
  expected : ℚ := 0
deriving DecidableEq, Repr

def gateOrderOf (body : PaymentBody) (request : InspectionRequest) : Except ApiError (Option Id) :=
  match request.orderId, body.orderId with
  | some orderId, some given =>
      if given = orderId then .ok (some orderId)
      else .error (httpError 400 "orderId does not match the inspection request")
  | some orderId, none => .ok (some orderId)
  | none, given => .ok given

/-- The gates of the order of the inspection; the result says whether the fee is split by it. -/
def assertGateOrder (origin : InspectionOrigin) (request : InspectionRequest)
    (order : Option Order) : Except ApiError Bool :=
  match order with
  | none => .ok false
  | some order =>
      if order.status = .disputed then
        .error (codedError 409 "ORDER_DISPUTED" ("This order is under dispute. Inspection payment " ++
          "is paused until the dispute is resolved."))
      else if order.status ∈ [OrderStatus.cancelled, .completed] then
        .error (codedError 409 "ORDER_CLOSED" ("This order is " ++ order.status.lowerText ++
          ", so inspection payment is no longer possible."))
      else if order.listingId ≠ origin.listingId then
        .ok false
      else if request.status ≠ .accepted then
        .error (codedError 409 "INSPECTION_NOT_READY_FOR_PAYMENT" ("Inspection payment is only " ++
          "possible for an accepted, seller-confirmed inspection."))
      else if request.sellerConfirmedAt = none then
        .error (codedError 409 "SELLER_CONFIRMATION_REQUIRED" ("The seller must confirm the " ++
          "selected inspector and agreed inspection fee before inspection payment can begin."))
      else
        .ok true

/-- The share that the obligations of the order, or else the terms of the request, name. -/
def feeShareOf (db : Db) (userId requestId orderId : Id) (order : Order)
    (request : InspectionRequest) : Except ApiError FeeShare :=
  match db.obligations.findFirst fun _ b =>
      b.orderId = orderId && b.inspectionRequestId = some requestId &&
        b.type = PaymentType.inspector && b.payerId = userId with
  | some (_, mine) =>
      if mine.status = .cancelled then
        .error (codedError 409 "OBLIGATION_CANCELLED"
          "This inspection payment obligation has been cancelled.")
      else
        .ok
          { allowed := mine.status = .open
            expected := mine.amount }
  | none =>
      .ok
        { allowed :=
            (if request.feePayer = .seller ∨ request.mode = .sellerRequested then order.sellerId
              else order.buyerId) = userId && request.feePayer ≠ .split
          expected :=
            if request.feePayer = .split then
              (if userId = order.buyerId then request.buyerFeeAmount
                else request.sellerFeeAmount).getD 0
            else
              request.fee.getD 0 }

/-- The last gates of an inspection fee. -/
def assertFeeShare (body : PaymentBody) (userId : Id) (origin : InspectionOrigin)
    (request : InspectionRequest) (share : FeeShare) : Except ApiError Unit :=
  let standalone := origin.requestedById = userId ∧ request.orderId = none ∧ body.orderId = none
  if share.allowed = false ∧ ¬ standalone then
    .error (httpError 403 "Only the designated inspection payer may pay this fee")
  else
    match request.fee with
    | none => .error (httpError 400 "No agreed fee")
    | some fee =>
        let expected := if share.allowed then share.expected else fee
        if moneyEqual (if expected ≤ 0 then fee else expected) body.amount then
          .ok ()
        else
          .error (httpError 400 "Amount mismatch")

/-! ## Duplicates -/

def PaymentStatus.isActive (status : PaymentStatus) : Bool :=
  status ∈ [PaymentStatus.pending, .processing, .paid]

/-- The active payment of the user that the filters of the body match. -/
def findDuplicate (db : Db) (userId : Id) (body : PaymentBody) (transportJobId : Option Id) :
    Option (Id × Payment) :=
  db.payments.findFirst fun _ p =>
    p.createdById = some userId && p.type = body.type && p.status.isActive &&
      (body.orderId.all fun id => p.orderId = some id) &&
      (body.digitalProductId.all fun id => p.digitalProductId = some id) &&
      (body.advertisementId.all fun id => p.advertisementId = some id) &&
      (body.inspectionRequestId.all fun id => p.inspectionRequestId = some id) &&
      (transportJobId.all fun id => p.transportJobId = some id)

/-- What a duplicate leads to. -/
inductive DuplicateVerdict where
  /-- A pending payment becomes the parent of a plan. -/
  | convert (installmentCount : Nat)
  | plan
  | refused (e : ApiError)
deriving DecidableEq, Repr

def judgeDuplicate (body : PaymentBody) (installmentCount : Option Nat)
    (transportQuoteId : Option Id) (duplicate : Payment) : DuplicateVerdict :=
  if body.type = .transport ∧ transportQuoteId.isSome ∧
      duplicate.transportQuoteId ≠ transportQuoteId then
    .refused (codedError 409 "TRANSPORT_PAYMENT_ALREADY_BOUND" ("An active transport payment " ++
      "already exists for a different transporter quote. That payment must fail or be " ++
      "cancelled before another quote can be selected."))
  else if installmentCount.isSome ∧ body.type = .marketplace ∧ duplicate.status = .pending ∧
      maxTransactionAmount < duplicate.amount then
    .convert (installmentCountOf duplicate.amount)
  else if installmentCount.isSome ∧ duplicate.isInstallmentParent then
    .plan
  else
    .refused (httpError 409 "Active payment already exists")

/-- The `data` that `createPayment` is called with. -/
def PaymentBody.data (body : PaymentBody) (userId : Id)
    (transportJobId transportQuoteId : Option Id) (installmentCount : Option Nat) :
    CreatePaymentData :=
  { createdById := some userId
    type := body.type
    amount := body.amount
    method := some body.method
    reference := body.reference.filter (· ≠ "")
    orderId := body.orderId
    digitalProductId := body.digitalProductId
    advertisementId := body.advertisementId
    inspectionRequestId := body.inspectionRequestId
    transportJobId := transportJobId
    transportQuoteId := transportQuoteId
    installmentCount := installmentCount
    idempotencyKey := body.key }

end MarketBridge
