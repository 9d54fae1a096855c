import MarketBridge.Order.Cancellation
import MarketBridge.Order.Lifecycle

/-!
# Offers

The helpers of `offerHelpers.js`, the agreement and the order creation of
`offerOrderService.js`, and the expiry job.  A negotiation is a chain of rows;
its leaf, the row without a child, carries the current price.
-/

namespace MarketBridge

open Relational

namespace OfferStatus

def text : OfferStatus -> String
  | .pending => "PENDING"
  | .selected => "SELECTED"
  | .countered => "COUNTERED"
  | .provisional => "PROVISIONAL"
  | .accepted => "ACCEPTED"
  | .rejected => "REJECTED"
  | .withdrawn => "WITHDRAWN"
  | .expired => "EXPIRED"

def isLive (s : OfferStatus) : Bool :=
  s ∈ [OfferStatus.selected, .countered, .provisional]

def isActive (s : OfferStatus) : Bool :=
  s = .pending || s.isLive

def isEngaged (s : OfferStatus) : Bool :=
  s.isActive || s = .accepted

end OfferStatus

def OrderStatus.isRunning (s : OrderStatus) : Bool :=
  s ∉ [OrderStatus.cancelled, .completed]

/-! ## Helpers -/

/-- `offerError`: the status is 400 unless another one is given. -/
def offerError (message : String) (status : Nat) : ApiError :=
  httpError status message

def isLeafOffer (db : Db) (id : Id) : Bool :=
  !db.offers.any fun _ child => child.parentOfferId = some id

def findLeafOffer (db : Db) (id : Id) : Option Offer :=
  (db.offers.findUnique id).filter fun _ => isLeafOffer db id

/-- `offerExpiry`: the end of the pickup window of an agricultural listing. -/
def offerExpiry (listing : Listing) : Option Nat :=
  if listing.category = .agricultural then listing.pickupWindowEnd else none

def validateNegotiationWindow (env : Env) (listing : Listing) : Except ApiError Unit :=
  if (offerExpiry listing).any fun deadline => deadline ≤ env.now then
    .error (offerError ("The agricultural pickup window has expired; negotiation cannot " ++
      "continue until the listing is updated.") 409)
  else
    .ok ()

def counterExpiry (env : Env) (listing : Listing) : Except ApiError (Option Nat) :=
  if (offerExpiry listing).any fun deadline => deadline ≤ env.now then
    .error (offerError "The agricultural pickup window is too close or has expired." 409)
  else
    .ok (offerExpiry listing)

/-- Expired rows of these statuses become `EXPIRED`. -/
def Offer.mayExpire (env : Env) (o : Offer) : Bool :=
  o.isExpired env && o.status.isActive

def setOfferStatus (id : Id) (status : OfferStatus) (db : Db) : Db :=
  { db with offers := db.offers.update id ({ · with status := status }) }

def expireOfferIfNeeded (env : Env) (id : Id) (offer : Offer) (db : Db) : Db :=
  if offer.mayExpire env then setOfferStatus id .expired db else db

/-- The expiry inside a transaction is rolled back by the error that follows it. -/
def assertNotExpired (env : Env) (offer : Offer) (message : String) : Except ApiError Unit :=
  if offer.mayExpire env then .error (offerError message 409) else .ok ()

/-- `releaseAvailableAt`: only while it is the buyer's turn. -/
def releaseAvailableAt (env : Env) (updatedAt : Nat) (offer : Offer) : Option Nat :=
  if offer.status = .selected ∨
      (offer.status = .countered ∧ offer.counteredBy = some .seller) then
    some (updatedAt + env.releaseAfterMs)
  else
    none

def provisionalReleaseAvailableAt (env : Env) (updatedAt : Nat) : Nat :=
  updatedAt + env.provisionalReleaseAfterMs

/-- `AMOUNT_LIMITS.offer`. -/
def offerAmountLimit : ℚ :=
  50000000

/-- `amountProblem(value, AMOUNT_LIMITS.offer)`. -/
def amountProblem (value : Option JsNumber) : Except ApiError ℚ :=
  match value with
  | none => .error (offerError "Amount is required" 400)
  | some .notFinite => .error (offerError "Amount must be greater than zero" 400)
  | some (.finite n) =>
      if n ≤ 0 then
        .error (offerError "Amount must be greater than zero" 400)
      else if offerAmountLimit < n then
        .error (offerError "Amount cannot be more than 50,000,000 ETB" 400)
      else if |n * 100 - ⌊n * 100 + 1 / 2⌋| > 1 / 10 ^ 6 then
        .error (offerError "Amount can have at most 2 decimal places" 400)
      else
        .ok n

/-! ## Agreement -/

/-- `offer.updateMany` of one row, conditional on its status, which must hit. -/
def claimOffer (id : Id) (statuses : List OfferStatus) (target : OfferStatus)
    (message : String) : Tx := fun db =>
  if (db.offers.findUnique id).any fun o => o.status ∈ statuses then
    .ok (setOfferStatus id target db)
  else
    .error (offerError message 409)

def assertPhysical (listing : Listing) : Except ApiError Unit :=
  if listing.category.isPhysical then
    .ok ()
  else
    .error (offerError "Offers can only create orders for physical goods listings" 400)

def assertUnitPrice (unitPrice : ℚ) (message : String) : Except ApiError Unit :=
  if unitPrice ≤ 0 then .error (offerError message 400) else .ok ()

def moveOfferToProvisional (env : Env) (id : Id) (offer : Offer) (listing : Listing)
    (finalUnitPrice : ℚ) : Tx := fun db => do
  assertPhysical listing
  if offer.isExpired env then
    .error (offerError "Offer has expired and can no longer be accepted" 409)
  else do
    assertUnitPrice finalUnitPrice "Offer does not have a valid unit price"
    claimOffer id [.selected, .countered] .provisional "This offer has already been acted on" db

def hasRunningOrder (db : Db) (listingId : Id) : Bool :=
  db.orders.any fun _ order => order.listingId = listingId && order.status.isRunning

def belowMinimum (listing : Listing) (unitPrice : ℚ) : Bool :=
  listing.minAcceptablePrice.any fun minimum => unitPrice < minimum

/-- The checks of `acceptOfferAndCreateOrder` before the offer is claimed. -/
def assertOrderable (env : Env) (offer : Offer) (listing : Listing) (sellerId : Id)
    (unitPrice : ℚ) : Except ApiError ℚ := do
  assertPhysical listing
  if offer.isExpired env then
    .error (offerError "Offer has expired and can no longer be accepted" 409)
  else
    let quantity := offer.quantity.getD 0
    if quantity ≤ 0 then
      .error (offerError "Offer has no valid quantity" 400)
    else if unitPrice ≤ 0 then
      .error (offerError "Offer does not have a valid unit price" 400)
    else if listing.sellerId ≠ sellerId then
      .error (offerError "Listing seller changed; refresh and try again" 409)
    else if listing.availableQuantity < quantity then
      .error (offerError "Not enough units remain available for this offer" 409)
    else if belowMinimum listing unitPrice then
      .error (offerError "Offer price is below the seller's minimum acceptable price" 409)
    else
      .ok quantity

/-- The order of an agreed price. -/
def orderOfOffer (env : Env) (id : Id) (offer : Offer) (listing : Listing) (sellerId : Id)
    (unitPrice quantity : ℚ) : Order :=
  { listingId := offer.listingId
    buyerId := offer.buyerId
    sellerId := sellerId
    finalPrice := roundMoney (unitPrice * quantity)
    quantity := quantity
    status := .pendingPayment
    agreedOfferId := some id
    paymentDueAt :=
      if listing.category = .agricultural ∨ listing.inspectionRequired = true then none
      else some (env.now + env.paymentTimeoutMs) }

/-- `acceptOfferAndCreateOrder`. -/
def acceptOfferAndCreateOrder (env : Env) (id : Id) (offer : Offer) (unitPrice : ℚ)
    (sellerId : Id) : Tx := fun db =>
  match db.listings.findUnique offer.listingId with
  | none => .error (offerError "Listing not found" 404)
  | some listing => do
      let quantity ← assertOrderable env offer listing sellerId unitPrice
      let db ← claimOffer id [.pending, .selected, .countered, .provisional] .accepted
        "This offer has already been acted on" db
      if hasRunningOrder db offer.listingId then
        .error (offerError ("This listing already has a provisional buyer agreement. Cancel or " ++
          "release that order before accepting another buyer.") 409)
      else
        .ok (recordOrderEvent env (some db.orders.size) .orderCreated { db with
          orders := db.orders.create
            (orderOfOffer env id offer listing sellerId unitPrice quantity) })

/-! ## Expiry -/

def Offer.isOverdue (env : Env) (o : Offer) : Bool :=
  o.status ∈ [OfferStatus.pending, .selected, .countered] && o.isExpired env

def expirePickedOffer (env : Env) (db : Db) (pick : Id × Offer) : Db :=
  if (db.offers.findUnique pick.1).any fun o => o.isOverdue env then
    let db := setOfferStatus pick.1 .expired db
    if pick.2.status = .selected then promoteNextWaitingBuyer env pick.2.listingId db else db
  else
    db

/-- `expireOffers`. -/
def expireOffers (env : Env) (db : Db) : Db :=
  ((db.offers.findMany fun _ o => o.isOverdue env).take 500).foldl (expirePickedOffer env) db

end MarketBridge
