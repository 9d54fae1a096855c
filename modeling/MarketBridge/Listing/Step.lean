import MarketBridge.Market.Step
import MarketBridge.Transport.Quotes

/-!
# Listings on the market

What writes the status of a listing beside the operations of the market: its
creation, the edit of its status, the expiry of its pickup window and the
recovery of its bidding.  A step of a listing is one of these, or a step of the
market.
-/

namespace MarketBridge

open Relational

namespace ListingStatus

def isOpen (s : ListingStatus) : Bool :=
  s ∈ [ListingStatus.active, .underNegotiation]

/-- The seller or an admin has cancelled the listing, or its pickup window has ended. -/
def isClosed (s : ListingStatus) : Bool :=
  s ∈ [ListingStatus.cancelled, .expired]

def isShut (s : ListingStatus) : Bool :=
  s.isClosed || s = .sold

end ListingStatus

/-! ## Edits of the status -/

/-- `validatePickupWindow` for a request that leaves the window as it is. -/
def validatePickupWindow (env : Env) (listing : Listing) : Except ApiError Unit :=
  if listing.category ≠ .agricultural then
    .ok ()
  else
    match listing.pickupWindowStart, listing.pickupWindowEnd with
    | none, none => .ok ()
    | some windowStart, some windowEnd =>
        if windowEnd ≤ windowStart then
          .error (httpError 400 "pickupWindowEnd must be later than pickupWindowStart")
        else if windowEnd ≤ env.now then
          .error (httpError 400 "pickupWindowEnd must be in the future")
        else
          .ok ()
    | _, _ =>
        .error (httpError 400
          "pickupWindowStart and pickupWindowEnd must be provided together")

/-- `PATCH /listings/:id` with a status and nothing else. -/
def updateListingStatus (env : Env) (caller : OfferCaller) (listingId : Id)
    (status : ListingStatus) : Tx := fun db =>
  match db.listings.findUnique listingId with
  | none => .error (httpError 404 "Listing not found")
  | some listing => do
      if listing.sellerId ≠ caller.id ∧ caller.isAdmin = false then
        .error (httpError 403 "Only the farmer/seller retains price and listing authority")
      else if belowMinimum listing listing.askingPrice then
        .error (httpError 400 "minAcceptablePrice cannot be greater than askingPrice")
      else do
        validatePickupWindow env listing
        if listing.category = .agricultural ∧
            (listing.pickupWindowStart = none ∨ listing.pickupWindowEnd = none) then
          .error (httpError 400
            "Agricultural listings must have both pickupWindowStart and pickupWindowEnd.")
        else if status = .expired then
          .error (httpError 400 "Invalid listing status")
        else
          .ok (setListingStatus listingId status db)

/-! ## Expiry of the pickup window -/

def Listing.windowEnded (env : Env) (l : Listing) : Bool :=
  l.status.isOpen && l.pickupWindowEnd.any fun windowEnd => windowEnd ≤ env.now

def listingsToExpire (env : Env) (db : Db) : List (Id × Listing) :=
  (db.listings.findMany fun _ l => l.windowEnded env && l.category = .agricultural).take 500

/-- `expireListings`. -/
def expireListings (env : Env) (db : Db) : Db :=
  (listingsToExpire env db).foldl
    (fun db pick =>
      { db with
        listings := db.listings.updateMany (fun i l => i == pick.1 && l.windowEnded env)
          ({ · with status := .expired }) })
    db

/-! ## Recovery -/

/-- A running order of the listing, unless it is under dispute, blocks the recovery. -/
def blocksRecovery (db : Db) (listingId : Id) : Bool :=
  db.orders.any fun _ order =>
    order.listingId = listingId &&
      order.status ∉ [OrderStatus.cancelled, .completed, .disputed]

/-- The bidding on the listing of the order starts again: every live bid expires. -/
def recoverBidding (orderId : Id) : Tx := fun db =>
  match db.orders.findUnique orderId with
  | none => .ok db
  | some order =>
      if blocksRecovery db order.listingId then
        .error (httpError 409 ("Offer recovery is blocked: this listing still has an active " ++
          "provisional order. Cancel or release that order first."))
      else
        .ok (setListingStatus order.listingId .active { db with
          offers := db.offers.updateMany
            (fun _ o => o.listingId = order.listingId && o.status.isActive)
            ({ · with status := .expired }) })

def currentInspection (db : Db) (orderId : Id) : Option (Id × InspectionRequest) :=
  (db.inspectionRequests.findMany fun _ request => request.orderId = some orderId).getLast?

/-- The inspection of the order starts again, or is requested anew. -/
def recoverInspection (orderId : Id) : Tx := fun db =>
  match currentInspection db orderId with
  | none => .ok db
  | some (requestId, current) =>
      if db.payments.any fun _ p =>
          p.inspectionRequestId = some requestId && p.type = .inspector &&
            p.status ∈ [PaymentStatus.pending, .processing, .paid] then
        .error (httpError 409 ("Inspection recovery is blocked because inspection payment has " ++
          "already started"))
      else if current.status ∈
          [InspectionStatus.requested, .accepted, .stalled] then
        .ok { db with
          inspectionQuotes := db.inspectionQuotes.updateMany
            (fun _ quote => quote.inspectionRequestId = requestId &&
              some quote.inspectorId = current.inspectorId && quote.status.isLive)
            ({ · with status := .expired })
          inspectionRequests := db.inspectionRequests.update requestId ({ · with
            inspectorId := none
            fee := none
            sellerConfirmedAt := none
            inspectorOnSiteConfirmedAt := none
            feeTermsLockedAt := none
            lockedFee := none
            lockedFeePayer := none
            lockedBuyerFeeAmount := none
            lockedSellerFeeAmount := none
            status := .requested }) }
      else if current.status = .cancelled then
        .ok { db with
          inspectionRequests := db.inspectionRequests.create
            { orderId := some orderId
              mode := current.mode
              feePayer := current.feePayer } }
      else
        .ok db

/-- What the approval of a recovery request does when it is not about transport. -/
def recoverOther (request : RecoveryRequest) : Tx :=
  match request.type with
  | .offer => recoverBidding request.orderId
  | _ => recoverInspection request.orderId

/-! ## Steps -/

def MarketStep.isEdit : MarketStep -> Bool
  | .listing _ => true
  | _ => false

inductive ListingStep where
  | market (step : MarketStep) (unedited : step.isEdit = false)
  /-- A listing is created active, or by text message as a draft. -/
  | createListing (listing : Listing) (draft : Bool)
  | cancelListing (caller : OfferCaller) (listingId : Id)
  | expireListings
  | approveRecovery (adminId requestId : Id)

namespace ListingStep

def step (db : Db) (a : Env × ListingStep) : Db :=
  match a.2 with
  | market step _ => MarketStep.step db (a.1, step)
  | createListing listing draft =>
      (ListingCall.create { listing with status := if draft then .draft else .active }).exec db
  | cancelListing caller listingId =>
      commit (updateListingStatus a.1 caller listingId .cancelled db) db
  | expireListings => MarketBridge.expireListings a.1 db
  | approveRecovery adminId requestId =>
      commit (MarketBridge.approveRecovery a.1 adminId requestId recoverOther db) db

end ListingStep

end MarketBridge
