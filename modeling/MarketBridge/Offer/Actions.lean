import MarketBridge.Offer.Service
import MarketBridge.Refund.Service

/-!
# Offer actions

The routes `POST /offers` and `PATCH /offers/:id`.  The second one loads the
offer, checks the caller and the expiry, and hands over to the handler of the
requested action.
-/

namespace MarketBridge

open Relational

/-! ## Bidding -/

/-- The quantity of the request, if it names one. -/
def requestedQuantity (quantity : Option JsNumber) : Except ApiError (Option ℚ) :=
  match quantity with
  | none => .ok none
  | some .notFinite => .error (offerError "quantity must be greater than zero" 400)
  | some (.finite n) =>
      if n ≤ 0 then
        .error (offerError "quantity must be greater than zero" 400)
      else
        .ok (some n)

/-- The checks of `createOffer` on the listing. -/
def assertBiddable (userId : Id) (listing : Listing) (offerQuantity : ℚ) :
    Except ApiError Unit :=
  if !listing.category.isPhysical then
    .error (offerError ("Offers are available for Agricultural and Products Marketplace " ++
      "listings only") 400)
  else if listing.availableQuantity ≤ 0 then
    .error (offerError "No listing quantity remains available for negotiation" 409)
  else if listing.availableQuantity + epsilon < offerQuantity then
    .error (offerError "Requested quantity exceeds the currently available quantity" 409)
  else if listing.status ∉ [ListingStatus.active, .underNegotiation] then
    .error (offerError "Listing is not open for offers" 400)
  else if listing.sellerId = userId then
    .error (offerError "You cannot make an offer on your own listing" 403)
  else
    .ok ()

def isEngagedWith (db : Db) (listingId buyerId : Id) : Bool :=
  db.offers.any fun i o => o.listingId = listingId && o.buyerId = buyerId &&
    o.status.isEngaged && isLeafOffer db i

/-- The row of a fresh bid. -/
def bidRow (userId listingId : Id) (listing : Listing) (amount quantity : ℚ)
    (expiresAt : Option Nat) (createdAt : Nat) : Offer :=
  { listingId := listingId
    buyerId := userId
    sellerId := listing.sellerId
    amount := toDecimal amount
    quantity := some quantity
    expiresAt := expiresAt
    createdAt := createdAt }

/-- `POST /offers`. -/
def createOffer (env : Env) (userId listingId : Id) (amount quantity : Option JsNumber) :
    Tx := fun db => do
  let amount ← amountProblem amount
  let requested ← requestedQuantity quantity
  match db.listings.findUnique listingId with
  | none => .error (offerError "Listing not found" 404)
  | some listing => do
      let offerQuantity := requested.getD listing.availableQuantity
      assertBiddable userId listing offerQuantity
      validateNegotiationWindow env listing
      let expiresAt ← counterExpiry env listing
      if isEngagedWith db listingId userId then
        .error (offerError "You already have an active negotiation on this listing" 409)
      else
        .ok { db with
          offers := db.offers.create
            (bidRow userId listingId listing amount offerQuantity expiresAt env.now) }

/-! ## Actions -/

inductive OfferAction where
  | accept
  | reject
  | counter (counterAmount : Option JsNumber)
  | acceptCounter
  | acceptSelected
  | reCounter (counterAmount : Option JsNumber)
  | select
  | withdraw
  | release
  | confirmProvisional
  /-- `withinLimit`: the audit trail of the listing leaves the seller a release. -/
  | releaseProvisional (reason note : Option String) (withinLimit : Bool)
deriving DecidableEq, Repr

/-- The loaded offer with the roles of the caller. -/
structure OfferContext where
  id : Id
  offer : Offer
  sellerId : Id
  isSeller : Bool
  isBuyer : Bool
  admin : Bool
  /-- `updatedAt` of the offer. -/
  updatedAt : Nat
deriving DecidableEq, Repr

def freshLeaf (ctx : OfferContext) (message : String) (status : Nat) (db : Db) :
    Except ApiError (Offer × Listing) :=
  match findLeafOffer db ctx.id with
  | none => .error (offerError message status)
  | some fresh =>
      match db.listings.findUnique fresh.listingId with
      | none => .error { message := "Cannot read properties of null (reading 'category')" }
      | some listing => .ok (fresh, listing)

def assertRole (holds : Bool) (message : String) : Except ApiError Unit :=
  if holds then .ok () else .error (offerError message 403)

def assertOfferStatus (offer : Offer) (statuses : List OfferStatus) (message : String)
    (code : Nat) : Except ApiError Unit :=
  if offer.status ∈ statuses then .ok () else .error (offerError message code)

/-- The latest price is a counter of the other party, or the selected bid itself. -/
def assertTurn (offer : Offer) (other : OfferCounterParty) (message : String) :
    Except ApiError Unit :=
  if offer.status = .countered ∧ offer.counteredBy ≠ some other then
    .error (offerError message 409)
  else
    .ok ()

def activeNegotiation (db : Db) (listingId : Id) : Option (Id × Offer) :=
  db.offers.findFirst fun i o => o.listingId = listingId && o.status.isLive && isLeafOffer db i

/-- `SELECT`. -/
def selectOffer (env : Env) (ctx : OfferContext) : Tx := fun db => do
  assertRole (ctx.isSeller || ctx.admin) "Only the seller can select a buyer bid"
  assertOfferStatus ctx.offer [.pending]
    ("Only a pending bid can be selected (current: " ++ ctx.offer.status.text ++ ")") 409
  let (fresh, listing) ← freshLeaf ctx "Offer not found" 404 db
  if listing.sellerId ≠ ctx.sellerId then
    .error (offerError "Listing seller changed; refresh and try again" 409)
  else do
    assertNotExpired env fresh "Offer has expired and can no longer be selected"
    assertOfferStatus fresh [.pending]
      ("This bid is no longer pending (current: " ++ fresh.status.text ++ ")") 409
    validateNegotiationWindow env listing
    if (activeNegotiation db fresh.listingId).any fun active =>
        active.2.buyerId ≠ fresh.buyerId then
      .error (offerError ("Another buyer is already in negotiation. Waiting bids cannot be " ++
        "selected until that negotiation is released, rejected, withdrawn, or expires.") 409)
    else if hasRunningOrder db fresh.listingId then
      .error (offerError ("This listing already has an active provisional order. Release or " ++
        "cancel it before selecting another buyer.") 409)
    else
      claimOffer ctx.id [.pending] .selected
        "This bid changed while you were selecting it. Refresh and try again." db

/-- `ACCEPT_SELECTED`. -/
def acceptSelected (env : Env) (ctx : OfferContext) : Tx := fun db => do
  assertRole (ctx.isBuyer || ctx.admin) "Only the buyer can accept a selected bid"
  assertOfferStatus ctx.offer [.selected]
    ("Offer must be SELECTED before acceptance (current: " ++ ctx.offer.status.text ++ ")") 400
  let (fresh, listing) ← freshLeaf ctx "This selected bid is no longer available" 409 db
  assertNotExpired env fresh "This selected bid has expired and can no longer be accepted"
  assertOfferStatus fresh [.selected] "This selected bid is no longer available" 409
  moveOfferToProvisional env ctx.id fresh listing fresh.amount db

/-- `ACCEPT_COUNTER`. -/
def acceptCounter (env : Env) (ctx : OfferContext) : Tx := fun db => do
  assertRole (ctx.isBuyer || ctx.admin) "Only the buyer can accept a seller counter-offer"
  assertOfferStatus ctx.offer [.countered]
    ("Offer must be COUNTERED before acceptance (current: " ++ ctx.offer.status.text ++ ")") 400
  assertTurn ctx.offer .seller "The buyer can only accept a counter-offer made by the seller"
  assertUnitPrice (ctx.offer.counterAmount.getD 0) "Counter-offer has no valid counter amount"
  let (fresh, listing) ← freshLeaf ctx
    "This negotiation has moved on. Refresh and try again." 409 db
  assertNotExpired env fresh "Offer has expired and can no longer be acted on"
  assertOfferStatus fresh [.selected, .countered]
    ("Offer cannot be accepted because it is " ++ fresh.status.text) 409
  assertTurn fresh .seller "The buyer can only accept a seller counter-offer"
  assertUnitPrice (fresh.counterAmount.getD 0) "Counter-offer has no valid counter amount"
  moveOfferToProvisional env ctx.id fresh listing (fresh.counterAmount.getD 0) db

/-- The price that the seller accepts: the counter of the buyer, or the selected bid. -/
def Offer.acceptedPrice (o : Offer) : ℚ :=
  if o.status = .countered then o.counterAmount.getD 0 else o.amount

/-- `ACCEPT`. -/
def acceptOffer (env : Env) (ctx : OfferContext) : Tx := fun db => do
  assertRole (ctx.isSeller || ctx.admin) "Only the seller can accept an offer"
  assertOfferStatus ctx.offer [.selected, .countered]
    ("Offer cannot be accepted because it is " ++ ctx.offer.status.text) 400
  assertTurn ctx.offer .buyer
    "The seller cannot accept their own counter-offer. The buyer must respond first."
  let (fresh, listing) ← freshLeaf ctx
    "This negotiation has moved on. Refresh and try again." 409 db
  assertNotExpired env fresh "Offer has expired and can no longer be accepted"
  assertOfferStatus fresh [.selected, .countered]
    ("Offer cannot be accepted because it is " ++ fresh.status.text) 409
  assertTurn fresh .buyer
    "The seller cannot accept their own counter-offer. The buyer must respond first."
  assertUnitPrice fresh.acceptedPrice "Offer does not have a valid final price"
  moveOfferToProvisional env ctx.id fresh listing fresh.acceptedPrice db

/-- The row is superseded by a counter of one party. -/
def counterRow (id : Id) (fresh : Offer) (amount : ℚ) (counteredBy : OfferCounterParty)
    (expiresAt : Option Nat) (createdAt : Nat) : Offer :=
  { listingId := fresh.listingId
    buyerId := fresh.buyerId
    sellerId := fresh.sellerId
    amount := toDecimal amount
    quantity := fresh.quantity
    status := .countered
    counterAmount := some (toDecimal amount)
    counteredBy := some counteredBy
    parentOfferId := some id
    expiresAt := expiresAt
    createdAt := createdAt }

/-- The transaction of both counters; they differ in who makes them to whom. -/
def placeCounter (env : Env) (ctx : OfferContext) (amount : ℚ)
    (counteredBy other : OfferCounterParty) (verb expired turn : String) : Tx := fun db => do
  let (fresh, listing) ← freshLeaf ctx
    "This negotiation has moved on. Refresh and try again." 409 db
  assertNotExpired env fresh expired
  assertOfferStatus fresh [.selected, .countered]
    ("Offer cannot be " ++ verb ++ " because it is " ++ fresh.status.text) 409
  assertTurn fresh other turn
  validateNegotiationWindow env listing
  let expiresAt ← counterExpiry env listing
  let db := setOfferStatus ctx.id .countered db
  .ok { db with
    offers := db.offers.create
      (counterRow ctx.id fresh amount counteredBy expiresAt env.now) }

def sellerTwice : String :=
  "The seller cannot counter twice in a row. The buyer must respond first."

def buyerTwice : String :=
  "The buyer cannot counter twice in a row. The seller must respond first."

/-- `COUNTER`. -/
def counterOffer (env : Env) (ctx : OfferContext) (counterAmount : Option JsNumber) :
    Tx := fun db => do
  assertRole (ctx.isSeller || ctx.admin) "Only the seller can make a counter-offer"
  let amount ← amountProblem counterAmount
  assertOfferStatus ctx.offer [.selected, .countered]
    ("Offer cannot be countered because it is " ++ ctx.offer.status.text) 400
  assertTurn ctx.offer .buyer sellerTwice
  placeCounter env ctx amount .seller .buyer "countered"
    "Offer has expired and can no longer be countered" sellerTwice db

/-- `RE_COUNTER`. -/
def reCounter (env : Env) (ctx : OfferContext) (counterAmount : Option JsNumber) :
    Tx := fun db => do
  assertRole (ctx.isBuyer || ctx.admin)
    "Only the buyer can respond with another counter-offer"
  assertOfferStatus ctx.offer [.selected, .countered]
    ("Offer must be SELECTED or COUNTERED before another counter-offer can be made (current: " ++
      ctx.offer.status.text ++ ")") 400
  assertTurn ctx.offer .seller buyerTwice
  let amount ← amountProblem counterAmount
  placeCounter env ctx amount .buyer .seller "re-countered"
    "Offer has expired and can no longer be acted on" buyerTwice db

/-- The leaf is closed; a listing that nobody waits for any more is active again. -/
def closeLeafOffer (id : Id) (offer : Offer) (status : OfferStatus) (db : Db) : Db :=
  let db := setOfferStatus id status db
  if db.offers.any fun i o =>
      o.listingId = offer.listingId && o.status.isActive && isLeafOffer db i then
    db
  else
    setListingStatus offer.listingId .active db

/-- `REJECT` and `WITHDRAW`, which only the buyer may do. -/
def rejectOrWithdraw (isWithdraw : Bool) (ctx : OfferContext) : Tx := fun db => do
  assertRole (!ctx.isSeller || ctx.admin) ("Sellers cannot reject bids. Select, accept or " ++
    "counter. If a selected buyer stays silent you can release them after the inactivity " ++
    "period. Waiting bids stay locked until the negotiation or order ends.")
  assertRole (ctx.isBuyer || ctx.admin) "Only the buyer can do this"
  let allowedStatuses : List OfferStatus := if isWithdraw then [.pending] else [.selected, .countered]
  assertOfferStatus ctx.offer allowedStatuses
    (if isWithdraw then
      "Only a waiting bid can be withdrawn (current: " ++ ctx.offer.status.text ++ ")"
    else
      "Offer cannot be rejected because it is " ++ ctx.offer.status.text) 400
  match findLeafOffer db ctx.id with
  | none => .error (offerError "This negotiation has moved on. Refresh and try again." 409)
  | some fresh => do
      assertOfferStatus fresh allowedStatuses
        ("Offer is no longer " ++ String.intercalate "/" (allowedStatuses.map OfferStatus.text) ++
          " (current: " ++ fresh.status.text ++ ")") 409
      .ok (closeLeafOffer ctx.id fresh (if isWithdraw then .withdrawn else .rejected) db)

def mayRelease (env : Env) (ctx : OfferContext) (offer : Offer) : Bool :=
  (releaseAvailableAt env ctx.updatedAt offer).any fun availableAt =>
    ctx.admin || availableAt ≤ env.now

/-- `RELEASE`. -/
def releaseBuyer (env : Env) (ctx : OfferContext) : Tx := fun db => do
  assertRole (ctx.isSeller || ctx.admin) "Only the seller can release a buyer"
  if releaseAvailableAt env ctx.updatedAt ctx.offer = none then
    .error (offerError ("You can release a buyer only while you are waiting for the buyer to " ++
      "respond. Accept or counter the buyer's latest price instead.") 409)
  else if !mayRelease env ctx ctx.offer then
    .error (offerError "The buyer has not been inactive long enough." 409)
  else
    match findLeafOffer db ctx.id with
    | none => .error (offerError "This negotiation has moved on. Refresh and try again." 409)
    | some fresh =>
        if mayRelease env ctx fresh then
          .ok (closeLeafOffer ctx.id fresh .withdrawn db)
        else
          .error (offerError "This negotiation changed. Refresh and try again." 409)

/-- `CONFIRM_PROVISIONAL`: the price of the last counter, or of the bid itself. -/
def Offer.confirmedPrice (o : Offer) : ℚ :=
  if o.counteredBy.isSome then o.counterAmount.getD 0 else o.amount

def confirmProvisional (env : Env) (ctx : OfferContext) : Tx := fun db => do
  assertRole (ctx.isBuyer || ctx.isSeller || ctx.admin)
    "Only a participant can confirm the provisional agreement"
  assertOfferStatus ctx.offer [.provisional]
    ("Offer must be PROVISIONAL before confirmation (current: " ++ ctx.offer.status.text ++
      ")") 400
  let (fresh, listing) ← freshLeaf ctx
    "This provisional agreement is no longer available" 409 db
  assertNotExpired env fresh "This provisional agreement has expired"
  assertOfferStatus fresh [.provisional] "This provisional agreement is no longer available" 409
  acceptOfferAndCreateOrder env ctx.id fresh fresh.confirmedPrice listing.sellerId db

/-! ## Release of a provisional agreement -/

/-- `RELEASE_REASONS`. -/
def releaseReasons : List String :=
  ["PROVIDER_UNAVAILABLE", "NO_RESPONSE", "PRICE_CHANGED", "SCHEDULE_CONFLICT", "OTHER"]

/-- `PROVIDER_RELEASE_REASONS`. -/
def providerReleaseReasons : List String :=
  ["VEHICLE_OR_EQUIPMENT_ISSUE", "SCHEDULE_CONFLICT", "PRICE_NOT_VIABLE",
    "REQUESTER_UNRESPONSIVE", "SITE_OR_ROUTE_ISSUE", "PROVIDER_UNAVAILABLE", "OTHER"]

def isBlank (c : Char) : Bool :=
  c.isWhitespace

/-- `String(s || '').trim()`. -/
def trimmed (s : Option String) : List Char :=
  (((s.getD "").toList.dropWhile isBlank).reverse.dropWhile isBlank).reverse

/-- `parseReleaseReason`: the buyer gives one of the provider's reasons. -/
def parseReleaseReason (provider : Bool) (reason note : Option String) :
    Except ApiError Unit :=
  let allowedReasons := if provider then providerReleaseReasons else releaseReasons
  let reason := (trimmed reason).map Char.toUpper
  if reason ∉ allowedReasons.map String.toList then
    .error (offerError ("Choose a release reason: " ++
      String.intercalate ", " allowedReasons ++ ".") 400)
  else if reason = "OTHER".toList ∧ trimmed note = [] then
    .error (offerError "Add a short note when the release reason is OTHER." 400)
  else
    .ok ()

def assertCooledDown (env : Env) (ctx : OfferContext) (message : String) :
    Except ApiError Unit :=
  if !ctx.admin && env.now < provisionalReleaseAvailableAt env ctx.updatedAt then
    .error (offerError message 409)
  else
    .ok ()

/-- `RELEASE_PROVISIONAL`. -/
def releaseProvisional (env : Env) (ctx : OfferContext) (reason note : Option String)
    (withinLimit : Bool) : Tx := fun db => do
  assertRole (ctx.isBuyer || ctx.isSeller || ctx.admin)
    "Only a participant can release the provisional agreement"
  assertOfferStatus ctx.offer [.provisional]
    ("Only a provisional agreement can be released (current: " ++ ctx.offer.status.text ++
      ")") 400
  assertCooledDown env ctx "The provisional agreement was made recently."
  parseReleaseReason ctx.isBuyer reason note
  if ctx.isSeller && !ctx.admin && !withinLimit then
    .error
      { message := "Release limit reached for this job. MarketBridge admin has been flagged " ++
          "to review before another provider can be released."
        status := some 409
        code := some "RELEASE_LIMIT_REACHED" }
  else
    match findLeafOffer db ctx.id with
    | none => .error (offerError "This provisional agreement is no longer available" 409)
    | some fresh => do
        assertOfferStatus fresh [.provisional]
          "This provisional agreement is no longer available" 409
        assertCooledDown env ctx
          "This provisional agreement was made recently. Refresh and try again."
        .ok (closeLeafOffer ctx.id fresh .withdrawn db)

/-! ## Dispatch -/

/-- The handler of an action. -/
def handleAction (env : Env) (ctx : OfferContext) : OfferAction -> Tx
  | .select => selectOffer env ctx
  | .acceptSelected => acceptSelected env ctx
  | .acceptCounter => acceptCounter env ctx
  | .accept => acceptOffer env ctx
  | .reCounter counterAmount => reCounter env ctx counterAmount
  | .release => releaseBuyer env ctx
  | .confirmProvisional => confirmProvisional env ctx
  | .releaseProvisional reason note withinLimit =>
      releaseProvisional env ctx reason note withinLimit
  | .reject => rejectOrWithdraw false ctx
  | .withdraw => rejectOrWithdraw true ctx
  | .counter counterAmount => counterOffer env ctx counterAmount

/-- The user who calls an offer route. -/
structure OfferCaller where
  id : Id
  isAdmin : Bool := false
deriving DecidableEq, Repr

/-- `PATCH /offers/:id`; the expiry of the loaded row is kept. -/
def respondToOffer (env : Env) (caller : OfferCaller) (updatedAt : Nat) (offerId : Id)
    (action : OfferAction) : Call Unit := fun db =>
  match db.offers.findUnique offerId with
  | none => (db, .error (offerError "Offer not found" 404))
  | some offer =>
      match db.listings.findUnique offer.listingId with
      | none =>
          (db, .error { message := "Cannot read properties of null (reading 'sellerId')" })
      | some listing =>
          let ctx : OfferContext :=
            { id := offerId
              offer := offer
              sellerId := listing.sellerId
              isSeller := listing.sellerId = caller.id
              isBuyer := offer.buyerId = caller.id
              admin := caller.isAdmin
              updatedAt := updatedAt }
          if !ctx.isSeller && !ctx.isBuyer && !ctx.admin then
            (db, .error (offerError "You are not a participant in this offer" 403))
          else if offer.isExpired env then
            (expireOfferIfNeeded env offerId offer db,
              .error (offerError "Offer has expired and can no longer be acted on" 409))
          else
            match handleAction env ctx action db with
            | .ok db => (db, .ok ())
            | .error e => (db, .error e)

end MarketBridge
