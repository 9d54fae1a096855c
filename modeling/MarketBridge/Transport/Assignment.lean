import MarketBridge.Transport.Effects

/-!
# Trucks and their assignment

The routes that make a transport job, with an own truck or for hire, that put it
up for bids again, and that set the availability of a truck.
-/

namespace MarketBridge

open Relational

/-- The statuses of `ACTIVE_TRUCK_JOB_STATUSES`. -/
def TransportStatus.isActive (s : TransportStatus) : Bool :=
  s ∈ [TransportStatus.accepted, .pickup, .inTransit]

/-! ## Trucks -/

/-- `claimAvailableTruck`. -/
def claimAvailableTruck (truckId : Id) : Tx := fun db =>
  if (db.trucks.findUnique truckId).any (·.availability = .available) then
    .ok (setAvailability truckId .busy db)
  else
    .error (httpError 409 "Selected truck is no longer available")

def hasActiveJob (db : Db) (truckId : Id) : Bool :=
  db.transportJobs.any fun _ job => job.truckId = some truckId && job.status.isActive

/-- `PATCH /transport/trucks/:id/availability`. -/
def updateAvailability (caller : Caller) (truckId : Id) (requested : TruckAvailability) : Tx :=
  fun db =>
    match db.trucks.findUnique truckId with
    | none => .error (httpError 404 "Truck not found")
    | some truck =>
        if truck.ownerId ≠ caller.userId ∧ caller.isAdmin = false then
          .error (httpError 403 "Not your truck")
        else if requested = .available ∧ hasActiveJob db truckId then
          .error (httpError 409
            "Truck cannot be made AVAILABLE while it has an active transport job")
        else
          .ok (setAvailability truckId requested db)

/-! ## New jobs -/

structure TransportRequest where
  caller : Caller
  orderId : Id
  arrangingParty : ArrangingParty
  method : TransportMethod
  truckId : Option Id := none
deriving DecidableEq, Repr

/-- The transport of the order is not over, so there is no place for another job. -/
def hasLiveJob (db : Db) (orderId : Id) : Bool :=
  (transportJobOf db orderId).any fun job => job.2.status ≠ .cancelled

/-- The arranging party of the request is the caller, unless he is an admin. -/
def assertArranges (r : TransportRequest) (order : Order) : Except ApiError Unit :=
  if r.caller.isAdmin then
    .ok ()
  else
    match r.arrangingParty with
    | .seller =>
        if order.sellerId = r.caller.userId then .ok ()
        else .error (httpError 403 "Only the seller can create a SELLER-arranged transport job")
    | .buyer =>
        if order.buyerId = r.caller.userId then .ok ()
        else .error (httpError 403 "Only the buyer can create a BUYER-arranged transport job")
    | .joint =>
        if order.isParty r.caller.userId then .ok ()
        else .error (httpError 403
          "Only the buyer or seller can create a JOINT transport arrangement")

/-- The checks of `POST /transport` before its transaction. -/
def assertMayArrange (env : Env) (r : TransportRequest) (order : Order) (db : Db) :
    Except ApiError Unit :=
  let listing := db.listings.findUnique order.listingId
  let isPhysicalGoods := listing.any fun l => l.category.isPhysical
  if !order.isParty r.caller.userId && !r.caller.isAdmin then
    .error (httpError 403 "Not authorized to arrange transport for this order")
  else if order.status ∉ [OrderStatus.confirmed, .pendingPayment, .transportArranged] then
    .error (httpError 400 ("Transport can only be arranged for orders in CONFIRMED, " ++
      "PENDING_PAYMENT, or TRANSPORT_ARRANGED state (current: " ++ order.status.text ++ ")"))
  else if hasLiveJob db r.orderId then
    .error (httpError 409 "A transport job already exists for this order")
  else if isPhysicalGoods = true ∧ order.buyerDecision ≠ some .buy then
    .error (codedError 409 "BUYER_DECISION_REQUIRED"
      "The buyer must decide to purchase before transport can be arranged.")
  else if pickupWindowOver env.now order db then
    .error (httpError 409 ("The agricultural pickup window has expired. Update the " ++
      "listing/pickup window before arranging transport."))
  else if isPhysicalGoods = true ∧ r.method = .hireTransporter ∧ r.arrangingParty ≠ .buyer then
    .error (codedError 409 "BUYER_TRANSPORT_COMPETITION_REQUIRED"
      ("Physical-goods hired transport is buyer-controlled: registered truck owners submit " ++
        "competing quotes and the buyer selects and negotiates the transporter."))
  else if r.method = .ownTruck ∧ r.arrangingParty = .joint then
    .error (httpError 400 ("JOINT arrangements must use HIRE_TRANSPORTER. Select SELLER or " ++
      "BUYER when using an own truck."))
  else
    assertArranges r order

def TransportRequest.job (r : TransportRequest) : TransportJob :=
  { orderId := r.orderId
    method := r.method
    arrangingParty := r.arrangingParty }

def TransportRequest.ownJob (env : Env) (r : TransportRequest) (truckId : Id) (truck : Truck) :
    TransportJob :=
  { r.job with
    truckOwnerId := some truck.ownerId
    truckId := some truckId
    status := .accepted
    sellerPreparationDueAt := some (computeSellerPreparationDueAt env) }

/--
The job of the order is made, or the cancelled one starts again with the columns of
a new one.  The quotes of that one are deleted, so that none of them is live; the
deadline that nothing resets stays.
-/
def placeJob (orderId : Id) (job : TransportJob) (db : Db) : Db :=
  match transportJobOf db orderId with
  | none => { db with transportJobs := db.transportJobs.create job }
  | some (jobId, _) =>
      { db with
        transportQuotes := db.transportQuotes.updateMany
          (fun _ quote => quote.transportJobId = jobId) ({ · with status := .expired })
        transportJobs := db.transportJobs.update jobId
          fun row => { job with workflowDueAt := row.workflowDueAt } }

def arrangeOrder (orderId : Id) (db : Db) : Db :=
  { db with
    orders := db.orders.updateMany (fun i o => i == orderId && o.status = .confirmed)
      ({ · with status := .transportArranged }) }

/-- What both transactions check first. -/
def assertStillNeedsJob (orderId : Id) (db : Db) : Except ApiError Unit :=
  match db.orders.findUnique orderId with
  | none => .error (httpError 404 "Order not found")
  | some _ => do
      lockOrderAndAssertNotClosed orderId "transport cannot be arranged until that is resolved" db
      if hasLiveJob db orderId then
        .error (httpError 409 "A transport job already exists for this order")
      else
        .ok ()

def requestTransport (r : TransportRequest) : Tx := fun db => do
  assertStillNeedsJob r.orderId db
  .ok (arrangeOrder r.orderId (placeJob r.orderId r.job db))

/-- The transaction for an own truck. -/
def assignOwnTruck (env : Env) (r : TransportRequest) (truckId : Id) : Tx := fun db => do
  assertStillNeedsJob r.orderId db
  match db.trucks.findUnique truckId with
  | none => .error (httpError 404 "Truck not found")
  | some truck =>
      if truck.ownerId ≠ r.caller.userId ∧ r.caller.isAdmin = false then
        .error (httpError 403 "You do not own this truck")
      else do
        let db ← claimAvailableTruck truckId db
        .ok (arrangeOrder r.orderId (placeJob r.orderId (r.ownJob env truckId truck) db))

/-- `POST /transport`. -/
def createTransportJob (env : Env) (r : TransportRequest) : Tx := fun db =>
  match db.orders.findUnique r.orderId with
  | none => .error (httpError 404 "Order not found")
  | some order => do
      assertMayArrange env r order db
      match r.method, r.truckId with
      | .hireTransporter, _ => requestTransport r db
      | .ownTruck, none => .error (httpError 400 "truckId is required for OWN_TRUCK")
      | .ownTruck, some truckId => assignOwnTruck env r truckId db

/-! ## Bids -/

/-- The quote that a truck owner submits. -/
structure QuoteSubmission where
  caller : Caller
  jobId : Id
  truckId : Option Id := none
  amount : ℚ
  message : Option String := none
deriving DecidableEq, Repr

/-- The truck of the bid, which is the bidder's own and available. -/
def quotedTruck (userId : Id) (truckId : Option Id) (db : Db) : Except ApiError Id :=
  match truckId with
  | none =>
      match db.trucks.findFirst fun _ truck =>
          truck.ownerId = userId && truck.availability = .available with
      | none => .error (httpError 400 "You must have an available truck to quote")
      | some (found, _) => .ok found
  | some truckId =>
      match db.trucks.findUnique truckId with
      | none => .error (httpError 404 "Truck not found")
      | some truck =>
          if truck.ownerId ≠ userId then
            .error (httpError 403 "Not your truck")
          else if truck.availability ≠ .available then
            .error (httpError 400 "Selected truck is not available")
          else
            .ok truckId

/-- The checks of a bid on its job. -/
def assertTakesBids (job : TransportJob) (db : Db) (canBid : Except ApiError Unit) :
    Except ApiError Unit :=
  match (db.orders.findUnique job.orderId).filter fun order =>
      order.status ∈ [OrderStatus.disputed, .cancelled] with
  | some order =>
      .error (codedError 409 "ORDER_DISPUTED" ("This order is " ++ order.status.lowerText ++
        ". Transport quote proceedings are paused until it is resolved."))
  | none => do
      canBid
      if job.method ≠ .hireTransporter then
        .error (httpError 400 "Quotes are only for HIRE_TRANSPORTER jobs")
      else if job.status ∉ [TransportStatus.requested, .quoted, .accepted, .pickup,
          .inTransit] then
        .error (httpError 400 "This job is no longer accepting quotes")
      else
        .ok ()

/-- The earlier bids of the bidder on the job. -/
def assertFirstBid (s : QuoteSubmission) (db : Db) : Except ApiError Unit :=
  let isOwn (quote : TransportQuote) : Bool :=
    quote.transportJobId = s.jobId && quote.truckOwnerId = s.caller.userId
  if db.transportQuotes.any fun _ quote => isOwn quote && quote.status = .withdrawn then
    .error (codedError 409 "TRANSPORT_REBID_NOT_ALLOWED"
      "You withdrew your earlier bid on this transport job, so you cannot bid on it again.")
  else if db.transportQuotes.any fun i quote =>
      isOwn quote && quote.status.isLive && !hasChildQuote db i then
    .error (httpError 409 "You already have an active quote or negotiation for this job")
  else
    .ok ()

/--
`POST /transport/:id/quotes`.  What `assertProviderCanBid` says of the bidder is
`canBid`; the truck that the transaction reads again is the one checked before.
-/
def submitQuote (canBid : Except ApiError Unit) (s : QuoteSubmission) : Tx := fun db =>
  match db.transportJobs.findUnique s.jobId with
  | none => .error (httpError 404 "Transport job not found")
  | some job => do
      assertTakesBids job db canBid
      let truckId ← quotedTruck s.caller.userId s.truckId db
      assertFirstBid s db
      lockOrderAndAssertNotClosed job.orderId
        "a transport quote cannot be submitted until that is resolved" db
      .ok { db with
        transportQuotes := db.transportQuotes.create
          { transportJobId := s.jobId
            truckOwnerId := s.caller.userId
            truckId := truckId
            amount := s.amount
            message := s.message }
        transportJobs :=
          if job.status = .requested then
            db.transportJobs.update s.jobId ({ · with status := .quoted })
          else
            db.transportJobs }

end MarketBridge
