import MarketBridge.Offer.Actions
import MarketBridge.Transport.StatusRoute

/-!
# Agreements on a transport quote

The acceptance of a quote, the release of a negotiation or of an accepted
agreement, and the recovery of a stuck job by an admin.  Unlike the status route,
the first two read the job again inside their transactions.
-/

namespace MarketBridge

open Relational

/-! ## Negotiation -/

def TransportQuoteStatus.lowerText : TransportQuoteStatus -> String
  | .pending => "pending"
  | .selected => "selected"
  | .countered => "countered"
  | .accepted => "accepted"
  | .rejected => "rejected"
  | .withdrawn => "withdrawn"
  | .expired => "expired"

def TransportQuoteStatus.text : TransportQuoteStatus -> String
  | .pending => "PENDING"
  | .selected => "SELECTED"
  | .countered => "COUNTERED"
  | .accepted => "ACCEPTED"
  | .rejected => "REJECTED"
  | .withdrawn => "WITHDRAWN"
  | .expired => "EXPIRED"

namespace TransportQuote

/-- `quoteTurn`. -/
def turn (quote : TransportQuote) : Option QuoteCounterParty :=
  match quote.status with
  | .pending => some .requester
  | .selected => some .requester
  | .countered => if quote.counteredBy = some .requester then some .provider else some .requester
  | _ => none

/-- `isQuoteExpired`. -/
def isExpired (now : Nat) (quote : TransportQuote) : Bool :=
  isDue now quote.expiresAt

def isSilent (quote : TransportQuote) : Bool :=
  quote.status = .selected || quote.status = .countered && quote.counteredBy = some .requester

/-- `transportReleaseAvailableAt`, for a row last written at `updatedAt`. -/
def releaseAvailableAt (env : Env) (updatedAt : Nat) (quote : TransportQuote) : Option Nat :=
  if quote.isSilent then some (updatedAt + env.transportReleaseAfterMs) else none

def finalAmount (quote : TransportQuote) : ℚ :=
  if quote.status = .countered then quote.counterAmount.getD quote.amount else quote.amount

end TransportQuote

def hasChildQuote (db : Db) (quoteId : Id) : Bool :=
  db.transportQuotes.any fun _ child => child.parentQuoteId = some quoteId

/-- `findLeafQuote`. -/
def findLeafQuote (db : Db) (quoteId : Id) : Option TransportQuote :=
  if hasChildQuote db quoteId then none else db.transportQuotes.findUnique quoteId

/-- `findCompetingLiveQuote`. -/
def hasCompetingLiveQuote (db : Db) (jobId exceptQuoteId : Id) : Bool :=
  db.transportQuotes.any fun i quote =>
    quote.transportJobId = jobId && i ≠ exceptQuoteId &&
      quote.status ∈ [TransportQuoteStatus.selected, .countered] && !hasChildQuote db i

def lockingStatuses : List PaymentStatus :=
  [.pending, .processing, .paid, .reconciliationRequired]

/-- `computeSellerTransportPreparationDueAt`. -/
def computeSellerPreparationDueAt (env : Env) : Nat :=
  env.now + env.sellerPreparationMs

structure QuoteRequest where
  caller : Caller
  jobId : Id
  quoteId : Id
deriving DecidableEq, Repr

/-- A request on a quote with the row that was read for it. -/
structure LoadedQuote extends QuoteRequest where
  quote : TransportQuote
  actorRole : QuoteCounterParty
deriving DecidableEq, Repr

/-- `loadTransportQuoteForNegotiation`. -/
def loadTransportQuoteForNegotiation (r : QuoteRequest) (db : Db) : Except ApiError LoadedQuote :=
  match db.transportQuotes.findUnique r.quoteId with
  | none => .error (httpError 404 "Quote not found")
  | some quote =>
      if quote.transportJobId ≠ r.jobId then
        .error (httpError 404 "Quote not found for this transport job")
      else
        match (db.transportJobs.findUnique r.jobId).bind fun job =>
            (db.orders.findUnique job.orderId).map fun order => (job, order) with
        | none => .error { message := "Cannot read properties of null" }
        | some (job, order) =>
            let isRequester := isArranging r.caller.userId order job
            if order.status ∈ [OrderStatus.disputed, .cancelled] then
              .error (codedError 409 "ORDER_DISPUTED" ("This order is " ++ order.status.lowerText ++
                ". Transport quote proceedings are paused until it is resolved."))
            else if !isRequester && quote.truckOwnerId ≠ r.caller.userId && !r.caller.isAdmin then
              .error (httpError 403 "Not authorized for this transport quote negotiation")
            else
              .ok { r with
                quote := quote
                actorRole := if isRequester then .requester else .provider }

/-! ## Acceptance -/

/-- The reads and the checks of `PATCH /transport/:id/quotes/:quoteId/accept`. -/
def checkAccept (env : Env) (r : QuoteRequest) (db : Db) : Except ApiError LoadedQuote := do
  let loaded ← loadTransportQuoteForNegotiation r db
  if loaded.quote.status ∉ [TransportQuoteStatus.selected, .countered] then
    .error (httpError 400 ("This quote is already " ++ loaded.quote.status.lowerText))
  else if loaded.quote.isExpired env.now then
    .error (httpError 409 "This quote has expired")
  else if loaded.quote.turn ≠ some loaded.actorRole ∧ r.caller.isAdmin = false then
    .error (httpError 409 "It is the other party’s turn to respond to this negotiation")
  else
    .ok loaded

/-- The quote and its job agree, and every other negotiation of the job ends. -/
def agreeOnQuote (env : Env) (quoteId : Id) (fresh : TransportQuote) (amount : ℚ) (db : Db) :
    Db :=
  { db with
    transportQuotes := (db.transportQuotes.update quoteId ({ · with
        status := .accepted
        amount := amount
        expiresAt := none })).updateMany
      (fun i quote => quote.transportJobId = fresh.transportJobId && i ≠ quoteId &&
        quote.status ∈ [TransportQuoteStatus.selected, .countered])
      ({ · with status := .rejected })
    transportJobs := db.transportJobs.update fresh.transportJobId ({ · with
      truckOwnerId := some fresh.truckOwnerId
      truckId := some fresh.truckId
      agreedAmount := some amount
      status := .accepted
      sellerPreparationDueAt := some (computeSellerPreparationDueAt env)
      buyerLoadingDueAt := none }) }

/-- The transaction of the acceptance; its price is the one of the row that was read. -/
def acceptQuote (env : Env) (r : LoadedQuote) : Tx := fun db =>
  if hasTransportPayment db r.jobId lockingStatuses then
    .error (httpError 409 ("Transport negotiation is locked because a transport payment has " ++
      "already started"))
  else
    match findLeafQuote db r.quoteId with
    | none => .error (httpError 409 "This negotiation has moved on. Refresh and try again.")
    | some fresh =>
        if fresh.status ∉ [TransportQuoteStatus.selected, .countered] then
          .error (httpError 409 ("This quote is already " ++ fresh.status.lowerText))
        else if hasCompetingLiveQuote db r.jobId r.quoteId then
          .error (httpError 409 ("Another transporter bid is already in active negotiation. " ++
            "This quote cannot be accepted until the competing thread is released."))
        else
          match db.transportJobs.findUnique fresh.transportJobId with
          | none => .error { message := "Cannot read properties of null" }
          | some job =>
              if job.status ∉ [TransportStatus.requested, .quoted] then
                .error (httpError 409 ("This transport job cannot accept a quote while it is " ++
                  job.status.text))
              else do
                lockOrderAndAssertNotClosed job.orderId
                  "a transport quote cannot be accepted until that is resolved" db
                .ok (syncOrderPaymentObligations job.orderId
                  (agreeOnQuote env r.quoteId fresh r.quote.finalAmount db))

/-! ## Release -/

structure ReleaseRequest extends QuoteRequest where
  reason : Option String := none
  note : Option String := none
deriving DecidableEq, Repr

/-- `assertAcceptedReleaseWindowElapsed`; the text goes on with the date. -/
def assertAcceptedReleaseWindowElapsed (env : Env) (updatedAt : Nat) : Except ApiError Unit :=
  if env.now < updatedAt + env.releaseAfterAcceptMs then
    .error (httpError 409 "This agreement can be released from")
  else
    .ok ()

namespace LoadedQuote

def isProviderRelease (r : LoadedQuote) : Bool :=
  r.actorRole = .provider && r.quote.status = .accepted && r.quote.truckOwnerId = r.caller.userId

def isAcceptedRelease (r : LoadedQuote) : Bool :=
  r.quote.status = .accepted

def assertWindowElapsed (env : Env) (r : LoadedQuote) (updatedAt : Nat) : Except ApiError Unit :=
  if r.isProviderRelease then .ok () else assertAcceptedReleaseWindowElapsed env updatedAt

end LoadedQuote

/-- The reads and the checks of `PATCH /transport/:id/quotes/:quoteId/withdraw`. -/
def checkRelease (env : Env) (r : ReleaseRequest) (updatedAt : Nat) (db : Db) :
    Except ApiError LoadedQuote := do
  let loaded ← loadTransportQuoteForNegotiation r.toQuoteRequest db
  if loaded.actorRole ≠ .requester ∧ loaded.isProviderRelease = false then
    .error (httpError 403 "Only the arranging party can release this negotiation")
  else if !loaded.isAcceptedRelease && !loaded.quote.isSilent then
    .error (httpError 400 ("This quote cannot be released in its current state (current: " ++
      loaded.quote.status.text ++ ")"))
  else if (loaded.quote.releaseAvailableAt env updatedAt).any (env.now < ·) then
    .error (httpError 409 ("This truck owner has not been inactive long enough. You can " ++
      "release them from"))
  else if loaded.isAcceptedRelease then do
    parseReleaseReason loaded.isProviderRelease r.reason r.note
    loaded.assertWindowElapsed env updatedAt
    .ok loaded
  else
    .ok loaded

/-- What the transaction of a release reads beside the rows: the audit trail and their dates. -/
structure ReleaseReads where
  used : Nat := 0
  allowed : Nat := 2
  updatedAt : Nat := 0
deriving DecidableEq, Repr

/-- The quotes that a quote answers, as far as the loop follows them. -/
def quoteAncestors (db : Db) (quote : TransportQuote) : Nat -> List Id
  | 0 => []
  | fuel + 1 =>
      match quote.parentQuoteId with
      | none => []
      | some parentId =>
          parentId :: (match db.transportQuotes.findUnique parentId with
            | none => []
            | some parent => quoteAncestors db parent fuel)

def withdrawThread (quoteId : Id) (fresh : TransportQuote) (db : Db) : Db :=
  { db with
    transportQuotes := (db.transportQuotes.update quoteId
        ({ · with status := .withdrawn })).updateMany
      (fun i quote => i ∈ quoteAncestors db fresh 20 &&
        quote.status ∈ [TransportQuoteStatus.pending, .selected, .countered])
      ({ · with status := .withdrawn }) }

/-- The row of a job whose agreement is released. -/
def TransportJob.released (byProvider : Bool) (job : TransportJob) : TransportJob :=
  { job with
    truckOwnerId := none
    truckId := none
    agreedAmount := none
    status := .quoted
    truckArrivedAt := none
    sellerPickupConfirmedAt := none
    sellerPreparationDueAt := none
    buyerLoadingConfirmedAt := none
    buyerLoadingDueAt := none
    acceptedReleaseCount :=
      if byProvider then job.acceptedReleaseCount else job.acceptedReleaseCount + 1 }

def assertAgreementActive (fresh : TransportQuote) (db : Db) : Except ApiError Unit :=
  if (db.transportJobs.findUnique fresh.transportJobId).any fun job =>
      job.status = .accepted && job.truckOwnerId = some fresh.truckOwnerId then
    .ok ()
  else
    .error (httpError 409 "This provisional transporter agreement is no longer active")

/-- The job is still open for bids and the silence has lasted. -/
def assertStillSilent (env : Env) (updatedAt : Nat) (fresh : TransportQuote) (db : Db) :
    Except ApiError Unit :=
  match db.transportJobs.findUnique fresh.transportJobId with
  | none => .error { message := "Cannot read properties of null" }
  | some job =>
      if job.status ≠ .quoted then
        .error (httpError 409 ("This transport agreement cannot be released while the job is " ++
          job.status.text))
      else if (fresh.releaseAvailableAt env updatedAt).any (env.now < ·) then
        .error (httpError 409 "This negotiation changed. Refresh and try again.")
      else
        .ok ()

/-- The writes of a release, with its events. -/
def releaseAgreement (env : Env) (r : LoadedQuote) (fresh : TransportQuote) (db : Db) : Db :=
  let orderId := (db.transportJobs.findUnique fresh.transportJobId).map (·.orderId)
  let db := withdrawThread r.quoteId fresh db
  let db :=
    if r.isAcceptedRelease then
      recordOrderEvent env orderId .transportCoordinationClosed { db with
        transportJobs := db.transportJobs.update fresh.transportJobId
          (TransportJob.released r.isProviderRelease) }
    else
      { db with
        transportJobs := db.transportJobs.update fresh.transportJobId
          fun job => { job with acceptedReleaseCount := job.acceptedReleaseCount + 1 } }
  recordOrderEvent env orderId
    (if r.isProviderRelease then .providerAgreementReleased else .requesterAgreementReleased) db

/-- The transaction of the release.  A requester who has used up his releases changes nothing. -/
def releaseQuote (env : Env) (r : LoadedQuote) (reads : ReleaseReads) : Tx := fun db =>
  if r.isProviderRelease = false ∧ reads.allowed ≤ reads.used then
    .ok db
  else
    match findLeafQuote db r.quoteId with
    | none => .error (httpError 409 "This negotiation has moved on. Refresh and try again.")
    | some fresh =>
        if hasTransportPayment db fresh.transportJobId lockingStatuses then
          .error (httpError 409 ("This transporter cannot be released after transport payment " ++
            "has started or completed"))
        else if r.isAcceptedRelease then do
          assertAgreementActive fresh db
          r.assertWindowElapsed env reads.updatedAt
          .ok (releaseAgreement env r fresh db)
        else do
          assertStillSilent env reads.updatedAt fresh db
          .ok (releaseAgreement env r fresh db)

/-! ## Recovery -/

/-- The transport of the order starts again from `REQUESTED`, whatever its status. -/
def recoverTransport (orderId : Id) : Tx := fun db =>
  match transportJobOf db orderId with
  | none => .ok db
  | some (jobId, job) =>
      if hasTransportPayment db jobId [.pending, .processing, .paid] then
        .error (httpError 409 ("Transport recovery is blocked because transport payment has " ++
          "already started"))
      else
        .ok { db with
          transportQuotes := db.transportQuotes.updateMany
            (fun _ quote => quote.transportJobId = jobId &&
              some quote.truckOwnerId = job.truckOwnerId && quote.status.isLive)
            ({ · with status := .expired })
          transportJobs := db.transportJobs.update jobId ({ · with
            truckOwnerId := none
            truckId := none
            agreedAmount := none
            status := .requested
            acceptedReleaseCount := 0 }) }

/--
`PATCH /recovery-requests/admin/:id/approve`.  The recovery of an inspection or of
the bidding on a listing writes no transport and is left to `recoverOther`.
-/
def approveRecovery (env : Env) (adminId requestId : Id) (recoverOther : RecoveryRequest -> Tx) :
    Tx := fun db =>
  match db.recoveryRequests.findUnique requestId with
  | none => .error (httpError 404 "Recovery request not found")
  | some request =>
      if request.status ≠ .pending then
        .error (httpError 409 "This recovery request has already been decided")
      else if (db.orders.findUnique request.orderId).any fun order =>
          order.status ∈ [OrderStatus.cancelled, .completed] then
        .error (httpError 409 "This order is closed and cannot be recovered")
      else do
        let db ←
          if request.type = .transport then recoverTransport request.orderId db
          else recoverOther request db
        .ok (recordOrderEvent env (some request.orderId) .workflowRecoveryApproved { db with
          recoveryRequests := db.recoveryRequests.update requestId ({ · with
            status := .approved
            approvedById := some adminId
            formReleasedAt := some env.now }) })

/-- The job that the approval of a recovery request starts again. -/
def recoveredJob (db : Db) (requestId : Id) : Option (Id × TransportJob) :=
  match db.recoveryRequests.findUnique requestId with
  | none => none
  | some request =>
      if request.status = .pending ∧ request.type = .transport ∧
          !(db.orders.findUnique request.orderId).any fun order =>
            order.status ∈ [OrderStatus.cancelled, .completed] then
        (transportJobOf db request.orderId).filter fun job =>
          !hasTransportPayment db job.1 [.pending, .processing, .paid]
      else
        none

def TransportJob.recovered (job : TransportJob) : TransportJob :=
  { job with
    truckOwnerId := none
    truckId := none
    agreedAmount := none
    status := .requested
    acceptedReleaseCount := 0 }

/-! ## What the transactions do -/

section Inversion

variable {env : Env} {r : LoadedQuote} {db db' : Db}

/-- An acceptance finds a job that is open for quotes and a quote that leads its negotiation. -/
theorem acceptQuote_eq_ok (h : acceptQuote env r db = .ok db') :
    exists fresh job,
      hasTransportPayment db r.jobId lockingStatuses = false ∧
      findLeafQuote db r.quoteId = some fresh ∧
      fresh.status ∈ [TransportQuoteStatus.selected, .countered] ∧
      db.transportJobs.findUnique fresh.transportJobId = some job ∧
      job.status ∈ [TransportStatus.requested, .quoted] ∧
      db' = syncOrderPaymentObligations job.orderId
        (agreeOnQuote env r.quoteId fresh r.quote.finalAmount db) := by
  unfold acceptQuote at h
  obtain ⟨hpayment, h⟩ := guard_eq_ok.mp h
  split at h
  · cases h
  · next fresh hfresh =>
      simp only [guard_eq_ok] at h
      obtain ⟨hstatus, -, h⟩ := h
      split at h
      · cases h
      · next job hjob =>
          obtain ⟨hopen, h⟩ := guard_eq_ok.mp h
          obtain ⟨_, -, hwrite⟩ := bind_eq_ok.1 h
          obtain rfl := Except.ok.inj hwrite
          exact ⟨fresh, job, Bool.not_eq_true _ ▸ hpayment, hfresh,
            not_not.1 hstatus, hjob, not_not.1 hopen, rfl⟩

theorem assertAgreementActive_eq_ok {fresh : TransportQuote}
    (h : assertAgreementActive fresh db = .ok ()) :
    exists job, db.transportJobs.findUnique fresh.transportJobId = some job ∧
      job.status = .accepted ∧ job.truckOwnerId = some fresh.truckOwnerId := by
  unfold assertAgreementActive at h
  split at h
  · next hany =>
      rw [Option.any_eq_true] at hany
      obtain ⟨job, hjob, hactive⟩ := hany
      simp only [Bool.and_eq_true, decide_eq_true_eq] at hactive
      exact ⟨job, hjob, hactive⟩
  · cases h

/-- A release changes nothing, or it finds the agreement unpaid and ends it. -/
theorem releaseQuote_eq_ok {reads : ReleaseReads} (h : releaseQuote env r reads db = .ok db') :
    db' = db ∨
      exists fresh,
        findLeafQuote db r.quoteId = some fresh ∧
        hasTransportPayment db fresh.transportJobId lockingStatuses = false ∧
        (r.isAcceptedRelease = true -> assertAgreementActive fresh db = .ok ()) ∧
        db' = releaseAgreement env r fresh db := by
  unfold releaseQuote at h
  split at h
  · exact Or.inl (Except.ok.inj h).symm
  · split at h
    · cases h
    · next fresh hfresh =>
        obtain ⟨hpayment, h⟩ := guard_eq_ok.mp h
        refine Or.inr ⟨fresh, hfresh, Bool.not_eq_true _ ▸ hpayment, ?_⟩
        split at h
        · obtain ⟨_, hactive, h⟩ := bind_eq_ok.1 h
          obtain ⟨_, -, h⟩ := bind_eq_ok.1 h
          exact ⟨fun _ => hactive, (Except.ok.inj h).symm⟩
        · next hnot =>
            obtain ⟨_, -, h⟩ := bind_eq_ok.1 h
            exact ⟨fun haccepted => absurd haccepted hnot, (Except.ok.inj h).symm⟩

end Inversion

end MarketBridge
