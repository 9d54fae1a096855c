import MarketBridge.Inspection.Cancellation
import MarketBridge.Transport.Quotes

/-!
# Agreements on an inspection quote

The acceptance of a quote and the release of a negotiation or of an accepted
agreement.  The siblings of the transport quotes, written a second time.
-/

namespace MarketBridge

open Relational

/-! ## Negotiation -/

def InspectionQuoteStatus.text : InspectionQuoteStatus -> String
  | .pending => "PENDING"
  | .selected => "SELECTED"
  | .countered => "COUNTERED"
  | .accepted => "ACCEPTED"
  | .rejected => "REJECTED"
  | .withdrawn => "WITHDRAWN"
  | .expired => "EXPIRED"

namespace InspectionQuote

/-- `quoteTurn`. -/
def turn (quote : InspectionQuote) : Option QuoteCounterParty :=
  match quote.status with
  | .pending => some .requester
  | .selected => some .requester
  | .countered => if quote.counteredBy = some .requester then some .provider else some .requester
  | _ => none

/-- `isQuoteExpired`. -/
def isExpired (now : Nat) (quote : InspectionQuote) : Bool :=
  isDue now quote.expiresAt

def isSilent (quote : InspectionQuote) : Bool :=
  quote.status = .selected || quote.status = .countered && quote.counteredBy = some .requester

/-- `inspectionReleaseAvailableAt`, for a row last written at `updatedAt`. -/
def releaseAvailableAt (env : Env) (updatedAt : Nat) (quote : InspectionQuote) : Option Nat :=
  if quote.isSilent then some (updatedAt + env.inspectionReleaseAfterMs) else none

def finalAmount (quote : InspectionQuote) : ℚ :=
  if quote.status = .countered then quote.counterAmount.getD quote.amount else quote.amount

end InspectionQuote

def hasChildInspectionQuote (db : Db) (quoteId : Id) : Bool :=
  db.inspectionQuotes.any fun _ child => child.parentQuoteId = some quoteId

/-- `findLeafQuote`. -/
def findLeafInspectionQuote (db : Db) (quoteId : Id) : Option InspectionQuote :=
  if hasChildInspectionQuote db quoteId then none else db.inspectionQuotes.findUnique quoteId

/-- A user on a quote of a request. -/
structure InspectionQuoteRequest where
  userId : Id
  requestId : Id
  quoteId : Id
deriving DecidableEq, Repr

/-- A call on a quote with the rows that were read for it. -/
structure LoadedInspectionQuote extends InspectionQuoteRequest where
  request : InspectionRequest
  quote : InspectionQuote
  actorRole : QuoteCounterParty
deriving DecidableEq, Repr

/-- `loadQuoteForNegotiation`, of a request that `requestedById` has made. -/
def loadQuoteForNegotiation (requestedById : Id) (r : InspectionQuoteRequest) (db : Db) :
    Except ApiError LoadedInspectionQuote :=
  match db.inspectionRequests.findUnique r.requestId with
  | none => .error (httpError 404 "Inspection request not found")
  | some request =>
      match (related db.orders request.orderId).filter fun order =>
          order.status ∈ [OrderStatus.disputed, .cancelled] with
      | some order =>
          .error (codedError 409 "ORDER_DISPUTED" ("This order is " ++ order.status.lowerText ++
            ". Inspection quote proceedings are paused until it is resolved."))
      | none =>
          match db.inspectionQuotes.findUnique r.quoteId with
          | none => .error (httpError 404 "Inspection quote not found")
          | some quote =>
              if quote.inspectionRequestId ≠ r.requestId then
                .error (httpError 404 "Inspection quote not found")
              else if requestedById ≠ r.userId ∧ quote.inspectorId ≠ r.userId then
                .error (httpError 403 "Not authorized for this inspection quote negotiation")
              else
                .ok { r with
                  request := request
                  quote := quote
                  actorRole := if requestedById = r.userId then .requester else .provider }

/-- `lockOrderAndAssertNotClosed` of the order of the request. -/
def assertOrderOpen (request : InspectionRequest) (actionLabel : String) (db : Db) :
    Except ApiError Unit :=
  match request.orderId with
  | none => .ok ()
  | some orderId => lockOrderAndAssertNotClosed orderId actionLabel db

/-! ## Acceptance -/

/-- The reads and the checks of `PATCH /inspections/:id/quotes/:quoteId/accept`. -/
def checkAcceptInspection (env : Env) (requestedById : Id) (r : InspectionQuoteRequest) (db : Db) :
    Except ApiError LoadedInspectionQuote := do
  let loaded ← loadQuoteForNegotiation requestedById r db
  if loaded.request.status ≠ .requested then
    .error (httpError 400 "This inspection is no longer accepting quotes")
  else if loaded.quote.status ∉ [InspectionQuoteStatus.selected, .countered] then
    .error (httpError 400 "This quote is no longer available")
  else if loaded.quote.isExpired env.now then
    .error (httpError 409 "This quote has expired")
  else if loaded.quote.turn.any (· ≠ loaded.actorRole) then
    .error (httpError 409 "It is the other party’s turn to respond to this negotiation")
  else
    .ok loaded

/-- The row of a request once its inspector and its fee are agreed. -/
def InspectionRequest.agreed (env : Env) (inspectorId : Id) (fee : ℚ)
    (request : InspectionRequest) : InspectionRequest :=
  { request with
    inspectorId := some inspectorId
    fee := some fee
    status := .accepted
    workflowDueAt := some (env.now + env.sellerConfirmationMs)
    completedAt := none
    sellerConfirmedAt := none }

def InspectionRequest.isUnclaimed (request : InspectionRequest) : Bool :=
  request.status = .requested && request.inspectorId = none

/-- The request and the quote agree. -/
def agreeOnInspector (env : Env) (r : LoadedInspectionQuote) (fresh : InspectionQuote) (db : Db) :
    Db :=
  let db :=
    { db with
      inspectionRequests := db.inspectionRequests.update r.requestId
        (InspectionRequest.agreed env fresh.inspectorId r.quote.finalAmount)
      inspectionQuotes := db.inspectionQuotes.update r.quoteId ({ · with
        status := .accepted
        amount := r.quote.finalAmount }) }
  match r.request.orderId with
  | none => db
  | some orderId =>
      recordOrderEvent env (some orderId) .inspectionAccepted
        (syncOrderPaymentObligations orderId db)

/-- The transaction of the acceptance; its price is the one of the row that was read. -/
def acceptInspectionQuote (env : Env) (r : LoadedInspectionQuote) : Tx := fun db => do
  assertOrderOpen r.request
    "an inspection quote cannot be accepted until the order dispute is resolved" db
  match findLeafInspectionQuote db r.quoteId with
  | none => .error (httpError 409 "This negotiation has moved on. Refresh and try again.")
  | some fresh =>
      if fresh.status ∉ [InspectionQuoteStatus.selected, .countered] then
        .error (httpError 409 "This negotiation has moved on. Refresh and try again.")
      else if (db.inspectionRequests.findUnique r.requestId).any (·.isUnclaimed) then
        .ok (agreeOnInspector env r fresh db)
      else
        .error (httpError 409 "This inspection was already assigned to another inspector")

/-! ## Release -/

namespace LoadedInspectionQuote

def isProviderRelease (r : LoadedInspectionQuote) : Bool :=
  r.actorRole = .provider && r.quote.status = .accepted && r.quote.inspectorId = r.userId

def isAcceptedRelease (r : LoadedInspectionQuote) : Bool :=
  r.quote.status = .accepted

def assertWindowElapsed (env : Env) (r : LoadedInspectionQuote) (updatedAt : Nat) :
    Except ApiError Unit :=
  if r.isProviderRelease then .ok () else assertAcceptedReleaseWindowElapsed env updatedAt

end LoadedInspectionQuote

structure InspectionReleaseRequest extends InspectionQuoteRequest where
  reason : Option String := none
  note : Option String := none
deriving DecidableEq, Repr

/-- The reads and the checks of `PATCH /inspections/:id/quotes/:quoteId/withdraw`. -/
def checkReleaseInspection (env : Env) (requestedById : Id) (r : InspectionReleaseRequest)
    (updatedAt : Nat) (db : Db) : Except ApiError LoadedInspectionQuote := do
  let loaded ← loadQuoteForNegotiation requestedById r.toInspectionQuoteRequest db
  if loaded.actorRole ≠ .requester ∧ loaded.isProviderRelease = false then
    .error (httpError 403 "Only the requester can release this negotiation")
  else if !loaded.isAcceptedRelease && !loaded.quote.isSilent then
    .error (httpError 400 ("This quote cannot be released in its current state (current: " ++
      loaded.quote.status.text ++ ")"))
  else if (loaded.quote.releaseAvailableAt env updatedAt).any (env.now < ·) then
    .error (httpError 409 ("This inspector has not been inactive long enough. You can " ++
      "release them from"))
  else if loaded.isAcceptedRelease then do
    parseReleaseReason loaded.isProviderRelease r.reason r.note
    loaded.assertWindowElapsed env updatedAt
    .ok loaded
  else
    .ok loaded

/-- The row of a request without inspector, fee and terms. -/
def InspectionRequest.unassigned (request : InspectionRequest) : InspectionRequest :=
  { request with
    inspectorId := none
    fee := none
    feeTermsLockedAt := none
    lockedFee := none
    lockedFeePayer := none
    lockedBuyerFeeAmount := none
    lockedSellerFeeAmount := none
    sellerConfirmedAt := none
    inspectorOnSiteConfirmedAt := none
    status := .requested }

/-- The provisional agreement is still the one of this quote. -/
def assertInspectionAgreementActive (requestId : Id) (fresh : InspectionQuote) (db : Db) :
    Except ApiError Unit :=
  if (db.inspectionRequests.findUnique requestId).any fun request =>
      request.status = .accepted && request.inspectorId = some fresh.inspectorId then
    .ok ()
  else
    .error (httpError 409 "This provisional inspection agreement is no longer active")

/-- The writes of a release, with its event. -/
def releaseInspector (env : Env) (r : LoadedInspectionQuote) (db : Db) : Db :=
  let db :=
    { db with
      inspectionQuotes := db.inspectionQuotes.update r.quoteId ({ · with status := .withdrawn })
      inspectionRequests :=
        if r.isAcceptedRelease then
          db.inspectionRequests.update r.requestId InspectionRequest.unassigned
        else
          db.inspectionRequests }
  recordOrderEvent env r.request.orderId
    (if r.isProviderRelease then .providerAgreementReleased else .requesterAgreementReleased) db

/-- The transaction of the release.  A requester who has used up his releases changes nothing. -/
def releaseInspectionQuote (env : Env) (r : LoadedInspectionQuote) (reads : ReleaseReads) : Tx :=
  fun db => do
    assertOrderOpen r.request
      "the inspection agreement cannot be released until the order dispute is resolved" db
    if r.isProviderRelease = false ∧ reads.allowed ≤ reads.used then
      .ok db
    else if hasInspectionPayment db r.requestId [.pending, .processing, .paid] then
      .error (httpError 409 ("This inspector cannot be released after inspection payment has " ++
        "started or completed"))
    else
      match findLeafInspectionQuote db r.quoteId with
      | none => .error (httpError 409 "This negotiation has moved on. Refresh and try again.")
      | some fresh =>
          if r.isAcceptedRelease then do
            r.assertWindowElapsed env reads.updatedAt
            assertInspectionAgreementActive r.requestId fresh db
            .ok (releaseInspector env r db)
          else if (fresh.releaseAvailableAt env reads.updatedAt).any (env.now < ·) then
            .error (httpError 409 "This negotiation changed. Refresh and try again.")
          else
            .ok (releaseInspector env r db)

end MarketBridge
