import MarketBridge.Inspection.Quotes
import MarketBridge.Listing.Step

/-!
# Arrival of an inspector

Confirming an arrival sets `inspectorOnSiteConfirmedAt`, the gate of the fee payment.
It is earned by a check-in that the seller answers, the sweep confirms or an admin
rules on.  A request has one arrival row, which outlives the agreement that the
check-in was made in.  The position of the check-in and the counters of the
inspector, which block nothing, are left out.
-/

namespace MarketBridge

open Relational

/-- The row of a check-in. -/
structure InspectionArrival where
  inspectorId : Id
  status : InspectionArrivalStatus := .pendingSeller
  checkedInAt : Nat
  codeVerified : Bool := false
  disputeWindowEndsAt : Option Nat := none
  sellerRespondedAt : Option Nat := none
  sellerRespondedById : Option Id := none
  disputeReason : Option String := none
  disputedAt : Option Nat := none
  resolvedAt : Option Nat := none
  resolvedById : Option Id := none
  adminNote : Option String := none
deriving DecidableEq, Repr

/-- The hand-off details of the seller and the inspector. -/
structure InspectionCoordination where
  sellerSubmittedAt : Option Nat := none
  inspectorSubmittedAt : Option Nat := none
  supersededAt : Option Nat := none
deriving DecidableEq, Repr

/-- One inspection request with what hangs on it. -/
structure ArrivalSession where
  db : Db
  requestId : Id
  requestedById : Id
  coordination : Option InspectionCoordination := none
  arrivalCodeSalt : Option String := none
  arrivalCodeFailedAttempts : Nat := 0
  arrival : Option InspectionArrival := none
  /-- Who has checked in since the seller last confirmed an inspector. -/
  checkedIn : Option Id := none
deriving DecidableEq, Repr

/-- `deriveArrivalCode`: the code of a request, an inspector and a salt. -/
abbrev ArrivalCode :=
  Id -> Id -> String -> String

abbrev ArrivalTx :=
  ArrivalSession -> Except ApiError ArrivalSession

/-! ## Rows -/

/-- `computeInspectionPaymentDueAt`. -/
def computeInspectionPaymentDueAt (env : Env) : Nat :=
  env.now + env.inspectionPaymentMs

def InspectionStatus.lowerText : InspectionStatus -> String
  | .requested => "requested"
  | .accepted => "accepted"
  | .inProgress => "in_progress"
  | .completed => "completed"
  | .cancelled => "cancelled"
  | .stalled => "stalled"

namespace InspectionRequest

def awaitingArrival (request : InspectionRequest) : Bool :=
  request.status = .accepted && request.inspectorId.isSome && request.sellerConfirmedAt.isSome &&
    request.inspectorOnSiteConfirmedAt.isNone

/-- The terms that the seller has accepted. -/
def sellerConfirmed (env : Env) (request : InspectionRequest) : InspectionRequest :=
  { request with
    sellerConfirmedAt := some env.now
    feeTermsLockedAt := some env.now
    lockedFee := request.fee
    lockedFeePayer := some request.feePayer
    lockedBuyerFeeAmount :=
      match request.feePayer with
      | .seller => none
      | .split => request.fee.map fun fee => roundMoney (fee / 2)
      | .buyer => request.fee
    lockedSellerFeeAmount :=
      match request.feePayer with
      | .buyer => none
      | .split => request.fee.map fun fee => roundMoney (fee - roundMoney (fee / 2))
      | .seller => request.fee
    workflowDueAt := some (env.now + env.arrivalWindowMs) }

def onSite (env : Env) (request : InspectionRequest) : InspectionRequest :=
  { request with
    inspectorOnSiteConfirmedAt := some env.now
    workflowDueAt := some (computeInspectionPaymentDueAt env) }

end InspectionRequest

namespace ArrivalSession

def request (s : ArrivalSession) : Option InspectionRequest :=
  s.db.inspectionRequests.findUnique s.requestId

def setRequest (s : ArrivalSession) (f : InspectionRequest -> InspectionRequest) :
    ArrivalSession :=
  { s with db := { s.db with
      inspectionRequests := s.db.inspectionRequests.update s.requestId f } }

/-- `syncOrderPaymentObligations` and an event, of a request that belongs to an order. -/
def syncAndRecord (s : ArrivalSession) (env : Env) (orderId : Option Id) (type : OrderEventType) :
    ArrivalSession :=
  match orderId with
  | none => s
  | some orderId =>
      { s with db :=
          recordOrderEvent env (some orderId) type (syncOrderPaymentObligations orderId s.db) }

def recordEvent (s : ArrivalSession) (env : Env) (orderId : Option Id) (type : OrderEventType) :
    ArrivalSession :=
  { s with db := recordOrderEvent env orderId type s.db }

def setArrival (s : ArrivalSession) (f : InspectionArrival -> InspectionArrival) :
    ArrivalSession :=
  { s with arrival := s.arrival.map f }

/-- `sellerIdOf`, for a request of an order. -/
def sellerIdOf (s : ArrivalSession) (request : InspectionRequest) : Option Id :=
  (related s.db.orders request.orderId).map (·.sellerId)

/-- `currentArrival`: the row counts only if it belongs to the current inspector. -/
def currentArrival (s : ArrivalSession) (request : InspectionRequest) :
    Option InspectionArrival :=
  s.arrival.filter fun arrival => some arrival.inspectorId = request.inspectorId

def ensureOpenCoordination (s : ArrivalSession) : ArrivalSession :=
  match s.coordination with
  | some coordination =>
      if coordination.supersededAt.isNone then s else { s with coordination := some {} }
  | none => { s with coordination := some {} }

def closeCoordination (env : Env) (s : ArrivalSession) : ArrivalSession :=
  { s with coordination := s.coordination.map fun coordination =>
      if coordination.supersededAt.isSome then coordination
      else { coordination with supersededAt := some env.now } }

/-! ## Agreement -/

/-- `PATCH /inspections/:id/quotes/:quoteId/accept`. -/
def acceptQuote (env : Env) (userId quoteId : Id) : ArrivalTx := fun s => do
  let loaded ← checkAcceptInspection env s.requestedById
    { userId := userId
      requestId := s.requestId
      quoteId := quoteId } s.db
  let db ← acceptInspectionQuote env loaded s.db
  .ok { s with db := db }.ensureOpenCoordination

/-- The checks of `POST /inspections/:id/seller-confirm`. -/
def assertMayConfirm (env : Env) (userId : Id) (request : InspectionRequest)
    (s : ArrivalSession) : Except ApiError Unit := do
  assertOrderOpen request "the inspection cannot be confirmed until that is resolved" s.db
  match related s.db.orders request.orderId with
  | none => .error (httpError 403 "Only the order seller can confirm this inspection")
  | some order =>
      if order.status ∈ [OrderStatus.cancelled, .completed, .disputed] then
        .error (httpError 409 ("This order is " ++ order.status.lowerText ++
          ", so the inspection can no longer be confirmed"))
      else if isDue env.now request.workflowDueAt then
        .error (httpError 409
          "The confirmation window has expired. The provisional agreement is being closed.")
      else if order.sellerId ≠ userId then
        .error (httpError 403 "Only the order seller can confirm this inspection")
      else if request.status ≠ .accepted ∨ request.inspectorId = none then
        .error (httpError 409 "Only a provisionally agreed inspection can be confirmed")
      else if request.sellerConfirmedAt.isSome ∨ request.inspectorOnSiteConfirmedAt.isSome then
        .error (httpError 409 "This inspection has already been confirmed")
      else if request.fee.all (· ≤ 0) then
        .error (httpError 409 "An agreed inspection fee is required before confirmation")
      else
        match s.coordination.filter fun coordination => coordination.supersededAt.isNone with
        | none =>
            .error (codedError 409 "COORDINATION_NOT_OPEN"
              "Coordination must be opened before the inspection can be confirmed")
        | some coordination =>
            if coordination.sellerSubmittedAt = none then
              .error (codedError 409 "COORDINATION_SELLER_INCOMPLETE"
                "Save your site handoff details before accepting the inspector and fee")
            else if coordination.inspectorSubmittedAt = none then
              .error (codedError 409 "COORDINATION_INSPECTOR_INCOMPLETE"
                ("Waiting for the inspector to share their arrival details. You can accept " ++
                  "once they have submitted their handoff."))
            else
              .ok ()

/-- `POST /inspections/:id/seller-confirm`, with the salt that `newCodeSalt` draws. -/
def confirmInspection (env : Env) (userId : Id) (salt : String) : ArrivalTx := fun s =>
  match s.request with
  | none => .error (httpError 404 "Inspection request not found")
  | some request => do
      assertMayConfirm env userId request s
      .ok { (s.setRequest (·.sellerConfirmed env)).syncAndRecord env request.orderId
          .inspectionAccepted with
        arrivalCodeSalt := some salt
        arrivalCodeFailedAttempts := 0
        checkedIn := none }

/-! ## Confirming an arrival -/

/-- The `where` of `applyArrivalConfirmed`. -/
def mayConfirmArrival (s : ArrivalSession) (request : InspectionRequest) : Bool :=
  s.request.any fun row =>
    row.status = .accepted && row.inspectorId = request.inspectorId &&
      row.sellerConfirmedAt.isSome && row.inspectorOnSiteConfirmedAt.isNone

/-- `applyArrivalConfirmed`; the result is `none` when the request has moved on. -/
def applyArrivalConfirmed (env : Env) (request : InspectionRequest) (s : ArrivalSession) :
    Option ArrivalSession :=
  if s.mayConfirmArrival request then
    some ((s.setRequest (·.onSite env)).syncAndRecord env request.orderId .inspectionInspectorArrived)
  else
    none

/-! ## Check-in -/

end ArrivalSession

/-- The body of a check-in. -/
structure CheckIn where
  /-- `validCoordinate` of its position. -/
  hasPosition : Bool := true
  hasPhoto : Bool := true
  code : Option String := none
deriving DecidableEq, Repr

def isArrivalCode (code : String) : Bool :=
  code.toList.length = 4 && code.toList.all Char.isDigit

def codesMatch (expected supplied : String) : Bool :=
  isArrivalCode expected && isArrivalCode supplied && expected = supplied

/-- The request checks that need no row. -/
def CheckIn.validate (c : CheckIn) : Except ApiError Unit :=
  if c.hasPosition = false then
    .error (codedError 400 "GPS_REQUIRED" ("A valid GPS location is required to check in. Turn " ++
      "on location and try again."))
  else if c.hasPhoto = false then
    .error (codedError 400 "PHOTO_REQUIRED" "Take a photo of the goods or the site to check in.")
  else if c.code.any fun code => code ≠ "" && !isArrivalCode code then
    .error (codedError 400 "CODE_FORMAT" "The handshake code is 4 digits.")
  else
    .ok ()

namespace ArrivalSession

/-- The request and the row let the inspector check in. -/
def assertMayCheckIn (env : Env) (userId : Id) (request : InspectionRequest)
    (s : ArrivalSession) : Except ApiError Unit := do
  assertOrderOpen request "the inspector cannot check in until that is resolved" s.db
  if request.inspectorId ≠ some userId then
    .error (httpError 403 "Only the assigned inspector can check in")
  else if request.awaitingArrival = false then
    .error (codedError 409 "NOT_AWAITING_ARRIVAL" ("Check-in is only available after the seller " ++
      "has accepted the inspector and fee, and before arrival is confirmed."))
  else if isDue env.now request.workflowDueAt then
    .error (codedError 409 "ARRIVAL_WINDOW_EXPIRED" "The arrival window has expired.")
  else
    match s.currentArrival request with
    | none => .ok ()
    | some existing =>
        if existing.status ∈ [InspectionArrivalStatus.pendingSeller, .disputed] then
          .error (codedError 409 "ALREADY_CHECKED_IN"
            "You have already checked in. Waiting for the seller or admin.")
        else if existing.status = .resolvedNoShow then
          .error (codedError 409 "RULED_NO_SHOW" "This arrival was ruled a no-show.")
        else
          .ok ()

/-- What the handshake code of a check-in proves. -/
inductive CodeVerdict where
  | none
  | verified
  | wrong
deriving DecidableEq, Repr

/-- The handshake code, the strongest proof, is optional. -/
def judgeCode (codeOf : ArrivalCode) (env : Env) (userId : Id) (code : Option String)
    (s : ArrivalSession) : Except ApiError CodeVerdict :=
  match code.filter (· ≠ "") with
  | none => .ok .none
  | some code =>
      if env.arrivalCodeMaxAttempts ≤ s.arrivalCodeFailedAttempts then
        .error (codedError 423 "CODE_LOCKED" ("Too many wrong codes. Check in without a code and " ++
          "the seller will be asked to confirm."))
      else
        match s.arrivalCodeSalt with
        | none => .ok .none
        | some salt =>
            if codesMatch (codeOf s.requestId userId salt) code then .ok .verified else .ok .wrong

/-- The row of a check-in replaces the one that is there. -/
def writeCheckIn (env : Env) (userId : Id) (verified : Bool) (s : ArrivalSession) :
    ArrivalSession :=
  { s with
    arrival := some
      { inspectorId := userId
        status := if verified then .confirmed else .pendingSeller
        checkedInAt := env.now
        codeVerified := verified
        disputeWindowEndsAt :=
          if verified then none else some (env.now + env.arrivalDisputeWindowMs)
        sellerRespondedAt := if verified then some env.now else none }
    checkedIn := some userId }

def checkIn (codeOf : ArrivalCode) (env : Env) (userId : Id) (c : CheckIn) : ArrivalTx := fun s => do
  c.validate
  match s.request with
  | none => .error (httpError 404 "Inspection request not found")
  | some request => do
      assertMayCheckIn env userId request s
      match ← judgeCode codeOf env userId c.code s with
      | .wrong =>
          .ok { s with arrivalCodeFailedAttempts := s.arrivalCodeFailedAttempts + 1 }
      | .verified =>
          let s := s.writeCheckIn env userId true
          .ok ((s.applyArrivalConfirmed env request).getD s)
      | .none =>
          .ok ((s.writeCheckIn env userId false).recordEvent env request.orderId
            .inspectionArrivalCheckedIn)

/-! ## Seller response -/

/-- The arrival that waits for the answer of this seller. -/
def pendingFor (userId : Id) (actionLabel refusal : String) (s : ArrivalSession) :
    Except ApiError (InspectionRequest × InspectionArrival) :=
  match s.request with
  | none => .error (httpError 404 "Inspection request not found")
  | some request => do
      assertOrderOpen request actionLabel s.db
      if s.sellerIdOf request ≠ some userId then
        .error (httpError 403 refusal)
      else
        match (s.currentArrival request).filter (·.status = .pendingSeller) with
        | none =>
            .error (codedError 409 "NO_PENDING_ARRIVAL"
              "There is no arrival waiting for your answer.")
        | some arrival => .ok (request, arrival)

def inspectionChangedError : ApiError :=
  httpError 409 "The inspection changed. Refresh and try again."

def sellerConfirm (env : Env) (userId : Id) : ArrivalTx := fun s => do
  let (request, _) ← s.pendingFor userId "the arrival cannot be confirmed until that is resolved"
    "Only the seller can confirm the arrival"
  let claimed := s.setArrival ({ · with
    status := .confirmed
    sellerRespondedAt := some env.now
    sellerRespondedById := some userId })
  match claimed.applyArrivalConfirmed env request with
  | none => .error inspectionChangedError
  | some s => .ok s

/-- `DISPUTE_REASONS`. -/
def disputeReasons : List String :=
  ["NOT_PRESENT", "WRONG_PERSON", "WRONG_PLACE"]

def sellerDispute (env : Env) (userId : Id) (reason : String) : ArrivalTx := fun s =>
  if reason ∉ disputeReasons then
    .error (codedError 400 "INVALID_REASON" "Choose one of the listed reasons.")
  else do
    let (request, _) ← s.pendingFor userId "the arrival cannot be disputed until that is resolved"
      "Only the seller can dispute the arrival"
    .ok ((s.setArrival ({ · with
      status := .disputed
      disputeReason := some reason
      disputedAt := some env.now
      sellerRespondedAt := some env.now
      sellerRespondedById := some userId })).recordEvent env request.orderId
        .inspectionArrivalDisputed)

/-! ## Auto-confirm -/

def isAutoConfirmDue (now : Nat) (s : ArrivalSession) : Bool :=
  s.arrival.any fun arrival =>
    arrival.status = .pendingSeller && isDue now arrival.disputeWindowEndsAt

/-- `autoConfirmDueArrivals`, on the row of the request. -/
def autoConfirmDueArrivals (env : Env) (s : ArrivalSession) : ArrivalSession :=
  if s.isAutoConfirmDue env.now then
    match s.request with
    | none => s
    | some request =>
        match (s.currentArrival request).filter (·.status = .pendingSeller) with
        | none => s
        | some _ =>
            -- the transaction also commits when the request has moved on
            let claimed := s.setArrival ({ · with status := .autoConfirmed })
            (claimed.applyArrivalConfirmed env request).getD claimed
  else
    s

/-! ## No-show -/

/-- The request goes back to the bidding pool, without its order. -/
def reopenAfterNoShow (env : Env) (request : InspectionRequest) (s : ArrivalSession) :
    ArrivalSession :=
  let s := s.setRequest fun row =>
    { row.unassigned with workflowDueAt := some (computeInspectionWorkflowDueAt env) }
  let s :=
    { s with
      db := { s.db with
        inspectionQuotes := s.db.inspectionQuotes.updateMany
          (fun _ quote => quote.inspectionRequestId = s.requestId &&
            some quote.inspectorId = request.inspectorId && quote.status.isLive)
          ({ · with status := .withdrawn })
        obligations := s.db.obligations.updateMany
          (fun _ b => b.inspectionRequestId = some s.requestId &&
            b.type = PaymentType.inspector && b.status = PaymentObligationStatus.open)
          ({ · with status := .cancelled }) }
      arrivalCodeSalt := none
      arrivalCodeFailedAttempts := 0 }
  (s.closeCoordination env).recordEvent env request.orderId .inspectionNoShow

/-- `lapseMissedArrivals`: the arrival window has ended, and nothing is being decided. -/
def lapseMissedArrivals (env : Env) (s : ArrivalSession) : ArrivalSession :=
  match s.request with
  | none => s
  | some request =>
      if request.awaitingArrival && isDue env.now request.workflowDueAt &&
          !(s.currentArrival request).any fun arrival =>
            arrival.status ∈ [InspectionArrivalStatus.pendingSeller, .disputed] then
        s.reopenAfterNoShow env request
      else
        s

/-! ## Admin -/

inductive ArrivalOutcome where
  | arrived
  | noShow
deriving DecidableEq, Repr

def adminResolve (env : Env) (adminId : Id) (outcome : ArrivalOutcome) (note : Option String) :
    ArrivalTx := fun s =>
  match s.arrival with
  | none => .error (httpError 404 "Arrival record not found")
  | some arrival =>
      if arrival.status ≠ .disputed then
        .error (codedError 409 "NOT_DISPUTED" "Only a disputed arrival can be resolved.")
      else
        match s.request with
        | none => .error (httpError 404 "Inspection request not found")
        | some request =>
            if request.inspectorId ≠ some arrival.inspectorId then
              .error (codedError 409 "REASSIGNED" "This inspection has since been reassigned.")
            else do
              assertOrderOpen request "the arrival cannot be resolved until that is resolved" s.db
              let claimed := (s.setArrival ({ · with
                status := if outcome = .arrived then .resolvedArrived else .resolvedNoShow
                resolvedAt := some env.now
                resolvedById := some adminId
                adminNote := note })).recordEvent env request.orderId .inspectionArrivalResolved
              match outcome with
              | .noShow => .ok (claimed.reopenAfterNoShow env request)
              | .arrived =>
                  match claimed.applyArrivalConfirmed env request with
                  | none => .error inspectionChangedError
                  | some s => .ok s

/-! ## Release and reopening -/

/-- `PATCH /inspections/:id/quotes/:quoteId/withdraw`. -/
def releaseQuote (env : Env) (userId quoteId : Id) (reason note : Option String)
    (reads : ReleaseReads) : ArrivalTx := fun s => do
  let loaded ← checkReleaseInspection env s.requestedById
    { userId := userId
      requestId := s.requestId
      quoteId := quoteId
      reason := reason
      note := note } reads.updatedAt s.db
  let db ← releaseInspectionQuote env loaded reads s.db
  if loaded.isProviderRelease = false ∧ reads.allowed ≤ reads.used then
    .ok s
  else
    .ok ({ s with db := db }.closeCoordination env)

def hasLiveBidders (s : ArrivalSession) : Bool :=
  s.db.inspectionQuotes.any fun _ quote =>
    quote.inspectionRequestId = s.requestId && quote.status.isLive

/-- `PATCH /inspections/:id/reopen-bidding`. -/
def reopenBidding (env : Env) : ArrivalTx := fun s =>
  match s.request with
  | none => .error (httpError 404 "Inspection request not found")
  | some request =>
      if request.status ∉ [InspectionStatus.requested, .accepted, .stalled] then
        .error (httpError 409 ("Inspection bidding cannot be reopened while the request is " ++
          request.status.lowerText))
      else if hasInspectionPayment s.db s.requestId [.pending, .processing, .paid] then
        .error (httpError 409 ("Bidding cannot be reopened after inspection payment has started " ++
          "or completed"))
      else do
        assertOrderOpen request
          "inspection bidding cannot be reopened until the order dispute is resolved" s.db
        if s.hasLiveBidders then
          .error (httpError 409 ("A fresh inspection form cannot be released while inspector " ++
            "bid(s) are still waiting or pending. They stay on the waiting list until the " ++
            "selected inspector submits the report or they release themselves."))
        else
          .ok ((s.setRequest fun row =>
            { row.unassigned with
              workflowDueAt := some (computeInspectionWorkflowDueAt env) }).closeCoordination env)

def isRecovered (s : ArrivalSession) (request : RecoveryRequest) : Bool :=
  request.type = .inspection &&
    (currentInspection s.db request.orderId).any fun current =>
      current.1 = s.requestId &&
        current.2.status ∈ [InspectionStatus.requested, .accepted, .stalled, .cancelled]

/-- `PATCH /recovery-requests/admin/:id/approve`. -/
def approveRecovery (env : Env) (adminId recoveryId : Id) : ArrivalTx := fun s => do
  let db ← MarketBridge.approveRecovery env adminId recoveryId recoverOther s.db
  if (s.db.recoveryRequests.findUnique recoveryId).any s.isRecovered then
    .ok ({ s with db := db }.closeCoordination env)
  else
    .ok { s with db := db }

end ArrivalSession

end MarketBridge
