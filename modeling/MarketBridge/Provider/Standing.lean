import MarketBridge.Relational.RowUpdates
import MarketBridge.Schema.Rows

/-!
# Provider standing

The penalties of transporters and inspectors who cancel accepted agreements, and the way
back.  Every operation is a transaction on the standing row of one provider and the audit
log; the timers are settled from a row that the caller has read.  The rating penalty is
a float and is not modelled.
-/

namespace MarketBridge

open Relational

/-- The status of a provider; `SUSPENDED` without an end is for an admin to lift. -/
inductive ProviderStandingStatus where
  | good
  | probation
  | suspended
  | rejoinPending
deriving DecidableEq, Repr

structure ProviderStanding where
  userId : Id
  status : ProviderStandingStatus := .good
  suspensionCount : Nat := 0
  suspendedAt : Option Nat := none
  suspendedUntil : Option Nat := none
  probationUntil : Option Nat := none
  lastReason : Option String := none
  appealMessage : Option String := none
  appealedAt : Option Nat := none
deriving DecidableEq, Repr

structure AuditEvent where
  actorId : Option Id := none
  action : String
  resourceType : String
  createdAt : Nat
deriving DecidableEq, Repr

def dayMs : Nat := 24 * 60 * 60 * 1000

def suspensionDays : List Nat := [3, 14, 30]

def probationDays : Nat := 30

def providerReleaseActions : List String :=
  ["TRANSPORT_ACCEPTED_RELEASED_BY_PROVIDER", "INSPECTION_ACCEPTED_RELEASED_BY_PROVIDER"]

/-- `PROVIDER_RELEASE_FLAG_THRESHOLD`, if it is set to an integer. -/
def providerFlagThreshold (configured : Option Int) : Nat :=
  match configured with
  | some n => if n > 0 then n.toNat else 3
  | none => 3

/-- `none` is indefinite. -/
def suspensionDaysFor (suspensionNumber : Nat) : Option Nat :=
  if suspensionNumber <= suspensionDays.length then
    some (suspensionDays.getD (suspensionNumber - 1) 0)
  else
    none

/-! ## Errors -/

inductive StandingError where
  | providerSuspended (suspendedUntil : Option Nat)
  | rejoinRequired
  | nothingToRejoin
  | notRejoinPending
  | appealTooShort
  | notSuspendedForAppeal
  | alreadyAppealed
  | badTarget
  | notSuspended
deriving DecidableEq, Repr

namespace StandingError

def statusCode : StandingError -> Nat
  | providerSuspended _ => 403
  | rejoinRequired => 403
  | appealTooShort => 400
  | badTarget => 400
  | _ => 409

def code : StandingError -> String
  | providerSuspended _ => "PROVIDER_SUSPENDED"
  | rejoinRequired => "PROVIDER_REJOIN_REQUIRED"
  | nothingToRejoin => "NOT_SUSPENDED"
  | notRejoinPending => "NOT_REJOIN_PENDING"
  | appealTooShort => "APPEAL_TOO_SHORT"
  | notSuspendedForAppeal => "NOT_SUSPENDED"
  | alreadyAppealed => "ALREADY_APPEALED"
  | badTarget => "BAD_TARGET"
  | notSuspended => "NOT_SUSPENDED"

def message (toISOString : Nat -> String) : StandingError -> String
  | providerSuspended (some t) =>
      "Your bidding is suspended until " ++ toISOString t ++
        " because of repeated cancellations. You can appeal from your dashboard."
  | providerSuspended none =>
      "Your bidding is suspended until MarketBridge admin reviews your account. " ++
        "You can appeal from your dashboard."
  | rejoinRequired =>
      "Your suspension has ended. Acknowledge the marketplace rules on your dashboard " ++
        "to rejoin on probation."
  | nothingToRejoin => "Nothing to rejoin."
  | notRejoinPending => "You can rejoin once your suspension period has ended."
  | appealTooShort => "Please explain your appeal in at least 10 characters."
  | notSuspendedForAppeal => "Appeals are only possible while suspended."
  | alreadyAppealed => "You already submitted an appeal for this suspension."
  | badTarget => "Invalid target status."
  | notSuspended => "This provider is not suspended."

end StandingError

/-! ## Results -/

inductive CancellationAction where
  | ratingHit
  | warned
  | suspended
deriving DecidableEq, Repr

structure CancellationOutcome where
  status : ProviderStandingStatus
  strikes : Nat
  threshold : Nat
  action : CancellationAction := .ratingHit
  «until» : Option Nat := none
deriving DecidableEq, Repr

structure StandingSummary where
  status : ProviderStandingStatus
  suspensionCount : Nat
  suspendedUntil : Option Nat
  probationUntil : Option Nat
  strikes : Nat
  threshold : Nat
  canAppeal : Bool
  appealMessage : Option String
  nextSuspensionDays : Option Nat
deriving DecidableEq, Repr

inductive StandingResult where
  | standing (standing : ProviderStanding)
  | outcome (outcome : CancellationOutcome)
  /-- The verdict of the gate, and the standing it is about. -/
  | gate (standing : Option ProviderStanding) (verdict : Except StandingError Unit)
  | summary (summary : StandingSummary)
  | swept (moved : Nat)
deriving DecidableEq

abbrev StandingTxn := RowTxn ProviderStanding AuditEvent StandingError StandingResult

abbrev StandingStore := RowStore ProviderStanding AuditEvent

/-! ## Timers -/

/-- What the timers have due on a row. -/
inductive StandingTimer where
  | suspensionEnded
  | probationEnded
deriving DecidableEq, Repr

def ProviderStanding.due (now : Nat) (r : ProviderStanding) : Option StandingTimer :=
  if r.status = .suspended && r.suspendedUntil.any fun t => t <= now then
    some .suspensionEnded
  else if r.status = .probation && r.probationUntil.any fun t => t <= now then
    some .probationEnded
  else
    none

def settleTimers (now : Nat) (standing : ProviderStanding)
    (next : ProviderStanding -> StandingTxn) : StandingTxn :=
  match standing.due now with
  | some .suspensionEnded =>
      .update standing (fun r => { r with status := .rejoinPending }) next
  | some .probationEnded =>
      .update standing (fun r =>
        { r with
          status := .good
          probationUntil := none }) fun updated =>
      .log
        { action := "PROVIDER_PROBATION_COMPLETED"
          resourceType := "ProviderStanding"
          createdAt := now }
      (next updated)
  | none => next standing

/-! ## Cancellations -/

/-- The strikes that an evaluation at `now` counts. -/
def isStrike (now : Nat) (standing : ProviderStanding) (e : AuditEvent) : Bool :=
  let windowStart : Int := (now : Int) - (30 * dayMs : Nat)
  let since : Int :=
    match standing.suspendedAt with
    | some t => if (t : Int) > windowStart then t else windowStart
    | none => windowStart
  e.actorId = some standing.userId && e.action ∈ providerReleaseActions &&
    (e.createdAt : Int) > since

def strikesSinceLastSuspension (now : Nat) (standing : ProviderStanding)
    (next : Nat -> StandingTxn) : StandingTxn :=
  .count (isStrike now standing) next

def suspend (now : Nat) (standing : ProviderStanding) (reason : String)
    (next : ProviderStanding -> StandingTxn) : StandingTxn :=
  let suspensionNumber := standing.suspensionCount + 1
  let ends := (suspensionDaysFor suspensionNumber).map fun length => now + length * dayMs
  .update standing (fun r =>
    { r with
      status := .suspended
      suspensionCount := suspensionNumber
      suspendedAt := some now
      suspendedUntil := ends
      probationUntil := none
      lastReason := some reason
      appealMessage := none
      appealedAt := none }) fun updated =>
  .log
    { action := "PROVIDER_SUSPENDED"
      resourceType := "ProviderStanding"
      createdAt := now }
  (next updated)

/-- The clock readings of a cancellation, in the order in which they are taken. -/
structure CancellationTimes where
  settled : Nat
  counted : Nat
  suspended : Nat
deriving DecidableEq, Repr

structure CancellationCall where
  userId : Id
  reason : String
  times : CancellationTimes
deriving DecidableEq, Repr

def applyProviderCancellation (configured : Option Int) (c : CancellationCall)
    (next : CancellationOutcome -> StandingTxn) : StandingTxn :=
  .upsert { userId := c.userId } fun standing =>
  settleTimers c.times.settled standing fun standing =>
  -- The rating penalty.
  .update standing id fun standing =>
  strikesSinceLastSuspension c.times.counted standing fun strikes =>
  let threshold := providerFlagThreshold configured
  if standing.status = .probation || strikes >= threshold then
    suspend c.times.suspended standing
      (if standing.status = .probation then
        "Cancelled an accepted agreement while on probation (" ++ c.reason ++ ")"
      else
        toString strikes ++ " cancellations of accepted agreements within 30 days (" ++
          c.reason ++ ")") fun suspended =>
    next
      { status := .suspended
        strikes := strikes
        threshold := threshold
        action := .suspended
        «until» := suspended.suspendedUntil }
  else
    next
      { status := standing.status
        strikes := strikes
        threshold := threshold
        action := if strikes + 1 = threshold then .warned else .ratingHit }

/-- The faults of a provider, with what the transactions around them record. -/
inductive ProviderFault where
  | transportRelease
  | inspectionRelease
  /-- A no-show, lapsed or ruled by an admin. -/
  | noShow (actorId : Option Id)
deriving DecidableEq, Repr

/-- The end of a transaction that releases an agreement of the provider or counts a no-show. -/
def recordFault (configured : Option Int) (fault : ProviderFault) (c : CancellationCall)
    (recordedAt : Nat) : StandingTxn :=
  match fault with
  | .transportRelease =>
      .log
        { actorId := some c.userId
          action := "TRANSPORT_ACCEPTED_RELEASED_BY_PROVIDER"
          resourceType := "TransportQuote"
          createdAt := recordedAt }
      (applyProviderCancellation configured c fun outcome => .done (.outcome outcome))
  | .inspectionRelease =>
      .log
        { actorId := some c.userId
          action := "INSPECTION_ACCEPTED_RELEASED_BY_PROVIDER"
          resourceType := "InspectionQuote"
          createdAt := recordedAt }
      (applyProviderCancellation configured c fun outcome => .done (.outcome outcome))
  | .noShow actorId =>
      applyProviderCancellation configured { c with reason := "NO_SHOW" } fun outcome =>
      .log
        { actorId := actorId
          action := "INSPECTION_INSPECTOR_NO_SHOW"
          resourceType := "InspectionRequest"
          createdAt := recordedAt }
      (.done (.outcome outcome))

/-! ## Gate and summary -/

def assertProviderCanBid (now : Nat) : StandingTxn :=
  .read fun existing =>
    match existing with
    | none => .done (.gate none (.ok ()))
    | some existing =>
        settleTimers now existing fun standing =>
        if standing.status = .suspended then
          .done (.gate (some standing) (.error (.providerSuspended standing.suspendedUntil)))
        else if standing.status = .rejoinPending then
          .done (.gate (some standing) (.error .rejoinRequired))
        else
          .done (.gate (some standing) (.ok ()))

def standingSummary (threshold : Nat) (standing : ProviderStanding) (strikes : Nat) :
    StandingSummary where
  status := standing.status
  suspensionCount := standing.suspensionCount
  suspendedUntil := standing.suspendedUntil
  probationUntil := standing.probationUntil
  strikes := strikes
  threshold := threshold
  canAppeal := standing.status = .suspended && standing.appealedAt.isNone
  appealMessage := standing.appealMessage
  nextSuspensionDays := suspensionDaysFor (standing.suspensionCount + 1)

def getStandingSummary (configured : Option Int) (userId : Id) (settled counted : Nat) :
    StandingTxn :=
  let threshold := providerFlagThreshold configured
  .read fun standing =>
    match standing with
    | none => .done (.summary (standingSummary threshold { userId := userId } 0))
    | some standing =>
        settleTimers settled standing fun standing =>
        strikesSinceLastSuspension counted standing fun strikes =>
        .done (.summary (standingSummary threshold standing strikes))

/-! ## The way back -/

def rejoin (userId : Id) (settled rejoined : Nat) : StandingTxn :=
  .read fun existing =>
    match existing with
    | none => .fail .nothingToRejoin
    | some existing =>
        settleTimers settled existing fun standing =>
        if standing.status ≠ .rejoinPending then
          .fail .notRejoinPending
        else
          .update standing (fun r =>
            { r with
              status := .probation
              probationUntil := some (rejoined + probationDays * dayMs) }) fun updated =>
          .log
            { actorId := some userId
              action := "PROVIDER_REJOINED_ON_PROBATION"
              resourceType := "ProviderStanding"
              createdAt := rejoined }
          (.done (.standing updated))

/-- `String(message || '').trim().slice(0, 1000)`. -/
def appealText (message : String) : String :=
  (message.trimAscii.toString.take 1000).toString

def appeal (userId : Id) (now : Nat) (message : String) : StandingTxn :=
  if (appealText message).length < 10 then
    .fail .appealTooShort
  else
    .read fun standing =>
      match standing with
      | none => .fail .notSuspendedForAppeal
      | some standing =>
          if standing.status ≠ .suspended then
            .fail .notSuspendedForAppeal
          else if standing.appealedAt.isSome then
            .fail .alreadyAppealed
          else
            .update standing (fun r =>
              { r with
                appealMessage := some (appealText message)
                appealedAt := some now }) fun updated =>
            .log
              { actorId := some userId
                action := "PROVIDER_SUSPENSION_APPEALED"
                resourceType := "ProviderStanding"
                createdAt := now }
            (.done (.standing updated))

def adminReinstate (adminId : Id) (now : Nat) (target : ProviderStandingStatus) : StandingTxn :=
  if target ≠ .probation && target ≠ .good then
    .fail .badTarget
  else
    .read fun standing =>
      match standing with
      | none => .fail .notSuspended
      | some standing =>
          if standing.status ≠ .suspended && standing.status ≠ .rejoinPending then
            .fail .notSuspended
          else
            .update standing (fun r =>
              { r with
                status := target
                suspendedUntil := none
                probationUntil :=
                  if target = .probation then some (now + probationDays * dayMs) else none
                appealMessage := none
                appealedAt := none }) fun updated =>
            .log
              { actorId := some adminId
                action := "PROVIDER_REINSTATED_BY_ADMIN"
                resourceType := "ProviderStanding"
                createdAt := now }
            (.done (.standing updated))

/-- The sweep, as far as it is about this provider. -/
def sweepProviderStandings (now settled : Nat) : StandingTxn :=
  .read fun standing =>
    match standing with
    | none => .done (.swept 0)
    | some standing =>
        if (standing.due now).isSome then
          settleTimers settled standing fun _ => .done (.swept 1)
        else
          .done (.swept 0)

end MarketBridge
