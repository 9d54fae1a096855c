import MarketBridge.Inspection.Reopening
import MarketBridge.Order.Record

/-!
# Where an inspection asks whether its fee is paid

Starting an inspection, submitting its report and starting the clock of the inspector each
recompute whether the fee is paid, from the obligations and payments of the request.
-/

namespace MarketBridge

open Relational

/-! ## What the gates read -/

def isReceivedFee (requestId : Id) (p : Payment) : Bool :=
  p.inspectionRequestId = some requestId && p.type = .inspector && p.status = .paid

def isObligationOf (orderId requestId : Id) (b : PaymentObligation) : Bool :=
  b.orderId = orderId && b.inspectionRequestId = some requestId && b.type = .inspector

def inspectionFees (db : Db) (requestId : Id) (request : InspectionRequest) :
    List (Id × PaymentObligation) :=
  match request.orderId with
  | none => []
  | some orderId => db.obligations.findMany fun _ b => isObligationOf orderId requestId b

/-- `paymentComplete` of `POST /inspections/:id/start`. -/
def startIsPaid (db : Db) (requestId : Id) (request : InspectionRequest) : Bool :=
  let startPayments := db.payments.findMany fun _ p => isReceivedFee requestId p
  let startObligations := inspectionFees db requestId request
  if startObligations.isEmpty then
    startPayments.any fun e => e.2.amount = request.fee.getD 0
  else
    startObligations.all fun e => e.2.status = .paid

/-- `reportPaid` of `POST /inspections/:id/report`. -/
def reportIsPaid (db : Db) (requestId : Id) (request : InspectionRequest) : Bool :=
  let reportObligations := inspectionFees db requestId request
  if reportObligations.isEmpty then
    (db.payments.findFirst fun _ p => isReceivedFee requestId p).isSome
  else
    reportObligations.all fun e => e.2.status = .paid

/-! ## Routes -/

/-- The order is neither disputed nor cancelled, if there is one. -/
def assertOrderRuns (db : Db) (request : InspectionRequest) (consequence : String) :
    Except ApiError Unit :=
  match related db.orders request.orderId with
  | none => .ok ()
  | some order =>
      if order.status ∈ [OrderStatus.disputed, .cancelled] then
        .error (httpError 409
          ("This order is " ++ order.status.lowerText ++ ", so " ++ consequence))
      else
        .ok ()

/-- The checks of `POST /inspections/:id/start` that come before its transaction. -/
def assertMayStart (userId requestId : Id) (request : InspectionRequest) (db : Db) :
    Except ApiError Unit :=
  if request.inspectorId ≠ some userId then
    .error (httpError 403 "Only the assigned inspector can start this inspection")
  else if request.status ≠ .accepted then
    .error (httpError 400 ("Only an accepted inspection can be started. Current status: " ++
      request.status.text))
  else if request.sellerConfirmedAt = none then
    .error (httpError 409
      "The seller must confirm the selected inspector and agreed fee before work can start.")
  else if request.inspectorOnSiteConfirmedAt = none then
    .error (codedError 409 "INSPECTOR_ARRIVAL_NOT_CONFIRMED" ("The seller must confirm the " ++
      "inspector is on site and ready to start before work can begin."))
  else if startIsPaid db requestId request = false then
    .error (codedError 402 "INSPECTION_PAYMENT_REQUIRED"
      "The agreed inspection fee must be fully paid before the inspector can start.")
  else
    assertOrderRuns db request "the inspection cannot be started until that is resolved."

/-- The `where` of the transaction. -/
def mayStart (userId : Id) (request : InspectionRequest) : Bool :=
  request.inspectorId = some userId && request.status = .accepted &&
    request.sellerConfirmedAt.isSome && request.inspectorOnSiteConfirmedAt.isSome

/-- One database, with the clock of each inspector that has to start. -/
structure InspectionDesk where
  db : Db
  startDueAt : Id -> Option Nat

namespace InspectionDesk

def setRequest (s : InspectionDesk) (requestId : Id) (f : InspectionRequest -> InspectionRequest) :
    InspectionDesk :=
  { s with db := { s.db with inspectionRequests := s.db.inspectionRequests.update requestId f } }

def setClock (s : InspectionDesk) (requestId : Id) (due : Option Nat) : InspectionDesk :=
  { s with startDueAt := Function.update s.startDueAt requestId due }

/-- `POST /inspections/:id/start`. -/
def startInspection (env : Env) (userId requestId : Id) (s : InspectionDesk) :
    Except ApiError InspectionDesk :=
  match s.db.inspectionRequests.findUnique requestId with
  | none => .error (httpError 404 "Inspection request not found")
  | some request => do
      assertMayStart userId requestId request s.db
      assertOrderOpen request "the inspection cannot be started until that is resolved" s.db
      if mayStart userId request then
        let started := s.setRequest requestId ({ · with status := .inProgress })
        .ok { started with db :=
          if (related s.db.orders request.orderId).isSome then
            recordOrderEvent env request.orderId .inspectionStarted started.db
          else
            started.db }
      else
        .error (httpError 409 "This inspection was already started or its status changed")

/-! ## The clock of the inspector -/

def computeInspectionStartDueAt (env : Env) : Nat :=
  env.now + env.inspectionStartMs

/-- What `startPaidInspectionClocks` has read of a request before its transaction. -/
structure ClockRow where
  sellerConfirmedAt : Option Nat
  workflowDueAt : Option Nat
deriving DecidableEq, Repr

def clockFees (db : Db) (requestId orderId : Id) : List (Id × PaymentObligation) :=
  db.obligations.findMany fun _ b => isObligationOf orderId requestId b && b.status ≠ .cancelled

def clockIsPaid (db : Db) (requestId orderId : Id) : Bool :=
  !(clockFees db requestId orderId).isEmpty &&
    (clockFees db requestId orderId).all fun e => e.2.status = .paid

def awaitsStart (s : InspectionDesk) (requestId : Id) (request : InspectionRequest) : Bool :=
  request.status = .accepted && (s.startDueAt requestId).isNone

def backfill (requestId : Id) (due : Nat) (request : InspectionRequest) (s : InspectionDesk) :
    InspectionDesk :=
  if request.workflowDueAt.isNone then
    s.setRequest requestId ({ · with workflowDueAt := some due })
  else
    s

/-- The transaction of `startPaidInspectionClocks` for one row. -/
def startPaidInspectionClock (env : Env) (requestId : Id) (row : ClockRow)
    (s : InspectionDesk) : InspectionDesk :=
  match s.db.inspectionRequests.findUnique requestId with
  | none => s
  | some request =>
      match request.orderId with
      | none => s
      | some orderId =>
          if row.sellerConfirmedAt.isNone then
            if row.workflowDueAt.isNone && request.status = .accepted &&
                request.sellerConfirmedAt.isNone then
              backfill requestId (env.now + env.sellerConfirmationMs) request s
            else
              s
          else if (clockFees s.db requestId orderId).isEmpty then
            s
          else if clockIsPaid s.db requestId orderId then
            if s.awaitsStart requestId request then
              let started := (s.setRequest requestId
                ({ · with workflowDueAt := none })).setClock requestId
                  (some (computeInspectionStartDueAt env))
              { started with db :=
                recordOrderEvent env (some orderId) .inspectionPaymentComplete started.db }
            else
              s
          else if row.workflowDueAt.isNone && s.awaitsStart requestId request then
            backfill requestId (computeInspectionPaymentDueAt env) request s
          else
            s

/-- The rows that `startPaidInspectionClocks` reads. -/
def clockRows (s : InspectionDesk) : List (Id × ClockRow) :=
  ((s.db.inspectionRequests.findMany fun i request =>
    request.status = .accepted && (s.startDueAt i).isNone && request.orderId.isSome).take 200).map
      fun e => (e.1, { sellerConfirmedAt := e.2.sellerConfirmedAt
                       workflowDueAt := e.2.workflowDueAt })

/-- `startPaidInspectionClocks`. -/
def startPaidInspectionClocks (env : Env) (s : InspectionDesk) : InspectionDesk :=
  s.clockRows.foldl (fun s e => s.startPaidInspectionClock env e.1 e.2) s

end InspectionDesk

/-! ## Paid in full -/

def receivedFees (db : Db) (requestId : Id) : ℚ :=
  db.payments.sumOf fun _ p => if isReceivedFee requestId p then p.amount else 0

/-- The three gates say that the fee is paid exactly if what was received covers it. -/
structure GatesAgree (s : InspectionDesk) (requestId : Id) (request : InspectionRequest)
    (fee : ℚ) : Prop where
  start : startIsPaid s.db requestId request = true ↔
    request.totalFee fee ≤ receivedFees s.db requestId
  report : reportIsPaid s.db requestId request = true ↔
    request.totalFee fee ≤ receivedFees s.db requestId
  clock : forall env row, row.sellerConfirmedAt.isSome = true ->
    s.awaitsStart requestId request = true ->
      (((s.startPaidInspectionClock env requestId row).startDueAt requestId).isSome = true ↔
        request.totalFee fee ≤ receivedFees s.db requestId)
  running : (s.startDueAt requestId).isSome = true -> startIsPaid s.db requestId request = true

end MarketBridge
