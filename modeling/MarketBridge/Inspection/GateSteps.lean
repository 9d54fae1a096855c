import MarketBridge.Inspection.GateSync
import MarketBridge.Payment.AgreementRuns

/-!
# What writes the fee of an inspection

The operations that write inspection requests, fee obligations and payments, each as far as
these tables go.  An operation that synchronises at its end is followed by a synchronisation.
-/

namespace MarketBridge

open Relational

/-! ## Steps -/

inductive FeeStep where
  | syncOrderPaymentObligations (orderId : Id)
  /-- `PATCH /inspections/:id/quotes/:quoteId/accept`. -/
  | acceptQuote (requestId inspectorId : Id) (amount : ℚ)
  /-- `POST /inspections/:id/seller-confirm`, which synchronises in its transaction. -/
  | sellerConfirm (requestId : Id)
  /-- `applyArrivalConfirmed`. -/
  | confirmArrival (requestId : Id)
  | startPaidInspectionClock (requestId : Id) (row : InspectionDesk.ClockRow)
  | startInspection (userId requestId : Id)
  /-- The report is submitted, or the workflow has stalled. -/
  | moveInspection (requestId : Id) (status : InspectionStatus)
  /-- The agreement is released, and the clock of the inspector is reset or not. -/
  | release (requestId : Id) (keepsClock : Bool)
  | reopenAfterNoShow (requestId : Id)
  | lapse (requestId : Id)
  /-- `PATCH /inspections/:id/cancel`. -/
  | cancelInspection (requestId : Id)
  | cancelOrder (orderId : Id)
  | createPayment (data : CreatePaymentData)
  | settlePaymentCore (args : SettleArgs)
  /-- A checkout, a refund or a reconciliation moves a payment. -/
  | movePayment (paymentId : Id) (status : PaymentStatus)
  | createOrder (order : Order)
  | createInspection (orderId : Id) (mode : InspectionMode) (feePayer : InspectionFeePayer)
  | moveOrder (orderId : Id) (status : OrderStatus)
  /-- Something else writes the other tables. -/
  | elsewhere (other : Db)

namespace InspectionRequest

/-- The columns that `PATCH /inspections/:id/cancel` writes. -/
def withdrawn (request : InspectionRequest) : InspectionRequest :=
  { request with
    inspectorId := none
    fee := none
    feeTermsLockedAt := none
    lockedFee := none
    lockedFeePayer := none
    lockedBuyerFeeAmount := none
    lockedSellerFeeAmount := none
    status := .cancelled }

/-- The `where` of `seller-confirm`, and the fee that it asks for. -/
def isConfirmable (request : InspectionRequest) : Bool :=
  request.status = .accepted && request.inspectorId.isSome && request.sellerConfirmedAt.isNone &&
    request.inspectorOnSiteConfirmedAt.isNone && request.fee.any (0 < ·)

end InspectionRequest

namespace InspectionDesk

def closeFees (s : InspectionDesk) (requestId : Id) : InspectionDesk :=
  { s with db := retireObligations (isFeeRow requestId) s.db }

/-- Write a request that satisfies `p`. -/
def writeRequest (s : InspectionDesk) (requestId : Id) (p : InspectionRequest -> Bool)
    (f : InspectionRequest -> InspectionRequest) : InspectionDesk :=
  { s with db := { s.db with
      inspectionRequests := s.db.inspectionRequests.updateMany
        (fun i request => i == requestId && p request) f } }

/-- The request of the order that the seller may confirm. -/
def confirmable (s : InspectionDesk) (requestId : Id) : Option (Id × InspectionRequest) :=
  match s.db.inspectionRequests.findUnique requestId with
  | none => none
  | some request =>
      match request.orderId with
      | none => none
      | some orderId =>
          if request.isConfirmable && (s.db.orders.findUnique orderId).isSome then
            some (orderId, request)
          else
            none

def confirmed (env : Env) (requestId : Id) (s : InspectionDesk) : InspectionDesk :=
  (s.setRequest requestId (·.sellerConfirmed env)).setClock requestId none

def syncOrder (orderId : Id) (s : InspectionDesk) : InspectionDesk :=
  { s with db := syncOrderPaymentObligations orderId s.db }

def sellerConfirm (env : Env) (requestId : Id) (s : InspectionDesk) : InspectionDesk :=
  match s.confirmable requestId with
  | none => s
  | some (orderId, _) =>
      let synced := (s.confirmed env requestId).syncOrder orderId
      { synced with db := recordOrderEvent env (some orderId) .inspectionAccepted synced.db }

/-- What is open is cancelled with the order, and so are the inspections without a report. -/
def cancelOrder (orderId : Id) (s : InspectionDesk) : InspectionDesk :=
  { s with db := { retireObligations (fun b => b.orderId = orderId) s.db with
      inspectionRequests := s.db.inspectionRequests.updateMany
        (fun _ request => request.orderId = some orderId && request.status ≠ .cancelled &&
          request.status ≠ .completed)
        ({ · with status := .cancelled }) } }

end InspectionDesk

namespace FeeStep

def step (s : InspectionDesk) (a : Env × FeeStep) : InspectionDesk :=
  match a.2 with
  | syncOrderPaymentObligations orderId => s.syncOrder orderId
  | acceptQuote requestId inspectorId amount =>
      match s.db.inspectionRequests.findUnique requestId with
      | none => s
      | some request =>
          if request.isUnclaimed then
            (s.setRequest requestId (·.agreed a.1 inspectorId (toDecimal amount))).setClock
              requestId none
          else
            s
  | sellerConfirm requestId => s.sellerConfirm a.1 requestId
  | confirmArrival requestId =>
      s.writeRequest requestId (·.awaitingArrival) (·.onSite a.1)
  | startPaidInspectionClock requestId row => s.startPaidInspectionClock a.1 requestId row
  | startInspection userId requestId =>
      commit (s.startInspection a.1 userId requestId) s
  | moveInspection requestId status =>
      if status = .cancelled then s
      else s.writeRequest requestId (·.status ≠ .cancelled) ({ · with status := status })
  | release requestId keepsClock =>
      (s.setRequest requestId (·.unassigned)).setClock requestId
        (if keepsClock then s.startDueAt requestId else none)
  | reopenAfterNoShow requestId =>
      ((s.setRequest requestId (·.returned a.1)).setClock requestId none).closeFees requestId
  | lapse requestId =>
      ((s.setRequest requestId
        ({ · with status := .cancelled, workflowDueAt := none })).setClock requestId none).closeFees
          requestId
  | cancelInspection requestId => s.setRequest requestId (·.withdrawn)
  | cancelOrder orderId => s.cancelOrder orderId
  | createPayment data =>
      { s with db := AgreementStep.afterCall s.db (MarketBridge.createPayment a.1 data s.db) }
  | settlePaymentCore args =>
      { s with db := commit (MarketBridge.settlePaymentCore a.1 args s.db) s.db }
  | movePayment paymentId status =>
      if status = .paid then s
      else { s with db := { s.db with
        payments := s.db.payments.update paymentId (·.withStatus status) } }
  | createOrder order =>
      if order.buyerId = order.sellerId then s
      else { s with db := { s.db with orders := s.db.orders.create order } }
  | createInspection orderId mode feePayer =>
      if (s.db.orders.findUnique orderId).isSome then
        { s with db := { s.db with
          inspectionRequests := s.db.inspectionRequests.create
            { orderId := some orderId
              mode := mode
              feePayer := feePayer } } }
      else
        s
  | moveOrder orderId status =>
      { s with db := { s.db with
        orders := s.db.orders.update orderId ({ · with status := status }) } }
  | elsewhere other =>
      { s with db := { other with
        orders := s.db.orders
        inspectionRequests := s.db.inspectionRequests
        payments := s.db.payments
        obligations := s.db.obligations } }

/-! ## Conditions -/

def isConfirmedFee (db : Db) (requestId : Id) : Bool :=
  (db.inspectionRequests.findUnique requestId).any fun r =>
    r.status ≠ .cancelled && r.sellerConfirmedAt.isSome && r.inspectorId.isSome &&
      r.fee.any (0 < ·) && (related db.orders r.orderId).isSome

def paysConfirmedFee (db : Db) (p : Payment) : Bool :=
  p.type = .inspector && p.inspectionRequestId.any (isConfirmedFee db)

def receivesShare (db : Db) (p : Payment) : Bool :=
  (related db.obligations p.obligationId).any fun b =>
    b.status = .open && b.type = .inspector && b.inspectionRequestId = p.inspectionRequestId &&
      p.createdById = some b.payerId && p.amount = b.amount

/-- A payment of a confirmed fee is received for its share, and then stays received. -/
def settlesShare (args : SettleArgs) (db : Db) (p : Payment) : Bool :=
  if p.status = .paid then
    !settlesAway args db p && (related db.obligations p.obligationId).all fun b => b.status = .paid
  else
    !settlementWrites args db p ||
      match args.status with
      | .paid => receivesShare db p
      | .failed => (related db.obligations p.obligationId).all fun b => b.status ≠ .paid
      | .refunded => p.obligationId.isNone
      | _ => true

/-- Nothing that an earlier agreement has left differs from the shares of the new one. -/
def confirmsCleanly (env : Env) (requestId : Id) (s : InspectionDesk) : Bool :=
  match s.confirmable requestId with
  | none => true
  | some (orderId, request) =>
      match s.db.orders.findUnique orderId with
      | none => true
      | some order =>
          let shares := inspectionObligations orderId order requestId (request.sellerConfirmed env)
          !(s.db.obligations.any fun _ b =>
              isFeeRow requestId b && !hasKey b.obligationKey shares) &&
            !(s.db.payments.any fun _ p => isReceivedFee requestId p &&
              !(shares.any fun share =>
                p.createdById = some share.payerId && p.amount = share.amount)) &&
            !(s.db.payments.any fun i p => isReceivedFee requestId p &&
              s.db.payments.any fun j q =>
                j ≠ i && isReceivedFee requestId q && q.createdById = p.createdById) &&
            !overlooksFee (s.confirmed env requestId).db orderId

/-- The step neither leaves an old share behind nor takes a received one away. -/
def meets (s : InspectionDesk) (a : Env × FeeStep) : Bool :=
  match a.2 with
  | syncOrderPaymentObligations orderId => !overlooksFee s.db orderId
  | sellerConfirm requestId => confirmsCleanly a.1 requestId s
  | cancelOrder orderId =>
      !(s.db.obligations.any fun _ b => b.orderId = orderId && b.status = .open &&
        b.type = .inspector && b.inspectionRequestId.any fun requestId =>
          isConfirmedFee s.db requestId &&
            (s.db.inspectionRequests.findUnique requestId).any (·.status = .completed))
  | createPayment data =>
      !isAccepted a.1 data s.db || data.orderId.all fun orderId => !overlooksFee s.db orderId
  | settlePaymentCore args =>
      (s.db.payments.findUnique args.paymentId).all fun p =>
        !paysConfirmedFee s.db p || settlesShare args s.db p
  | movePayment paymentId _ =>
      (s.db.payments.findUnique paymentId).all fun p =>
        !(paysConfirmedFee s.db p && p.status = .paid)
  | _ => true

end FeeStep

end MarketBridge
