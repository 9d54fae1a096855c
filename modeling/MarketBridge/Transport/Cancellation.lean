import MarketBridge.Dispute.Service
import MarketBridge.Payment.Obligation

/-!
# Cancellation of a transport job

The operations that set the status of a transport job to `CANCELLED`: the
status route, the expiry of the three transport deadlines, a dispute that cancels
the service, and the cancellation of the whole order.
-/

namespace MarketBridge

open Relational

/-! ## The status route -/

/-- The party that arranges the transport, or either one of a joint arrangement. -/
def isArranging (userId : Id) (order : Order) (job : TransportJob) : Bool :=
  match job.arrangingParty with
  | .seller => order.sellerId = userId
  | .buyer => order.buyerId = userId
  | .joint => order.buyerId = userId || order.sellerId = userId

/-- The statuses from which `validTransitions` allows a cancellation. -/
def TransportStatus.isCancellable (s : TransportStatus) : Bool :=
  s ∈ [TransportStatus.requested, .quoted, .accepted]

def hasTransportPayment (db : Db) (jobId : Id) (statuses : List PaymentStatus) : Bool :=
  db.payments.any fun _ p =>
    p.transportJobId = some jobId && p.type = .transport && p.status ∈ statuses

/-- The checks of `PATCH /transport/:id/status` on a cancellation. -/
def assertMayCancelTransport (isAdmin : Bool) (userId : Id) (order : Order) (jobId : Id)
    (job : TransportJob) (db : Db) : Except ApiError Unit :=
  if !isArranging userId order job && job.truckOwnerId ≠ some userId && !isAdmin then
    .error (httpError 403 "Not authorized to update this transport job")
  else if order.status = .disputed then
    .error
      { message := "This order is under dispute. Transport proceedings are paused until the " ++
          "dispute is resolved."
        status := some 409
        code := some "ORDER_DISPUTED" }
  else if !job.status.isCancellable then
    .error (httpError 400 ("Invalid status transition from " ++ job.status.text ++
      " to CANCELLED"))
  else if job.method = .hireTransporter ∧ isAdmin = false ∧
      hasTransportPayment db jobId [.pending, .processing] then
    .error
      { message := "A transport payment is still in flight. Wait for it to settle or fail, " ++
          "then try again."
        status := some 409
        code := some "TRANSPORT_PAYMENT_ACTIVE" }
  else
    .ok ()

/-- `releaseTruck`. -/
def releaseTruck (truckId : Option Id) (db : Db) : Db :=
  { db with
    trucks := db.trucks.updateMany
      (fun i truck => some i = truckId && truck.availability = .busy)
      ({ · with availability := .available }) }

def isWaitingQuote (db : Db) (jobId i : Id) (quote : TransportQuote) : Bool :=
  quote.transportJobId = jobId && quote.status = .pending &&
    !db.transportQuotes.any fun _ child => child.parentQuoteId = some i

/-- `releaseWaitingTransporters`. -/
def releaseWaitingTransporters (jobId : Id) (db : Db) : Db :=
  { db with
    transportQuotes := db.transportQuotes.updateMany (isWaitingQuote db jobId)
      ({ · with status := .withdrawn }) }

def isTransportPaymentOf (jobId : Id) (p : Payment) : Bool :=
  p.transportJobId = some jobId && p.type = .transport

/-- The job with the status `CANCELLED` and all else as it was. -/
def markTransportCancelled (jobId : Id) (db : Db) : Db :=
  { db with transportJobs := db.transportJobs.update jobId ({ · with status := .cancelled }) }

/-- The transaction of the route, and the release of the waiting bids after it. -/
def cancelTransportJob (env : Env) (jobId : Id) (job : TransportJob) : Tx := fun db => do
  let db := syncOrderPaymentObligations job.orderId (markTransportCancelled jobId db)
  let db := releaseTruck job.truckId
    (recordOrderEvent env (some job.orderId) .transportStatusChanged db)
  refundServicePayments (isTransportPaymentOf jobId) db
  .ok (releaseWaitingTransporters jobId db)

/-- `PATCH /transport/:id/status` with `CANCELLED`. -/
def cancelTransportByRoute (env : Env) (isAdmin : Bool) (userId jobId : Id) : Tx := fun db =>
  match db.transportJobs.findUnique jobId with
  | none => .error (httpError 404 "Transport job not found")
  | some job =>
      match db.orders.findUnique job.orderId with
      | none => .error { message := "Cannot read properties of null" }
      | some order => do
          assertMayCancelTransport isAdmin userId order jobId job db
          assertNotClosed order "transport cannot proceed until the order dispute is resolved"
          cancelTransportJob env jobId job db

/-! ## Deadlines -/

def isDue (now : Nat) (deadline : Option Nat) : Bool :=
  deadline.any fun dueAt => dueAt ≤ now

/-- Cancel the job, expire the quotes of the given statuses and free the truck. -/
def expireTransportJob (env : Env) (event : OrderEventType)
    (statuses : List TransportQuoteStatus) (write : TransportJob -> TransportJob) (jobId : Id)
    (job : TransportJob) (db : Db) : Db :=
  recordOrderEvent env (some job.orderId) event
    (releaseTruck job.truckId { db with
      transportJobs := db.transportJobs.update jobId write
      transportQuotes := db.transportQuotes.updateMany
        (fun _ quote => quote.transportJobId = jobId && quote.status ∈ statuses)
        ({ · with status := .expired }) })

def workflowIsDue (now : Nat) (job : TransportJob) : Bool :=
  job.status ∈ [TransportStatus.requested, .quoted] && isDue now job.workflowDueAt

def preparationIsDue (now : Nat) (job : TransportJob) : Bool :=
  job.status = .accepted && job.sellerPickupConfirmedAt.isNone &&
    isDue now job.sellerPreparationDueAt

def loadingIsDue (now : Nat) (jobId : Id) (job : TransportJob) (db : Db) : Bool :=
  job.status = .accepted && job.sellerPickupConfirmedAt.isSome &&
    job.buyerLoadingConfirmedAt.isNone && isDue now job.buyerLoadingDueAt &&
    !hasTransportPayment db jobId [.paid, .processing]

/-- One job of `expireTransportWorkflows`. -/
def expireTransportWorkflow (env : Env) (jobId : Id) (job : TransportJob) (db : Db) : Db :=
  if workflowIsDue env.now job then
    expireTransportJob env .transportWorkflowExpired [.pending, .selected, .countered]
      ({ · with status := .cancelled, workflowDueAt := none }) jobId job db
  else
    db

/-- One job of the preparation deadlines of `expireStep5Deadlines`. -/
def expireSellerPreparation (env : Env) (jobId : Id) (job : TransportJob) (db : Db) : Db :=
  if preparationIsDue env.now job then
    expireTransportJob env .sellerPreparationDeadlineExpired
      [.pending, .selected, .countered, .accepted]
      ({ · with status := .cancelled, sellerPreparationDueAt := none, buyerLoadingDueAt := none })
      jobId job db
  else
    db

/-- One job of the loading deadlines of `expireStep5Deadlines`. -/
def expireBuyerLoading (env : Env) (jobId : Id) (job : TransportJob) (db : Db) : Db :=
  if loadingIsDue env.now jobId job db then
    expireTransportJob env .buyerLoadingDeadlineExpired
      [.pending, .selected, .countered, .accepted]
      ({ · with status := .cancelled, sellerPreparationDueAt := none, buyerLoadingDueAt := none })
      jobId job db
  else
    db

/-! ## Paths -/

/-- The operations that cancel a transport job. -/
inductive TransportCancelPath where
  | route (isAdmin : Bool) (userId : Id)
  | disputeService (adminId disputeId : Id) (resolution : String)
  | preparationExpiry
  | loadingExpiry
  | workflowExpiry
  | orderCancellation (load : OrderLoad) (actorId : Option Id) (reason : Option String)
      (role : CancelledByRole)
deriving DecidableEq, Repr

def Env.asDeclared (env : Env) : Env :=
  { env with hasResolutionColumns := false }

namespace TransportCancelPath

/-- The operation on the job. -/
def exec (env : Env) (jobId : Id) (job : TransportJob) : TransportCancelPath -> Tx
  | route isAdmin userId => cancelTransportByRoute env isAdmin userId jobId
  | disputeService adminId disputeId resolution =>
      resolveDispute env.asDeclared adminId disputeId .cancelService resolution
  | preparationExpiry => fun db => .ok (expireSellerPreparation env jobId job db)
  | loadingExpiry => fun db => .ok (expireBuyerLoading env jobId job db)
  | workflowExpiry => fun db => .ok (expireTransportWorkflow env jobId job db)
  | orderCancellation load actorId reason role =>
      cancelLoadedOrder env load job.orderId actorId reason role

/-- The guards of the operation pass and it is about to cancel the job. -/
def Guard (env : Env) (jobId : Id) (job : TransportJob) (order : Order) (db : Db) :
    TransportCancelPath -> Prop
  | route isAdmin userId =>
      assertMayCancelTransport isAdmin userId order jobId job db = .ok () ∧
        order.status ∉ [OrderStatus.disputed, .cancelled]
  | disputeService _ disputeId _ =>
      exists dispute, db.disputes.findUnique disputeId = some dispute ∧
        dispute.status.isOpen = true ∧ dispute.orderId = job.orderId ∧
        order.status = .disputed ∧ affectedService db dispute = .transport ∧
        job.status ≠ .cancelled
  | preparationExpiry => preparationIsDue env.now job = true
  | loadingExpiry => loadingIsDue env.now jobId job db = true
  | workflowExpiry => workflowIsDue env.now job = true
  | orderCancellation load _ _ role =>
      job.status ∉ [TransportStatus.delivered, .cancelled] ∧
        canTransitionOrder order.status .cancelled = true ∧
        exists record, loadOrder load db job.orderId = some record ∧
          assertCancellable record role = .ok ()

end TransportCancelPath

end MarketBridge
