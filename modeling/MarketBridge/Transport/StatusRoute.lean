import MarketBridge.Order.PaymentWindow
import MarketBridge.Transport.CancellationLaw

/-!
# The status route of a transport job

`PATCH /transport/:id/status` checks a request against a row that it reads before
its transaction.  The transaction then writes the row by its id, with the columns of
the row that was read.
-/

namespace MarketBridge

open Relational

/-! ## Transitions -/

namespace TransportStatus

/-- `validTransitions`: the statuses a job may move to. -/
def validTransitions : TransportStatus -> List TransportStatus
  | .requested => [.accepted, .quoted, .cancelled]
  | .quoted => [.accepted, .cancelled]
  | .accepted => [.pickup, .cancelled]
  | .pickup => [.inTransit]
  | .inTransit => [.delivered]
  | .delivered => [.delivered]
  | .cancelled => []

/-- `next.replace('_', ' ').toLowerCase()`. -/
def spoken : TransportStatus -> String
  | .requested => "requested"
  | .accepted => "accepted"
  | .quoted => "quoted"
  | .pickup => "pickup"
  | .inTransit => "in transit"
  | .delivered => "delivered"
  | .cancelled => "cancelled"

end TransportStatus

/-! ## The request and its checks -/

def codedError (status : Nat) (code message : String) : ApiError :=
  { message := message
    status := some status
    code := some code }

structure StatusRequest where
  caller : Caller
  jobId : Id
  next : TransportStatus
  incidentNotes : Option String := none
deriving DecidableEq, Repr

def TransportJob.isTruckOwner (job : TransportJob) (userId : Id) : Bool :=
  job.truckOwnerId = some userId

def hasLoadingReport (db : Db) (jobId : Id) : Bool :=
  db.loadingReports.any fun _ report => report.transportJobId = jobId

def hasEvidence (db : Db) (jobId : Id) (types : List TransportEvidenceType) : Bool :=
  db.transportEvidence.any fun _ item => item.transportJobId = jobId && item.type ∈ types

/-- What must have happened before anyone but an admin records a pickup. -/
def assertLoaded (jobId : Id) (job : TransportJob) (db : Db) : Except ApiError Unit :=
  if job.sellerPickupConfirmedAt.isNone then
    .error (codedError 409 "SELLER_PICKUP_CONFIRMATION_REQUIRED"
      "The seller must confirm goods are prepared for loading.")
  else if job.truckArrivedAt.isNone then
    .error (codedError 409 "TRUCK_ARRIVAL_REQUIRED"
      "The truck must be on site before pickup can be recorded.")
  else if !hasLoadingReport db jobId then
    .error (codedError 409 "LOADING_REPORT_REQUIRED"
      "The transporter must submit the loading report before pickup.")
  else if job.buyerLoadingConfirmedAt.isNone then
    .error (codedError 409 "BUYER_LOADING_CONFIRMATION_REQUIRED"
      "The buyer must review and approve the loading report before pickup.")
  else if !hasPaid db job.orderId .marketplace then
    .error (codedError 409 "GOODS_PAYMENT_REQUIRED"
      "The buyer must pay for the goods before the truck can be marked as loaded.")
  else
    .ok ()

/-- The checks that come before the table of transitions. -/
def assertMayRequestStatus (r : StatusRequest) (order : Order) (job : TransportJob) (db : Db) :
    Except ApiError Unit :=
  if !isArranging r.caller.userId order job && !job.isTruckOwner r.caller.userId &&
      !r.caller.isAdmin then
    .error (httpError 403 "Not authorized to update this transport job")
  else do
    if r.next = .pickup ∧ r.caller.isAdmin = false then assertLoaded r.jobId job db else .ok ()
    if job.method = .hireTransporter ∧ r.next = .accepted then
      .error (codedError 409 "PAYMENT_BACKED_ACCEPTANCE_REQUIRED"
        ("Hired transport becomes committed only through the accepted quote and transport " ++
          "payment workflow."))
    else if order.status = .disputed then
      .error (codedError 409 "ORDER_DISPUTED"
        ("This order is under dispute. Transport proceedings are paused until the " ++
          "dispute is resolved."))
    else if r.next.isInMotion && !job.isTruckOwner r.caller.userId && !r.caller.isAdmin then
      .error (codedError 403 "TRANSPORTER_ACTION_REQUIRED"
        ("Only the assigned transporter can mark transport as " ++ r.next.spoken ++ "."))
    else
      .ok ()

def pickupWindowOver (now : Nat) (order : Order) (db : Db) : Bool :=
  (db.listings.findUnique order.listingId).any fun l =>
    l.category = .agricultural && isDue now l.pickupWindowEnd

/-- `getTransportPaymentGate(client, jobId).ready`. -/
def transportPaymentReady (job : TransportJob) (jobId : Id) (db : Db) : Bool :=
  job.method ≠ .hireTransporter || transportIsPaid db jobId

/-- The checks that come after the table of transitions. -/
def assertStatusFits (env : Env) (r : StatusRequest) (order : Order) (job : TransportJob)
    (db : Db) : Except ApiError Unit :=
  if r.next = .cancelled ∧ job.status ∈ [TransportStatus.pickup, .inTransit] ∧
      r.caller.isAdmin = false then
    .error (codedError 409 "TRANSPORT_MOVEMENT_STARTED"
      ("Transport cannot be cancelled after pickup has started. Open or resolve a dispute " ++
        "instead."))
  else if r.next = .cancelled ∧ job.method = .hireTransporter ∧ r.caller.isAdmin = false ∧
      hasTransportPayment db r.jobId [.pending, .processing] then
    .error (codedError 409 "TRANSPORT_PAYMENT_ACTIVE"
      ("A transport payment is still in flight. Wait for it to settle or fail, " ++
        "then try again."))
  else if r.next = .pickup ∧ pickupWindowOver env.now order db then
    .error (httpError 409 ("The agricultural pickup window has expired. Pickup cannot be " ++
      "confirmed until the listing window is updated."))
  else if r.next = .inTransit ∧ hasEvidence db r.jobId [.pickup, .loading] = false then
    .error (httpError 409 "Pickup evidence is required before transport can enter IN_TRANSIT")
  else if r.next = .delivered ∧ hasEvidence db r.jobId [.delivery] = false then
    .error (httpError 409
      "Delivery evidence is required before transport can be marked DELIVERED")
  else if r.next = .inTransit ∧ transportPaymentReady job r.jobId db = false then
    .error (codedError 409 "PAYMENTS_REQUIRED_BEFORE_TRANSIT"
      "Required payments must be completed before the truck can enter IN_TRANSIT.")
  else
    .ok ()

/-- A request whose checks have passed, with the row they were made on. -/
structure CheckedStatusRequest extends StatusRequest where
  job : TransportJob
  allowed : next ∈ job.status.validTransitions
deriving DecidableEq, Repr

/-- The reads and the checks of the route. -/
def checkStatusRequest (env : Env) (r : StatusRequest) (db : Db) :
    Except ApiError CheckedStatusRequest :=
  match db.transportJobs.findUnique r.jobId with
  | none => .error (httpError 404 "Transport job not found")
  | some job =>
      match db.orders.findUnique job.orderId with
      | none => .error { message := "Cannot read properties of null" }
      | some order => do
          assertMayRequestStatus r order job db
          if hallowed : r.next ∈ job.status.validTransitions then do
            assertStatusFits env r order job db
            .ok { r with job := job, allowed := hallowed }
          else
            .error (httpError 400 ("Invalid status transition from " ++ job.status.text ++
              " to " ++ r.next.text))

/-! ## The transaction -/

/-- `lockOrderAndAssertNotClosed`. -/
def lockOrderAndAssertNotClosed (orderId : Id) (actionLabel : String) (db : Db) :
    Except ApiError Unit :=
  match db.orders.findUnique orderId with
  | none => .ok ()
  | some order => assertNotClosed order actionLabel

namespace CheckedStatusRequest

def write (env : Env) (r : CheckedStatusRequest) (row : TransportJob) : TransportJob :=
  { row with
    status := r.next
    incidentNotes := jsOr r.incidentNotes r.job.incidentNotes
    pickupConfirmedAt := if r.next = .pickup then some env.now else r.job.pickupConfirmedAt
    deliveredConfirmedAt :=
      if r.next = .delivered then some env.now else r.job.deliveredConfirmedAt }

end CheckedStatusRequest

/-- The order follows its goods along one of the given paths, from where it is now. -/
def followGoods (orderId : Id) (path : OrderStatus -> List (OrderStatus × OrderStatus)) : Tx :=
  fun db =>
    match db.orders.findUnique orderId with
    | none => .ok db
    | some order =>
        (path order.status).foldlM (fun db leg => transitionOrderStatus orderId leg.1 leg.2 db) db

def departurePath : OrderStatus -> List (OrderStatus × OrderStatus)
  | .transportArranged => [(.transportArranged, .inTransit)]
  | .confirmed => [(.confirmed, .transportArranged), (.transportArranged, .inTransit)]
  | _ => []

def deliveryPath : OrderStatus -> List (OrderStatus × OrderStatus)
  | .transportArranged => [(.transportArranged, .delivered)]
  | .inTransit => [(.inTransit, .delivered)]
  | .confirmed => [(.confirmed, .transportArranged), (.transportArranged, .delivered)]
  | _ => []

/-- What a status change does beside the job: the order, the truck and the fee. -/
def finishStatusChange (r : CheckedStatusRequest) : Tx := fun db =>
  match r.next with
  | .inTransit => followGoods r.job.orderId departurePath db
  | .delivered => do
      let db ← followGoods r.job.orderId deliveryPath db
      .ok (releaseTruck r.job.truckId db)
  | .cancelled => do
      let db := releaseTruck r.job.truckId db
      refundServicePayments (isTransportPaymentOf r.jobId) db
      .ok db
  | _ => .ok db

/-- The update of the job; a row that is gone is a conflict. -/
def writeStatus (env : Env) (r : CheckedStatusRequest) : Tx := fun db =>
  match db.transportJobs.findUnique r.jobId with
  | none =>
      .error (codedError 409 "TRANSPORT_STATUS_CONFLICT"
        ("The transport status changed before this action completed. Refresh the order and " ++
          "try again."))
  | some _ =>
      .ok { db with transportJobs := db.transportJobs.update r.jobId (r.write env) }

def changeTransportStatus (env : Env) (r : CheckedStatusRequest) : Tx := fun db => do
  lockOrderAndAssertNotClosed r.job.orderId
    "transport cannot proceed until the order dispute is resolved" db
  let db ← writeStatus env r db
  finishStatusChange r (recordOrderEvent env (some r.job.orderId) .transportStatusChanged
    (syncOrderPaymentObligations r.job.orderId db))

def commitStatusRequest (env : Env) (r : CheckedStatusRequest) : Tx := fun db => do
  let db ← changeTransportStatus env r db
  .ok (if r.next ∈ [TransportStatus.delivered, .cancelled] then
    releaseWaitingTransporters r.jobId db
  else
    db)

/-- `PATCH /transport/:id/status` when nothing comes between its read and its transaction. -/
def changeStatusByRoute (env : Env) (r : StatusRequest) : Tx := fun db => do
  let checked ← checkStatusRequest env r db
  commitStatusRequest env checked db

/-! ## What the transaction writes -/

def IsPath : OrderStatus -> List (OrderStatus × OrderStatus) -> Prop
  | _, [] => True
  | s, (source, target) :: legs =>
      source = s ∧ canTransitionOrder source target = true ∧ IsPath target legs

theorem departurePath_isPath (s : OrderStatus) : IsPath s (departurePath s) := by
  cases s <;> simp [departurePath, IsPath, canTransitionOrder, OrderStatus.transitions]

theorem deliveryPath_isPath (s : OrderStatus) : IsPath s (deliveryPath s) := by
  cases s <;> simp [deliveryPath, IsPath, canTransitionOrder, OrderStatus.transitions]

theorem IsPath.follow {orderId : Id} {s : OrderStatus} {legs : List (OrderStatus × OrderStatus)}
    (h : IsPath s legs) {db : Db} {o : Order} (ho : db.orders.findUnique orderId = some o)
    (hs : o.status = s) :
    exists orders,
      legs.foldlM (fun db leg => transitionOrderStatus orderId leg.1 leg.2 db) db =
        .ok { db with orders := orders } := by
  induction legs generalizing s db o with
  | nil =>
      exact ⟨db.orders, rfl⟩
  | cons leg legs ih =>
      obtain ⟨source, target⟩ := leg
      obtain ⟨rfl, hallowed, hrest⟩ := h
      have hmove := transitionOrderStatus_eq_ok_iff.2 ⟨hallowed, ⟨o, ho, hs⟩, rfl⟩
      have hmoved : ({ db with
          orders := db.orders.update orderId ({ · with status := target }) } : Db).orders.findUnique
            orderId = some { o with status := target } := by
        simp only [Table.findUnique_update_self, ho, Option.map_some]
      obtain ⟨orders, hlegs⟩ := ih hrest hmoved rfl
      refine ⟨orders, ?_⟩
      rw [List.foldlM_cons, hmove, ok_bind, hlegs]

theorem followGoods_eq_ok {path : OrderStatus -> List (OrderStatus × OrderStatus)}
    (hpath : forall s, IsPath s (path s)) (orderId : Id) (db : Db) :
    exists orders, followGoods orderId path db = .ok { db with orders := orders } := by
  unfold followGoods
  cases horder : db.orders.findUnique orderId with
  | none =>
      exact ⟨db.orders, rfl⟩
  | some order =>
      exact (hpath order.status).follow horder rfl

section Writes

variable {env : Env} {r : CheckedStatusRequest} {db db' : Db}

theorem finishStatusChange_eq_ok
    (h : r.next = .cancelled ->
      refundServicePayments (isTransportPaymentOf r.jobId) db = .ok ()) :
    exists orders trucks, finishStatusChange r db = .ok { db with
      orders := orders
      trucks := trucks } := by
  unfold finishStatusChange
  cases hnext : r.next with
  | inTransit =>
      obtain ⟨orders, hfollow⟩ := followGoods_eq_ok departurePath_isPath r.job.orderId db
      exact ⟨orders, db.trucks, hfollow⟩
  | delivered =>
      obtain ⟨orders, hfollow⟩ := followGoods_eq_ok deliveryPath_isPath r.job.orderId db
      simp only [hfollow, ok_bind]
      exact ⟨orders, _, rfl⟩
  | cancelled =>
      have hrefunds : refundServicePayments (isTransportPaymentOf r.jobId)
          (releaseTruck r.job.truckId db) = .ok () := h hnext
      simp only [hrefunds, ok_bind]
      exact ⟨db.orders, _, rfl⟩
  | _ =>
      exact ⟨db.orders, db.trucks, rfl⟩

theorem finishStatusChange_error (hnext : r.next = .cancelled)
    (h : refundServicePayments (isTransportPaymentOf r.jobId) db ≠ .ok ()) :
    exists e, finishStatusChange r db = .error e := by
  unfold finishStatusChange
  rw [hnext]
  have hsame : refundServicePayments (isTransportPaymentOf r.jobId)
      (releaseTruck r.job.truckId db) =
        refundServicePayments (isTransportPaymentOf r.jobId) db := rfl
  simp only [hsame]
  cases hrefunds : refundServicePayments (isTransportPaymentOf r.jobId) db with
  | ok u =>
      exact absurd hrefunds h
  | error e =>
      exact ⟨e, rfl⟩

/-- The transaction commits: the order is open, the job is there and no received fee is cancelled. -/
def CheckedStatusRequest.commits (r : CheckedStatusRequest) (db : Db) : Bool :=
  ((db.orders.findUnique r.job.orderId).all fun order =>
      order.status ∉ [OrderStatus.disputed, .cancelled]) &&
    (db.transportJobs.findUnique r.jobId).isSome &&
    !(r.next = .cancelled && hasTransportPayment db r.jobId [.paid])

theorem lockOrderAndAssertNotClosed_eq_ok_iff {orderId : Id} {label : String} :
    lockOrderAndAssertNotClosed orderId label db = .ok () ↔
      (db.orders.findUnique orderId).all (fun order =>
        order.status ∉ [OrderStatus.disputed, .cancelled]) = true := by
  unfold lockOrderAndAssertNotClosed assertNotClosed
  cases db.orders.findUnique orderId with
  | none =>
      simp
  | some order =>
      simp only [Option.all_some, decide_eq_true_eq]
      split
      · next h => simp [h]
      · next h => simp [h]

theorem refundServicePayments_fee_iff (db : Db) (jobId : Id) :
    refundServicePayments (isTransportPaymentOf jobId) db = .ok () ↔
      hasTransportPayment db jobId [.paid] = false := by
  have hsame : hasTransportPayment db jobId [.paid] =
      db.payments.any fun _ p => isTransportPaymentOf jobId p && p.status = .paid := by
    unfold hasTransportPayment isTransportPaymentOf
    simp only [List.mem_singleton]
  rw [hsame]
  unfold refundServicePayments
  split
  · next hany => simp [hany]
  · next hany => simp [hany]

def CheckedStatusRequest.written (env : Env) (r : CheckedStatusRequest) (db : Db) : Db :=
  recordOrderEvent env (some r.job.orderId) .transportStatusChanged
    (syncOrderPaymentObligations r.job.orderId { db with
      transportJobs := db.transportJobs.update r.jobId (r.write env) })

theorem written_frame (env : Env) (r : CheckedStatusRequest) (db : Db) :
    exists payments obligations events, r.written env db = { db with
      transportJobs := db.transportJobs.update r.jobId (r.write env)
      payments := payments
      obligations := obligations
      orderEvents := events } := by
  obtain ⟨payments, obligations, hframe⟩ := (syncOrderPaymentObligations_linksOnly r.job.orderId
    { db with transportJobs := db.transportJobs.update r.jobId (r.write env) }).frame
  obtain ⟨events, hevents⟩ := recordOrderEvent_frame env (some r.job.orderId)
    .transportStatusChanged (syncOrderPaymentObligations r.job.orderId { db with
      transportJobs := db.transportJobs.update r.jobId (r.write env) })
  refine ⟨payments, obligations, events, ?_⟩
  rw [CheckedStatusRequest.written, hevents, hframe]

theorem written_refunds_iff (env : Env) (r : CheckedStatusRequest) (db : Db) :
    refundServicePayments (isTransportPaymentOf r.jobId) (r.written env db) = .ok () ↔
      hasTransportPayment db r.jobId [.paid] = false := by
  have hlinks := syncOrderPaymentObligations_linksOnly r.job.orderId { db with
    transportJobs := db.transportJobs.update r.jobId (r.write env) }
  obtain ⟨events, hevents⟩ := recordOrderEvent_frame env (some r.job.orderId)
    .transportStatusChanged (syncOrderPaymentObligations r.job.orderId { db with
      transportJobs := db.transportJobs.update r.jobId (r.write env) })
  rw [← refundServicePayments_fee_iff, CheckedStatusRequest.written, hevents]
  exact (hlinks.refundServicePayments_iff r.jobId).trans
    ((LinksOnly.refl db).refundServicePayments_iff r.jobId).symm

theorem changeTransportStatus_eq
    (hopen : (db.orders.findUnique r.job.orderId).all (fun order =>
      order.status ∉ [OrderStatus.disputed, .cancelled]) = true)
    (hrow : (db.transportJobs.findUnique r.jobId).isSome = true) :
    changeTransportStatus env r db = finishStatusChange r (r.written env db) := by
  obtain ⟨row, hrow⟩ := Option.isSome_iff_exists.1 hrow
  have hwrite : writeStatus env r db = .ok { db with
      transportJobs := db.transportJobs.update r.jobId (r.write env) } := by
    simp only [writeStatus, hrow]
  unfold changeTransportStatus
  rw [lockOrderAndAssertNotClosed_eq_ok_iff.2 hopen, ok_bind, hwrite, ok_bind]
  rfl

theorem commits_eq_true_iff :
    r.commits db = true ↔
      (db.orders.findUnique r.job.orderId).all (fun order =>
        order.status ∉ [OrderStatus.disputed, .cancelled]) = true ∧
      (db.transportJobs.findUnique r.jobId).isSome = true ∧
      (r.next = .cancelled -> hasTransportPayment db r.jobId [.paid] = false) := by
  unfold CheckedStatusRequest.commits
  simp only [Bool.and_eq_true, Bool.not_eq_true', Bool.and_eq_false_imp, decide_eq_true_eq,
    and_assoc]

theorem commitStatusRequest_eq_ok (env : Env) (h : r.commits db = true) :
    exists db', commitStatusRequest env r db = .ok db' ∧
      db'.transportJobs = db.transportJobs.update r.jobId (r.write env) := by
  obtain ⟨hopen, hrow, hfee⟩ := commits_eq_true_iff.1 h
  obtain ⟨orders, trucks, hfinish⟩ := finishStatusChange_eq_ok
    fun hcancelled => (written_refunds_iff env r db).2 (hfee hcancelled)
  obtain ⟨payments, obligations, events, hframe⟩ := written_frame env r db
  unfold commitStatusRequest
  rw [changeTransportStatus_eq hopen hrow, hfinish, ok_bind, hframe]
  refine ⟨_, rfl, ?_⟩
  split <;> rfl

theorem commitStatusRequest_error (env : Env) (h : r.commits db = false) :
    exists e, commitStatusRequest env r db = .error e := by
  unfold commitStatusRequest
  cases hresult : changeTransportStatus env r db with
  | error e =>
      exact ⟨e, rfl⟩
  | ok db' =>
      exfalso
      have hsteps := hresult
      unfold changeTransportStatus at hsteps
      obtain ⟨_, hlock, hsteps⟩ := bind_eq_ok.1 hsteps
      obtain ⟨_, hwrite, -⟩ := bind_eq_ok.1 hsteps
      have hopen := lockOrderAndAssertNotClosed_eq_ok_iff.1 hlock
      have hrow : (db.transportJobs.findUnique r.jobId).isSome = true := by
        unfold writeStatus at hwrite
        cases hfind : db.transportJobs.findUnique r.jobId with
        | none =>
            simp only [hfind] at hwrite
            cases hwrite
        | some row =>
            rfl
      have hfee : ¬ (r.next = .cancelled -> hasTransportPayment db r.jobId [.paid] = false) := by
        intro hfee
        rw [commits_eq_true_iff.2 ⟨hopen, hrow, hfee⟩] at h
        cases h
      obtain ⟨hcancelled, hpaid⟩ := Classical.not_imp.1 hfee
      obtain ⟨e, hfinish⟩ := finishStatusChange_error hcancelled
        (mt (written_refunds_iff env r db).1 hpaid)
      rw [changeTransportStatus_eq hopen hrow, hfinish] at hresult
      cases hresult

end Writes

end MarketBridge
