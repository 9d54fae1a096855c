import MarketBridge.Payment.Service

/-!
# Hosted checkouts, statement by statement

An initialization claims the payment, contacts the provider and stores the
reference of the checkout that the provider has opened.  The reports about a
checkout name its reference, and the payment is recovered from the text in front
of the first underscore.  Each statement is a step of its own.
-/

namespace MarketBridge

open Relational

/-! ## References -/

/-- `${payment.id}_${Date.now()}`. -/
def checkoutReference (paymentId : Id) (now : Nat) : String :=
  toString paymentId ++ "_" ++ toString now

def paymentOfReference (txRef : String) (db : Db) : Option (Id × Payment) :=
  db.payments.findFirst fun id _ => (toString id).toList = txRef.toList.takeWhile (· ≠ '_')

/-- `normalizeProvider`: the provider of the adapter of a payment method. -/
def adapterProvider (method : Option String) : String :=
  let method := upper (method.getD "")
  if method = "TELEBIRR".toList then "CHAPA_TELEBIRR"
  else if method = "CBE".toList then "CBE"
  else if method = "QR".toList then "CHAPA"
  else "OTHER"

def hasCheckout (p : Payment) : Bool :=
  adapterProvider p.method ∈ ["CHAPA_TELEBIRR", "CHAPA"]

/-! ## Initialization -/

/-- `CHAPA_MAX_TRANSACTION_AMOUNT`, unless it is configured. -/
def maxTransactionAmount : ℚ :=
  1000000

def gateError (message code : String) : ApiError :=
  { message := message
    status := some 409
    code := some code }

/-- The gate of an inspection fee. -/
def assertInspectionCheckout (db : Db) (p : Payment) : Except ApiError Unit :=
  match related db.inspectionRequests p.inspectionRequestId with
  | none => .ok ()
  | some inspection =>
      if p.type ≠ .inspector ∨ inspection.orderId = none then
        .ok ()
      else if inspection.sellerConfirmedAt = none then
        .error (gateError ("The seller must confirm the selected inspector and agreed " ++
          "inspection fee before inspection payment can begin.") "SELLER_CONFIRMATION_REQUIRED")
      else if inspection.status ≠ .accepted then
        .error (gateError "The inspection is not in an accepted state for payment."
          "INSPECTION_NOT_READY_FOR_PAYMENT")
      else
        .ok ()

def assertTransportCheckout (db : Db) (p : Payment) : Except ApiError Unit :=
  if p.type ≠ .transport ∨ p.transportJobId = none then
    .ok ()
  else if (related db.transportJobs p.transportJobId).any fun job => job.status = .accepted then
    .ok ()
  else
    .error (gateError "The transport arrangement is no longer ready for payment."
      "TRANSPORT_NOT_READY_FOR_PAYMENT")

/-- The loading of the goods has been approved, or for an own truck their pickup. -/
def isGoodsUnlocked (job : TransportJob) : Bool :=
  if job.method = .hireTransporter then job.buyerLoadingConfirmedAt.isSome
  else job.sellerPickupConfirmedAt.isSome

/-- The gate of a goods payment. -/
def assertGoodsCheckout (db : Db) (p : Payment) : Except ApiError Unit :=
  if p.type ≠ .marketplace then
    .ok ()
  else
    match p.orderId with
    | none => .ok ()
    | some orderId =>
        match db.transportJobs.findFirst fun _ job => job.orderId = orderId with
        | some (_, job) =>
            if isGoodsUnlocked job then
              .ok ()
            else
              .error (gateError ("The buyer must approve the loading-preparation report before " ++
                "goods payment can begin.") "LOADING_APPROVAL_REQUIRED")
        | none =>
            .error (gateError ("The buyer must approve the loading-preparation report before " ++
              "goods payment can begin.") "LOADING_APPROVAL_REQUIRED")

/-- The gates between the read of the payment and its claim. -/
def checkoutGates (db : Db) (p : Payment) : Except ApiError Unit := do
  assertInspectionCheckout db p
  assertTransportCheckout db p
  assertGoodsCheckout db p
  if p.isInstallmentParent then
    .error (gateError "This payment is paid in installments. Pay each installment separately."
      "PAYMENT_IS_INSTALLMENT_PLAN")
  else if maxTransactionAmount < p.amount then
    .error
      { message := "This amount is too large to pay online."
        status := some 400
        code := some "PAYMENT_AMOUNT_EXCEEDS_LIMIT" }
  else
    .ok ()

/-! ## Settlement with a record read before -/

/-- `settlePaymentCore` after its first read. -/
def settleLoaded (env : Env) (args : SettleArgs) (r : PaymentRecord) : Tx := fun db =>
  match mismatchReason r.row args with
  | some reason => flagMismatch env args r reason db
  | none => do
      match ← registerEvent args r db with
      | none => .ok db
      | some db => processNotification env args r db

theorem settleLoaded_paymentRecord {env : Env} {args : SettleArgs} {db : Db} {p : Payment}
    (hp : db.payments.findUnique args.paymentId = some p) :
    settleLoaded env args (paymentRecord db args.paymentId p) db =
      settlePaymentCore env args db := by
  unfold settleLoaded settlePaymentCore
  rw [hp]
  rfl

/-- The end of the first transaction, or the report that replaces it when the goods are gone. -/
def reconcileUnsettled (env : Env) (args : SettleArgs) (settled : Except ApiError Db) : Tx :=
  fun db =>
    match settled with
    | .ok db => .ok db
    | .error e =>
        if e.code = some "INSUFFICIENT_INVENTORY" ∧ args.status = .paid then
          match reconcileInventory env args db with
          | .ok db => .ok db
          | .error _ => .error e
        else
          .error e

def finishSettlement (env : Env) (args : SettleArgs) (r : PaymentRecord) : Tx := fun db => do
  let db ← reconcileUnsettled env args (settleLoaded env args r db) db
  match planOfInstallment db args.paymentId with
  | none => .ok (releaseBiddersAfter args.paymentId db)
  | some parentPaymentId =>
      .ok (releaseBiddersAfter parentPaymentId
        (commit (finalizeInstallmentPlan env parentPaymentId db) db))

/-! ## Reports -/

/-- The data of a verification, and those of the notice that led to it. -/
structure ProviderData where
  amount : Option JsNumber := none
  currency : Option String := none
  reference : Option String := none
  refId : Option String := none
  txRef : Option String := none
deriving DecidableEq, Repr

inductive HostedStatus where
  | pending
  | success
  | failed
deriving DecidableEq, Repr

inductive ReportSource where
  | callback
  | verify
  /-- `event_id`, `trx_ref` and `reference` of a signed notice that is about no refund. -/
  | webhook (eventId trxRef reference : Option String)
deriving DecidableEq, Repr

/-- A request that asks the provider about a reference, with the payment as it has read it. -/
structure CheckoutReport where
  source : ReportSource
  paymentId : Id
  loaded : Payment
  txRef : String
deriving DecidableEq, Repr

namespace CheckoutReport

def transactionId (data : ProviderData) (fallback : String) : Option String :=
  jsOr data.reference (jsOr data.refId (jsOr data.txRef (some fallback)))

def currency (report : CheckoutReport) (data : ProviderData) : Option String :=
  some (data.currency.getD report.loaded.currency)

def lastKnown (report : CheckoutReport) : String :=
  (jsOr report.loaded.providerTransactionId (some (toString report.paymentId))).getD ""

def eventId (report : CheckoutReport) (tag : String) (now : Nat) : Option String :=
  some ("chapa-" ++ tag ++ "-" ++ toString report.paymentId ++ "-" ++ toString now)

/-- The settlement of a confirmed checkout. -/
def confirmed (env : Env) (report : CheckoutReport) (data : ProviderData) : SettleArgs :=
  match report.source with
  | .callback =>
      { paymentId := report.paymentId
        status := .paid
        provider := some (adapterProvider report.loaded.method)
        providerTransactionId := transactionId data report.lastKnown
        eventId := report.eventId "callback" env.now
        amount := data.amount
        currency := report.currency data }
  | .verify =>
      { paymentId := report.paymentId
        status := .paid
        provider := some "chapa"
        providerTransactionId := transactionId data (toString report.paymentId)
        reference := report.loaded.reference
        eventId := report.eventId "verify" env.now
        amount := data.amount
        currency := report.currency data }
  | .webhook eventId trxRef reference =>
      { paymentId := report.paymentId
        status := .paid
        provider := some (adapterProvider report.loaded.method)
        providerTransactionId := transactionId data (toString report.paymentId)
        reference := jsOr data.reference (jsOr reference report.loaded.reference)
        eventId := jsOr eventId (jsOr trxRef (some report.txRef))
        amount := data.amount
        currency := report.currency data }

/-- The settlement of a failed checkout; the webhook leaves it alone. -/
def failed (env : Env) (report : CheckoutReport) (data : ProviderData) : Option SettleArgs :=
  match report.source with
  | .callback =>
      some
        { paymentId := report.paymentId
          status := .failed
          provider := some (adapterProvider report.loaded.method)
          providerTransactionId := transactionId data report.lastKnown
          eventId := report.eventId "callback-failed" env.now
          amount := data.amount
          currency := report.currency data }
  | .verify =>
      some
        { paymentId := report.paymentId
          status := .failed
          provider := some (adapterProvider report.loaded.method)
          providerTransactionId := transactionId data report.lastKnown
          reference := report.loaded.reference
          eventId := report.eventId "verify-failed" env.now
          amount := some (data.amount.getD (.finite report.loaded.amount))
          currency := report.currency data }
  | .webhook _ _ _ => none

def settlement (env : Env) (report : CheckoutReport) (data : ProviderData) :
    HostedStatus -> Option SettleArgs
  | .success => some (report.confirmed env data)
  | .failed => report.failed env data
  | .pending => none

end CheckoutReport

/-! ## Requests in flight -/

/-- What a request in flight does next. -/
inductive CheckoutTask where
  /-- The payment has been read, and the gates are next. -/
  | gates (paymentId : Id) (loaded : Payment)
  | claim (paymentId : Id) (txRef : String)
  /-- The provider is asked to open a checkout. -/
  | contact (paymentId : Id) (txRef : String)
  /-- The `catch` of the initialization. -/
  | giveUp (paymentId : Id)
  | store (paymentId : Id) (txRef : String)
  /-- The provider is asked about a reference. -/
  | ask (report : CheckoutReport)
  /-- The settlement about the reference opens. -/
  | load (txRef : String) (args : SettleArgs)
  | finish (txRef : String) (args : SettleArgs) (record : PaymentRecord)
  | done
deriving DecidableEq, Repr

/-- A claimed payment, which only the initialization that has claimed it writes back. -/
def CheckoutTask.claimed : CheckoutTask -> Option Id
  | contact paymentId _ => some paymentId
  | giveUp paymentId => some paymentId
  | store paymentId _ => some paymentId
  | _ => none

def Payment.storeCheckout (txRef : String) (p : Payment) : Payment :=
  { p with
    provider := some (adapterProvider p.method)
    chapaTxRef := some txRef
    providerTransactionId := some txRef }

/-- `updateMany` of one payment, conditional on its status. -/
def movePaymentStatus (paymentId : Id) (source target : PaymentStatus) (db : Db) : Db :=
  { db with
    payments := db.payments.updateMany (fun i p => i == paymentId && p.status = source)
      (·.withStatus target) }

def isPaymentIn (db : Db) (paymentId : Id) (status : PaymentStatus) : Bool :=
  (db.payments.findUnique paymentId).any fun p => p.status = status

/-- Execute the next statement of a request. -/
def CheckoutTask.next (env : Env) (db : Db) : CheckoutTask -> Db × CheckoutTask
  | gates paymentId loaded =>
      match checkoutGates db loaded with
      | .error _ => (db, .done)
      | .ok _ => (db, .claim paymentId (checkoutReference paymentId env.now))
  | claim paymentId txRef =>
      (movePaymentStatus paymentId .pending .processing db,
        if isPaymentIn db paymentId .pending then .contact paymentId txRef else .done)
  | contact paymentId txRef => (db, .contact paymentId txRef)
  | giveUp paymentId => (movePaymentStatus paymentId .processing .pending db, .done)
  | store paymentId txRef =>
      (commit (updatePayment paymentId (·.storeCheckout txRef) db) db, .done)
  | ask report => (db, .ask report)
  | load txRef args =>
      match db.payments.findUnique args.paymentId with
      | none => (db, .done)
      | some p => (db, .finish txRef args (paymentRecord db args.paymentId p))
  | finish _ args record => (commit (finishSettlement env args record db) db, .done)
  | done => (db, .done)

/-! ## Sessions -/

/-- The database, the requests in flight, and the checkouts that the provider has. -/
structure CheckoutSession where
  db : Db
  tasks : Table CheckoutTask := .empty
  checkouts : List (String × HostedStatus) := []
  /-- The references that initializations have stored. -/
  stored : List (Id × String) := []
  /-- The references with which confirmations have made a payment paid. -/
  confirmed : List (Id × String) := []
deriving DecidableEq, Repr

inductive CheckoutStep where
  | initializePayment (userId : Id) (isAdmin : Bool) (paymentId : Id)
  | callback (txRef : String)
  | verify (userId : Id) (isAdmin : Bool) (paymentId : Id)
  | webhook (txRef : String) (eventId trxRef reference : Option String)
  /-- The provider opens the checkout, and its answer arrives. -/
  | providerOpens (task : Id)
  /-- The provider opens the checkout, and its answer is lost. -/
  | providerLoses (task : Id)
  | providerRefuses (task : Id)
  /-- The customer pays an open checkout, or it fails. -/
  | checkoutEnds (txRef : String) (paid : Bool)
  /-- The provider answers a request about a reference that it has on file. -/
  | answer (task : Id) (data : ProviderData)
  /-- The next statement of a request. -/
  | advance (task : Id)
  /-- Something else writes the other tables. -/
  | elsewhere (other : Db)

namespace CheckoutSession

def statusOf (s : CheckoutSession) (txRef : String) : Option HostedStatus :=
  (s.checkouts.find? fun checkout => checkout.1 = txRef).map (·.2)

def start (s : CheckoutSession) (task : CheckoutTask) : CheckoutSession :=
  { s with tasks := s.tasks.create task }

def setTask (s : CheckoutSession) (k : Id) (task : CheckoutTask) : CheckoutSession :=
  { s with tasks := s.tasks.update k fun _ => task }

/-- The provider opens a checkout; it never takes a reference a second time. -/
def openCheckout (s : CheckoutSession) (txRef : String) : CheckoutSession :=
  { s with checkouts := s.checkouts ++ [(txRef, .pending)] }

def mayOpen (s : CheckoutSession) (paymentId : Id) (txRef : String) : Bool :=
  (s.statusOf txRef).isNone && (s.db.payments.findUnique paymentId).any hasCheckout

/-- The request asks the provider, unless the payment has been received already. -/
def report (s : CheckoutSession) (source : ReportSource) (txRef : String) (paymentId : Id)
    (p : Payment) : CheckoutSession :=
  if p.status = .paid then s
  else
    s.start (.ask
      { source := source
        paymentId := paymentId
        loaded := p
        txRef := txRef })

/-- The confirmations, once more when the statement has made the payment paid. -/
def logConfirmed (s : CheckoutSession) (task : CheckoutTask) (after : Db) : List (Id × String) :=
  match task with
  | .finish txRef args _ =>
      if args.status = .paid ∧ isPaymentIn s.db args.paymentId .paid = false ∧
          isPaymentIn after args.paymentId .paid = true then
        (args.paymentId, txRef) :: s.confirmed
      else
        s.confirmed
  | _ => s.confirmed

/-- The stored references, once more when the initialization has stored its own. -/
def logStored (s : CheckoutSession) (task : CheckoutTask) : List (Id × String) :=
  match task with
  | .store paymentId txRef =>
      if (updatePayment paymentId (·.storeCheckout txRef) s.db).isOk then
        (paymentId, txRef) :: s.stored
      else
        s.stored
  | _ => s.stored

def advance (env : Env) (k : Id) (s : CheckoutSession) : CheckoutSession :=
  match s.tasks.findUnique k with
  | none => s
  | some task =>
      let (db, task') := task.next env s.db
      { s with
        db := db
        tasks := s.tasks.update k fun _ => task'
        stored := s.logStored task
        confirmed := s.logConfirmed task db }

/-- The provider answers the request with the status of the checkout. -/
def answer (env : Env) (k : Id) (data : ProviderData) (s : CheckoutSession) : CheckoutSession :=
  match s.tasks.findUnique k with
  | some (.ask report) =>
      match s.statusOf report.txRef with
      | none => s.setTask k .done
      | some status =>
          match report.settlement env data status with
          | none => s.setTask k .done
          | some args => s.setTask k (.load report.txRef args)
  | _ => s

/-- `GET /:id/chapa/verify`, which finalizes a plan and asks about everything else. -/
def verify (env : Env) (userId : Id) (isAdmin : Bool) (paymentId : Id) (s : CheckoutSession) :
    CheckoutSession :=
  match s.db.payments.findUnique paymentId with
  | none => s
  | some p =>
      if p.createdById ≠ some userId ∧ isAdmin = false then
        s
      else if p.isInstallmentParent then
        { s with db := commit (finalizeInstallmentPlan env paymentId s.db) s.db }
      else
        s.report .verify ((jsOr p.providerTransactionId (some (toString paymentId))).getD "")
          paymentId p

def step (s : CheckoutSession) (a : Env × CheckoutStep) : CheckoutSession :=
  match a.2 with
  | .initializePayment userId isAdmin paymentId =>
      match s.db.payments.findUnique paymentId with
      | none => s
      | some p =>
          if (p.createdById ≠ some userId ∧ isAdmin = false) ∨ p.status ≠ .pending then s
          else s.start (.gates paymentId p)
  | .callback txRef =>
      match paymentOfReference txRef s.db with
      | none => s
      | some (paymentId, p) => s.report .callback txRef paymentId p
  | .verify userId isAdmin paymentId => s.verify a.1 userId isAdmin paymentId
  | .webhook txRef eventId trxRef reference =>
      match paymentOfReference txRef s.db with
      | none => s
      | some (paymentId, p) => s.report (.webhook eventId trxRef reference) txRef paymentId p
  | .providerOpens k =>
      match s.tasks.findUnique k with
      | some (.contact paymentId txRef) =>
          if s.mayOpen paymentId txRef then
            (s.openCheckout txRef).setTask k (.store paymentId txRef)
          else
            s
      | _ => s
  | .providerLoses k =>
      match s.tasks.findUnique k with
      | some (.contact paymentId txRef) =>
          if s.mayOpen paymentId txRef then
            (s.openCheckout txRef).setTask k (.giveUp paymentId)
          else
            s
      | _ => s
  | .providerRefuses k =>
      match s.tasks.findUnique k with
      | some (.contact paymentId _) => s.setTask k (.giveUp paymentId)
      | _ => s
  | .checkoutEnds txRef paid =>
      { s with
        checkouts := s.checkouts.map fun checkout =>
          if checkout = (txRef, .pending) then (txRef, if paid then .success else .failed)
          else checkout }
  | .answer k data => s.answer a.1 k data
  | .advance k => s.advance a.1 k
  | .elsewhere other => { s with db := { other with payments := s.db.payments } }

end CheckoutSession

end MarketBridge
