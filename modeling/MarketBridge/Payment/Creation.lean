import MarketBridge.Payment.Obligation
import MarketBridge.Payment.Settlement

/-!
# Creation of a payment

`createPayment`: a payment intent is created for the obligation of its order,
under the unique indexes of the `Payment` table.  Its callers pass ids of rows
that they have loaded.
-/

namespace MarketBridge

open Relational

/-- The `data` argument of `createPayment`. -/
structure CreatePaymentData where
  type : PaymentType
  amount : JsNumber
  currency : Option String := none
  method : Option String := none
  reference : Option String := none
  orderId : Option Id := none
  createdById : Option Id := none
  digitalProductId : Option Id := none
  advertisementId : Option Id := none
  inspectionRequestId : Option Id := none
  transportJobId : Option Id := none
  transportQuoteId : Option Id := none
  installmentCount : Option Nat := none
  idempotencyKey : Option String := none
  commissionRate : Option ℚ := none
deriving DecidableEq, Repr

/-! ## Commission -/

def commissionRateFor (rates : CommissionRates) : PaymentType -> ℚ
  | .marketplace => rates.marketplace
  | .transport => rates.transport
  | .inspector => rates.inspector
  | .advertising => rates.advertising
  | .digital => rates.digital
  | .marketplaceInstallment => 0

def commissionAmount (amount rate : ℚ) : ℚ :=
  roundMoney (amount * rate / 100)

namespace CreatePaymentData

def rate (env : Env) (data : CreatePaymentData) : ℚ :=
  data.commissionRate.getD (commissionRateFor env.commissionRates data.type)

/-- The row that `tx.payment.create` is given. -/
def row (env : Env) (data : CreatePaymentData) (amount : ℚ) (obligationId : Option Id) :
    Payment :=
  { orderId := data.orderId
    createdById := data.createdById
    digitalProductId := data.digitalProductId
    advertisementId := data.advertisementId
    inspectionRequestId := data.inspectionRequestId
    transportJobId := data.transportJobId
    transportQuoteId := data.transportQuoteId
    obligationId := obligationId
    installmentCount := data.installmentCount
    type := data.type
    amount := toDecimal amount
    currency := (jsOr data.currency (some "ETB")).getD "ETB"
    method := data.method
    status := .pending
    reference := data.reference
    commissionAmount := some (commissionAmount amount (data.rate env))
    netAmount := some (roundMoney (max 0 (amount - commissionAmount amount (data.rate env))))
    idempotencyKey := data.idempotencyKey
    commissionRate := some (data.rate env) }

end CreatePaymentData

/-! ## Gates -/

def quoteMatchesJob (amount : ℚ) (job : TransportJob) (quote : TransportQuote) : Bool :=
  job.truckOwnerId = some quote.truckOwnerId && job.truckId = some quote.truckId &&
    moneyEqual (job.agreedAmount.getD 0) (.finite quote.amount) &&
    moneyEqual amount (.finite quote.amount)

/-- The transport job may be paid under the quote that the payment is bound to. -/
def assertQuoteBound (amount : ℚ) (jobId : Id) (job : Option TransportJob)
    (quote : Option TransportQuote) : Except ApiError Unit :=
  match job.filter fun job => job.method = .hireTransporter with
  | none => .error (conflictError "Transport payment requires a hired-transporter job")
  | some job =>
      match quote.filter fun quote =>
          quote.transportJobId = jobId && quote.status = .accepted with
      | none =>
          .error (conflictError
            "The transport quote is no longer the accepted commercial quote")
      | some quote =>
          if job.status ≠ .accepted then
            .error
              { message := "The transport arrangement is no longer ready for payment"
                status := some 409
                code := some "TRANSPORT_NOT_READY_FOR_PAYMENT" }
          else if quoteMatchesJob amount job quote then
            .ok ()
          else
            .error (conflictError
              "Transport payment amount or assignment does not match the accepted quote")

/-- The invariant of a hired transport payment. -/
def assertTransportPayable (data : CreatePaymentData) (amount : ℚ) (db : Db) :
    Except ApiError Unit :=
  match data.type, data.transportJobId with
  | .transport, some jobId =>
      match data.transportQuoteId with
      | none =>
          .error (conflictError
            "Hired transport payment must be bound to the accepted transport quote")
      | some quoteId =>
          assertQuoteBound amount jobId (db.transportJobs.findUnique jobId)
            (db.transportQuotes.findUnique quoteId)
  | _, _ => .ok ()

/-- The invariant of an inspection payment. -/
def assertInspectionPayable (data : CreatePaymentData) (db : Db) : Except ApiError Unit :=
  match data.type, data.inspectionRequestId with
  | .inspector, some requestId =>
      match db.inspectionRequests.findUnique requestId with
      | none =>
          .error
            { message := "Inspection request not found"
              status := some 404 }
      | some inspection =>
          if inspection.sellerConfirmedAt = none then
            .error
              { message := "The seller must confirm the selected inspector and agreed fee " ++
                  "before inspection payment can begin"
                status := some 409
                code := some "INSPECTION_SELLER_CONFIRMATION_REQUIRED" }
          else if inspection.inspectorOnSiteConfirmedAt = none then
            .error
              { message := "The seller must confirm the inspector is on site and ready to " ++
                  "start before inspection payment can begin"
                status := some 409
                code := some "INSPECTOR_ARRIVAL_CONFIRMATION_REQUIRED" }
          else
            .ok ()
  | _, _ => .ok ()

/-! ## Obligation -/

/-- A payment may be created for an obligation that is not paid and has its amount. -/
def assertObligationPayable (amount : ℚ) (obligation : PaymentObligation) :
    Except ApiError Unit :=
  if obligation.status = .paid then
    .error (conflictError "This payment obligation is already paid")
  else if moneyEqual amount (.finite obligation.amount) then
    .ok ()
  else
    .error (conflictError "Payment amount does not match the payment obligation")

/-- Synchronise the obligations of the order and look up the one that is being paid. -/
def claimObligation (data : CreatePaymentData) (amount : ℚ) (db : Db) :
    Except ApiError (Db × Option Id) :=
  match data.orderId with
  | none => .ok (db, none)
  | some orderId =>
      let db := syncOrderPaymentObligations orderId db
      match findPaymentObligation db orderId data.type data.inspectionRequestId
          data.createdById with
      | none => .ok (db, none)
      | some (obligationId, obligation) => do
          assertObligationPayable amount obligation
          .ok (db, some obligationId)

/-! ## Unique indexes -/

/-- The unique indexes that a fresh payment can violate. -/
inductive PaymentIndex where
  | obligationId
  | transportJobActive
deriving DecidableEq, Repr

def holdsObligation (db : Db) (obligationId : Id) : Bool :=
  db.payments.any fun _ p => p.obligationId = some obligationId

def jobIsHeld (db : Db) (jobId : Id) : Bool :=
  db.payments.any fun _ p => p.holdsTransportJob jobId

/-- The index that refuses the row; the older index is checked first. -/
def violatedIndex (db : Db) (row : Payment) : Option PaymentIndex :=
  if row.obligationId.any fun o => holdsObligation db o then
    some .obligationId
  else if row.type = .transport ∧ row.transportJobId.any fun jobId => jobIsHeld db jobId then
    some .transportJobActive
  else
    none

/-- The handler of P2002, which runs after the transaction is rolled back. -/
def recoverConflict (data : CreatePaymentData) (index : PaymentIndex) (db : Db) :
    Except ApiError (Db × Id) :=
  match index, data.transportJobId with
  | .transportJobActive, some jobId =>
      match db.payments.findFirst fun _ p => p.holdsTransportJob jobId with
      | none => .error uniqueConstraintError
      | some (paymentId, existing) =>
          if data.transportQuoteId.isSome ∧
              existing.transportQuoteId = data.transportQuoteId then
            .ok (db, paymentId)
          else
            .error (conflictError
              "An active transport payment already exists for a different transporter quote")
  | _, _ => .error uniqueConstraintError

/-! ## The operation -/

def paymentOfKey (db : Db) (data : CreatePaymentData) : Option (Id × Payment) :=
  if truthy data.idempotencyKey then
    db.payments.findFirst fun _ p => p.idempotencyKey = data.idempotencyKey
  else
    none

/-- The transaction of `createPayment`, with the recovery of its unique violations. -/
def createIntent (env : Env) (data : CreatePaymentData) (amount : ℚ) (db : Db) :
    Except ApiError (Db × Id) := do
  assertTransportPayable data amount db
  assertInspectionPayable data db
  let claimed ← claimObligation data amount db
  let row := data.row env amount claimed.2
  match violatedIndex claimed.1 row with
  | none =>
      .ok ({ claimed.1 with payments := claimed.1.payments.create row },
        claimed.1.payments.size)
  | some index => recoverConflict data index db

/-- `createPayment`: the database and the payment it returns. -/
def createPayment (env : Env) (data : CreatePaymentData) (db : Db) :
    Except ApiError (Db × Id) :=
  match data.amount with
  | .notFinite =>
      .error
        { message := "Payment amount must be greater than zero"
          status := some 400 }
  | .finite amount =>
      if amount ≤ 0 then
        .error
          { message := "Payment amount must be greater than zero"
            status := some 400 }
      else
        match paymentOfKey db data with
        | some (paymentId, existing) =>
            if data.type = .transport ∧ data.transportQuoteId.isSome ∧
                existing.transportQuoteId ≠ data.transportQuoteId then
              .error (conflictError
                "This idempotency key is already bound to a different transport quote")
            else
              .ok (db, paymentId)
        | none => createIntent env data amount db

end MarketBridge
