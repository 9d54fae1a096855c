import MarketBridge.Order.StateMachine
import MarketBridge.Payment.Records

/-!
# Refund service

The operations of `paymentRefundService.js`.  `requestRefund` runs inside the
transaction of its caller.  The other operations consist of several statements
and provider calls outside a transaction, so their writes stay when a later
statement throws.
-/

namespace MarketBridge

open Relational

/-- A service call outside a transaction: the database it leaves and its result. -/
abbrev Call (α : Type) := Db -> Db × Except ApiError α

namespace PaymentRefundStatus

def text : PaymentRefundStatus -> String
  | .requested => "REQUESTED"
  | .processing => "PROCESSING"
  | .completed => "COMPLETED"
  | .failed => "FAILED"
  | .cancelled => "CANCELLED"

def isOpen (s : PaymentRefundStatus) : Bool :=
  s ∈ [PaymentRefundStatus.requested, .processing]

end PaymentRefundStatus

/-- `providerForPayment`: the live refund adapter of a payment. -/
def providerForPayment (payment : Payment) : Option String :=
  let provider := upper (payment.provider.getD "")
  let method := upper (payment.method.getD "")
  if provider = "CHAPA".toList then some "CHAPA"
  else if provider = "CHAPA_TELEBIRR".toList then some "CHAPA_TELEBIRR"
  else if method = "QR".toList then some "CHAPA"
  else if method = "TELEBIRR".toList then some "CHAPA_TELEBIRR"
  else none

/-! ## Rows of a refund -/

namespace PaymentRefund

def submit (provider : String) (r : PaymentRefund) : PaymentRefund :=
  { r with
    status := .processing
    provider := some provider
    failureReason := none }

def accept (provider refId : String) (r : PaymentRefund) : PaymentRefund :=
  { r with
    provider := some provider
    providerRefundId := some refId
    failureReason := none }

def uncertain (e : ApiError) (r : PaymentRefund) : PaymentRefund :=
  { r with failureReason := some ("Provider response uncertain: " ++ e.message) }

def stillProcessing (r : PaymentRefund) : PaymentRefund :=
  { r with
    status := .processing
    failureReason := none }

def complete (now : Nat) (r : PaymentRefund) : PaymentRefund :=
  { r with
    status := .completed
    completedAt := some now
    failureReason := none }

def fail (failureReason : Option String) (r : PaymentRefund) : PaymentRefund :=
  { r with
    status := .failed
    failureReason := jsOr failureReason (some "Provider refund failed") }

/-- Two refunds with the same provider reference, both columns being present. -/
def sameProviderRefund (r q : PaymentRefund) : Bool :=
  r.provider.isSome && r.providerRefundId.isSome &&
    r.provider = q.provider && r.providerRefundId = q.providerRefundId

end PaymentRefund

/-! ## Conditional writes -/

/-- `payment.updateMany` of one row, conditional on its status, and its count. -/
def movePayment (id : Id) (source target : PaymentStatus) (db : Db) :
    Except ApiError (Db × Bool) :=
  match db.payments.findUnique id with
  | none => .ok (db, false)
  | some p =>
      if p.status = source then do
        let db ← updatePayment id (·.withStatus target) db
        .ok (db, true)
      else
        .ok (db, false)

/-- `paymentRefund.updateMany` of one row, conditional on its status, and its count. -/
def moveRefund (id : Id) (guard : PaymentRefundStatus -> Bool)
    (f : PaymentRefund -> PaymentRefund) (db : Db) : Except ApiError (Db × Bool) :=
  match db.refunds.findUnique id with
  | none => .ok (db, false)
  | some r =>
      if guard r.status then
        if db.refunds.any fun j q => j ≠ id && (f r).sameProviderRefund q then
          .error uniqueConstraintError
        else
          .ok ({ db with refunds := db.refunds.update id f }, true)
      else
        .ok (db, false)

def newestRefund (db : Db) (paymentId : Id) (statuses : List PaymentRefundStatus) :
    Option (Id × PaymentRefund) :=
  (db.refunds.findMany fun _ r => r.paymentId = paymentId && r.status ∈ statuses).getLast?

/-! ## Requesting -/

def fullRefundAmount (payment : Payment) (amount : Option JsNumber) : Option ℚ :=
  match amount.getD (.finite payment.amount) with
  | .notFinite => none
  | .finite q => if 0 < q ∧ |q - payment.amount| < 1 / 100 then some q else none

/-- A `REFUND_PENDING` payment without a live refund goes back to `PAID` first. -/
def resetForRetry (paymentId : Id) (payment : Payment) : Tx := fun db =>
  if payment.status = .refundPending then
    match newestRefund db paymentId [.failed] with
    | none =>
        .error
          { message := "Refund is already in progress"
            status := some 409 }
    | some _ => do
        let (db, reset) ← movePayment paymentId .refundPending .paid db
        if reset then
          .ok db
        else
          .error
            { message := "Payment status changed before refund retry"
              status := some 409 }
  else
    .ok db

def newRefund (paymentId : Id) (payment : Payment) (refundAmount : ℚ)
    (reason : Option String) (requestedById : Option Id) : PaymentRefund :=
  { paymentId := paymentId
    amount := toDecimal refundAmount
    currency := payment.currency
    reason := jsOr reason none
    requestedById := requestedById }

def requestRefund (env : Env) (paymentId : Id) (amount : Option JsNumber)
    (reason : Option String) (requestedById : Option Id) (db : Db) :
    Except ApiError (Db × Id) :=
  match db.payments.findUnique paymentId with
  | none =>
      .error
        { message := "Payment not found"
          status := some 404 }
  | some payment =>
      if payment.status ∈ [PaymentStatus.paid, .refundPending] then
        match fullRefundAmount payment amount with
        | none =>
            .error
              { message := "Only full refunds are currently supported"
                status := some 400 }
        | some refundAmount =>
            match newestRefund db paymentId [.requested, .processing, .completed] with
            | some existing => .ok (db, existing.1)
            | none => do
                let db ← resetForRetry paymentId payment db
                assertTransition .paid .refundPending
                let (db, claimed) ← movePayment paymentId .paid .refundPending db
                if claimed then
                  let refund := newRefund paymentId payment refundAmount reason requestedById
                  .ok (recordOrderEvent env payment.orderId .paymentRefundRequested
                    { db with refunds := db.refunds.create refund }, db.refunds.size)
                else
                  match newestRefund db paymentId [.requested, .processing, .completed] with
                  | some nowExisting => .ok (db, nowExisting.1)
                  | none =>
                      .error
                        { message :=
                            "Payment status changed before the refund could be requested"
                          status := some 409 }
      else
        .error
          { message := "Only PAID or retryable REFUND_PENDING payments can be refunded"
            status := some 409 }

/-! ## Finalizing -/

/-- An inspector fee whose inspection has stalled is refunded on a live order too. -/
def isStalledInspectionRefund (db : Db) (payment : Payment) : Bool :=
  payment.type = .inspector &&
    (related db.inspectionRequests payment.inspectionRequestId).any fun request =>
      request.status = .stalled

/-- An order that still runs blocks the refunds of its payments. -/
def assertOrderCancelled (action : String) (payment : Payment) (db : Db) :
    Except ApiError Unit :=
  match related db.orders payment.orderId with
  | none => .ok ()
  | some order =>
      if order.status ≠ .cancelled ∧ isStalledInspectionRefund db payment = false then
        .error
          { message := "Order is " ++ order.status.text ++ "; refund " ++ action ++
              " is blocked until the order is cancelled"
            status := some 409
            code := some "REFUND_BLOCKED_ORDER_ACTIVE" }
      else
        .ok ()

/-- `isInstallmentParent`. -/
def Payment.isInstallmentParent (p : Payment) : Bool :=
  p.installmentCount.isSome

/-- The parent is refunded with the last of the installments still held. -/
def markParentRefundedIfComplete (parentPaymentId : Id) : Tx := fun db =>
  match db.payments.findUnique parentPaymentId with
  | none => .ok db
  | some parent =>
      let stillHeld := db.payments.any fun _ child =>
        child.parentPaymentId = some parentPaymentId &&
          child.status ∈ [PaymentStatus.paid, .refundPending, .processing]
      if parent.isInstallmentParent && parent.status = .refundPending && !stillHeld then do
        let db ← updatePayment parentPaymentId (·.withStatus .refunded) db
        match parent.obligationId with
        | none => .ok db
        | some o =>
            .ok { db with obligations := db.obligations.update o ({ · with status := .cancelled }) }
      else
        .ok db

def markParentOfInstallment (payment : Payment) : Tx := fun db =>
  match payment.parentPaymentId with
  | none => .ok db
  | some parent => markParentRefundedIfComplete parent db

/-- The transaction of `finalizeRefund`. -/
def completeRefund (env : Env) (refundId : Id) : Tx := fun db =>
  match db.refunds.findUnique refundId with
  | none =>
      .error
        { message := "Refund request not found"
          status := some 404 }
  | some fresh =>
      if fresh.status = .completed then
        .ok db
      else if !fresh.status.isOpen then
        .error
          { message := "Refund is " ++ fresh.status.text ++ " and cannot be completed"
            status := some 409 }
      else
        match db.payments.findUnique fresh.paymentId with
        | none => .error { message := "Cannot read properties of null" }
        | some payment => do
            assertOrderCancelled "completion" payment db
            assertTransition payment.status .refunded
            let (db, claimed) ← moveRefund refundId PaymentRefundStatus.isOpen
              (·.complete env.now) db
            if claimed then
              let db ← updatePayment fresh.paymentId (·.withStatus .refunded) db
              let db ← markParentOfInstallment payment db
              .ok (recordOrderEvent env payment.orderId .paymentRefunded db)
            else
              .ok db

def finalizeRefund (env : Env) (refundId : Id) (providerStatus : Option String)
    (db : Db) : Except ApiError Db :=
  match db.refunds.findUnique refundId with
  | none =>
      .error
        { message := "Refund request not found"
          status := some 404 }
  | some refund =>
      if refund.status = .completed then
        .ok db
      else if providerStatus ≠ some "refunded" then
        .error
          { message := "Refund is not complete at Chapa (status: " ++
              (jsOr providerStatus (some "unknown")).getD "unknown" ++ ")"
            status := some 409 }
      else
        completeRefund env refundId db

/-! ## Failing -/

/-- The checks of `failRefund` on the refund it has read. -/
def assertCanFail (allowProcessing : Bool) (refund : PaymentRefund) : Except ApiError Unit :=
  if refund.status = .completed then
    .error
      { message := "Completed refund cannot be failed"
        status := some 409 }
  else if refund.status = .processing ∧ allowProcessing = false then
    .error
      { message := "A refund submitted to Chapa cannot be manually failed. " ++
          "Verify the provider status instead."
        status := some 409
        code := some "REFUND_PROCESSING_PROVIDER_CONTROLLED" }
  else
    .ok ()

def failRefund (env : Env) (refundId : Id) (failureReason : Option String)
    (allowProcessing : Bool) : Call Unit := fun db =>
  match db.refunds.findUnique refundId with
  | none =>
      (db, .error
        { message := "Refund request not found"
          status := some 404 })
  | some refund =>
      match assertCanFail allowProcessing refund with
      | .error e => (db, .error e)
      | .ok _ =>
          -- The refund is failed for good, whatever becomes of the payment.
          let failed : Db :=
            { db with refunds := db.refunds.update refundId (·.fail failureReason) }
          match movePayment refund.paymentId .refundPending .paid failed with
          | .error e => (failed, .error e)
          | .ok (db, _) =>
              (recordOrderEvent env (paymentOrderId db refund.paymentId)
                .paymentRefundFailed db, .ok ())

/-! ## Verification with the provider -/

/-- The answers of the provider about a refund. -/
inductive RefundVerification where
  | refunded
  | reversed
  | processing
  | pending
deriving DecidableEq, Repr

/-- `verifyRefund`: the provider's own status text, in lower case, normalised. -/
def RefundVerification.ofText (status : String) : RefundVerification :=
  if status = "refunded" then .refunded
  else if status ∈ ["reversed", "failed", "cancelled", "canceled"] then .reversed
  else if status ∈ ["initiated", "processing"] then .processing
  else .pending

/-- `verifyAndFinalizeRefund`, the provider answering `answer`. -/
def verifyAndFinalizeRefund (env : Env) (refundId : Id) (answer : Except ApiError String) :
    Call Unit := fun db =>
  match db.refunds.findUnique refundId with
  | none =>
      (db, .error
        { message := "Refund request not found"
          status := some 404 })
  | some refund =>
      if refund.status = .completed then
        (db, .ok ())
      else if !truthy refund.providerRefundId then
        (db, .error
          { message := "Chapa refund reference is not available yet. " ++
              "The refund request may still be awaiting a provider response."
            status := some 409
            code := some "CHAPA_REFUND_REFERENCE_MISSING" })
      else
        match answer with
        | .error e => (db, .error e)
        | .ok status =>
            match RefundVerification.ofText status with
            | .refunded =>
                match finalizeRefund env refundId (some "refunded") db with
                | .error e => (db, .error e)
                | .ok db => (db, .ok ())
            | .reversed =>
                failRefund env refundId
                  (some "Chapa reversed the refund after processing.") true db
            | _ =>
                match moveRefund refundId PaymentRefundStatus.isOpen
                  (·.stillProcessing) db with
                | .error e => (db, .error e)
                | .ok (db, _) => (db, .ok ())

/-! ## Submission to the provider -/

/-- The claiming transaction of `processRefund`; nothing if there is nothing to submit. -/
def claimForProcessing (refundId : Id) (db : Db) :
    Except ApiError (Option (Db × String)) :=
  match db.refunds.findUnique refundId with
  | none =>
      .error
        { message := "Refund request not found"
          status := some 404 }
  | some refund =>
      if refund.status = .completed ∨ refund.status = .processing then
        .ok none
      else if refund.status ≠ .requested then
        .error
          { message := "Only REQUESTED refunds can be submitted to Chapa"
            status := some 409 }
      else
        match db.payments.findUnique refund.paymentId with
        | none => .error { message := "Cannot read properties of null" }
        | some payment =>
            match providerForPayment payment with
            | none =>
                .error
                  { message := "No live refund adapter is configured for payment provider " ++
                      (jsOr payment.provider payment.method).getD "null"
                    status := some 503
                    code := some "REFUND_PROVIDER_NOT_CONFIGURED" }
            | some provider =>
                if !truthy payment.chapaTxRef then
                  .error
                    { message := "Original Chapa transaction reference is missing; " ++
                        "this payment cannot be safely refunded automatically."
                      status := some 409
                      code := some "CHAPA_TX_REF_MISSING" }
                else do
                  assertOrderCancelled "processing" payment db
                  let (db, claimed) ← moveRefund refundId (· = .requested)
                    (·.submit provider) db
                  .ok (if claimed then some (db, provider) else none)

/-- What the provider answers to a submission, and to the check right after it. -/
structure ProviderAnswers where
  /-- `refundTransaction`: the refund reference, if the answer carries one. -/
  submission : Except ApiError (Option String)
  verification : Except ApiError String

/-- `refundTransaction`: an accepted refund without a reference is an error. -/
def refundReferenceOf (answer : Except ApiError (Option String)) : Except ApiError String :=
  match answer with
  | .error e => .error e
  | .ok refId =>
      match jsOr refId none with
      | some refId => .ok refId
      | none =>
          .error
            { message := "Chapa accepted the refund request without returning a refund reference"
              status := some 502
              code := some "CHAPA_REFUND_REFERENCE_MISSING" }

def ApiError.isRejection (e : ApiError) : Bool :=
  e.status.any fun status => 400 ≤ status && status < 500

/-- The `catch` of `processRefund`. -/
def refundSubmissionFailed (env : Env) (refundId : Id) (e : ApiError) : Call Unit :=
  fun db =>
    if e.isRejection then
      match failRefund env refundId (some e.message) true db with
      | (db, .error e') => (db, .error e')
      | (db, .ok _) => (db, .error e)
    else
      match moveRefund refundId (· = .processing)
        (·.uncertain e) db with
      | .error e' => (db, .error e')
      | .ok (db, _) => (db, .error e)

def processRefund (env : Env) (refundId : Id) (answers : ProviderAnswers) : Call Unit :=
  fun db =>
    match claimForProcessing refundId db with
    | .error e => (db, .error e)
    | .ok none => (db, .ok ())
    | .ok (some (db, provider)) =>
        match refundReferenceOf answers.submission with
        | .error e => refundSubmissionFailed env refundId e db
        | .ok refId =>
            match moveRefund refundId (· = .processing)
              (·.accept provider refId) db with
            | .error e => refundSubmissionFailed env refundId e db
            | .ok (db, false) => (db, .ok ())
            | .ok (db, true) =>
                -- The check right after the submission is best effort.
                ((verifyAndFinalizeRefund env refundId answers.verification db).1, .ok ())

/-- A failed refund is retried by a fresh request, which is submitted at once. -/
def retryRefund (env : Env) (refundId : Id) (actorId : Option Id) (note : Option String)
    (answers : ProviderAnswers) : Call Unit := fun db =>
  match db.refunds.findUnique refundId with
  | none =>
      (db, .error
        { message := "Refund request not found"
          status := some 404 })
  | some previous =>
      if previous.status ≠ .failed then
        (db, .error
          { message := "Only FAILED refunds can be retried"
            status := some 409 })
      else
        match requestRefund env previous.paymentId (some (.finite previous.amount))
          (jsOr note (jsOr previous.reason (some "Retry after failed Chapa refund")))
          actorId db with
        | .error e => (db, .error e)
        | .ok (db, refund) => processRefund env refund answers db

end MarketBridge
