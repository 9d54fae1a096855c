import MarketBridge.Refund.Requests

/-!
# Refund operations and the provider, statement by statement

A refund is submitted, verified and failed by operations that talk to the
provider between their statements, and the webhook of the provider writes the
same columns.  Here each statement is a step of its own, so that the steps of
several operations in flight come in any order.  A log keeps what the provider
really did.
-/

namespace MarketBridge

open Relational

/-! ## The refund webhook -/

def isJsSpace (c : Char) : Bool :=
  (9 ≤ c.toNat && c.toNat ≤ 13) || (0x2000 ≤ c.toNat && c.toNat ≤ 0x200A) ||
    c.toNat ∈ [0x20, 0xA0, 0x1680, 0x2028, 0x2029, 0x202F, 0x205F, 0x3000, 0xFEFF]

/-- `text.trim()`. -/
def jsTrim (text : String) : String :=
  String.ofList ((text.toList.dropWhile isJsSpace).reverse.dropWhile isJsSpace).reverse

/-- `hmacHex`, and the secret `CHAPA_WEBHOOK_SECRET`. -/
structure WebhookKeys where
  secret : Option String
  hmacHex : String -> String -> String

/-- The fields of a webhook call that its refund branch reads, as texts. -/
structure RefundNotice where
  rawBody : Option String
  /-- The header `x-chapa-signature`. -/
  payloadSignature : Option String := none
  /-- The header `chapa-signature`. -/
  secretSignature : Option String := none
  /-- The payment id in front of the first underscore of `tx_ref`. -/
  paymentId : Id
  event : Option String := none
  type : Option String := none
  status : Option String := none
  refId : Option String := none
  refundRefId : Option String := none
  dataRefId : Option String := none
deriving DecidableEq, Repr

/-- `safeCompare`. -/
def safeCompare (a b : String) : Bool :=
  jsTrim a = jsTrim b

def signatureMatches (expected : String) (signature : Option String) : Bool :=
  truthy signature && safeCompare expected (signature.getD "")

/-- `verifyWebhookSignature`: either header is sufficient. -/
def verifyWebhookSignature (keys : WebhookKeys) (notice : RefundNotice) : Bool :=
  match jsOr keys.secret none, jsOr notice.rawBody none with
  | some secret, some rawBody =>
      signatureMatches (keys.hmacHex secret rawBody) notice.payloadSignature ||
        signatureMatches (keys.hmacHex secret secret) notice.secretSignature
  | _, _ => false

namespace RefundNotice

def namedReference (notice : RefundNotice) : Option String :=
  jsOr notice.refId (jsOr notice.refundRefId (jsOr notice.dataRefId none))

/-- `refundEvent`. -/
def isRefundEvent (notice : RefundNotice) : Bool :=
  let event := upper ((jsOr notice.event (jsOr notice.type none)).getD "")
  event = "CHARGE.REFUNDED".toList || event = "PAYMENT.REFUNDED".toList ||
    (upper (notice.status.getD "") = "REFUNDED".toList && notice.namedReference.isSome)

/-- `refundRefId`. -/
def reference (notice : RefundNotice) (refund : PaymentRefund) : String :=
  jsTrim ((jsOr notice.namedReference (jsOr refund.providerRefundId none)).getD "")

end RefundNotice

/-! ## Operations in flight -/

/-- What an operation in flight does next. -/
inductive RefundTask where
  | claim (refundId : Id)
  /-- The claimed refund is sent to the provider. -/
  | submit (refundId : Id) (provider : String)
  /-- The provider has accepted the refund, and its answer is under way. -/
  | receive (refundId : Id) (provider refId : String)
  | store (refundId : Id) (provider refId : String)
  /-- The `catch` of `processRefund`. -/
  | recover (refundId : Id) (e : ApiError)
  | verify (refundId : Id)
  /-- The provider is asked about the reference that has been read. -/
  | ask (refundId : Id) (refId : String)
  | finalize (refundId : Id)
  | keep (refundId : Id)
  | fail (refundId : Id) (failureReason : Option String) (allowProcessing : Bool)
  | markFailed (refundId paymentId : Id) (paymentPending : Bool) (failureReason : Option String)
  | restorePayment (paymentId : Id) (paymentPending : Bool)
  | retry (refundId : Id) (actorId : Option Id) (note : Option String)
  /-- The webhook stores the reference that it has been given. -/
  | name (refundId : Id) (provider refId : String)
  | done
deriving DecidableEq, Repr

abbrev ProviderStatuses := String -> Except ApiError String

/-- The payment of a refund was `REFUND_PENDING` when it was read. -/
def paymentIsPending (db : Db) (paymentId : Id) : Bool :=
  (db.payments.findUnique paymentId).any fun p => p.status = .refundPending

def failsRefund (refundId i : Id) (r : PaymentRefund) : Bool :=
  i == refundId && r.status ≠ .completed

/-- The first read of `verifyAndFinalizeRefund`. -/
def verificationOf (refundId : Id) (db : Db) : RefundTask :=
  match db.refunds.findUnique refundId with
  | none => .done
  | some refund =>
      if refund.status = .completed then
        .done
      else
        match jsOr refund.providerRefundId none with
        | some refId => .ask refundId refId
        | none => .done

def afterVerification (refundId : Id) (answer : Except ApiError String) : RefundTask :=
  match answer with
  | .error _ => .done
  | .ok status =>
      match RefundVerification.ofText status with
      | .refunded => .finalize refundId
      | .reversed => .fail refundId (some "Chapa reversed the refund after processing.") true
      | _ => .keep refundId

/-- The first read of `failRefund`. -/
def failureOf (refundId : Id) (failureReason : Option String) (allowProcessing : Bool)
    (db : Db) : RefundTask :=
  match db.refunds.findUnique refundId with
  | none => .done
  | some refund =>
      match assertCanFail allowProcessing refund with
      | .error _ => .done
      | .ok _ =>
          .markFailed refundId refund.paymentId (paymentIsPending db refund.paymentId)
            failureReason

/-- A failed refund is requested afresh; the fresh request is claimed next. -/
def retryOf (env : Env) (refundId : Id) (actorId : Option Id) (note : Option String) (db : Db) :
    Db × RefundTask :=
  match db.refunds.findUnique refundId with
  | none => (db, .done)
  | some previous =>
      if previous.status ≠ .failed then
        (db, .done)
      else
        match requestRefund env previous.paymentId (some (.finite previous.amount))
          (jsOr note (jsOr previous.reason (some "Retry after failed Chapa refund")))
          actorId db with
        | .error _ => (db, .done)
        | .ok (db, refund) => (db, .claim refund)

def afterWrite (db : Db) (r : Except ApiError (Db × Bool)) (failed : ApiError -> RefundTask)
    (moved stayed : RefundTask) : Db × RefundTask :=
  match r with
  | .error e => (db, failed e)
  | .ok (db, true) => (db, moved)
  | .ok (db, false) => (db, stayed)

/-- Execute the next statement of an operation. -/
def RefundTask.next (env : Env) (answers : ProviderStatuses) (db : Db) :
    RefundTask -> Db × RefundTask
  | claim refundId =>
      match claimForProcessing refundId db with
      | .ok (some (db, provider)) => (db, .submit refundId provider)
      | _ => (db, .done)
  | submit refundId provider => (db, .submit refundId provider)
  | receive refundId provider refId => (db, .receive refundId provider refId)
  | store refundId provider refId =>
      afterWrite db (moveRefund refundId (· = .processing) (·.accept provider refId) db)
        (.recover refundId) (.verify refundId) .done
  | recover refundId e =>
      if e.isRejection then
        (db, .fail refundId (some e.message) true)
      else
        afterWrite db (moveRefund refundId (· = .processing) (·.uncertain e) db)
          (fun _ => .done) .done .done
  | verify refundId => (db, verificationOf refundId db)
  | ask refundId refId => (db, afterVerification refundId (answers refId))
  | finalize refundId => (commit (finalizeRefund env refundId (some "refunded") db) db, .done)
  | keep refundId =>
      afterWrite db (moveRefund refundId PaymentRefundStatus.isOpen (·.stillProcessing) db)
        (fun _ => .done) .done .done
  | fail refundId failureReason allowProcessing =>
      (db, failureOf refundId failureReason allowProcessing db)
  | markFailed refundId paymentId paymentPending failureReason =>
      ({ db with
          refunds := db.refunds.updateMany (failsRefund refundId) (·.fail failureReason) },
        if db.refunds.any (failsRefund refundId) then .restorePayment paymentId paymentPending
        else .done)
  | restorePayment paymentId paymentPending =>
      match
        if paymentPending then movePayment paymentId .refundPending .paid db
        else .ok (db, false) with
      | .error _ => (db, .done)
      | .ok (db, _) =>
          (recordOrderEvent env (paymentOrderId db paymentId) .paymentRefundFailed db, .done)
  | retry refundId actorId note => retryOf env refundId actorId note db
  | name refundId provider refId =>
      afterWrite db (moveRefund refundId PaymentRefundStatus.isOpen
          ({ · with provider := some provider, providerRefundId := some refId }) db)
        (fun _ => .done) (.verify refundId) (.verify refundId)
  | done => (db, .done)

/-! ## Sessions -/

/-- What the provider really did, and what it has reported. -/
structure ProviderLog where
  /-- The refunds that have been sent to the provider. -/
  submitted : List Id := []
  /-- The refunds that the provider accepted, with the reference it gave them. -/
  accepted : List (Id × String) := []
  /-- The references that the provider has reported as refunded. -/
  reported : List String := []
deriving DecidableEq, Repr

structure SubmissionSession where
  db : Db
  tasks : Table RefundTask := .empty
  log : ProviderLog := {}
deriving DecidableEq, Repr

def ProviderLog.after (log : ProviderLog) : RefundTask -> RefundTask -> ProviderLog
  | .claim _, .submit refundId _ => { log with submitted := refundId :: log.submitted }
  | .ask _ refId, .finalize _ => { log with reported := refId :: log.reported }
  | _, _ => log

/-- The task with which the refund branch of the webhook goes on. -/
def noticeTask (keys : WebhookKeys) (notice : RefundNotice) (db : Db) : RefundTask :=
  if verifyWebhookSignature keys notice && notice.isRefundEvent then
    match db.payments.findUnique notice.paymentId,
      newestRefund db notice.paymentId [.requested, .processing] with
    | some payment, some (refundId, refund) =>
        if notice.reference refund = "" then
          .done
        else
          .name refundId
            ((jsOr refund.provider (jsOr payment.provider (some "CHAPA"))).getD "CHAPA")
            (notice.reference refund)
    | _, _ => .done
  else
    .done

inductive SubmissionStep where
  /-- A service requests a refund inside its own transaction. -/
  | requestRefund (paymentId : Id) (amount : Option JsNumber) (reason : Option String)
      (requestedById : Option Id)
  /-- The admin route and the sweep of requested refunds. -/
  | processRefund (refundId : Id)
  /-- The admin route and the sweep of refunds in processing. -/
  | verifyAndFinalizeRefund (refundId : Id)
  | failRefund (refundId : Id) (failureReason : Option String)
  | retryRefund (refundId : Id) (actorId : Option Id) (note : Option String)
  | webhook (keys : WebhookKeys) (notice : RefundNotice)
  /-- The provider accepts a submission and gives it a reference. -/
  | providerAccepts (task : Id) (refId : String)
  /-- The provider does not accept the submission: it rejects it or is not reached. -/
  | providerFails (task : Id) (e : ApiError)
  /-- The answer of the provider arrives, or an error in its place. -/
  | answer (task : Id) (lost : Option ApiError)
  /-- The next statement of an operation. -/
  | advance (task : Id) (answers : ProviderStatuses)
  /-- Something else writes the other tables. -/
  | elsewhere (other : Db)

namespace SubmissionSession

def start (s : SubmissionSession) (task : RefundTask) : SubmissionSession :=
  { s with tasks := s.tasks.create task }

def setTask (s : SubmissionSession) (k : Id) (task : RefundTask) : SubmissionSession :=
  { s with tasks := s.tasks.update k fun _ => task }

/-- The task of an operation whose submission has been accepted, once the answer is there. -/
def received (refundId : Id) (provider refId : String) (lost : Option ApiError) : RefundTask :=
  match lost with
  | some e => .recover refundId e
  | none =>
      match refundReferenceOf (.ok (some refId)) with
      | .error e => .recover refundId e
      | .ok refId => .store refundId provider refId

def advance (env : Env) (answers : ProviderStatuses) (k : Id) (s : SubmissionSession) :
    SubmissionSession :=
  match s.tasks.findUnique k with
  | none => s
  | some task =>
      let (db, task') := task.next env answers s.db
      { db := db
        tasks := s.tasks.update k fun _ => task'
        log := s.log.after task task' }

def step (s : SubmissionSession) (a : Env × SubmissionStep) : SubmissionSession :=
  match a.2 with
  | .requestRefund paymentId amount reason requestedById =>
      match MarketBridge.requestRefund a.1 paymentId amount reason requestedById s.db with
      | .ok (db, _) => { s with db := db }
      | .error _ => s
  | .processRefund refundId => s.start (.claim refundId)
  | .verifyAndFinalizeRefund refundId => s.start (.verify refundId)
  | .failRefund refundId failureReason => s.start (.fail refundId failureReason false)
  | .retryRefund refundId actorId note => s.start (.retry refundId actorId note)
  | .webhook keys notice => s.start (noticeTask keys notice s.db)
  | .providerAccepts k refId =>
      match s.tasks.findUnique k with
      | some (.submit refundId provider) =>
          { s.setTask k (.receive refundId provider refId) with
            log := { s.log with accepted := (refundId, refId) :: s.log.accepted } }
      | _ => s
  | .providerFails k e =>
      match s.tasks.findUnique k with
      | some (.submit refundId _) => s.setTask k (.recover refundId e)
      | _ => s
  | .answer k lost =>
      match s.tasks.findUnique k with
      | some (.receive refundId provider refId) =>
          s.setTask k (received refundId provider refId lost)
      | _ => s
  | .advance k answers => s.advance a.1 answers k
  | .elsewhere other => { s with db := { other with refunds := s.db.refunds } }

end SubmissionSession

end MarketBridge
