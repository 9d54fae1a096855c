import MarketBridge.Refund.Runs

/-!
# Ways out of a refund

The refund operations together with the provider they talk to.  The provider
accepts a submission or does not, whatever answer arrives, and decides each
accepted refund once.  A way out is a sequence of the operations that the admin
routes and the maintenance sweeps offer.
-/

namespace MarketBridge

open Relational

/-! ## The provider -/

/-- The refunds that the provider has accepted, and the references it has decided. -/
structure ProviderBook where
  accepted : List (Id × String) := []
  /-- Whether the money of the reference was returned. -/
  decided : List (String × Bool) := []
deriving DecidableEq, Repr

namespace ProviderBook

def verdict (book : ProviderBook) (refId : String) : Option Bool :=
  (book.decided.find? fun e => e.1 = refId).map Prod.snd

def decide (book : ProviderBook) (refId : String) (returned : Bool) : ProviderBook :=
  match book.verdict refId with
  | some _ => book
  | none => { book with decided := (refId, returned) :: book.decided }

def report (book : ProviderBook) (refId : String) : String :=
  match book.verdict refId with
  | some true => "refunded"
  | some false => "reversed"
  | none => "processing"

end ProviderBook

/-- How the provider deals with a submission, and what arrives of it. -/
inductive SubmissionAnswer where
  /-- The refund is accepted and its reference arrives. -/
  | success (refId : String)
  /-- The refund is rejected with a 4xx. -/
  | rejected (e : ApiError) (rejects : e.isRejection = true)
  /-- A 5xx or a timeout arrives, whether the refund is accepted or not. -/
  | unclear (accepted : Option String) (e : ApiError) (ambiguous : e.isRejection = false)

namespace SubmissionAnswer

def submission : SubmissionAnswer -> Except ApiError (Option String)
  | success refId => .ok (some refId)
  | rejected e _ => .error e
  | unclear _ e _ => .error e

def reference : SubmissionAnswer -> Option String
  | success refId => some refId
  | rejected _ _ => none
  | unclear accepted _ _ => accepted

end SubmissionAnswer

def ProviderBook.accept (book : ProviderBook) (refundId : Id) (answer : SubmissionAnswer) :
    ProviderBook :=
  match answer.reference with
  | some refId => { book with accepted := (refundId, refId) :: book.accepted }
  | none => book

/-! ## Operations -/

structure RefundWorld where
  db : Db
  /-- The refunds that have been sent to the provider. -/
  submitted : List Id := []
  book : ProviderBook := {}
deriving DecidableEq, Repr

def timeoutError : ApiError :=
  { message := "Chapa request timed out"
    status := some 504
    code := some "CHAPA_REQUEST_TIMEOUT" }

def ProviderBook.answer (book : ProviderBook) (reached : Bool) (refId : Option String) :
    Except ApiError String :=
  match reached, refId with
  | true, some refId => .ok (book.report refId)
  | _, _ => .error timeoutError

/-- The first half of `retryRefund`: the failed refund is requested afresh. -/
def retryRequest (env : Env) (refundId : Id) (actorId : Option Id) (note : Option String)
    (db : Db) : Except ApiError (Db × Id) :=
  match db.refunds.findUnique refundId with
  | none =>
      .error
        { message := "Refund request not found"
          status := some 404 }
  | some previous =>
      if previous.status ≠ .failed then
        .error
          { message := "Only FAILED refunds can be retried"
            status := some 409 }
      else
        requestRefund env previous.paymentId (some (.finite previous.amount))
          (jsOr note (jsOr previous.reason (some "Retry after failed Chapa refund"))) actorId db

inductive RefundOperation where
  /-- A service requests the refund of a payment; no service does so for an installment parent. -/
  | request (paymentId : Id) (reason : Option String) (requestedById : Option Id)
  | process (refundId : Id) (answer : SubmissionAnswer) (reached : Bool)
  | verify (refundId : Id) (reached : Bool)
  | fail (refundId : Id) (failureReason : Option String)
  | retry (refundId : Id) (actorId : Option Id) (note : Option String)
      (answer : SubmissionAnswer) (reached : Bool)
  /-- The provider decides an accepted refund. -/
  | decide (refId : String) (returned : Bool)
  /-- Something else writes the other tables, such as a cancellation its order. -/
  | elsewhere (other : Db)

namespace RefundWorld

/-- `processRefund`; the refund is sent if it can be claimed. -/
def process (env : Env) (refundId : Id) (answer : SubmissionAnswer) (reached : Bool)
    (w : RefundWorld) : RefundWorld :=
  let book := w.book.accept refundId answer
  let db := (processRefund env refundId
    { submission := answer.submission
      verification := book.answer reached answer.reference } w.db).1
  match claimForProcessing refundId w.db with
  | .ok (some _) =>
      { db := db
        submitted := refundId :: w.submitted
        book := book }
  | _ => { w with db := db }

def referenceOf (db : Db) (refundId : Id) : Option String :=
  (db.refunds.findUnique refundId).bind (·.providerRefundId)

def step (w : RefundWorld) (a : Env × RefundOperation) : RefundWorld :=
  match a.2 with
  | .request paymentId reason requestedById =>
      if (w.db.payments.findUnique paymentId).any Payment.isInstallmentParent then
        w
      else
        match requestRefund a.1 paymentId none reason requestedById w.db with
        | .ok (db, _) => { w with db := db }
        | .error _ => w
  | .process refundId answer reached => w.process a.1 refundId answer reached
  | .verify refundId reached =>
      { w with
        db := (verifyAndFinalizeRefund a.1 refundId
          (w.book.answer reached (referenceOf w.db refundId)) w.db).1 }
  | .fail refundId failureReason =>
      { w with db := (failRefund a.1 refundId failureReason false w.db).1 }
  | .retry refundId actorId note answer reached =>
      match retryRequest a.1 refundId actorId note w.db with
      | .ok (db, refund) => { w with db := db }.process a.1 refund answer reached
      | .error _ => w
  | .decide refId returned => { w with book := w.book.decide refId returned }
  | .elsewhere other =>
      { w with db := { other with payments := w.db.payments, refunds := w.db.refunds } }

/-- The two halves of a retry are `retryRefund`. -/
theorem step_retry_db (w : RefundWorld) (env : Env) (refundId : Id) (actorId : Option Id)
    (note : Option String) (answer : SubmissionAnswer) (reached : Bool) :
    (w.step (env, .retry refundId actorId note answer reached)).db =
      (retryRefund env refundId actorId note
        { submission := answer.submission
          verification := (match retryRequest env refundId actorId note w.db with
            | .ok (_, refund) => w.book.accept refund answer
            | .error _ => w.book).answer reached answer.reference } w.db).1 := by
  simp only [step, retryRequest, retryRefund]
  cases w.db.refunds.findUnique refundId with
  | none =>
      rfl
  | some previous =>
      dsimp only
      by_cases hs : previous.status ≠ .failed
      · simp only [if_pos hs]
      · simp only [if_neg hs]
        cases requestRefund env previous.paymentId (some (.finite previous.amount))
            (jsOr note (jsOr previous.reason (some "Retry after failed Chapa refund")))
            actorId w.db with
        | error e =>
            rfl
        | ok next =>
            obtain ⟨db, refund⟩ := next
            simp only [process]
            split <;> rfl

end RefundWorld

/-! ## Ways out -/

def RefundOperation.isOffered : RefundOperation -> Bool
  | .process _ _ _ => true
  | .verify _ _ => true
  | .fail _ _ => true
  | .retry _ _ _ _ _ => true
  | _ => false

namespace RefundWorld

/-- A refund of the payment, its row and the reference under which it was accepted. -/
def Accepted (w : RefundWorld) (i : Id) (refId : String) : Prop :=
  exists j r, w.db.refunds.findUnique j = some r ∧ r.paymentId = i ∧
    (j, refId) ∈ w.book.accepted

def MoneyReturned (w : RefundWorld) (i : Id) : Prop :=
  exists refId, w.Accepted i refId ∧ w.book.verdict refId = some true

def MoneyKept (w : RefundWorld) (i : Id) : Prop :=
  forall refId, w.Accepted i refId -> w.book.verdict refId = some false

def Offered (as : List (Env × RefundOperation)) : Prop :=
  forall a, a ∈ as -> a.2.isOffered = true

/-- Some offered operations bring the payment to `REFUNDED`. -/
def ReachesRefunded (w : RefundWorld) (i : Id) : Prop :=
  exists as, Offered as ∧
    ((run step w as).db.payments.findUnique i).map (·.status) = some .refunded

def ReachesSubmission (w : RefundWorld) (i : Id) : Prop :=
  exists as j r, Offered as ∧ j ∈ (run step w as).submitted ∧ j ∉ w.submitted ∧
    (run step w as).db.refunds.findUnique j = some r ∧ r.paymentId = i

def Referenced (w : RefundWorld) (i : Id) : Prop :=
  forall j r, w.db.refunds.findUnique j = some r -> r.paymentId = i ->
    r.status = .processing -> r.providerRefundId.isSome = true

end RefundWorld

end MarketBridge
