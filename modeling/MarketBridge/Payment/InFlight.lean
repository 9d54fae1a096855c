import MarketBridge.Relational.Requests
import MarketBridge.Payment.Intent

/-!
# Payments in flight

`POST /payments`, the initialization of a checkout and `settlePayment` as requests of
single statements.  The effects of a settlement and the synchronisation of obligations,
which write no payment, are taken as one statement each.  Installments are created in a
request of their own, which may come at any time.
-/

namespace MarketBridge

open Relational

/-- What a write is about. -/
inductive PaymentWrite where
  | create (data : CreatePaymentData)
  | settle (args : SettleArgs)
  | other
deriving DecidableEq, Repr

abbrev PaymentRequest :=
  Request PaymentWrite ApiError Db

/-! ## Creation -/

namespace CreatePaymentData

def keyTaken (data : CreatePaymentData) (db : Db) : Bool :=
  data.idempotencyKey.isSome &&
    db.payments.any fun _ p => p.idempotencyKey = data.idempotencyKey

def checkIndexes (env : Env) (data : CreatePaymentData) (amount : ℚ) (obligationId : Option Id)
    (db : Db) : Except ApiError Unit :=
  if (violatedIndex db (data.row env amount obligationId)).isSome || data.keyTaken db then
    .error uniqueConstraintError
  else
    .ok ()

def insertTxn (env : Env) (data : CreatePaymentData) (amount : ℚ) (obligationId : Option Id) :
    Txn ApiError Db :=
  .statement (data.checkIndexes env amount obligationId)
    (fun db => { db with payments := db.payments.create (data.row env amount obligationId) })
    fun _ => .commit

/-- The obligations are synchronised, and the one of the payment is looked up. -/
def claimTxn (env : Env) (data : CreatePaymentData) (amount : ℚ) : Txn ApiError Db :=
  match data.orderId with
  | none => data.insertTxn env amount none
  | some orderId =>
      .write (syncOrderPaymentObligations orderId)
        (.read fun db =>
          match findPaymentObligation db orderId data.type data.inspectionRequestId
              data.createdById with
          | none => data.insertTxn env amount none
          | some (obligationId, obligation) =>
              match assertObligationPayable amount obligation with
              | .error e => .abort e
              | .ok _ => data.insertTxn env amount (some obligationId))

def inspectionTxn (env : Env) (data : CreatePaymentData) (amount : ℚ) : Txn ApiError Db :=
  .statement (assertInspectionPayable data) id fun _ => data.claimTxn env amount

/-- The transaction of `createPayment`, which reads the quote and the job one after the other. -/
def createTxn (env : Env) (data : CreatePaymentData) (amount : ℚ) : Txn ApiError Db :=
  match data.type, data.transportJobId with
  | .transport, some jobId =>
      match data.transportQuoteId with
      | none =>
          .abort (conflictError
            "Hired transport payment must be bound to the accepted transport quote")
      | some quoteId =>
          .read fun db =>
            .statement
              (fun db' => assertQuoteBound amount jobId (db'.transportJobs.findUnique jobId)
                (db.transportQuotes.findUnique quoteId))
              id fun _ => data.inspectionTxn env amount
  | _, _ => data.inspectionTxn env amount

/-- `createPayment`; what follows a violation of an index only reads. -/
def createRequest (env : Env) (data : CreatePaymentData) : PaymentRequest :=
  match data.amount with
  | .notFinite => .done
  | .finite amount =>
      if amount ≤ 0 then
        .done
      else if truthy data.idempotencyKey then
        .read fun db =>
          if (paymentOfKey db data).isSome then .done
          else .transaction (.create data) (data.createTxn env amount) fun _ => .done
      else
        .transaction (.create data) (data.createTxn env amount) fun _ => .done

end CreatePaymentData

/-! ## `POST /payments` -/

namespace PaymentBody

/-- The duplicate, if there is one, and otherwise the creation. -/
def createUnlessDuplicate (env : Env) (body : PaymentBody) (caller : Caller)
    (installmentCount transportJobId transportQuoteId : Option Id) : PaymentRequest :=
  .read fun db =>
    match findDuplicate db caller.userId body transportJobId with
    | none =>
        (body.data caller.userId transportJobId transportQuoteId installmentCount).createRequest env
    | some (duplicateId, duplicate) =>
        match judgeDuplicate body installmentCount transportQuoteId duplicate with
        | .convert count =>
            .attempt .other (updatePayment duplicateId ({ · with installmentCount := some count }))
              fun _ => .done
        | .plan => .done
        | .refused _ => .done

def goodsRequest (env : Env) (body : PaymentBody) (caller : Caller) (installmentCount : Option Nat)
    (orderId : Id) : PaymentRequest :=
  .read fun db =>
    match db.orders.findUnique orderId with
    | none => .done
    | some order =>
        match (do assertOrderPayable caller order
                  assertGoodsIntent db caller body.amount orderId order : Except ApiError Unit) with
        | .error _ => .done
        | .ok _ => body.createUnlessDuplicate env caller installmentCount none none

def transportRequest (env : Env) (body : PaymentBody) (caller : Caller)
    (installmentCount : Option Nat) (orderId : Id) : PaymentRequest :=
  .read fun db =>
    match db.orders.findUnique orderId with
    | none => .done
    | some order =>
        match (do assertOrderPayable caller order
                  transportToPay db orderId : Except ApiError (Id × TransportJob)) with
        | .error _ => .done
        | .ok (jobId, job) =>
            .read fun db =>
              match quoteToPay db caller body.amount order jobId job with
              | .error _ => .done
              | .ok quoteId =>
                  body.createUnlessDuplicate env caller installmentCount (some jobId) (some quoteId)

def digitalRequest (env : Env) (body : PaymentBody) (caller : Caller)
    (installmentCount : Option Nat) (productId : Id) : PaymentRequest :=
  .read fun db =>
    match assertDigitalIntent db caller body.amount productId with
    | .error _ => .done
    | .ok _ => body.createUnlessDuplicate env caller installmentCount none none

def advertisingRequest (env : Env) (body : PaymentBody) (caller : Caller)
    (installmentCount : Option Nat) (adId : Id) : PaymentRequest :=
  .read fun db =>
    match assertAdvertisingIntent db caller body.amount adId with
    | .error _ => .done
    | .ok _ => body.createUnlessDuplicate env caller installmentCount none none

def feeShareRequest (env : Env) (body : PaymentBody) (caller : Caller)
    (installmentCount : Option Nat) (origin : InspectionOrigin) (request : InspectionRequest)
    (share : FeeShare) : PaymentRequest :=
  match assertFeeShare body caller.userId origin request share with
  | .error _ => .done
  | .ok _ => body.createUnlessDuplicate env caller installmentCount none none

def inspectionRequest (env : Env) (body : PaymentBody) (caller : Caller)
    (installmentCount : Option Nat) (origin : InspectionOrigin) (requestId : Id) : PaymentRequest :=
  .read fun db =>
    match db.inspectionRequests.findUnique requestId with
    | none => .done
    | some request =>
        match gateOrderOf body request with
        | .error _ => .done
        | .ok none => body.feeShareRequest env caller installmentCount origin request {}
        | .ok (some orderId) =>
            .read fun db =>
              match db.orders.findUnique orderId, assertGateOrder origin request
                  (db.orders.findUnique orderId) with
              | _, .error _ => .done
              | some order, .ok true =>
                  .read fun db =>
                    match feeShareOf db caller.userId requestId orderId order request with
                    | .error _ => .done
                    | .ok share =>
                        body.feeShareRequest env caller installmentCount origin request share
              | _, .ok _ => body.feeShareRequest env caller installmentCount origin request {}

/-- The branch of the type, for which the body has to name its subject. -/
def typeRequest (origins : Id -> InspectionOrigin) (env : Env) (body : PaymentBody)
    (caller : Caller) (installmentCount : Option Nat) : PaymentRequest :=
  match body.type with
  | .marketplace =>
      (body.orderId.map (body.goodsRequest env caller installmentCount)).getD .done
  | .transport =>
      (body.orderId.map (body.transportRequest env caller installmentCount)).getD .done
  | .digital =>
      (body.digitalProductId.map (body.digitalRequest env caller installmentCount)).getD .done
  | .advertising =>
      (body.advertisementId.map (body.advertisingRequest env caller installmentCount)).getD .done
  | .inspector =>
      (body.inspectionRequestId.map fun requestId =>
        body.inspectionRequest env caller installmentCount (origins requestId) requestId).getD .done
  | .marketplaceInstallment => .done

/-- `POST /payments`. -/
def request (origins : Id -> InspectionOrigin) (env : Env) (body : PaymentBody)
    (caller : Caller) : PaymentRequest :=
  if body.isAdmitted then
    match body.checkLimit with
    | .error _ => .done
    | .ok installmentCount =>
        if body.key.isSome then
          .read fun db =>
            if body.replayed db then .done
            else body.typeRequest origins env caller installmentCount
        else
          body.typeRequest origins env caller installmentCount
  else
    .done

end PaymentBody

/-! ## What `POST /payments` writes -/

/-- The creation of a payment and the conversion of a duplicate are writes of `P`. -/
structure OnlyCreates (P : PaymentWrite -> (Db -> Db) -> Prop) : Prop where
  create : forall env (data : CreatePaymentData) amount,
    (data.createTxn env amount).Commits (P (.create data)) id
  convert : forall id (count : Nat), P .other fun db =>
    commit (updatePayment id ({ · with installmentCount := some count }) db) db

namespace CreatePaymentData

variable {env : Env} {data : CreatePaymentData} {P : PaymentWrite -> (Db -> Db) -> Prop}

theorem createRequest_writes (h : OnlyCreates P) : (data.createRequest env).Writes P := by
  unfold createRequest
  split
  · trivial
  · split
    · trivial
    · split
      · intro db
        dsimp only
        split
        · trivial
        · exact ⟨h.create env data _, fun _ => trivial⟩
      · exact ⟨h.create env data _, fun _ => trivial⟩

end CreatePaymentData

namespace PaymentBody

variable {env : Env} {body : PaymentBody} {caller : Caller} {count : Option Nat}
  {P : PaymentWrite -> (Db -> Db) -> Prop}

theorem createUnlessDuplicate_writes (h : OnlyCreates P) {jobId quoteId : Option Id} :
    (body.createUnlessDuplicate env caller count jobId quoteId).Writes P := by
  intro db
  dsimp only
  split
  · exact CreatePaymentData.createRequest_writes h
  · rename_i duplicateId _ _
    split
    · rename_i count _
      exact .attempt (h.convert duplicateId count) fun _ => trivial
    · trivial
    · trivial

theorem typeRequest_writes (h : OnlyCreates P) {origins : Id -> InspectionOrigin} :
    (body.typeRequest origins env caller count).Writes P := by
  have hshare : forall origin request share,
      (body.feeShareRequest env caller count origin request share).Writes P := by
    intro origin request share
    unfold feeShareRequest
    split
    · trivial
    · exact createUnlessDuplicate_writes h
  unfold typeRequest
  split
  · cases body.orderId with
    | none => trivial
    | some orderId =>
        intro db
        dsimp only
        split
        · trivial
        · split
          · trivial
          · exact createUnlessDuplicate_writes h
  · cases body.orderId with
    | none => trivial
    | some orderId =>
        intro db
        dsimp only
        split
        · trivial
        · split
          · trivial
          · intro db
            dsimp only
            split
            · trivial
            · exact createUnlessDuplicate_writes h
  · cases body.digitalProductId with
    | none => trivial
    | some productId =>
        intro db
        dsimp only
        split
        · trivial
        · exact createUnlessDuplicate_writes h
  · cases body.advertisementId with
    | none => trivial
    | some adId =>
        intro db
        dsimp only
        split
        · trivial
        · exact createUnlessDuplicate_writes h
  · cases body.inspectionRequestId with
    | none => trivial
    | some requestId =>
        intro db
        dsimp only
        split
        · trivial
        · split
          · trivial
          · exact hshare _ _ _
          · intro db
            dsimp only
            split
            · trivial
            · intro db
              dsimp only
              split
              · trivial
              · exact hshare _ _ _
            · exact hshare _ _ _
  · trivial

theorem request_writes (h : OnlyCreates P) {origins : Id -> InspectionOrigin} :
    (body.request origins env caller).Writes P := by
  unfold request
  split
  · split
    · trivial
    · split
      · intro db
        dsimp only
        split
        · trivial
        · exact typeRequest_writes h
      · exact typeRequest_writes h
  · trivial

end PaymentBody

/-! ## Installments -/

/-- Entry `i` of `splitInto(total, count)`. -/
def installmentAmount (total : ℚ) (count i : Nat) : ℚ :=
  let cents := ⌊total * 100 + 1 / 2⌋
  ((cents / count + if i < cents - cents / count * count then 1 else 0 : ℤ) : ℚ) / 100

/-- The rows of `createMany`, in the order of their sequence. -/
def installmentRows (parentPaymentId : Id) (parent : Payment) : List Payment :=
  let count := parent.installmentCount.getD (installmentCountOf parent.amount)
  (List.range count).map fun i =>
    { type := .marketplaceInstallment
      orderId := parent.orderId
      createdById := parent.createdById
      parentPaymentId := some parentPaymentId
      installmentSequence := some (i + 1)
      amount := installmentAmount parent.amount count i
      currency := (jsOr (some parent.currency) (some "ETB")).getD "ETB"
      method := parent.method
      reference := parent.reference.filter (· ≠ "")
      commissionAmount := some 0
      netAmount := some (installmentAmount parent.amount count i)
      commissionRate := some 0 }

/-- `skipDuplicates`: the plan has a row of this sequence. -/
def createInstallment (payments : Table Payment) (row : Payment) : Table Payment :=
  if payments.any fun _ p => p.parentPaymentId = row.parentPaymentId &&
      p.installmentSequence = row.installmentSequence then
    payments
  else
    payments.create row

/-- `ensureInstallmentChildren`, of a payment that somebody has read. -/
def childrenRequest (parentPaymentId : Id) : PaymentRequest :=
  .read fun db =>
    match db.payments.findUnique parentPaymentId with
    | none => .done
    | some parent =>
        .read fun db =>
          if db.payments.any fun _ p => p.parentPaymentId = some parentPaymentId then
            .done
          else
            .statement .other
              (fun db => { db with
                payments := (installmentRows parentPaymentId parent).foldl createInstallment
                  db.payments })
              fun _ => .done

/-! ## Initialization -/

/-- `POST /payments/:id/chapa/initialize`; the answer of the provider comes from outside. -/
def initializeRequest (env : Env) (caller : Caller) (paymentId : Id) : PaymentRequest :=
  .read fun db =>
    match db.payments.findUnique paymentId with
    | none => .done
    | some p =>
        if (p.createdById ≠ some caller.userId ∧ caller.isAdmin = false) ∨ p.status ≠ .pending then
          .done
        else
          .read fun db =>
            match checkoutGates db p with
            | .error _ => .done
            | .ok _ =>
                .statement .other (movePaymentStatus paymentId .pending .processing) fun db =>
                  if isPaymentIn db paymentId .pending then
                    .ask fun opened =>
                      if opened then
                        .attempt .other
                          (updatePayment paymentId
                            (·.storeCheckout (checkoutReference paymentId env.now)))
                          fun _ => .done
                      else
                        .statement .other (movePaymentStatus paymentId .processing .pending)
                          fun _ => .done
                  else
                    .done

/-! ## Settlement -/

def createEvent (args : SettleArgs) (r : PaymentRecord) : Tx := fun db =>
  match registerEvent args r db with
  | .ok (some db) => .ok db
  | _ => .error uniqueConstraintError

def processTxn (env : Env) (args : SettleArgs) (r : PaymentRecord) : Txn ApiError Db :=
  if ignoresNotification r.row.status args.status then
    .commit
  else
    .call (updatePayment r.id (·.settled args))
      (.write (settleObligation args r)
        (.write (recordOrderEvent env r.row.orderId .paymentStatusChanged)
          (.call (applyEffects env args r) .commit)))

def registerTxn (env : Env) (args : SettleArgs) (r : PaymentRecord) : Txn ApiError Db :=
  .read fun db =>
    match registerEvent args r db with
    | .error e => .abort e
    | .ok none => .commit
    | .ok (some _) => .call (createEvent args r) (processTxn env args r)

def flagTxn (env : Env) (args : SettleArgs) (r : PaymentRecord) (reason : ReconciliationReason) :
    Txn ApiError Db :=
  .call (createReconciliationIssue env (issueData r args reason))
    (if canTransition r.row.status .reconciliationRequired then
      .call (updatePayment r.id (·.flagged args)) .commit
    else
      .commit)

/-- `settlePaymentCore`, statement by statement. -/
def settleTxn (env : Env) (args : SettleArgs) : Txn ApiError Db :=
  .read fun db =>
    match db.payments.findUnique args.paymentId with
    | none => .abort paymentNotFoundError
    | some p =>
        match mismatchReason p args with
        | some reason => flagTxn env args (paymentRecord db args.paymentId p) reason
        | none => registerTxn env args (paymentRecord db args.paymentId p)

/-- The report that replaces the settlement when the goods are gone. -/
def reconcileTxn (env : Env) (args : SettleArgs) : Txn ApiError Db :=
  .read fun db =>
    match db.payments.findUnique args.paymentId with
    | none => .abort insufficientInventoryError
    | some p =>
        .call (flagForReconciliation args p)
          (.call
            (createReconciliationIssue env
              { paymentId := args.paymentId
                provider := jsOr args.provider (jsOr p.provider (some "UNKNOWN"))
                observedStatus := .paid
                expectedAmount := p.amount
                observedAmount := args.amount
                expectedCurrency := p.currency
                observedCurrency := jsOr args.currency none
                reason := .insufficientInventoryAfterProviderPayment })
            .commit)

/-- `releaseWaitingBidders` after a goods payment. -/
def releaseRequest (paymentId : Id) : PaymentRequest :=
  .read fun db =>
    match orderToRelease db paymentId with
    | none => .done
    | some order => .statement .other (releaseWaitingBidders order.listingId) fun _ => .done

/-- The notification of a plan that is complete. -/
def noticeOfPlan (db : Db) (parentPaymentId : Id) : Option SettleArgs :=
  match db.payments.findUnique parentPaymentId with
  | none => none
  | some parent =>
      if parent.isInstallmentParent && planIsPaid db parentPaymentId parent &&
          parent.status ∉ [PaymentStatus.paid, .refunded, .refundPending, .failed] then
        some (planNotice parentPaymentId parent)
      else
        none

/-- `finalizeInstallmentPlan`, after which the bidders are released. -/
def finalizeRequest (env : Env) (parentPaymentId : Id) : PaymentRequest :=
  .read fun db =>
    match noticeOfPlan db parentPaymentId with
    | none => releaseRequest parentPaymentId
    | some notice =>
        .transaction (.settle notice) (settleTxn env notice) fun _ => releaseRequest parentPaymentId

def afterSettlement (env : Env) (paymentId : Id) : PaymentRequest :=
  .read fun db =>
    match planOfInstallment db paymentId with
    | none => releaseRequest paymentId
    | some parentPaymentId => finalizeRequest env parentPaymentId

/-- `settlePayment`. -/
def settleRequest (env : Env) (args : SettleArgs) : PaymentRequest :=
  .transaction (.settle args) (settleTxn env args) fun
    | .ok _ => afterSettlement env args.paymentId
    | .error e =>
        if e.code = some "INSUFFICIENT_INVENTORY" ∧ args.status = .paid then
          .transaction .other (reconcileTxn env args) fun
            | .ok _ => afterSettlement env args.paymentId
            | .error _ => .done
        else
          .done

/-! ## The statements make up the services -/

theorem settleTxn_alone (env : Env) (args : SettleArgs) (db : Db) :
    (settleTxn env args).alone db = settlePaymentCore env args db := by
  unfold settleTxn settlePaymentCore
  rw [Txn.alone_read]
  cases hp : db.payments.findUnique args.paymentId with
  | none =>
      rfl
  | some p =>
      dsimp only
      cases hreason : mismatchReason p args with
      | some reason =>
          dsimp only
          unfold flagTxn flagMismatch
          rw [Txn.alone_call]
          refine congrArg _ (funext fun issued => ?_)
          split
          · rw [Txn.alone_call]
            cases updatePayment (paymentRecord db args.paymentId p).id (·.flagged args) issued <;>
              rfl
          · rfl
      | none =>
          dsimp only
          unfold registerTxn
          rw [Txn.alone_read]
          cases hevent : registerEvent args (paymentRecord db args.paymentId p) db with
          | error e =>
              rfl
          | ok registered =>
              cases registered with
              | none =>
                  rfl
              | some registered =>
                  dsimp only
                  rw [Txn.alone_call, createEvent, hevent]
                  simp only [ok_bind]
                  unfold processTxn processNotification
                  split
                  · rfl
                  · rw [Txn.alone_call]
                    unfold writeSettlement
                    cases updatePayment (paymentRecord db args.paymentId p).id (·.settled args)
                        registered with
                    | error e =>
                        rfl
                    | ok updated =>
                        simp only [ok_bind, Txn.alone_write, Txn.alone_call]
                        cases applyEffects env args (paymentRecord db args.paymentId p) _ <;> rfl

end MarketBridge
