import MarketBridge.Payment.StateMachine

/-!
# Financial records of a payment

The rows written beside a payment: order events, reconciliation issues, ledger
entries and payout holds.  Ledger entries and payout holds are created at most
once per payment, whatever calls them again.
-/

namespace MarketBridge

open Relational

/-- `recordOrderEvent`: nothing is recorded without an order. -/
def recordOrderEvent (env : Env) (orderId : Option Id) (type : OrderEventType)
    (db : Db) : Db :=
  match orderId with
  | none => db
  | some o =>
      { db with
        orderEvents := db.orderEvents.create
          { orderId := o, type := type, createdAt := env.now } }

@[simp] theorem recordOrderEvent_payments (env : Env) (orderId : Option Id)
    (type : OrderEventType) (db : Db) :
    (recordOrderEvent env orderId type db).payments = db.payments := by
  cases orderId <;> rfl

@[simp] theorem recordOrderEvent_refunds (env : Env) (orderId : Option Id)
    (type : OrderEventType) (db : Db) :
    (recordOrderEvent env orderId type db).refunds = db.refunds := by
  cases orderId <;> rfl

/-! ## Reconciliation issues -/

/-- The `data` argument of `createReconciliationIssue`. -/
structure ReconciliationData where
  paymentId : Id
  provider : Option String
  observedStatus : PaymentStatus
  expectedAmount : ℚ
  observedAmount : Option JsNumber
  expectedCurrency : String
  observedCurrency : Option String
  reason : ReconciliationReason
deriving DecidableEq, Repr

/-- Whether a value fits the nullable `Decimal(18, 2)` column `observedAmount`. -/
def storableAmount : Option JsNumber -> Bool
  | none => true
  | some (.finite q) => |toDecimal q| < 10 ^ 16
  | some .notFinite => false

def storedAmount : Option JsNumber -> Option ℚ
  | some (.finite q) => some (toDecimal q)
  | _ => none

def ReconciliationData.row (data : ReconciliationData) : PaymentReconciliation :=
  { paymentId := data.paymentId
    provider := (jsOr data.provider (some "UNKNOWN")).getD "UNKNOWN"
    observedStatus := some data.observedStatus
    expectedAmount := data.expectedAmount
    observedAmount := storedAmount data.observedAmount
    expectedCurrency := data.expectedCurrency
    observedCurrency := jsOr data.observedCurrency none
    reason := data.reason }

def paymentOrderId (db : Db) (paymentId : Id) : Option Id :=
  (db.payments.findUnique paymentId).bind (·.orderId)

def withIssue (env : Env) (data : ReconciliationData) (db : Db) : Db :=
  recordOrderEvent env (paymentOrderId db data.paymentId)
    .paymentReconciliationRequired
    { db with reconciliations := db.reconciliations.create data.row }

def createReconciliationIssue (env : Env) (data : ReconciliationData) : Tx :=
  fun db =>
    if storableAmount data.observedAmount then
      .ok (withIssue env data db)
    else
      .error { message := "Invalid value for observedAmount" }

theorem createReconciliationIssue_eq_ok_iff
    {env : Env} {data : ReconciliationData} {db db' : Db} :
    createReconciliationIssue env data db = .ok db' ↔
      storableAmount data.observedAmount = true ∧ db' = withIssue env data db := by
  unfold createReconciliationIssue
  by_cases h : storableAmount data.observedAmount = true
  · simp only [h, if_true, Except.ok.injEq, true_and]
    exact eq_comm
  · simp [h]

/-! ## Ledger -/

def ledgerEntryExists (db : Db) (entry : PaymentLedgerEntry) : Bool :=
  db.ledgerEntries.any fun _ e =>
    e.paymentId = entry.paymentId && e.type = entry.type

def createLedgerEntryOnce (entry : PaymentLedgerEntry) (db : Db) : Db :=
  if ledgerEntryExists db entry then
    db
  else
    { db with ledgerEntries := db.ledgerEntries.create entry }

/-! ## Payout hold -/

/-- `createPayoutHold`: one payout per payment, none without a payee. -/
def createPayoutHold (env : Env) (orderId : Option Id) (payeeRole : PayoutPayeeRole)
    (payeeId : Option Id) (paymentId : Id) (payment : Payment) (db : Db) : Db :=
  match payeeId with
  | none => db
  | some payee =>
      if db.payouts.any fun _ p => p.paymentId = paymentId then
        db
      else
        { db with
          payouts := db.payouts.create
            { orderId := orderId
              payeeRole := payeeRole
              payeeId := payee
              paymentId := paymentId
              amount := payment.netAmount.getD payment.amount
              currency := if payment.currency = "" then "ETB" else payment.currency
              status := .held
              releaseAt := env.now + env.payoutHoldMs } }

end MarketBridge
