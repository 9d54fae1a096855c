import MarketBridge.Relational.ReadCommitted
import MarketBridge.Refund.Service

/-!
# The refund of an installment plan

`completeRefund` statement by statement, so that the refunds of several
installments can be completed side by side.  Each transaction refunds its own
installment and then reads all of them to find out whether it is the last.
-/

namespace MarketBridge

open Relational

/-! ## Statements of `completeRefund` -/

def installmentsHeld (db : Db) (parentPaymentId : Id) : Bool :=
  db.payments.any fun _ child =>
    child.parentPaymentId = some parentPaymentId &&
      child.status ∈ [PaymentStatus.paid, .refundPending, .processing]

/-- The checks of `tx.payment.update`. -/
def checkPaymentUpdate (id : Id) (f : Payment -> Payment) (db : Db) : Except ApiError Unit :=
  match updatePayment id f db with
  | .ok _ => .ok ()
  | .error e => .error e

def setPayment (id : Id) (f : Payment -> Payment) (db : Db) : Db :=
  { db with payments := db.payments.update id f }

def recordRefunded (env : Env) (payment : Payment) : Txn ApiError Db :=
  .write (recordOrderEvent env payment.orderId .paymentRefunded) .commit

def cancelObligation (obligationId : Option Id) (db : Db) : Db :=
  match obligationId with
  | none => db
  | some o =>
      { db with obligations := db.obligations.update o ({ · with status := .cancelled }) }

def refundParent (env : Env) (payment : Payment) (parentPaymentId : Id) (parent : Payment) :
    Txn ApiError Db :=
  .statement (checkPaymentUpdate parentPaymentId (·.withStatus .refunded))
    (setPayment parentPaymentId (·.withStatus .refunded)) fun _ =>
      .write (cancelObligation parent.obligationId) (recordRefunded env payment)

/-- The installments are read in a statement of their own, after the parent. -/
def readInstallments (env : Env) (payment : Payment) (parentPaymentId : Id)
    (parent : Payment) : Txn ApiError Db :=
  .read fun db =>
    if parent.isInstallmentParent && parent.status = .refundPending &&
        !installmentsHeld db parentPaymentId then
      refundParent env payment parentPaymentId parent
    else
      recordRefunded env payment

def readParent (env : Env) (payment : Payment) (parentPaymentId : Id) : Txn ApiError Db :=
  .read fun db =>
    match db.payments.findUnique parentPaymentId with
    | none => recordRefunded env payment
    | some parent => readInstallments env payment parentPaymentId parent

def afterRefund (env : Env) (payment : Payment) : Txn ApiError Db :=
  match payment.parentPaymentId with
  | none => recordRefunded env payment
  | some parent => readParent env payment parent

def refundPayment (env : Env) (paymentId : Id) (payment : Payment) : Txn ApiError Db :=
  .statement (checkPaymentUpdate paymentId (·.withStatus .refunded))
    (setPayment paymentId (·.withStatus .refunded)) fun _ => afterRefund env payment

def checkRefundUpdate (id : Id) (guard : PaymentRefundStatus -> Bool)
    (f : PaymentRefund -> PaymentRefund) (db : Db) : Except ApiError Unit :=
  match moveRefund id guard f db with
  | .ok _ => .ok ()
  | .error e => .error e

/-- `paymentRefund.updateMany` of one row, conditional on its status. -/
def moveRefundRow (id : Id) (guard : PaymentRefundStatus -> Bool)
    (f : PaymentRefund -> PaymentRefund) (db : Db) : Db :=
  { db with
    refunds := db.refunds.updateMany (fun i r => i == id && guard r.status) f }

def claimsRefund (id : Id) (guard : PaymentRefundStatus -> Bool) (db : Db) : Bool :=
  (db.refunds.findUnique id).any fun r => guard r.status

def claimRefund (env : Env) (refundId paymentId : Id) (payment : Payment) : Txn ApiError Db :=
  .statement (checkRefundUpdate refundId PaymentRefundStatus.isOpen (·.complete env.now))
    (moveRefundRow refundId PaymentRefundStatus.isOpen (·.complete env.now)) fun db =>
      if claimsRefund refundId PaymentRefundStatus.isOpen db then
        refundPayment env paymentId payment
      else
        .commit

def checkOrder (env : Env) (refundId paymentId : Id) (payment : Payment) : Txn ApiError Db :=
  .statement (assertOrderCancelled "completion" payment) id fun _ =>
    match assertTransition payment.status .refunded with
    | .error e => .abort e
    | .ok _ => claimRefund env refundId paymentId payment

/-- `completeRefund`, statement by statement. -/
def completeRefundTxn (env : Env) (refundId : Id) : Txn ApiError Db :=
  .read fun db =>
    match db.refunds.findUnique refundId with
    | none =>
        .abort
          { message := "Refund request not found"
            status := some 404 }
    | some fresh =>
        if fresh.status = .completed then
          .commit
        else if !fresh.status.isOpen then
          .abort
            { message := "Refund is " ++ fresh.status.text ++ " and cannot be completed"
              status := some 409 }
        else
          match db.payments.findUnique fresh.paymentId with
          | none => .abort { message := "Cannot read properties of null" }
          | some payment => checkOrder env refundId fresh.paymentId payment

end MarketBridge
