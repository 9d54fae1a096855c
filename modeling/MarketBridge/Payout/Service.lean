import MarketBridge.Payment.Records

/-!
# Payout service

The holds, releases and cancellations of `payoutService.js`.  Most operations
first read the payouts they are about and then write them one by one; the
releases write with a condition on the current status.  Each operation is its
list of write statements, and inside one transaction these run in a row.
-/

namespace MarketBridge

open Relational

def PayoutStatus.text : PayoutStatus -> String
  | .held => "HELD"
  | .onHoldDispute => "ON_HOLD_DISPUTE"
  | .released => "RELEASED"
  | .paidOut => "PAID_OUT"
  | .cancelled => "CANCELLED"

/-- `payoutRolesForDispute`: the roles a dispute is about, or all of them. -/
def payoutRolesForDispute (disputeType : String) : Option (List PayoutPayeeRole) :=
  let type := upper disputeType
  if includesText type "TRANSPORT" || includesText type "TRUCK" ||
      includesText type "DELIVERY" then
    some [.transporter]
  else if includesText type "INSPECT" then
    some [.inspector]
  else if includesText type "SELLER" || includesText type "PRODUCT" ||
      includesText type "GOODS" || includesText type "MARKETPLACE" then
    some [.seller]
  else
    none

def isDisputedRole (disputeType : String) (role : PayoutPayeeRole) : Bool :=
  (payoutRolesForDispute disputeType).all fun roles => role ∈ roles

def payoutRequestId (db : Db) (payout : Payout) : Option Id :=
  (db.payments.findUnique payout.paymentId).bind (·.inspectionRequestId)

def inspectorFeeIsEarned (db : Db) (payout : Payout) : Bool :=
  payout.payeeRole = .inspector &&
    (related db.inspectionRequests (payoutRequestId db payout)).any fun request =>
      request.status = .completed

/-! ## The payouts an operation reads -/

def freezesReport (env : Env) (disputeType : String) : Bool :=
  includesText (upper disputeType) "INSPECT" && env.freezeInspectorFeeOnReportDispute

/-- The payouts that `holdForDispute` freezes. -/
def selectsForHold (env : Env) (db : Db) (orderId : Id) (disputeType : String)
    (payout : Payout) : Bool :=
  payout.orderId = some orderId && payout.status ∈ [PayoutStatus.held, .released] &&
    isDisputedRole disputeType payout.payeeRole &&
    !(!freezesReport env disputeType && inspectorFeeIsEarned db payout)

/-- The payouts that `resumeAfterDispute` thaws. -/
def selectsForResume (orderId : Id) (disputeType : String) (payout : Payout) : Bool :=
  payout.orderId = some orderId && payout.status = .onHoldDispute &&
    isDisputedRole disputeType payout.payeeRole

/-- The payouts that `cancelAfterDispute` cancels. -/
def selectsForDisputeCancel (orderId : Id) (payout : Payout) : Bool :=
  payout.orderId = some orderId && payout.status = .onHoldDispute

def isRetained (db : Db) (retainInspectionRequestIds : List Id) (payout : Payout) : Bool :=
  payout.payeeRole = .inspector && (payoutRequestId db payout).any fun requestId =>
    requestId ∈ retainInspectionRequestIds

/-- The payouts that `cancelPayoutsForOrder` cancels. -/
def selectsForOrderCancel (db : Db) (orderId : Id) (retainInspectionRequestIds : List Id)
    (payout : Payout) : Bool :=
  payout.orderId = some orderId &&
    payout.status ∈ [PayoutStatus.held, .released, .onHoldDispute] &&
    !isRetained db retainInspectionRequestIds payout

/-! ## Write statements -/

inductive PayoutWrite where
  /-- `update({ where: { id }, data: { status: 'ON_HOLD_DISPUTE' } })`. -/
  | hold (id : Id)
  /-- `update` of a resumed payout, with a fresh hold window. -/
  | resume (id : Id)
  /-- `update({ where: { id }, data: { status: 'CANCELLED' } })`. -/
  | cancel (id : Id)
  /-- `updateMany` of `releaseAt`, conditional on `HELD`. -/
  | defer (id : Id) (releaseAt : Nat)
  /-- `updateMany` claiming a due payout, conditional on `HELD`. -/
  | claim (id : Id) (at_ : Nat) (reviewedAt : Option Nat)
  /-- `update({ where: { id }, data: { status: 'PAID_OUT', … } })`. -/
  | payOut (id : Id) (actorId : Id) (payoutReference : Option String)
deriving DecidableEq, Repr

namespace PayoutWrite

def id : PayoutWrite -> Id
  | hold id => id
  | resume id => id
  | cancel id => id
  | defer id _ => id
  | claim id _ _ => id
  | payOut id _ _ => id

def guard : PayoutWrite -> Payout -> Bool
  | defer _ _, payout => payout.status = .held
  | claim _ at_ reviewedAt, payout =>
      payout.status = .held && (reviewedAt.isSome || payout.releaseAt ≤ at_)
  | _, _ => true

/-- The row that a statement leaves. -/
def write (env : Env) : PayoutWrite -> Payout -> Payout
  | hold _, payout => { payout with status := .onHoldDispute }
  | resume _, payout =>
      { payout with
        status := .held
        releaseAt := env.now + env.payoutHoldMs
        releasedAt := none
        paidOutAt := none
        payoutReference := none }
  | cancel _, payout => { payout with status := .cancelled }
  | defer _ releaseAt, payout => { payout with releaseAt := releaseAt }
  | claim _ at_ reviewedAt, payout =>
      { payout with
        status := .released
        releasedAt := some at_
        releaseAt := reviewedAt.getD payout.releaseAt }
  | payOut _ actorId payoutReference, payout =>
      { payout with
        status := .paidOut
        paidOutAt := some env.now
        paidOutById := some actorId
        payoutReference := jsOr payoutReference none }

def apply (env : Env) (w : PayoutWrite) (payouts : Table Payout) : Table Payout :=
  payouts.updateMany (fun i payout => i == w.id && w.guard payout) (w.write env)

end PayoutWrite

/-! ## Operations as statements -/

/-- The statements that follow a read: one by-id write for each payout found. -/
def writesFor (db : Db) (selects : Payout -> Bool) (w : Id -> PayoutWrite) :
    List PayoutWrite :=
  ((db.payouts.findMany fun _ payout => selects payout).map Prod.fst).map w

def holdForDisputeWrites (env : Env) (orderId : Id) (disputeType : String) (db : Db) :
    List PayoutWrite :=
  writesFor db (selectsForHold env db orderId disputeType) .hold

def resumeAfterDisputeWrites (orderId : Id) (disputeType : String) (db : Db) :
    List PayoutWrite :=
  writesFor db (selectsForResume orderId disputeType) .resume

def cancelAfterDisputeWrites (orderId : Id) (db : Db) : List PayoutWrite :=
  writesFor db (selectsForDisputeCancel orderId) .cancel

def cancelPayoutsForOrderWrites (orderId : Id) (retainInspectionRequestIds : List Id)
    (db : Db) : List PayoutWrite :=
  writesFor db (selectsForOrderCancel db orderId retainInspectionRequestIds) .cancel

/-- The `updatedAt` columns, which Prisma maintains on every write of a row. -/
structure UpdatedAt where
  order : Id -> Nat
  inspectionRequest : Id -> Nat

/-- The creation time of the newest `RECEIPT_CONFIRMED` event of an order. -/
def receiptConfirmedAt (db : Db) (orderId : Id) : Option Nat :=
  ((db.orderEvents.findMany fun _ e =>
    e.orderId = orderId && e.type = .receiptConfirmed).map fun e => e.2.createdAt).max?

/-- When the service behind a payout was completed, and the hold that follows. -/
def completion (env : Env) (updatedAt : UpdatedAt) (db : Db) (payout : Payout) :
    Option (Nat × Nat × Bool) :=
  match payout.payeeRole with
  | .inspector =>
      match payoutRequestId db payout with
      | none => none
      | some requestId =>
          match db.inspectionRequests.findUnique requestId with
          | none => none
          | some request =>
              if request.status = .completed then
                match request.reportAcceptedAt with
                | some acceptedAt => some (acceptedAt, 0, true)
                | none =>
                    some (request.completedAt.getD (updatedAt.inspectionRequest requestId),
                      env.reportReviewMs, true)
              else
                none
  | _ =>
      match payout.orderId with
      | none => none
      | some orderId =>
          match receiptConfirmedAt db orderId with
          | some confirmedAt => some (confirmedAt, env.payoutHoldMs, false)
          | none =>
              if (db.orders.findUnique orderId).any fun o => o.status = .completed then
                some (updatedAt.order orderId, env.payoutHoldMs, false)
              else
                none

/-- The statement that `releaseDuePayouts` issues for one held payout, if any. -/
def releaseWrite (env : Env) (updatedAt : UpdatedAt) (db : Db) (now : Nat)
    (id : Id) (payout : Payout) : Option PayoutWrite :=
  match completion env updatedAt db payout with
  | none => none
  | some (completionAt, holdMs, reviewRule) =>
      let eligibleAt := completionAt + holdMs
      let effectiveAt := if reviewRule then eligibleAt else max payout.releaseAt eligibleAt
      if now < effectiveAt then
        if effectiveAt ≠ payout.releaseAt then some (.defer id effectiveAt) else none
      else
        some (.claim id now (if reviewRule then some effectiveAt else none))

def releaseDuePayoutsWrites (env : Env) (updatedAt : UpdatedAt) (now : Nat) (db : Db) :
    List PayoutWrite :=
  ((db.payouts.findMany fun _ payout => payout.status = .held).take 500).filterMap
    fun e => releaseWrite env updatedAt db now e.1 e.2

/-- The single conditional statement of `releaseInspectorPayoutsForRequest`. -/
def releaseInspectorPayoutsForRequest (now : Nat) (inspectionRequestId : Id) (db : Db) :
    Table Payout :=
  db.payouts.updateMany
    (fun _ payout => payout.status = .held && payout.payeeRole = .inspector &&
      payoutRequestId db payout = some inspectionRequestId)
    fun payout =>
      { payout with
        status := .released
        releasedAt := some now
        releaseAt := now }

/-- The check of `markPaidOut` on the payout it has read, and its statement. -/
def markPaidOutWrite (payoutId actorId : Id) (payoutReference : Option String) (db : Db) :
    Except ApiError PayoutWrite :=
  match db.payouts.findUnique payoutId with
  | none =>
      .error
        { message := "Payout record not found"
          status := some 404 }
  | some payout =>
      if payout.status = .released then
        .ok (.payOut payoutId actorId payoutReference)
      else
        .error
          { message := "Payout is " ++ payout.status.text ++
              "; only a RELEASED payout can be marked paid out"
            status := some 409 }

/-! ## Operations inside one transaction -/

def runPayoutWrites (env : Env) (ws : List PayoutWrite) (db : Db) : Db :=
  { db with payouts := ws.foldl (fun payouts w => w.apply env payouts) db.payouts }

def holdForDispute (env : Env) (orderId : Id) (disputeType : String) (db : Db) : Db :=
  runPayoutWrites env (holdForDisputeWrites env orderId disputeType db) db

def resumeAfterDispute (env : Env) (orderId : Id) (disputeType : String) (db : Db) : Db :=
  runPayoutWrites env (resumeAfterDisputeWrites orderId disputeType db) db

def cancelPayoutsForOrder (env : Env) (orderId : Id)
    (retainInspectionRequestIds : List Id) (db : Db) : Db :=
  runPayoutWrites env
    (cancelPayoutsForOrderWrites orderId retainInspectionRequestIds db) db

def releaseDuePayouts (env : Env) (updatedAt : UpdatedAt) (now : Nat) (db : Db) : Db :=
  runPayoutWrites env (releaseDuePayoutsWrites env updatedAt now db) db

def markPaidOut (env : Env) (payoutId actorId : Id) (payoutReference : Option String) :
    Tx := fun db => do
  let w ← markPaidOutWrite payoutId actorId payoutReference db
  .ok (runPayoutWrites env [w] db)

theorem PayoutWrite.apply_of_guard {w : PayoutWrite}
    (hguard : forall payout, w.guard payout = true) (env : Env) (payouts : Table Payout) :
    w.apply env payouts = payouts.update w.id (w.write env) := by
  simp [PayoutWrite.apply, Table.update, hguard]

theorem runPayoutWrites_writesFor
    (env : Env) (db : Db) (selects : Payout -> Bool) {w : Id -> PayoutWrite}
    {f : Payout -> Payout}
    (hw : forall i payouts, (w i).apply env payouts = payouts.update i f) :
    runPayoutWrites env (writesFor db selects w) db =
      { db with payouts := db.payouts.updateMany (fun _ payout => selects payout) f } := by
  unfold runPayoutWrites writesFor
  rw [List.foldl_map]
  simp only [hw]
  have h := Table.updateEach_findMany db.payouts (fun _ payout => selects payout) f
  unfold Table.updateEach at h
  rw [h]

theorem holdForDispute_eq (env : Env) (orderId : Id) (disputeType : String) (db : Db) :
    holdForDispute env orderId disputeType db =
      { db with
        payouts := db.payouts.updateMany
          (fun _ payout => selectsForHold env db orderId disputeType payout)
          ({ · with status := .onHoldDispute }) } :=
  runPayoutWrites_writesFor env db _
    fun i payouts => PayoutWrite.apply_of_guard (w := .hold i) (fun _ => rfl) env payouts

theorem resumeAfterDispute_eq (env : Env) (orderId : Id) (disputeType : String) (db : Db) :
    resumeAfterDispute env orderId disputeType db =
      { db with
        payouts := db.payouts.updateMany
          (fun _ payout => selectsForResume orderId disputeType payout)
          (PayoutWrite.write env (.resume 0)) } :=
  runPayoutWrites_writesFor env db _
    fun i payouts => PayoutWrite.apply_of_guard (w := .resume i) (fun _ => rfl) env payouts

theorem cancelPayoutsForOrder_eq (env : Env) (orderId : Id)
    (retainInspectionRequestIds : List Id) (db : Db) :
    cancelPayoutsForOrder env orderId retainInspectionRequestIds db =
      { db with
        payouts := db.payouts.updateMany
          (fun _ payout =>
            selectsForOrderCancel db orderId retainInspectionRequestIds payout)
          ({ · with status := .cancelled }) } :=
  runPayoutWrites_writesFor env db _
    fun i payouts => PayoutWrite.apply_of_guard (w := .cancel i) (fun _ => rfl) env payouts

end MarketBridge
