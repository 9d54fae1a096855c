import MarketBridge.Market.Effects
import MarketBridge.Order.PaymentWindow
import MarketBridge.Relational.Requests
import MarketBridge.Transport.Cancellation

/-!
# Decisions of buyers in flight

A decision of the buyer, the answer to a price review and the deadline of the decision
are transactions that read the order first and write it at their end, by its key.  From
its first write on, a transaction holds the row, so its writes are taken together.
-/

namespace MarketBridge

open Relational

/-! ## Writes -/

/-- What writes the decision of an order, or closes the order for want of one. -/
inductive DecisionSource where
  /-- `PATCH /orders/:id/buyer-decision`. -/
  | route
  /-- `PATCH /orders/:id/price-reviews/:reviewId/respond`. -/
  | review
  /-- `expireStep5Deadlines`. -/
  | deadline
deriving DecidableEq, Repr

/-- A write to an order, with what its transaction has read of the order. -/
structure DecisionWrite where
  source : DecisionSource
  now : Nat
  orderId : Id
  found : Db

abbrev DecisionRequest :=
  Request (Option DecisionWrite) ApiError Db

/-- `cancelFor`, on the order as it was read from `found`. -/
def cancelFound (env : Env) (caller : CancelCaller) (found : Db) (orderId : Id)
    (actorId : Option Id) (reason : Option String) (role : CancelledByRole) : Tx := fun db =>
  match loadOrder caller.load found orderId with
  | none => .error (httpError 409 "Order is no longer cancellable")
  | some record =>
      cancelOrderInTransaction env record actorId reason role
        { db with orders := db.orders.update orderId caller.mark }

def recordAfter (env : Env) (orderId : Id) (type : OrderEventType) : DecisionRequest :=
  .statement none (recordOrderEvent env (some orderId) type) fun _ => .done

/-! ## The decision -/

/-- The conditional write of a decision to buy. -/
def claimBuy (env : Env) (orderId : Id) : Tx := fun db =>
  if (db.orders.findUnique orderId).any fun order =>
      order.buyerDecision.isNone && order.status.isRunning then
    .ok { db with
      orders := db.orders.update orderId ({ · with
        buyerDecision := some .buy
        buyerReviewedReportAt := some env.now
        buyerDecisionDueAt := none }) }
  else
    .error
      { message := "The buyer decision was already recorded or the order changed. " ++
          "Refresh the order and try again."
        status := some 409
        code := some "BUYER_DECISION_CONFLICT" }

def hasPendingReview (db : Db) (orderId : Id) : Bool :=
  (db.priceReviews.findFirst fun _ r => r.orderId = orderId && r.status = .pending).isSome

def hasConfirmedPrice (db : Db) (orderId : Id) : Bool :=
  db.priceReviews.any fun _ r => r.orderId = orderId && r.status = .accepted &&
    r.reasonCode ≠ .buyerWantsCancellation

/--
`PATCH /orders/:id/buyer-decision`.  The price reviews are read by statements of their own;
which check fails first shows in the message only.
-/
def decideRequest (env : Env) (userId orderId : Id) (decision : BuyerDecision)
    (reason : Option String) : DecisionRequest :=
  .read fun found =>
    match found.orders.findUnique orderId with
    | none => .done
    | some order =>
        match assertMayDecide found userId orderId .cancel order with
        | .error _ => .done
        | .ok _ =>
            let write : DecisionWrite :=
              { source := .route
                now := env.now
                orderId := orderId
                found := found }
            match decision with
            | .cancel =>
                .attempt (some write) (fun db =>
                  cancelFound env .buyerDecision found orderId (some userId)
                    (jsOr reason (some "Buyer declined the transaction after inspection")) .buyer
                    (recordOrderEvent env (some orderId) .buyerDecisionMade db)) fun _ => .done
            | .buy =>
                .read fun pending =>
                  if hasPendingReview pending orderId then
                    .done
                  else
                    .read fun accepted =>
                      if hasConfirmedPrice accepted orderId then
                        .attempt (some write) (claimBuy env orderId) fun
                          | .ok _ => recordAfter env orderId .buyerDecisionMade
                          | .error _ => .done
                      else
                        .done

/-! ## Price reviews -/

def claimReview (reviewId : Id) (next : Tx) : Tx := fun db =>
  if (db.priceReviews.findUnique reviewId).any fun review => review.status = .pending then
    next db
  else
    .error (httpError 409 "This proposal was already answered. Refresh and try again.")

def setReviewStatus (reviewId : Id) (status : PriceReviewStatus) (db : Db) : Db :=
  { db with priceReviews := db.priceReviews.update reviewId ({ · with status := status }) }

/-- `PATCH /orders/:id/price-reviews/:reviewId/respond`. -/
def respondRequest (env : Env) (userId orderId reviewId : Id) (action : PriceReviewAction) :
    DecisionRequest :=
  .read fun found =>
    match found.orders.findUnique orderId with
    | none => .done
    | some order =>
        .read fun reviews =>
          match assertMayAnswer found userId orderId order
              (reviews.priceReviews.findUnique reviewId) with
          | .error _ => .done
          | .ok review =>
              let write : DecisionWrite :=
                { source := .review
                  now := env.now
                  orderId := orderId
                  found := found }
              let after (type : OrderEventType) : Except ApiError Unit -> DecisionRequest
                | .ok _ => recordAfter env orderId type
                | .error _ => .done
              let asked := review.reasonCode = .buyerWantsCancellation
              match action with
              | .accept =>
                  if asked then
                    -- the order is read once more, after the review was claimed
                    .read fun full =>
                      .attempt (some write) (claimReview reviewId fun db =>
                        cancelFound env .priceReview full orderId (some userId)
                          (some "Seller accepted buyer cancellation request") .buyer
                          (setReviewStatus reviewId .accepted db))
                        (after .priceReviewAcceptCancellation)
                  else
                    .attempt (some write) (claimReview reviewId fun db =>
                      .ok { setReviewStatus reviewId .accepted db with
                        orders := db.orders.update orderId
                          (·.acceptPrice env review.proposedPrice) })
                      (after .priceReviewAccept)
              | .counter proposedPrice reasonCode =>
                  .attempt none (claimReview reviewId
                    (counterProposal env userId orderId reviewId order review proposedPrice
                      reasonCode (!asked))) fun _ => .done
              | .reject =>
                  if asked then
                    .done
                  else
                    .attempt none (claimReview reviewId fun db =>
                      .ok (setReviewStatus reviewId .rejected db)) (after .priceReviewReject)

/-! ## The deadline -/

def OrderStatus.isDecidable (status : OrderStatus) : Bool :=
  status ∉ [OrderStatus.cancelled, .completed, .disputed]

def Order.isUndecided (now : Nat) (order : Order) : Bool :=
  order.status.isDecidable && order.buyerDecision.isNone && isDue now order.buyerDecisionDueAt

def mayExpireDecision (now : Nat) (db : Db) (orderId : Id) : Bool :=
  ((db.orders.findUnique orderId).any fun order => order.isUndecided now) &&
    !(paymentsOf db orderId).any fun p => p.2.status ∈ [PaymentStatus.paid, .processing]

/-- The buyer decisions of `expireStep5Deadlines`, one transaction an order. -/
def expireDecisions (env : Env) : List Id -> DecisionRequest
  | [] => .done
  | orderId :: rest =>
      .read fun found =>
        if mayExpireDecision env.now found orderId then
          .attempt
            (some
              { source := .deadline
                now := env.now
                orderId := orderId
                found := found })
            (fun db => cancelFound env .decisionExpiry found orderId none
              (some "Buyer did not choose BUY or CANCEL before the decision deadline") .system
              (recordOrderEvent env (some orderId) .buyerDecisionDeadlineExpired db))
            fun _ => expireDecisions env rest
        else
          expireDecisions env rest

def expireStep5Deadlines (env : Env) : DecisionRequest :=
  .read fun db =>
    expireDecisions env (((db.orders.findMany fun _ order => order.isUndecided env.now).take
      200).map Prod.fst)

/-- No decision is due yet, and the seller has prepared the goods for an accepted transporter. -/
def needsDeadline (db : Db) (orderId : Id) (order : Order) : Bool :=
  order.status.isDecidable && order.buyerDecision.isNone && order.buyerDecisionDueAt.isNone &&
    (transportJobOf db orderId).any fun job =>
      job.2.status = .accepted && job.2.sellerPickupConfirmedAt.isSome

/-- The deadlines that `backfillStep5Deadlines` sets; `dueAt` is `computeBuyerDecisionDueAt`. -/
def backfillDecisions (dueAt : Nat) : List Id -> DecisionRequest
  | [] => .done
  | orderId :: rest =>
      .statement none
        (fun db => { db with
          orders := db.orders.updateMany
            (fun i order => i == orderId && order.status.isDecidable &&
              order.buyerDecision.isNone && order.buyerDecisionDueAt.isNone)
            ({ · with buyerDecisionDueAt := some dueAt }) })
        fun _ => backfillDecisions dueAt rest

def backfillStep5Deadlines (dueAt : Nat) : DecisionRequest :=
  .read fun db =>
    backfillDecisions dueAt (((db.orders.findMany fun i order =>
      needsDeadline db i order).take 500).map Prod.fst)

/-! ## Runs -/

inductive DecisionCall where
  | decide (env : Env) (userId orderId : Id) (decision : BuyerDecision) (reason : Option String)
  | respond (env : Env) (userId orderId reviewId : Id) (action : PriceReviewAction)
  | expire (env : Env)
  | backfill (dueAt : Nat)

def DecisionCall.request : DecisionCall -> DecisionRequest
  | decide env userId orderId decision reason =>
      decideRequest env userId orderId decision reason
  | respond env userId orderId reviewId action =>
      respondRequest env userId orderId reviewId action
  | expire env => expireStep5Deadlines env
  | backfill dueAt => backfillStep5Deadlines dueAt

inductive DecisionStep where
  | submit (call : DecisionCall)
  | advance (k : Nat)
  /-- Disputes, payments, cancellations and all else on the market. -/
  | market (a : Env × MarketStep)

abbrev DecisionServer :=
  Server (Option DecisionWrite) ApiError Db

namespace DecisionServer

def step (s : DecisionServer) : DecisionStep -> DecisionServer
  | .submit call => Server.submit s call.request
  | .advance k => Server.advance s k
  | .market a => { s with state := MarketStep.step s.state a }

def writes (s : DecisionServer) : DecisionStep -> Option DecisionWrite
  | .advance k => (Server.publishes s k).join
  | _ => none

end DecisionServer

/-! ## Statements -/

/-- The inspection that the routes look at is completed, with its report. -/
def inspectionCompleted (db : Db) (orderId : Id) : Bool :=
  (latestInspection db orderId).any fun e => e.2.status = .completed && hasReport db e.1

/-- A decision on the order may be recorded. -/
structure MayRecord (now : Nat) (db : Db) (orderId : Id) (order : Order) : Prop where
  first : order.buyerDecision = none
  running : order.status.isDecidable = true
  inspected : inspectionCompleted db orderId = true
  inTime : isDue now order.buyerDecisionDueAt = false

/-- The decision window is enforced by the step. -/
structure EnforcesWindow (s : DecisionServer) (a : DecisionStep) : Prop where
  /-- A decision is recorded only where it may be. -/
  recorded : forall orderId order order', s.state.orders.findUnique orderId = some order ->
    (DecisionServer.step s a).state.orders.findUnique orderId = some order' ->
      order'.buyerDecision ≠ order.buyerDecision ->
        exists w, DecisionServer.writes s a = some w ∧ w.orderId = orderId ∧
          MayRecord w.now s.state orderId order
  /-- A recorded decision stays. -/
  once : forall orderId order order' decision,
    s.state.orders.findUnique orderId = some order ->
      (DecisionServer.step s a).state.orders.findUnique orderId = some order' ->
        order.buyerDecision = some decision -> order'.buyerDecision = some decision
  /-- The deadline cancels no order that is bought. -/
  bought : forall w orderId order order', DecisionServer.writes s a = some w ->
    w.source = .deadline -> s.state.orders.findUnique orderId = some order ->
      (DecisionServer.step s a).state.orders.findUnique orderId = some order' ->
        order.buyerDecision = some .buy -> order'.status = .cancelled ->
          order.status = .cancelled

def decisionView (db : Db) (orderId : Id) :
    Option (OrderStatus × Option BuyerDecision) × Bool :=
  ((db.orders.findUnique orderId).map fun order => (order.status, order.buyerDecision),
    inspectionCompleted db orderId)

def decisionIsDue (now : Nat) (db : Db) (orderId : Id) : Bool :=
  (db.orders.findUnique orderId).any fun order => isDue now order.buyerDecisionDueAt

/--
The order is still as the transaction has read it, and a decision is in time; a price is
accepted only on a completed inspection.
-/
def DecisionWrite.isFresh (w : DecisionWrite) (db : Db) : Bool :=
  decisionView w.found w.orderId = decisionView db w.orderId &&
    (w.source = .deadline || !decisionIsDue w.now db w.orderId) &&
      (w.source ≠ .review || inspectionCompleted db w.orderId)

def DecisionServer.writesFresh (s : DecisionServer) (a : DecisionStep) : Bool :=
  (DecisionServer.writes s a).all fun w => w.isFresh s.state

def CancelsClosed (orders : Table Order) : Prop :=
  orders.All fun _ order => order.buyerDecision = some .cancel -> order.status = .cancelled

end MarketBridge
