import MarketBridge.Order.Cancellation

/-!
# Order lifecycle routes

The confirmation of receipt and the cancellation of an order by one of its
parties or an admin.
-/

namespace MarketBridge

open Relational

def httpError (status : Nat) (message : String) : ApiError :=
  { message := message
    status := some status }

namespace TransportStatus

def text : TransportStatus -> String
  | .requested => "REQUESTED"
  | .accepted => "ACCEPTED"
  | .quoted => "QUOTED"
  | .pickup => "PICKUP"
  | .inTransit => "IN_TRANSIT"
  | .delivered => "DELIVERED"
  | .cancelled => "CANCELLED"

/-- `TRANSPORT_IN_MOTION_STATUSES`. -/
def isInMotion (s : TransportStatus) : Bool :=
  s ∈ [TransportStatus.pickup, .inTransit, .delivered]

end TransportStatus

def hasPaid (db : Db) (orderId : Id) (type : PaymentType) : Bool :=
  (paymentsOf db orderId).any fun p => p.2.type = type && p.2.status = .paid

/-- `PATCH /orders/:id/confirm-receipt`. -/
def confirmReceipt (env : Env) (userId orderId : Id) : Tx := fun db =>
  match db.orders.findUnique orderId with
  | none => .error (httpError 404 "Order not found")
  | some order =>
      if order.buyerId ≠ userId then
        .error (httpError 403 "Only the buyer can confirm receipt")
      else if order.status = .completed then
        .error (httpError 400 "Order has already been completed")
      else
        match transportJobOf db orderId with
        | none => .error (httpError 400 "No transport record exists for this order")
        | some (_, job) =>
            if job.status ≠ .delivered then
              .error (httpError 400 ("Receipt cannot be confirmed while transport status is " ++
                job.status.text))
            else if !hasPaid db orderId .marketplace then
              .error (httpError 402
                "Marketplace payment must be PAID before receipt can be confirmed")
            else if job.method = .hireTransporter ∧ hasPaid db orderId .transport = false then
              .error (httpError 402
                "Transport payment must be PAID before receipt can be confirmed")
            else do
              let db ← transitionOrderStatus orderId order.status .completed db
              .ok (recordOrderEvent env (some orderId) .receiptConfirmed db)

/-- What the cancellation loads the order with. -/
inductive OrderLoad where
  | included
  | selected
deriving DecidableEq, Repr

def loadOrder (load : OrderLoad) (db : Db) (orderId : Id) : Option OrderRecord :=
  match load with
  | .included => includeOrder db orderId
  | .selected => selectOrder db orderId

def cancelLoadedOrder (env : Env) (load : OrderLoad) (orderId : Id) (actorId : Option Id)
    (reason : Option String) (role : CancelledByRole) : Tx := fun db =>
  match loadOrder load db orderId with
  | none => .error (httpError 409 "Order is no longer cancellable")
  | some record => cancelOrderInTransaction env record actorId reason role db

end MarketBridge
