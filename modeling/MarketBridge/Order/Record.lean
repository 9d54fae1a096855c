import MarketBridge.Order.StateMachine

/-!
# Order records

The order object that the cancellation and inventory services receive.  Its
callers load it with different `include` and `select` clauses, so a column that
the caller did not load is missing from the record.
-/

namespace MarketBridge

open Relational

/-- A payment of the order; `type` is missing when it was not selected. -/
structure LoadedPayment where
  type : Option PaymentType
  status : PaymentStatus
deriving DecidableEq, Repr

structure LoadedTransportJob where
  id : Id
  status : TransportStatus
  truckId : Option Id
deriving DecidableEq, Repr

structure OrderRecord where
  id : Id
  listingId : Id
  quantity : ℚ
  status : OrderStatus
  agreedOfferId : Option Id
  payments : List LoadedPayment
  transportJob : Option LoadedTransportJob
deriving DecidableEq, Repr

/-- The `transportJob` relation: `TransportJob.orderId` is unique. -/
def transportJobOf (db : Db) (orderId : Id) : Option (Id × TransportJob) :=
  db.transportJobs.findFirst fun _ job => job.orderId = orderId

def paymentsOf (db : Db) (orderId : Id) : List (Id × Payment) :=
  db.payments.findMany fun _ p => p.orderId = some orderId

def liveInspections (db : Db) (orderId : Id) : List (Id × InspectionRequest) :=
  db.inspectionRequests.findMany fun _ request =>
    request.orderId = some orderId && request.status ≠ .cancelled

/-- An order loaded with `include: { transportJob: true, payments: true }`. -/
def includeOrder (db : Db) (orderId : Id) : Option OrderRecord :=
  (db.orders.findUnique orderId).map fun o =>
    { id := orderId
      listingId := o.listingId
      quantity := o.quantity
      status := o.status
      agreedOfferId := o.agreedOfferId
      payments := (paymentsOf db orderId).map fun e => ⟨some e.2.type, e.2.status⟩
      transportJob := (transportJobOf db orderId).map fun e =>
        ⟨e.1, e.2.status, e.2.truckId⟩ }

/--
An order loaded with the narrow `select` of the buyer decision and of the price
review: no `agreedOfferId`, payments without their type, the transport job
without its truck.
-/
def selectOrder (db : Db) (orderId : Id) : Option OrderRecord :=
  (db.orders.findUnique orderId).map fun o =>
    { id := orderId
      listingId := o.listingId
      quantity := o.quantity
      status := o.status
      agreedOfferId := none
      payments := (paymentsOf db orderId).map fun e => ⟨none, e.2.status⟩
      transportJob := (transportJobOf db orderId).map fun e =>
        ⟨e.1, e.2.status, none⟩ }

end MarketBridge
