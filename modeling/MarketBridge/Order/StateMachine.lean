import MarketBridge.Schema.Rows

/-!
# Order lifecycle

The strict order lifecycle of `orderStateMachine.js` and the conditional write
that moves one order along it.
-/

namespace MarketBridge

open Relational

namespace OrderStatus

def text : OrderStatus -> String
  | .pendingPayment => "PENDING_PAYMENT"
  | .confirmed => "CONFIRMED"
  | .transportArranged => "TRANSPORT_ARRANGED"
  | .inTransit => "IN_TRANSIT"
  | .delivered => "DELIVERED"
  | .completed => "COMPLETED"
  | .disputed => "DISPUTED"
  | .cancelled => "CANCELLED"

/-- `ORDER_TRANSITIONS`: the statuses an order may move to. -/
def transitions : OrderStatus -> List OrderStatus
  | .pendingPayment => [.confirmed, .cancelled, .disputed]
  | .confirmed => [.transportArranged, .cancelled, .disputed]
  | .transportArranged => [.inTransit, .delivered, .cancelled, .disputed]
  | .inTransit => [.delivered, .disputed]
  | .delivered => [.completed, .disputed]
  | .completed => []
  | .disputed =>
      [.pendingPayment, .confirmed, .transportArranged, .inTransit, .delivered,
        .completed, .cancelled]
  | .cancelled => []

end OrderStatus

def canTransitionOrder (source target : OrderStatus) : Bool :=
  source = target || target ∈ source.transitions

/-- `DISPUTABLE_STATUSES`: every status with an edge into `DISPUTED`. -/
def disputableStatuses : List OrderStatus :=
  [.pendingPayment, .confirmed, .transportArranged, .inTransit, .delivered,
    .completed, .disputed, .cancelled].filter fun s =>
      .disputed ∈ s.transitions

def assertOrderTransition (source target : OrderStatus) : Except ApiError Unit :=
  if canTransitionOrder source target then
    .ok ()
  else
    .error
      { message := "Invalid order status transition: " ++ source.text ++
          " -> " ++ target.text
        status := some 409
        code := some "INVALID_ORDER_TRANSITION" }

/--
Move an order from `source` to `target`.  The write is conditional on the
current status, so it fails on an order that has left `source`.
-/
def transitionOrderStatus (orderId : Id) (source target : OrderStatus) : Tx :=
  fun db => do
    assertOrderTransition source target
    if (db.orders.findUnique orderId).any fun o => o.status = source then
      .ok { db with orders := db.orders.update orderId ({ · with status := target }) }
    else
      .error
        { message := "Order changed before transition could be applied: expected " ++
            source.text
          status := some 409
          code := some "ORDER_STATE_CONFLICT" }

/-- `lockOrderAndAssertNotClosed`. -/
def assertNotClosed (order : Order) (actionLabel : String) : Except ApiError Unit :=
  if order.status ∈ [OrderStatus.disputed, .cancelled] then
    .error
      { message := "This order is " ++ order.status.text.toLower ++ ", so " ++ actionLabel ++ "."
        status := some 409
        code := some "ORDER_NOT_ACTIONABLE" }
  else
    .ok ()

theorem assertOrderTransition_eq_ok_iff {s t : OrderStatus} :
    assertOrderTransition s t = .ok () ↔ canTransitionOrder s t = true := by
  unfold assertOrderTransition
  split <;> simp_all

theorem transitionOrderStatus_eq_ok_iff
    {orderId : Id} {source target : OrderStatus} {db db' : Db} :
    transitionOrderStatus orderId source target db = .ok db' ↔
      canTransitionOrder source target = true ∧
        (exists o, db.orders.findUnique orderId = some o ∧ o.status = source) ∧
        db' = { db with
          orders := db.orders.update orderId ({ · with status := target }) } := by
  unfold transitionOrderStatus
  rw [bind_eq_ok]
  constructor
  · rintro ⟨_, hassert, hwrite⟩
    refine ⟨assertOrderTransition_eq_ok_iff.mp hassert, ?_⟩
    cases ho : db.orders.findUnique orderId with
    | none =>
        simp [ho] at hwrite
    | some o =>
        by_cases hs : o.status = source
        · simp only [ho, Option.any_some, hs, decide_true, if_true,
            Except.ok.injEq] at hwrite
          exact ⟨⟨o, rfl, hs⟩, hwrite.symm⟩
        · simp [ho, hs] at hwrite
  · rintro ⟨hcan, ⟨o, ho, hs⟩, rfl⟩
    refine ⟨(), assertOrderTransition_eq_ok_iff.mpr hcan, ?_⟩
    simp [ho, hs]

end MarketBridge
