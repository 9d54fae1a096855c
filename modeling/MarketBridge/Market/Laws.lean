import MarketBridge.Dispute.Runs

/-!
# Laws of the market

What holds of orders in every run of the market, whichever operations it takes and in whichever
order.
-/

namespace MarketBridge

open Relational

variable {env : Env} {db db' : Db} {orders orders' : Table Order}

/-! ## The life of an order -/

/-- The order is about the same deal, and has moved along the edges of the lifecycle. -/
structure OrderAged (_ : Id) (o o' : Order) : Prop where
  listing : o'.listingId = o.listingId
  buyer : o'.buyerId = o.buyerId
  seller : o'.sellerId = o.sellerId
  price : o'.finalPrice = o.finalPrice
  quantity : o'.quantity = o.quantity
  offer : o'.agreedOfferId = o.agreedOfferId
  moved : Relation.ReflTransGen (fun s t => t ∈ OrderStatus.transitions s) o.status o'.status

def OrdersAge (orders orders' : Table Order) : Prop :=
  forall i o, orders.findUnique i = some o ->
    exists o', orders'.findUnique i = some o' ∧ OrderAged i o o'

theorem OrderAged.refl (i : Id) (o : Order) : OrderAged i o o :=
  ⟨rfl, rfl, rfl, rfl, rfl, rfl, .refl⟩

theorem OrderAged.of_status {i : Id} {o : Order} {s : OrderStatus}
    (h : canTransitionOrder o.status s = true) :
    OrderAged i o { o with status := s } := by
  refine ⟨rfl, rfl, rfl, rfl, rfl, rfl, ?_⟩
  simp only [canTransitionOrder, Bool.or_eq_true, decide_eq_true_eq] at h
  rcases h with hsame | hedge
  · rw [hsame]
  · exact .single hedge

theorem OrderAged.ended {i : Id} {o o' : Order} (h : OrderAged i o o')
    (hended : o.status.transitions = []) :
    o'.status = o.status := by
  rcases h.moved.cases_head with hsame | ⟨s, hedge, -⟩
  · exact hsame.symm
  · rw [hended] at hedge
    cases hedge

theorem OrdersAge.refl (orders : Table Order) : OrdersAge orders orders :=
  fun i o h => ⟨o, h, .refl i o⟩

theorem OrdersAge.trans {orders'' : Table Order} (h : OrdersAge orders orders')
    (h' : OrdersAge orders' orders'') :
    OrdersAge orders orders'' := by
  intro i o ho
  obtain ⟨o', ho', hage⟩ := h i o ho
  obtain ⟨o'', ho'', hage'⟩ := h' i o' ho'
  exact ⟨o'', ho'', hage'.listing.trans hage.listing, hage'.buyer.trans hage.buyer,
    hage'.seller.trans hage.seller, hage'.price.trans hage.price,
    hage'.quantity.trans hage.quantity, hage'.offer.trans hage.offer, hage.moved.trans hage'.moved⟩

theorem ordersAge_of_rel (h : orders.Rel OrderAged orders') : OrdersAge orders orders' :=
  fun _ _ ho => h.of_left ho

theorem ordersAge_update {orderId : Id} {order : Order} {f : Order -> Order}
    (hfind : orders.findUnique orderId = some order) (h : OrderAged orderId order (f order)) :
    OrdersAge orders (orders.update orderId f) := by
  refine ordersAge_of_rel (Table.rel_update OrderAged.refl fun o ho => ?_)
  obtain rfl := Option.some.inj (hfind.symm.trans ho)
  exact h

theorem OrderMove.ordersAge {listings listings' : Table Listing}
    (h : OrderMove orders listings orders' listings') :
    OrdersAge orders orders' := by
  cases h with
  | kept => exact .refl _
  | confirmed orderId order committed _ hfind hpending =>
      refine ordersAge_update hfind ⟨rfl, rfl, rfl, rfl, rfl, rfl, .single ?_⟩
      show OrderStatus.confirmed ∈ _
      rw [hpending]
      decide
  | arranged orderId =>
      refine ordersAge_of_rel (Table.rel_updateMany OrderAged.refl fun i o _ hselects => ?_)
      obtain ⟨-, hconfirmed⟩ := Bool.and_eq_true_iff.mp hselects
      refine .of_status ?_
      rw [of_decide_eq_true hconfirmed]
      decide

theorem Progress.ordersAge (h : Progress db db') : OrdersAge db.orders db'.orders := by
  induction h with
  | refl => exact .refl _
  | tail _ hstep ih => exact ih.trans hstep.moved.ordersAge

theorem OrderCancelled.ordersAge {record : OrderRecord} (h : OrderCancelled record db db') :
    OrdersAge db.orders db'.orders := by
  obtain ⟨order, hfind, hstatus⟩ := h.found
  rw [h.orders]
  have hage : OrderAged record.id order { order with status := .cancelled } :=
    .of_status (hstatus ▸ h.allowed)
  exact ordersAge_update hfind ⟨rfl, rfl, rfl, rfl, rfl, rfl, hage.moved⟩

theorem StepEffect.ordersAge {a : MarketStep} (h : StepEffect env db a db') :
    OrdersAge db.orders db'.orders := by
  cases h with
  | quiet _ _ h =>
      rw [h.orders]
      exact .refl _
  | ordered _ _ _ _ order _ _ horders =>
      rw [horders]
      intro i o ho
      have hi : i ≠ db.orders.size := Nat.ne_of_lt (Table.lt_size_of_findUnique ho)
      exact ⟨o, by rw [Table.findUnique_create, if_neg hi, ho], .refl i o⟩
  | settled _ _ h => exact h.ordersAge
  | shipped orderId leg order hfind hsource =>
      refine ordersAge_update hfind (.of_status ?_)
      rw [hsource]
      cases leg <;> decide
  | received _ orderId order _ hfind _ hallowed horders =>
      rw [horders]
      exact ordersAge_update hfind (.of_status hallowed)
  | cancelled _ _ _ _ _ _ _ _ _ h => exact h.ordersAge
  | raised _ request order _ hfind hdisputable horders =>
      rw [horders]
      refine ordersAge_update hfind (.of_status ?_)
      obtain ⟨-, hedge⟩ := List.mem_filter.mp hdisputable
      rw [canTransitionOrder, Bool.or_eq_true]
      exact Or.inr hedge
  | resolvedByCancelling _ _ _ _ _ _ _ _ _ h => exact h.ordersAge
  | resolvedByRestoring _ _ _ _ dispute _ _ _ hresolvable hrestored hreplayed =>
      obtain ⟨order, hfind, hdisputed⟩ := hresolvable.disputed
      refine OrdersAge.trans ?_ hreplayed.ordersAge
      rw [hrestored.orders]
      refine ordersAge_update hfind (.of_status ?_)
      rw [hdisputed]
      cases dispute.previousOrderStatus.getD .confirmed <;> decide

def OrdersFollow (orders orders' : Table Order) : Prop :=
  forall i o, orders.findUnique i = some o ->
    exists o', orders'.findUnique i = some o' ∧ OrderAged i o o' ∧
      (o.status = .completed ∨ o.status = .cancelled -> o'.status = o.status)

end MarketBridge
