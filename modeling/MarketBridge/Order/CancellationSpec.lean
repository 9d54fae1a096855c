import MarketBridge.Order.Cancellation
import MarketBridge.Refund.Operations

/-!
# What a cancellation does

`OrderCancelled` says everything that a committed cancellation does to the
tables on which the invariants of the development are stated.
-/

namespace MarketBridge

open Relational

/-! ## Stock -/

def Listing.stock (l : Listing) : ListingCategory × ℚ × ℚ :=
  (l.category, l.quantity, l.availableQuantity)

def SameStock (listings listings' : Table Listing) : Prop :=
  forall i, (listings'.findUnique i).map Listing.stock =
    (listings.findUnique i).map Listing.stock

theorem SameStock.refl (listings : Table Listing) : SameStock listings listings :=
  fun _ => rfl

theorem SameStock.trans {t u v : Table Listing} (h : SameStock t u) (h' : SameStock u v) :
    SameStock t v :=
  fun i => (h' i).trans (h i)

theorem sameStock_update {listings : Table Listing} {i : Id} {f : Listing -> Listing}
    (hf : forall l, (f l).stock = l.stock) :
    SameStock listings (listings.update i f) := by
  intro j
  rw [Table.findUnique_update]
  split
  · cases listings.findUnique j with
    | none => rfl
    | some l => simp [hf]
  · rfl

def Listing.restore (quantity : ℚ) (l : Listing) : Listing :=
  { l with availableQuantity := min l.quantity (l.availableQuantity + quantity) }

def isForStock (db : Db) (listingId : Id) : Bool :=
  (db.listings.findUnique listingId).any fun l => l.category.isPhysical

def OrderRecord.givesBack (order : OrderRecord) (db : Db) : Bool :=
  order.inferredCommitted && isForStock db order.listingId

/-! ## Promotion -/

theorem promoteNextWaitingBuyer_frame (env : Env) (listingId : Id) (db : Db) :
    exists offers listings, SameStock db.listings listings ∧
      promoteNextWaitingBuyer env listingId db =
        { db with offers := offers, listings := listings } := by
  unfold promoteNextWaitingBuyer
  dsimp only
  split
  · refine ⟨_, _, ?_, rfl⟩
    exact sameStock_update fun _ => rfl
  · refine ⟨_, _, ?_, rfl⟩
    exact sameStock_update fun _ => rfl

theorem releaseWinner_frame (env : Env) (order : OrderRecord) (db : Db) :
    exists offers listings, SameStock db.listings listings ∧
      releaseWinner env order db = { db with offers := offers, listings := listings } := by
  unfold releaseWinner
  split
  · obtain ⟨offers, listings, hstock, h⟩ := promoteNextWaitingBuyer_frame env order.listingId
      { db with
        offers := db.offers.updateMany
          (fun i o => some i = order.agreedOfferId && o.status = .accepted)
          ({ · with status := .withdrawn }) }
    exact ⟨offers, listings, hstock, h⟩
  · exact ⟨db.offers, db.listings, SameStock.refl _, rfl⟩

/-! ## Goods -/

variable {order : OrderRecord} {db db' : Db} {env : Env} {reason : Option String}
  {actorId : Option Id}

theorem restoreGoods_eq_ok (h : restoreGoods order db = .ok db') :
    exists listings orders, db' = { db with listings := listings, orders := orders } ∧
      ((order.givesBack db = true ∧ 0 < order.quantity ∧
          SameStock (db.listings.update order.listingId (·.restore order.quantity)) listings ∧
          orders = db.orders.update order.id ({ · with goodsCommitted := false })) ∨
        (order.givesBack db = false ∧ SameStock db.listings listings ∧ orders = db.orders)) := by
  unfold restoreGoods at h
  rw [bind_eq_ok] at h
  obtain ⟨released, hrelease, hwrite⟩ := h
  cases released with
  | some restored =>
      obtain ⟨hinferred, hpos, listing, hl, hphysical, rfl⟩ :=
        releaseListingQuantity_eq_ok_some hrelease
      simp only [Except.ok.injEq] at hwrite
      refine ⟨_, _, hwrite.symm, Or.inl ⟨?_, hpos, ?_, rfl⟩⟩
      · simp [OrderRecord.givesBack, isForStock, hinferred, hl, hphysical]
      · intro i
        rw [Table.findUnique_update, Table.findUnique_update]
        split
        · cases db.listings.findUnique i <;> rfl
        · rfl
  | none =>
      have hkeeps : order.givesBack db = false := by
        unfold OrderRecord.givesBack isForStock
        cases releaseListingQuantity_eq_ok_none hrelease with
        | inl hinferred =>
            simp [hinferred]
        | inr hlisting =>
            rw [Bool.and_eq_false_iff]
            right
            cases hl : db.listings.findUnique order.listingId with
            | none => rfl
            | some listing => simpa using hlisting.2 listing hl
      dsimp only at hwrite
      split at hwrite <;> simp only [Except.ok.injEq] at hwrite
      · refine ⟨_, _, hwrite.symm, Or.inr ⟨hkeeps, ?_, rfl⟩⟩
        exact sameStock_update fun _ => rfl
      · exact ⟨_, _, hwrite.symm, Or.inr ⟨hkeeps, SameStock.refl _, rfl⟩⟩

/-! ## Refund requests -/

/-- Refunds are only added, and a payment still `PAID` was so before. -/
structure RefundsAdded (db db' : Db) : Prop where
  refunds : forall j r, db.refunds.findUnique j = some r -> db'.refunds.findUnique j = some r
  payments : forall i, db'.payments.findUnique i = db.payments.findUnique i ∨
    exists p s, db.payments.findUnique i = some p ∧ s ≠ .paid ∧
      db'.payments.findUnique i = some (p.withStatus s)

theorem RefundsAdded.refl (db : Db) : RefundsAdded db db :=
  ⟨fun _ _ h => h, fun _ => Or.inl rfl⟩

theorem RefundsAdded.trans {db'' : Db} (h : RefundsAdded db db') (h' : RefundsAdded db' db'') :
    RefundsAdded db db'' := by
  refine ⟨fun j r hr => h'.refunds j r (h.refunds j r hr), ?_⟩
  intro i
  rcases h'.payments i with heq' | ⟨p, s, hp, hs, hp'⟩
  · rw [heq']
    exact h.payments i
  · right
    rcases h.payments i with heq | ⟨q, s', hq, _, hq'⟩
    · exact ⟨p, s, heq ▸ hp, hs, hp'⟩
    · rw [hq', Option.some.injEq] at hp
      exact ⟨q, s, hq, hs, by rw [hp', ← hp]; rfl⟩

theorem RefundsAdded.paid (h : RefundsAdded db db') {i : Id} {p : Payment}
    (hp : db'.payments.findUnique i = some p) (hs : p.status = .paid) :
    db.payments.findUnique i = some p := by
  rcases h.payments i with heq | ⟨q, s, _, hne, hq'⟩
  · rwa [← heq]
  · rw [hq', Option.some.injEq] at hp
    rw [← hp] at hs
    exact absurd hs hne

theorem requestRefund_refundsAdded {paymentId id : Id} {amount : Option JsNumber}
    {requestedById : Option Id}
    (h : requestRefund env paymentId amount reason requestedById db = .ok (db', id)) :
    RefundsAdded db db' ∧
      (exists j r, db'.refunds.findUnique j = some r ∧ r.paymentId = paymentId) ∧
      exists payments refunds events, db' = { db with
        payments := payments
        refunds := refunds
        orderEvents := events } := by
  obtain ⟨p, hp, hcases⟩ := requestRefund_cases h
  cases hcases with
  | inl hexisting =>
      obtain ⟨rfl, r, hr, howner⟩ := hexisting
      exact ⟨RefundsAdded.refl _, ⟨id, r, hr, howner⟩, _, _, _, rfl⟩
  | inr hnew =>
      obtain ⟨-, -, -, r, events, howner, -, -, rfl⟩ := hnew
      refine ⟨⟨?_, ?_⟩, ⟨db.refunds.size, r, Table.findUnique_create_self _ _, howner⟩,
        _, _, _, rfl⟩
      · intro j q hq
        have hj : j ≠ db.refunds.size := Nat.ne_of_lt (Table.lt_size_of_findUnique hq)
        rw [Table.findUnique_create, if_neg hj]
        exact hq
      · intro i
        by_cases hi : i = paymentId
        · subst hi
          exact Or.inr ⟨p, .refundPending, hp, by decide, by simp [hp]⟩
        · exact Or.inl (Table.findUnique_update_ne hi)

theorem requestRefunds_refundsAdded {paymentIds : List Id}
    (h : requestRefunds env reason actorId paymentIds db = .ok db') :
    RefundsAdded db db' ∧
      (forall i, i ∈ paymentIds ->
        exists j r, db'.refunds.findUnique j = some r ∧ r.paymentId = i) ∧
      exists payments refunds events, db' = { db with
        payments := payments
        refunds := refunds
        orderEvents := events } := by
  unfold requestRefunds at h
  induction paymentIds generalizing db with
  | nil =>
      have heq : db = db' := by simpa [pure, Except.pure] using h
      subst heq
      exact ⟨RefundsAdded.refl _, by simp, _, _, _, rfl⟩
  | cons paymentId rest ih =>
      rw [List.foldlM_cons, bind_eq_ok] at h
      obtain ⟨db₁, hstep, hrest⟩ := h
      rw [bind_eq_ok] at hstep
      obtain ⟨⟨db₂, id⟩, hrequest, hok⟩ := hstep
      simp only [Except.ok.injEq] at hok
      subst hok
      obtain ⟨hadded, ⟨j, r, hr, howner⟩, payments, refunds, events, hshape⟩ :=
        requestRefund_refundsAdded hrequest
      obtain ⟨hadded', hall, payments', refunds', events', hshape'⟩ := ih hrest
      refine ⟨hadded.trans hadded', ?_, payments', refunds', events', ?_⟩
      · intro i hi
        cases List.mem_cons.1 hi with
        | inl hhead =>
            exact ⟨j, r, hadded'.refunds j r hr, hhead ▸ howner⟩
        | inr htail =>
            exact hall i htail
      · rw [hshape', hshape]

theorem closeInstallmentPlans_refundsAdded (orderId : Id) (db : Db) :
    RefundsAdded db (closeInstallmentPlans orderId db) := by
  refine ⟨fun _ _ h => h, ?_⟩
  intro i
  unfold closeInstallmentPlans
  dsimp only
  rw [Table.findUnique_updateMany, Table.findUnique_updateMany]
  cases hp : db.payments.findUnique i with
  | none =>
      exact Or.inl rfl
  | some p =>
      simp only [Option.map_some]
      split
      · split
        · exact Or.inr ⟨p, .failed, rfl, by decide, rfl⟩
        · exact Or.inr ⟨p, .refundPending, rfl, by decide, rfl⟩
      · split
        · exact Or.inr ⟨p, .failed, rfl, by decide, rfl⟩
        · exact Or.inl rfl

/-! ## The whole cancellation -/

def Order.cancel (earned : List Id) (givesBack : Bool) (o : Order) : Order :=
  { o with
    status := .cancelled
    buyerDecisionDueAt := none
    cancelledWith := some earned
    goodsCommitted := o.goodsCommitted && !givesBack }

/-- The tables that the steps on transport and inspections leave alone. -/
structure ServicesFrame (db db' : Db) : Prop where
  payments : db'.payments = db.payments
  refunds : db'.refunds = db.refunds
  reconciliations : db'.reconciliations = db.reconciliations
  payouts : db'.payouts = db.payouts
  orders : db'.orders = db.orders
  listings : db'.listings = db.listings
  disputes : db'.disputes = db.disputes

theorem cancelTransport_frame (order : OrderRecord) (db : Db) :
    ServicesFrame db (cancelTransport order db) ∧
      (cancelTransport order db).inspectionRequests = db.inspectionRequests := by
  unfold cancelTransport
  split
  · exact ⟨⟨rfl, rfl, rfl, rfl, rfl, rfl, rfl⟩, rfl⟩
  · split
    · exact ⟨⟨rfl, rfl, rfl, rfl, rfl, rfl, rfl⟩, rfl⟩
    · exact ⟨⟨rfl, rfl, rfl, rfl, rfl, rfl, rfl⟩, rfl⟩

theorem cancelInspections_frame (orderId : Id) (earned : List Id) (db : Db) :
    ServicesFrame db (cancelInspections orderId earned db) :=
  ⟨rfl, rfl, rfl, rfl, rfl, rfl, rfl⟩

theorem earnedInspections_congr (h : db'.inspectionRequests = db.inspectionRequests)
    (orderId : Id) :
    earnedInspections db' orderId = earnedInspections db orderId := by
  unfold earnedInspections
  rw [h]

theorem selectsForOrderCancel_congr (h : db'.payments = db.payments) (orderId : Id)
    (retain : List Id) (payout : Payout) :
    selectsForOrderCancel db' orderId retain payout =
      selectsForOrderCancel db orderId retain payout := by
  unfold selectsForOrderCancel isRetained payoutRequestId
  rw [h]

/-- The listing of a cancelled order keeps its stock, or gets the goods back. -/
def StockRestored (order : OrderRecord) (db : Db) (listings : Table Listing) : Prop :=
  if order.givesBack db then
    0 < order.quantity ∧
      SameStock (db.listings.update order.listingId (·.restore order.quantity)) listings
  else
    SameStock db.listings listings

theorem StockRestored.trans {t u : Table Listing} (h : StockRestored order db t)
    (h' : SameStock t u) :
    StockRestored order db u := by
  unfold StockRestored at h ⊢
  by_cases hgives : order.givesBack db = true
  · rw [if_pos hgives] at h ⊢
    exact ⟨h.1, h.2.trans h'⟩
  · rw [if_neg hgives] at h ⊢
    exact h.trans h'

structure OrderCancelled (order : OrderRecord) (db db' : Db) : Prop where
  notClosed : order.status ≠ .completed ∧ order.status ≠ .cancelled
  allowed : canTransitionOrder order.status .cancelled = true
  found : exists o, db.orders.findUnique order.id = some o ∧ o.status = order.status
  orders : db'.orders = db.orders.update order.id
    (·.cancel (earnedInspections db order.id) (order.givesBack db))
  stock : StockRestored order db db'.listings
  payouts : db'.payouts = db.payouts.updateMany
    (fun _ payout =>
      selectsForOrderCancel db order.id (earnedInspections db order.id) payout)
    ({ · with status := .cancelled })
  refunds : RefundsAdded db db'
  refunded : forall i p, db'.payments.findUnique i = some p -> p.orderId = some order.id ->
    p.status = .paid ->
    p.isEarnedInspectionFee (earnedInspections db order.id) = true ∨
      exists j r, db'.refunds.findUnique j = some r ∧ r.paymentId = i
  disputes : db'.disputes = db.disputes
  reconciliations : db'.reconciliations = db.reconciliations

theorem assertCancellable_eq_ok {role : CancelledByRole}
    (h : assertCancellable order role = .ok ()) :
    order.status ≠ .completed ∧ order.status ≠ .cancelled := by
  unfold assertCancellable at h
  split at h
  · cases h
  · rename_i hstatus
    simpa using hstatus

/-- What is paid on the order after the refund requests is an earned fee or refunded. -/
theorem refunded_of_requestRefunds {env : Env} {reason : Option String}
    {actorId : Option Id} {orderId : Id} {earned : List Id} {others : List Id}
    {db db' : Db}
    (h : requestRefunds env reason actorId (paymentsToRefund orderId earned db ++ others)
      (closeInstallmentPlans orderId db) = .ok db')
    {i : Id} {p : Payment} (hp : db'.payments.findUnique i = some p)
    (horder : p.orderId = some orderId) (hpaid : p.status = .paid) :
    p.isEarnedInspectionFee earned = true ∨
      exists j r, db'.refunds.findUnique j = some r ∧ r.paymentId = i := by
  obtain ⟨hadded, hall, -⟩ := requestRefunds_refundsAdded h
  have hclosed : (closeInstallmentPlans orderId db).payments.findUnique i = some p :=
    hadded.paid hp hpaid
  have hbefore : db.payments.findUnique i = some p :=
    (closeInstallmentPlans_refundsAdded orderId db).paid hclosed hpaid
  by_cases hearned : p.isEarnedInspectionFee earned = true
  · exact Or.inl hearned
  · right
    have hparent : p.isInstallmentParent = false := by
      -- A received parent is no longer `PAID` once the plans are closed.
      by_contra hparent
      rw [Bool.not_eq_false] at hparent
      unfold closeInstallmentPlans at hclosed
      dsimp only at hclosed
      rw [Table.findUnique_updateMany, Table.findUnique_updateMany, hbefore] at hclosed
      simp [horder, hpaid, hparent, Payment.withStatus] at hclosed
      rw [← hclosed] at hpaid
      cases hpaid
    apply hall
    apply List.mem_append_left
    unfold paymentsToRefund
    rw [Table.mem_keys_findMany]
    exact ⟨p, hbefore, by simp [horder, hpaid, hparent, hearned]⟩

/-- The order row and its listing once the order is closed and the goods are back. -/
structure GoodsRestored (order : OrderRecord) (db db' : Db) : Prop where
  orders : db'.orders = db.orders.update order.id
    (·.cancel (earnedInspections db order.id) (order.givesBack db))
  stock : StockRestored order db db'.listings
  payments : db'.payments = db.payments
  refunds : db'.refunds = db.refunds
  payouts : db'.payouts = db.payouts
  disputes : db'.disputes = db.disputes
  reconciliations : db'.reconciliations = db.reconciliations
  inspectionRequests : db'.inspectionRequests = db.inspectionRequests

theorem goodsRestored {env : Env} {order : OrderRecord} {db db' : Db}
    (h : restoreGoods order (closeOrder env order.id
      { db with orders := db.orders.update order.id ({ · with status := .cancelled }) }) =
        .ok db') :
    GoodsRestored order db db' := by
  obtain ⟨listings, orders, hdb', hcases⟩ := restoreGoods_eq_ok h
  have hlistings : db'.listings = listings := by rw [hdb']
  have horders : db'.orders = orders := by rw [hdb']
  have hclosed : (closeOrder env order.id
      { db with orders := db.orders.update order.id ({ · with status := .cancelled }) }).orders =
      db.orders.update order.id (·.cancel (earnedInspections db order.id) false) := by
    change (db.orders.update order.id _).update order.id _ = _
    rw [Table.update_update]
    congr 1
    funext o
    simp [Order.cancel, earnedInspections]
  refine ⟨?_, ?_, ?_, ?_, ?_, ?_, ?_, ?_⟩
  · cases hcases with
    | inl hback =>
        have hgives : order.givesBack db = true := hback.1
        rw [horders, hback.2.2.2, hclosed, Table.update_update, hgives]
        congr 1
        funext o
        simp [Order.cancel]
    | inr hkept =>
        have hkeeps : order.givesBack db = false := hkept.1
        rw [horders, hkept.2.2, hclosed, hkeeps]
  · unfold StockRestored
    cases hcases with
    | inl hback =>
        have hgives : order.givesBack db = true := hback.1
        rw [if_pos hgives, hlistings]
        exact ⟨hback.2.1, hback.2.2.1⟩
    | inr hkept =>
        have hkeeps : order.givesBack db = false := hkept.1
        rw [if_neg (by simp [hkeeps]), hlistings]
        exact hkept.2.1
  all_goals
    rw [hdb']
    rfl

theorem cancelOrderInTransaction_cancelled {role : CancelledByRole}
    (h : cancelOrderInTransaction env order actorId reason role db = .ok db') :
    OrderCancelled order db db' := by
  unfold cancelOrderInTransaction at h
  simp only [bind_eq_ok] at h
  obtain ⟨_, hcancellable, db₁, htransition, db₃, hrestore, db₈, hrefunds, hrest⟩ := h
  obtain ⟨hallowed, hfound, rfl⟩ := transitionOrderStatus_eq_ok_iff.1 htransition
  have hgoods := goodsRestored hrestore
  obtain ⟨hservices, hrequests⟩ := cancelTransport_frame order db₃
  generalize cancelTransport order db₃ = db₄ at hrefunds hservices hrequests
  have hearned : earnedInspections db₄ order.id = earnedInspections db order.id :=
    earnedInspections_congr (hrequests.trans hgoods.inspectionRequests) order.id
  rw [hearned] at hrefunds
  generalize hearnedIds : earnedInspections db order.id = earned at hrefunds
  have hinspections := cancelInspections_frame order.id earned db₄
  generalize cancelInspections order.id earned db₄ = db₅ at hrefunds hinspections
  have hpayments₅ : db₅.payments = db.payments :=
    hinspections.payments.trans (hservices.payments.trans hgoods.payments)
  rw [cancelPayoutsForOrder_eq] at hrefunds
  have hrefunded := fun i p => refunded_of_requestRefunds (i := i) (p := p) hrefunds
  obtain ⟨hadded, -, payments, refunds, events, hshape⟩ := requestRefunds_refundsAdded hrefunds
  obtain ⟨offers, listings, hstock, hwinner⟩ := releaseWinner_frame env order db₈
  have hdb' : db' = { db₈ with offers := offers, listings := listings } := by
    rw [← hwinner]
    exact (Except.ok.inj hrest).symm
  have hfull := (closeInstallmentPlans_refundsAdded order.id _).trans hadded
  have hadded₅ : RefundsAdded db₅ db₈ := ⟨hfull.refunds, hfull.payments⟩
  refine ⟨assertCancellable_eq_ok hcancellable, hallowed, hfound, ?_, ?_, ?_, ⟨?_, ?_⟩, ?_, ?_, ?_⟩
  · have horders : db'.orders = db₅.orders := by
      rw [hdb', hshape]
      rfl
    rw [horders, hinspections.orders, hservices.orders, hgoods.orders]
  · have hlistings : db₈.listings = db₃.listings := by
      rw [hshape]
      exact hinspections.listings.trans hservices.listings
    rw [hlistings] at hstock
    have hafter : db'.listings = listings := by rw [hdb']
    rw [hafter]
    exact hgoods.stock.trans hstock
  · have hpayouts : db'.payouts = db₅.payouts.updateMany
        (fun _ payout => selectsForOrderCancel db₅ order.id earned payout)
        ({ · with status := .cancelled }) := by
      rw [hdb', hshape]
      rfl
    rw [hpayouts, hinspections.payouts, hservices.payouts, hgoods.payouts, hearnedIds]
    congr 1
    funext _ payout
    exact selectsForOrderCancel_congr hpayments₅ _ _ _
  · intro j r hr
    rw [hdb']
    apply hadded₅.refunds
    rwa [hinspections.refunds, hservices.refunds, hgoods.refunds]
  · intro i
    have hsame := hadded₅.payments i
    rw [hpayments₅] at hsame
    rw [hdb']
    exact hsame
  · intro i p hp horder hpaid
    rw [hdb'] at hp ⊢
    rw [hearnedIds]
    exact hrefunded i p hp horder hpaid
  · rw [hdb', hshape]
    exact hinspections.disputes.trans (hservices.disputes.trans hgoods.disputes)
  · rw [hdb', hshape]
    exact hinspections.reconciliations.trans
      (hservices.reconciliations.trans hgoods.reconciliations)

end MarketBridge
