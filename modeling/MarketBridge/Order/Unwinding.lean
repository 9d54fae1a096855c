import MarketBridge.Order.CancellationSpec
import MarketBridge.Order.Lifecycle

/-!
# What a cancellation unwinds

The callers of `cancelOrderInTransaction` load the order with two different
projections.  A column that was not loaded silently skips a step of the
cancellation, so what is unwound depends on the caller.
-/

namespace MarketBridge

open Relational

/-! ## Callers -/

/-- The callers of `cancelOrderInTransaction`. -/
inductive CancelCaller where
  /-- `PATCH /orders/:id/cancel`. -/
  | cancelRoute
  /-- `PATCH /orders/:id/buyer-decision` with `CANCEL`. -/
  | buyerDecision
  /-- The accepted `BUYER_WANTS_CANCELLATION` review. -/
  | priceReview
  | unpaidExpiry
  | decisionExpiry
  | inspectionLapse
  /-- The resolution `CANCEL_ORDER` of a dispute. -/
  | dispute
deriving DecidableEq, Repr

namespace CancelCaller

def load : CancelCaller -> OrderLoad
  | buyerDecision => .selected
  | priceReview => .selected
  | _ => .included

/-- The order row that the caller writes between loading and cancelling. -/
def mark : CancelCaller -> Order -> Order
  | buyerDecision, order => { order with buyerDecision := some .cancel, buyerDecisionDueAt := none }
  | priceReview, order => { order with buyerDecision := some .cancel, buyerDecisionDueAt := none }
  | _, order => order

end CancelCaller

def cancelFor (env : Env) (caller : CancelCaller) (orderId : Id) (actorId : Option Id)
    (reason : Option String) (role : CancelledByRole) : Tx := fun db =>
  match loadOrder caller.load db orderId with
  | none => .error (httpError 409 "Order is no longer cancellable")
  | some record =>
      cancelOrderInTransaction env record actorId reason role
        { db with orders := db.orders.update orderId caller.mark }

/-! ## Trucks, offers and obligations -/

variable {db : Db}

theorem cancelTransport_trucks (order : OrderRecord) {db' : Db} (h : db'.trucks = db.trucks) :
    (cancelTransport order db').trucks = (cancelTransport order db).trucks := by
  unfold cancelTransport
  cases order.transportJob with
  | none =>
      exact h
  | some job =>
      simp only
      split
      · exact h
      · rw [h]

theorem cancelTransport_quotes (order : OrderRecord) {db' : Db}
    (h : db'.transportQuotes = db.transportQuotes) :
    (cancelTransport order db').transportQuotes = (cancelTransport order db).transportQuotes := by
  unfold cancelTransport
  cases order.transportJob with
  | none =>
      exact h
  | some job =>
      simp only
      split
      · exact h
      · rw [h]

theorem mem_of_foldl_ranked {e : Id × Offer} {rows : List (Id × Offer)}
    {best : Option (Id × Offer)}
    (h : rows.foldl
      (fun best e =>
        match best with
        | none => some e
        | some b => if e.2.ranksBefore b.2 then some e else best)
      best = some e) :
    best = some e ∨ e ∈ rows := by
  induction rows generalizing best with
  | nil => exact Or.inl h
  | cons row rows ih =>
      rw [List.foldl_cons] at h
      rcases ih h with hnew | hrest
      · cases best with
        | none =>
            exact Or.inr (List.mem_cons.mpr (Or.inl (Option.some.inj hnew).symm))
        | some b =>
            simp only at hnew
            split at hnew
            · exact Or.inr (List.mem_cons.mpr (Or.inl (Option.some.inj hnew).symm))
            · exact Or.inl hnew
      · exact Or.inr (List.mem_cons_of_mem _ hrest)

theorem mem_of_firstRanked {rows : List (Id × Offer)} {e : Id × Offer}
    (h : firstRanked rows = some e) :
    e ∈ rows := by
  rcases mem_of_foldl_ranked h with hnone | hmem
  · cases hnone
  · exact hmem

theorem promoteNextWaitingBuyer_accepted {env : Env} {listingId : Id} {i : Id} :
    (exists o, (promoteNextWaitingBuyer env listingId db).offers.findUnique i = some o ∧
        o.status = .accepted) ↔
      exists o, db.offers.findUnique i = some o ∧ o.status = .accepted := by
  have hexpired : (exists o, (expireWaitingOffers env listingId db).offers.findUnique i = some o ∧
      o.status = .accepted) ↔ exists o, db.offers.findUnique i = some o ∧ o.status = .accepted := by
    unfold expireWaitingOffers
    rw [Table.findUnique_updateMany]
    cases db.offers.findUnique i with
    | none =>
        simp
    | some o =>
        by_cases hwaits : o.status = .pending
        · simp only [Option.map_some, Option.some.injEq, exists_eq_left']
          split <;> simp [hwaits]
        · simp [hwaits]
  unfold promoteNextWaitingBuyer
  cases hnext : nextWaitingOffer env listingId (expireWaitingOffers env listingId db) with
  | none =>
      simp only [hnext, setListingStatus]
      exact hexpired
  | some next =>
      simp only [hnext, setListingStatus]
      rw [Table.findUnique_update, ← hexpired]
      by_cases hi : i = next.1
      · have hpending : forall o,
            (expireWaitingOffers env listingId db).offers.findUnique i = some o ->
              o.status = .pending := by
          intro o ho
          have hmem := mem_of_firstRanked hnext
          rw [Table.mem_findMany] at hmem
          rw [hi, hmem.1, Option.some.injEq] at ho
          have hpromotable := hmem.2
          rw [ho] at hpromotable
          simp only [Offer.isPromotable, Bool.and_eq_true, decide_eq_true_eq] at hpromotable
          exact hpromotable.1.1.2
        rw [if_pos hi]
        cases ho : (expireWaitingOffers env listingId db).offers.findUnique i with
        | none =>
            simp
        | some o =>
            simp [hpending o ho]
      · rw [if_neg hi]

theorem releaseWinner_accepted {env : Env} {order : OrderRecord} {i : Id} :
    (exists o, (releaseWinner env order db).offers.findUnique i = some o ∧
        o.status = .accepted) ↔
      (exists o, db.offers.findUnique i = some o ∧ o.status = .accepted) ∧
        ¬ (order.status = .pendingPayment ∧ order.agreedOfferId = some i) := by
  unfold releaseWinner
  by_cases hpending : order.status = .pendingPayment
  · rw [if_pos hpending, promoteNextWaitingBuyer_accepted]
    simp only [Table.findUnique_updateMany, hpending, true_and]
    cases db.offers.findUnique i with
    | none =>
        simp
    | some o =>
        by_cases hagreed : order.agreedOfferId = some i
        · by_cases haccepted : o.status = .accepted <;> simp [hagreed, haccepted]
        · have hother : ¬ some i = order.agreedOfferId := fun h => hagreed h.symm
          simp [hagreed, hother]
  · rw [if_neg hpending]
    simp [hpending]

/-- What a committed cancellation does to trucks, quotes, offers and obligations. -/
structure ServicesReleased (order : OrderRecord) (db db' : Db) : Prop where
  trucks : db'.trucks = (cancelTransport order db).trucks
  quotes : db'.transportQuotes = (cancelTransport order db).transportQuotes
  obligations : db'.obligations = db.obligations.updateMany
    (fun _ obligation => obligation.orderId = order.id && obligation.status = .open)
    ({ · with status := .cancelled })
  offers : forall i,
    (exists o, db'.offers.findUnique i = some o ∧ o.status = .accepted) ↔
      (exists o, db.offers.findUnique i = some o ∧ o.status = .accepted) ∧
        ¬ (order.status = .pendingPayment ∧ order.agreedOfferId = some i)

theorem cancelOrderInTransaction_released {env : Env} {order : OrderRecord} {actorId : Option Id}
    {reason : Option String} {role : CancelledByRole} {db' : Db}
    (h : cancelOrderInTransaction env order actorId reason role db = .ok db') :
    ServicesReleased order db db' := by
  unfold cancelOrderInTransaction at h
  simp only [bind_eq_ok] at h
  obtain ⟨_, -, db₁, htransition, db₃, hrestore, db₈, hrefunds, hrest⟩ := h
  obtain ⟨-, -, rfl⟩ := transitionOrderStatus_eq_ok_iff.1 htransition
  obtain ⟨listings, orders, hdb₃, -⟩ := restoreGoods_eq_ok hrestore
  have htrucks₃ : db₃.trucks = db.trucks := by rw [hdb₃]; rfl
  have hquotes₃ : db₃.transportQuotes = db.transportQuotes := by rw [hdb₃]; rfl
  have hoffers₃ : db₃.offers = db.offers := by rw [hdb₃]; rfl
  have hobligations₃ : db₃.obligations = db.obligations.updateMany
      (fun _ obligation => obligation.orderId = order.id && obligation.status = .open)
      ({ · with status := .cancelled }) := by rw [hdb₃]; rfl
  have htrucks₄ := cancelTransport_trucks order htrucks₃
  have hquotes₄ := cancelTransport_quotes order hquotes₃
  have hoffers₄ : (cancelTransport order db₃).offers = db.offers := by
    rw [← hoffers₃]
    unfold cancelTransport
    split
    · rfl
    · split <;> rfl
  have hobligations₄ : (cancelTransport order db₃).obligations = db₃.obligations := by
    unfold cancelTransport
    split
    · rfl
    · split <;> rfl
  generalize cancelTransport order db₃ = db₄ at hrefunds htrucks₄ hquotes₄ hoffers₄ hobligations₄
  rw [cancelPayoutsForOrder_eq] at hrefunds
  obtain ⟨-, -, payments, refunds, events, hshape⟩ := requestRefunds_refundsAdded hrefunds
  have hoffers₈ : db₈.offers = db.offers := by rw [hshape]; exact hoffers₄
  obtain ⟨offers, listings', -, hwinner⟩ := releaseWinner_frame env order db₈
  have hdb' : db' = releaseWinner env order db₈ := (Except.ok.inj hrest).symm
  refine ⟨?_, ?_, ?_, ?_⟩
  · rw [hdb', hwinner, hshape]
    exact htrucks₄
  · rw [hdb', hwinner, hshape]
    exact hquotes₄
  · rw [hdb', hwinner, hshape]
    exact hobligations₄.trans hobligations₃
  · intro i
    rw [hdb', releaseWinner_accepted, hoffers₈]

/-! ## The postcondition -/

def HoldsTruck (db : Db) (orderId truckId : Id) : Prop :=
  exists jobId job truck, transportJobOf db orderId = some (jobId, job) ∧
    job.status ∉ [TransportStatus.delivered, .cancelled] ∧ job.truckId = some truckId ∧
    db.trucks.findUnique truckId = some truck ∧ truck.availability = .busy

def HoldsOffer (db : Db) (orderId offerId : Id) : Prop :=
  exists order offer, db.orders.findUnique orderId = some order ∧
    order.status = .pendingPayment ∧ order.agreedOfferId = some offerId ∧
    db.offers.findUnique offerId = some offer ∧ offer.status = .accepted

def HoldsGoods (db : Db) (orderId : Id) : Prop :=
  exists order, db.orders.findUnique orderId = some order ∧ order.goodsCommitted = true

/-- The goods are taken no longer, and the listing has got the quantity back. -/
def GoodsBack (orderId : Id) (db db' : Db) : Prop :=
  forall order, db.orders.findUnique orderId = some order ->
    (db'.orders.findUnique orderId).map (·.goodsCommitted) = some false ∧
    (db'.listings.findUnique order.listingId).map Listing.stock =
      (db.listings.findUnique order.listingId).map fun l => (l.restore order.quantity).stock

/-- What a cancellation has to leave behind, whichever caller triggers it. -/
structure Unwound (orderId : Id) (db db' : Db) : Prop where
  trucks : forall truckId, HoldsTruck db orderId truckId ->
    (db'.trucks.findUnique truckId).map (·.availability) = some .available
  offers : forall offerId, HoldsOffer db orderId offerId ->
    forall offer, db'.offers.findUnique offerId = some offer -> offer.status ≠ .accepted
  goods : HoldsGoods db orderId -> GoodsBack orderId db db'
  obligations : db'.obligations.All fun _ b => b.orderId = orderId -> b.status ≠ .open
  payouts : db'.payouts.All fun _ payout => payout.orderId = some orderId ->
    payout.status ∈ [PayoutStatus.held, .released, .onHoldDispute] ->
    isRetained db (earnedInspections db orderId) payout = true

/-- The order as the caller loads it has all that its cancellation must see. -/
structure LoadSuffices (load : OrderLoad) (orderId : Id) (db : Db) : Prop where
  trucks : load = .selected -> forall truckId, ¬ HoldsTruck db orderId truckId
  offers : load = .selected -> forall offerId, ¬ HoldsOffer db orderId offerId
  goods : HoldsGoods db orderId -> forall record, loadOrder load db orderId = some record ->
    record.givesBack db = true

/-! ## What the projections load -/

def OrderLoad.agreedOffer (load : OrderLoad) (order : Order) : Option Id :=
  match load with
  | .included => order.agreedOfferId
  | .selected => none

def OrderLoad.truck (load : OrderLoad) (job : TransportJob) : Option Id :=
  match load with
  | .included => job.truckId
  | .selected => none

/-- The record of an order, for either projection. -/
structure IsLoaded (load : OrderLoad) (db : Db) (orderId : Id) (order : Order)
    (record : OrderRecord) : Prop where
  found : db.orders.findUnique orderId = some order
  id : record.id = orderId
  listingId : record.listingId = order.listingId
  quantity : record.quantity = order.quantity
  status : record.status = order.status
  agreedOffer : record.agreedOfferId = load.agreedOffer order
  transportJob : record.transportJob = (transportJobOf db orderId).map fun e =>
    ⟨e.1, e.2.status, load.truck e.2⟩

theorem loadOrder_eq_some {load : OrderLoad} {orderId : Id} {record : OrderRecord}
    (h : loadOrder load db orderId = some record) :
    exists order, IsLoaded load db orderId order record := by
  cases load with
  | included =>
      obtain ⟨order, horder, rfl⟩ := Option.map_eq_some_iff.mp h
      exact ⟨order, horder, rfl, rfl, rfl, rfl, rfl, rfl⟩
  | selected =>
      obtain ⟨order, horder, rfl⟩ := Option.map_eq_some_iff.mp h
      exact ⟨order, horder, rfl, rfl, rfl, rfl, rfl, rfl⟩

def OrderRecord.freesTruck (order : OrderRecord) (truckId : Id) : Bool :=
  order.transportJob.any fun job =>
    job.status ∉ [TransportStatus.delivered, .cancelled] && job.truckId = some truckId

theorem cancelTransport_findUnique_truck (order : OrderRecord) (db : Db) (truckId : Id) :
    (cancelTransport order db).trucks.findUnique truckId =
      (db.trucks.findUnique truckId).map fun truck =>
        if order.freesTruck truckId && truck.availability = .busy then
          { truck with availability := .available }
        else
          truck := by
  unfold cancelTransport
  cases hjob : order.transportJob with
  | none =>
      have hfrees : order.freesTruck truckId = false := by
        unfold OrderRecord.freesTruck
        rw [hjob]
        rfl
      simp [hfrees]
  | some job =>
      by_cases hdone : job.status ∈ [TransportStatus.delivered, .cancelled]
      · have hfrees : order.freesTruck truckId = false := by
          unfold OrderRecord.freesTruck
          rw [hjob, Option.any_some, decide_eq_false (fun hnot => hnot hdone)]
          rfl
        simp only [hfrees, if_pos hdone]
        simp
      · have hfrees : order.freesTruck truckId = decide (job.truckId = some truckId) := by
          unfold OrderRecord.freesTruck
          rw [hjob, Option.any_some, decide_eq_true hdone, Bool.true_and]
        simp only [hfrees, if_neg hdone]
        rw [Table.findUnique_updateMany]
        congr 1
        funext truck
        by_cases htruck : job.truckId = some truckId
        · simp [htruck]
        · have hother : ¬ some truckId = job.truckId := fun h => htruck h.symm
          simp [htruck, hother]

theorem IsLoaded.freesTruck {load : OrderLoad} {orderId truckId : Id} {order : Order}
    {record : OrderRecord} (h : IsLoaded load db orderId order record)
    (hholds : HoldsTruck db orderId truckId) :
    record.freesTruck truckId = decide (load = .included) := by
  obtain ⟨jobId, job, truck, hjob, hstatus, htruck, -⟩ := hholds
  unfold OrderRecord.freesTruck
  rw [h.transportJob, hjob, Option.map_some, Option.any_some, decide_eq_true hstatus,
    Bool.true_and]
  cases load with
  | included =>
      exact decide_eq_true htruck
  | selected =>
      rfl

/-! ## When everything is unwound -/

section Committed

variable {caller : CancelCaller} {db db' : Db} {orderId : Id} {order : Order}
  {record : OrderRecord}

theorem trucks_unwound_iff (hloaded : IsLoaded caller.load db orderId order record)
    (hreleased : db'.trucks = (cancelTransport record db).trucks) :
    (forall truckId, HoldsTruck db orderId truckId ->
      (db'.trucks.findUnique truckId).map (·.availability) = some .available) ↔
      (caller.load = .selected -> forall truckId, ¬ HoldsTruck db orderId truckId) := by
  have hread : forall truckId, HoldsTruck db orderId truckId ->
      ((db'.trucks.findUnique truckId).map (·.availability) = some .available ↔
        caller.load = .included) := by
    intro truckId hholds
    have hfrees := hloaded.freesTruck hholds
    obtain ⟨jobId, job, truck, -, -, -, hfound, hbusy⟩ := hholds
    rw [hreleased, cancelTransport_findUnique_truck, hfound, hfrees]
    by_cases hload : caller.load = .included
    · simp [hload, hbusy]
    · simp [hload, hbusy]
  constructor
  · intro hfreed hload truckId hholds
    have hincluded := (hread truckId hholds).mp (hfreed truckId hholds)
    rw [hload] at hincluded
    cases hincluded
  · intro hnone truckId hholds
    rw [hread truckId hholds]
    cases hload : caller.load with
    | included =>
        rfl
    | selected =>
        exact absurd hholds (hnone hload truckId)

/-- The agreed offer is withdrawn exactly if the caller has loaded it. -/
theorem offers_unwound_iff (hloaded : IsLoaded caller.load db orderId order record)
    (hreleased : forall i,
      (exists o, db'.offers.findUnique i = some o ∧ o.status = .accepted) ↔
        (exists o, db.offers.findUnique i = some o ∧ o.status = .accepted) ∧
          ¬ (record.status = .pendingPayment ∧ record.agreedOfferId = some i)) :
    (forall offerId, HoldsOffer db orderId offerId ->
      forall offer, db'.offers.findUnique offerId = some offer -> offer.status ≠ .accepted) ↔
      (caller.load = .selected -> forall offerId, ¬ HoldsOffer db orderId offerId) := by
  have hread : forall offerId, HoldsOffer db orderId offerId ->
      ((exists o, db'.offers.findUnique offerId = some o ∧ o.status = .accepted) ↔
        caller.load = .selected) := by
    rintro offerId ⟨order', offer, horder, hstatus, hagreed, hoffer, haccepted⟩
    have horder' : order = order' := by
      rw [hloaded.found, Option.some.injEq] at horder
      exact horder
    rw [hreleased, hloaded.status, hloaded.agreedOffer, horder']
    cases caller.load with
    | included =>
        simp [OrderLoad.agreedOffer, hstatus, hagreed]
    | selected =>
        simp [OrderLoad.agreedOffer, hoffer, haccepted]
  constructor
  · intro hclosed hload offerId hholds
    obtain ⟨offer, hoffer, haccepted⟩ := (hread offerId hholds).mpr hload
    exact hclosed offerId hholds offer hoffer haccepted
  · intro hnone offerId hholds offer hoffer haccepted
    exact hnone ((hread offerId hholds).mp ⟨offer, hoffer, haccepted⟩) offerId hholds

theorem goods_unwound_iff (hloaded : IsLoaded caller.load db orderId order record)
    (horders : (db'.orders.findUnique orderId).map (·.goodsCommitted) =
      some (order.goodsCommitted && !record.givesBack db))
    (hstock : StockRestored record db db'.listings) :
    (HoldsGoods db orderId -> GoodsBack orderId db db') ↔
      (HoldsGoods db orderId -> record.givesBack db = true) := by
  unfold StockRestored at hstock
  constructor
  · intro hback hholds
    have hgoods := (hback hholds order hloaded.found).1
    obtain ⟨order', horder', hcommitted⟩ := hholds
    rw [hloaded.found, Option.some.injEq] at horder'
    rw [horders, horder', hcommitted, Option.some.injEq] at hgoods
    simpa using hgoods
  · intro hgives hholds order' horder'
    rw [hloaded.found, Option.some.injEq] at horder'
    have hgivesBack := hgives hholds
    rw [if_pos hgivesBack, hloaded.listingId, hloaded.quantity] at hstock
    refine ⟨?_, ?_⟩
    · rw [horders, hgivesBack]
      simp
    · rw [← horder', hstock.2 order.listingId, Table.findUnique_update_self, Option.map_map]
      rfl

theorem obligations_unwound {t : Table PaymentObligation} (orderId : Id) :
    (t.updateMany (fun _ b => b.orderId = orderId && b.status = .open)
      ({ · with status := .cancelled })).All fun _ b => b.orderId = orderId -> b.status ≠ .open := by
  intro i b hb horder hopen
  rw [Table.findUnique_updateMany] at hb
  obtain ⟨b', -, rfl⟩ := Option.map_eq_some_iff.mp hb
  split at hopen
  · cases hopen
  · next hnot =>
      split at horder
      · next hyes => exact hnot hyes
      · simp [horder, hopen] at hnot

theorem payouts_unwound {db : Db} (orderId : Id) (earned : List Id) :
    (db.payouts.updateMany (fun _ payout => selectsForOrderCancel db orderId earned payout)
      ({ · with status := .cancelled })).All fun _ payout => payout.orderId = some orderId ->
        payout.status ∈ [PayoutStatus.held, .released, .onHoldDispute] ->
        isRetained db earned payout = true := by
  intro i payout hpayout horder hlive
  rw [Table.findUnique_updateMany] at hpayout
  obtain ⟨before, -, rfl⟩ := Option.map_eq_some_iff.mp hpayout
  by_cases hselected : selectsForOrderCancel db orderId earned before = true
  · rw [if_pos hselected] at hlive
    cases hlive
    contradiction
  · rw [if_neg hselected] at horder hlive ⊢
    by_contra hretained
    apply hselected
    rw [Bool.not_eq_true] at hretained
    unfold selectsForOrderCancel
    rw [decide_eq_true horder, decide_eq_true hlive, hretained]
    rfl

/--
A committed cancellation has unwound everything exactly if the caller's
projection shows the busy truck, the accepted offer and the taken goods.
-/
theorem cancelFor_unwound_iff {env : Env} {actorId : Option Id} {reason : Option String}
    {role : CancelledByRole}
    (h : cancelFor env caller orderId actorId reason role db = .ok db') :
    Unwound orderId db db' ↔ LoadSuffices caller.load orderId db := by
  unfold cancelFor at h
  cases hload : loadOrder caller.load db orderId with
  | none =>
      rw [hload] at h
      cases h
  | some record =>
      rw [hload] at h
      obtain ⟨order, hloaded⟩ := loadOrder_eq_some hload
      have hcancelled := cancelOrderInTransaction_cancelled h
      have hreleased := cancelOrderInTransaction_released h
      have htrucks : db'.trucks = (cancelTransport record db).trucks := by
        rw [hreleased.trucks]
        exact cancelTransport_trucks record rfl
      have horders : (db'.orders.findUnique orderId).map (·.goodsCommitted) =
          some (order.goodsCommitted && !record.givesBack db) := by
        rw [hcancelled.orders, hloaded.id, Table.findUnique_update_self,
          Table.findUnique_update_self, hloaded.found]
        cases caller <;> rfl
      have hgoods := goods_unwound_iff hloaded horders hcancelled.stock
      constructor
      · intro hunwound
        refine ⟨(trucks_unwound_iff hloaded htrucks).mp hunwound.trucks,
          (offers_unwound_iff hloaded hreleased.offers).mp hunwound.offers, ?_⟩
        intro hholds record' hload'
        rw [hload, Option.some.injEq] at hload'
        rw [← hload']
        exact hgoods.mp hunwound.goods hholds
      · intro hsuffices
        refine ⟨(trucks_unwound_iff hloaded htrucks).mpr hsuffices.trucks,
          (offers_unwound_iff hloaded hreleased.offers).mpr hsuffices.offers,
          hgoods.mpr fun hholds => hsuffices.goods hholds record hload, ?_, ?_⟩
        · rw [hreleased.obligations, hloaded.id]
          exact obligations_unwound orderId
        · rw [hcancelled.payouts, hloaded.id]
          exact payouts_unwound orderId _

end Committed

section WonOrder

/-- An unpaid order with a completed inspection, and the offer it was won with. -/
def wonOrderDb : Db :=
  { orders := Table.empty.create
      { listingId := 0
        buyerId := 1
        sellerId := 2
        finalPrice := 500
        quantity := 1
        agreedOfferId := some 0
        buyerDecisionDueAt := some 1000 }
    listings := Table.empty.create
      { sellerId := 2
        quantity := 1
        availableQuantity := 1
        askingPrice := 500
        status := .underNegotiation
        inspectionRequired := true }
    offers := Table.empty.create
      { listingId := 0
        buyerId := 1
        sellerId := 2
        amount := 500
        quantity := some 1
        status := .accepted }
    inspectionRequests := Table.empty.create
      { orderId := some 0
        inspectorId := some 4
        status := .completed } }

def cancelledBy (caller : CancelCaller) : Db :=
  commit (cancelFor env0 caller 0 (some 1) none .buyer wonOrderDb) wonOrderDb

theorem wonOrder_holds_no_goods : ¬ HoldsGoods wonOrderDb 0 := by
  rintro ⟨order, horder, hcommitted⟩
  rw [← Option.some.inj horder] at hcommitted
  cases hcommitted

/-- The cancel route withdraws the offer with the order. -/
theorem wonOrder_unwound_by_cancelRoute :
    Unwound 0 wonOrderDb (cancelledBy .cancelRoute) := by
  have hcommitted : cancelFor env0 .cancelRoute 0 (some 1) none .buyer wonOrderDb =
      .ok (cancelledBy .cancelRoute) :=
    eq_ok_commit (by decide +kernel) _
  exact (cancelFor_unwound_iff hcommitted).mpr
    { trucks := by
        intro hload
        cases hload
      offers := by
        intro hload
        cases hload
      goods := fun hholds => absurd hholds wonOrder_holds_no_goods }

/-- The buyer who cancels after the inspection keeps the accepted offer. -/
theorem buyerDecision_keeps_accepted_offer :
    ¬ forall (env : Env) (caller : CancelCaller) (orderId : Id) (actorId : Option Id)
        (reason : Option String) (role : CancelledByRole) (db db' : Db),
        cancelFor env caller orderId actorId reason role db = .ok db' -> Unwound orderId db db' := by
  intro hall
  have hcommitted : cancelFor env0 .buyerDecision 0 (some 1) none .buyer wonOrderDb =
      .ok (cancelledBy .buyerDecision) :=
    eq_ok_commit (by decide +kernel) _
  have hunwound := hall _ _ _ _ _ _ _ _ hcommitted
  have hholds : HoldsOffer wonOrderDb 0 0 := ⟨_, _, rfl, rfl, rfl, rfl, rfl⟩
  have hkept : ((cancelledBy .buyerDecision).offers.findUnique 0).map (·.status) =
      some .accepted := by
    decide +kernel
  obtain ⟨offer, hoffer, haccepted⟩ := Option.map_eq_some_iff.mp hkept
  exact hunwound.offers 0 hholds offer hoffer haccepted

end WonOrder

end MarketBridge
