import MarketBridge.Listing.Step
import MarketBridge.Market.Effects
import MarketBridge.Order.Unwinding
import MarketBridge.Refund.Moves

/-!
# What the operations do to listings, offers and orders

One inversion per operation, with everything it writes to these three tables.
The invariants on listings are derived from them.
-/

namespace MarketBridge

open Relational

variable {env : Env}

/-! ## Promotion -/

inductive Promoted (env : Env) (listingId : Id) (db : Db) : Db -> Prop where
  /-- Nobody waits, so the listing is active again. -/
  | nobody :
      Promoted env listingId db
        (setListingStatus listingId .active (expireWaitingOffers env listingId db))
  | selected (id : Id) (next : Offer)
      (hfind : (expireWaitingOffers env listingId db).offers.findUnique id = some next)
      (hlisting : next.listingId = listingId) (hpending : next.status = .pending)
      (hfresh : next.isExpired env = false) :
      Promoted env listingId db
        (setListingStatus listingId .underNegotiation
          (setOfferStatus id .selected (expireWaitingOffers env listingId db)))

theorem promoteNextWaitingBuyer_promoted (env : Env) (listingId : Id) (db : Db) :
    Promoted env listingId db (promoteNextWaitingBuyer env listingId db) := by
  unfold promoteNextWaitingBuyer
  cases hnext : nextWaitingOffer env listingId (expireWaitingOffers env listingId db) with
  | none =>
      simp only [hnext]
      exact .nobody
  | some next =>
      simp only [hnext]
      have hmem := Table.mem_findMany.1 (mem_of_firstRanked hnext)
      have hpromotable := hmem.2
      simp only [Offer.isPromotable, Bool.and_eq_true, decide_eq_true_eq, Bool.not_eq_true']
        at hpromotable
      exact .selected next.1 next.2 hmem.1 hpromotable.1.1.1 hpromotable.1.1.2 hpromotable.2

theorem promoteNextWaitingBuyer_congr (env : Env) (listingId : Id) {db db' : Db}
    (hoffers : db'.offers = db.offers) (hlistings : db'.listings = db.listings) :
    (promoteNextWaitingBuyer env listingId db').offers =
        (promoteNextWaitingBuyer env listingId db).offers ∧
      (promoteNextWaitingBuyer env listingId db').listings =
        (promoteNextWaitingBuyer env listingId db).listings := by
  have hnext : nextWaitingOffer env listingId (expireWaitingOffers env listingId db') =
      nextWaitingOffer env listingId (expireWaitingOffers env listingId db) := by
    simp only [nextWaitingOffer, expireWaitingOffers, hoffers, hlistings]
  unfold promoteNextWaitingBuyer
  simp only [hnext]
  split
  · exact ⟨by simp only [setListingStatus, expireWaitingOffers, hoffers],
      by simp only [setListingStatus, expireWaitingOffers, hlistings]⟩
  · exact ⟨by simp only [setListingStatus, expireWaitingOffers, hoffers],
      by simp only [setListingStatus, expireWaitingOffers, hlistings]⟩

/-! ## Settlement and replay -/

/-- One movement of orders with what it does to listings and offers. -/
inductive StallMove (db db' : Db) : Prop where
  | kept (horders : db'.orders = db.orders) (hlistings : db'.listings = db.listings)
      (hoffers : db'.offers = db.offers)
  /-- A pending order is confirmed and takes its goods. -/
  | confirmed (orderId : Id) (order : Order) (committed : Bool)
      (listings : Table Listing) (offers : Table Offer)
      (hfind : db.orders.findUnique orderId = some order)
      (hpending : order.status = .pendingPayment)
      (htaken : GoodsTaken order db committed listings offers)
      (horders : db'.orders = db.orders.update orderId (·.confirm committed))
      (hlistings : db'.listings = listings) (hoffers : db'.offers = offers)
  /-- A confirmed order gets its transport. -/
  | arranged (orderId : Id)
      (horders : db'.orders = db.orders.updateMany
        (fun i o => i == orderId && o.status = .confirmed)
        ({ · with status := .transportArranged }))
      (hlistings : db'.listings = db.listings) (hoffers : db'.offers = db.offers)

abbrev StallMoves : Db -> Db -> Prop :=
  Relation.ReflTransGen StallMove

variable {db db' : Db}

theorem StallMove.congr {w w' : Db} (h : StallMove db db')
    (horders : w.orders = db.orders) (hlistings : w.listings = db.listings)
    (hoffers : w.offers = db.offers) (horders' : w'.orders = db'.orders)
    (hlistings' : w'.listings = db'.listings) (hoffers' : w'.offers = db'.offers) :
    StallMove w w' := by
  cases h with
  | kept ho hl hf =>
      exact .kept (by rw [horders', ho, horders]) (by rw [hlistings', hl, hlistings])
        (by rw [hoffers', hf, hoffers])
  | confirmed orderId order committed listings offers hfind hpending htaken ho hl hf =>
      refine .confirmed orderId order committed listings offers (by rw [horders, hfind]) hpending
        ?_ (by rw [horders', ho, horders]) (hlistings'.trans hl) (hoffers'.trans hf)
      cases htaken with
      | taken listing hlisting hphysical hpos hcan =>
          have htake : forall {v : Db}, v.listings = db.listings -> v.offers = db.offers ->
              (takeListingQuantity order.listingId listing order.quantity db).listings =
                (takeListingQuantity order.listingId listing order.quantity v).listings ∧
              (takeListingQuantity order.listingId listing order.quantity db).offers =
                (takeListingQuantity order.listingId listing order.quantity v).offers := by
            intro v hv hvo
            unfold takeListingQuantity rejectWaitingOffers
            split <;> simp only [hv, hvo, and_self]
          rw [(htake hlistings hoffers).1, (htake hlistings hoffers).2]
          exact .taken listing (by rw [hlistings, hlisting]) hphysical hpos hcan
      | untouched hlisting =>
          rw [← hlistings, ← hoffers]
          exact .untouched (by rwa [hlistings])
  | arranged orderId ho hl hf =>
      exact .arranged orderId (by rw [horders', ho, horders]) (by rw [hlistings', hl, hlistings])
        (by rw [hoffers', hf, hoffers])

theorem recordPaid_stallMove (env : Env) (r : PaymentRecord) (h : StallMove db db') :
    StallMove db (recordPaid env r db') := by
  obtain ⟨payouts, purchases, ads, entries, -, heq⟩ := recordPaid_frame env r db'
  rw [heq]
  exact h.congr rfl rfl rfl rfl rfl rfl

theorem withIssue_stallMove (env : Env) (data : ReconciliationData) (db : Db) :
    StallMove db (withIssue env data db) := by
  obtain ⟨events, heq⟩ := withIssue_frame env data db
  rw [heq]
  exact .kept rfl rfl rfl

theorem PaidEffects.stallMove {r : PaymentRecord} (h : PaidEffects env r db db')
    (hcurrent : r.order = related db.orders r.row.orderId) :
    StallMove db db' := by
  cases h with
  | underDispute data =>
      obtain ⟨entries, hentries⟩ := writeLedgerPaid_frame r db
      rw [hentries]
      exact (withIssue_stallMove env data { db with ledgerEntries := entries }).congr
        rfl rfl rfl rfl rfl rfl
  | confirmed orderId order committed listings offers payouts _ _ hid horder hpending htaken =>
      apply recordPaid_stallMove
      have hfind : db.orders.findUnique orderId = some order := by
        rw [← horder, hcurrent, hid, related_some]
      exact .confirmed orderId order committed listings offers hfind hpending htaken rfl rfl rfl
  | afterCancellation order data =>
      exact recordPaid_stallMove env r (withIssue_stallMove env data db)
  | transportAccepted jobId truckId quoteId job quote trucks =>
      exact recordPaid_stallMove env r (.arranged job.orderId rfl rfl rfl)
  | inspectionAccepted requestId inspectorId request =>
      exact recordPaid_stallMove env r (.kept rfl rfl rfl)
  | recorded =>
      exact recordPaid_stallMove env r (.kept rfl rfl rfl)

variable {args : SettleArgs}

theorem settlePaymentCore_stallMove (h : settlePaymentCore env args db = .ok db') :
    StallMove db db' := by
  cases hp : db.payments.findUnique args.paymentId with
  | none =>
      simp [settlePaymentCore, hp] at h
  | some p =>
      cases settlePaymentCore_exit hp h with
      | flagged reason =>
          obtain ⟨events, hissue⟩ := withIssue_frame env
            (issueData (paymentRecord db args.paymentId p) args reason) db
          unfold flaggedDb
          rw [hissue]
          split
          · exact .kept rfl rfl rfl
          · exact .kept rfl rfl rfl
      | replayed =>
          exact .kept rfl rfl rfl
      | ignored =>
          obtain ⟨events, hevents⟩ :=
            withEvent_frame args (paymentRecord db args.paymentId p) db
          rw [hevents]
          exact .kept rfl rfl rfl
      | written written _ hwrites hwritten heffects =>
          have hcurrent := record_current_written hwritten args.paymentId
          obtain ⟨events, rfl⟩ := hwritten.shape
          rcases applyEffects_cases heffects with ⟨-, hpaid⟩ | ⟨-, rfl⟩ | ⟨-, -, rfl⟩
          · exact (hpaid.stallMove hcurrent).congr rfl rfl rfl rfl rfl rfl
          · obtain ⟨purchases, entries, hframe⟩ := applyRefunded_frame
              (paymentRecord db args.paymentId p) _
            rw [hframe]
            exact .kept rfl rfl rfl
          · exact .kept rfl rfl rfl

theorem reconcileInventory_stallMove (h : reconcileInventory env args db = .ok db') :
    StallMove db db' := by
  obtain ⟨p, payments, events, issues, -, -, rfl⟩ := reconcileInventory_eq_ok h
  exact .kept rfl rfl rfl

theorem orderToRelease_eq_some {paymentId : Id} {order : Order}
    (h : orderToRelease db paymentId = some order) :
    exists p orderId, db.payments.findUnique paymentId = some p ∧ p.type = .marketplace ∧
      p.orderId = some orderId ∧ db.orders.findUnique orderId = some order ∧
      order.status ∉ [OrderStatus.disputed, .cancelled] := by
  unfold orderToRelease at h
  split at h
  · cases h
  · rename_i p hp
    split at h
    · rename_i hgoods
      obtain ⟨horder, hstatus⟩ := Option.filter_eq_some_iff.1 h
      cases hid : p.orderId with
      | none =>
          rw [hid] at horder
          cases horder
      | some orderId =>
          rw [hid] at horder
          exact ⟨p, orderId, hp, hgoods.1, hid, horder, by simpa using hstatus⟩
    · cases h

def SameCore (_ : Id) (p p' : Payment) : Prop :=
  p'.core = p.core

theorem SameCore.refl (i : Id) (p : Payment) : SameCore i p p :=
  rfl

abbrev CoreKept (db db' : Db) : Prop :=
  db.payments.Rel SameCore db'.payments

theorem CoreKept.of_eq (h : db'.payments = db.payments) : CoreKept db db' := by
  unfold CoreKept
  rw [h]
  exact .refl SameCore.refl _

theorem coreKept_update {k : Id} {f : Payment -> Payment} (hf : forall p, (f p).core = p.core)
    (h : db'.payments = db.payments.update k f) :
    CoreKept db db' := by
  unfold CoreKept
  rw [h]
  exact Table.rel_update SameCore.refl fun p _ => hf p

theorem settlePaymentCore_coreKept (h : settlePaymentCore env args db = .ok db') :
    CoreKept db db' := by
  cases hp : db.payments.findUnique args.paymentId with
  | none =>
      simp [settlePaymentCore, hp] at h
  | some p =>
      have hpayments := settlePaymentCore_payments env hp
      rw [h, commit_ok] at hpayments
      rcases hpayments with ⟨-, hwritten⟩ | ⟨-, hsame⟩ | ⟨-, -, -, hflagged⟩
      · exact coreKept_update (f := (·.afterSettlement args)) (fun _ => rfl) hwritten
      · exact .of_eq hsame
      · exact coreKept_update (f := (·.flagged args)) (fun _ => rfl) hflagged

theorem reconcileInventory_coreKept (h : reconcileInventory env args db = .ok db') :
    CoreKept db db' := by
  obtain ⟨p, payments, events, issues, -, rfl | ⟨-, rfl⟩, rfl⟩ := reconcileInventory_eq_ok h
  · exact .of_eq rfl
  · exact coreKept_update (f := (·.flagged args)) (fun _ => rfl) rfl

def settledPayments (db : Db) (args : SettleArgs) : List Id :=
  args.paymentId :: ((db.payments.findUnique args.paymentId).bind (·.parentPaymentId)).toList

theorem mem_settledPayments_of_plan {settled : Db} {parentPaymentId : Id}
    (hcore : CoreKept db settled)
    (h : planOfInstallment settled args.paymentId = some parentPaymentId) :
    parentPaymentId ∈ settledPayments db args := by
  unfold planOfInstallment at h
  split at h
  · cases h
  · rename_i q hq
    obtain ⟨p, hp, hsame⟩ := hcore.of_right hq
    split at h
    · rw [Payment.core_parentPaymentId hsame] at h
      simp [settledPayments, hp, h]
    · cases h

/-- What a settlement does before the waiting bids are withdrawn. -/
structure StallSettled (db planned : Db) : Prop where
  moves : StallMoves db planned
  core : CoreKept db planned

theorem StallSettled.trans {db'' : Db} (h : StallSettled db db') (h' : StallSettled db' db'') :
    StallSettled db db'' :=
  ⟨h.moves.trans h'.moves, Table.Rel.trans (fun _ _ _ _ hpq hqr => Eq.trans hqr hpq) h.core h'.core⟩

theorem settlePaymentCore_stallSettled (h : settlePaymentCore env args db = .ok db') :
    StallSettled db db' :=
  ⟨.single (settlePaymentCore_stallMove h), settlePaymentCore_coreKept h⟩

theorem settleOrReconcile_stallSettled (h : settleOrReconcile env args db = .ok db') :
    StallSettled db db' := by
  unfold settleOrReconcile at h
  split at h
  · rename_i hok
    obtain rfl := Except.ok.inj h
    exact settlePaymentCore_stallSettled hok
  · split at h
    · split at h
      · rename_i hreconciled
        obtain rfl := Except.ok.inj h
        exact ⟨.single (reconcileInventory_stallMove hreconciled),
          reconcileInventory_coreKept hreconciled⟩
      · cases h
    · cases h

theorem finalizeInstallmentPlan_stallSettled (env : Env) (parentPaymentId : Id) (db : Db) :
    StallSettled db (commit (finalizeInstallmentPlan env parentPaymentId db) db) := by
  have hrefl : StallSettled db db := ⟨.refl, .of_eq rfl⟩
  refine commit_preserves (P := StallSettled db) hrefl fun db' h => ?_
  unfold finalizeInstallmentPlan at h
  repeat' split at h
  all_goals
    first
      | exact settlePaymentCore_stallSettled h
      | exact (Except.ok.inj h) ▸ hrefl

theorem settlePayment_stall (h : settlePayment env args db = .ok db') :
    exists planned paymentId, StallSettled db planned ∧
      paymentId ∈ settledPayments db args ∧ db' = releaseBiddersAfter paymentId planned := by
  unfold settlePayment at h
  rw [bind_eq_ok] at h
  obtain ⟨settled, hsettle, h⟩ := h
  have hsettled := settleOrReconcile_stallSettled hsettle
  split at h
  · obtain rfl := Except.ok.inj h
    exact ⟨settled, args.paymentId, hsettled, List.mem_cons_self, rfl⟩
  · rename_i parentPaymentId hplan
    obtain rfl := Except.ok.inj h
    exact ⟨_, parentPaymentId,
      hsettled.trans (finalizeInstallmentPlan_stallSettled env parentPaymentId settled),
      mem_settledPayments_of_plan hsettled.core hplan, rfl⟩

theorem confirmWaitingOrder_stallMove {orderId : Id} {order : Order}
    (hfind : db.orders.findUnique orderId = some order)
    (h : confirmWaitingOrder orderId order db = .ok db') :
    StallMove db db' := by
  unfold confirmWaitingOrder at h
  split at h
  · rename_i hpending
    rw [bind_eq_ok] at h
    obtain ⟨taken, hcommit, htransition⟩ := h
    obtain ⟨committed, listings, offers, htaken, rfl⟩ := commitGoods_eq_ok hcommit
    obtain ⟨-, -, rfl⟩ := transitionOrderStatus_eq_ok_iff.1 htransition
    refine .confirmed orderId order committed listings offers hfind hpending htaken ?_ rfl rfl
    exact Table.update_update _ _ _ _
  · obtain rfl := Except.ok.inj h
    exact .kept rfl rfl rfl

theorem replayGoods_stallMove {r : PaymentRecord}
    (hcurrent : r.order = related db.orders r.row.orderId) (h : replayGoods env r db = .ok db') :
    StallMove db db' := by
  unfold replayGoods at h
  split at h
  · rename_i orderId order _ hid horder
    rw [bind_eq_ok] at h
    obtain ⟨moved, hmove, hhold⟩ := h
    obtain rfl := Except.ok.inj hhold
    obtain ⟨payouts, -, hheld⟩ := createPayoutHold_frame env (some orderId) .seller
      (some order.sellerId) r.id r.row moved
    rw [hheld]
    have hfind : db.orders.findUnique orderId = some order := by
      rw [← horder, hcurrent, hid, related_some]
    exact (confirmWaitingOrder_stallMove hfind hmove).congr rfl rfl rfl rfl rfl rfl
  · obtain rfl := Except.ok.inj h
    exact .kept rfl rfl rfl

theorem replayTransport_stallMove (env : Env) (r : PaymentRecord) (db : Db) :
    StallMove db (replayTransport env r db) := by
  unfold replayTransport
  split
  · split
    · exact .arranged _ rfl rfl rfl
    · exact .kept rfl rfl rfl
  · exact .kept rfl rfl rfl

theorem replayInspection_stallMove (r : PaymentRecord) (db : Db) :
    StallMove db (replayInspection r db) := by
  unfold replayInspection
  split
  · exact .kept rfl rfl rfl
  · split
    · exact .kept rfl rfl rfl
    · exact .kept rfl rfl rfl

theorem holdTransportPayout_stallMove (env : Env) (r : PaymentRecord) (db : Db) :
    StallMove db (holdTransportPayout env r db) := by
  obtain ⟨payouts, -, h⟩ := holdTransportPayout_frame env r db
  rw [h]
  exact .kept rfl rfl rfl

theorem holdInspectionPayout_stallMove (env : Env) (r : PaymentRecord) (db : Db) :
    StallMove db (holdInspectionPayout env r db) := by
  obtain ⟨payouts, -, h⟩ := holdInspectionPayout_frame env r db
  rw [h]
  exact .kept rfl rfl rfl

theorem replayDisputedPaidPayment_stallMoves {paymentId : Id}
    (h : replayDisputedPaidPayment env paymentId db = .ok db') :
    StallMoves db db' := by
  unfold replayDisputedPaidPayment at h
  split at h
  · obtain rfl := Except.ok.inj h
    exact .refl
  · rename_i p hp
    dsimp only at h
    split at h
    · rw [bind_eq_ok] at h
      obtain ⟨replayed, hgoods, hrest⟩ := h
      obtain rfl := Except.ok.inj hrest
      have hstep := replayGoods_stallMove (record_current db paymentId p) hgoods
      exact ((((Relation.ReflTransGen.single hstep).tail
        (replayTransport_stallMove env _ _)).tail
        (holdTransportPayout_stallMove env _ _)).tail
        (replayInspection_stallMove _ _)).tail
        (holdInspectionPayout_stallMove env _ _)
    · obtain rfl := Except.ok.inj h
      exact .refl

theorem replayPaidPayments_stallMoves {paymentIds : List Id}
    (h : paymentIds.foldlM
      (fun db paymentId => replayDisputedPaidPayment env paymentId db) db = .ok db') :
    StallMoves db db' :=
  foldlM_preserves (P := StallMoves db)
    (fun _ _ _ hdb hreplay => hdb.trans (replayDisputedPaidPayment_stallMoves hreplay)) .refl h

/-! ## Cancellation -/

/-- The row of a listing when an order on it has been cancelled, before any promotion. -/
def OrderRecord.returned (order : OrderRecord) (db : Db) (l : Listing) : Listing :=
  if order.givesBack db then l.giveBack order.quantity (hasActiveOffers db order.listingId)
  else if order.status ≠ .pendingPayment then { l with status := .active }
  else l

theorem restoreGoods_returned {order : OrderRecord} (h : restoreGoods order db = .ok db') :
    db'.offers = db.offers ∧
      db'.listings = db.listings.update order.listingId (order.returned db) := by
  unfold restoreGoods at h
  rw [bind_eq_ok] at h
  obtain ⟨released, hrelease, hwrite⟩ := h
  cases released with
  | some restored =>
      obtain ⟨hinferred, hpos, listing, hl, hphysical, rfl⟩ :=
        releaseListingQuantity_eq_ok_some hrelease
      obtain rfl := Except.ok.inj hwrite
      have hgives : order.givesBack db = true := by
        simp [OrderRecord.givesBack, isForStock, hinferred, hl, hphysical]
      refine ⟨rfl, ?_⟩
      dsimp only
      congr 1
      funext l
      simp [OrderRecord.returned, hgives]
  | none =>
      have hkeeps : order.givesBack db = false := by
        unfold OrderRecord.givesBack isForStock
        cases releaseListingQuantity_eq_ok_none hrelease with
        | inl hinferred =>
            simp [hinferred]
        | inr hlisting =>
            rw [Bool.and_eq_false_iff]
            right
            cases hl : db.listings.findUnique order.listingId with
            | none => rfl
            | some listing => simpa using hlisting.2 listing hl
      dsimp only at hwrite
      split at hwrite
      · rename_i hpending
        obtain rfl := Except.ok.inj hwrite
        have hactive : order.returned db = ({ · with status := .active }) := by
          funext l
          simp [OrderRecord.returned, hkeeps, hpending]
        rw [hactive]
        exact ⟨rfl, rfl⟩
      · rename_i hpending
        obtain rfl := Except.ok.inj hwrite
        refine ⟨rfl, ?_⟩
        have hsame : order.returned db = id := by
          funext l
          simp only [OrderRecord.returned, hkeeps, Bool.false_eq_true, if_false, hpending, id]
        rw [hsame]
        exact ((Table.updateMany_eq_self_iff _ _ _).2 fun _ _ _ _ => rfl).symm

theorem cancelOrderInTransaction_stall {order : OrderRecord} {actorId : Option Id}
    {reason : Option String} {role : CancelledByRole}
    (h : cancelOrderInTransaction env order actorId reason role db = .ok db') :
    db'.offers = (releaseWinner env order { db with
        listings := db.listings.update order.listingId (order.returned db) }).offers ∧
      db'.listings = (releaseWinner env order { db with
        listings := db.listings.update order.listingId (order.returned db) }).listings := by
  unfold cancelOrderInTransaction at h
  simp only [bind_eq_ok] at h
  obtain ⟨_, -, db₁, htransition, db₃, hrestore, db₈, hrefunds, hrest⟩ := h
  obtain ⟨-, -, rfl⟩ := transitionOrderStatus_eq_ok_iff.1 htransition
  obtain ⟨hoffers₃, hlistings₃⟩ := restoreGoods_returned hrestore
  have hreturned : forall w : Db, w.listings = db.listings -> w.offers = db.offers ->
      order.returned w = order.returned db := by
    intro w hl ho
    unfold OrderRecord.returned OrderRecord.givesBack isForStock hasActiveOffers
    rw [hl, ho]
  rw [cancelPayoutsForOrder_eq] at hrefunds
  obtain ⟨-, -, payments, refunds, events, hshape⟩ := requestRefunds_refundsAdded hrefunds
  have hservices := (cancelTransport_frame order db₃).1
  have hkept : (cancelTransport order db₃).offers = db₃.offers := by
    unfold cancelTransport
    split
    · rfl
    · split <;> rfl
  have hlistings₈ : db₈.listings = db.listings.update order.listingId (order.returned db) := by
    rw [hshape, ← hreturned _ rfl rfl]
    exact hservices.listings.trans hlistings₃
  have hoffers₈ : db₈.offers = db.offers := by
    rw [hshape]
    exact hkept.trans hoffers₃
  obtain rfl := Except.ok.inj hrest
  unfold releaseWinner
  split
  · apply promoteNextWaitingBuyer_congr
    · simp only [hoffers₈]
    · exact hlistings₈
  · exact ⟨hoffers₈, hlistings₈⟩

end MarketBridge
