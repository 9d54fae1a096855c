import Mathlib.Logic.Relation
import MarketBridge.Payment.Service

/-!
# Progress of orders

What a settlement and a replay do to orders, listings and payouts: a pending
order is confirmed and its goods are taken, a confirmed order gets its transport,
and payouts are put on hold.  Nothing else happens to these tables.
-/

namespace MarketBridge

open Relational

/-! ## One movement -/

/-- What confirming an order takes from its listing. -/
inductive StockTaken (order : Order) (listings : Table Listing) : Bool -> Table Listing -> Prop where
  | taken (listing : Listing)
      (hfind : listings.findUnique order.listingId = some listing)
      (hphysical : listing.category.isPhysical = true)
      (hpos : 0 < order.quantity) :
      StockTaken order listings true
        (listings.update order.listingId (·.take order.quantity))
  | untouched
      (hfind : forall listing, listings.findUnique order.listingId = some listing ->
        listing.category.isPhysical = false) :
      StockTaken order listings false listings

variable {order : Order} {db db' : Db} {env : Env} {args : SettleArgs}

theorem GoodsTaken.stockTaken {committed : Bool} {listings : Table Listing} {offers : Table Offer}
    (h : GoodsTaken order db committed listings offers) :
    StockTaken order db.listings committed listings := by
  cases h with
  | taken listing hfind hphysical hpos hcan =>
      rw [takeListingQuantity_listings]
      exact .taken listing hfind hphysical hpos
  | untouched hfind =>
      exact .untouched hfind

inductive OrderMove (orders : Table Order) (listings : Table Listing) :
    Table Order -> Table Listing -> Prop where
  | kept : OrderMove orders listings orders listings
  /-- A pending order is confirmed. -/
  | confirmed (orderId : Id) (order : Order) (committed : Bool) (listings' : Table Listing)
      (hfind : orders.findUnique orderId = some order)
      (hpending : order.status = .pendingPayment)
      (htaken : StockTaken order listings committed listings') :
      OrderMove orders listings (orders.update orderId (·.confirm committed)) listings'
  /-- A confirmed order gets its transport. -/
  | arranged (orderId : Id) :
      OrderMove orders listings
        (orders.updateMany (fun i o => i == orderId && o.status = .confirmed)
          ({ · with status := .transportArranged })) listings

def PayoutsGained (payouts payouts' : Table Payout) : Prop :=
  forall i payout, payouts'.findUnique i = some payout ->
    payout.status = .held ∨ payouts.findUnique i = some payout

theorem PayoutsGained.refl (payouts : Table Payout) : PayoutsGained payouts payouts :=
  fun _ _ h => Or.inr h

theorem PayoutsGained.trans {t u v : Table Payout}
    (h : PayoutsGained t u) (h' : PayoutsGained u v) :
    PayoutsGained t v := by
  intro i payout hi
  cases h' i payout hi with
  | inl hheld =>
      exact Or.inl hheld
  | inr hbefore =>
      exact h i payout hbefore

theorem GainedHold.payoutsGained {paymentId : Id} {payouts payouts' : Table Payout}
    (h : GainedHold paymentId payouts payouts') :
    PayoutsGained payouts payouts' := by
  rcases h with rfl | ⟨hold, hheld, -, rfl⟩
  · exact .refl _
  · intro i payout hi
    rw [Table.findUnique_create] at hi
    by_cases hlast : i = payouts.size
    · rw [if_pos hlast, Option.some.injEq] at hi
      exact Or.inl (hi ▸ hheld)
    · rw [if_neg hlast] at hi
      exact Or.inr hi

structure ProgressStep (db db' : Db) : Prop where
  moved : OrderMove db.orders db.listings db'.orders db'.listings
  payouts : PayoutsGained db.payouts db'.payouts
  disputes : db'.disputes = db.disputes

abbrev Progress : Db -> Db -> Prop :=
  Relation.ReflTransGen ProgressStep

theorem ProgressStep.of_eq (horders : db'.orders = db.orders)
    (hlistings : db'.listings = db.listings) (hpayouts : db'.payouts = db.payouts)
    (hdisputes : db'.disputes = db.disputes) :
    ProgressStep db db' := by
  refine ⟨?_, ?_, hdisputes⟩
  · rw [horders, hlistings]
    exact .kept
  · rw [hpayouts]
    exact .refl _

theorem ProgressStep.congr {w w' : Db} (h : ProgressStep db db') (horders : w.orders = db.orders)
    (hlistings : w.listings = db.listings) (hpayouts : w.payouts = db.payouts)
    (hdisputes : w.disputes = db.disputes) (horders' : w'.orders = db'.orders)
    (hlistings' : w'.listings = db'.listings) (hpayouts' : PayoutsGained db'.payouts w'.payouts)
    (hdisputes' : w'.disputes = db'.disputes) :
    ProgressStep w w' := by
  refine ⟨?_, ?_, ?_⟩
  · rw [horders, hlistings, horders', hlistings']
    exact h.moved
  · rw [hpayouts]
    exact h.payouts.trans hpayouts'
  · rw [hdisputes', hdisputes]
    exact h.disputes

/-! ## Settlement -/

theorem recordPaid_progressStep (env : Env) (r : PaymentRecord) (h : ProgressStep db db') :
    ProgressStep db (recordPaid env r db') := by
  obtain ⟨payouts, purchases, ads, entries, hgained, heq⟩ := recordPaid_frame env r db'
  rw [heq]
  exact h.congr rfl rfl rfl rfl rfl rfl hgained.payoutsGained rfl

theorem withIssue_progressStep (env : Env) (data : ReconciliationData) (db : Db) :
    ProgressStep db (withIssue env data db) := by
  obtain ⟨events, heq⟩ := withIssue_frame env data db
  rw [heq]
  exact .of_eq rfl rfl rfl rfl

theorem acceptTransport_progressStep (env : Env) (jobId quoteId : Id) (job : TransportJob)
    (trucks : Table Truck) (db : Db) :
    ProgressStep db (acceptTransport env jobId quoteId job { db with trucks := trucks }) :=
  ⟨.arranged job.orderId, .refl _, rfl⟩

theorem PaidEffects.progressStep {r : PaymentRecord} (h : PaidEffects env r db db')
    (hcurrent : r.order = related db.orders r.row.orderId) :
    ProgressStep db db' := by
  cases h with
  | underDispute data =>
      obtain ⟨entries, hentries⟩ := writeLedgerPaid_frame r db
      rw [hentries]
      exact (withIssue_progressStep env data { db with ledgerEntries := entries }).congr
        rfl rfl rfl rfl rfl rfl (.refl _) rfl
  | confirmed orderId order committed listings offers payouts _ _ hid horder hpending htaken
      hgained =>
      apply recordPaid_progressStep
      have hfind : db.orders.findUnique orderId = some order := by
        rw [← horder, hcurrent, hid, related_some]
      exact ⟨.confirmed orderId order committed _ hfind hpending htaken.stockTaken,
        hgained.payoutsGained, rfl⟩
  | afterCancellation order data =>
      exact recordPaid_progressStep env r (withIssue_progressStep env data db)
  | transportAccepted jobId truckId quoteId job quote trucks =>
      exact recordPaid_progressStep env r
        (acceptTransport_progressStep env jobId quoteId job trucks db)
  | inspectionAccepted requestId inspectorId request =>
      exact recordPaid_progressStep env r (.of_eq rfl rfl rfl rfl)
  | recorded =>
      exact recordPaid_progressStep env r (.of_eq rfl rfl rfl rfl)

theorem settlePaymentCore_progressStep (h : settlePaymentCore env args db = .ok db') :
    ProgressStep db db' := by
  cases hp : db.payments.findUnique args.paymentId with
  | none =>
      simp [settlePaymentCore, hp] at h
  | some p =>
      cases settlePaymentCore_exit hp h with
      | flagged reason =>
          obtain ⟨events, hissue⟩ := withIssue_frame env
            (issueData (paymentRecord db args.paymentId p) args reason) db
          unfold flaggedDb
          rw [hissue]
          split
          · exact .of_eq rfl rfl rfl rfl
          · exact .of_eq rfl rfl rfl rfl
      | replayed =>
          exact .of_eq rfl rfl rfl rfl
      | ignored =>
          obtain ⟨events, hevents⟩ :=
            withEvent_frame args (paymentRecord db args.paymentId p) db
          rw [hevents]
          exact .of_eq rfl rfl rfl rfl
      | written written _ hwrites hwritten heffects =>
          have hcurrent := record_current_written hwritten args.paymentId
          obtain ⟨events, rfl⟩ := hwritten.shape
          rcases applyEffects_cases heffects with ⟨-, hpaid⟩ | ⟨-, rfl⟩ | ⟨-, -, rfl⟩
          · exact (hpaid.progressStep hcurrent).congr rfl rfl rfl rfl rfl rfl (.refl _) rfl
          · obtain ⟨purchases, entries, hframe⟩ := applyRefunded_frame
              (paymentRecord db args.paymentId p) _
            rw [hframe]
            exact .of_eq rfl rfl rfl rfl
          · exact .of_eq rfl rfl rfl rfl

theorem reconcileInventory_eq_ok (h : reconcileInventory env args db = .ok db') :
    exists p payments events issues, db.payments.findUnique args.paymentId = some p ∧
      (payments = db.payments ∨
        assertTransition p.status .reconciliationRequired = .ok () ∧
          payments = db.payments.update args.paymentId (·.flagged args)) ∧
      db' = { db with payments := payments, orderEvents := events, reconciliations := issues } := by
  unfold reconcileInventory at h
  split at h
  · cases h
  · next p hp =>
      obtain ⟨flagged, hflag, hissue⟩ := bind_eq_ok.1 h
      obtain ⟨-, rfl⟩ := createReconciliationIssue_eq_ok_iff.1 hissue
      obtain ⟨events, hframe⟩ := withIssue_frame env _ flagged
      rw [hframe]
      unfold flagForReconciliation at hflag
      split at hflag
      · obtain rfl := Except.ok.inj hflag
        exact ⟨p, _, events, _, hp, Or.inl rfl, rfl⟩
      · obtain ⟨_, htransition, hwrite⟩ := bind_eq_ok.1 hflag
        obtain ⟨-, -, -, rfl⟩ := updatePayment_eq_ok_iff.1 hwrite
        exact ⟨p, _, events, _, hp, Or.inr ⟨htransition, rfl⟩, rfl⟩

theorem reconcileInventory_progressStep (h : reconcileInventory env args db = .ok db') :
    ProgressStep db db' := by
  obtain ⟨p, payments, events, issues, -, -, rfl⟩ := reconcileInventory_eq_ok h
  exact .of_eq rfl rfl rfl rfl

theorem releaseBiddersAfter_frame (paymentId : Id) (db : Db) :
    exists offers, releaseBiddersAfter paymentId db = { db with offers := offers } := by
  unfold releaseBiddersAfter
  split
  · exact ⟨db.offers, rfl⟩
  · exact ⟨_, rfl⟩

theorem releaseBiddersAfter_progressStep (paymentId : Id) (db : Db) :
    ProgressStep db (releaseBiddersAfter paymentId db) := by
  obtain ⟨offers, h⟩ := releaseBiddersAfter_frame paymentId db
  rw [h]
  exact .of_eq rfl rfl rfl rfl

theorem settleOrReconcile_cases {settled : Db} (h : settleOrReconcile env args db = .ok settled) :
    settlePaymentCore env args db = .ok settled ∨
      args.status = .paid ∧ reconcileInventory env args db = .ok settled := by
  unfold settleOrReconcile at h
  split at h
  · next hok =>
      obtain rfl := Except.ok.inj h
      exact Or.inl hok
  · split at h
    · next hpaid =>
        split at h
        · next hreconciled =>
            obtain rfl := Except.ok.inj h
            exact Or.inr ⟨hpaid.2, hreconciled⟩
        · cases h
    · cases h

theorem finalizeInstallmentPlan_cases {parentPaymentId : Id}
    (h : finalizeInstallmentPlan env parentPaymentId db = .ok db') :
    db' = db ∨ exists parent,
      settlePaymentCore env (planNotice parentPaymentId parent) db = .ok db' := by
  unfold finalizeInstallmentPlan at h
  repeat' split at h
  all_goals
    first
      | exact Or.inr ⟨_, h⟩
      | exact Or.inl (Except.ok.inj h).symm

/-- A settlement perhaps completes a plan, and releases bidders. -/
theorem settlePayment_stages (h : settlePayment env args db = .ok db') :
    exists settled planned paymentId,
      settleOrReconcile env args db = .ok settled ∧
      (planned = settled ∨ exists parentPaymentId parent,
        planOfInstallment settled args.paymentId = some parentPaymentId ∧
        settlePaymentCore env (planNotice parentPaymentId parent) settled = .ok planned) ∧
      db' = releaseBiddersAfter paymentId planned := by
  unfold settlePayment at h
  rw [bind_eq_ok] at h
  obtain ⟨settled, hsettle, hrest⟩ := h
  split at hrest
  · obtain rfl := Except.ok.inj hrest
    exact ⟨settled, settled, _, hsettle, Or.inl rfl, rfl⟩
  · next parentPaymentId hparent =>
      obtain rfl := Except.ok.inj hrest
      refine ⟨settled, _, _, hsettle, ?_, rfl⟩
      cases hfinal : finalizeInstallmentPlan env parentPaymentId settled with
      | error e =>
          exact Or.inl rfl
      | ok planned =>
          rcases finalizeInstallmentPlan_cases hfinal with rfl | ⟨parent, hcore⟩
          · exact Or.inl rfl
          · exact Or.inr ⟨parentPaymentId, parent, hparent, hcore⟩

/-- A settlement is the core one or the report, perhaps one of a plan, and a release of bidders. -/
theorem settlePayment_cases (h : settlePayment env args db = .ok db') :
    exists settled planned paymentId,
      (settlePaymentCore env args db = .ok settled ∨
        args.status = .paid ∧ reconcileInventory env args db = .ok settled) ∧
      (planned = settled ∨ exists parentPaymentId parent,
        planOfInstallment settled args.paymentId = some parentPaymentId ∧
        settlePaymentCore env (planNotice parentPaymentId parent) settled = .ok planned) ∧
      db' = releaseBiddersAfter paymentId planned := by
  obtain ⟨settled, planned, paymentId, hsettle, hplan, hbidders⟩ := settlePayment_stages h
  exact ⟨settled, planned, paymentId, settleOrReconcile_cases hsettle, hplan, hbidders⟩

/-- What the core settlement, the report and the release of bidders do, a settlement does. -/
theorem settlePayment_rel {R : Db -> Db -> Prop} (hrefl : forall db, R db db)
    (htrans : forall {a b c}, R a b -> R b c -> R a c)
    (hcore : forall {args db db'}, settlePaymentCore env args db = .ok db' -> R db db')
    (hreconcile : forall {db db'}, reconcileInventory env args db = .ok db' -> R db db')
    (hbidders : forall paymentId db, R db (releaseBiddersAfter paymentId db))
    (h : settlePayment env args db = .ok db') :
    R db db' := by
  obtain ⟨settled, planned, paymentId, hfirst, hplan, rfl⟩ := settlePayment_cases h
  have hsettled : R db settled := by
    rcases hfirst with hok | ⟨-, hreconciled⟩
    · exact hcore hok
    · exact hreconcile hreconciled
  have hplanned : R settled planned := by
    rcases hplan with rfl | ⟨parentPaymentId, parent, -, hok⟩
    · exact hrefl _
    · exact hcore hok
  exact htrans (htrans hsettled hplanned) (hbidders _ _)

theorem settlePayment_progress (h : settlePayment env args db = .ok db') :
    Progress db db' :=
  settlePayment_rel (fun _ => .refl) .trans (fun hcore => .single (settlePaymentCore_progressStep hcore))
    (fun hreconcile => .single (reconcileInventory_progressStep hreconcile))
    (fun paymentId db => .single (releaseBiddersAfter_progressStep paymentId db)) h

/-! ## Replay -/

theorem commitGoods_stockTaken {orderId : Id} (h : commitGoods orderId order db = .ok db') :
    exists committed listings offers, StockTaken order db.listings committed listings ∧
      db' = { db with
        orders := db.orders.update orderId fun o =>
          { o with goodsCommitted := committed || o.goodsCommitted }
        listings := listings
        offers := offers } := by
  obtain ⟨committed, listings, offers, htaken, hdb'⟩ := commitGoods_eq_ok h
  exact ⟨committed, listings, offers, htaken.stockTaken, hdb'⟩

theorem createPayoutHold_progressStep (h : ProgressStep db db') (env : Env) (orderId : Option Id)
    (payeeRole : PayoutPayeeRole) (payeeId : Option Id) (paymentId : Id) (payment : Payment) :
    ProgressStep db (createPayoutHold env orderId payeeRole payeeId paymentId payment db') := by
  obtain ⟨payouts, hgained, hhold⟩ :=
    createPayoutHold_frame env orderId payeeRole payeeId paymentId payment db'
  rw [hhold]
  exact h.congr rfl rfl rfl rfl rfl rfl hgained.payoutsGained rfl

theorem confirmWaitingOrder_progressStep {orderId : Id}
    (hfind : db.orders.findUnique orderId = some order)
    (h : confirmWaitingOrder orderId order db = .ok db') :
    ProgressStep db db' := by
  unfold confirmWaitingOrder at h
  split at h
  · rename_i hpending
    rw [bind_eq_ok] at h
    obtain ⟨committedDb, hcommit, htransition⟩ := h
    obtain ⟨committed, listings, offers, htaken, rfl⟩ := commitGoods_stockTaken hcommit
    obtain ⟨-, -, rfl⟩ := transitionOrderStatus_eq_ok_iff.1 htransition
    refine ⟨?_, .refl _, rfl⟩
    dsimp only
    rw [Table.update_update]
    exact .confirmed orderId order committed listings hfind hpending htaken
  · obtain rfl := Except.ok.inj h
    exact .of_eq rfl rfl rfl rfl

theorem replayGoods_progressStep {r : PaymentRecord}
    (hcurrent : r.order = related db.orders r.row.orderId) (h : replayGoods env r db = .ok db') :
    ProgressStep db db' := by
  unfold replayGoods at h
  split at h
  · rename_i orderId order htype hid horder
    rw [bind_eq_ok] at h
    obtain ⟨moved, hmove, hhold⟩ := h
    obtain rfl := Except.ok.inj hhold
    apply createPayoutHold_progressStep
    apply confirmWaitingOrder_progressStep _ hmove
    rw [← horder, hcurrent, hid, related_some]
  · obtain rfl := Except.ok.inj h
    exact .of_eq rfl rfl rfl rfl

theorem replayTransport_progressStep (env : Env) (r : PaymentRecord) (db : Db) :
    ProgressStep db (replayTransport env r db) := by
  unfold replayTransport
  split
  · split
    · exact acceptTransport_progressStep env _ _ _ _ db
    · exact .of_eq rfl rfl rfl rfl
  · exact .of_eq rfl rfl rfl rfl

theorem replayInspection_progressStep (r : PaymentRecord) (db : Db) :
    ProgressStep db (replayInspection r db) := by
  unfold replayInspection
  split
  · exact .of_eq rfl rfl rfl rfl
  · split
    · exact .of_eq rfl rfl rfl rfl
    · exact .of_eq rfl rfl rfl rfl

theorem holdTransportPayout_progressStep (env : Env) (r : PaymentRecord) (db : Db) :
    ProgressStep db (holdTransportPayout env r db) := by
  obtain ⟨payouts, hgained, h⟩ := holdTransportPayout_frame env r db
  rw [h]
  exact ⟨.kept, hgained.payoutsGained, rfl⟩

theorem holdInspectionPayout_progressStep (env : Env) (r : PaymentRecord) (db : Db) :
    ProgressStep db (holdInspectionPayout env r db) := by
  obtain ⟨payouts, hgained, h⟩ := holdInspectionPayout_frame env r db
  rw [h]
  exact ⟨.kept, hgained.payoutsGained, rfl⟩

theorem replayDisputedPaidPayment_progress {paymentId : Id}
    (h : replayDisputedPaidPayment env paymentId db = .ok db') :
    Progress db db' := by
  unfold replayDisputedPaidPayment at h
  split at h
  · obtain rfl := Except.ok.inj h
    exact .refl
  · rename_i p hp
    dsimp only at h
    split at h
    · rw [bind_eq_ok] at h
      obtain ⟨replayed, hgoods, hrest⟩ := h
      obtain rfl := Except.ok.inj hrest
      have hstep := replayGoods_progressStep (record_current db paymentId p) hgoods
      exact ((((Relation.ReflTransGen.single hstep).tail
        (replayTransport_progressStep env _ _)).tail
        (holdTransportPayout_progressStep env _ _)).tail
        (replayInspection_progressStep _ _)).tail
        (holdInspectionPayout_progressStep env _ _)
    · obtain rfl := Except.ok.inj h
      exact .refl

theorem replayPaidPayments_progress {env : Env} {paymentIds : List Id} {db db' : Db}
    (h : paymentIds.foldlM
      (fun db paymentId => replayDisputedPaidPayment env paymentId db) db = .ok db') :
    Progress db db' :=
  foldlM_preserves (P := Progress db)
    (fun _ _ _ hdb hreplay => hdb.trans (replayDisputedPaidPayment_progress hreplay)) .refl h

end MarketBridge
