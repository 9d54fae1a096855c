import MarketBridge.Payment.SettlementSpec

/-!
# Business effects of a received payment

`PaidEffects` lists everything that the effects of a `PAID` notification can do
to the database.  The effects go through exactly when `paidCommittable` holds,
which reads the database before the notification only.
-/

namespace MarketBridge

open Relational

/-! ## When the effects go through -/

/-- The goods of a pending order can be taken from their listing. -/
def goodsCommittable (args : SettleArgs) (r : PaymentRecord) (db : Db) : Bool :=
  match r.row.type, r.row.orderId, r.order with
  | .marketplace, some _, some order =>
      if order.status = .pendingPayment then
        match db.listings.findUnique order.listingId with
        | none => true
        | some listing =>
            !listing.category.isPhysical ||
              (0 < order.quantity && listing.canCommit order.quantity)
      else if order.status = .cancelled then
        storableAmount (some (args.amount.getD (.finite r.row.amount)))
      else
        true
  | _, _, _ => true

def truckClaimable (jobId truckId : Id) (jobStatus : TransportStatus) (db : Db) :
    Bool :=
  (db.trucks.findUnique truckId).any fun truck =>
    truck.availability = .available ||
      (truck.availability = .busy && jobStatus = .accepted &&
        !truckInUseElsewhere db jobId truckId)

def transportCommittable (r : PaymentRecord) (db : Db) : Bool :=
  (transportCommitment r).all fun (jobId, job, truckId, _, quote) =>
    job.status ∈ [TransportStatus.requested, .quoted, .accepted] &&
      transportAligned r.row jobId job quote &&
      truckClaimable jobId truckId job.status db

def inspectionCommittable (r : PaymentRecord) : Bool :=
  (inspectionCommitment r).all fun (_, request, _) =>
    request.status ∈ [InspectionStatus.requested, .accepted]

def paidCommittable (args : SettleArgs) (r : PaymentRecord) (db : Db) : Bool :=
  if receivedUnderDispute r then
    storableAmount args.amount
  else
    goodsCommittable args r db && transportCommittable r db && inspectionCommittable r

/-! ## Goods -/

def Order.confirm (committed : Bool) (o : Order) : Order :=
  { o with
    status := .confirmed
    goodsCommitted := committed || o.goodsCommitted }

/-- The listing side of a confirmation: what it takes from which listing. -/
inductive GoodsTaken (order : Order) (db : Db) :
    Bool -> Table Listing -> Table Offer -> Prop where
  | taken (listing : Listing)
      (hfind : db.listings.findUnique order.listingId = some listing)
      (hphysical : listing.category.isPhysical = true)
      (hpos : 0 < order.quantity)
      (hcan : listing.canCommit order.quantity = true) :
      GoodsTaken order db true
        (takeListingQuantity order.listingId listing order.quantity db).listings
        (takeListingQuantity order.listingId listing order.quantity db).offers
  | untouched
      (hfind : forall listing, db.listings.findUnique order.listingId = some listing ->
        listing.category.isPhysical = false) :
      GoodsTaken order db false db.listings db.offers

variable {db db' : Db} {env : Env} {args : SettleArgs} {r : PaymentRecord} {truckId : Id}

theorem commitGoods_eq_ok {orderId : Id} {order : Order}
    (h : commitGoods orderId order db = .ok db') :
    exists committed listings offers, GoodsTaken order db committed listings offers ∧
      db' = { db with
        orders := db.orders.update orderId fun o =>
          { o with goodsCommitted := committed || o.goodsCommitted }
        listings := listings
        offers := offers } := by
  have hsame : db.orders.update orderId (fun o =>
      { o with goodsCommitted := false || o.goodsCommitted }) = db.orders := by
    rw [Table.update, Table.updateMany_eq_self_iff]
    intro i o _ _
    simp
  unfold commitGoods at h
  cases hl : db.listings.findUnique order.listingId with
  | none =>
      simp only [hl, Except.ok.injEq] at h
      refine ⟨false, _, _, .untouched (by simp [hl]), ?_⟩
      rw [hsame]
      exact h.symm
  | some listing =>
      by_cases hphysical : listing.category.isPhysical = true
      · simp only [hl, hphysical, if_true] at h
        rw [bind_eq_ok] at h
        obtain ⟨taken, htake, hmark⟩ := h
        obtain ⟨hpos, listing', hl', hcan, rfl⟩ :=
          commitListingQuantity_eq_ok_iff.mp htake
        obtain rfl : listing = listing' := by simpa [hl] using hl'
        refine ⟨true, _, _, .taken listing hl hphysical hpos hcan, ?_⟩
        obtain ⟨listings, offers, hframe⟩ :=
          takeListingQuantity_frame order.listingId listing order.quantity db
        simp only [Except.ok.injEq] at hmark
        rw [← hmark, hframe]
        simp
      · simp only [hl, hphysical] at h
        refine ⟨false, _, _, .untouched ?_, ?_⟩
        · intro l hfind
          obtain rfl : listing = l := by simpa [hl] using hfind
          simpa using hphysical
        · obtain rfl : db = db' := by simpa using h
          rw [hsame]

theorem commitGoods_isOk_iff (orderId : Id) (order : Order) (db : Db) :
    (exists db', commitGoods orderId order db = .ok db') ↔
      (forall listing, db.listings.findUnique order.listingId = some listing ->
        listing.category.isPhysical = true ->
        0 < order.quantity ∧ listing.canCommit order.quantity = true) := by
  unfold commitGoods
  cases hl : db.listings.findUnique order.listingId with
  | none =>
      simp
  | some listing =>
      by_cases hphysical : listing.category.isPhysical = true
      · simp only [hphysical, if_true, Option.some.injEq]
        constructor
        · rintro ⟨db', h⟩ l rfl _
          rw [bind_eq_ok] at h
          obtain ⟨taken, htake, _⟩ := h
          obtain ⟨hpos, l', hl', hcan, _⟩ := commitListingQuantity_eq_ok_iff.mp htake
          obtain rfl : listing = l' := by simpa [hl] using hl'
          exact ⟨hpos, hcan⟩
        · intro h
          obtain ⟨hpos, hcan⟩ := h listing rfl hphysical
          have htake := commitListingQuantity_eq_ok_iff.mpr
            ⟨hpos, listing, hl, hcan, rfl⟩
          rw [htake]
          exact ⟨_, rfl⟩
      · simp [hphysical]

/-- A goods settlement that finds its order pending confirms it. -/
theorem settleGoods_pending {orderId : Id} {order : Order} (htype : r.row.type = .marketplace)
    (hid : r.row.orderId = some orderId) (horder : r.order = some order)
    (hpending : order.status = .pendingPayment) (h : settleGoods env args r db = .ok db') :
    exists committed listings offers payouts,
      GoodsTaken order db committed listings offers ∧
      GainedHold r.id db.payouts payouts ∧
      db' = { db with
        orders := db.orders.update orderId (·.confirm committed)
        listings := listings
        offers := offers
        payouts := payouts } := by
  unfold settleGoods at h
  simp only [htype, hid, horder, hpending, if_true] at h
  rw [bind_eq_ok] at h
  obtain ⟨committedDb, hcommit, h⟩ := h
  obtain ⟨committed, listings, offers, htaken, rfl⟩ := commitGoods_eq_ok hcommit
  rw [bind_eq_ok] at h
  obtain ⟨confirmedDb, htransition, h⟩ := h
  obtain ⟨_, _, rfl⟩ := transitionOrderStatus_eq_ok_iff.mp htransition
  obtain ⟨payouts, hgained, hhold⟩ := createPayoutHold_frame env (some orderId) .seller
    (some order.sellerId) r.id r.row
    { db with
      orders := (db.orders.update orderId fun o =>
        { o with goodsCommitted := committed || o.goodsCommitted }).update orderId
          ({ · with status := .confirmed })
      listings := listings
      offers := offers }
  refine ⟨committed, listings, offers, payouts, htaken, hgained, ?_⟩
  simp only [Except.ok.injEq] at h
  rw [← h, hhold, Table.update_update]
  rfl

/-! ## Records beside the payment -/

theorem holdServicePayout_frame (env : Env) (r : PaymentRecord) (db : Db) :
    exists payouts, GainedHold r.id db.payouts payouts ∧
      holdInspectionPayout env r (holdTransportPayout env r db) =
        { db with payouts := payouts } := by
  by_cases htype : r.row.type = .transport
  · have hnone : inspectionCommitment r = none := by
      simp [inspectionCommitment, htype]
    obtain ⟨payouts, hgained, hhold⟩ := holdTransportPayout_frame env r db
    refine ⟨payouts, hgained, ?_⟩
    rw [hhold]
    simp [holdInspectionPayout, hnone]
  · have hsame : holdTransportPayout env r db = db := by
      unfold holdTransportPayout
      cases r.transportJob with
      | none => rfl
      | some job => simp [htype]
    rw [hsame]
    exact holdInspectionPayout_frame env r db

theorem recordPaid_frame (env : Env) (r : PaymentRecord) (db : Db) :
    exists payouts purchases ads entries, GainedHold r.id db.payouts payouts ∧
      recordPaid env r db = { db with
        payouts := payouts
        digitalPurchases := purchases
        advertisements := ads
        ledgerEntries := entries } := by
  obtain ⟨payouts, hgained, hholds⟩ := holdServicePayout_frame env r db
  unfold recordPaid
  rw [hholds]
  obtain ⟨purchases, hpurchases⟩ := completePurchase_frame r
    { db with payouts := payouts }
  rw [hpurchases]
  obtain ⟨ads, hads⟩ := payAdvertisement_frame env r
    { db with payouts := payouts, digitalPurchases := purchases }
  rw [hads]
  obtain ⟨entries, hentries⟩ := writeLedgerPaid_frame r
    { db with
      payouts := payouts
      digitalPurchases := purchases
      advertisements := ads }
  exact ⟨payouts, purchases, ads, entries, hgained, hentries⟩

/-! ## Everything a received payment does -/

inductive PaidEffects (env : Env) (r : PaymentRecord) (db : Db) : Db -> Prop where
  /-- The order is under dispute: the money is recorded and reported. -/
  | underDispute (data : ReconciliationData)
      (hdispute : receivedUnderDispute r = true)
      (hissue : data.paymentId = r.id) :
      PaidEffects env r db (withIssue env data (writeLedgerPaid r db))
  /-- The goods payment confirms its pending order. -/
  | confirmed (orderId : Id) (order : Order) (committed : Bool)
      (listings : Table Listing) (offers : Table Offer) (payouts : Table Payout)
      (hdispute : receivedUnderDispute r = false)
      (htype : r.row.type = .marketplace) (hid : r.row.orderId = some orderId)
      (horder : r.order = some order)
      (hpending : order.status = .pendingPayment)
      (htaken : GoodsTaken order db committed listings offers)
      (hgained : GainedHold r.id db.payouts payouts) :
      PaidEffects env r db (recordPaid env r { db with
        orders := db.orders.update orderId (·.confirm committed)
        listings := listings
        offers := offers
        payouts := payouts })
  /-- The goods payment arrives for a cancelled order and is reported. -/
  | afterCancellation (order : Order) (data : ReconciliationData)
      (hdispute : receivedUnderDispute r = false)
      (htype : r.row.type = .marketplace)
      (horder : r.order = some order)
      (hcancelled : order.status = .cancelled)
      (hissue : data.paymentId = r.id) :
      PaidEffects env r db (recordPaid env r (withIssue env data db))
  /-- The payment commits a hired transport. -/
  | transportAccepted (jobId truckId quoteId : Id) (job : TransportJob)
      (quote : TransportQuote) (trucks : Table Truck)
      (hdispute : receivedUnderDispute r = false)
      (hcommitment : transportCommitment r = some (jobId, job, truckId, quoteId, quote))
      (hstatus : job.status ∈ [TransportStatus.requested, .quoted, .accepted]) :
      PaidEffects env r db (recordPaid env r
        (acceptTransport env jobId quoteId job { db with trucks := trucks }))
  /-- The payment commits an inspection. -/
  | inspectionAccepted (requestId inspectorId : Id) (request : InspectionRequest)
      (hdispute : receivedUnderDispute r = false)
      (hcommitment : inspectionCommitment r = some (requestId, request, inspectorId))
      (hstatus : request.status ∈ [InspectionStatus.requested, .accepted]) :
      PaidEffects env r db (recordPaid env r { db with
        inspectionRequests := db.inspectionRequests.update requestId
          ({ · with status := .accepted }) })
  /-- Nothing but records beside the payment is written. -/
  | recorded
      (hdispute : receivedUnderDispute r = false)
      (hgoods : r.row.type = .marketplace -> forall orderId order,
        r.row.orderId = some orderId -> r.order = some order ->
        order.status ≠ .pendingPayment ∧ order.status ≠ .cancelled)
      (htransport : transportCommitment r = none)
      (hinspection : inspectionCommitment r = none) :
      PaidEffects env r db (recordPaid env r db)

theorem transportCommitment_of_ne (h : r.row.type ≠ .transport) :
    transportCommitment r = none := by
  simp [transportCommitment, h]

theorem inspectionCommitment_of_ne (h : r.row.type ≠ .inspector) :
    inspectionCommitment r = none := by
  simp [inspectionCommitment, h]

theorem type_of_transportCommitment {c : Id × TransportJob × Id × Id × TransportQuote}
    (h : transportCommitment r = some c) :
    r.row.type = .transport := by
  by_contra htype
  simp [transportCommitment_of_ne htype] at h

theorem type_of_inspectionCommitment {c : Id × InspectionRequest × Id}
    (h : inspectionCommitment r = some c) :
    r.row.type = .inspector := by
  by_contra htype
  simp [inspectionCommitment_of_ne htype] at h

theorem settleGoods_of_ne (env : Env) (args : SettleArgs) (h : r.row.type ≠ .marketplace)
    (db : Db) :
    settleGoods env args r db = .ok db := by
  unfold settleGoods
  split
  · contradiction
  · rfl

theorem commitTransport_of_none (h : transportCommitment r = none) (db : Db) :
    commitTransport env r db = .ok db := by
  simp [commitTransport, h]

theorem commitInspection_of_none (h : inspectionCommitment r = none) (db : Db) :
    commitInspection r db = .ok db := by
  simp [commitInspection, h]

theorem claimTruck_eq_ok {jobId : Id} {jobStatus : TransportStatus}
    (h : claimTruck jobId truckId jobStatus db = .ok db') :
    exists trucks, db' = { db with trucks := trucks } := by
  unfold claimTruck at h
  cases ht : db.trucks.findUnique truckId with
  | none =>
      by_cases hs : jobStatus = .accepted <;> simp [ht, hs] at h
  | some truck =>
      cases ha : truck.availability with
      | available =>
          simp only [ht, ha, Except.ok.injEq] at h
          exact ⟨_, h.symm⟩
      | busy =>
          refine ⟨db.trucks, ?_⟩
          simp only [ht, ha] at h
          split at h
          · simp at h
          · split at h
            · simp at h
            · obtain rfl : db = db' := by simpa using h
              rfl
      | offline =>
          simp [ht, ha] at h

theorem commitTransport_eq_ok {jobId quoteId : Id} {job : TransportJob} {quote : TransportQuote}
    (hcommitment : transportCommitment r = some (jobId, job, truckId, quoteId, quote))
    (h : commitTransport env r db = .ok db') :
    job.status ∈ [TransportStatus.requested, .quoted, .accepted] ∧ exists trucks,
      db' = acceptTransport env jobId quoteId job { db with trucks := trucks } := by
  unfold commitTransport at h
  simp only [hcommitment] at h
  by_cases hstatus : job.status ∈ [TransportStatus.requested, .quoted, .accepted]
  · refine ⟨hstatus, ?_⟩
    simp only [hstatus, not_true_eq_false, if_false] at h
    split at h
    · rw [bind_eq_ok] at h
      obtain ⟨claimed, hclaim, h⟩ := h
      obtain ⟨trucks, rfl⟩ := claimTruck_eq_ok hclaim
      simp only [Except.ok.injEq] at h
      exact ⟨trucks, h.symm⟩
    · simp at h
  · simp [hstatus] at h

theorem settleGoods_effects (hdispute : receivedUnderDispute r = false)
    (htype : r.row.type = .marketplace) (h : settleGoods env args r db = .ok db') :
    PaidEffects env r db (recordPaid env r db') := by
  have hnotransport : transportCommitment r = none :=
    transportCommitment_of_ne (by simp [htype])
  have hnoinspection : inspectionCommitment r = none :=
    inspectionCommitment_of_ne (by simp [htype])
  cases hid : r.row.orderId with
  | none =>
      obtain rfl : db = db' := by simpa [settleGoods, htype, hid] using h
      exact .recorded hdispute (by simp [hid]) hnotransport hnoinspection
  | some orderId =>
      cases horder : r.order with
      | none =>
          obtain rfl : db = db' := by simpa [settleGoods, htype, hid, horder] using h
          exact .recorded hdispute (by simp [horder]) hnotransport hnoinspection
      | some order =>
          by_cases hpending : order.status = .pendingPayment
          · obtain ⟨committed, listings, offers, payouts, htaken, hgained, rfl⟩ :=
              settleGoods_pending htype hid horder hpending h
            exact .confirmed orderId order committed _ _ _ hdispute htype hid horder
              hpending htaken hgained
          · by_cases hcancelled : order.status = .cancelled
            · simp only [settleGoods, htype, hid, horder, hcancelled] at h
              obtain ⟨_, rfl⟩ := createReconciliationIssue_eq_ok_iff.mp h
              exact .afterCancellation order _ hdispute htype horder hcancelled rfl
            · obtain rfl : db = db' := by
                simpa [settleGoods, htype, hid, horder, hpending, hcancelled] using h
              refine .recorded hdispute ?_ hnotransport hnoinspection
              intro _ _ order' _ horder'
              obtain rfl : order = order' := by simpa [horder] using horder'
              exact ⟨hpending, hcancelled⟩

/-- The effects of a received payment, stage by stage. -/
theorem applyPaid_stages (hdispute : receivedUnderDispute r = false)
    (h : applyPaid env args r db = .ok db') :
    exists goods transport inspection,
      settleGoods env args r db = .ok goods ∧
      commitTransport env r goods = .ok transport ∧
      commitInspection r transport = .ok inspection ∧
      db' = recordPaid env r inspection := by
  unfold applyPaid at h
  simp only [hdispute, Bool.false_eq_true, if_false] at h
  rw [bind_eq_ok] at h
  obtain ⟨goods, hgoods, h⟩ := h
  rw [bind_eq_ok] at h
  obtain ⟨transport, htransport, h⟩ := h
  rw [bind_eq_ok] at h
  obtain ⟨inspection, hinspection, h⟩ := h
  simp only [Except.ok.injEq] at h
  exact ⟨goods, transport, inspection, hgoods, htransport, hinspection, h.symm⟩

theorem applyPaid_effects (h : applyPaid env args r db = .ok db') :
    PaidEffects env r db db' := by
  cases hdispute : receivedUnderDispute r with
  | true =>
      unfold applyPaid at h
      simp only [hdispute, if_true] at h
      obtain ⟨_, rfl⟩ := createReconciliationIssue_eq_ok_iff.mp h
      exact .underDispute _ hdispute rfl
  | false =>
      obtain ⟨goods, transport, inspection, hgoods, htransport, hinspection, rfl⟩ :=
        applyPaid_stages hdispute h
      by_cases hmarketplace : r.row.type = .marketplace
      · have hnotransport : transportCommitment r = none :=
          transportCommitment_of_ne (by simp [hmarketplace])
        have hnoinspection : inspectionCommitment r = none :=
          inspectionCommitment_of_ne (by simp [hmarketplace])
        obtain rfl : goods = transport := by
          simpa [commitTransport_of_none hnotransport] using htransport
        obtain rfl : goods = inspection := by
          simpa [commitInspection_of_none hnoinspection] using hinspection
        exact settleGoods_effects hdispute hmarketplace hgoods
      · obtain rfl : db = goods := by
          simpa [settleGoods_of_ne env args hmarketplace] using hgoods
        cases htc : transportCommitment r with
        | some c =>
            have hnoinspection : inspectionCommitment r = none :=
              inspectionCommitment_of_ne (by simp [type_of_transportCommitment htc])
            obtain rfl : transport = inspection := by
              simpa [commitInspection_of_none hnoinspection] using hinspection
            obtain ⟨jobId, job, truckId, quoteId, quote⟩ := c
            obtain ⟨hstatus, trucks, rfl⟩ := commitTransport_eq_ok htc htransport
            exact .transportAccepted _ truckId _ _ quote _ hdispute htc hstatus
        | none =>
            obtain rfl : db = transport := by
              simpa [commitTransport_of_none htc] using htransport
            cases hic : inspectionCommitment r with
            | some c =>
                obtain ⟨requestId, request, inspectorId⟩ := c
                unfold commitInspection at hinspection
                simp only [hic] at hinspection
                split at hinspection
                · rename_i hstatus
                  simp only [Except.ok.injEq] at hinspection
                  subst hinspection
                  exact .inspectionAccepted _ _ _ hdispute hic hstatus
                · simp at hinspection
            | none =>
                obtain rfl : db = inspection := by
                  simpa [commitInspection_of_none hic] using hinspection
                exact .recorded hdispute (fun htype => absurd htype hmarketplace) htc hic

/-! ## Committability -/

theorem settleGoods_isOk_iff (env : Env) (hcurrent : r.order = related db.orders r.row.orderId) :
    (exists db', settleGoods env args r db = .ok db') ↔
      goodsCommittable args r db = true := by
  by_cases htype : r.row.type = .marketplace
  · cases hid : r.row.orderId with
    | none =>
        simp [settleGoods, goodsCommittable, htype, hid]
    | some orderId =>
        cases horder : r.order with
        | none =>
            simp [settleGoods, goodsCommittable, htype, hid, horder]
        | some order =>
            have hfind : db.orders.findUnique orderId = some order := by
              simpa [hid, horder, eq_comm] using hcurrent
            by_cases hpending : order.status = .pendingPayment
            · have hgoods : goodsCommittable args r db = true ↔
                  (forall listing,
                    db.listings.findUnique order.listingId = some listing ->
                    listing.category.isPhysical = true ->
                    0 < order.quantity ∧ listing.canCommit order.quantity = true) := by
                simp only [goodsCommittable, htype, hid, horder, hpending, if_true]
                cases db.listings.findUnique order.listingId with
                | none =>
                    simp
                | some listing =>
                    cases hphysical : listing.category.isPhysical <;> simp [hphysical]
              rw [hgoods, ← commitGoods_isOk_iff orderId]
              simp only [settleGoods, htype, hid, horder, hpending, if_true]
              constructor
              · rintro ⟨db', h⟩
                rw [bind_eq_ok] at h
                obtain ⟨committed, hcommit, _⟩ := h
                exact ⟨committed, hcommit⟩
              · rintro ⟨committedDb, hcommit⟩
                obtain ⟨committed, listings, offers, _, rfl⟩ := commitGoods_eq_ok hcommit
                have hrow : exists o, (db.orders.update orderId fun o =>
                    { o with goodsCommitted := committed || o.goodsCommitted }).findUnique
                      orderId = some o ∧ o.status = .pendingPayment := by
                  simp [hfind, hpending]
                have hcan : canTransitionOrder .pendingPayment .confirmed = true := by
                  decide
                rw [hcommit, ok_bind, transitionOrderStatus_eq_ok_iff.mpr
                  ⟨hcan, hrow, rfl⟩]
                exact ⟨_, rfl⟩
            · by_cases hcancelled : order.status = .cancelled
              · simp [settleGoods, goodsCommittable, htype, hid, horder, hcancelled,
                  createReconciliationIssue_eq_ok_iff]
              · simp [settleGoods, goodsCommittable, htype, hid, horder, hpending,
                  hcancelled]
  · rw [settleGoods_of_ne env args htype]
    have hgoods : goodsCommittable args r db = true := by
      unfold goodsCommittable
      split
      · contradiction
      · rfl
    simp [hgoods]

theorem claimTruck_isOk_iff {jobId : Id} {jobStatus : TransportStatus} :
    (exists db', claimTruck jobId truckId jobStatus db = .ok db') ↔
      truckClaimable jobId truckId jobStatus db = true := by
  unfold claimTruck truckClaimable
  cases ht : db.trucks.findUnique truckId with
  | none =>
      by_cases hs : jobStatus = .accepted <;> simp [hs]
  | some truck =>
      cases ha : truck.availability with
      | available =>
          simp [ha]
      | busy =>
          by_cases hs : jobStatus = .accepted
          · cases truckInUseElsewhere db jobId truckId <;> simp [ha, hs]
          · simp [ha, hs]
      | offline =>
          simp [ha]

theorem commitTransport_isOk_iff :
    (exists db', commitTransport env r db = .ok db') ↔
      transportCommittable r db = true := by
  unfold commitTransport transportCommittable
  cases hc : transportCommitment r with
  | none =>
      simp
  | some c =>
      obtain ⟨jobId, job, truckId, quoteId, quote⟩ := c
      by_cases hstatus : job.status ∈ [TransportStatus.requested, .quoted, .accepted]
      · cases haligned : transportAligned r.row jobId job quote with
        | false =>
            simp [hstatus, haligned]
        | true =>
            simp only [hstatus, not_true_eq_false, if_false, haligned, if_true,
              Option.all_some, decide_true, Bool.true_and]
            rw [← claimTruck_isOk_iff]
            constructor
            · rintro ⟨db', h⟩
              rw [bind_eq_ok] at h
              obtain ⟨claimed, hclaim, _⟩ := h
              exact ⟨claimed, hclaim⟩
            · rintro ⟨claimed, hclaim⟩
              rw [hclaim]
              exact ⟨_, rfl⟩
      · simp only [hstatus, not_false_eq_true, if_true, Option.all_some, decide_false,
          Bool.false_and]
        simp

theorem commitInspection_isOk_iff (r : PaymentRecord) (db : Db) :
    (exists db', commitInspection r db = .ok db') ↔ inspectionCommittable r = true := by
  unfold commitInspection inspectionCommittable
  cases inspectionCommitment r with
  | none =>
      simp
  | some c =>
      obtain ⟨requestId, request, inspectorId⟩ := c
      by_cases hstatus : request.status ∈ [InspectionStatus.requested, .accepted]
      · simp only [hstatus, if_true, Option.all_some, decide_true, iff_true]
        exact ⟨_, rfl⟩
      · simp only [hstatus, if_false, Option.all_some, decide_false]
        simp

theorem applyPaid_isOk_iff (hcurrent : r.order = related db.orders r.row.orderId) :
    (exists db', applyPaid env args r db = .ok db') ↔
      paidCommittable args r db = true := by
  unfold paidCommittable
  cases hdispute : receivedUnderDispute r with
  | true =>
      simp [applyPaid, hdispute, createReconciliationIssue_eq_ok_iff, issueData]
  | false =>
      simp only [Bool.false_eq_true, if_false, Bool.and_eq_true]
      constructor
      · rintro ⟨db', h⟩
        obtain ⟨goods, transport, inspection, hgoods, htransport, hinspection, _⟩ :=
          applyPaid_stages hdispute h
        refine ⟨⟨(settleGoods_isOk_iff env hcurrent).mp ⟨goods, hgoods⟩, ?_⟩,
          (commitInspection_isOk_iff _ _).mp ⟨inspection, hinspection⟩⟩
        by_cases htype : r.row.type = .transport
        · have hsame := settleGoods_of_ne env args (r := r) (by simp [htype]) db
          obtain rfl : db = goods := by simpa [hsame] using hgoods
          exact commitTransport_isOk_iff.mp ⟨transport, htransport⟩
        · simp [transportCommittable, transportCommitment_of_ne htype]
      · rintro ⟨⟨hgoods, htransport⟩, hinspection⟩
        obtain ⟨goods, hgoods'⟩ := (settleGoods_isOk_iff env hcurrent).mpr hgoods
        have htransport' : exists transport, commitTransport env r goods = .ok transport := by
          by_cases htype : r.row.type = .transport
          · have hsame := settleGoods_of_ne env args (r := r) (by simp [htype]) db
            obtain rfl : db = goods := by simpa [hsame] using hgoods'
            exact commitTransport_isOk_iff.mpr htransport
          · exact ⟨goods, commitTransport_of_none (transportCommitment_of_ne htype) goods⟩
        obtain ⟨transport, htransport'⟩ := htransport'
        obtain ⟨inspection, hinspection'⟩ :=
          (commitInspection_isOk_iff r transport).mpr hinspection
        refine ⟨recordPaid env r inspection, ?_⟩
        unfold applyPaid
        simp only [hdispute, Bool.false_eq_true, if_false]
        rw [hgoods', ok_bind, htransport', ok_bind, hinspection']
        rfl

end MarketBridge
