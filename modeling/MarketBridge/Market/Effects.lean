import MarketBridge.Market.Step
import MarketBridge.Offer.Moves
import MarketBridge.Order.Progress
import MarketBridge.Refund.Frame

/-!
# What a step of the market does

`StepEffect` says everything that a step can do to orders, stock, disputes and
frozen payouts.  The invariants on these tables are derived from it by cases.
-/

namespace MarketBridge

open Relational

/-! ## Quiet steps -/

/-- A listing keeps its stock, and a new one has everything available. -/
structure ListingsKept (listings listings' : Table Listing) : Prop where
  kept : forall i l, listings.findUnique i = some l ->
    (listings'.findUnique i).map Listing.stock = some l.stock
  fresh : forall i l', listings.findUnique i = none -> listings'.findUnique i = some l' ->
    l'.availableQuantity = l'.quantity

theorem ListingsKept.of_sameStock {listings listings' : Table Listing}
    (h : SameStock listings listings') :
    ListingsKept listings listings' := by
  constructor
  · intro i l hl
    rw [h i, hl]
    rfl
  · intro i l' hl hl'
    have hnone := h i
    rw [hl, hl'] at hnone
    cases hnone

theorem listingsKept_create (listings : Table Listing) (l : Listing)
    (hl : l.availableQuantity = l.quantity) :
    ListingsKept listings (listings.create l) := by
  constructor
  · intro i k hk
    have hi : i ≠ listings.size := Nat.ne_of_lt (Table.lt_size_of_findUnique hk)
    rw [Table.findUnique_create, if_neg hi, hk]
    rfl
  · intro i k hnone hk
    rw [Table.findUnique_create] at hk
    split at hk
    · rwa [← Option.some.inj hk]
    · rw [hnone] at hk
      cases hk

def NoNewHold (payouts payouts' : Table Payout) : Prop :=
  forall i payout, payouts'.findUnique i = some payout -> payout.status = .onHoldDispute ->
    payouts.findUnique i = some payout

theorem NoNewHold.refl (payouts : Table Payout) : NoNewHold payouts payouts :=
  fun _ _ h _ => h

theorem NoNewHold.trans {t u v : Table Payout} (h : NoNewHold t u) (h' : NoNewHold u v) :
    NoNewHold t v :=
  fun i payout hi hs => h i payout (h' i payout hi hs) hs

theorem PayoutsGained.noNewHold {payouts payouts' : Table Payout}
    (h : PayoutsGained payouts payouts') :
    NoNewHold payouts payouts' := by
  intro i payout hi hs
  cases h i payout hi with
  | inl hheld =>
      rw [hheld] at hs
      cases hs
  | inr hbefore =>
      exact hbefore

theorem noNewHold_updateMany {payouts : Table Payout} {p : Id -> Payout -> Bool}
    {f : Payout -> Payout}
    (hf : forall i payout, p i payout = true -> (f payout).status ≠ .onHoldDispute ∨
      f payout = payout) :
    NoNewHold payouts (payouts.updateMany p f) := by
  intro i payout' hi hs
  rw [Table.findUnique_updateMany] at hi
  obtain ⟨payout, hpayout, rfl⟩ := Option.map_eq_some_iff.mp hi
  by_cases hp : p i payout = true
  · rw [if_pos hp] at hs ⊢
    cases hf i payout hp with
    | inl hnot =>
        exact absurd hs hnot
    | inr hsame =>
        rwa [hsame]
  · rw [if_neg hp]
    exact hpayout

structure Quiet (db db' : Db) : Prop where
  orders : db'.orders = db.orders
  listings : ListingsKept db.listings db'.listings
  payouts : NoNewHold db.payouts db'.payouts
  disputes : db'.disputes = db.disputes

theorem Quiet.refl (db : Db) : Quiet db db :=
  ⟨rfl, .of_sameStock (.refl _), .refl _, rfl⟩

/-- The offers and the statuses of listings are all that has changed. -/
structure OffersOnly (db db' : Db) : Prop where
  frame : exists offers listings, db' = { db with offers := offers, listings := listings }
  stock : SameStock db.listings db'.listings

variable {db db' : Db} {env : Env} {userId adminId orderId disputeId : Id} {order : Order}
  {dispute : Dispute} {resolutionType : ResolutionType} {resolution : String}

theorem OffersOnly.quiet (h : OffersOnly db db') : Quiet db db' := by
  have hstock := h.stock
  obtain ⟨offers, listings, rfl⟩ := h.frame
  exact ⟨rfl, .of_sameStock hstock, .refl _, rfl⟩

theorem OffersOnly.refl (db : Db) : OffersOnly db db :=
  ⟨⟨_, _, rfl⟩, .refl _⟩

theorem OffersOnly.trans {db'' : Db} (h : OffersOnly db db') (h' : OffersOnly db' db'') :
    OffersOnly db db'' := by
  refine ⟨?_, h.stock.trans h'.stock⟩
  obtain ⟨_, _, rfl⟩ := h.frame
  obtain ⟨_, _, rfl⟩ := h'.frame
  exact ⟨_, _, rfl⟩

theorem setOfferStatus_offersOnly (id : Id) (status : OfferStatus) (db : Db) :
    OffersOnly db (setOfferStatus id status db) :=
  ⟨⟨_, _, rfl⟩, .refl _⟩

theorem setListingStatus_offersOnly (listingId : Id) (status : ListingStatus) (db : Db) :
    OffersOnly db (setListingStatus listingId status db) :=
  ⟨⟨_, _, rfl⟩, sameStock_update fun _ => rfl⟩

theorem promoteNextWaitingBuyer_offersOnly (env : Env) (listingId : Id) (db : Db) :
    OffersOnly db (promoteNextWaitingBuyer env listingId db) := by
  obtain ⟨offers, listings, hstock, h⟩ := promoteNextWaitingBuyer_frame env listingId db
  rw [h]
  exact ⟨⟨_, _, rfl⟩, hstock⟩

theorem expirePickedOffer_offersOnly (env : Env) (db : Db) (pick : Id × Offer) :
    OffersOnly db (expirePickedOffer env db pick) := by
  unfold expirePickedOffer
  split
  · dsimp only
    split
    · exact (setOfferStatus_offersOnly _ _ db).trans (promoteNextWaitingBuyer_offersOnly env _ _)
    · exact setOfferStatus_offersOnly _ _ db
  · exact .refl db

theorem expireOffers_offersOnly (env : Env) (db : Db) :
    OffersOnly db (expireOffers env db) := by
  unfold expireOffers
  generalize (db.offers.findMany fun _ o => o.isOverdue env).take 500 = picks
  induction picks generalizing db with
  | nil =>
      exact .refl db
  | cons pick picks ih =>
      exact (expirePickedOffer_offersOnly env db pick).trans (ih _)

theorem closeLeafOffer_offersOnly (id : Id) (offer : Offer) (status : OfferStatus) (db : Db) :
    OffersOnly db (closeLeafOffer id offer status db) := by
  unfold closeLeafOffer
  dsimp only
  split
  · exact setOfferStatus_offersOnly id status db
  · exact (setOfferStatus_offersOnly id status db).trans (setListingStatus_offersOnly _ _ _)

theorem createOffer_offersOnly {listingId : Id} {amount quantity : Option JsNumber}
    (h : createOffer env userId listingId amount quantity db = .ok db') :
    OffersOnly db db' := by
  obtain ⟨_, _, _, _, -, -, -, -, -, rfl⟩ := createOffer_eq_ok h
  exact ⟨⟨_, _, rfl⟩, .refl _⟩

/-! ## Operations that write neither orders nor stock -/

theorem ListingCall.exec_quiet (db : Db) (call : ListingCall) : Quiet db (call.exec db) := by
  cases call with
  | create listing =>
      exact ⟨rfl, listingsKept_create _ _ rfl, .refl _, rfl⟩
  | setStatus listingId status =>
      exact (setListingStatus_offersOnly listingId status db).quiet

theorem CheckoutCall.exec_quiet (db : Db) (call : CheckoutCall) : Quiet db (call.exec db) := by
  cases call <;> exact ⟨rfl, .of_sameStock (.refl _), .refl _, rfl⟩

theorem RefundCall.exec_frame (env : Env) (db : Db) (call : RefundCall) :
    RefundFrame db (call.exec env db) := by
  cases call with
  | request paymentId amount reason requestedById =>
      unfold exec
      dsimp only
      split
      · rename_i hrequest
        exact RefundFrame.requestRefund hrequest
      · exact .refl db
  | process refundId answers => exact RefundFrame.processRefund env refundId answers db
  | verifyAndFinalize refundId answer =>
      exact RefundFrame.verifyAndFinalizeRefund env refundId answer db
  | finalize refundId providerStatus =>
      exact commit_preserves (P := RefundFrame db) (.refl db)
        fun _ hfinal => RefundFrame.finalizeRefund hfinal
  | fail refundId failureReason allowProcessing =>
      exact RefundFrame.failRefund env refundId failureReason allowProcessing db
  | retry refundId actorId note answers =>
      exact RefundFrame.retryRefund env refundId actorId note answers db

theorem RefundFrame.quiet (h : RefundFrame db db') : Quiet db db' := by
  obtain ⟨payments, refunds, obligations, events, rfl⟩ := h.others
  exact ⟨rfl, .of_sameStock (.refl _), .refl _, rfl⟩

theorem releaseWrite_cases {updatedAt : UpdatedAt} {now : Nat} {id : Id} {payout : Payout}
    {w : PayoutWrite} (h : releaseWrite env updatedAt db now id payout = some w) :
    (exists releaseAt, w = .defer id releaseAt) ∨
      exists reviewedAt, w = .claim id now reviewedAt := by
  unfold releaseWrite at h
  split at h
  · cases h
  · rename_i completionAt holdMs reviewRule _
    dsimp only at h
    generalize (if reviewRule = true then completionAt + holdMs
      else max payout.releaseAt (completionAt + holdMs)) = effectiveAt at h
    by_cases hdue : now < effectiveAt
    · rw [if_pos hdue] at h
      split at h
      · exact Or.inl ⟨_, (Option.some.inj h).symm⟩
      · cases h
    · rw [if_neg hdue] at h
      exact Or.inr ⟨_, (Option.some.inj h).symm⟩

/-- A release is conditional on `HELD`, and a deferred payout is still held. -/
theorem releaseWrite_noNewHold {updatedAt : UpdatedAt} {now : Nat} {id : Id} {payout : Payout}
    {w : PayoutWrite} (h : releaseWrite env updatedAt db now id payout = some w)
    (payouts : Table Payout) :
    NoNewHold payouts (w.apply env payouts) := by
  apply noNewHold_updateMany
  intro i payout' hguard
  left
  rcases releaseWrite_cases h with ⟨releaseAt, rfl⟩ | ⟨reviewedAt, rfl⟩
  · simp only [PayoutWrite.guard, Bool.and_eq_true, decide_eq_true_eq] at hguard
    simp [PayoutWrite.write, hguard.2]
  · simp [PayoutWrite.write]

theorem PayoutCall.exec_quiet (env : Env) (db : Db) (call : PayoutCall) :
    Quiet db (call.exec env db) := by
  cases call with
  | releaseDuePayouts updatedAt now =>
      refine ⟨rfl, .of_sameStock (.refl _), ?_, rfl⟩
      change NoNewHold db.payouts
        ((releaseDuePayoutsWrites env updatedAt now db).foldl
          (fun payouts w => w.apply env payouts) db.payouts)
      have hwrites : forall w, w ∈ releaseDuePayoutsWrites env updatedAt now db ->
          forall payouts, NoNewHold payouts (w.apply env payouts) := by
        intro w hw payouts
        obtain ⟨e, -, hwrite⟩ := List.mem_filterMap.1 hw
        exact releaseWrite_noNewHold hwrite payouts
      generalize releaseDuePayoutsWrites env updatedAt now db = ws at hwrites
      generalize db.payouts = payouts
      induction ws generalizing payouts with
      | nil =>
          exact .refl payouts
      | cons w ws ih =>
          exact (hwrites w List.mem_cons_self payouts).trans
            (ih (fun w' hw' => hwrites w' (List.mem_cons_of_mem w hw')) _)
  | releaseInspectorPayoutsForRequest now inspectionRequestId =>
      refine ⟨rfl, .of_sameStock (.refl _), ?_, rfl⟩
      exact noNewHold_updateMany fun _ _ _ => Or.inl (by simp)
  | markPaidOut payoutId actorId payoutReference =>
      refine commit_preserves (P := Quiet db) (.refl db) ?_
      intro db' hmark
      unfold MarketBridge.markPaidOut at hmark
      rw [bind_eq_ok] at hmark
      obtain ⟨w, hw, hrun⟩ := hmark
      obtain rfl := Except.ok.inj hrun
      refine ⟨rfl, .of_sameStock (.refl _), ?_, rfl⟩
      unfold markPaidOutWrite at hw
      split at hw
      · cases hw
      · split at hw
        · obtain rfl := Except.ok.inj hw
          exact noNewHold_updateMany fun _ _ _ => Or.inl (by simp [PayoutWrite.write])
        · cases hw

theorem resolveReconciliation_frame {reconciliationId actorId : Id}
    {status : PaymentReconciliationStatus} {note : Option String}
    (h : resolveReconciliation env reconciliationId status actorId note db = .ok db') :
    exists events, db' = { db with
      reconciliations := db'.reconciliations
      orderEvents := events } := by
  unfold resolveReconciliation at h
  split at h
  · cases h
  · split at h
    · obtain rfl := Except.ok.inj h
      exact ⟨_, rfl⟩
    · split at h
      · cases h
      · obtain rfl := Except.ok.inj h
        obtain ⟨events, hframe⟩ := recordOrderEvent_frame env _
          .paymentReconciliationResolved _
        rw [hframe]
        exact ⟨_, rfl⟩

/-! ## Effects -/

/-- The order of an accepted offer. -/
structure IsNewOrder (db : Db) (order : Order) : Prop where
  pending : order.status = .pendingPayment
  positive : 0 < order.quantity
  notCommitted : order.goodsCommitted = false
  notCancelled : order.cancelledWith = none
  listed : exists listing, db.listings.findUnique order.listingId = some listing ∧
    listing.category.isPhysical = true

/-- What a resolution that keeps the order does before the payments are replayed. -/
structure OrderRestored (env : Env) (dispute : Dispute) (db db' : Db) : Prop where
  orders : db'.orders = db.orders.update dispute.orderId
    ({ · with status := dispute.previousOrderStatus.getD .confirmed })
  listings : db'.listings = db.listings
  payouts : db'.payouts = db.payouts.updateMany
    (fun _ payout => selectsForResume dispute.orderId dispute.disputeType payout)
    (PayoutWrite.write env (.resume 0))
  disputes : db'.disputes = db.disputes
  offers : db'.offers = db.offers

def Dispute.resolve (resolution : String) (d : Dispute) : Dispute :=
  { d with
    status := .resolved
    resolution := some resolution }

/-- The order that a dispute is about is under dispute, and the dispute is open. -/
structure IsResolvable (db : Db) (disputeId : Id) (dispute : Dispute) : Prop where
  found : db.disputes.findUnique disputeId = some dispute
  isOpen : dispute.status.isOpen = true
  disputed : exists order, db.orders.findUnique dispute.orderId = some order ∧
    order.status = .disputed

/-- The checks that stand between a buyer and the confirmation of receipt. -/
def isReceivable (db : Db) (userId orderId : Id) (order : Order) : Bool :=
  order.buyerId = userId &&
    (transportJobOf db orderId).any fun job =>
      job.2.status = .delivered && hasPaid db orderId .marketplace &&
        (job.2.method ≠ .hireTransporter || hasPaid db orderId .transport)

inductive StepEffect (env : Env) (db : Db) : MarketStep -> Db -> Prop where
  | quiet (a : MarketStep) (db' : Db) (h : Quiet db db') : StepEffect env db a db'
  | ordered (caller : OfferCaller) (updatedAt : Nat) (offerId : Id) (action : OfferAction)
      (order : Order) (db' : Db) (horder : IsNewOrder db order)
      (horders : db'.orders = db.orders.create order)
      (hlistings : db'.listings = db.listings) (hpayouts : db'.payouts = db.payouts)
      (hdisputes : db'.disputes = db.disputes) :
      StepEffect env db (.respondToOffer caller updatedAt offerId action) db'
  | settled (args : SettleArgs) (db' : Db) (h : Progress db db') :
      StepEffect env db (.settlePayment args) db'
  | shipped (orderId : Id) (leg : ShippingLeg) (order : Order)
      (hfind : db.orders.findUnique orderId = some order) (hsource : order.status = leg.source) :
      StepEffect env db (.shipOrder orderId leg)
        { db with orders := db.orders.update orderId ({ · with status := leg.target }) }
  | received (userId orderId : Id) (order : Order) (db' : Db)
      (hfind : db.orders.findUnique orderId = some order)
      (hreceivable : isReceivable db userId orderId order = true)
      (hallowed : canTransitionOrder order.status .completed = true)
      (horders : db'.orders = db.orders.update orderId ({ · with status := .completed }))
      (hlistings : db'.listings = db.listings) (hpayouts : db'.payouts = db.payouts)
      (hdisputes : db'.disputes = db.disputes) :
      StepEffect env db (.confirmReceipt userId orderId) db'
  | cancelled (load : OrderLoad) (orderId : Id) (actorId : Option Id) (reason : Option String)
      (role : CancelledByRole) (record : OrderRecord) (db' : Db)
      (hload : loadOrder load db orderId = some record)
      (hcancellable : assertCancellable record role = .ok ()) (h : OrderCancelled record db db') :
      StepEffect env db (.cancelOrder load orderId actorId reason role) db'
  | raised (userId : Id) (request : DisputeRequest) (order : Order) (db' : Db)
      (hfind : db.orders.findUnique request.orderId = some order)
      (hdisputable : order.status ∈ disputableStatuses)
      (horders : db'.orders = db.orders.update request.orderId ({ · with status := .disputed }))
      (hlistings : db'.listings = db.listings)
      (hpayouts : db'.payouts = db.payouts.updateMany
        (fun _ payout => selectsForHold env db request.orderId request.disputeType payout)
        ({ · with status := .onHoldDispute }))
      (hdisputes : db'.disputes = db.disputes.create
        { orderId := request.orderId
          raisedById := userId
          againstId := request.againstId
          disputeType := request.disputeType
          previousOrderStatus := some order.status }) :
      StepEffect env db (.raiseDispute userId request) db'
  | resolvedByCancelling (adminId disputeId : Id) (resolution : String) (dispute : Dispute)
      (record : OrderRecord) (cancelled : Db) (hcolumns : env.hasResolutionColumns = true)
      (hresolvable : IsResolvable db disputeId dispute)
      (hload : includeOrder db dispute.orderId = some record)
      (h : OrderCancelled record db cancelled) :
      StepEffect env db (.resolveDispute adminId disputeId .cancelOrder resolution)
        { cancelled with
          disputes := cancelled.disputes.update disputeId (·.resolve resolution) }
  | resolvedByRestoring (adminId disputeId : Id) (resolutionType : ResolutionType)
      (resolution : String) (dispute : Dispute) (restored replayed : Db)
      (hkeeps : resolutionType ≠ .cancelOrder)
      (hresolvable : IsResolvable db disputeId dispute)
      (hrestored : OrderRestored env dispute db restored)
      (hreplayed : Progress restored replayed) :
      StepEffect env db (.resolveDispute adminId disputeId resolutionType resolution)
        { replayed with
          disputes := replayed.disputes.update disputeId (·.resolve resolution) }

theorem StepEffect.of_commit {a : MarketStep} {r : Except ApiError Db}
    (h : forall db', r = .ok db' -> StepEffect env db a db') :
    StepEffect env db a (commit r db) := by
  rcases commit_cases r db with hok | hrolled
  · exact h _ hok
  · rw [hrolled]
    exact .quiet a db (.refl db)

theorem respondToOffer_effect (env : Env) (caller : OfferCaller) (updatedAt : Nat) (id : Id)
    (action : OfferAction) (db : Db) :
    StepEffect env db (.respondToOffer caller updatedAt id action)
      (respondToOffer env caller updatedAt id action db).1 := by
  generalize hdb' : (respondToOffer env caller updatedAt id action db).1 = db'
  have hresponse := respondToOffer_response env caller updatedAt id action db
  rw [hdb'] at hresponse
  cases hresponse with
  | refused =>
      exact .quiet _ _ (.refl _)
  | expired =>
      exact .quiet _ _ (setOfferStatus_offersOnly _ _ _).quiet
  | moved o listing _ hoffer hlisting hleaf hmove =>
      cases hmove with
      | selected =>
          exact .quiet _ _ (setOfferStatus_offersOnly _ _ _).quiet
      | agreed =>
          exact .quiet _ _ (setOfferStatus_offersOnly _ _ _).quiet
      | countered =>
          exact .quiet _ _ ⟨rfl, .of_sameStock (.refl _), .refl _, rfl⟩
      | closed =>
          exact .quiet _ _ (closeLeafOffer_offersOnly _ _ _ _).quiet
      | confirmed quantity hstatus horderable =>
          obtain ⟨events, hframe⟩ := recordOrderEvent_frame env (some db.orders.size)
            .orderCreated
            { setOfferStatus id .accepted db with
              orders := db.orders.create
                (orderOfOffer env id o listing listing.sellerId o.confirmedPrice quantity) }
          unfold orderedDb
          rw [hframe]
          exact .ordered caller updatedAt id action _ _
            ⟨rfl, horderable.positive, rfl, rfl, listing, hlisting, horderable.physical⟩
            rfl rfl rfl rfl

theorem isReceivable_of_checks {jobId : Id} {job : TransportJob}
    (hjob : transportJobOf db orderId = some (jobId, job)) (hbuyer : order.buyerId = userId)
    (hdelivered : job.status = .delivered) (hgoods : hasPaid db orderId .marketplace = true)
    (htransport : ¬ (job.method = .hireTransporter ∧ hasPaid db orderId .transport = false)) :
    isReceivable db userId orderId order = true := by
  have hpaid : job.method = .hireTransporter -> hasPaid db orderId .transport = true := by
    intro hmethod
    by_contra hnot
    exact htransport ⟨hmethod, by simpa using hnot⟩
  simpa [isReceivable, hjob, hbuyer, hdelivered, hgoods, imp_iff_not_or] using hpaid

theorem confirmReceipt_received {env : Env} {userId orderId : Id} {order : Order} {db db' : Db}
    (hfind : db.orders.findUnique orderId = some order)
    (hreceivable : isReceivable db userId orderId order = true)
    (h : (do
      let db ← transitionOrderStatus orderId order.status .completed db
      .ok (recordOrderEvent env (some orderId) .receiptConfirmed db)) = .ok db') :
    StepEffect env db (.confirmReceipt userId orderId) db' := by
  rw [bind_eq_ok] at h
  obtain ⟨moved, hmove, h⟩ := h
  obtain ⟨hallowed, -, rfl⟩ := transitionOrderStatus_eq_ok_iff.1 hmove
  obtain rfl := Except.ok.inj h
  obtain ⟨events, hframe⟩ := recordOrderEvent_frame env (some orderId) .receiptConfirmed
    { db with orders := db.orders.update orderId ({ · with status := .completed }) }
  rw [hframe]
  exact .received userId orderId order _ hfind hreceivable hallowed rfl rfl rfl rfl

theorem confirmReceipt_effect (h : confirmReceipt env userId orderId db = .ok db') :
    StepEffect env db (.confirmReceipt userId orderId) db' := by
  unfold confirmReceipt at h
  split at h
  · cases h
  · rename_i order hfind
    simp only [guard_eq_ok] at h
    obtain ⟨hbuyer, -, h⟩ := h
    split at h
    · cases h
    · rename_i job hjob
      simp only [guard_eq_ok] at h
      obtain ⟨hdelivered, hgoods, htransport, h⟩ := h
      exact confirmReceipt_received hfind
        (isReceivable_of_checks hjob (not_not.1 hbuyer) (not_not.1 hdelivered)
          (by simpa using hgoods) htransport) h

theorem cancelLoadedOrder_eq_ok {load : OrderLoad} {actorId : Option Id} {reason : Option String}
    {role : CancelledByRole}
    (h : cancelLoadedOrder env load orderId actorId reason role db = .ok db') :
    exists record, loadOrder load db orderId = some record ∧
      assertCancellable record role = .ok () ∧ OrderCancelled record db db' := by
  unfold cancelLoadedOrder at h
  split at h
  · cases h
  · rename_i record hload
    have hcancelled := cancelOrderInTransaction_cancelled h
    unfold cancelOrderInTransaction at h
    rw [bind_eq_ok] at h
    obtain ⟨_, hcancellable, -⟩ := h
    exact ⟨record, hload, hcancellable, hcancelled⟩

theorem assertMayDispute_eq_ok {request : DisputeRequest}
    (h : assertMayDispute db userId request order = .ok ()) :
    order.status ∈ disputableStatuses := by
  unfold assertMayDispute at h
  dsimp only at h
  repeat' split at h
  all_goals cases h
  rename_i hdisputable
  exact not_not.1 hdisputable

theorem raiseDispute_effect {request : DisputeRequest}
    (h : raiseDispute env userId request db = .ok db') :
    StepEffect env db (.raiseDispute userId request) db' := by
  unfold raiseDispute at h
  split at h
  · cases h
  · rename_i order hfind
    simp only [bind_eq_ok] at h
    obtain ⟨_, hmay, moved, hmove, h⟩ := h
    obtain ⟨-, -, rfl⟩ := transitionOrderStatus_eq_ok_iff.1 hmove
    obtain rfl := Except.ok.inj h
    rw [holdForDispute_eq]
    exact .raised userId request order _ hfind (assertMayDispute_eq_ok hmay) rfl rfl rfl rfl

theorem refundServicePayments_frame {requestId : Id}
    (h : cancelInspectionService requestId db = .ok db') :
    exists requests quotes, db' = { db with
      inspectionRequests := requests
      inspectionQuotes := quotes } := by
  unfold cancelInspectionService at h
  rw [bind_eq_ok] at h
  obtain ⟨_, -, h⟩ := h
  obtain rfl := Except.ok.inj h
  exact ⟨_, _, rfl⟩

theorem cancelService_frame (h : cancelService dispute db = .ok db') :
    exists requests inspectionQuotes jobs transportQuotes, db' = { db with
      inspectionRequests := requests
      inspectionQuotes := inspectionQuotes
      transportJobs := jobs
      transportQuotes := transportQuotes } := by
  unfold cancelService at h
  split at h
  · unfold cancelInspectionServices at h
    refine foldlM_preserves (P := fun s => exists requests inspectionQuotes jobs transportQuotes,
      s = { db with
        inspectionRequests := requests
        inspectionQuotes := inspectionQuotes
        transportJobs := jobs
        transportQuotes := transportQuotes }) ?_ ⟨_, _, _, _, rfl⟩ h
    rintro _ _ s' ⟨_, _, _, _, rfl⟩ hcancel
    obtain ⟨_, _, rfl⟩ := refundServicePayments_frame hcancel
    exact ⟨_, _, _, _, rfl⟩
  · unfold cancelTransportService at h
    split at h
    · obtain rfl := Except.ok.inj h
      exact ⟨_, _, _, _, rfl⟩
    · split at h
      · obtain rfl := Except.ok.inj h
        exact ⟨_, _, _, _, rfl⟩
      · rw [bind_eq_ok] at h
        obtain ⟨_, -, h⟩ := h
        obtain rfl := Except.ok.inj h
        exact ⟨_, _, _, _, rfl⟩
  · obtain rfl := Except.ok.inj h
    exact ⟨_, _, _, _, rfl⟩

theorem restoreOrder_eq_ok (h : restoreOrder env dispute db = .ok db') :
    exists restored, OrderRestored env dispute db restored ∧ Progress restored db' := by
  unfold restoreOrder at h
  rw [bind_eq_ok] at h
  obtain ⟨restored, hmove, hreplay⟩ := h
  obtain ⟨-, -, rfl⟩ := transitionOrderStatus_eq_ok_iff.1 hmove
  refine ⟨_, ⟨?_, ?_, ?_, ?_, ?_⟩, replayPaidPayments_progress hreplay⟩
  all_goals
    rw [resumeAfterDispute_eq]

theorem applyResolution_restored (hkeeps : resolutionType ≠ .cancelOrder)
    (h : applyResolution env adminId dispute resolutionType db = .ok db') :
    exists restored, OrderRestored env dispute db restored ∧ Progress restored db' := by
  cases resolutionType with
  | cancelOrder =>
      exact absurd rfl hkeeps
  | dismissed =>
      exact restoreOrder_eq_ok h
  | cancelService =>
      unfold applyResolution at h
      dsimp only at h
      split at h
      · cases h
      · rw [bind_eq_ok] at h
        obtain ⟨served, hservice, h⟩ := h
        obtain ⟨_, _, _, _, rfl⟩ := cancelService_frame hservice
        obtain ⟨restored, hrestored, hreplayed⟩ := restoreOrder_eq_ok h
        exact ⟨restored, ⟨hrestored.orders, hrestored.listings, hrestored.payouts,
          hrestored.disputes, hrestored.offers⟩, hreplayed⟩

theorem closeDispute_eq_ok (h : closeDispute env disputeId resolution db = .ok db') :
    env.hasResolutionColumns = true ∧
      db' = { db with disputes := db.disputes.update disputeId (·.resolve resolution) } := by
  unfold closeDispute at h
  split at h
  · rename_i hcolumns
    exact ⟨hcolumns, (Except.ok.inj h).symm⟩
  · cases h

/-- A resolution is applied to a dispute that can be resolved, and then recorded on it. -/
theorem resolveDispute_eq_ok
    (h : resolveDispute env adminId disputeId resolutionType resolution db = .ok db') :
    exists dispute applied, IsResolvable db disputeId dispute ∧
      applyResolution env adminId dispute resolutionType db = .ok applied ∧
      env.hasResolutionColumns = true ∧
      db' = { applied with
        disputes := applied.disputes.update disputeId (·.resolve resolution) } := by
  unfold resolveDispute at h
  split at h
  · cases h
  · next dispute hfound =>
      rw [guard_eq_ok] at h
      obtain ⟨hopen, h⟩ := h
      split at h
      · cases h
      · next order horder =>
          rw [guard_eq_ok, bind_eq_ok] at h
          obtain ⟨hdisputed, applied, happly, hclose⟩ := h
          exact ⟨dispute, applied, ⟨hfound, by simpa using hopen, order, horder,
            not_not.1 hdisputed⟩, happly, closeDispute_eq_ok hclose⟩

theorem resolveDispute_effect
    (h : resolveDispute env adminId disputeId resolutionType resolution db = .ok db') :
    StepEffect env db (.resolveDispute adminId disputeId resolutionType resolution) db' := by
  obtain ⟨dispute, applied, hresolvable, happly, hcolumns, rfl⟩ := resolveDispute_eq_ok h
  by_cases hcancel : resolutionType = .cancelOrder
  · subst hcancel
    obtain ⟨record, hload, -, hcancelled⟩ := cancelLoadedOrder_eq_ok happly
    exact .resolvedByCancelling adminId disputeId resolution dispute record applied
      hcolumns hresolvable hload hcancelled
  · obtain ⟨restored, hrestored, hreplayed⟩ := applyResolution_restored hcancel happly
    exact .resolvedByRestoring adminId disputeId resolutionType resolution dispute
      restored applied hcancel hresolvable hrestored hreplayed

theorem MarketStep.effect (env : Env) (db : Db) (a : MarketStep) :
    StepEffect env db a (step db (env, a)) := by
  cases a with
  | listing call =>
      exact .quiet _ _ (call.exec_quiet db)
  | createOffer userId listingId amount quantity =>
      exact .of_commit fun _ h => .quiet _ _ (createOffer_offersOnly h).quiet
  | respondToOffer caller updatedAt offerId action =>
      exact respondToOffer_effect env caller updatedAt offerId action db
  | expireOffers =>
      exact .quiet _ _ (expireOffers_offersOnly env db).quiet
  | checkout call =>
      exact .quiet _ _ (call.exec_quiet db)
  | settlePayment args =>
      exact .of_commit fun _ h => .settled args _ (settlePayment_progress h)
  | refund call =>
      exact .quiet _ _ (call.exec_frame env db).quiet
  | resolveReconciliation reconciliationId status actorId note =>
      refine .of_commit fun db' h => .quiet _ _ ?_
      obtain ⟨events, hframe⟩ := resolveReconciliation_frame h
      rw [hframe]
      exact ⟨rfl, .of_sameStock (.refl _), .refl _, rfl⟩
  | shipOrder orderId leg =>
      refine .of_commit fun db' h => ?_
      obtain ⟨-, ⟨order, hfind, hsource⟩, rfl⟩ := transitionOrderStatus_eq_ok_iff.1 h
      exact .shipped orderId leg order hfind hsource
  | confirmReceipt userId orderId =>
      exact .of_commit fun _ h => confirmReceipt_effect h
  | cancelOrder load orderId actorId reason role =>
      refine .of_commit fun db' h => ?_
      obtain ⟨record, hload, hcancellable, hcancelled⟩ := cancelLoadedOrder_eq_ok h
      exact .cancelled load orderId actorId reason role record db' hload hcancellable hcancelled
  | raiseDispute userId request =>
      exact .of_commit fun _ h => raiseDispute_effect h
  | resolveDispute adminId disputeId resolutionType resolution =>
      exact .of_commit fun _ h => resolveDispute_effect h
  | payout call =>
      exact .quiet _ _ (call.exec_quiet env db)
  | elsewhere other =>
      exact .quiet _ _ ⟨rfl, .of_sameStock (.refl _), .refl _, rfl⟩

end MarketBridge
