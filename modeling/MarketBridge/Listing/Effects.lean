import MarketBridge.Listing.Moves

/-!
# What a step does to listings, offers and orders

`StallEffect` says everything that a step can do to the three tables that decide
what a listing still offers.  The invariants of listings are derived from it by
cases.
-/

namespace MarketBridge

open Relational

variable {env : Env} {db db' : Db}

/-! ## Answers to an offer -/

def OfferAction.closes : OfferAction -> Bool
  | .reject => true
  | .withdraw => true
  | .release => true
  | .releaseProvisional _ _ _ => true
  | _ => false

theorem orderedDb_frame (env : Env) (id : Id) (o : Offer) (listing : Listing)
    (unitPrice quantity : ℚ) (db : Db) :
    exists events, orderedDb env id o listing unitPrice quantity db =
      { setOfferStatus id .accepted db with
        orders := db.orders.create
          (orderOfOffer env id o listing listing.sellerId unitPrice quantity)
        orderEvents := events } := by
  obtain ⟨events, hframe⟩ := recordOrderEvent_frame env (some db.orders.size) .orderCreated
    { setOfferStatus id .accepted db with
      orders := db.orders.create
        (orderOfOffer env id o listing listing.sellerId unitPrice quantity) }
  exact ⟨events, hframe⟩

theorem placeCounter_listings {ctx : OfferContext} {amount : ℚ}
    {counteredBy other : OfferCounterParty} {verb expired turn : String}
    (h : placeCounter env ctx amount counteredBy other verb expired turn db = .ok db') :
    db'.listings = db.listings := by
  unfold placeCounter at h
  simp only [bind_eq_ok] at h
  obtain ⟨⟨_, _⟩, -, _, -, _, -, _, -, _, -, _, -, h⟩ := h
  obtain rfl := Except.ok.inj h
  rfl

theorem handleAction_listings {ctx : OfferContext} {action : OfferAction}
    (hcloses : action.closes = false) (h : handleAction env ctx action db = .ok db') :
    db'.listings = db.listings := by
  cases action with
  | accept =>
      simp only [handleAction, acceptOffer, bind_eq_ok] at h
      obtain ⟨_, -, _, -, _, -, ⟨_, _⟩, -, _, -, _, -, _, -, _, -, h⟩ := h
      obtain ⟨-, rfl⟩ := moveOfferToProvisional_eq_ok h
      rfl
  | acceptCounter =>
      simp only [handleAction, acceptCounter, bind_eq_ok] at h
      obtain ⟨_, -, _, -, _, -, _, -, ⟨_, _⟩, -, _, -, _, -, _, -, _, -, h⟩ := h
      obtain ⟨-, rfl⟩ := moveOfferToProvisional_eq_ok h
      rfl
  | acceptSelected =>
      simp only [handleAction, acceptSelected, bind_eq_ok] at h
      obtain ⟨_, -, _, -, ⟨_, _⟩, -, _, -, _, -, h⟩ := h
      obtain ⟨-, rfl⟩ := moveOfferToProvisional_eq_ok h
      rfl
  | counter counterAmount =>
      simp only [handleAction, counterOffer, bind_eq_ok] at h
      obtain ⟨_, -, _, -, _, -, _, -, h⟩ := h
      exact placeCounter_listings h
  | reCounter counterAmount =>
      simp only [handleAction, reCounter, bind_eq_ok] at h
      obtain ⟨_, -, _, -, _, -, _, -, h⟩ := h
      exact placeCounter_listings h
  | select =>
      simp only [handleAction, selectOffer, bind_eq_ok] at h
      obtain ⟨_, -, _, -, ⟨_, _⟩, -, h⟩ := h
      replace h := (guard_eq_ok.mp h).2
      simp only [bind_eq_ok] at h
      obtain ⟨_, -, _, -, _, -, h⟩ := h
      simp only [guard_eq_ok] at h
      obtain ⟨-, -, h⟩ := h
      obtain ⟨-, rfl⟩ := claimOffer_eq_ok h
      rfl
  | confirmProvisional =>
      simp only [handleAction, confirmProvisional, bind_eq_ok] at h
      obtain ⟨_, -, _, -, ⟨_, _⟩, -, _, -, _, -, h⟩ := h
      obtain ⟨_, _, -, -, -, -, rfl⟩ := acceptOfferAndCreateOrder_eq_ok h
      obtain ⟨events, hframe⟩ := orderedDb_frame env ctx.id _ _ _ _ db
      rw [hframe]
      rfl
  | reject => cases hcloses
  | withdraw => cases hcloses
  | release => cases hcloses
  | releaseProvisional reason note withinLimit => cases hcloses

/-- What an answer to an offer does, with the expiry of the row it is about. -/
inductive OfferAnswer (env : Env) (caller : OfferCaller) (id : Id) (action : OfferAction)
    (db : Db) : Db -> Prop where
  | refused : OfferAnswer env caller id action db db
  | expired (o : Offer) (hoffer : db.offers.findUnique id = some o)
      (hexpired : o.mayExpire env = true) :
      OfferAnswer env caller id action db (setOfferStatus id .expired db)
  | moved (o : Offer) (listing : Listing) (db' : Db)
      (hoffer : db.offers.findUnique id = some o)
      (hfresh : o.isExpired env = false)
      (hlisting : db.listings.findUnique o.listingId = some listing)
      (hleaf : isLeafOffer db id = true)
      (hmove : OfferMove env caller id o listing db db')
      (hquiet : action.closes = false -> db'.listings = db.listings) :
      OfferAnswer env caller id action db db'

theorem respondToOffer_answer (env : Env) (caller : OfferCaller) (updatedAt : Nat) (id : Id)
    (action : OfferAction) (db : Db) :
    OfferAnswer env caller id action db (respondToOffer env caller updatedAt id action db).1 := by
  unfold respondToOffer
  split
  · exact .refused
  · rename_i offer hoffer
    split
    · exact .refused
    · rename_i listing hlisting
      dsimp only
      split
      · exact .refused
      · split
        · unfold expireOfferIfNeeded
          split
          · rename_i hexpired
            exact .expired offer hoffer hexpired
          · exact .refused
        · rename_i hfresh
          split
          · rename_i db' hhandled
            obtain ⟨hleaf, hmove⟩ := @handleAction_move _ _ caller listing _ _
              ⟨hoffer, hlisting, of_decide_eq_true, of_decide_eq_true, fun h => h⟩ _ hhandled
            exact .moved offer listing _ hoffer (by simpa using hfresh) hlisting hleaf hmove
              fun hcloses => handleAction_listings hcloses hhandled
          · exact .refused

/-! ## Effects -/

/-- The three tables are what they were. -/
structure StallKept (db db' : Db) : Prop where
  orders : db'.orders = db.orders
  listings : db'.listings = db.listings
  offers : db'.offers = db.offers

theorem StallKept.refl (db : Db) : StallKept db db :=
  ⟨rfl, rfl, rfl⟩

/-- Everything that the cancellation of a loaded order does to the three tables. -/
structure StallCancelled (env : Env) (order : OrderRecord) (db db' : Db) : Prop where
  cancelled : OrderCancelled order db db'
  offers : db'.offers = (releaseWinner env order { db with
    listings := db.listings.update order.listingId (order.returned db) }).offers
  listings : db'.listings = (releaseWinner env order { db with
    listings := db.listings.update order.listingId (order.returned db) }).listings

inductive StallEffect (env : Env) (db : Db) : ListingStep -> Db -> Prop where
  | kept (a : ListingStep) (db' : Db) (h : StallKept db db') : StallEffect env db a db'
  | created (listing : Listing) (draft : Bool) :
      StallEffect env db (.createListing listing draft)
        { db with
          listings := db.listings.create
            { listing with
              availableQuantity := listing.quantity
              status := if draft then .draft else .active } }
  | closed (caller : OfferCaller) (listingId : Id) :
      StallEffect env db (.cancelListing caller listingId)
        (setListingStatus listingId .cancelled db)
  | windowsEnded : StallEffect env db .expireListings (expireListings env db)
  | recovered (adminId requestId : Id) (request : RecoveryRequest) (order : Order) (db' : Db)
      (hrequest : db.recoveryRequests.findUnique requestId = some request)
      (htype : request.type = .offer)
      (horder : db.orders.findUnique request.orderId = some order)
      (horders : db'.orders = db.orders)
      (hlistings : db'.listings = db.listings.update order.listingId
        ({ · with status := .active }))
      (hoffers : db'.offers = db.offers.updateMany
        (fun _ o => o.listingId = order.listingId && o.status.isActive)
        ({ · with status := .expired })) :
      StallEffect env db (.approveRecovery adminId requestId) db'
  | bid (userId listingId : Id) (amount quantity : Option JsNumber)
      (unedited : (MarketStep.createOffer userId listingId amount quantity).isEdit = false)
      (listing : Listing) (price requested : ℚ) (expiresAt : Option Nat) :
      StallEffect env db (.market (.createOffer userId listingId amount quantity) unedited)
        { db with
          offers := db.offers.create
            (bidRow userId listingId listing price requested expiresAt env.now) }
  | answered (caller : OfferCaller) (updatedAt : Nat) (offerId : Id) (action : OfferAction)
      (unedited : (MarketStep.respondToOffer caller updatedAt offerId action).isEdit = false)
      (db' : Db) (h : OfferAnswer env caller offerId action db db') :
      StallEffect env db (.market (.respondToOffer caller updatedAt offerId action) unedited) db'
  | offersExpired (unedited : MarketStep.expireOffers.isEdit = false) :
      StallEffect env db (.market .expireOffers unedited) (expireOffers env db)
  | settled (args : SettleArgs) (unedited : (MarketStep.settlePayment args).isEdit = false)
      (db' : Db) (h : settlePayment env args db = .ok db') :
      StallEffect env db (.market (.settlePayment args) unedited) db'
  | shipped (orderId : Id) (leg : ShippingLeg)
      (unedited : (MarketStep.shipOrder orderId leg).isEdit = false) (order : Order)
      (hfind : db.orders.findUnique orderId = some order) (hsource : order.status = leg.source) :
      StallEffect env db (.market (.shipOrder orderId leg) unedited)
        { db with orders := db.orders.update orderId ({ · with status := leg.target }) }
  | received (userId orderId : Id)
      (unedited : (MarketStep.confirmReceipt userId orderId).isEdit = false) (order : Order)
      (db' : Db) (hfind : db.orders.findUnique orderId = some order)
      (horders : db'.orders = db.orders.update orderId ({ · with status := .completed }))
      (hlistings : db'.listings = db.listings) (hoffers : db'.offers = db.offers) :
      StallEffect env db (.market (.confirmReceipt userId orderId) unedited) db'
  | raised (userId : Id) (request : DisputeRequest)
      (unedited : (MarketStep.raiseDispute userId request).isEdit = false) (order : Order)
      (db' : Db) (hfind : db.orders.findUnique request.orderId = some order)
      (hdisputable : order.status ∈ disputableStatuses)
      (horders : db'.orders = db.orders.update request.orderId ({ · with status := .disputed }))
      (hlistings : db'.listings = db.listings) (hoffers : db'.offers = db.offers) :
      StallEffect env db (.market (.raiseDispute userId request) unedited) db'
  | cancelled (load : OrderLoad) (orderId : Id) (actorId : Option Id) (reason : Option String)
      (role : CancelledByRole)
      (unedited : (MarketStep.cancelOrder load orderId actorId reason role).isEdit = false)
      (record : OrderRecord) (db' : Db) (hload : loadOrder load db orderId = some record)
      (h : StallCancelled env record db db') :
      StallEffect env db (.market (.cancelOrder load orderId actorId reason role) unedited) db'
  | resolvedByCancelling (adminId disputeId : Id) (resolution : String)
      (unedited : (MarketStep.resolveDispute adminId disputeId .cancelOrder
        resolution).isEdit = false)
      (dispute : Dispute) (record : OrderRecord) (cancelled : Db)
      (hdispute : db.disputes.findUnique disputeId = some dispute)
      (hload : loadOrder .included db dispute.orderId = some record)
      (h : StallCancelled env record db cancelled) :
      StallEffect env db
        (.market (.resolveDispute adminId disputeId .cancelOrder resolution) unedited)
        { cancelled with
          disputes := cancelled.disputes.update disputeId (·.resolve resolution) }
  | resolvedByRestoring (adminId disputeId : Id) (resolutionType : ResolutionType)
      (resolution : String)
      (unedited : (MarketStep.resolveDispute adminId disputeId resolutionType
        resolution).isEdit = false)
      (dispute : Dispute) (restored db' : Db)
      (hkeeps : resolutionType ≠ .cancelOrder)
      (hresolvable : IsResolvable db disputeId dispute)
      (horders : restored.orders = db.orders.update dispute.orderId
        ({ · with status := dispute.previousOrderStatus.getD .confirmed }))
      (hlistings : restored.listings = db.listings) (hoffers : restored.offers = db.offers)
      (hreplayed : StallMoves restored db') :
      StallEffect env db
        (.market (.resolveDispute adminId disputeId resolutionType resolution) unedited)
        { db' with disputes := db'.disputes.update disputeId (·.resolve resolution) }

/-! ## Inversions -/

theorem StallEffect.of_commit {a : ListingStep} {r : Except ApiError Db}
    (h : forall db', r = .ok db' -> StallEffect env db a db') :
    StallEffect env db a (commit r db) := by
  rcases commit_cases r db with hok | hrolled
  · exact h _ hok
  · rw [hrolled]
    exact .kept a db (.refl db)

theorem updateListingStatus_eq_ok {caller : OfferCaller} {listingId : Id}
    {status : ListingStatus} (h : updateListingStatus env caller listingId status db = .ok db') :
    db' = setListingStatus listingId status db := by
  unfold updateListingStatus at h
  split at h
  · cases h
  · simp only [guard_eq_ok] at h
    obtain ⟨-, -, h⟩ := h
    rw [bind_eq_ok] at h
    obtain ⟨_, -, h⟩ := h
    split at h
    · cases h
    · split at h
      · cases h
      · exact (Except.ok.inj h).symm

theorem PayoutCall.exec_stallKept (env : Env) (db : Db) (call : PayoutCall) :
    StallKept db (call.exec env db) := by
  cases call with
  | releaseDuePayouts updatedAt now =>
      exact ⟨rfl, rfl, rfl⟩
  | releaseInspectorPayoutsForRequest now inspectionRequestId =>
      exact ⟨rfl, rfl, rfl⟩
  | markPaidOut payoutId actorId payoutReference =>
      refine commit_preserves (P := StallKept db) (.refl db) ?_
      intro db' hmark
      unfold MarketBridge.markPaidOut at hmark
      rw [bind_eq_ok] at hmark
      obtain ⟨_, -, hrun⟩ := hmark
      obtain rfl := Except.ok.inj hrun
      exact ⟨rfl, rfl, rfl⟩

variable {adminId orderId : Id}

theorem recoverTransport_stallKept (h : recoverTransport orderId db = .ok db') :
    StallKept db db' := by
  unfold recoverTransport at h
  split at h
  · obtain rfl := Except.ok.inj h
    exact .refl db
  · split at h
    · cases h
    · obtain rfl := Except.ok.inj h
      exact ⟨rfl, rfl, rfl⟩

theorem recoverInspection_stallKept (h : recoverInspection orderId db = .ok db') :
    StallKept db db' := by
  unfold recoverInspection at h
  split at h
  · obtain rfl := Except.ok.inj h
    exact .refl db
  · split at h
    · cases h
    · split at h
      · obtain rfl := Except.ok.inj h
        exact ⟨rfl, rfl, rfl⟩
      · split at h <;> obtain rfl := Except.ok.inj h
        · exact ⟨rfl, rfl, rfl⟩
        · exact .refl db

theorem recoverOther_cases {request : RecoveryRequest} (h : recoverOther request db = .ok db') :
    StallKept db db' ∨ request.type = .offer ∧
      exists order, db.orders.findUnique request.orderId = some order ∧
        db' = setListingStatus order.listingId .active { db with
          offers := db.offers.updateMany
            (fun _ o => o.listingId = order.listingId && o.status.isActive)
            ({ · with status := .expired }) } := by
  unfold recoverOther at h
  cases htype : request.type with
  | offer =>
      simp only [htype] at h
      unfold recoverBidding at h
      split at h
      · obtain rfl := Except.ok.inj h
        exact Or.inl (.refl _)
      · rename_i order horder
        split at h
        · cases h
        · exact Or.inr ⟨rfl, order, horder, (Except.ok.inj h).symm⟩
  | inspection =>
      simp only [htype] at h
      exact Or.inl (recoverInspection_stallKept h)
  | transport =>
      simp only [htype] at h
      exact Or.inl (recoverInspection_stallKept h)

theorem approveRecovery_stallEffect {requestId : Id}
    (h : approveRecovery env adminId requestId recoverOther db = .ok db') :
    StallEffect env db (.approveRecovery adminId requestId) db' := by
  unfold approveRecovery at h
  split at h
  · cases h
  · rename_i request hrequest
    simp only [guard_eq_ok] at h
    obtain ⟨-, -, h⟩ := h
    have hrecovered : exists recovered : Db,
        (StallKept db recovered ∨ request.type = .offer ∧
          exists order, db.orders.findUnique request.orderId = some order ∧
            recovered = setListingStatus order.listingId .active { db with
              offers := db.offers.updateMany
                (fun _ o => o.listingId = order.listingId && o.status.isActive)
                ({ · with status := .expired }) }) ∧
        db' = recordOrderEvent env (some request.orderId) .workflowRecoveryApproved
          { recovered with
            recoveryRequests := recovered.recoveryRequests.update requestId ({ · with
              status := .approved
              approvedById := some adminId
              formReleasedAt := some env.now }) } := by
      split at h
      · obtain ⟨recovered, hrecover, hwrite⟩ := bind_eq_ok.1 h
        exact ⟨recovered, Or.inl (recoverTransport_stallKept hrecover),
          (Except.ok.inj hwrite).symm⟩
      · obtain ⟨recovered, hrecover, hwrite⟩ := bind_eq_ok.1 h
        exact ⟨recovered, recoverOther_cases hrecover, (Except.ok.inj hwrite).symm⟩
    obtain ⟨recovered, hcases, rfl⟩ := hrecovered
    obtain ⟨events, hframe⟩ := recordOrderEvent_frame env (some request.orderId)
      .workflowRecoveryApproved { recovered with
        recoveryRequests := recovered.recoveryRequests.update requestId ({ · with
          status := .approved
          approvedById := some adminId
          formReleasedAt := some env.now }) }
    rw [hframe]
    rcases hcases with hkept | ⟨htype, order, horder, rfl⟩
    · exact .kept _ _ ⟨hkept.orders, hkept.listings, hkept.offers⟩
    · exact .recovered adminId requestId request order _ hrequest htype horder rfl rfl rfl

theorem cancelLoadedOrder_stall {load : OrderLoad} {actorId : Option Id} {reason : Option String}
    {role : CancelledByRole}
    (h : cancelLoadedOrder env load orderId actorId reason role db = .ok db') :
    exists record, loadOrder load db orderId = some record ∧
      StallCancelled env record db db' := by
  unfold cancelLoadedOrder at h
  split at h
  · cases h
  · rename_i record hload
    obtain ⟨hoffers, hlistings⟩ := cancelOrderInTransaction_stall h
    exact ⟨record, hload, cancelOrderInTransaction_cancelled h, hoffers, hlistings⟩

theorem confirmReceipt_stall {userId : Id} (h : confirmReceipt env userId orderId db = .ok db') :
    exists order, db.orders.findUnique orderId = some order ∧
      db'.orders = db.orders.update orderId ({ · with status := .completed }) ∧
      db'.listings = db.listings ∧ db'.offers = db.offers := by
  unfold confirmReceipt at h
  split at h
  · cases h
  · rename_i order hfind
    repeat' split at h
    all_goals
      first
        | cases h
        | rw [bind_eq_ok] at h
          obtain ⟨moved, hmove, h⟩ := h
          obtain ⟨-, -, rfl⟩ := transitionOrderStatus_eq_ok_iff.1 hmove
          obtain rfl := Except.ok.inj h
          obtain ⟨events, hframe⟩ := recordOrderEvent_frame env (some orderId) .receiptConfirmed
            { db with orders := db.orders.update orderId ({ · with status := .completed }) }
          rw [hframe]
          exact ⟨order, hfind, rfl, rfl, rfl⟩

theorem raiseDispute_stall {userId : Id} {request : DisputeRequest}
    (h : raiseDispute env userId request db = .ok db') :
    exists order, db.orders.findUnique request.orderId = some order ∧
      order.status ∈ disputableStatuses ∧
      db'.orders = db.orders.update request.orderId ({ · with status := .disputed }) ∧
      db'.listings = db.listings ∧ db'.offers = db.offers := by
  unfold raiseDispute at h
  split at h
  · cases h
  · rename_i order hfind
    simp only [bind_eq_ok] at h
    obtain ⟨_, hmay, moved, hmove, h⟩ := h
    obtain ⟨-, -, rfl⟩ := transitionOrderStatus_eq_ok_iff.1 hmove
    obtain rfl := Except.ok.inj h
    rw [holdForDispute_eq]
    exact ⟨order, hfind, assertMayDispute_eq_ok hmay, rfl, rfl, rfl⟩

theorem restoreOrder_stall {dispute : Dispute} (h : restoreOrder env dispute db = .ok db') :
    exists restored : Db,
      restored.orders = db.orders.update dispute.orderId
        ({ · with status := dispute.previousOrderStatus.getD .confirmed }) ∧
      restored.listings = db.listings ∧ restored.offers = db.offers ∧
      StallMoves restored db' := by
  unfold restoreOrder at h
  rw [bind_eq_ok] at h
  obtain ⟨restored, hmove, hreplay⟩ := h
  obtain ⟨-, -, rfl⟩ := transitionOrderStatus_eq_ok_iff.1 hmove
  refine ⟨_, ?_, ?_, ?_, replayPaidPayments_stallMoves hreplay⟩
  all_goals
    rw [resumeAfterDispute_eq]

theorem applyResolution_stall {dispute : Dispute} {resolutionType : ResolutionType}
    (hkeeps : resolutionType ≠ .cancelOrder)
    (h : applyResolution env adminId dispute resolutionType db = .ok db') :
    exists restored : Db,
      restored.orders = db.orders.update dispute.orderId
        ({ · with status := dispute.previousOrderStatus.getD .confirmed }) ∧
      restored.listings = db.listings ∧ restored.offers = db.offers ∧
      StallMoves restored db' := by
  cases resolutionType with
  | cancelOrder =>
      exact absurd rfl hkeeps
  | dismissed =>
      exact restoreOrder_stall h
  | cancelService =>
      unfold applyResolution at h
      dsimp only at h
      split at h
      · cases h
      · rw [bind_eq_ok] at h
        obtain ⟨served, hservice, h⟩ := h
        obtain ⟨_, _, _, _, rfl⟩ := cancelService_frame hservice
        obtain ⟨restored, hrestored⟩ := restoreOrder_stall h
        exact ⟨restored, hrestored⟩

theorem resolveDispute_stallEffect {adminId disputeId : Id} {resolutionType : ResolutionType}
    {resolution : String}
    (unedited : (MarketStep.resolveDispute adminId disputeId resolutionType
      resolution).isEdit = false)
    (h : resolveDispute env adminId disputeId resolutionType resolution db = .ok db') :
    StallEffect env db
      (.market (.resolveDispute adminId disputeId resolutionType resolution) unedited) db' := by
  obtain ⟨dispute, applied, hresolvable, happly, -, rfl⟩ := resolveDispute_eq_ok h
  by_cases hcancel : resolutionType = .cancelOrder
  · subst hcancel
    obtain ⟨record, hload, hcancelled⟩ := cancelLoadedOrder_stall happly
    exact .resolvedByCancelling adminId disputeId resolution unedited dispute record
      applied hresolvable.found hload hcancelled
  · obtain ⟨restored, horders, hlistings, hoffers, hreplayed⟩ :=
      applyResolution_stall hcancel happly
    exact .resolvedByRestoring adminId disputeId resolutionType resolution unedited
      dispute restored applied hcancel hresolvable horders hlistings hoffers hreplayed

theorem ListingStep.stallEffect (env : Env) (db : Db) (a : ListingStep) :
    StallEffect env db a (step db (env, a)) := by
  cases a with
  | createListing listing draft =>
      exact .created listing draft
  | cancelListing caller listingId =>
      refine .of_commit fun db' h => ?_
      obtain rfl := updateListingStatus_eq_ok h
      exact .closed caller listingId
  | expireListings =>
      exact .windowsEnded
  | approveRecovery adminId requestId =>
      exact .of_commit fun _ h => approveRecovery_stallEffect h
  | market step unedited =>
      cases step with
      | listing call =>
          cases unedited
      | createOffer userId listingId amount quantity =>
          refine .of_commit fun db' h => ?_
          obtain ⟨price, listing, requested, expiresAt, -, -, -, -, -, rfl⟩ := createOffer_eq_ok h
          exact .bid userId listingId amount quantity unedited listing price requested expiresAt
      | respondToOffer caller updatedAt offerId action =>
          exact .answered caller updatedAt offerId action unedited _
            (respondToOffer_answer env caller updatedAt offerId action db)
      | expireOffers =>
          exact .offersExpired unedited
      | checkout call =>
          refine .kept _ _ ?_
          cases call <;> exact ⟨rfl, rfl, rfl⟩
      | settlePayment args =>
          exact .of_commit fun db' h => .settled args unedited db' h
      | refund call =>
          refine .kept _ _ ?_
          obtain ⟨_, _, _, _, hframe⟩ := (call.exec_frame env db).others
          exact ⟨by change (call.exec env db).orders = _; rw [hframe],
            by change (call.exec env db).listings = _; rw [hframe],
            by change (call.exec env db).offers = _; rw [hframe]⟩
      | resolveReconciliation reconciliationId status actorId note =>
          refine .of_commit fun db' h => .kept _ _ ?_
          obtain ⟨events, hframe⟩ := resolveReconciliation_frame h
          rw [hframe]
          exact ⟨rfl, rfl, rfl⟩
      | shipOrder orderId leg =>
          refine .of_commit fun db' h => ?_
          obtain ⟨-, ⟨order, hfind, hsource⟩, rfl⟩ := transitionOrderStatus_eq_ok_iff.1 h
          exact .shipped orderId leg unedited order hfind hsource
      | confirmReceipt userId orderId =>
          refine .of_commit fun db' h => ?_
          obtain ⟨order, hfind, horders, hlistings, hoffers⟩ := confirmReceipt_stall h
          exact .received userId orderId unedited order db' hfind horders hlistings hoffers
      | cancelOrder load orderId actorId reason role =>
          refine .of_commit fun db' h => ?_
          obtain ⟨record, hload, hcancelled⟩ := cancelLoadedOrder_stall h
          exact .cancelled load orderId actorId reason role unedited record db' hload hcancelled
      | raiseDispute userId request =>
          refine .of_commit fun db' h => ?_
          obtain ⟨order, hfind, hdisputable, horders, hlistings, hoffers⟩ := raiseDispute_stall h
          exact .raised userId request unedited order db' hfind hdisputable horders hlistings
            hoffers
      | resolveDispute adminId disputeId resolutionType resolution =>
          exact .of_commit fun _ h => resolveDispute_stallEffect unedited h
      | payout call =>
          exact .kept _ _ (call.exec_stallKept env db)
      | elsewhere other =>
          exact .kept _ _ ⟨rfl, rfl, rfl⟩

end MarketBridge
