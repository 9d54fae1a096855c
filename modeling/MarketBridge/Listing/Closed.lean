import MarketBridge.Listing.Effects

/-!
# Closed listings stay closed

Most operations write the status of a listing by its id alone, after work on an
offer or an order that may have outlived the listing.  A closed listing stays as
it is as long as no such write finds it, and a sold one comes back only with the
goods of a cancelled order.
-/

namespace MarketBridge

open Relational

variable {env : Env} {db db' : Db} {i : Id} {l : Listing}

/-! ## The law -/

def NeverReopened (db db' : Db) : Prop :=
  forall i l l', db.listings.findUnique i = some l -> l.status.isClosed = true ->
    db'.listings.findUnique i = some l' -> l'.status.isOpen = false

theorem NeverReopened.status (h : NeverReopened db db') (i : Id) (s s' : ListingStatus)
    (hs : (db.listings.findUnique i).map (·.status) = some s) (hclosed : s.isClosed = true)
    (hs' : (db'.listings.findUnique i).map (·.status) = some s') :
    s'.isOpen = false := by
  obtain ⟨l, hl, rfl⟩ := Option.map_eq_some_iff.1 hs
  obtain ⟨l', hl', rfl⟩ := Option.map_eq_some_iff.1 hs'
  exact h i l l' hl hclosed hl'

/-- The goods of the order have been committed, as `releaseListingQuantity` sees it. -/
def hasCommittedGoods (db : Db) (orderId : Id) (order : Order) : Bool :=
  order.status ≠ .pendingPayment || db.payments.any fun _ p =>
    p.orderId = some orderId && p.type = .marketplace &&
      p.status ∈ [PaymentStatus.paid, .refundPending, .refunded]

/-- A cancelled order gives the quantity it had committed back to the listing. -/
def ReturnsGoods (db db' : Db) (i : Id) (l l' : Listing) : Prop :=
  exists orderId order, db.orders.findUnique orderId = some order ∧ order.listingId = i ∧
    order.status ≠ .cancelled ∧
    (db'.orders.findUnique orderId).map (·.status) = some .cancelled ∧
    hasCommittedGoods db orderId order = true ∧
    l'.availableQuantity = min l.quantity (l.availableQuantity + order.quantity)

def SoldReturns (db db' : Db) : Prop :=
  forall i l l', db.listings.findUnique i = some l -> l.status = .sold ->
    db'.listings.findUnique i = some l' -> l'.status = .active -> ReturnsGoods db db' i l l'

/-! ## The condition -/

def isShutListing (db : Db) (listingId : Id) : Bool :=
  (db.listings.findUnique listingId).any fun l => l.status.isShut

def isClosedListing (db : Db) (listingId : Id) : Bool :=
  (db.listings.findUnique listingId).any fun l => l.status.isClosed

def isLastBid (db : Db) (id : Id) (o : Offer) : Bool :=
  !db.offers.any fun i other =>
    i ≠ id && other.listingId = o.listingId && other.status.isActive && isLeafOffer db i

def offersToExpire (env : Env) (db : Db) : List (Id × Offer) :=
  (db.offers.findMany fun _ o => o.isOverdue env).take 500

/-- The order to cancel is on a listing that is not closed; a sold one gets goods back. -/
def cancellationSpares (load : OrderLoad) (orderId : Id) (db : Db) : Bool :=
  (loadOrder load db orderId).all fun record =>
    !isClosedListing db record.listingId &&
      (record.givesBack db || !isShutListing db record.listingId)

/-- The writes of the step that open a listing find no closed one, and no sold one. -/
def ListingStep.spares (db : Db) (a : Env × ListingStep) : Bool :=
  match a.2 with
  | .market (.respondToOffer _ _ offerId action) _ =>
      !action.closes || (db.offers.findUnique offerId).all fun o =>
        o.isExpired a.1 || !isShutListing db o.listingId || !isLastBid db offerId o
  | .market .expireOffers _ =>
      (offersToExpire a.1 db).all fun pick =>
        pick.2.status ≠ .selected || !isShutListing db pick.2.listingId
  | .market (.cancelOrder load orderId _ _ _) _ => cancellationSpares load orderId db
  | .market (.resolveDispute _ disputeId .cancelOrder _) _ =>
      (db.disputes.findUnique disputeId).all fun dispute =>
        cancellationSpares .included dispute.orderId db
  | .approveRecovery _ requestId =>
      (db.recoveryRequests.findUnique requestId).all fun request =>
        request.type ≠ .offer || (db.orders.findUnique request.orderId).all fun order =>
          !isShutListing db order.listingId
  | _ => true

/-! ## Rows that are kept -/

variable {s : ListingStatus} {orderId listingId : Id} {load : OrderLoad} {record : OrderRecord}

theorem isOpen_of_isShut (h : s.isShut = true) : s.isOpen = false := by
  cases s <;> first | rfl | cases h

theorem isShut_of_isClosed (h : s.isClosed = true) : s.isShut = true := by
  simp [ListingStatus.isShut, h]

theorem ne_of_not_shut (hl : db.listings.findUnique i = some l) (hshut : l.status.isShut = true)
    (h : isShutListing db listingId = false) :
    i ≠ listingId := by
  rintro rfl
  simp [isShutListing, hl, hshut] at h

def ListingKept (i : Id) (db db' : Db) : Prop :=
  db'.listings.findUnique i = db.listings.findUnique i

theorem ListingKept.of_eq (h : db'.listings = db.listings) : ListingKept i db db' := by
  unfold ListingKept
  rw [h]

theorem ListingKept.trans {db'' : Db} (h : ListingKept i db db') (h' : ListingKept i db' db'') :
    ListingKept i db db'' :=
  Eq.trans h' h

theorem setListingStatus_kept {status : ListingStatus} (h : i ≠ listingId) :
    ListingKept i db (setListingStatus listingId status db) :=
  Table.findUnique_update_ne h

theorem Promoted.rowKept (hpromoted : Promoted env listingId db db') (h : i ≠ listingId) :
    ListingKept i db db' := by
  cases hpromoted with
  | nobody =>
      exact Table.findUnique_update_ne h
  | selected id next =>
      exact Table.findUnique_update_ne h

theorem expirePickedOffer_kept {pick : Id × Offer}
    (h : pick.2.status = .selected -> i ≠ pick.2.listingId) :
    ListingKept i db (expirePickedOffer env db pick) := by
  unfold expirePickedOffer
  split
  · dsimp only
    split
    · rename_i hselected
      exact ((promoteNextWaitingBuyer_promoted env pick.2.listingId _).rowKept (h hselected))
    · exact .of_eq rfl
  · exact .of_eq rfl

theorem expireOffers_kept
    (h : forall pick, pick ∈ offersToExpire env db -> pick.2.status = .selected ->
      i ≠ pick.2.listingId) :
    ListingKept i db (expireOffers env db) := by
  unfold expireOffers
  change forall pick, pick ∈ (db.offers.findMany fun _ o => o.isOverdue env).take 500 -> _ at h
  generalize (db.offers.findMany fun _ o => o.isOverdue env).take 500 = picks at h
  induction picks generalizing db with
  | nil =>
      exact .of_eq rfl
  | cons pick picks ih =>
      exact (expirePickedOffer_kept (h pick List.mem_cons_self)).trans
        (ih fun pick' hpick' => h pick' (List.mem_cons_of_mem pick hpick'))

theorem expireListings_kept (hl : db.listings.findUnique i = some l)
    (hshut : l.status.isShut = true) :
    ListingKept i db (expireListings env db) := by
  unfold expireListings
  generalize listingsToExpire env db = picks
  induction picks generalizing db with
  | nil =>
      exact .of_eq rfl
  | cons pick picks ih =>
      have hfirst : ListingKept i db { db with
          listings := db.listings.updateMany (fun j l => j == pick.1 && l.windowEnded env)
            ({ · with status := .expired }) } := by
        unfold ListingKept
        rw [Table.findUnique_updateMany, hl]
        simp [Listing.windowEnded, isOpen_of_isShut hshut]
      exact hfirst.trans (ih (Eq.trans hfirst hl))

def SameParent (_ : Id) (o o' : Offer) : Prop :=
  o'.parentOfferId = o.parentOfferId

theorem isLeafOffer_of_rel (h : db.offers.Rel SameParent db'.offers) (id : Id) :
    isLeafOffer db' id = isLeafOffer db id := by
  unfold isLeafOffer
  rw [h.any]
  intro _ o o' hsame
  rw [hsame]

theorem isLeafOffer_setOfferStatus (id : Id) (status : OfferStatus) (db : Db) (j : Id) :
    isLeafOffer (setOfferStatus id status db) j = isLeafOffer db j := by
  apply isLeafOffer_of_rel
  apply Table.rel_update
  · exact fun _ _ => rfl
  · exact fun _ _ => rfl

theorem closeLeafOffer_kept {id : Id} {o : Offer} {status : OfferStatus}
    (h : i ≠ o.listingId ∨ isLastBid db id o = false) :
    ListingKept i db (closeLeafOffer id o status db) := by
  unfold closeLeafOffer
  dsimp only
  split
  · exact .of_eq rfl
  · rename_i hnone
    rcases h with hne | hlast
    · exact Table.findUnique_update_ne hne
    · exfalso
      apply hnone
      simp only [isLastBid, Bool.not_eq_false', Table.any_eq_true_iff, Bool.and_eq_true,
        decide_eq_true_eq] at hlast
      obtain ⟨j, other, hother, ⟨⟨hne, hlisting⟩, hactive⟩, hleaf⟩ := hlast
      rw [Table.any_eq_true_iff]
      refine ⟨j, other, ?_, ?_⟩
      · exact (Table.findUnique_update_ne hne).trans hother
      · rw [isLeafOffer_setOfferStatus]
        simp [hlisting, hactive, hleaf]

theorem StallMove.rowKept (hmove : StallMove db db') (hl : db.listings.findUnique i = some l)
    (hshut : l.status.isShut = true) :
    ListingKept i db db' := by
  cases hmove with
  | kept _ hlistings =>
      exact .of_eq hlistings
  | arranged _ _ hlistings =>
      exact .of_eq hlistings
  | confirmed orderId order committed listings offers hfind hpending htaken _ hlistings =>
      cases htaken with
      | untouched =>
          exact .of_eq hlistings
      | taken listing hlisting hphysical hpos hcan =>
          unfold ListingKept
          rw [hlistings, takeListingQuantity_listings]
          apply Table.findUnique_update_ne
          -- What can be committed is open, so it is another listing.
          rintro rfl
          obtain rfl : l = listing := Option.some.inj (hl.symm.trans hlisting)
          have hopen : l.status.isOpen = true := by
            simp only [Listing.canCommit, Bool.and_eq_true] at hcan
            exact hcan.1.2
          rw [isOpen_of_isShut hshut] at hopen
          cases hopen

theorem StallMoves.rowKept (hmoves : StallMoves db db') (hl : db.listings.findUnique i = some l)
    (hshut : l.status.isShut = true) :
    ListingKept i db db' := by
  induction hmoves with
  | refl =>
      exact .of_eq rfl
  | tail _ hmove ih =>
      exact ih.trans (hmove.rowKept (Eq.trans ih hl) hshut)

theorem releaseWinner_rowKept (order : OrderRecord) (h : i ≠ order.listingId) :
    ListingKept i db (releaseWinner env order db) := by
  unfold releaseWinner
  split
  · exact ((promoteNextWaitingBuyer_promoted env order.listingId _).rowKept h)
  · exact .of_eq rfl

/-! ## Cancellations -/

theorem StallCancelled.rowKept {order : OrderRecord} (hcancelled : StallCancelled env order db db')
    (h : i ≠ order.listingId) :
    ListingKept i db db' := by
  have hrow : ListingKept i db { db with
      listings := db.listings.update order.listingId (order.returned db) } :=
    Table.findUnique_update_ne h
  exact hrow.trans (Eq.trans (congrArg (·.findUnique i) hcancelled.listings)
    (releaseWinner_rowKept order h))

theorem hasCommittedGoods_of_load {order : Order}
    (hload : loadOrder load db orderId = some record)
    (horder : db.orders.findUnique orderId = some order) (hstatus : record.status = order.status)
    (hcommitted : record.inferredCommitted = true) :
    hasCommittedGoods db orderId order = true := by
  unfold OrderRecord.inferredCommitted at hcommitted
  unfold hasCommittedGoods
  rw [hstatus] at hcommitted
  rw [Bool.or_eq_true] at hcommitted ⊢
  refine hcommitted.imp_right fun hpaid => ?_
  rw [List.any_eq_true] at hpaid
  obtain ⟨loaded, hmem, hgoods⟩ := hpaid
  rw [Table.any_eq_true_iff]
  cases load with
  | included =>
      simp only [loadOrder, includeOrder, horder, Option.map_some, Option.some.injEq] at hload
      rw [← hload] at hmem
      obtain ⟨⟨paymentId, p⟩, hp, rfl⟩ := List.mem_map.1 hmem
      obtain ⟨hfind, hof⟩ := Table.mem_findMany.1 hp
      refine ⟨paymentId, p, hfind, ?_⟩
      simp only [Option.some.injEq, Bool.and_eq_true, decide_eq_true_eq] at hgoods
      simp only [decide_eq_true_eq] at hof
      simp [hof, hgoods.1, hgoods.2]
  | selected =>
      -- The narrow projection has no payment types.
      simp only [loadOrder, selectOrder, horder, Option.map_some, Option.some.injEq] at hload
      rw [← hload] at hmem
      obtain ⟨_, -, rfl⟩ := List.mem_map.1 hmem
      simp at hgoods

theorem StallCancelled.returnsGoods (hload : loadOrder load db orderId = some record)
    (hcancelled : StallCancelled env record db db') (hgives : record.givesBack db = true)
    (hl : db.listings.findUnique record.listingId = some l) {l' : Listing}
    (hl' : db'.listings.findUnique record.listingId = some l') :
    ReturnsGoods db db' record.listingId l l' := by
  obtain ⟨order, hloaded⟩ := loadOrder_eq_some hload
  have hspec := hcancelled.cancelled
  have hinferred : record.inferredCommitted = true := (Bool.and_eq_true _ _ ▸ hgives).1
  have hrow : db.orders.findUnique orderId = some order := hloaded.found
  refine ⟨orderId, order, hrow, hloaded.listingId.symm, ?_, ?_, ?_, ?_⟩
  · rw [← hloaded.status]
    exact hspec.notClosed.2
  · rw [hspec.orders, hloaded.id, Table.findUnique_update, if_pos rfl, hrow]
    rfl
  · exact hasCommittedGoods_of_load hload hrow hloaded.status hinferred
  · have hstock := hspec.stock
    unfold StockRestored at hstock
    rw [if_pos hgives] at hstock
    have hsame := hstock.2 record.listingId
    rw [Table.findUnique_update, if_pos rfl, hl, hl'] at hsame
    rw [← hloaded.quantity]
    simpa [Listing.stock, Listing.restore] using congrArg (fun s => s.2.2) (Option.some.inj hsame)

theorem StallCancelled.row (hload : loadOrder load db orderId = some record)
    (hcancelled : StallCancelled env record db db')
    (hspares : cancellationSpares load orderId db = true) (hl : db.listings.findUnique i = some l)
    (hshut : l.status.isShut = true) :
    ListingKept i db db' ∨ l.status.isClosed = false ∧
      forall l', db'.listings.findUnique i = some l' -> ReturnsGoods db db' i l l' := by
  by_cases hi : i = record.listingId
  · right
    subst hi
    simp only [cancellationSpares, hload, Option.all_some, isClosedListing, isShutListing, hl,
      Option.any_some, hshut, Bool.and_eq_true, Bool.not_eq_true', Bool.not_true,
      Bool.or_false] at hspares
    exact ⟨hspares.1, fun l' hl' => hcancelled.returnsGoods hload hspares.2 hl hl'⟩
  · exact Or.inl (hcancelled.rowKept hi)

/-! ## Steps -/

/-- What a sparing step makes of a shut row: only a sold one gets goods back. -/
inductive ShutRow (db db' : Db) (i : Id) (l : Listing) : Prop where
  | kept (h : ListingKept i db db')
  | cancelled (h : db'.listings.findUnique i = some { l with status := .cancelled })
  | returned (hopen : l.status.isClosed = false)
      (h : forall l', db'.listings.findUnique i = some l' -> ReturnsGoods db db' i l l')

theorem ListingStep.shutRow (a : Env × ListingStep) (hspares : spares db a = true)
    (hl : db.listings.findUnique i = some l) (hshut : l.status.isShut = true) :
    ShutRow db (step db a) i l := by
  obtain ⟨env, a⟩ := a
  have heffect := ListingStep.stallEffect env db a
  generalize step db (env, a) = db' at heffect ⊢
  cases heffect with
  | kept _ _ h =>
      exact .kept (.of_eq h.listings)
  | created listing draft =>
      have hne : i ≠ db.listings.size := Nat.ne_of_lt (Table.lt_size_of_findUnique hl)
      apply ShutRow.kept
      unfold ListingKept
      rw [Table.findUnique_create, if_neg hne]
  | closed caller listingId =>
      by_cases hi : i = listingId
      · subst hi
        apply ShutRow.cancelled
        unfold setListingStatus
        rw [Table.findUnique_update, if_pos rfl, hl]
        rfl
      · exact .kept (setListingStatus_kept hi)
  | windowsEnded =>
      exact .kept (expireListings_kept hl hshut)
  | recovered adminId requestId request order _ hrequest htype horder _ hlistings =>
      apply ShutRow.kept
      simp only [spares, hrequest, Option.all_some, htype, horder, Bool.or_eq_true,
        Bool.not_eq_true', decide_eq_true_eq] at hspares
      have hne : i ≠ order.listingId := ne_of_not_shut hl hshut (by simpa using hspares)
      unfold ListingKept
      rw [hlistings, Table.findUnique_update_ne hne]
  | bid =>
      exact .kept (.of_eq rfl)
  | answered caller updatedAt offerId action _ _ hanswer =>
      apply ShutRow.kept
      cases hanswer with
      | refused =>
          exact .of_eq rfl
      | expired =>
          exact .of_eq rfl
      | moved o listing _ hoffer hfresh hlisting hleaf hmove hquiet =>
          by_cases hcloses : action.closes = true
          · simp only [spares, hcloses, Bool.not_true, Bool.false_or, hoffer, Option.all_some,
              hfresh, Bool.or_eq_true, Bool.not_eq_true'] at hspares
            cases hmove with
            | selected => exact .of_eq rfl
            | agreed => exact .of_eq rfl
            | countered => exact .of_eq rfl
            | confirmed =>
                obtain ⟨events, hframe⟩ := orderedDb_frame env offerId o listing
                  o.confirmedPrice _ db
                rw [hframe]
                exact .of_eq rfl
            | closed =>
                exact closeLeafOffer_kept
                  (hspares.imp_left (ne_of_not_shut hl hshut))
          · exact .of_eq (hquiet (by simpa using hcloses))
  | offersExpired =>
      apply ShutRow.kept
      apply expireOffers_kept
      intro pick hpick hselected
      simp only [spares, List.all_eq_true] at hspares
      have hpicked := hspares pick hpick
      exact ne_of_not_shut hl hshut (by simpa [hselected] using hpicked)
  | settled args _ _ h =>
      obtain ⟨planned, paymentId, hsettled, -, rfl⟩ := settlePayment_stall h
      obtain ⟨offers, hframe⟩ := releaseBiddersAfter_frame paymentId planned
      rw [hframe]
      have hrow := hsettled.moves.rowKept hl hshut
      exact .kept (hrow.trans (.of_eq rfl))
  | shipped => exact .kept (.of_eq rfl)
  | received _ _ _ _ _ _ _ hlistings => exact .kept (.of_eq hlistings)
  | raised _ _ _ _ _ _ _ _ hlistings => exact .kept (.of_eq hlistings)
  | cancelled load orderId actorId reason role _ record _ hload h =>
      rcases h.row hload hspares hl hshut with hkept | ⟨hopen, hreturns⟩
      · exact .kept hkept
      · exact .returned hopen hreturns
  | resolvedByCancelling adminId disputeId resolution _ dispute record cancelled hdispute hload
      h =>
      simp only [spares, hdispute, Option.all_some] at hspares
      rcases h.row hload hspares hl hshut with hkept | ⟨hopen, hreturns⟩
      · exact .kept hkept
      · exact .returned hopen hreturns
  | resolvedByRestoring _ _ _ _ _ dispute restored db' _ _ _ hlistings _ hreplayed =>
      apply ShutRow.kept
      have hrow : ListingKept i db restored := .of_eq hlistings
      exact hrow.trans (hreplayed.rowKept (Eq.trans hrow hl) hshut)

def ListingStep.sparesOrRefused (db : Db) (a : Env × ListingStep) : Prop :=
  step db a = db ∨ spares db a = true

instance (db : Db) (a : Env × ListingStep) : Decidable (ListingStep.sparesOrRefused db a) :=
  inferInstanceAs (Decidable (_ ∨ _))

def IsClosedAt (i : Id) (db : Db) : Prop :=
  exists l, db.listings.findUnique i = some l ∧ l.status.isClosed = true

theorem ListingStep.isClosedAt_step (a : Env × ListingStep) (h : IsClosedAt i db)
    (hspares : sparesOrRefused db a) :
    IsClosedAt i (step db a) := by
  rcases hspares with hrefused | hspares
  · rwa [hrefused]
  · obtain ⟨l, hl, hclosed⟩ := h
    cases shutRow a hspares hl (isShut_of_isClosed hclosed) with
    | kept hkept =>
        exact ⟨l, Eq.trans hkept hl, hclosed⟩
    | cancelled hcancelled =>
        exact ⟨_, hcancelled, rfl⟩
    | returned hopen =>
        rw [hclosed] at hopen
        cases hopen

theorem isOpen_of_isClosed (h : s.isClosed = true) : s.isOpen = false :=
  isOpen_of_isShut (isShut_of_isClosed h)

theorem ListingStep.soldReturns_step (a : Env × ListingStep) (hspares : sparesOrRefused db a) :
    SoldReturns db (step db a) := by
  intro i l l' hl hsold hl' hactive
  rcases hspares with hrefused | hspares
  · rw [hrefused, hl] at hl'
    rw [← Option.some.inj hl', hsold] at hactive
    cases hactive
  · have hshut : l.status.isShut = true := by
      rw [hsold]
      rfl
    cases shutRow a hspares hl hshut with
    | kept hkept =>
        rw [hkept, hl] at hl'
        rw [← Option.some.inj hl', hsold] at hactive
        cases hactive
    | cancelled hcancelled =>
        rw [hcancelled] at hl'
        rw [← Option.some.inj hl'] at hactive
        cases hactive
    | returned _ hreturns =>
        exact hreturns l' hl'

/-- Whenever in the run a listing is closed, it is not open from then on, and a listing
that is sold is active again only with goods that are given back. -/
structure ClosedStays (db : Db) (as : List (Env × ListingStep)) : Prop where
  closed : forall before between rest, as = before ++ between ++ rest ->
    NeverReopened (run ListingStep.step db before) (run ListingStep.step db (before ++ between))
  sold : RunMeets ListingStep.step (fun db a => SoldReturns db (ListingStep.step db a)) db as

theorem closedStays_of_run {as : List (Env × ListingStep)}
    (h : RunMeets ListingStep.step ListingStep.sparesOrRefused db as) :
    ClosedStays db as := by
  constructor
  · intro before between rest hsplit i l l' hl hclosed hl'
    rw [hsplit, List.append_assoc, runMeets_append, runMeets_append] at h
    rw [run_append] at hl'
    have hkeeps : forall s a, IsClosedAt i s -> ListingStep.sparesOrRefused s a ->
        IsClosedAt i (ListingStep.step s a) :=
      fun _ a hs ha => ListingStep.isClosedAt_step a hs ha
    obtain ⟨k, hk, hkclosed⟩ := run_invariant hkeeps ⟨l, hl, hclosed⟩ h.2.1
    obtain rfl : k = l' := Option.some.inj (hk.symm.trans hl')
    exact isOpen_of_isClosed hkclosed
  · exact h.imp_of_invariant (fun _ => True) (fun _ _ _ _ => trivial)
      (fun _ a _ ha => ListingStep.soldReturns_step a ha) trivial

/-! ## Runs -/

def stallSeller : OfferCaller :=
  { id := 1 }

/-- A listing with an unpaid order, one with a selected bid, and one that is sold under dispute. -/
def stallDb : Db :=
  { listings := ((Table.empty.create
      { sellerId := 1
        category := .product
        quantity := 10
        availableQuantity := 10
        askingPrice := 2 }).create
      { sellerId := 1
        quantity := 10
        availableQuantity := 10
        askingPrice := 2
        pickupWindowStart := some 1
        pickupWindowEnd := some 5 }).create
      { sellerId := 1
        category := .product
        quantity := 4
        availableQuantity := 0
        askingPrice := 2
        status := .sold }
    offers := (Table.empty.create
      { listingId := 0
        buyerId := 2
        sellerId := 1
        amount := 2
        quantity := some 6
        status := .accepted }).create
      { listingId := 1
        buyerId := 3
        sellerId := 1
        amount := 2
        quantity := some 6
        status := .selected
        expiresAt := some 5 }
    orders := (Table.empty.create
      { listingId := 0
        buyerId := 2
        sellerId := 1
        finalPrice := 12
        quantity := 6
        agreedOfferId := some 0 }).create
      { listingId := 2
        buyerId := 2
        sellerId := 1
        finalPrice := 8
        quantity := 4
        status := .disputed
        goodsCommitted := true }
    recoveryRequests := Table.empty.create
      { orderId := 1
        type := .offer } }

def cancelStep (orderId : Id) (role : CancelledByRole) : ListingStep :=
  .market (.cancelOrder .included orderId (some 2) none role) rfl

/-- The bid and the window end, then the orders are cancelled, and at last a listing is. -/
def sparingRun : List (Env × ListingStep) :=
  [({ now := 5 }, .market .expireOffers rfl), ({ now := 5 }, .expireListings),
    (env0, cancelStep 0 .buyer), (env0, cancelStep 1 .admin),
    (env0, .cancelListing stallSeller 0)]

def Db.listingStatuses (db : Db) : List (Option ListingStatus) :=
  [0, 1, 2].map fun i => (db.listings.findUnique i).map (·.status)

theorem sparingRun_closedStays :
    ClosedStays stallDb sparingRun ∧
      (run ListingStep.step stallDb sparingRun).listingStatuses =
        [some .cancelled, some .expired, some .active] :=
  ⟨closedStays_of_run (by decide +kernel), by decide +kernel⟩

/-- The seller cancels the listing, and then the buyer the unpaid order on it. -/
def orderOutlivesListing : List (Env × ListingStep) :=
  [(env0, .cancelListing stallSeller 0), (env0, cancelStep 0 .buyer)]

def bidOutlivesListing : List (Env × ListingStep) :=
  [({ now := 5 }, .expireListings), ({ now := 5 }, .market .expireOffers rfl)]

/-- The bidding is recovered while the order that bought everything is under dispute. -/
def recoveryOfSold : List (Env × ListingStep) :=
  [(env0, .approveRecovery 9 0)]

/--
A cancelled and an expired listing are active again, and so is a sold one without
any goods: each of the runs breaks the law.
-/
theorem closed_and_sold_reopened :
    ¬ ClosedStays stallDb orderOutlivesListing ∧ ¬ ClosedStays stallDb bidOutlivesListing ∧
      ¬ ClosedStays stallDb recoveryOfSold := by
  refine ⟨fun h => ?_, fun h => ?_, fun h => ?_⟩
  · have hlaw := h.closed [(env0, .cancelListing stallSeller 0)] [(env0, cancelStep 0 .buyer)] []
      rfl
    have hshut := hlaw.status 0 .cancelled .active (by decide +kernel) rfl (by decide +kernel)
    cases hshut
  · have hlaw := h.closed [({ now := 5 }, .expireListings)]
      [({ now := 5 }, .market .expireOffers rfl)] [] rfl
    have hshut := hlaw.status 1 .expired .active (by decide +kernel) rfl (by decide +kernel)
    cases hshut
  · obtain ⟨orderId, order, horder, hlisting, hopen, hcancelled, -⟩ := h.sold.1 2
      { sellerId := 1
        category := .product
        quantity := 4
        availableQuantity := 0
        askingPrice := 2
        status := .sold }
      { sellerId := 1
        category := .product
        quantity := 4
        availableQuantity := 0
        askingPrice := 2
        status := .active } (by decide +kernel) rfl (by decide +kernel) rfl
    -- The recovery writes no order.
    have hsame : (ListingStep.step stallDb (env0, .approveRecovery 9 0)).orders =
        stallDb.orders := by
      decide +kernel
    rw [hsame, horder] at hcancelled
    exact hopen (Option.some.inj hcancelled)

end MarketBridge
