import MarketBridge.Listing.Held
import MarketBridge.Transport.Commitment

/-!
# Listings are not left locked

Each way in which a negotiation or an order ends either hands the listing to the
next buyer, or makes it active again, or leaves a bid that the seller may select.
What a step must not do to a locked listing is the condition of the runs.
-/

namespace MarketBridge

open Relational

variable {env : Env} {db db' : Db} {i listingId : Id} {q : OfferStatus -> Bool}

/-- What holds between the steps. -/
structure ListingsHeld (db : Db) : Prop where
  parents : ParentsAnswered db.offers
  held : HeldWhileLocked db

/-! ## The condition -/

def isHeldBeside (db : Db) (orderId listingId : Id) : Bool :=
  hasLeaf OfferStatus.isActive db listingId || db.orders.any fun k order =>
    k ≠ orderId && order.listingId = listingId && order.status.isRunning

/-- One of the picked bids was selected, or something else holds the listing. -/
def isHeldBesidePicks (picks : List (Id × Offer)) (db : Db) (listingId : Id) : Bool :=
  (picks.any fun pick => pick.2.status = .selected && pick.2.listingId = listingId) ||
    hasRunningOrder db listingId || db.offers.any fun j o =>
      j ∉ picks.map Prod.fst && o.listingId = listingId && o.status.isActive && isLeafOffer db j

def mayStop (db : Db) (orderId : Id) : Bool :=
  (db.orders.findUnique orderId).all fun order =>
    !isLocked db order.listingId || isHeldBeside db orderId order.listingId

def cancellationFrees (load : OrderLoad) (orderId : Id) (db : Db) : Bool :=
  (loadOrder load db orderId).all fun record =>
    record.status = .pendingPayment ||
      !(record.givesBack db && hasActiveOffers db record.listingId) ||
      isHeldBeside db orderId record.listingId

def settlementFrees (db : Db) (paymentId : Id) : Bool :=
  (db.payments.findUnique paymentId).all fun p =>
    p.type ≠ .marketplace || (related db.orders p.orderId).all fun order =>
      order.status ≠ .completed || !isLocked db order.listingId ||
        isHeld OfferStatus.isLive db order.listingId

/-- The step takes no last holder from a locked listing that it does not free. -/
def ListingStep.frees (db : Db) (a : Env × ListingStep) : Bool :=
  match a.2 with
  | .market (.respondToOffer _ _ offerId _) _ =>
      (db.offers.findUnique offerId).all fun o =>
        !o.mayExpire a.1 || !isLocked db o.listingId || !isLastBid db offerId o ||
          hasRunningOrder db o.listingId
  | .market .expireOffers _ =>
      (offersToExpire a.1 db).all fun pick =>
        !isLocked db pick.2.listingId ||
          isHeldBesidePicks (offersToExpire a.1 db) db pick.2.listingId
  | .market (.settlePayment args) _ => (settledPayments db args).all (settlementFrees db)
  | .market (.confirmReceipt _ orderId) _ => mayStop db orderId
  | .market (.cancelOrder load orderId _ _ _) _ => cancellationFrees load orderId db
  | .market (.resolveDispute _ disputeId .cancelOrder _) _ =>
      (db.disputes.findUnique disputeId).all fun dispute =>
        cancellationFrees .included dispute.orderId db
  | .market (.resolveDispute _ disputeId _ _) _ =>
      (db.disputes.findUnique disputeId).all fun dispute =>
        (dispute.previousOrderStatus.getD .confirmed).isRunning || mayStop db dispute.orderId
  | _ => true

/-! ## Movements of orders -/

theorem isHeld_of_beside {orderId : Id} {f : Order -> Order}
    (horders : db'.orders = db.orders.update orderId f) (hoffers : db'.offers = db.offers)
    (h : isHeldBeside db orderId i = true) :
    isHeld OfferStatus.isActive db' i = true := by
  unfold isHeldBeside at h
  rw [Bool.or_eq_true] at h
  rcases h with hleaf | hother
  · obtain ⟨j, o, ho, hlisting, hactive, hisleaf⟩ := hasLeaf_eq_true_iff.1 hleaf
    refine isHeld_of_leaf (by rw [hoffers]; exact ho) hlisting hactive ?_
    unfold isLeafOffer at hisleaf ⊢
    rwa [hoffers]
  · obtain ⟨k, order, horder, hrest⟩ := Table.any_eq_true_iff.1 hother
    simp only [Bool.and_eq_true, decide_eq_true_eq] at hrest
    refine isHeld_of_order (k := k) ?_ hrest.1.2 hrest.2
    rw [horders, Table.findUnique_update_ne hrest.1.1, horder]

theorem isHeld_of_sameTables (horders : db'.orders = db.orders) (hoffers : db'.offers = db.offers) :
    isHeld q db' i = isHeld q db i := by
  unfold isHeld hasLeaf hasRunningOrder isLeafOffer
  rw [horders, hoffers]

theorem hasRunningOrder_of_updateMany {p : Id -> Order -> Bool} {f : Order -> Order}
    (hlisting : forall order, (f order).listingId = order.listingId)
    (hrunning : forall k order, p k order = true -> (f order).status.isRunning = true)
    (horders : db'.orders = db.orders.updateMany p f) (h : hasRunningOrder db i = true) :
    hasRunningOrder db' i = true := by
  obtain ⟨k, order, horder, hof, hruns⟩ := hasRunningOrder_eq_true_iff.1 h
  by_cases hp : p k order = true
  · refine hasRunningOrder_eq_true_iff.2
      ⟨k, f order, ?_, (hlisting order).trans hof, hrunning k order hp⟩
    rw [horders, Table.findUnique_updateMany, horder, Option.map_some, if_pos hp]
  · refine hasRunningOrder_eq_true_iff.2 ⟨k, order, ?_, hof, hruns⟩
    rw [horders, Table.findUnique_updateMany, horder, Option.map_some, if_neg hp]

theorem rejectWaitingOffers_awayFrom (listingId : Id) (db : Db) :
    AwayFrom listingId db (rejectWaitingOffers listingId db) := by
  refine awayFrom_updateMany (by decide) ?_ rfl rfl rfl
  intro j o _ hp
  simp only [Offer.isWaitingOn, Bool.and_eq_true, decide_eq_true_eq] at hp
  exact hp.1

theorem takeListingQuantity_awayFrom (listingId : Id) (listing : Listing) (quantity : ℚ)
    (db : Db) :
    AwayFrom listingId db (takeListingQuantity listingId listing quantity db) := by
  have htaken : AwayFrom listingId db { db with
      listings := db.listings.update listingId fun l => l.take quantity } :=
    ⟨fun _ hi => Table.findUnique_update_ne hi, fun _ _ _ h => h⟩
  unfold takeListingQuantity
  split
  · exact htaken.trans (rejectWaitingOffers_awayFrom listingId _)
  · exact htaken

theorem GoodsTaken.awayFrom {order : Order} {committed : Bool} {listings : Table Listing}
    {offers : Table Offer} (h : GoodsTaken order db committed listings offers) :
    AwayFrom order.listingId db { db with
      listings := listings
      offers := offers } := by
  cases h with
  | untouched =>
      exact .refl _ _
  | taken listing =>
      have htaken := takeListingQuantity_awayFrom order.listingId listing order.quantity db
      obtain ⟨listings, offers, hframe⟩ :=
        takeListingQuantity_frame order.listingId listing order.quantity db
      rw [hframe] at htaken ⊢
      exact htaken

theorem StallMove.keeps (hmove : StallMove db db')
    (h : isLocked db i = true -> isHeld q db i = true) (hlocked : isLocked db' i = true) :
    isHeld q db' i = true := by
  cases hmove with
  | kept horders hlistings hoffers =>
      have hkept : ListingKept i db db' := .of_eq hlistings
      rw [hkept.isLocked] at hlocked
      rw [isHeld_of_sameTables horders hoffers]
      exact h hlocked
  | arranged orderId horders hlistings hoffers =>
      have hkept : ListingKept i db db' := .of_eq hlistings
      rw [hkept.isLocked] at hlocked
      refine isHeld_mono (.of_eq hoffers) ?_ ?_ (h hlocked)
      · intro j o o' ho ho' _ hq _
        rw [hoffers, ho] at ho'
        rwa [← Option.some.inj ho']
      · refine hasRunningOrder_of_updateMany ?_ ?_ horders
        · exact fun _ => rfl
        · exact fun _ _ _ => rfl
  | confirmed orderId order committed listings offers hfind _ htaken horders hlistings hoffers =>
      have hmoved : AwayFrom order.listingId db db' :=
        htaken.awayFrom.trans (updateOrder_awayFrom hfind horders hlistings hoffers)
      refine hmoved.keeps (fun _ => ?_) h hlocked
      -- The confirmed order runs.
      refine isHeld_of_order (k := orderId)
        (show _ = some (order.confirm committed) from ?_) rfl rfl
      rw [horders, Table.findUnique_update, if_pos rfl, hfind]
      rfl

theorem StallMoves.keeps (hmoves : StallMoves db db')
    (h : isLocked db i = true -> isHeld q db i = true) (hlocked : isLocked db' i = true) :
    isHeld q db' i = true := by
  induction hmoves with
  | refl =>
      exact h hlocked
  | tail _ hmove ih =>
      exact hmove.keeps ih hlocked

/-! ## The expiry job -/

theorem isHeldBesidePicks_eq_true_iff {picks : List (Id × Offer)} :
    isHeldBesidePicks picks db i = true ↔
      (exists pick, pick ∈ picks ∧ pick.2.status = .selected ∧ pick.2.listingId = i) ∨
        hasRunningOrder db i = true ∨
        exists j o, db.offers.findUnique j = some o ∧ j ∉ picks.map Prod.fst ∧
          o.listingId = i ∧ o.status.isActive = true ∧ isLeafOffer db j = true := by
  simp only [isHeldBesidePicks, Bool.or_eq_true, List.any_eq_true, Bool.and_eq_true,
    decide_eq_true_eq, Table.any_eq_true_iff, and_assoc, or_assoc]

theorem isHeld_of_noPicks (h : isHeldBesidePicks [] db i = true) :
    isHeld OfferStatus.isActive db i = true := by
  rcases isHeldBesidePicks_eq_true_iff.1 h with ⟨_, hpick, -⟩ | hrunning | hleaf
  · cases hpick
  · rw [isHeld, hrunning, Bool.or_true]
  · obtain ⟨j, o, ho, -, hlisting, hactive, hisleaf⟩ := hleaf
    exact isHeld_of_leaf ho hlisting hactive hisleaf

/-- What holds while some of the picks are still to be expired. -/
structure PicksHold (env : Env) (picks : List (Id × Offer)) (db : Db) : Prop where
  nodup : (picks.map Prod.fst).Nodup
  expired : forall pick, pick ∈ picks -> exists o, db.offers.findUnique pick.1 = some o ∧
    o.isExpired env = true
  selected : forall pick, pick ∈ picks -> pick.2.status = .selected ->
    db.offers.findUnique pick.1 = some pick.2
  parents : ParentsAnswered db.offers
  held : forall i, isLocked db i = true -> isHeldBesidePicks picks db i = true

theorem PicksHold.tail {pick : Id × Offer} {picks : List (Id × Offer)}
    (h : PicksHold env (pick :: picks) db) (hkept : OffersKept db db')
    (hrows : forall j o, db.offers.findUnique j = some o -> j ≠ pick.1 -> o.status ≠ .pending ->
      db'.offers.findUnique j = some o)
    (hheld : forall i, isLocked db' i = true -> isHeldBesidePicks picks db' i = true) :
    PicksHold env picks db' := by
  obtain ⟨hfresh, hnodup⟩ := List.nodup_cons.1 h.nodup
  refine ⟨hnodup, ?_, ?_, hkept.parentsAnswered h.parents, hheld⟩
  · intro other hother
    obtain ⟨o, ho, hexpired⟩ := h.expired other (List.mem_cons_of_mem pick hother)
    obtain ⟨o', ho', hsame⟩ := hkept.of_left ho
    refine ⟨o', ho', ?_⟩
    unfold Offer.isExpired at hexpired ⊢
    rwa [hsame.expiry]
  · intro other hother hselected
    have hrow := h.selected other (List.mem_cons_of_mem pick hother) hselected
    refine hrows other.1 other.2 hrow ?_ (by rw [hselected]; decide)
    intro hsame
    exact hfresh (List.mem_map.2 ⟨other, hother, hsame⟩)

theorem PicksHold.skip {pick : Id × Offer} {picks : List (Id × Offer)}
    (h : PicksHold env (pick :: picks) db)
    (hstale : (db.offers.findUnique pick.1).any (·.isOverdue env) = false) :
    PicksHold env picks db := by
  refine h.tail (.of_eq rfl) (fun _ _ ho _ _ => ho) fun i hlocked => ?_
  rcases isHeldBesidePicks_eq_true_iff.1 (h.held i hlocked) with hpicked | hrunning | hleaf
  · obtain ⟨other, hother, hselected, hlisting⟩ := hpicked
    rcases List.mem_cons.1 hother with rfl | hother
    · -- A selected pick is still as it was read.
      have hrow := h.selected other hother hselected
      obtain ⟨o, ho, hexpired⟩ := h.expired other hother
      obtain rfl : o = other.2 := Option.some.inj (ho.symm.trans hrow)
      simp [hrow, Offer.isOverdue, hselected, hexpired] at hstale
    · exact isHeldBesidePicks_eq_true_iff.2 (Or.inl ⟨other, hother, hselected, hlisting⟩)
  · exact isHeldBesidePicks_eq_true_iff.2 (Or.inr (Or.inl hrunning))
  · obtain ⟨j, o, ho, hnot, hrest⟩ := hleaf
    refine isHeldBesidePicks_eq_true_iff.2 (Or.inr (Or.inr ⟨j, o, ho, ?_, hrest⟩))
    exact fun hmem => hnot (List.mem_cons_of_mem pick.1 hmem)

/-- Rows of other listings and other picks still hold what they held. -/
theorem isHeldBesidePicks_tail {pick : Id × Offer} {picks : List (Id × Offer)}
    (hkept : OffersKept db db') (horders : db'.orders = db.orders)
    (hrows : forall j o, db.offers.findUnique j = some o -> j ≠ pick.1 -> o.listingId = i ->
      db'.offers.findUnique j = some o)
    (hpick : pick.2.status = .selected -> pick.2.listingId ≠ i)
    (h : isHeldBesidePicks (pick :: picks) db i = true) :
    isHeldBesidePicks picks db' i = true := by
  rw [isHeldBesidePicks_eq_true_iff] at h ⊢
  rcases h with hpicked | hrunning | hleaf
  · obtain ⟨other, hother, hselected, hlisting⟩ := hpicked
    rcases List.mem_cons.1 hother with rfl | hother
    · exact absurd hlisting (hpick hselected)
    · exact Or.inl ⟨other, hother, hselected, hlisting⟩
  · refine Or.inr (Or.inl ?_)
    unfold hasRunningOrder at hrunning ⊢
    rwa [horders]
  · obtain ⟨j, o, ho, hnot, hlisting, hactive, hisleaf⟩ := hleaf
    rw [List.map_cons, List.mem_cons, not_or] at hnot
    refine Or.inr (Or.inr ⟨j, o, hrows j o ho hnot.1 hlisting, hnot.2, hlisting, hactive, ?_⟩)
    rwa [hkept.isLeafOffer]

theorem expirePickedOffer_picksHold {pick : Id × Offer} {picks : List (Id × Offer)}
    (h : PicksHold env (pick :: picks) db) :
    PicksHold env picks (expirePickedOffer env db pick) := by
  unfold expirePickedOffer
  split
  case isFalse hstale =>
    exact h.skip (by simpa using hstale)
  case isTrue hoverdue =>
    have hexpired := setOfferStatus_offersKept pick.1 (s := .expired) (by decide) db
    have hothers : forall j o, db.offers.findUnique j = some o -> j ≠ pick.1 ->
        (setOfferStatus pick.1 .expired db).offers.findUnique j = some o :=
      fun j o ho hj => (Table.findUnique_update_ne hj).trans ho
    dsimp only
    split
    case isFalse hother =>
      refine h.tail hexpired (fun j o ho hj _ => hothers j o ho hj) fun i hlocked => ?_
      exact isHeldBesidePicks_tail hexpired rfl (fun j o ho hj _ => hothers j o ho hj)
        (fun hselected => absurd hselected hother) (h.held i hlocked)
    case isTrue hselected =>
      have hpromoted := promoteNextWaitingBuyer_promoted env pick.2.listingId
        (setOfferStatus pick.1 .expired db)
      generalize promoteNextWaitingBuyer env pick.2.listingId
        (setOfferStatus pick.1 .expired db) = db' at hpromoted ⊢
      have hkept := hexpired.trans hpromoted.offersKept
      refine h.tail hkept ?_ fun i hlocked => ?_
      · exact fun j o ho hj hstatus =>
          hpromoted.rowKept_offer (hothers j o ho hj) fun hpending => absurd hpending hstatus
      · by_cases hi : i = pick.2.listingId
        · subst hi
          obtain ⟨j, o, ho, hlisting, hstatus, hfresh, hisleaf⟩ :=
            hpromoted.held (hexpired.parentsAnswered h.parents) hlocked
          refine isHeldBesidePicks_eq_true_iff.2
            (Or.inr (Or.inr ⟨j, o, ho, ?_, hlisting, by rw [hstatus]; rfl, hisleaf⟩))
          -- The picks have expired, and the promoted bid has not.
          intro hmem
          obtain ⟨other, hother, rfl⟩ := List.mem_map.1 hmem
          obtain ⟨old, hold, hwasExpired⟩ := h.expired other (List.mem_cons_of_mem pick hother)
          obtain ⟨o', ho', hsame⟩ := hkept.of_left hold
          obtain rfl : o' = o := Option.some.inj (ho'.symm.trans ho)
          unfold Offer.isExpired at hwasExpired hfresh
          rw [hsame.expiry, hwasExpired] at hfresh
          cases hfresh
        · have hrow : ListingKept i (setOfferStatus pick.1 .expired db) db' := hpromoted.rowKept hi
          rw [hrow.isLocked] at hlocked
          refine isHeldBesidePicks_tail hkept hpromoted.orders ?_ (fun _ => Ne.symm hi)
            (h.held i hlocked)
          intro j o ho hj hlisting
          exact hpromoted.rowKept_offer (hothers j o ho hj) fun _ => hlisting.trans_ne hi

theorem expireOffers_listingsHeld (h : ListingsHeld db)
    (hfrees : forall pick, pick ∈ offersToExpire env db -> isLocked db pick.2.listingId = true ->
      isHeldBesidePicks (offersToExpire env db) db pick.2.listingId = true) :
    ListingsHeld (expireOffers env db) := by
  have hpicks : PicksHold env (offersToExpire env db) db := by
    refine ⟨?_, ?_, ?_, h.parents, ?_⟩
    · exact ((List.take_sublist _ _).map Prod.fst).nodup (Table.nodup_keys_findMany _ _)
    · intro pick hpick
      obtain ⟨hfind, hoverdue⟩ := Table.mem_findMany.1 (List.mem_of_mem_take hpick)
      simp only [Offer.isOverdue, Bool.and_eq_true] at hoverdue
      exact ⟨pick.2, hfind, hoverdue.2⟩
    · exact fun pick hpick _ => (Table.mem_findMany.1 (List.mem_of_mem_take hpick)).1
    · intro i hlocked
      have hholder := h.held i hlocked
      rw [isHeld, Bool.or_eq_true] at hholder
      rcases hholder with hleaf | hrunning
      · obtain ⟨j, o, ho, hlisting, hactive, hisleaf⟩ := hasLeaf_eq_true_iff.1 hleaf
        by_cases hmem : j ∈ (offersToExpire env db).map Prod.fst
        · obtain ⟨pick, hpick, rfl⟩ := List.mem_map.1 hmem
          have hrow := (Table.mem_findMany.1 (List.mem_of_mem_take hpick)).1
          obtain rfl : o = pick.2 := Option.some.inj (ho.symm.trans hrow)
          subst hlisting
          exact hfrees pick hpick hlocked
        · exact isHeldBesidePicks_eq_true_iff.2
            (Or.inr (Or.inr ⟨j, o, ho, hmem, hlisting, hactive, hisleaf⟩))
      · exact isHeldBesidePicks_eq_true_iff.2 (Or.inr (Or.inl hrunning))
  have hfold : forall picks w, PicksHold env picks w ->
      PicksHold env [] (picks.foldl (expirePickedOffer env) w) := by
    intro picks
    induction picks with
    | nil =>
        exact fun _ h => h
    | cons pick picks ih =>
        exact fun _ h => ih _ (expirePickedOffer_picksHold h)
  have hdone := hfold _ _ hpicks
  exact ⟨hdone.parents, fun i hlocked => isHeld_of_noPicks (hdone.held i hlocked)⟩

/-! ## Answers -/

theorem isHeld_create {row : Offer} (hoffers : db'.offers = db.offers.create row)
    (horders : db'.orders = db.orders)
    (hparent : forall parent o, row.parentOfferId = some parent ->
      db.offers.findUnique parent = some o -> o.listingId ≠ i)
    (h : isHeld q db i = true) :
    isHeld q db' i = true := by
  rw [isHeld, Bool.or_eq_true] at h
  rcases h with hleaf | hrunning
  · obtain ⟨j, o, ho, hlisting, hq, hisleaf⟩ := hasLeaf_eq_true_iff.1 hleaf
    have hrow : db'.offers.findUnique j = some o := by
      rw [hoffers]
      exact Table.findUnique_create_of_some ho
    refine isHeld_of_leaf hrow hlisting hq ?_
    unfold isLeafOffer at hisleaf ⊢
    rw [Bool.not_eq_true', Table.any_eq_false_iff] at hisleaf ⊢
    rw [hoffers]
    refine hisleaf.create ?_
    rw [decide_eq_false_iff_not]
    exact fun hof => hparent j o hof ho hlisting
  · rw [isHeld, Bool.or_eq_true]
    right
    unfold hasRunningOrder at hrunning ⊢
    rwa [horders]

theorem ParentsAnswered.create {row : Offer} (h : ParentsAnswered db.offers)
    (hparent : forall parent, row.parentOfferId = some parent ->
      exists o, db.offers.findUnique parent = some o ∧ o.status ≠ .pending) :
    ParentsAnswered (db.offers.create row) := by
  have hkeeps : forall parent,
      (exists o, db.offers.findUnique parent = some o ∧ o.status ≠ .pending) ->
      exists o, (db.offers.create row).findUnique parent = some o ∧ o.status ≠ .pending := by
    intro parent ⟨o, ho, hanswered⟩
    exact ⟨o, Table.findUnique_create_of_some ho, hanswered⟩
  refine Table.All.create (h.mono fun j child hchild parent hof => ?_) fun parent hof => ?_
  · exact hkeeps parent (hchild parent hof)
  · exact hkeeps parent (hparent parent hof)

theorem OfferMove.parentsAnswered {caller : OfferCaller} {id : Id} {o : Offer} {listing : Listing}
    (hmove : OfferMove env caller id o listing db db') (ho : db.offers.findUnique id = some o)
    (h : ParentsAnswered db.offers) :
    ParentsAnswered db'.offers := by
  cases hmove with
  | selected =>
      exact (setOfferStatus_offersKept id (by decide) db).parentsAnswered h
  | agreed =>
      exact (setOfferStatus_offersKept id (by decide) db).parentsAnswered h
  | countered party amount expiresAt =>
      have hkept := setOfferStatus_offersKept id (s := .countered) (by decide) db
      refine (hkept.parentsAnswered h).create fun parent hparent => ?_
      obtain rfl : id = parent := Option.some.inj hparent
      refine ⟨{ o with status := .countered }, ?_, nofun⟩
      unfold setOfferStatus
      rw [Table.findUnique_update, if_pos rfl, ho]
      rfl
  | closed status hclosed =>
      have hkept := setOfferStatus_offersKept id (s := status)
        (by rcases hclosed with rfl | rfl <;> decide) db
      unfold closeLeafOffer
      dsimp only
      split
      · exact hkept.parentsAnswered h
      · exact hkept.parentsAnswered h
  | confirmed quantity =>
      obtain ⟨events, hframe⟩ := orderedDb_frame env id o listing o.confirmedPrice quantity db
      rw [hframe]
      exact (setOfferStatus_offersKept id (by decide) db).parentsAnswered h

theorem isLocked_setListingStatus (listingId : Id) (db : Db) :
    isLocked (setListingStatus listingId .active db) listingId = false := by
  unfold isLocked setListingStatus
  rw [Table.findUnique_update, if_pos rfl]
  cases db.listings.findUnique listingId <;> rfl

theorem createOrder_awayFrom {order : Order} (horders : db'.orders = db.orders.create order)
    (hlistings : db'.listings = db.listings) (hoffers : db'.offers = db.offers) :
    AwayFrom listingId db db' := by
  refine awayFrom_orders (fun k row hrow _ => ?_) hlistings hoffers
  rw [horders]
  exact Table.findUnique_create_of_some hrow

theorem OfferMove.keeps {caller : OfferCaller} {id : Id} {o : Offer} {listing : Listing}
    (hmove : OfferMove env caller id o listing db db') (ho : db.offers.findUnique id = some o)
    (hleaf : isLeafOffer db id = true) (hparents : ParentsAnswered db.offers)
    (h : isLocked db i = true -> isHeld OfferStatus.isActive db i = true)
    (hlocked : isLocked db' i = true) :
    isHeld OfferStatus.isActive db' i = true := by
  have hwritten : forall s : OfferStatus,
      (setOfferStatus id s db).offers.findUnique id = some { o with status := s } := by
    intro s
    unfold setOfferStatus
    rw [Table.findUnique_update, if_pos rfl, ho]
    rfl
  have hstays : forall s : OfferStatus, isLeafOffer (setOfferStatus id s db) id = true :=
    fun s => (isLeafOffer_setOfferStatus id s db id).trans hleaf
  cases hmove with
  | selected =>
      have haway := @setOfferStatus_awayFrom _ id o .selected (by decide) ho
      exact haway.keeps (fun _ => isHeld_of_leaf (hwritten _) rfl rfl (hstays _)) h hlocked
  | agreed =>
      have haway := @setOfferStatus_awayFrom _ id o .provisional (by decide) ho
      exact haway.keeps (fun _ => isHeld_of_leaf (hwritten _) rfl rfl (hstays _)) h hlocked
  | countered party amount expiresAt =>
      have haway := @setOfferStatus_awayFrom _ id o .countered (by decide) ho
      have hcreated : AwayFrom o.listingId (setOfferStatus id .countered db)
          { setOfferStatus id .countered db with
            offers := (setOfferStatus id .countered db).offers.create
              (counterRow id o amount party expiresAt env.now) } := by
        refine ⟨fun _ _ => .of_eq rfl, fun k q hk => isHeld_create rfl rfl ?_⟩
        intro parent p hparent hp
        obtain rfl : id = parent := Option.some.inj hparent
        rw [hwritten] at hp
        rw [← Option.some.inj hp]
        exact Ne.symm hk
      refine (haway.trans hcreated).keeps (fun _ => ?_) h hlocked
      -- The counter is the new leaf.
      refine isHeld_of_leaf (j := (setOfferStatus id .countered db).offers.size)
        (o := counterRow id o amount party expiresAt env.now) (Table.findUnique_create_self _ _)
        rfl rfl ?_
      have hanswered := (setOfferStatus_offersKept id (s := .countered) (by decide)
        db).parentsAnswered hparents
      unfold isLeafOffer
      rw [Bool.not_eq_true', Table.any_eq_false_iff]
      refine Table.All.create (fun j child hchild => ?_) ?_
      · rw [decide_eq_false_iff_not]
        intro hof
        obtain ⟨parent, hp, -⟩ := hanswered j child hchild _ hof
        rw [Table.findUnique_size] at hp
        cases hp
      · rw [decide_eq_false_iff_not]
        intro hof
        have hlt := Table.lt_size_of_findUnique (hwritten .countered)
        exact absurd (Option.some.inj hof) (Nat.ne_of_lt hlt)
  | closed status hclosed =>
      have hs : status ≠ .pending := by
        rcases hclosed with rfl | rfl <;> decide
      have haway := @setOfferStatus_awayFrom _ id o status hs ho
      unfold closeLeafOffer at hlocked ⊢
      dsimp only at hlocked ⊢
      split at hlocked
      case isTrue hremaining =>
        rw [if_pos hremaining]
        refine haway.keeps (fun _ => ?_) h hlocked
        rw [isHeld, Bool.or_eq_true]
        left
        unfold hasLeaf
        exact hremaining
      case isFalse hnone =>
        rw [if_neg hnone]
        have hactive := setListingStatus_awayFrom o.listingId .active (setOfferStatus id status db)
        refine (haway.trans hactive).keeps (fun hself => ?_) h hlocked
        rw [isLocked_setListingStatus] at hself
        cases hself
  | confirmed quantity =>
      obtain ⟨events, hframe⟩ := orderedDb_frame env id o listing o.confirmedPrice quantity db
      rw [hframe] at hlocked ⊢
      have haway := @setOfferStatus_awayFrom _ id o .accepted (by decide) ho
      refine AwayFrom.keeps (haway.trans ?_) (fun _ => ?_) h hlocked
      · exact createOrder_awayFrom rfl rfl rfl
      · -- The new order runs.
        exact isHeld_of_order (Table.findUnique_create_self _ _) rfl rfl

/-! ## Orders -/

/-- An order that keeps running, or one beside which something holds its listing. -/
theorem heldWhileLocked_updateOrder {orderId : Id} {order : Order} {f : Order -> Order}
    (horder : db.orders.findUnique orderId = some order)
    (horders : db'.orders = db.orders.update orderId f)
    (hlistings : db'.listings = db.listings) (hoffers : db'.offers = db.offers)
    (hf : (f order).listingId = order.listingId)
    (hfrees : (f order).status.isRunning = true ∨ mayStop db orderId = true)
    (h : HeldWhileLocked db) :
    HeldWhileLocked db' := by
  intro i hlocked
  have haway : AwayFrom order.listingId db db' :=
    updateOrder_awayFrom horder horders hlistings hoffers
  refine haway.keeps (fun hself => ?_) (h i) hlocked
  rcases hfrees with hrunning | hstop
  · refine isHeld_of_order (k := orderId) (show _ = some (f order) from ?_) hf hrunning
    rw [horders, Table.findUnique_update, if_pos rfl, horder]
    rfl
  · have hkept : ListingKept order.listingId db db' := .of_eq hlistings
    rw [hkept.isLocked] at hself
    simp only [mayStop, horder, Option.all_some, hself, Bool.not_true, Bool.false_or] at hstop
    exact isHeld_of_beside horders hoffers hstop

theorem releaseWinner_offersKept (record : OrderRecord) (db : Db) :
    OffersKept db (releaseWinner env record db) := by
  unfold releaseWinner
  split
  · have hwithdrawn : OffersKept db { db with
        offers := db.offers.updateMany
          (fun i o => some i = record.agreedOfferId && o.status = .accepted)
          ({ · with status := .withdrawn }) } :=
      offersKept_updateMany (by decide) rfl
    exact hwithdrawn.trans (promoteNextWaitingBuyer_promoted env record.listingId _).offersKept
  · exact .of_eq rfl

theorem releaseWinner_rowKept_offer {record : OrderRecord} {j : Id} {o : Offer}
    (ho : db.offers.findUnique j = some o) (hactive : o.status.isActive = true)
    (hother : o.listingId ≠ record.listingId) :
    (releaseWinner env record db).offers.findUnique j = some o := by
  unfold releaseWinner
  split
  · refine (promoteNextWaitingBuyer_promoted env record.listingId _).rowKept_offer ?_
      fun _ => hother
    rw [Table.findUnique_updateMany, ho, Option.map_some, if_neg]
    simp only [Bool.and_eq_true, decide_eq_true_eq, not_and]
    intro _ haccepted
    rw [haccepted] at hactive
    cases hactive
  · exact ho

theorem returned_locked {record : OrderRecord} {l : Listing}
    (hpending : record.status ≠ .pendingPayment)
    (hlocked : (record.returned db l).status = .underNegotiation) :
    (record.givesBack db && hasActiveOffers db record.listingId) = true := by
  unfold OrderRecord.returned at hlocked
  split at hlocked
  case isTrue hgives =>
    rw [hgives, Bool.true_and]
    unfold Listing.giveBack at hlocked
    dsimp only at hlocked
    split at hlocked
    · cases hlocked
    · split at hlocked
      · assumption
      · cases hlocked
  case isFalse =>
    cases hlocked

theorem StallCancelled.offersKept {record : OrderRecord} (h : StallCancelled env record db db') :
    OffersKept db db' := by
  have hkept : OffersKept _ (releaseWinner env record { db with
      listings := db.listings.update record.listingId (record.returned db) }) :=
    releaseWinner_offersKept record _
  unfold OffersKept at hkept ⊢
  rwa [h.offers]

theorem StallCancelled.heldWhileLocked {load : OrderLoad} {orderId : Id} {record : OrderRecord}
    (hload : loadOrder load db orderId = some record) (h : StallCancelled env record db db')
    (hfrees : cancellationFrees load orderId db = true) (hparents : ParentsAnswered db.offers)
    (hheld : HeldWhileLocked db) :
    HeldWhileLocked db' := by
  intro i hlocked
  obtain ⟨order, hloaded⟩ := loadOrder_eq_some hload
  have horders := h.cancelled.orders
  rw [hloaded.id] at horders
  by_cases hi : i = record.listingId
  · subst hi
    simp only [cancellationFrees, hload, Option.all_some, Bool.or_eq_true, decide_eq_true_eq,
      Bool.not_eq_true'] at hfrees
    by_cases hpending : record.status = .pendingPayment
    · -- The next waiting buyer is promoted, or the listing is active.
      have hoffers := h.offers
      have hlistings := h.listings
      unfold releaseWinner at hoffers hlistings
      rw [if_pos hpending] at hoffers hlistings
      have hpromoted := promoteNextWaitingBuyer_promoted env record.listingId { db with
        listings := db.listings.update record.listingId (record.returned db)
        offers := db.offers.updateMany
          (fun i o => some i = record.agreedOfferId && o.status = .accepted)
          ({ · with status := .withdrawn }) }
      have hwithdrawn : OffersKept db { db with
          listings := db.listings.update record.listingId (record.returned db)
          offers := db.offers.updateMany
            (fun i o => some i = record.agreedOfferId && o.status = .accepted)
            ({ · with status := .withdrawn }) } :=
        offersKept_updateMany (by decide) rfl
      obtain ⟨j, o, ho, hlisting, hstatus, -, hisleaf⟩ :=
        hpromoted.held (hwithdrawn.parentsAnswered hparents) (by
          unfold isLocked at hlocked ⊢
          rwa [← hlistings])
      refine isHeld_of_leaf (j := j) (o := o) ?_ hlisting (by rw [hstatus]; rfl) ?_
      · rw [hoffers]
        exact ho
      · unfold isLeafOffer at hisleaf ⊢
        rwa [hoffers]
    · have hlistings := h.listings
      have hoffers := h.offers
      unfold releaseWinner at hlistings hoffers
      rw [if_neg hpending] at hlistings hoffers
      have hbeside : isHeldBeside db orderId record.listingId = true := by
        rcases hfrees with (hstatus | hnone) | hbeside
        · exact absurd hstatus hpending
        · exfalso
          unfold isLocked at hlocked
          rw [hlistings, Table.findUnique_update, if_pos rfl] at hlocked
          cases hl : db.listings.findUnique record.listingId with
          | none =>
              simp [hl] at hlocked
          | some l =>
              rw [hl] at hlocked
              rw [returned_locked hpending (of_decide_eq_true hlocked)] at hnone
              cases hnone
        · exact hbeside
      exact isHeld_of_beside horders hoffers hbeside
  · have hrow : ListingKept i db db' := h.rowKept hi
    rw [hrow.isLocked] at hlocked
    refine isHeld_mono h.offersKept ?_ (fun hrunning => ?_) (hheld i hlocked)
    · intro j o o' ho ho' hlisting hactive _
      have hsame : (releaseWinner env record { db with
          listings := db.listings.update record.listingId (record.returned db) }).offers.findUnique j =
            some o :=
        releaseWinner_rowKept_offer ho hactive (hlisting.trans_ne hi)
      rw [h.offers, hsame] at ho'
      rwa [← Option.some.inj ho']
    · obtain ⟨k, other, hother, hlisting, hruns⟩ := hasRunningOrder_eq_true_iff.1 hrunning
      refine hasRunningOrder_eq_true_iff.2 ⟨k, other, ?_, hlisting, hruns⟩
      have hk : k ≠ orderId := by
        rintro rfl
        rw [hloaded.found] at hother
        rw [← Option.some.inj hother] at hlisting
        exact hi (hlisting.symm.trans hloaded.listingId.symm)
      rw [horders, Table.findUnique_update_ne hk, hother]

/-! ## Settlements -/

theorem isHeld_weaken {q' : OfferStatus -> Bool} (hq : forall s, q s = true -> q' s = true)
    (h : isHeld q db i = true) :
    isHeld q' db i = true := by
  rw [isHeld, Bool.or_eq_true] at h ⊢
  refine h.imp_left fun hleaf => ?_
  obtain ⟨j, o, ho, hlisting, hstatus, hisleaf⟩ := hasLeaf_eq_true_iff.1 hleaf
  exact hasLeaf_eq_true_iff.2 ⟨j, o, ho, hlisting, hq _ hstatus, hisleaf⟩

theorem isActive_of_isLive {s : OfferStatus} (h : s.isLive = true) : s.isActive = true := by
  rw [OfferStatus.isActive, h, Bool.or_true]

theorem GoodsTaken.offersKept {order : Order} {committed : Bool} {listings : Table Listing}
    {offers : Table Offer} (h : GoodsTaken order db committed listings offers)
    (hoffers : db'.offers = offers) :
    OffersKept db db' := by
  cases h with
  | untouched =>
      exact .of_eq hoffers
  | taken listing =>
      unfold takeListingQuantity at hoffers
      dsimp only at hoffers
      split at hoffers
      · exact offersKept_updateMany (by decide) hoffers
      · exact .of_eq hoffers

theorem StallMove.offersKept (hmove : StallMove db db') : OffersKept db db' := by
  cases hmove with
  | kept _ _ hoffers => exact .of_eq hoffers
  | arranged _ _ _ hoffers => exact .of_eq hoffers
  | confirmed _ _ _ _ _ _ _ htaken _ _ hoffers => exact htaken.offersKept hoffers

theorem StallMoves.offersKept (hmoves : StallMoves db db') : OffersKept db db' := by
  induction hmoves with
  | refl => exact .of_eq rfl
  | tail _ hmove ih => exact ih.trans hmove.offersKept

theorem StallMove.completed (hmove : StallMove db db') {k : Id} {order : Order}
    (horder : db'.orders.findUnique k = some order) (hcompleted : order.status = .completed) :
    db.orders.findUnique k = some order := by
  cases hmove with
  | kept horders =>
      rwa [horders] at horder
  | confirmed orderId confirmed committed _ _ hfind _ _ horders =>
      rw [horders] at horder
      rcases Table.of_findUnique_update horder with ⟨-, before, -, rfl⟩ | ⟨-, horder⟩
      · cases hcompleted
      · exact horder
  | arranged orderId horders =>
      rw [horders, Table.findUnique_updateMany] at horder
      obtain ⟨before, hbefore, rfl⟩ := Option.map_eq_some_iff.1 horder
      split at hcompleted
      · cases hcompleted
      · rename_i hother
        rw [if_neg hother]
        exact hbefore

theorem StallMoves.completed (hmoves : StallMoves db db') {k : Id} {order : Order}
    (horder : db'.orders.findUnique k = some order) (hcompleted : order.status = .completed) :
    db.orders.findUnique k = some order := by
  induction hmoves with
  | refl => exact horder
  | tail _ hmove ih => exact ih (hmove.completed horder hcompleted)

theorem releaseWaitingBidders_awayFrom (listingId : Id) (db : Db) :
    AwayFrom listingId db (releaseWaitingBidders listingId db) := by
  refine awayFrom_updateMany (by decide) ?_ rfl rfl rfl
  intro j o _ hp
  simp only [isWaitingOffer, Bool.and_eq_true, decide_eq_true_eq] at hp
  exact hp.1.1

theorem releaseWaitingBidders_held (h : isHeld OfferStatus.isLive db i = true) :
    isHeld OfferStatus.isActive (releaseWaitingBidders listingId db) i = true := by
  have hkept : OffersKept db (releaseWaitingBidders listingId db) :=
    offersKept_updateMany (by decide) rfl
  refine isHeld_weaken (fun _ => isActive_of_isLive) (isHeld_mono hkept ?_ (fun h => h) h)
  intro j o o' ho ho' _ hlive _
  change (db.offers.updateMany (isWaitingOffer db listingId) _).findUnique j = some o' at ho'
  rw [Table.findUnique_updateMany, ho, Option.map_some, Option.some.injEq] at ho'
  rw [← ho', if_neg]
  · exact hlive
  · simp only [isWaitingOffer, Bool.and_eq_true, decide_eq_true_eq]
    intro hwaiting
    rw [hwaiting.1.2] at hlive
    cases hlive

theorem settlePayment_heldWhileLocked {args : SettleArgs}
    (h : settlePayment env args db = .ok db')
    (hfrees : (settledPayments db args).all (settlementFrees db) = true)
    (hheld : HeldWhileLocked db) :
    HeldWhileLocked db' := by
  obtain ⟨planned, paymentId, hsettled, hmem, rfl⟩ := settlePayment_stall h
  have hplanned : HeldWhileLocked planned := fun i => hsettled.moves.keeps (hheld i)
  unfold releaseBiddersAfter
  split
  · exact hplanned
  · rename_i order horder
    obtain ⟨p, orderId, hp, htype, hof, hfind, hstatus⟩ := orderToRelease_eq_some horder
    intro i hlocked
    refine (releaseWaitingBidders_awayFrom order.listingId planned).keeps (fun hself => ?_)
      (hplanned i) hlocked
    by_cases hcompleted : order.status = .completed
    · -- The order was completed before, so the condition speaks of it.
      have hbefore := hsettled.moves.completed hfind hcompleted
      obtain ⟨p₀, hp₀, hcore⟩ := hsettled.core.of_right hp
      have hpayment := List.all_eq_true.1 hfrees paymentId hmem
      have htype₀ : p₀.type = .marketplace := (Payment.core_type hcore).symm.trans htype
      have hof₀ : p₀.orderId = some orderId := (Payment.core_orderId hcore).symm.trans hof
      simp only [settlementFrees, hp₀, Option.all_some, htype₀, hof₀, related_some, hbefore,
        hcompleted, ne_eq, not_true_eq_false, decide_false, Bool.false_or, Bool.or_eq_true,
        Bool.not_eq_true'] at hpayment
      apply releaseWaitingBidders_held
      refine hsettled.moves.keeps (fun hlocked₀ => ?_) hself
      rcases hpayment with hfree | hlive
      · rw [hfree] at hlocked₀
        cases hlocked₀
      · exact hlive
    · refine isHeld_of_order (k := orderId) hfind rfl ?_
      unfold OrderStatus.isRunning
      simp only [List.mem_cons, List.not_mem_nil, or_false, not_or, decide_eq_true_eq] at hstatus ⊢
      exact ⟨hstatus.2, hcompleted⟩

theorem settlePayment_offersKept {args : SettleArgs} (h : settlePayment env args db = .ok db') :
    OffersKept db db' := by
  obtain ⟨planned, paymentId, hsettled, -, rfl⟩ := settlePayment_stall h
  refine hsettled.moves.offersKept.trans ?_
  unfold releaseBiddersAfter
  split
  · exact .of_eq rfl
  · exact offersKept_updateMany (by decide) rfl

/-! ## Steps -/

/-- A listing under negotiation has a buyer, or the seller can select a waiting bid. -/
def NeverLeftLocked (db : Db) : Prop :=
  forall i, isLocked db i = true -> isHeld OfferStatus.isLive db i = true ∨
    (activeNegotiation db i = none ∧ hasRunningOrder db i = false ∧
      hasLeaf (fun s => s = .pending) db i = true)

theorem ListingsHeld.neverLeftLocked (h : ListingsHeld db) : NeverLeftLocked db := by
  intro i hlocked
  by_cases hlive : isHeld OfferStatus.isLive db i = true
  · exact Or.inl hlive
  · right
    rw [isHeld, Bool.or_eq_true, not_or, Bool.not_eq_true, Bool.not_eq_true] at hlive
    have hholder := h.held i hlocked
    rw [isHeld, hlive.2, Bool.or_false] at hholder
    obtain ⟨j, o, ho, hlisting, hactive, hisleaf⟩ := hasLeaf_eq_true_iff.1 hholder
    have hnone : forall k other, db.offers.findUnique k = some other ->
        (other.listingId = i && other.status.isLive && isLeafOffer db k) = false :=
      Table.any_eq_false_iff.1 hlive.1
    refine ⟨Table.findFirst_eq_none_iff.2 hnone, hlive.2,
      hasLeaf_eq_true_iff.2 ⟨j, o, ho, hlisting, ?_, hisleaf⟩⟩
    have hother := hnone j o ho
    rw [hisleaf, Bool.and_true, decide_eq_true hlisting, Bool.true_and] at hother
    rw [OfferStatus.isActive, hother, Bool.or_false] at hactive
    exact hactive

theorem ListingsHeld.of_locked (h : ListingsHeld db) (horders : db'.orders = db.orders)
    (hoffers : db'.offers = db.offers)
    (hlocked : forall i, isLocked db' i = true -> isLocked db i = true) :
    ListingsHeld db' := by
  refine ⟨by rw [hoffers]; exact h.parents, fun i hi => ?_⟩
  rw [isHeld_of_sameTables horders hoffers]
  exact h.held i (hlocked i hi)

theorem ListingsHeld.createListing {listing : Listing} (h : ListingsHeld db)
    (hstatus : listing.status ≠ .underNegotiation) :
    ListingsHeld { db with listings := db.listings.create listing } := by
  refine h.of_locked rfl rfl fun i hlocked => ?_
  unfold isLocked at hlocked ⊢
  rw [Table.findUnique_create] at hlocked
  split at hlocked
  · exact absurd (of_decide_eq_true hlocked) hstatus
  · exact hlocked

theorem isLocked_of_updateMany {p : Id -> Listing -> Bool} {s : ListingStatus}
    (hs : s ≠ .underNegotiation)
    (hlistings : db'.listings = db.listings.updateMany p ({ · with status := s }))
    (hlocked : isLocked db' i = true) :
    isLocked db i = true := by
  unfold isLocked at hlocked ⊢
  rw [hlistings, Table.findUnique_updateMany] at hlocked
  cases hl : db.listings.findUnique i with
  | none =>
      simp [hl] at hlocked
  | some l =>
      rw [hl, Option.map_some, Option.any_some] at hlocked
      split at hlocked
      · exact absurd (of_decide_eq_true hlocked) hs
      · exact hlocked

theorem expireListings_listingsHeld (env : Env) (h : ListingsHeld db) :
    ListingsHeld (expireListings env db) := by
  unfold expireListings
  generalize listingsToExpire env db = picks
  induction picks generalizing db with
  | nil =>
      exact h
  | cons pick picks ih =>
      exact ih (h.of_locked rfl rfl fun i => isLocked_of_updateMany (by decide) rfl)

theorem ListingsHeld.recovered {order : Order} (h : ListingsHeld db)
    (horders : db'.orders = db.orders)
    (hlistings : db'.listings = db.listings.update order.listingId ({ · with status := .active }))
    (hoffers : db'.offers = db.offers.updateMany
      (fun _ o => o.listingId = order.listingId && o.status.isActive)
      ({ · with status := .expired })) :
    ListingsHeld db' := by
  refine ⟨(offersKept_updateMany (by decide) hoffers).parentsAnswered h.parents, fun i hi => ?_⟩
  have hexpired : AwayFrom order.listingId db { db' with listings := db.listings } := by
    refine awayFrom_updateMany (by decide) ?_ hoffers rfl horders
    intro j o _ hp
    simp only [Bool.and_eq_true, decide_eq_true_eq] at hp
    exact hp.1
  have haway : AwayFrom order.listingId db db' := by
    refine hexpired.trans ⟨fun k hk => ?_, fun _ _ _ hheld => hheld⟩
    unfold ListingKept
    rw [hlistings]
    exact Table.findUnique_update_ne hk
  refine haway.keeps (fun hself => ?_) (h.held i) hi
  have hactive : isLocked db' order.listingId = false := by
    have hset := isLocked_setListingStatus order.listingId db
    unfold isLocked setListingStatus at hset
    unfold isLocked
    rwa [hlistings]
  rw [hactive] at hself
  cases hself

theorem ListingsHeld.createBid {row : Offer} (h : ListingsHeld db)
    (hroot : row.parentOfferId = none) :
    ListingsHeld { db with offers := db.offers.create row } := by
  have hnone : forall {P : Prop} parent, row.parentOfferId = some parent -> P := by
    intro P parent hparent
    rw [hroot] at hparent
    cases hparent
  refine ⟨h.parents.create fun parent => hnone parent, fun i hlocked => ?_⟩
  exact isHeld_create rfl rfl (fun parent _ hparent => hnone parent hparent) (h.held i hlocked)

theorem ListingsHeld.expired {offerId : Id} {o : Offer} (h : ListingsHeld db)
    (hoffer : db.offers.findUnique offerId = some o)
    (hfrees : isLocked db o.listingId = true -> isLastBid db offerId o = true ->
      hasRunningOrder db o.listingId = true) :
    ListingsHeld (setOfferStatus offerId .expired db) := by
  have hkept := setOfferStatus_offersKept offerId (s := .expired) (by decide) db
  refine ⟨hkept.parentsAnswered h.parents, fun i hi => ?_⟩
  have haway := @setOfferStatus_awayFrom _ offerId o .expired (by decide) hoffer
  refine haway.keeps (fun hself => ?_) (h.held i) hi
  by_cases hlast : isLastBid db offerId o = true
  · have hrunning := hfrees hself hlast
    rw [isHeld, Bool.or_eq_true]
    exact Or.inr hrunning
  · simp only [isLastBid, Bool.not_eq_true', Bool.not_eq_false, Table.any_eq_true_iff,
      Bool.and_eq_true, decide_eq_true_eq] at hlast
    obtain ⟨j, other, hother, ⟨⟨hne, hlisting⟩, hactive⟩, hisleaf⟩ := hlast
    refine isHeld_of_leaf ((Table.findUnique_update_ne hne).trans hother) hlisting hactive ?_
    rwa [hkept.isLeafOffer]

theorem ListingStep.listingsHeld_step (a : Env × ListingStep) (hfrees : frees db a = true)
    (h : ListingsHeld db) :
    ListingsHeld (step db a) := by
  obtain ⟨env, a⟩ := a
  have heffect := ListingStep.stallEffect env db a
  generalize step db (env, a) = db' at heffect ⊢
  cases heffect with
  | kept _ _ hkept =>
      refine h.of_locked hkept.orders hkept.offers fun i hlocked => ?_
      have hrow : ListingKept i db db' := .of_eq hkept.listings
      rwa [hrow.isLocked] at hlocked
  | created listing draft =>
      exact h.createListing (by cases draft <;> simp)
  | closed caller listingId =>
      exact h.of_locked rfl rfl fun i => isLocked_of_updateMany (by decide) rfl
  | windowsEnded =>
      exact expireListings_listingsHeld env h
  | recovered adminId requestId request order _ _ _ _ horders hlistings hoffers =>
      exact h.recovered horders hlistings hoffers
  | bid =>
      exact h.createBid rfl
  | answered caller updatedAt offerId action _ _ hanswer =>
      cases hanswer with
      | refused =>
          exact h
      | expired o hoffer hexpired =>
          simp only [frees, hoffer, Option.all_some, hexpired, Bool.not_true, Bool.false_or,
            Bool.or_eq_true, Bool.not_eq_true'] at hfrees
          refine h.expired hoffer fun hlocked hlast => ?_
          simpa [hlocked, hlast] using hfrees
      | moved o listing _ hoffer _ _ hleaf hmove =>
          exact ⟨hmove.parentsAnswered hoffer h.parents,
            fun i => hmove.keeps hoffer hleaf h.parents (h.held i)⟩
  | offersExpired =>
      simp only [frees, List.all_eq_true, Bool.or_eq_true, Bool.not_eq_true'] at hfrees
      refine expireOffers_listingsHeld h fun pick hpick hlocked => ?_
      simpa [hlocked] using hfrees pick hpick
  | settled args _ _ hsettle =>
      exact ⟨(settlePayment_offersKept hsettle).parentsAnswered h.parents,
        settlePayment_heldWhileLocked hsettle hfrees h.held⟩
  | shipped orderId leg _ order hfind =>
      refine ⟨h.parents, heldWhileLocked_updateOrder hfind rfl rfl rfl rfl (Or.inl ?_) h.held⟩
      cases leg <;> rfl
  | received userId orderId _ order _ hfind horders hlistings hoffers =>
      refine ⟨by rw [hoffers]; exact h.parents, ?_⟩
      exact heldWhileLocked_updateOrder hfind horders hlistings hoffers rfl (Or.inr hfrees) h.held
  | raised userId request _ order _ hfind _ horders hlistings hoffers =>
      refine ⟨by rw [hoffers]; exact h.parents, ?_⟩
      exact heldWhileLocked_updateOrder hfind horders hlistings hoffers rfl (Or.inl rfl) h.held
  | cancelled load orderId actorId reason role _ record _ hload hcancelled =>
      exact ⟨hcancelled.offersKept.parentsAnswered h.parents,
        hcancelled.heldWhileLocked hload hfrees h.parents h.held⟩
  | resolvedByCancelling adminId disputeId resolution _ dispute record cancelled hdispute hload
      hcancelled =>
      simp only [frees, hdispute, Option.all_some] at hfrees
      have hheld : ListingsHeld cancelled :=
        ⟨hcancelled.offersKept.parentsAnswered h.parents,
          hcancelled.heldWhileLocked hload hfrees h.parents h.held⟩
      exact hheld.of_locked rfl rfl fun _ hlocked => hlocked
  | resolvedByRestoring adminId disputeId resolutionType resolution _ dispute restored db' hkeeps
      hresolvable horders hlistings hoffers hreplayed =>
      obtain ⟨order, horder, -⟩ := hresolvable.disputed
      have hstops : (dispute.previousOrderStatus.getD .confirmed).isRunning = true ∨
          mayStop db dispute.orderId = true := by
        cases resolutionType with
        | cancelOrder => exact absurd rfl hkeeps
        | dismissed => simpa [frees, hresolvable.found] using hfrees
        | cancelService => simpa [frees, hresolvable.found] using hfrees
      have hrestored : HeldWhileLocked restored :=
        heldWhileLocked_updateOrder horder horders hlistings hoffers rfl hstops h.held
      have hheld : ListingsHeld db' := by
        refine ⟨hreplayed.offersKept.parentsAnswered (by rw [hoffers]; exact h.parents), ?_⟩
        exact fun i => hreplayed.keeps (hrestored i)
      exact hheld.of_locked rfl rfl fun _ hlocked => hlocked

/-- A step that is refused, or one that frees the listings it takes the last holder from. -/
def ListingStep.freesOrRefused (db : Db) (a : Env × ListingStep) : Prop :=
  step db a = db ∨ frees db a = true

instance (db : Db) (a : Env × ListingStep) : Decidable (ListingStep.freesOrRefused db a) :=
  inferInstanceAs (Decidable (_ ∨ _))

theorem neverLeftLocked_of_run {as : List (Env × ListingStep)} (h : ListingsHeld db)
    (hrun : RunMeets ListingStep.step ListingStep.freesOrRefused db as) :
    NeverLeftLocked (run ListingStep.step db as) := by
  have hstep : forall s a, ListingsHeld s -> ListingStep.freesOrRefused s a ->
      ListingsHeld (ListingStep.step s a) := by
    intro s a hs ha
    rcases ha with hrefused | hfrees
    · rwa [hrefused]
    · exact ListingStep.listingsHeld_step a hfrees hs
  exact (run_invariant hstep h hrun).neverLeftLocked

/-! ## Runs -/

def answerStep (callerId offerId : Id) (action : OfferAction) : ListingStep :=
  .market (.respondToOffer { id := callerId } 0 offerId action) rfl

def bidStep (buyerId : Id) : ListingStep :=
  .market (.createOffer buyerId 0 (some (.finite 2)) (some (.finite 6))) rfl

def pens : Listing :=
  { sellerId := 1
    category := .product
    quantity := 10
    availableQuantity := 10
    askingPrice := 2 }

/--
Three buyers bid, and the first gets an order.  It is cancelled, so the second is
selected, and he rejects.
-/
def secondRejects : List (Env × ListingStep) :=
  [(env0, .createListing pens false),
    (env0, bidStep 2), (env0, bidStep 3), (env0, bidStep 4),
    (env0, answerStep 1 0 .select), (env0, answerStep 2 0 .acceptSelected),
    (env0, answerStep 1 0 .confirmProvisional), (env0, cancelStep 0 .buyer),
    (env0, answerStep 3 1 .reject)]

theorem listingsHeld_empty : ListingsHeld {} :=
  ⟨fun _ _ h => by simp at h, fun i h => by simp [isLocked] at h⟩

theorem secondRejects_neverLeftLocked :
    NeverLeftLocked (run ListingStep.step {} secondRejects) ∧
      isLocked (run ListingStep.step {} secondRejects) 0 = true :=
  ⟨neverLeftLocked_of_run listingsHeld_empty (by decide +kernel), by decide +kernel⟩

/-- The listing is locked with a bid that merely waits. -/
theorem locked_by_waiting_bid :
    isLocked (run ListingStep.step {} secondRejects) 0 = true ∧
      isHeld OfferStatus.isLive (run ListingStep.step {} secondRejects) 0 = false := by
  decide +kernel

end MarketBridge
