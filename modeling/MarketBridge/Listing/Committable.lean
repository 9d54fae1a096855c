import MarketBridge.Listing.HeldRuns

/-!
# A deal can be committed

An order that has been made from an offer reserves nothing: only the status of its
listing and the running order itself keep others away from the goods.  What no
other step respects is the end of the pickup window.
-/

namespace MarketBridge

open Relational

variable {env : Env} {db db' db'' : Db} {i listingId orderId : Id} {l : Listing} {order : Order}

/-! ## Orders along a step -/

/-- The order is still about the same goods; it does not start to run again, and it keeps them. -/
structure OrderMoved (_ : Id) (o o' : Order) : Prop where
  listing : o'.listingId = o.listingId
  quantity : o'.quantity = o.quantity
  stopped : o.status.isRunning = false -> o'.status.isRunning = false
  committed : o.goodsCommitted = true -> o'.goodsCommitted = true ∨ o'.status.isRunning = false

theorem OrderMoved.refl (k : Id) (o : Order) : OrderMoved k o o :=
  ⟨rfl, rfl, fun h => h, Or.inl⟩

theorem OrderMoved.trans {k : Id} {o o' o'' : Order} (h : OrderMoved k o o')
    (h' : OrderMoved k o' o'') :
    OrderMoved k o o'' := by
  refine ⟨h'.listing.trans h.listing, h'.quantity.trans h.quantity,
    fun hs => h'.stopped (h.stopped hs), fun hc => ?_⟩
  rcases h.committed hc with hcommitted | hstopped
  · exact h'.committed hcommitted
  · exact Or.inr (h'.stopped hstopped)

abbrev OrdersMoved (db db' : Db) : Prop :=
  db.orders.Rel OrderMoved db'.orders

theorem OrdersMoved.of_eq (h : db'.orders = db.orders) : OrdersMoved db db' := by
  unfold OrdersMoved
  rw [h]
  exact .refl OrderMoved.refl _

theorem OrdersMoved.trans (h : OrdersMoved db db') (h' : OrdersMoved db' db'') :
    OrdersMoved db db'' :=
  Table.Rel.trans (fun _ _ _ _ => OrderMoved.trans) h h'

/-- A running order gets another status and keeps its goods. -/
theorem ordersMoved_update {f : Order -> Order}
    (horders : db'.orders = db.orders.update orderId f)
    (hfind : db.orders.findUnique orderId = some order) (hrunning : order.status.isRunning = true)
    (hlisting : forall o, (f o).listingId = o.listingId)
    (hquantity : forall o, (f o).quantity = o.quantity)
    (hcommitted : forall o, o.goodsCommitted = true ->
      (f o).goodsCommitted = true ∨ (f o).status.isRunning = false) :
    OrdersMoved db db' := by
  unfold OrdersMoved
  rw [horders]
  refine Table.rel_update OrderMoved.refl fun o ho => ?_
  obtain rfl : order = o := Option.some.inj (hfind.symm.trans ho)
  refine ⟨hlisting order, hquantity order, fun hstopped => ?_, hcommitted order⟩
  rw [hrunning] at hstopped
  cases hstopped

theorem StallMove.ordersMoved (hmove : StallMove db db') : OrdersMoved db db' := by
  cases hmove with
  | kept horders =>
      exact .of_eq horders
  | confirmed orderId order committed _ _ hfind hpending _ horders =>
      refine ordersMoved_update horders hfind (by rw [hpending]; rfl) (fun _ => rfl)
        (fun _ => rfl) fun o ho => ?_
      exact Or.inl (by simp [Order.confirm, ho])
  | arranged orderId horders =>
      unfold OrdersMoved
      rw [horders]
      refine Table.rel_updateMany OrderMoved.refl fun k o _ hp =>
        ⟨rfl, rfl, fun hstopped => ?_, Or.inl⟩
      simp only [Bool.and_eq_true, decide_eq_true_eq] at hp
      rw [hp.2] at hstopped
      cases hstopped

theorem StallMoves.ordersMoved (hmoves : StallMoves db db') : OrdersMoved db db' := by
  induction hmoves with
  | refl => exact .of_eq rfl
  | tail _ hmove ih => exact ih.trans hmove.ordersMoved

/-! ## Listings along a step -/

def StaysOpen (i : Id) (db db' : Db) : Prop :=
  forall l, db.listings.findUnique i = some l ->
    exists l', db'.listings.findUnique i = some l' ∧ l'.category = l.category ∧
      l'.availableQuantity = l.availableQuantity ∧ (l.status.isOpen = true -> l'.status.isOpen = true)

theorem StaysOpen.of_kept (h : ListingKept i db db') : StaysOpen i db db' :=
  fun l hl => ⟨l, Eq.trans h hl, rfl, rfl, fun hopen => hopen⟩

theorem StaysOpen.of_eq (h : db'.listings = db.listings) : StaysOpen i db db' :=
  .of_kept (.of_eq h)

theorem StaysOpen.trans (h : StaysOpen i db db') (h' : StaysOpen i db' db'') :
    StaysOpen i db db'' := by
  intro l hl
  obtain ⟨l', hl', hcategory, havailable, hopen⟩ := h l hl
  obtain ⟨l'', hl'', hcategory', havailable', hopen'⟩ := h' l' hl'
  exact ⟨l'', hl'', hcategory'.trans hcategory, havailable'.trans havailable,
    fun hisopen => hopen' (hopen hisopen)⟩

theorem setListingStatus_staysOpen {status : ListingStatus} (hs : status.isOpen = true)
    (hlistings : db'.listings = db.listings.update listingId ({ · with status := status })) :
    StaysOpen i db db' := by
  intro l hl
  rw [hlistings, Table.findUnique_update, hl]
  split
  · exact ⟨_, rfl, rfl, rfl, fun _ => hs⟩
  · exact ⟨l, rfl, rfl, rfl, fun hopen => hopen⟩

theorem Promoted.staysOpen (h : Promoted env listingId db db') : StaysOpen i db db' := by
  cases h with
  | nobody =>
      exact setListingStatus_staysOpen (by decide) rfl
  | selected id next =>
      exact setListingStatus_staysOpen (by decide) rfl

theorem expireOffers_staysOpen (env : Env) (db : Db) : StaysOpen i db (expireOffers env db) := by
  unfold expireOffers
  generalize (db.offers.findMany fun _ o => o.isOverdue env).take 500 = picks
  induction picks generalizing db with
  | nil =>
      exact .of_eq rfl
  | cons pick picks ih =>
      refine StaysOpen.trans ?_ (ih (expirePickedOffer env db pick))
      unfold expirePickedOffer
      split
      · dsimp only
        split
        · exact (promoteNextWaitingBuyer_promoted env pick.2.listingId
            (setOfferStatus pick.1 .expired db)).staysOpen
        · exact .of_eq rfl
      · exact .of_eq rfl

theorem expireListings_staysOpen {i : Id}
    (h : forall pick, pick ∈ listingsToExpire env db -> pick.1 ≠ i) :
    StaysOpen i db (expireListings env db) := by
  unfold expireListings
  generalize listingsToExpire env db = picks at h
  induction picks generalizing db with
  | nil =>
      exact .of_eq rfl
  | cons pick picks ih =>
      refine StaysOpen.trans (.of_kept ?_)
        (ih fun other hother => h other (List.mem_cons_of_mem pick hother))
      unfold ListingKept
      rw [Table.findUnique_updateMany]
      cases hl : db.listings.findUnique i with
      | none => rfl
      | some l =>
          have hne : (i == pick.1) = false := beq_false_of_ne (Ne.symm (h pick List.mem_cons_self))
          simp [hne]

theorem expireListings_orders (env : Env) (db : Db) :
    (expireListings env db).orders = db.orders := by
  unfold expireListings
  generalize listingsToExpire env db = picks
  induction picks generalizing db with
  | nil => rfl
  | cons pick picks ih => exact ih _

theorem expireOffers_orders (env : Env) (db : Db) : (expireOffers env db).orders = db.orders := by
  unfold expireOffers
  generalize (db.offers.findMany fun _ o => o.isOverdue env).take 500 = picks
  induction picks generalizing db with
  | nil =>
      rfl
  | cons pick picks ih =>
      refine (ih _).trans ?_
      unfold expirePickedOffer
      split
      · dsimp only
        split
        · exact (promoteNextWaitingBuyer_promoted env pick.2.listingId
            (setOfferStatus pick.1 .expired db)).orders
        · rfl
      · rfl

/-! ## The deal -/

def Alone (orderId listingId : Id) (db : Db) : Prop :=
  forall k other, db.orders.findUnique k = some other -> k ≠ orderId ->
    other.listingId = listingId -> other.status.isRunning = false

def Order.isUncommitted (order : Order) : Bool :=
  order.status.isRunning && !order.goodsCommitted

/-- While the order waits for its goods, the settlement of the goods payment can commit them. -/
def Committable (orderId : Id) (db : Db) : Prop :=
  forall order, db.orders.findUnique orderId = some order -> order.isUncommitted = true ->
    (commitListingQuantity order.listingId order.quantity db).isOk = true

/-- The order waits for goods that are there, beside no other running order. -/
structure DealHeld (orderId listingId : Id) (db : Db) : Prop where
  placed : exists order, db.orders.findUnique orderId = some order ∧ order.listingId = listingId
  held : forall order, db.orders.findUnique orderId = some order -> order.isUncommitted = true ->
    0 < order.quantity ∧ Alone orderId listingId db ∧
      exists l, db.listings.findUnique listingId = some l ∧ l.canCommit order.quantity = true

theorem commitListingQuantity_isOk_iff {quantity : ℚ} :
    (commitListingQuantity listingId quantity db).isOk = true ↔
      0 < quantity ∧ exists l, db.listings.findUnique listingId = some l ∧
        l.canCommit quantity = true := by
  unfold commitListingQuantity normalizeQuantity
  by_cases hpos : quantity ≤ 0
  · simp [hpos, Except.isOk, Except.toBool, not_lt.2 hpos]
  · rw [if_neg hpos, ok_bind]
    cases hl : db.listings.findUnique listingId with
    | none =>
        simp [Except.isOk, Except.toBool]
    | some l =>
        by_cases hcan : l.canCommit quantity = true
        · simp [hcan, not_le.1 hpos, Except.isOk, Except.toBool]
        · simp [hcan, Except.isOk, Except.toBool]

theorem DealHeld.committable (h : DealHeld orderId listingId db) : Committable orderId db := by
  intro order horder hwaits
  obtain ⟨placed, hplaced, hlisting⟩ := h.placed
  obtain rfl : placed = order := Option.some.inj (hplaced.symm.trans horder)
  obtain ⟨hpos, -, hgoods⟩ := h.held placed horder hwaits
  rw [commitListingQuantity_isOk_iff, hlisting]
  exact ⟨hpos, hgoods⟩

theorem canCommit_of_staysOpen {l l' : Listing} {quantity : ℚ} (hcategory : l'.category = l.category)
    (havailable : l'.availableQuantity = l.availableQuantity)
    (hopen : l.status.isOpen = true -> l'.status.isOpen = true)
    (h : l.canCommit quantity = true) :
    l'.canCommit quantity = true := by
  simp only [Listing.canCommit, Bool.and_eq_true] at h ⊢
  obtain ⟨⟨hphysical, hstatus⟩, hquantity⟩ := h
  exact ⟨⟨by rw [hcategory]; exact hphysical, hopen hstatus⟩, by rw [havailable]; exact hquantity⟩

theorem DealHeld.of_moved (h : DealHeld orderId listingId db) (hmoved : OrdersMoved db db')
    (hopen : forall order', db'.orders.findUnique orderId = some order' ->
      order'.isUncommitted = true -> Alone orderId listingId db -> StaysOpen listingId db db') :
    DealHeld orderId listingId db' := by
  obtain ⟨placed, hplaced, hlisting⟩ := h.placed
  obtain ⟨moved, hfind, hrow⟩ := hmoved.of_left hplaced
  refine ⟨⟨moved, hfind, hrow.listing.trans hlisting⟩, fun order horder hwaits => ?_⟩
  obtain rfl : moved = order := Option.some.inj (hfind.symm.trans horder)
  have hwaited : placed.isUncommitted = true := by
    simp only [Order.isUncommitted, Bool.and_eq_true, Bool.not_eq_true'] at hwaits ⊢
    constructor
    · by_contra hstopped
      rw [hrow.stopped (by simpa using hstopped)] at hwaits
      cases hwaits.1
    · by_contra hcommitted
      rcases hrow.committed (by simpa using hcommitted) with hnow | hstopped
      · rw [hnow] at hwaits
        cases hwaits.2
      · rw [hstopped] at hwaits
        cases hwaits.1
  obtain ⟨hpos, halone, l, hl, hcan⟩ := h.held placed hplaced hwaited
  rw [hrow.quantity]
  refine ⟨hpos, fun k other hother hk hof => ?_, ?_⟩
  · obtain ⟨before, hbefore, hkept⟩ := hmoved.of_right hother
    exact hkept.stopped (halone k before hbefore hk (hkept.listing.symm.trans hof))
  · obtain ⟨l', hl', hcategory, havailable, hisopen⟩ := hopen moved hfind hwaits halone l hl
    exact ⟨l', hl', canCommit_of_staysOpen hcategory havailable hisopen hcan⟩

theorem DealHeld.stallMove (hmove : StallMove db db') (h : DealHeld orderId listingId db) :
    DealHeld orderId listingId db' := by
  refine h.of_moved hmove.ordersMoved fun order' horder' hwaits halone => ?_
  cases hmove with
  | kept _ hlistings => exact .of_eq hlistings
  | arranged _ _ hlistings => exact .of_eq hlistings
  | confirmed k order committed listings offers hfind hpending htaken horders hlistings =>
      cases htaken with
      | untouched =>
          exact .of_eq hlistings
      | taken listing =>
          by_cases hk : k = orderId
          · -- The order has its goods now.
            subst hk
            rw [horders, Table.findUnique_update, if_pos rfl, hfind] at horder'
            obtain rfl := Option.some.inj horder'
            simp [Order.isUncommitted, Order.confirm] at hwaits
          · -- The other order is on another listing.
            have hne : listingId ≠ order.listingId := by
              intro hsame
              have hstopped := halone k order hfind hk hsame.symm
              rw [hpending] at hstopped
              cases hstopped
            apply StaysOpen.of_kept
            unfold ListingKept
            rw [hlistings, takeListingQuantity_listings, Table.findUnique_update_ne hne]

theorem DealHeld.stallMoves (hmoves : StallMoves db db') (h : DealHeld orderId listingId db) :
    DealHeld orderId listingId db' := by
  induction hmoves with
  | refl => exact h
  | tail _ hmove ih => exact ih.stallMove hmove

variable {record : OrderRecord}

theorem StallCancelled.running (hcancelled : StallCancelled env record db db') :
    record.status.isRunning = true := by
  obtain ⟨hcompleted, hclosed⟩ := hcancelled.cancelled.notClosed
  simp [OrderStatus.isRunning, hcompleted, hclosed]

theorem StallCancelled.ordersMoved {load : OrderLoad} {k : Id}
    (hload : loadOrder load db k = some record) (hcancelled : StallCancelled env record db db') :
    OrdersMoved db db' := by
  obtain ⟨order, hloaded⟩ := loadOrder_eq_some hload
  have horders := hcancelled.cancelled.orders
  rw [hloaded.id] at horders
  refine ordersMoved_update horders hloaded.found ?_ (fun _ => rfl) (fun _ => rfl)
    fun _ _ => Or.inr rfl
  rw [← hloaded.status]
  exact hcancelled.running

theorem DealHeld.stallCancelled {load : OrderLoad} {k : Id}
    (hload : loadOrder load db k = some record) (hcancelled : StallCancelled env record db db')
    (h : DealHeld orderId listingId db) :
    DealHeld orderId listingId db' := by
  obtain ⟨order, hloaded⟩ := loadOrder_eq_some hload
  have horders := hcancelled.cancelled.orders
  rw [hloaded.id] at horders
  refine h.of_moved (hcancelled.ordersMoved hload) fun order' horder' hwaits halone => ?_
  by_cases hk : k = orderId
  · -- The order itself is cancelled.
    subst hk
    rw [horders, Table.findUnique_update, if_pos rfl, hloaded.found] at horder'
    obtain rfl := Option.some.inj horder'
    cases hwaits
  · have hne : listingId ≠ record.listingId := by
      intro hsame
      have hstopped := halone k order hloaded.found hk (hloaded.listingId.symm.trans hsame.symm)
      rw [← hloaded.status, hcancelled.running] at hstopped
      cases hstopped
    exact .of_kept (hcancelled.rowKept hne)

/-! ## Answers to other offers -/

theorem closeLeafOffer_staysOpen {id : Id} {o : Offer} {status : OfferStatus} :
    StaysOpen i db (closeLeafOffer id o status db) := by
  unfold closeLeafOffer
  dsimp only
  split
  · exact .of_eq rfl
  · exact setListingStatus_staysOpen (by decide) rfl

theorem DealHeld.ordered {row : Order} (h : DealHeld orderId listingId db)
    (hfree : hasRunningOrder db row.listingId = false)
    (horders : db'.orders = db.orders.create row) (hlistings : db'.listings = db.listings) :
    DealHeld orderId listingId db' := by
  obtain ⟨placed, hplaced, hlisting⟩ := h.placed
  have hfind : db'.orders.findUnique orderId = some placed := by
    rw [horders]
    exact Table.findUnique_create_of_some hplaced
  refine ⟨⟨placed, hfind, hlisting⟩, fun order horder hwaits => ?_⟩
  obtain rfl : placed = order := Option.some.inj (hfind.symm.trans horder)
  obtain ⟨hpos, halone, hgoods⟩ := h.held placed hplaced hwaits
  refine ⟨hpos, fun k other hother hk hof => ?_, by rw [hlistings]; exact hgoods⟩
  rw [horders, Table.findUnique_create] at hother
  split at hother
  · -- The new order is on another listing: the deal runs on this one.
    obtain rfl := Option.some.inj hother
    have hruns : hasRunningOrder db row.listingId = true := by
      simp only [Order.isUncommitted, Bool.and_eq_true] at hwaits
      exact hasRunningOrder_eq_true_iff.2
        ⟨orderId, placed, hplaced, hlisting.trans hof.symm, hwaits.1⟩
    rw [hfree] at hruns
    cases hruns
  · exact halone k other hother hk hof

theorem DealHeld.answered {caller : OfferCaller} {id : Id} {action : OfferAction}
    (hanswer : OfferAnswer env caller id action db db') (h : DealHeld orderId listingId db) :
    DealHeld orderId listingId db' := by
  cases hanswer with
  | refused =>
      exact h
  | expired =>
      exact h.of_moved (.of_eq rfl) fun _ _ _ _ => .of_eq rfl
  | moved o listing _ hoffer _ _ _ hmove =>
      cases hmove with
      | selected => exact h.of_moved (.of_eq rfl) fun _ _ _ _ => .of_eq rfl
      | agreed => exact h.of_moved (.of_eq rfl) fun _ _ _ _ => .of_eq rfl
      | countered => exact h.of_moved (.of_eq rfl) fun _ _ _ _ => .of_eq rfl
      | closed status =>
          refine h.of_moved (.of_eq ?_) fun _ _ _ _ => closeLeafOffer_staysOpen
          unfold closeLeafOffer
          dsimp only
          split <;> rfl
      | confirmed quantity _ _ hrunning =>
          obtain ⟨events, hframe⟩ := orderedDb_frame env id o listing o.confirmedPrice quantity db
          rw [hframe]
          exact h.ordered hrunning rfl rfl

/-! ## Steps -/

def ListingStep.edits (listingId : Id) : ListingStep -> Bool
  | .cancelListing _ edited => edited = listingId
  | _ => false

/-- The expiry job does not close the listing of an order that waits for its goods. -/
def ListingStep.sparesDeal (orderId : Id) (db : Db) (a : Env × ListingStep) : Bool :=
  match a.2 with
  | .expireListings =>
      (db.orders.findUnique orderId).all fun order =>
        !order.isUncommitted || (listingsToExpire a.1 db).all fun pick =>
          pick.1 ≠ order.listingId
  | _ => true

theorem orders_moved_of_status {s : OrderStatus}
    (hfind : db.orders.findUnique orderId = some order) (hrunning : order.status.isRunning = true)
    (horders : db'.orders = db.orders.update orderId ({ · with status := s })) :
    OrdersMoved db db' :=
  ordersMoved_update horders hfind hrunning (fun _ => rfl) (fun _ => rfl) fun _ h => Or.inl h

theorem isRunning_of_mem_disputableStatuses {s : OrderStatus} (h : s ∈ disputableStatuses) :
    s.isRunning = true := by
  revert h
  cases s <;> decide

theorem ListingStep.dealHeld_step (a : Env × ListingStep) (hedits : a.2.edits listingId = false)
    (hspares : sparesDeal orderId db a = true) (h : DealHeld orderId listingId db) :
    DealHeld orderId listingId (step db a) := by
  obtain ⟨env, a⟩ := a
  have heffect := ListingStep.stallEffect env db a
  generalize step db (env, a) = db' at heffect ⊢
  cases heffect with
  | kept _ _ hkept =>
      exact h.of_moved (.of_eq hkept.orders) fun _ _ _ _ => .of_eq hkept.listings
  | created listing draft =>
      refine h.of_moved (.of_eq rfl) fun _ _ _ _ l hl => ?_
      exact ⟨l, Table.findUnique_create_of_some hl, rfl, rfl, fun hopen => hopen⟩
  | closed caller edited =>
      refine h.of_moved (.of_eq rfl) fun _ _ _ _ => .of_kept (setListingStatus_kept ?_)
      rintro rfl
      simp [edits] at hedits
  | windowsEnded =>
      obtain ⟨placed, hplaced, hlisting⟩ := h.placed
      refine h.of_moved (.of_eq (expireListings_orders env db)) fun order' horder' hwaits _ => ?_
      rw [expireListings_orders] at horder'
      obtain rfl : placed = order' := Option.some.inj (hplaced.symm.trans horder')
      simp only [sparesDeal, hplaced, Option.all_some, hwaits, Bool.not_true, Bool.false_or,
        List.all_eq_true, decide_eq_true_eq, hlisting] at hspares
      exact expireListings_staysOpen hspares
  | recovered adminId requestId request order _ _ _ _ horders hlistings =>
      exact h.of_moved (.of_eq horders) fun _ _ _ _ =>
        setListingStatus_staysOpen (by decide) hlistings
  | bid =>
      exact h.of_moved (.of_eq rfl) fun _ _ _ _ => .of_eq rfl
  | answered caller updatedAt offerId action _ _ hanswer =>
      exact h.answered hanswer
  | offersExpired =>
      exact h.of_moved (.of_eq (expireOffers_orders env db)) fun _ _ _ _ =>
        expireOffers_staysOpen env db
  | settled args _ _ hsettle =>
      obtain ⟨planned, paymentId, hsettled, -, rfl⟩ := settlePayment_stall hsettle
      obtain ⟨offers, hframe⟩ := releaseBiddersAfter_frame paymentId planned
      rw [hframe]
      exact (h.stallMoves hsettled.moves).of_moved (.of_eq rfl) fun _ _ _ _ => .of_eq rfl
  | shipped k leg _ order hfind hsource =>
      refine h.of_moved (orders_moved_of_status hfind ?_ rfl) fun _ _ _ _ => .of_eq rfl
      rw [hsource]
      cases leg <;> rfl
  | received userId k _ order _ hfind horders hlistings =>
      refine h.of_moved ?_ fun _ _ _ _ => .of_eq hlistings
      unfold OrdersMoved
      rw [horders]
      exact Table.rel_update OrderMoved.refl fun _ _ => ⟨rfl, rfl, fun _ => rfl, Or.inl⟩
  | raised userId request _ order _ hfind hdisputable horders hlistings =>
      exact h.of_moved (orders_moved_of_status hfind
        (isRunning_of_mem_disputableStatuses hdisputable) horders) fun _ _ _ _ => .of_eq hlistings
  | cancelled load k actorId reason role _ record _ hload hcancelled =>
      exact h.stallCancelled hload hcancelled
  | resolvedByCancelling adminId disputeId resolution _ dispute record cancelled _ hload
      hcancelled =>
      exact (h.stallCancelled hload hcancelled).of_moved (.of_eq rfl) fun _ _ _ _ => .of_eq rfl
  | resolvedByRestoring _ _ _ _ _ dispute restored db' _ hresolvable horders hlistings _
      hreplayed =>
      obtain ⟨order, horder, hdisputed⟩ := hresolvable.disputed
      have hmoved : OrdersMoved db restored :=
        orders_moved_of_status horder (by rw [hdisputed]; rfl) horders
      have hrestored := h.of_moved hmoved fun _ _ _ _ => .of_eq hlistings
      exact (hrestored.stallMoves hreplayed).of_moved (.of_eq rfl) fun _ _ _ _ => .of_eq rfl

/-! ## The order is made -/

/-- What holds when a step has made the order. -/
structure DealMade (db' : Db) (orderId : Id) (order : Order) : Prop where
  placed : db'.orders.findUnique orderId = some order
  waits : order.isUncommitted = true
  positive : 0 < order.quantity
  alone : Alone orderId order.listingId db'
  stocked : exists l, db'.listings.findUnique order.listingId = some l ∧
    l.category.isPhysical = true ∧ order.quantity ≤ l.availableQuantity

def isOpenListing (db : Db) (listingId : Id) : Bool :=
  (db.listings.findUnique listingId).any fun l => l.status.isOpen

theorem size_ne_of_rel {R : Id -> Order -> Order -> Prop} (h : db.orders.Rel R db'.orders) :
    db'.orders.findUnique db.orders.size ≠ some order := by
  intro hfind
  obtain ⟨_, hbefore, -⟩ := h.of_right hfind
  rw [Table.findUnique_size] at hbefore
  cases hbefore

theorem OfferAnswer.dealMade {caller : OfferCaller} {id : Id} {action : OfferAction}
    (hanswer : OfferAnswer env caller id action db db')
    (hmade : db'.orders.findUnique db.orders.size = some order) :
    DealMade db' db.orders.size order := by
  have hnone : forall {w : Db}, w.orders = db.orders ->
      w.orders.findUnique db.orders.size = some order -> False := by
    intro w hsame hfind
    rw [hsame, Table.findUnique_size] at hfind
    cases hfind
  cases hanswer with
  | refused => exact (hnone rfl hmade).elim
  | expired => exact (hnone rfl hmade).elim
  | moved o listing _ hoffer _ hlisting _ hmove =>
      cases hmove with
      | selected => exact (hnone rfl hmade).elim
      | agreed => exact (hnone rfl hmade).elim
      | countered => exact (hnone rfl hmade).elim
      | closed status =>
          refine (hnone ?_ hmade).elim
          unfold closeLeafOffer
          dsimp only
          split <;> rfl
      | confirmed quantity _ horderable hrunning =>
          obtain ⟨events, hframe⟩ := orderedDb_frame env id o listing o.confirmedPrice quantity db
          rw [hframe] at hmade ⊢
          obtain rfl : orderOfOffer env id o listing listing.sellerId o.confirmedPrice quantity =
              order := Option.some.inj ((Table.findUnique_create_self _ _).symm.trans hmade)
          refine ⟨hmade, rfl, horderable.positive, fun k other hother hk hof => ?_,
            listing, hlisting, horderable.physical, horderable.available⟩
          change (db.orders.create _).findUnique k = some other at hother
          rw [Table.findUnique_create, if_neg hk] at hother
          by_contra hruns
          have hbusy : hasRunningOrder db o.listingId = true :=
            hasRunningOrder_eq_true_iff.2 ⟨k, other, hother, hof, by simpa using hruns⟩
          rw [hrunning] at hbusy
          cases hbusy

theorem ListingStep.dealMade (a : Env × ListingStep)
    (hmade : (step db a).orders.findUnique db.orders.size = some order) :
    DealMade (step db a) db.orders.size order := by
  obtain ⟨env, a⟩ := a
  have heffect := ListingStep.stallEffect env db a
  generalize step db (env, a) = db' at heffect hmade ⊢
  have hmoved : OrdersMoved db db' -> DealMade db' db.orders.size order :=
    fun h => (size_ne_of_rel h hmade).elim
  cases heffect with
  | answered caller updatedAt offerId action _ _ hanswer =>
      exact hanswer.dealMade hmade
  | kept _ _ hkept => exact hmoved (.of_eq hkept.orders)
  | created => exact hmoved (.of_eq rfl)
  | closed => exact hmoved (.of_eq rfl)
  | windowsEnded => exact hmoved (.of_eq (expireListings_orders env db))
  | recovered _ _ _ _ _ _ _ _ horders => exact hmoved (.of_eq horders)
  | bid => exact hmoved (.of_eq rfl)
  | offersExpired => exact hmoved (.of_eq (expireOffers_orders env db))
  | settled args _ _ hsettle =>
      obtain ⟨planned, paymentId, hsettled, -, rfl⟩ := settlePayment_stall hsettle
      obtain ⟨offers, hframe⟩ := releaseBiddersAfter_frame paymentId planned
      rw [hframe] at hmoved ⊢
      exact hmoved (hsettled.moves.ordersMoved.trans (.of_eq rfl))
  | shipped k leg _ order hfind hsource =>
      exact hmoved (orders_moved_of_status hfind (by rw [hsource]; cases leg <;> rfl) rfl)
  | received userId k _ order _ hfind horders =>
      apply hmoved
      unfold OrdersMoved
      rw [horders]
      exact Table.rel_update OrderMoved.refl fun _ _ => ⟨rfl, rfl, fun _ => rfl, Or.inl⟩
  | raised userId request _ order _ hfind hdisputable horders =>
      exact hmoved (orders_moved_of_status hfind
        (isRunning_of_mem_disputableStatuses hdisputable) horders)
  | cancelled load k actorId reason role _ record _ hload hcancelled =>
      exact hmoved (hcancelled.ordersMoved hload)
  | resolvedByCancelling adminId disputeId resolution _ dispute record cancelled _ hload
      hcancelled =>
      exact hmoved ((hcancelled.ordersMoved hload).trans (.of_eq rfl))
  | resolvedByRestoring _ _ _ _ _ dispute restored db' _ hresolvable horders _ _ hreplayed =>
      obtain ⟨order, horder, hdisputed⟩ := hresolvable.disputed
      have hrestored : OrdersMoved db restored :=
        orders_moved_of_status horder (by rw [hdisputed]; rfl) horders
      exact hmoved ((hrestored.trans hreplayed.ordersMoved).trans (.of_eq rfl))

theorem DealMade.dealHeld (h : DealMade db orderId order)
    (hopen : isOpenListing db order.listingId = true) :
    DealHeld orderId order.listingId db := by
  refine ⟨⟨order, h.placed, rfl⟩, fun placed hplaced _ => ?_⟩
  obtain rfl : order = placed := Option.some.inj (h.placed.symm.trans hplaced)
  obtain ⟨l, hl, hphysical, havailable⟩ := h.stocked
  refine ⟨h.positive, h.alone, l, hl, ?_⟩
  simp only [isOpenListing, hl, Option.any_some] at hopen
  simp only [Listing.canCommit, hphysical, Bool.true_and, Bool.and_eq_true, decide_eq_true_eq]
  exact ⟨of_decide_eq_true hopen, havailable⟩

theorem DealMade.committable_iff (h : DealMade db orderId order) :
    Committable orderId db ↔ isOpenListing db order.listingId = true := by
  constructor
  · intro hcommits
    obtain ⟨-, l, hl, hcan⟩ := commitListingQuantity_isOk_iff.1 (hcommits order h.placed h.waits)
    simp only [Listing.canCommit, Bool.and_eq_true] at hcan
    simp only [isOpenListing, hl, Option.any_some]
    exact hcan.1.2
  · exact fun hopen => (h.dealHeld hopen).committable

/-! ## Runs -/

theorem expireListings_row {i : Id} {l : Listing} (hl : db.listings.findUnique i = some l) :
    (expireListings env db).listings.findUnique i =
      some (if l.windowEnded env && i ∈ (listingsToExpire env db).map Prod.fst
        then { l with status := .expired } else l) := by
  unfold expireListings
  generalize listingsToExpire env db = picks
  induction picks generalizing db l with
  | nil =>
      simp [hl]
  | cons pick picks ih =>
      rw [List.foldl_cons]
      by_cases hnow : i = pick.1 ∧ l.windowEnded env = true
      · obtain ⟨rfl, hwindow⟩ := hnow
        have hrow : ({ db with
            listings := db.listings.updateMany (fun j l => j == pick.1 && l.windowEnded env)
              ({ · with status := .expired }) } : Db).listings.findUnique pick.1 =
            some { l with status := .expired } := by
          rw [Table.findUnique_updateMany, hl]
          simp [hwindow]
        have hgone : ({ l with status := .expired } : Listing).windowEnded env = false := by
          simp [Listing.windowEnded, ListingStatus.isOpen]
        rw [ih hrow, hgone, hwindow, List.map_cons]
        simp only [Bool.false_and, Bool.false_eq_true, if_false, List.mem_cons_self, decide_true,
          Bool.true_and, if_true]
      · have hrow : ({ db with
            listings := db.listings.updateMany (fun j l => j == pick.1 && l.windowEnded env)
              ({ · with status := .expired }) } : Db).listings.findUnique i = some l := by
          rw [Table.findUnique_updateMany, hl, Option.map_some, if_neg]
          simpa using hnow
        rw [ih hrow]
        by_cases hwindow : l.windowEnded env = true
        · have hne : i ≠ pick.1 := fun hi => hnow ⟨hi, hwindow⟩
          rw [List.map_cons]
          simp only [List.mem_cons, hne, false_or]
        · simp only [hwindow, Bool.false_and, Bool.false_eq_true, if_false]

theorem ListingStep.not_committable_step (a : Env × ListingStep)
    (hspares : sparesDeal orderId db a = false) :
    ¬ Committable orderId (step db a) := by
  obtain ⟨env, a⟩ := a
  unfold sparesDeal at hspares
  split at hspares
  · rename_i hjob
    dsimp only at hjob
    subst hjob
    intro hcommits
    cases horder : db.orders.findUnique orderId with
    | none =>
        simp [horder] at hspares
    | some order =>
        simp only [horder, Option.all_some, Bool.or_eq_false_iff, Bool.not_eq_false',
          List.all_eq_false, decide_eq_true_eq, not_not] at hspares
        obtain ⟨hwaits, pick, hpick, hsame⟩ := hspares
        change Committable orderId (MarketBridge.expireListings env db) at hcommits
        have hplaced : (MarketBridge.expireListings env db).orders.findUnique orderId =
            some order := by
          rw [expireListings_orders, horder]
        obtain ⟨-, l, hl, hcan⟩ := commitListingQuantity_isOk_iff.1 (hcommits order hplaced hwaits)
        -- The job has found the window of the listing ended.
        obtain ⟨hfind, hwindow⟩ := Table.mem_findMany.1 (List.mem_of_mem_take hpick)
        rw [Bool.and_eq_true] at hwindow
        rw [← hsame, expireListings_row hfind, hwindow.1,
          decide_eq_true (List.mem_map_of_mem hpick)] at hl
        rw [← Option.some.inj hl] at hcan
        simp [Listing.canCommit] at hcan
  · cases hspares

/-- In every state of the run the waiting order can be committed. -/
structure DealStays (orderId : Id) (db : Db) (as : List (Env × ListingStep)) : Prop where
  first : Committable orderId db
  later : RunMeets ListingStep.step (fun db a => Committable orderId (ListingStep.step db a)) db as

theorem DealHeld.committable_iff_spares {as : List (Env × ListingStep)}
    (h : DealHeld orderId listingId db)
    (hedits : forall b, b ∈ as -> b.2.edits listingId = false) :
    RunMeets ListingStep.step (fun s b => Committable orderId (ListingStep.step s b)) db as ↔
      RunMeets ListingStep.step (fun s b => ListingStep.sparesDeal orderId s b = true) db as := by
  induction as generalizing db with
  | nil =>
      exact Iff.rfl
  | cons b as ih =>
      have hb := hedits b List.mem_cons_self
      have hrest : forall c, c ∈ as -> c.2.edits listingId = false :=
        fun c hc => hedits c (List.mem_cons_of_mem b hc)
      by_cases hspares : ListingStep.sparesDeal orderId db b = true
      · have hnext := ListingStep.dealHeld_step b hb hspares h
        exact ⟨fun hmeets => ⟨hspares, (ih hnext hrest).1 hmeets.2⟩,
          fun hmeets => ⟨hnext.committable, (ih hnext hrest).2 hmeets.2⟩⟩
      · have hbroken := ListingStep.not_committable_step b (by simpa using hspares)
        exact ⟨fun hmeets => absurd hmeets.1 hbroken, fun hmeets => absurd hmeets.1 hspares⟩

/--
A deal can be committed in every state of a run if and only if its listing was open
when it was made, and the expiry of pickup windows spares the listing while the
order waits for its goods.
-/
theorem dealStays_iff (a : Env × ListingStep) {as : List (Env × ListingStep)}
    (hmade : (ListingStep.step db a).orders.findUnique db.orders.size = some order)
    (hedits : forall b, b ∈ as -> b.2.edits order.listingId = false) :
    DealStays db.orders.size (ListingStep.step db a) as ↔
      isOpenListing (ListingStep.step db a) order.listingId = true ∧
        RunMeets ListingStep.step
          (fun s b => ListingStep.sparesDeal db.orders.size s b = true) (ListingStep.step db a)
          as := by
  have hdeal := ListingStep.dealMade a hmade
  constructor
  · intro ⟨hfirst, hlater⟩
    have hopen := hdeal.committable_iff.1 hfirst
    exact ⟨hopen, ((hdeal.dealHeld hopen).committable_iff_spares hedits).1 hlater⟩
  · intro ⟨hopen, hspares⟩
    exact ⟨hdeal.committable_iff.2 hopen,
      ((hdeal.dealHeld hopen).committable_iff_spares hedits).2 hspares⟩

def onions : Listing :=
  { sellerId := 1
    category := .agricultural
    quantity := 10
    availableQuantity := 10
    askingPrice := 2
    pickupWindowStart := some 1
    pickupWindowEnd := some 5 }

def agreedDb : Db :=
  run ListingStep.step {}
    [(env0, .createListing onions false), (env0, bidStep 2), (env0, answerStep 1 0 .select),
      (env0, answerStep 2 0 .acceptSelected)]

def orderStep : Env × ListingStep :=
  (env0, answerStep 1 0 .confirmProvisional)

def onionOrder : Order :=
  { listingId := 0
    buyerId := 2
    sellerId := 1
    finalPrice := 12
    quantity := 6
    agreedOfferId := some 0 }

theorem expireOffers_unedited : MarketStep.expireOffers.isEdit = false :=
  rfl

def withinWindow : List (Env × ListingStep) :=
  [({ now := 4 }, .expireListings), ({ now := 4 }, bidStep 3),
    ({ now := 4 }, .market .expireOffers expireOffers_unedited)]

theorem onionOrder_made :
    (ListingStep.step agreedDb orderStep).orders.findUnique agreedDb.orders.size =
      some onionOrder := by
  decide +kernel

theorem withinWindow_dealStays :
    DealStays agreedDb.orders.size (ListingStep.step agreedDb orderStep) withinWindow :=
  (dealStays_iff orderStep onionOrder_made (by decide)).2 ⟨by decide +kernel, by decide +kernel⟩

/-- The seller cancels the listing after the agreement, and makes the order all the same. -/
def cancelledDb : Db :=
  ListingStep.step agreedDb (env0, .cancelListing stallSeller 0)

/-- The window ends before the goods are paid for; the other listing was closed from the start. -/
theorem deals_not_committable :
    ¬ DealStays agreedDb.orders.size (ListingStep.step agreedDb orderStep)
      [({ now := 5 }, .expireListings)] ∧
    (ListingStep.step cancelledDb orderStep).orders.findUnique cancelledDb.orders.size =
      some onionOrder ∧
    ¬ DealStays cancelledDb.orders.size (ListingStep.step cancelledDb orderStep) [] := by
  refine ⟨fun h => ?_, by decide +kernel, fun h => ?_⟩
  · have hcommits := h.later.1 onionOrder (by decide +kernel) (by decide)
    revert hcommits
    decide +kernel
  · have hcommits := h.first onionOrder (by decide +kernel) (by decide)
    revert hcommits
    decide +kernel

end MarketBridge
