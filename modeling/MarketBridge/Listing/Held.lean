import MarketBridge.Listing.Closed

/-!
# Who holds a listing

A listing under negotiation is held by a bid that is the leaf of its chain, or by
a running order.  Every operation works on one listing at a time; what concerns
the others is framed by `AwayFrom`.
-/

namespace MarketBridge

open Relational

variable {env : Env} {db db' db'' : Db} {i listingId : Id} {q : OfferStatus -> Bool}

/-! ## Definitions -/

def hasLeaf (q : OfferStatus -> Bool) (db : Db) (listingId : Id) : Bool :=
  db.offers.any fun j o => o.listingId = listingId && q o.status && isLeafOffer db j

def isHeld (q : OfferStatus -> Bool) (db : Db) (listingId : Id) : Bool :=
  hasLeaf q db listingId || hasRunningOrder db listingId

def isLocked (db : Db) (listingId : Id) : Bool :=
  (db.listings.findUnique listingId).any fun l => l.status = .underNegotiation

def HeldWhileLocked (db : Db) : Prop :=
  forall i, isLocked db i = true -> isHeld OfferStatus.isActive db i = true

def ParentsAnswered (offers : Table Offer) : Prop :=
  offers.All fun _ child => forall parent, child.parentOfferId = some parent ->
    exists o, offers.findUnique parent = some o ∧ o.status ≠ .pending

/-! ## Offers that are kept -/

/-- The row is in the same chain, and it does not wait again. -/
structure OfferKept (_ : Id) (o o' : Offer) : Prop where
  parent : o'.parentOfferId = o.parentOfferId
  listing : o'.listingId = o.listingId
  expiry : o'.expiresAt = o.expiresAt
  waits : o'.status = .pending -> o.status = .pending

theorem OfferKept.refl (j : Id) (o : Offer) : OfferKept j o o :=
  ⟨rfl, rfl, rfl, fun h => h⟩

theorem OfferKept.trans {j : Id} {o o' o'' : Offer} (h : OfferKept j o o')
    (h' : OfferKept j o' o'') :
    OfferKept j o o'' :=
  ⟨h'.parent.trans h.parent, h'.listing.trans h.listing, h'.expiry.trans h.expiry,
    fun hw => h.waits (h'.waits hw)⟩

abbrev OffersKept (db db' : Db) : Prop :=
  db.offers.Rel OfferKept db'.offers

theorem OffersKept.of_eq (h : db'.offers = db.offers) : OffersKept db db' := by
  unfold OffersKept
  rw [h]
  exact .refl OfferKept.refl _

theorem OffersKept.trans (h : OffersKept db db') (h' : OffersKept db' db'') : OffersKept db db'' :=
  Table.Rel.trans (fun _ _ _ _ => OfferKept.trans) h h'

theorem offersKept_updateMany {p : Id -> Offer -> Bool} {s : OfferStatus} (hs : s ≠ .pending)
    (h : db'.offers = db.offers.updateMany p ({ · with status := s })) :
    OffersKept db db' := by
  unfold OffersKept
  rw [h]
  exact Table.rel_updateMany OfferKept.refl fun _ _ _ _ =>
    ⟨rfl, rfl, rfl, fun hw => absurd hw hs⟩

theorem setOfferStatus_offersKept (id : Id) {s : OfferStatus} (hs : s ≠ .pending) (db : Db) :
    OffersKept db (setOfferStatus id s db) :=
  offersKept_updateMany hs rfl

theorem OffersKept.isLeafOffer (h : OffersKept db db') (j : Id) :
    isLeafOffer db' j = isLeafOffer db j :=
  isLeafOffer_of_rel (h.mono fun _ _ _ hkept => hkept.parent) j

theorem OffersKept.parentsAnswered (h : OffersKept db db') (hparents : ParentsAnswered db.offers) :
    ParentsAnswered db'.offers := by
  intro j child' hchild' parent hparent
  obtain ⟨child, hchild, hkept⟩ := h.of_right hchild'
  obtain ⟨o, ho, hanswered⟩ := hparents j child hchild parent (hkept.parent ▸ hparent)
  obtain ⟨o', ho', hkept'⟩ := h.of_left ho
  exact ⟨o', ho', fun hw => hanswered (hkept'.waits hw)⟩

theorem ParentsAnswered.isLeafOffer (h : ParentsAnswered db.offers) {j : Id} {o : Offer}
    (ho : db.offers.findUnique j = some o) (hpending : o.status = .pending) :
    isLeafOffer db j = true := by
  unfold MarketBridge.isLeafOffer
  rw [Bool.not_eq_true', Table.any_eq_false_iff]
  intro k child hchild
  rw [decide_eq_false_iff_not]
  intro hparent
  obtain ⟨p, hp, hanswered⟩ := h k child hchild j hparent
  obtain rfl : p = o := Option.some.inj (hp.symm.trans ho)
  exact hanswered hpending

theorem hasLeaf_eq_true_iff :
    hasLeaf q db i = true ↔ exists j o, db.offers.findUnique j = some o ∧ o.listingId = i ∧
      q o.status = true ∧ isLeafOffer db j = true := by
  simp only [hasLeaf, Table.any_eq_true_iff, Bool.and_eq_true, decide_eq_true_eq, and_assoc]

theorem hasRunningOrder_eq_true_iff :
    hasRunningOrder db i = true ↔ exists k order, db.orders.findUnique k = some order ∧
      order.listingId = i ∧ order.status.isRunning = true := by
  simp only [hasRunningOrder, Table.any_eq_true_iff, Bool.and_eq_true, decide_eq_true_eq]

theorem isHeld_of_leaf {j : Id} {o : Offer} (ho : db.offers.findUnique j = some o)
    (hlisting : o.listingId = i) (hq : q o.status = true) (hleaf : isLeafOffer db j = true) :
    isHeld q db i = true := by
  rw [isHeld, hasLeaf_eq_true_iff.2 ⟨j, o, ho, hlisting, hq, hleaf⟩, Bool.true_or]

theorem isHeld_of_order {k : Id} {order : Order} (horder : db.orders.findUnique k = some order)
    (hlisting : order.listingId = i) (hrunning : order.status.isRunning = true) :
    isHeld q db i = true := by
  rw [isHeld, hasRunningOrder_eq_true_iff.2 ⟨k, order, horder, hlisting, hrunning⟩, Bool.or_true]

theorem isHeld_mono (hkept : OffersKept db db')
    (hq : forall j o o', db.offers.findUnique j = some o -> db'.offers.findUnique j = some o' ->
      o.listingId = i -> q o.status = true -> isLeafOffer db j = true -> q o'.status = true)
    (horders : hasRunningOrder db i = true -> hasRunningOrder db' i = true)
    (h : isHeld q db i = true) :
    isHeld q db' i = true := by
  unfold isHeld at h ⊢
  rw [Bool.or_eq_true] at h ⊢
  refine h.imp (fun hleaf => ?_) horders
  obtain ⟨j, o, ho, hlisting, hstatus, hisleaf⟩ := hasLeaf_eq_true_iff.1 hleaf
  obtain ⟨o', ho', hsame⟩ := hkept.of_left ho
  exact hasLeaf_eq_true_iff.2 ⟨j, o', ho', hsame.listing.trans hlisting,
    hq j o o' ho ho' hlisting hstatus hisleaf, by rw [hkept.isLeafOffer]; exact hisleaf⟩

/-! ## Other listings -/

/-- What concerns the other listings is what it was. -/
structure AwayFrom (listingId : Id) (db db' : Db) : Prop where
  listings : forall i, i ≠ listingId -> ListingKept i db db'
  held : forall i q, i ≠ listingId -> isHeld q db i = true -> isHeld q db' i = true

theorem AwayFrom.refl (listingId : Id) (db : Db) : AwayFrom listingId db db :=
  ⟨fun _ _ => rfl, fun _ _ _ h => h⟩

theorem AwayFrom.trans (h : AwayFrom listingId db db') (h' : AwayFrom listingId db' db'') :
    AwayFrom listingId db db'' :=
  ⟨fun i hi => (h.listings i hi).trans (h'.listings i hi),
    fun i q hi hheld => h'.held i q hi (h.held i q hi hheld)⟩

theorem ListingKept.isLocked (h : ListingKept i db db') : isLocked db' i = isLocked db i := by
  unfold MarketBridge.isLocked
  rw [h]

theorem AwayFrom.keeps (h : AwayFrom listingId db db')
    (hself : isLocked db' listingId = true -> isHeld q db' listingId = true)
    (hi : isLocked db i = true -> isHeld q db i = true) (hlocked : isLocked db' i = true) :
    isHeld q db' i = true := by
  by_cases hsame : i = listingId
  · subst hsame
    exact hself hlocked
  · rw [(h.listings i hsame).isLocked] at hlocked
    exact h.held i q hsame (hi hlocked)

theorem setListingStatus_awayFrom (listingId : Id) (status : ListingStatus) (db : Db) :
    AwayFrom listingId db (setListingStatus listingId status db) :=
  ⟨fun _ hi => setListingStatus_kept hi, fun _ _ _ h => h⟩

theorem awayFrom_offers (hkept : OffersKept db db')
    (hrows : forall j o, db.offers.findUnique j = some o -> o.listingId ≠ listingId ->
      db'.offers.findUnique j = some o)
    (hlistings : db'.listings = db.listings) (horders : db'.orders = db.orders) :
    AwayFrom listingId db db' := by
  refine ⟨fun i _ => .of_eq hlistings, fun i q hi hheld => ?_⟩
  refine isHeld_mono hkept ?_ (fun h => ?_) hheld
  · intro j o o' ho ho' hlisting hq _
    rw [hrows j o ho (hlisting.trans_ne hi)] at ho'
    rwa [← Option.some.inj ho']
  · unfold hasRunningOrder
    rw [horders]
    exact h

theorem awayFrom_updateMany {p : Id -> Offer -> Bool} {s : OfferStatus} (hs : s ≠ .pending)
    (hp : forall j o, db.offers.findUnique j = some o -> p j o = true -> o.listingId = listingId)
    (hoffers : db'.offers = db.offers.updateMany p ({ · with status := s }))
    (hlistings : db'.listings = db.listings) (horders : db'.orders = db.orders) :
    AwayFrom listingId db db' := by
  refine awayFrom_offers (offersKept_updateMany hs hoffers) ?_ hlistings horders
  intro j o ho hne
  rw [hoffers, Table.findUnique_updateMany, ho, Option.map_some,
    if_neg fun h => hne (hp j o ho h)]

theorem setOfferStatus_awayFrom {id : Id} {o : Offer} {s : OfferStatus} (hs : s ≠ .pending)
    (ho : db.offers.findUnique id = some o) :
    AwayFrom o.listingId db (setOfferStatus id s db) := by
  refine awayFrom_updateMany hs ?_ rfl rfl rfl
  intro j row hrow hj
  rw [eq_of_beq hj, ho] at hrow
  rw [Option.some.inj hrow]

theorem awayFrom_orders
    (hrows : forall k order, db.orders.findUnique k = some order -> order.listingId ≠ listingId ->
      db'.orders.findUnique k = some order)
    (hlistings : db'.listings = db.listings) (hoffers : db'.offers = db.offers) :
    AwayFrom listingId db db' := by
  refine ⟨fun i _ => .of_eq hlistings, fun i q hi hheld => ?_⟩
  refine isHeld_mono (.of_eq hoffers) ?_ (fun h => ?_) hheld
  · intro j o o' ho ho' _ hq _
    rw [hoffers, ho] at ho'
    rwa [← Option.some.inj ho']
  · obtain ⟨k, order, horder, hlisting, hrunning⟩ := hasRunningOrder_eq_true_iff.1 h
    exact hasRunningOrder_eq_true_iff.2
      ⟨k, order, hrows k order horder (hlisting.trans_ne hi), hlisting, hrunning⟩

theorem updateOrder_awayFrom {orderId : Id} {order : Order} {f : Order -> Order}
    (horder : db.orders.findUnique orderId = some order)
    (horders : db'.orders = db.orders.update orderId f)
    (hlistings : db'.listings = db.listings) (hoffers : db'.offers = db.offers) :
    AwayFrom order.listingId db db' := by
  refine awayFrom_orders ?_ hlistings hoffers
  intro k row hrow hne
  have hk : k ≠ orderId := by
    rintro rfl
    rw [horder] at hrow
    exact hne (by rw [Option.some.inj hrow])
  rw [horders, Table.findUnique_update_ne hk, hrow]

/-! ## Promotion -/

theorem expireWaitingOffers_kept (env : Env) (listingId : Id) (db : Db) :
    OffersKept db (expireWaitingOffers env listingId db) :=
  offersKept_updateMany (by decide) rfl

theorem Promoted.offersKept (h : Promoted env listingId db db') : OffersKept db db' := by
  cases h with
  | nobody =>
      exact expireWaitingOffers_kept env listingId db
  | selected id next =>
      exact (expireWaitingOffers_kept env listingId db).trans
        (setOfferStatus_offersKept id (by decide) _)

theorem Promoted.rowKept_offer (h : Promoted env listingId db db') {j : Id} {o : Offer}
    (ho : db.offers.findUnique j = some o) (hother : o.status = .pending -> o.listingId ≠ listingId) :
    db'.offers.findUnique j = some o := by
  have hexpired : (expireWaitingOffers env listingId db).offers.findUnique j = some o := by
    unfold expireWaitingOffers
    rw [Table.findUnique_updateMany, ho, Option.map_some, if_neg]
    intro hp
    simp only [Bool.and_eq_true, decide_eq_true_eq] at hp
    exact hother hp.1.2 hp.1.1
  cases h with
  | nobody =>
      exact hexpired
  | selected id next hfind hlisting hpending =>
      have hj : j ≠ id := by
        rintro rfl
        obtain rfl : o = next := Option.some.inj (hexpired.symm.trans hfind)
        exact hother hpending hlisting
      exact (Table.findUnique_update_ne hj).trans hexpired

theorem Promoted.orders (h : Promoted env listingId db db') : db'.orders = db.orders := by
  cases h with
  | nobody => rfl
  | selected => rfl

theorem Promoted.held (h : Promoted env listingId db db') (hparents : ParentsAnswered db.offers)
    (hlocked : isLocked db' listingId = true) :
    exists j o, db'.offers.findUnique j = some o ∧ o.listingId = listingId ∧
      o.status = .selected ∧ o.isExpired env = false ∧ isLeafOffer db' j = true := by
  have hkept := h.offersKept
  cases h with
  | nobody =>
      -- The listing is active.
      unfold isLocked setListingStatus at hlocked
      rw [Table.findUnique_update, if_pos rfl] at hlocked
      cases hl : (expireWaitingOffers env listingId db).listings.findUnique listingId with
      | none =>
          simp [hl] at hlocked
      | some l =>
          simp [hl] at hlocked
  | selected id next hfind hlisting hpending hfresh =>
      have hwaiting := (expireWaitingOffers_kept env listingId db).parentsAnswered hparents
      refine ⟨id, { next with status := .selected }, ?_, hlisting, rfl, hfresh, ?_⟩
      · change ((expireWaitingOffers env listingId db).offers.update id _).findUnique id = _
        rw [Table.findUnique_update, if_pos rfl, hfind]
        rfl
      · have hleaf := hwaiting.isLeafOffer hfind hpending
        have hsame := (setOfferStatus_offersKept id (s := .selected) (by decide)
          (expireWaitingOffers env listingId db)).isLeafOffer id
        exact hsame.trans hleaf

end MarketBridge
