import MarketBridge.Offer.Actions

/-!
# What an offer action does

`OfferMove` lists the writes of all actions together with the checks that let
them through.  Every invariant of the negotiation is derived from it.
-/

namespace MarketBridge

open Relational

/-! ## Checks that have passed -/

variable {message : String} {offer : Offer} {unitPrice : ℚ} {db db' : Db} {listing : Listing}
  {env : Env}

theorem assertRole_eq_ok {holds : Bool} (h : assertRole holds message = .ok ()) :
    holds = true := by
  unfold assertRole at h
  split at h
  · assumption
  · cases h

theorem assertOfferStatus_eq_ok {statuses : List OfferStatus} {code : Nat}
    (h : assertOfferStatus offer statuses message code = .ok ()) :
    offer.status ∈ statuses := by
  unfold assertOfferStatus at h
  split at h
  · assumption
  · cases h

theorem assertTurn_eq_ok {other : OfferCounterParty} (h : assertTurn offer other message = .ok ()) :
    offer.status = .countered -> offer.counteredBy = some other := by
  unfold assertTurn at h
  split at h
  · cases h
  · rename_i hturn
    intro hstatus
    by_contra hother
    exact hturn ⟨hstatus, hother⟩

theorem assertUnitPrice_eq_ok (h : assertUnitPrice unitPrice message = .ok ()) :
    0 < unitPrice := by
  unfold assertUnitPrice at h
  split at h
  · cases h
  · rename_i hpositive
    exact not_le.1 hpositive

theorem findLeafOffer_eq_some_iff {id : Id} {o : Offer} :
    findLeafOffer db id = some o ↔
      db.offers.findUnique id = some o ∧ isLeafOffer db id = true := by
  unfold findLeafOffer
  rw [Option.filter_eq_some_iff]

theorem freshLeaf_eq_ok {ctx : OfferContext} {status : Nat} {fresh : Offer}
    (h : freshLeaf ctx message status db = .ok (fresh, listing)) :
    findLeafOffer db ctx.id = some fresh ∧
      db.listings.findUnique fresh.listingId = some listing := by
  unfold freshLeaf at h
  split at h
  · cases h
  · rename_i leaf hleaf
    split at h
    · cases h
    · rename_i listing' hlisting
      obtain ⟨rfl, rfl⟩ := Prod.mk.inj (Except.ok.inj h)
      exact ⟨hleaf, hlisting⟩

theorem amountProblem_eq_ok {value : Option JsNumber} {amount : ℚ}
    (h : amountProblem value = .ok amount) :
    0 < amount ∧ amount ≤ offerAmountLimit := by
  unfold amountProblem at h
  split at h
  · cases h
  · cases h
  · simp only [guard_eq_ok] at h
    obtain ⟨hpositive, hlimit, -, h⟩ := h
    obtain rfl := Except.ok.inj h
    exact ⟨not_le.1 hpositive, not_lt.1 hlimit⟩

theorem claimOffer_eq_ok {id : Id} {statuses : List OfferStatus} {target : OfferStatus}
    (h : claimOffer id statuses target message db = .ok db') :
    (exists o, db.offers.findUnique id = some o ∧ o.status ∈ statuses) ∧
      db' = setOfferStatus id target db := by
  unfold claimOffer at h
  split at h
  · rename_i hfound
    obtain rfl := Except.ok.inj h
    refine ⟨?_, rfl⟩
    cases ho : db.offers.findUnique id with
    | none =>
        simp [ho] at hfound
    | some o =>
        exact ⟨o, rfl, by simpa [ho] using hfound⟩
  · cases h

/-! ## Bidding -/

theorem assertBiddable_eq_ok {userId : Id} {offerQuantity : ℚ}
    (h : assertBiddable userId listing offerQuantity = .ok ()) :
    listing.sellerId ≠ userId := by
  unfold assertBiddable at h
  split at h
  · cases h
  · split at h
    · cases h
    · split at h
      · cases h
      · split at h
        · cases h
        · split at h
          · cases h
          · assumption

theorem createOffer_eq_ok {userId listingId : Id} {amount quantity : Option JsNumber}
    (h : createOffer env userId listingId amount quantity db = .ok db') :
    exists price listing offerQuantity expiresAt,
      0 < price ∧ price ≤ offerAmountLimit ∧
      db.listings.findUnique listingId = some listing ∧
      listing.sellerId ≠ userId ∧
      isEngagedWith db listingId userId = false ∧
      db' = { db with
        offers := db.offers.create
          (bidRow userId listingId listing price offerQuantity expiresAt env.now) } := by
  unfold createOffer at h
  simp only [bind_eq_ok] at h
  obtain ⟨price, hprice, requested, -, h⟩ := h
  split at h
  · cases h
  · rename_i listing hlisting
    simp only [bind_eq_ok] at h
    obtain ⟨_, hbiddable, _, -, expiresAt, -, h⟩ := h
    obtain ⟨hfree, h⟩ := guard_eq_ok.mp h
    obtain rfl := Except.ok.inj h
    obtain ⟨hpositive, hlimit⟩ := amountProblem_eq_ok hprice
    exact ⟨price, listing, _, expiresAt, hpositive, hlimit, hlisting,
      assertBiddable_eq_ok hbiddable, by simpa using hfree, rfl⟩

/-! ## Agreement and order -/

theorem moveOfferToProvisional_eq_ok {id : Id} {price : ℚ}
    (h : moveOfferToProvisional env id offer listing price db = .ok db') :
    0 < price ∧ db' = setOfferStatus id .provisional db := by
  unfold moveOfferToProvisional at h
  rw [bind_eq_ok] at h
  obtain ⟨_, -, h⟩ := h
  split at h
  · cases h
  · rw [bind_eq_ok] at h
    obtain ⟨_, hprice, hclaim⟩ := h
    exact ⟨assertUnitPrice_eq_ok hprice, (claimOffer_eq_ok hclaim).2⟩

theorem assertPhysical_eq_ok (h : assertPhysical listing = .ok ()) :
    listing.category.isPhysical = true := by
  unfold assertPhysical at h
  split at h
  · assumption
  · cases h

/-- What holds of the offer and its listing when an order is created from them. -/
structure Orderable (offer : Offer) (listing : Listing) (unitPrice quantity : ℚ) : Prop where
  physical : listing.category.isPhysical = true
  whole : offer.quantity = some quantity
  positive : 0 < quantity
  priced : 0 < unitPrice
  available : quantity ≤ listing.availableQuantity
  notBelow : forall minimum, listing.minAcceptablePrice = some minimum -> minimum ≤ unitPrice

theorem assertOrderable_eq_ok {sellerId : Id} {quantity : ℚ}
    (h : assertOrderable env offer listing sellerId unitPrice = .ok quantity) :
    listing.sellerId = sellerId ∧ Orderable offer listing unitPrice quantity := by
  unfold assertOrderable at h
  rw [bind_eq_ok] at h
  obtain ⟨_, hphysical, h⟩ := h
  replace h := (guard_eq_ok.mp h).2
  dsimp only at h
  simp only [guard_eq_ok] at h
  obtain ⟨hpositive, hprice, hseller, havailable, hminimum, h⟩ := h
  obtain rfl := Except.ok.inj h
  have hquantity : offer.quantity = some (offer.quantity.getD 0) := by
    cases hq : offer.quantity with
    | none =>
        rw [hq] at hpositive
        simp at hpositive
    | some q =>
        rfl
  refine ⟨not_not.1 hseller, assertPhysical_eq_ok hphysical, hquantity,
    not_le.1 hpositive, not_le.1 hprice, not_lt.1 havailable, ?_⟩
  intro minimum hmin
  by_contra hbelow
  exact hminimum (by simp [belowMinimum, hmin, not_le.1 hbelow])

def orderedDb (env : Env) (id : Id) (offer : Offer) (listing : Listing) (unitPrice quantity : ℚ)
    (db : Db) : Db :=
  recordOrderEvent env (some db.orders.size) .orderCreated
    { setOfferStatus id .accepted db with
      orders := db.orders.create
        (orderOfOffer env id offer listing listing.sellerId unitPrice quantity) }

theorem acceptOfferAndCreateOrder_eq_ok {id : Id} {sellerId : Id}
    (h : acceptOfferAndCreateOrder env id offer unitPrice sellerId db = .ok db') :
    exists listing quantity,
      db.listings.findUnique offer.listingId = some listing ∧
      listing.sellerId = sellerId ∧
      Orderable offer listing unitPrice quantity ∧
      hasRunningOrder db offer.listingId = false ∧
      db' = orderedDb env id offer listing unitPrice quantity db := by
  unfold acceptOfferAndCreateOrder at h
  split at h
  · cases h
  · rename_i listing hlisting
    rw [bind_eq_ok] at h
    obtain ⟨quantity, hcheck, h⟩ := h
    rw [bind_eq_ok] at h
    obtain ⟨claimed, hclaim, h⟩ := h
    obtain ⟨hseller, horderable⟩ := assertOrderable_eq_ok hcheck
    obtain ⟨-, rfl⟩ := claimOffer_eq_ok hclaim
    obtain ⟨hrunning, h⟩ := guard_eq_ok.mp h
    obtain rfl := Except.ok.inj h
    subst hseller
    exact ⟨listing, quantity, hlisting, rfl, horderable,
      Bool.not_eq_true _ ▸ hrunning, rfl⟩

/-! ## Moves -/

def OfferCaller.mayActAs (caller : OfferCaller) (party : Id) : Prop :=
  party = caller.id ∨ caller.isAdmin = true

def counterPartyId (o : Offer) (listing : Listing) : OfferCounterParty -> Id
  | .buyer => o.buyerId
  | .seller => listing.sellerId

def OfferCounterParty.other : OfferCounterParty -> OfferCounterParty
  | .buyer => .seller
  | .seller => .buyer

/-- The price of the row that a party may accept. -/
inductive Agreeable (caller : OfferCaller) (o : Offer) (listing : Listing) : ℚ -> Prop where
  /-- The buyer accepts the bid that the seller has selected. -/
  | ownSelected (hstatus : o.status = .selected) (hrole : caller.mayActAs o.buyerId) :
      Agreeable caller o listing o.amount
  /-- The seller accepts the selected bid. -/
  | selected (hstatus : o.status = .selected) (hrole : caller.mayActAs listing.sellerId) :
      Agreeable caller o listing o.amount
  /-- A party accepts the counter of the other one. -/
  | countered (party : OfferCounterParty) (hstatus : o.status = .countered)
      (hby : o.counteredBy = some party.other)
      (hrole : caller.mayActAs (counterPartyId o listing party)) :
      Agreeable caller o listing (o.counterAmount.getD 0)

inductive OfferMove (env : Env) (caller : OfferCaller) (id : Id) (o : Offer)
    (listing : Listing) (db : Db) : Db -> Prop where
  | selected (hstatus : o.status = .pending) (hrole : caller.mayActAs listing.sellerId)
      (hfree : forall active, activeNegotiation db o.listingId = some active ->
        active.2.buyerId = o.buyerId)
      (hrunning : hasRunningOrder db o.listingId = false) :
      OfferMove env caller id o listing db (setOfferStatus id .selected db)
  | agreed (price : ℚ) (hprice : 0 < price) (hagree : Agreeable caller o listing price) :
      OfferMove env caller id o listing db (setOfferStatus id .provisional db)
  | countered (party : OfferCounterParty) (amount : ℚ) (expiresAt : Option Nat)
      (hrole : caller.mayActAs (counterPartyId o listing party))
      (hstatus : o.status = .selected ∨
        (o.status = .countered ∧ o.counteredBy = some party.other))
      (hpositive : 0 < amount) (hlimit : amount ≤ offerAmountLimit) :
      OfferMove env caller id o listing db
        { setOfferStatus id .countered db with
          offers := (setOfferStatus id .countered db).offers.create
            (counterRow id o amount party expiresAt env.now) }
  | closed (status : OfferStatus) (hclosed : status = .withdrawn ∨ status = .rejected) :
      OfferMove env caller id o listing db (closeLeafOffer id o status db)
  | confirmed (quantity : ℚ) (hstatus : o.status = .provisional)
      (horderable : Orderable o listing o.confirmedPrice quantity)
      (hrunning : hasRunningOrder db o.listingId = false) :
      OfferMove env caller id o listing db
        (orderedDb env id o listing o.confirmedPrice quantity db)

/-- The context in which a handler runs: the loaded row and the roles of the caller. -/
structure OfferContext.Loads (ctx : OfferContext) (caller : OfferCaller) (listing : Listing)
    (db : Db) : Prop where
  loaded : db.offers.findUnique ctx.id = some ctx.offer
  listed : db.listings.findUnique ctx.offer.listingId = some listing
  seller : ctx.isSeller = true -> listing.sellerId = caller.id
  buyer : ctx.isBuyer = true -> ctx.offer.buyerId = caller.id
  admin : ctx.admin = true -> caller.isAdmin = true

section Handlers

variable {env : Env} {ctx : OfferContext} {caller : OfferCaller} {listing : Listing}
  {db db' : Db}

variable {message : String}

theorem OfferContext.Loads.sellerRole (hctx : ctx.Loads caller listing db)
    (h : assertRole (ctx.isSeller || ctx.admin) message = .ok ()) :
    caller.mayActAs listing.sellerId := by
  cases Bool.or_eq_true _ _ ▸ assertRole_eq_ok h with
  | inl hseller =>
      exact Or.inl (hctx.seller hseller)
  | inr hadmin =>
      exact Or.inr (hctx.admin hadmin)

theorem OfferContext.Loads.buyerRole (hctx : ctx.Loads caller listing db)
    (h : assertRole (ctx.isBuyer || ctx.admin) message = .ok ()) :
    caller.mayActAs ctx.offer.buyerId := by
  cases Bool.or_eq_true _ _ ▸ assertRole_eq_ok h with
  | inl hbuyer =>
      exact Or.inl (hctx.buyer hbuyer)
  | inr hadmin =>
      exact Or.inr (hctx.admin hadmin)

theorem OfferContext.Loads.fresh (hctx : ctx.Loads caller listing db) {status : Nat}
    {fresh : Offer} {listing' : Listing}
    (h : freshLeaf ctx message status db = .ok (fresh, listing')) :
    isLeafOffer db ctx.id = true ∧ fresh = ctx.offer ∧ listing' = listing := by
  obtain ⟨hfind, hlisting⟩ := freshLeaf_eq_ok h
  obtain ⟨hrow, hleaf⟩ := findLeafOffer_eq_some_iff.1 hfind
  obtain rfl : ctx.offer = fresh := by simpa [hctx.loaded] using hrow
  obtain rfl : listing = listing' := by simpa [hctx.listed] using hlisting
  exact ⟨hleaf, rfl, rfl⟩

theorem OfferContext.Loads.leaf (hctx : ctx.Loads caller listing db) {fresh : Offer}
    (h : findLeafOffer db ctx.id = some fresh) :
    isLeafOffer db ctx.id = true ∧ fresh = ctx.offer := by
  obtain ⟨hrow, hleaf⟩ := findLeafOffer_eq_some_iff.1 h
  obtain rfl : ctx.offer = fresh := by simpa [hctx.loaded] using hrow
  exact ⟨hleaf, rfl⟩

abbrev LeafMove (env : Env) (caller : OfferCaller) (ctx : OfferContext) (listing : Listing)
    (db db' : Db) : Prop :=
  isLeafOffer db ctx.id = true ∧ OfferMove env caller ctx.id ctx.offer listing db db'

theorem selectOffer_move (hctx : ctx.Loads caller listing db)
    (h : selectOffer env ctx db = .ok db') :
    LeafMove env caller ctx listing db db' := by
  unfold selectOffer at h
  simp only [bind_eq_ok] at h
  obtain ⟨_, hrole, _, -, ⟨fresh, listing'⟩, hfresh, h⟩ := h
  obtain ⟨hleaf, rfl, rfl⟩ := hctx.fresh hfresh
  replace h := (guard_eq_ok.mp h).2
  simp only [bind_eq_ok] at h
  obtain ⟨_, -, _, hpending, _, -, h⟩ := h
  simp only [guard_eq_ok] at h
  obtain ⟨hfree, hrunning, h⟩ := h
  obtain ⟨-, rfl⟩ := claimOffer_eq_ok h
  refine ⟨hleaf, .selected ?_ (hctx.sellerRole hrole) ?_ ?_⟩
  · simpa using assertOfferStatus_eq_ok hpending
  · intro active hactive
    simpa [hactive] using hfree
  · simpa using hrunning

theorem acceptSelected_move (hctx : ctx.Loads caller listing db)
    (h : acceptSelected env ctx db = .ok db') :
    LeafMove env caller ctx listing db db' := by
  unfold acceptSelected at h
  simp only [bind_eq_ok] at h
  obtain ⟨_, hrole, _, hstatus, ⟨fresh, listing'⟩, hfresh, _, -, _, -, h⟩ := h
  obtain ⟨hleaf, rfl, rfl⟩ := hctx.fresh hfresh
  obtain ⟨hprice, rfl⟩ := moveOfferToProvisional_eq_ok h
  have hselected : ctx.offer.status = .selected := by
    simpa using assertOfferStatus_eq_ok hstatus
  exact ⟨hleaf, .agreed _ hprice (.ownSelected hselected (hctx.buyerRole hrole))⟩

theorem acceptCounter_move (hctx : ctx.Loads caller listing db)
    (h : acceptCounter env ctx db = .ok db') :
    LeafMove env caller ctx listing db db' := by
  unfold acceptCounter at h
  simp only [bind_eq_ok] at h
  obtain ⟨_, hrole, _, hstatus, _, hturn, _, -, ⟨fresh, listing'⟩, hfresh, _, -, _, -, _, -,
    _, -, h⟩ := h
  obtain ⟨hleaf, rfl, rfl⟩ := hctx.fresh hfresh
  obtain ⟨hprice, rfl⟩ := moveOfferToProvisional_eq_ok h
  have hcountered : ctx.offer.status = .countered := by
    simpa using assertOfferStatus_eq_ok hstatus
  exact ⟨hleaf, .agreed _ hprice
    (.countered .buyer hcountered (assertTurn_eq_ok hturn hcountered) (hctx.buyerRole hrole))⟩

theorem acceptOffer_move (hctx : ctx.Loads caller listing db)
    (h : acceptOffer env ctx db = .ok db') :
    LeafMove env caller ctx listing db db' := by
  unfold acceptOffer at h
  simp only [bind_eq_ok] at h
  obtain ⟨_, hrole, _, hstatus, _, hturn, ⟨fresh, listing'⟩, hfresh, _, -, _, -, _, -, _, -,
    h⟩ := h
  obtain ⟨hleaf, rfl, rfl⟩ := hctx.fresh hfresh
  obtain ⟨hprice, rfl⟩ := moveOfferToProvisional_eq_ok h
  refine ⟨hleaf, .agreed _ hprice ?_⟩
  unfold Offer.acceptedPrice
  split
  · rename_i hcountered
    exact .countered .seller hcountered (assertTurn_eq_ok hturn hcountered)
      (hctx.sellerRole hrole)
  · rename_i hcountered
    have hselected : ctx.offer.status = .selected := by
      simpa [hcountered] using assertOfferStatus_eq_ok hstatus
    exact .selected hselected (hctx.sellerRole hrole)

theorem placeCounter_move (hctx : ctx.Loads caller listing db) {party : OfferCounterParty}
    {amount : ℚ} {verb expired turn : String} {value : Option JsNumber}
    (hrole : caller.mayActAs (counterPartyId ctx.offer listing party))
    (hamount : amountProblem value = .ok amount)
    (h : placeCounter env ctx amount party party.other verb expired turn db = .ok db') :
    LeafMove env caller ctx listing db db' := by
  unfold placeCounter at h
  simp only [bind_eq_ok] at h
  obtain ⟨⟨fresh, listing'⟩, hfresh, _, -, _, hstatus, _, hturn, _, -, expiresAt, -, h⟩ := h
  obtain ⟨hleaf, rfl, rfl⟩ := hctx.fresh hfresh
  obtain rfl := Except.ok.inj h
  obtain ⟨hpositive, hlimit⟩ := amountProblem_eq_ok hamount
  refine ⟨hleaf, .countered party amount expiresAt hrole ?_ hpositive hlimit⟩
  have hmem : ctx.offer.status = .selected ∨ ctx.offer.status = .countered := by
    simpa using assertOfferStatus_eq_ok hstatus
  exact hmem.imp_right fun hcountered => ⟨hcountered, assertTurn_eq_ok hturn hcountered⟩

theorem counterOffer_move (hctx : ctx.Loads caller listing db) {counterAmount : Option JsNumber}
    (h : counterOffer env ctx counterAmount db = .ok db') :
    LeafMove env caller ctx listing db db' := by
  unfold counterOffer at h
  simp only [bind_eq_ok] at h
  obtain ⟨_, hrole, amount, hamount, _, -, _, -, h⟩ := h
  have hseller : caller.mayActAs (counterPartyId ctx.offer listing .seller) :=
    hctx.sellerRole hrole
  exact placeCounter_move hctx hseller hamount h

theorem reCounter_move (hctx : ctx.Loads caller listing db) {counterAmount : Option JsNumber}
    (h : reCounter env ctx counterAmount db = .ok db') :
    LeafMove env caller ctx listing db db' := by
  unfold reCounter at h
  simp only [bind_eq_ok] at h
  obtain ⟨_, hrole, _, -, _, -, amount, hamount, h⟩ := h
  have hbuyer : caller.mayActAs (counterPartyId ctx.offer listing .buyer) :=
    hctx.buyerRole hrole
  exact placeCounter_move hctx hbuyer hamount h

theorem rejectOrWithdraw_move (hctx : ctx.Loads caller listing db) {isWithdraw : Bool}
    (h : rejectOrWithdraw isWithdraw ctx db = .ok db') :
    LeafMove env caller ctx listing db db' := by
  unfold rejectOrWithdraw at h
  simp only [bind_eq_ok] at h
  obtain ⟨_, -, _, -, _, -, h⟩ := h
  split at h
  · cases h
  · rename_i fresh hfresh
    obtain ⟨hleaf, rfl⟩ := hctx.leaf hfresh
    rw [bind_eq_ok] at h
    obtain ⟨_, -, h⟩ := h
    obtain rfl := Except.ok.inj h
    refine ⟨hleaf, .closed _ ?_⟩
    cases isWithdraw with
    | false => exact Or.inr rfl
    | true => exact Or.inl rfl

theorem releaseBuyer_move (hctx : ctx.Loads caller listing db)
    (h : releaseBuyer env ctx db = .ok db') :
    LeafMove env caller ctx listing db db' := by
  unfold releaseBuyer at h
  rw [bind_eq_ok] at h
  obtain ⟨_, -, h⟩ := h
  simp only [guard_eq_ok] at h
  obtain ⟨-, -, h⟩ := h
  split at h
  · cases h
  · rename_i fresh hfresh
    obtain ⟨hleaf, rfl⟩ := hctx.leaf hfresh
    split at h
    · obtain rfl := Except.ok.inj h
      exact ⟨hleaf, .closed _ (Or.inl rfl)⟩
    · cases h

theorem releaseProvisional_move (hctx : ctx.Loads caller listing db)
    {reason note : Option String} {withinLimit : Bool}
    (h : releaseProvisional env ctx reason note withinLimit db = .ok db') :
    LeafMove env caller ctx listing db db' := by
  unfold releaseProvisional at h
  simp only [bind_eq_ok] at h
  obtain ⟨_, -, _, -, _, -, _, -, h⟩ := h
  split at h
  · cases h
  · split at h
    · cases h
    · rename_i fresh hfresh
      obtain ⟨hleaf, rfl⟩ := hctx.leaf hfresh
      simp only [bind_eq_ok] at h
      obtain ⟨_, -, _, -, h⟩ := h
      obtain rfl := Except.ok.inj h
      exact ⟨hleaf, .closed _ (Or.inl rfl)⟩

theorem confirmProvisional_move (hctx : ctx.Loads caller listing db)
    (h : confirmProvisional env ctx db = .ok db') :
    LeafMove env caller ctx listing db db' := by
  unfold confirmProvisional at h
  simp only [bind_eq_ok] at h
  obtain ⟨_, -, _, hstatus, ⟨fresh, listing'⟩, hfresh, _, -, _, -, h⟩ := h
  obtain ⟨hleaf, rfl, rfl⟩ := hctx.fresh hfresh
  obtain ⟨found, quantity, hfound, -, horderable, hrunning, rfl⟩ :=
    acceptOfferAndCreateOrder_eq_ok h
  obtain rfl : listing' = found := by simpa [hctx.listed] using hfound
  have hprovisional : ctx.offer.status = .provisional := by
    simpa using assertOfferStatus_eq_ok hstatus
  exact ⟨hleaf, .confirmed quantity hprovisional horderable hrunning⟩

theorem handleAction_move (hctx : ctx.Loads caller listing db) {action : OfferAction}
    (h : handleAction env ctx action db = .ok db') :
    LeafMove env caller ctx listing db db' := by
  cases action with
  | accept => exact acceptOffer_move hctx h
  | reject => exact rejectOrWithdraw_move hctx h
  | counter counterAmount => exact counterOffer_move hctx h
  | acceptCounter => exact acceptCounter_move hctx h
  | acceptSelected => exact acceptSelected_move hctx h
  | reCounter counterAmount => exact reCounter_move hctx h
  | select => exact selectOffer_move hctx h
  | withdraw => exact rejectOrWithdraw_move hctx h
  | release => exact releaseBuyer_move hctx h
  | confirmProvisional => exact confirmProvisional_move hctx h
  | releaseProvisional reason note withinLimit => exact releaseProvisional_move hctx h

end Handlers

/-- What a call of `PATCH /offers/:id` leaves. -/
inductive OfferResponse (env : Env) (caller : OfferCaller) (id : Id) (db : Db) : Db -> Prop where
  | refused : OfferResponse env caller id db db
  | expired : OfferResponse env caller id db (setOfferStatus id .expired db)
  | moved (o : Offer) (listing : Listing) (db' : Db)
      (hoffer : db.offers.findUnique id = some o)
      (hlisting : db.listings.findUnique o.listingId = some listing)
      (hleaf : isLeafOffer db id = true)
      (hmove : OfferMove env caller id o listing db db') :
      OfferResponse env caller id db db'

theorem respondToOffer_response (env : Env) (caller : OfferCaller) (updatedAt : Nat) (id : Id)
    (action : OfferAction) (db : Db) :
    OfferResponse env caller id db (respondToOffer env caller updatedAt id action db).1 := by
  unfold respondToOffer
  split
  · exact .refused
  · rename_i offer hoffer
    split
    · exact .refused
    · rename_i listing hlisting
      dsimp only
      split
      · exact .refused
      · split
        · unfold expireOfferIfNeeded
          split
          · exact .expired
          · exact .refused
        · split
          · rename_i db' hhandled
            obtain ⟨hleaf, hmove⟩ := @handleAction_move _ _ caller listing _ _
              ⟨hoffer, hlisting, of_decide_eq_true, of_decide_eq_true, fun h => h⟩ _ hhandled
            exact .moved offer listing _ hoffer hlisting hleaf hmove
          · exact .refused

end MarketBridge
