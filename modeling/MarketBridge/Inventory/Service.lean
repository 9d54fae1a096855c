import MarketBridge.Order.Record

/-!
# Listing inventory

`commitListingQuantity` takes the quantity of an order from its listing when
the goods payment settles, `releaseListingQuantity` gives it back when the
order is cancelled.
-/

namespace MarketBridge

open Relational

def epsilon : ℚ :=
  1 / 10 ^ 9

def normalizeQuantity (value : ℚ) (field : String) : Except ApiError ℚ :=
  if value ≤ 0 then
    .error
      { message := field ++ " must be greater than zero"
        status := some 400 }
  else
    .ok value

def ListingCategory.isPhysical (c : ListingCategory) : Bool :=
  c ∈ [ListingCategory.agricultural, .product]

namespace Listing

def canCommit (l : Listing) (quantity : ℚ) : Bool :=
  l.category.isPhysical && l.status ∈ [ListingStatus.active, .underNegotiation] &&
    quantity ≤ l.availableQuantity

def take (l : Listing) (quantity : ℚ) : Listing :=
  let remaining := l.availableQuantity - quantity
  { l with
    availableQuantity := remaining
    status := if remaining ≤ epsilon then .sold else .underNegotiation }

def giveBack (l : Listing) (quantity : ℚ) (activeOffers : Bool) : Listing :=
  let restored := min l.quantity (l.availableQuantity + quantity)
  { l with
    availableQuantity := restored
    status :=
      if restored ≤ epsilon then .sold
      else if activeOffers then .underNegotiation
      else .active }

end Listing

def insufficientInventoryError : ApiError :=
  { message := "Requested quantity is no longer available for payment commitment"
    status := some 409
    code := some "INSUFFICIENT_INVENTORY" }

def Offer.isWaitingOn (o : Offer) (listingId : Id) : Bool :=
  o.listingId = listingId && o.status ∈ [OfferStatus.pending, .countered, .selected]

def rejectWaitingOffers (listingId : Id) (db : Db) : Db :=
  { db with
    offers := db.offers.updateMany (fun _ o => o.isWaitingOn listingId)
      ({ · with status := .rejected }) }

/-- The database once `quantity` has been taken from the listing. -/
def takeListingQuantity (listingId : Id) (listing : Listing) (quantity : ℚ)
    (db : Db) : Db :=
  let db' := { db with
    listings := db.listings.update listingId fun l => l.take quantity }
  if listing.availableQuantity - quantity ≤ epsilon then
    rejectWaitingOffers listingId db'
  else
    db'

def commitListingQuantity (listingId : Id) (requestedQuantity : ℚ) : Tx :=
  fun db => do
    let quantity ← normalizeQuantity requestedQuantity "quantity"
    match db.listings.findUnique listingId with
    | none => .error insufficientInventoryError
    | some listing =>
        if listing.canCommit quantity then
          .ok (takeListingQuantity listingId listing quantity db)
        else
          .error insufficientInventoryError

/--
What `releaseListingQuantity` takes for a committed order: any status after
`PENDING_PAYMENT`, or a goods payment that was received.
-/
def OrderRecord.inferredCommitted (order : OrderRecord) : Bool :=
  order.status ≠ .pendingPayment || order.payments.any fun p =>
    p.type = some .marketplace &&
      p.status ∈ [PaymentStatus.paid, .refundPending, .refunded]

def hasActiveOffers (db : Db) (listingId : Id) : Bool :=
  db.offers.any fun _ o =>
    o.listingId = listingId && o.status ∈ [OfferStatus.pending, .countered]

/--
Give the quantity of a cancelled order back to its listing.  The result is
`none` when nothing is restored.
-/
def releaseListingQuantity (order : OrderRecord) (db : Db) :
    Except ApiError (Option Db) :=
  if order.inferredCommitted then do
    let quantity ← normalizeQuantity order.quantity "order quantity"
    match db.listings.findUnique order.listingId with
    | none => .ok none
    | some listing =>
        if listing.category.isPhysical then
          let activeOffers := hasActiveOffers db order.listingId
          .ok (some { db with
            listings := db.listings.update order.listingId fun l =>
              l.giveBack quantity activeOffers })
        else
          .ok none
  else
    .ok none

/-! ## What a commitment and a release do -/

theorem normalizeQuantity_eq_ok_iff {value quantity : ℚ} {field : String} :
    normalizeQuantity value field = .ok quantity ↔ 0 < value ∧ quantity = value := by
  unfold normalizeQuantity
  by_cases h : value ≤ 0
  · simp [h, not_lt.mpr h]
  · simp only [h, if_false, Except.ok.injEq, not_le.mp h, true_and]
    exact eq_comm

theorem commitListingQuantity_eq_ok_iff
    {listingId : Id} {quantity : ℚ} {db db' : Db} :
    commitListingQuantity listingId quantity db = .ok db' ↔
      0 < quantity ∧ exists listing,
        db.listings.findUnique listingId = some listing ∧
        listing.canCommit quantity = true ∧
        db' = takeListingQuantity listingId listing quantity db := by
  unfold commitListingQuantity
  rw [bind_eq_ok]
  constructor
  · rintro ⟨q, hq, hwrite⟩
    obtain ⟨hpos, rfl⟩ := normalizeQuantity_eq_ok_iff.mp hq
    refine ⟨hpos, ?_⟩
    cases hl : db.listings.findUnique listingId with
    | none =>
        simp [hl] at hwrite
    | some listing =>
        by_cases hcan : listing.canCommit q = true
        · simp only [hl, hcan, if_true, Except.ok.injEq] at hwrite
          exact ⟨listing, rfl, hcan, hwrite.symm⟩
        · simp [hl, hcan] at hwrite
  · rintro ⟨hpos, listing, hl, hcan, rfl⟩
    exact ⟨quantity, normalizeQuantity_eq_ok_iff.mpr ⟨hpos, rfl⟩, by simp [hl, hcan]⟩

@[simp] theorem takeListingQuantity_listings
    (listingId : Id) (listing : Listing) (quantity : ℚ) (db : Db) :
    (takeListingQuantity listingId listing quantity db).listings =
      db.listings.update listingId fun l => l.take quantity := by
  unfold takeListingQuantity rejectWaitingOffers
  split <;> rfl

theorem takeListingQuantity_frame
    (listingId : Id) (listing : Listing) (quantity : ℚ) (db : Db) :
    exists listings offers,
      takeListingQuantity listingId listing quantity db =
        { db with listings := listings, offers := offers } := by
  unfold takeListingQuantity rejectWaitingOffers
  split
  · exact ⟨_, _, rfl⟩
  · exact ⟨_, db.offers, rfl⟩

theorem releaseListingQuantity_eq_ok_some
    {order : OrderRecord} {db db' : Db}
    (h : releaseListingQuantity order db = .ok (some db')) :
    order.inferredCommitted = true ∧ 0 < order.quantity ∧ exists listing,
      db.listings.findUnique order.listingId = some listing ∧
      listing.category.isPhysical = true ∧
      db' = { db with
        listings := db.listings.update order.listingId fun l =>
          l.giveBack order.quantity (hasActiveOffers db order.listingId) } := by
  unfold releaseListingQuantity at h
  by_cases hinferred : order.inferredCommitted = true
  · simp only [hinferred, if_true] at h
    rw [bind_eq_ok] at h
    obtain ⟨q, hq, hwrite⟩ := h
    obtain ⟨hpos, rfl⟩ := normalizeQuantity_eq_ok_iff.mp hq
    refine ⟨hinferred, hpos, ?_⟩
    cases hl : db.listings.findUnique order.listingId with
    | none =>
        simp [hl] at hwrite
    | some listing =>
        by_cases hphys : listing.category.isPhysical = true
        · simp only [hl, hphys, if_true, Except.ok.injEq, Option.some.injEq] at hwrite
          exact ⟨listing, rfl, hphys, hwrite.symm⟩
        · simp [hl, hphys] at hwrite
  · simp [hinferred] at h

theorem releaseListingQuantity_eq_ok_none
    {order : OrderRecord} {db : Db}
    (h : releaseListingQuantity order db = .ok none) :
    order.inferredCommitted = false ∨ 0 < order.quantity ∧
      forall listing, db.listings.findUnique order.listingId = some listing ->
        listing.category.isPhysical = false := by
  unfold releaseListingQuantity at h
  by_cases hinferred : order.inferredCommitted = true
  · right
    simp only [hinferred, if_true] at h
    rw [bind_eq_ok] at h
    obtain ⟨q, hq, hwrite⟩ := h
    obtain ⟨hpos, rfl⟩ := normalizeQuantity_eq_ok_iff.mp hq
    refine ⟨hpos, ?_⟩
    intro listing hl
    by_contra hphys
    simp [hl, hphys] at hwrite
  · exact Or.inl (by simpa using hinferred)

end MarketBridge
