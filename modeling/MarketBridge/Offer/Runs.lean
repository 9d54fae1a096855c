import MarketBridge.Listing.Stock

/-!
# Offers over runs

A row of a negotiation is written once: what a later step changes is its status, and an offer
that has ended does not come back.
-/

namespace MarketBridge

open Relational

variable {env : Env} {db db' : Db} {offers offers' : Table Offer}

/-- The row says the same, and its status has moved on. -/
structure OfferAged (_ : Id) (o o' : Offer) : Prop where
  terms : o' = { o with status := o'.status }
  waits : o'.status = .pending -> o.status = .pending
  active : o'.status.isActive = true -> o.status.isActive = true
  engaged : o'.status.isEngaged = true -> o.status.isEngaged = true

def OffersAge (offers offers' : Table Offer) : Prop :=
  forall i o, offers.findUnique i = some o ->
    exists o', offers'.findUnique i = some o' ∧ OfferAged i o o'

namespace OfferAged

variable {i : Id} {o o' o'' : Offer} {s : OfferStatus}

theorem refl (i : Id) (o : Offer) : OfferAged i o o :=
  ⟨rfl, id, id, id⟩

theorem trans (h : OfferAged i o o') (h' : OfferAged i o' o'') : OfferAged i o o'' := by
  refine ⟨?_, h.waits ∘ h'.waits, h.active ∘ h'.active, h.engaged ∘ h'.engaged⟩
  rw [h'.terms, h.terms]

theorem of_ended (hs : s.isEngaged = false) : OfferAged i o { o with status := s } := by
  refine ⟨rfl, ?_, ?_, ?_⟩
  all_goals
    intro h
    cases s <;> cases hs <;> cases h

theorem of_active (ho : o.status.isActive = true) (hs : s ≠ .pending) :
    OfferAged i o { o with status := s } := by
  refine ⟨rfl, fun h => absurd h hs, fun _ => ho, fun _ => ?_⟩
  rw [OfferStatus.isEngaged, ho, Bool.true_or]

end OfferAged

namespace OffersAge

theorem of_eq (h : offers' = offers) : OffersAge offers offers' :=
  fun i o ho => ⟨o, h ▸ ho, .refl i o⟩

theorem trans {offers'' : Table Offer} (h : OffersAge offers offers')
    (h' : OffersAge offers' offers'') :
    OffersAge offers offers'' := by
  intro i o ho
  obtain ⟨o', ho', hage⟩ := h i o ho
  obtain ⟨o'', ho'', hage'⟩ := h' i o' ho'
  exact ⟨o'', ho'', hage.trans hage'⟩

theorem updateMany {p : Id -> Offer -> Bool} {s : OfferStatus}
    (h : forall i o, offers.findUnique i = some o -> p i o = true ->
      OfferAged i o { o with status := s }) :
    OffersAge offers (offers.updateMany p ({ · with status := s })) :=
  fun _ _ ho => (Table.rel_updateMany OfferAged.refl h).of_left ho

theorem ended {p : Id -> Offer -> Bool} {s : OfferStatus} (hs : s.isEngaged = false) :
    OffersAge offers (offers.updateMany p ({ · with status := s })) :=
  updateMany fun _ _ _ _ => .of_ended hs

theorem goesOn {id : Id} {o : Offer} {s : OfferStatus} (ho : offers.findUnique id = some o)
    (hactive : o.status.isActive = true) (hs : s ≠ .pending) :
    OffersAge offers (offers.update id ({ · with status := s })) := by
  refine updateMany fun i q hq hi => ?_
  obtain rfl := beq_iff_eq.mp hi
  obtain rfl := Option.some.inj (ho.symm.trans hq)
  exact .of_active hactive hs

theorem create (o : Offer) : OffersAge offers (offers.create o) :=
  fun i q hq => ⟨q, Table.findUnique_create_of_some hq, .refl i q⟩

end OffersAge

/-! ## Steps -/

theorem promoteNextWaitingBuyer_offersAge (env : Env) (listingId : Id) (db : Db) :
    OffersAge db.offers (promoteNextWaitingBuyer env listingId db).offers := by
  have hexpired : OffersAge db.offers (expireWaitingOffers env listingId db).offers :=
    .ended rfl
  have hpromoted := promoteNextWaitingBuyer_promoted env listingId db
  generalize promoteNextWaitingBuyer env listingId db = db' at hpromoted ⊢
  cases hpromoted with
  | nobody => exact hexpired
  | selected id next hfind _ hpending _ =>
      refine hexpired.trans (.goesOn hfind ?_ (by decide))
      rw [hpending]
      rfl

theorem expireOffers_offersAge (env : Env) (db : Db) :
    OffersAge db.offers (expireOffers env db).offers := by
  unfold expireOffers
  generalize (db.offers.findMany fun _ o => o.isOverdue env).take 500 = picks
  induction picks generalizing db with
  | nil => exact .of_eq rfl
  | cons pick picks ih =>
      refine OffersAge.trans ?_ (ih _)
      unfold expirePickedOffer
      split
      · have hexpired : OffersAge db.offers (setOfferStatus pick.1 .expired db).offers :=
          .ended rfl
        dsimp only
        split
        · exact hexpired.trans (promoteNextWaitingBuyer_offersAge env _ _)
        · exact hexpired
      · exact .of_eq rfl

theorem OfferAnswer.offersAge {caller : OfferCaller} {id : Id} {action : OfferAction}
    (h : OfferAnswer env caller id action db db') :
    OffersAge db.offers db'.offers := by
  cases h with
  | refused => exact .of_eq rfl
  | expired => exact .ended rfl
  | moved o listing _ hoffer _ _ _ hmove _ =>
      cases hmove with
      | selected hstatus =>
          exact .goesOn hoffer (by rw [hstatus]; rfl) (by decide)
      | agreed price _ hagree =>
          refine .goesOn hoffer ?_ (by decide)
          cases hagree with
          | ownSelected hstatus => rw [hstatus]; rfl
          | selected hstatus => rw [hstatus]; rfl
          | countered _ hstatus => rw [hstatus]; rfl
      | countered party amount expiresAt _ hstatus =>
          refine OffersAge.trans (.goesOn hoffer ?_ (by decide)) (.create _)
          rcases hstatus with hstatus | ⟨hstatus, -⟩
          · rw [hstatus]
            rfl
          · rw [hstatus]
            rfl
      | closed status hclosed =>
          have hended : OffersAge db.offers (setOfferStatus id status db).offers := by
            refine .ended ?_
            rcases hclosed with rfl | rfl <;> rfl
          unfold closeLeafOffer
          dsimp only
          split
          · exact hended
          · exact hended
      | confirmed quantity hstatus =>
          obtain ⟨_, hframe⟩ := orderedDb_frame env id o listing o.confirmedPrice quantity db
          rw [hframe]
          exact .goesOn hoffer (by rw [hstatus]; rfl) (by decide)

theorem StallMove.offersAge (h : StallMove db db') : OffersAge db.offers db'.offers := by
  cases h with
  | kept _ _ hoffers => exact .of_eq hoffers
  | arranged _ _ _ hoffers => exact .of_eq hoffers
  | confirmed _ order _ _ _ _ _ htaken _ _ hoffers =>
      rw [hoffers]
      cases htaken with
      | untouched => exact .of_eq rfl
      | taken listing =>
          unfold takeListingQuantity
          dsimp only
          split
          · exact .ended rfl
          · exact .of_eq rfl

theorem StallMoves.offersAge (h : StallMoves db db') : OffersAge db.offers db'.offers := by
  induction h with
  | refl => exact .of_eq rfl
  | tail _ hmove ih => exact ih.trans hmove.offersAge

theorem settlePayment_offersAge {args : SettleArgs} (h : settlePayment env args db = .ok db') :
    OffersAge db.offers db'.offers := by
  obtain ⟨planned, paymentId, hsettled, -, rfl⟩ := settlePayment_stall h
  refine (StallMoves.offersAge hsettled.moves).trans ?_
  unfold releaseBiddersAfter
  split
  · exact .of_eq rfl
  · exact .ended rfl

theorem releaseWinner_offersAge (record : OrderRecord) (db : Db) :
    OffersAge db.offers (releaseWinner env record db).offers := by
  unfold releaseWinner
  split
  · have hended : OffersAge db.offers (db.offers.updateMany
        (fun i o => some i = record.agreedOfferId && o.status = .accepted)
        ({ · with status := .withdrawn })) := .ended rfl
    exact hended.trans (promoteNextWaitingBuyer_offersAge env record.listingId { db with
      offers := db.offers.updateMany
        (fun i o => some i = record.agreedOfferId && o.status = .accepted)
        ({ · with status := .withdrawn }) })
  · exact .of_eq rfl

theorem StallCancelled.offersAge {record : OrderRecord} (h : StallCancelled env record db db') :
    OffersAge db.offers db'.offers := by
  have hage : OffersAge db.offers (releaseWinner env record { db with
      listings := db.listings.update record.listingId (record.returned db) }).offers :=
    releaseWinner_offersAge record { db with
      listings := db.listings.update record.listingId (record.returned db) }
  rwa [h.offers]

theorem ListingStep.offersAge (db : Db) (a : Env × ListingStep) :
    OffersAge db.offers (step db a).offers := by
  obtain ⟨env, a⟩ := a
  have heffect := ListingStep.stallEffect env db a
  generalize step db (env, a) = db' at heffect ⊢
  cases heffect with
  | kept _ _ hkept => exact .of_eq hkept.offers
  | created => exact .of_eq rfl
  | closed => exact .of_eq rfl
  | windowsEnded =>
      obtain ⟨_, -, hframe⟩ := expireListings_kept_tables env db
      exact .of_eq (by rw [hframe])
  | recovered _ _ _ _ _ _ _ _ _ _ hoffers =>
      rw [hoffers]
      exact .ended rfl
  | bid => exact .create _
  | answered _ _ _ _ _ _ hanswer => exact hanswer.offersAge
  | offersExpired => exact expireOffers_offersAge env db
  | settled _ _ _ hsettle => exact settlePayment_offersAge hsettle
  | shipped => exact .of_eq rfl
  | received _ _ _ _ _ _ _ _ hoffers => exact .of_eq hoffers
  | raised _ _ _ _ _ _ _ _ _ hoffers => exact .of_eq hoffers
  | cancelled _ _ _ _ _ _ _ _ _ hcancelled => exact hcancelled.offersAge
  | resolvedByCancelling _ _ _ _ _ _ cancelled _ _ hcancelled => exact hcancelled.offersAge
  | resolvedByRestoring _ _ _ _ _ _ _ replayed _ _ _ _ hoffers hreplayed =>
      change OffersAge db.offers replayed.offers
      exact OffersAge.trans (.of_eq hoffers) (StallMoves.offersAge hreplayed)

/-- In every run an offer keeps its terms, and one that has ended does not come back. -/
theorem offers_neverRevived (db : Db) (as : List (Env × ListingStep)) :
    OffersAge db.offers (run ListingStep.step db as).offers :=
  @run_preserves _ _ _ (fun s : Db => OffersAge db.offers s.offers)
    (fun s a h => h.trans (ListingStep.offersAge s a)) _ (.of_eq rfl) as

end MarketBridge
