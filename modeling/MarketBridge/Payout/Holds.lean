import MarketBridge.Ledger.Earnings

/-!
# New payouts

A payout keeps its payment, its payee and its amount, whatever becomes of it.  New ones come
from settlements, and from the replay of received payments when a dispute ends.
-/

namespace MarketBridge

open Relational

def Payout.terms (payout : Payout) : Id × Id × ℚ :=
  (payout.paymentId, payout.payeeId, payout.amount)

abbrev HoldsGained (may : Id × Id × ℚ -> Prop) (t u : Table Payout) : Prop :=
  Table.Gains Payout.terms Prod.fst may t u

section Gained

variable {may : Id × Id × ℚ -> Prop} {t u : Table Payout} {env : Env} {db db' : Db}

theorem holdsGained_updateMany {p : Id -> Payout -> Bool} {f : Payout -> Payout}
    (hterms : forall payout, (f payout).terms = payout.terms) :
    HoldsGained may t (t.updateMany p f) :=
  .of_rel (Table.rel_updateMany (fun _ _ => rfl) fun _ payout _ _ => hterms payout)

theorem HoldsFor.gained {i : Id} {amount : ℚ} {payee : Option Id} (h : HoldsFor i amount payee t u)
    (hmay : forall payeeId, payee = some payeeId -> may (i, payeeId, amount)) :
    HoldsGained may t u := by
  cases h with
  | nobody => exact .refl t
  | held => exact .refl t
  | created hold hfree howner hamount hpayee =>
      subst howner hamount
      exact .create hfree (hmay _ hpayee)

theorem PayoutWrite.holdsGained (env : Env) (w : PayoutWrite) (t : Table Payout) :
    HoldsGained may t (w.apply env t) := by
  refine holdsGained_updateMany ?_
  intro payout
  cases w <;> rfl

theorem PayoutCall.exec_holdsGained (env : Env) (db : Db) (call : PayoutCall) :
    HoldsGained may db.payouts (call.exec env db).payouts := by
  cases call with
  | releaseDuePayouts updatedAt now =>
      show HoldsGained may db.payouts
        (runPayoutWrites env (releaseDuePayoutsWrites env updatedAt now db) db).payouts
      generalize releaseDuePayoutsWrites env updatedAt now db = ws
      induction ws generalizing db with
      | nil => exact .refl _
      | cons w ws ih =>
          exact (w.holdsGained env db.payouts).trans
            (ih { db with payouts := w.apply env db.payouts })
  | releaseInspectorPayoutsForRequest now inspectionRequestId =>
      exact holdsGained_updateMany fun _ => rfl
  | markPaidOut payoutId actorId payoutReference =>
      refine commit_preserves (P := fun db' : Db => HoldsGained may db.payouts db'.payouts)
        (.refl _) fun db' hmark => ?_
      unfold MarketBridge.markPaidOut at hmark
      rw [bind_eq_ok] at hmark
      obtain ⟨w, -, hrun⟩ := hmark
      obtain rfl := Except.ok.inj hrun
      exact w.holdsGained env db.payouts

theorem raiseDispute_holdsGained {userId : Id} {request : DisputeRequest}
    (h : raiseDispute env userId request db = .ok db') :
    HoldsGained may db.payouts db'.payouts := by
  unfold raiseDispute at h
  split at h
  · cases h
  · simp only [bind_eq_ok] at h
    obtain ⟨_, -, moved, hmove, h⟩ := h
    obtain ⟨-, -, rfl⟩ := transitionOrderStatus_eq_ok_iff.1 hmove
    obtain rfl := Except.ok.inj h
    rw [holdForDispute_eq]
    exact holdsGained_updateMany fun _ => rfl

end Gained

/-! ## Replays -/

section Replays

variable {env : Env} {r : PaymentRecord} {db db' : Db}

def PaymentRecord.MayHold (r : PaymentRecord) (terms : Id × Id × ℚ) : Prop :=
  r.row.type.isEarned = true ∧ terms.1 = r.id ∧
    terms.2.2 = r.row.netAmount.getD r.row.amount

theorem createPayoutHold_gained (hearned : r.row.type.isEarned = true) (orderId : Option Id)
    (payeeRole : PayoutPayeeRole) (payeeId : Option Id) :
    HoldsGained r.MayHold db.payouts
      (createPayoutHold env orderId payeeRole payeeId r.id r.row db).payouts := by
  obtain ⟨payouts, hholds, hhold⟩ :=
    createPayoutHold_holds env orderId payeeRole payeeId r.id r.row db
  rw [hhold]
  exact hholds.gained fun _ _ => ⟨hearned, rfl, rfl⟩

theorem replayGoods_gained (h : replayGoods env r db = .ok db') :
    HoldsGained r.MayHold db.payouts db'.payouts := by
  unfold replayGoods at h
  split at h
  · next orderId order htype _ _ =>
      rw [bind_eq_ok] at h
      obtain ⟨moved, hmove, hhold⟩ := h
      obtain rfl := Except.ok.inj hhold
      have hsame : moved.payouts = db.payouts := by
        unfold confirmWaitingOrder at hmove
        split at hmove
        · rw [bind_eq_ok] at hmove
          obtain ⟨committedDb, hcommit, htransition⟩ := hmove
          obtain ⟨committed, listings, offers, -, rfl⟩ := commitGoods_eq_ok hcommit
          obtain ⟨-, -, rfl⟩ := transitionOrderStatus_eq_ok_iff.1 htransition
          rfl
        · rw [← Except.ok.inj hmove]
      rw [← hsame]
      exact createPayoutHold_gained (by rw [htype]; rfl) _ _ _
  · obtain rfl := Except.ok.inj h
    exact .refl _

theorem holdTransportPayout_gained (env : Env) (r : PaymentRecord) (db : Db) :
    HoldsGained r.MayHold db.payouts (holdTransportPayout env r db).payouts := by
  unfold holdTransportPayout
  split
  · split
    · next hhired =>
        rw [Bool.and_eq_true, decide_eq_true_eq] at hhired
        exact createPayoutHold_gained (by rw [hhired.1]; rfl) _ _ _
    · exact .refl _
  · exact .refl _

theorem holdInspectionPayout_gained (env : Env) (r : PaymentRecord) (db : Db) :
    HoldsGained r.MayHold db.payouts (holdInspectionPayout env r db).payouts := by
  unfold holdInspectionPayout
  split
  · next hcommitment =>
      exact createPayoutHold_gained (by rw [type_of_inspectionCommitment hcommitment]; rfl) _ _ _
  · exact .refl _

theorem replayTransport_payouts (env : Env) (r : PaymentRecord) (db : Db) :
    (replayTransport env r db).payouts = db.payouts := by
  unfold replayTransport
  split
  · split
    · rfl
    · rfl
  · rfl

theorem replayInspection_payouts (r : PaymentRecord) (db : Db) :
    (replayInspection r db).payouts = db.payouts := by
  unfold replayInspection
  split
  · rfl
  · split
    · rfl
    · rfl

def ReplayMayHold (payments : Table Payment) (orderId : Id) (terms : Id × Id × ℚ) : Prop :=
  exists p, payments.findUnique terms.1 = some p ∧ p.orderId = some orderId ∧
    p.status = .paid ∧ p.type.isEarned = true ∧ terms.2.2 = p.netAmount.getD p.amount

theorem replayDisputedPaidPayment_gained {paymentId orderId : Id}
    (horder : forall p, db.payments.findUnique paymentId = some p -> p.orderId = some orderId)
    (h : replayDisputedPaidPayment env paymentId db = .ok db') :
    HoldsGained (ReplayMayHold db.payments orderId) db.payouts db'.payouts := by
  unfold replayDisputedPaidPayment at h
  split at h
  · obtain rfl := Except.ok.inj h
    exact .refl _
  · next p hp =>
      dsimp only at h
      split at h
      · next hpaid =>
          rw [bind_eq_ok] at h
          obtain ⟨replayed, hgoods, hrest⟩ := h
          obtain rfl := Except.ok.inj hrest
          have hmay : forall terms, (paymentRecord db paymentId p).MayHold terms ->
              ReplayMayHold db.payments orderId terms := by
            intro terms hterms
            obtain ⟨hearned, howner, hamount⟩ := hterms
            have hrow : db.payments.findUnique terms.1 = some p := by
              rw [howner]
              exact hp
            exact ⟨p, hrow, horder p hp, hpaid.1, hearned, hamount⟩
          generalize paymentRecord db paymentId p = r at hgoods hmay
          have hreplayed := (replayGoods_gained hgoods).mono hmay
          have htransport := (holdTransportPayout_gained env r (replayTransport env r replayed)).mono
            hmay
          rw [replayTransport_payouts] at htransport
          have hinspection := (holdInspectionPayout_gained env r
            (replayInspection r (holdTransportPayout env r (replayTransport env r replayed)))).mono
            hmay
          rw [replayInspection_payouts] at hinspection
          exact (hreplayed.trans htransport).trans hinspection
      · obtain rfl := Except.ok.inj h
        exact .refl _

theorem replayPaidPayments_gained {paymentIds : List Id} (orderId : Id)
    (horder : forall i, i ∈ paymentIds -> forall p, db.payments.findUnique i = some p ->
      p.orderId = some orderId)
    (h : replayPaidPayments env paymentIds db = .ok db') :
    HoldsGained (ReplayMayHold db.payments orderId) db.payouts db'.payouts := by
  unfold replayPaidPayments at h
  induction paymentIds generalizing db with
  | nil =>
      obtain rfl : db = db' := by simpa [pure, Except.pure] using h
      exact .refl _
  | cons i rest ih =>
      rw [List.foldlM_cons, bind_eq_ok] at h
      obtain ⟨db₁, hstep, hrest⟩ := h
      have hpayments := (replayDisputedPaidPayment_moneyKept hstep).payments
      have horders : forall j, j ∈ rest -> forall p, db₁.payments.findUnique j = some p ->
          p.orderId = some orderId := by
        intro j hj
        rw [hpayments]
        exact horder j (List.mem_cons_of_mem _ hj)
      have htail := ih horders hrest
      rw [hpayments] at htail
      exact (replayDisputedPaidPayment_gained (horder i List.mem_cons_self) hstep).trans htail

theorem restoreOrder_gained {dispute : Dispute} (h : restoreOrder env dispute db = .ok db') :
    HoldsGained (ReplayMayHold db.payments dispute.orderId) db.payouts db'.payouts := by
  unfold restoreOrder at h
  rw [bind_eq_ok] at h
  obtain ⟨restored, hmove, hreplay⟩ := h
  obtain ⟨-, -, rfl⟩ := transitionOrderStatus_eq_ok_iff.1 hmove
  rw [resumeAfterDispute_eq] at hreplay
  have hreplayed := replayPaidPayments_gained dispute.orderId (fun i hi p hp => by
    obtain ⟨⟨j, q⟩, hj, rfl⟩ := List.mem_map.mp hi
    obtain ⟨hq, horder⟩ := Table.mem_findMany.mp (List.mem_of_mem_filter hj)
    have hsame : some q = some p := hq.symm.trans hp
    obtain rfl := Option.some.inj hsame
    exact of_decide_eq_true horder) hreplay
  have hresumed : HoldsGained (ReplayMayHold db.payments dispute.orderId) db.payouts
      (db.payouts.updateMany
        (fun _ payout => selectsForResume dispute.orderId dispute.disputeType payout)
        (PayoutWrite.write env (.resume 0))) :=
    holdsGained_updateMany fun _ => rfl
  exact hresumed.trans hreplayed

theorem applyResolution_gained {adminId : Id} {dispute : Dispute}
    {resolutionType : ResolutionType} (hkeeps : resolutionType ≠ .cancelOrder)
    (h : applyResolution env adminId dispute resolutionType db = .ok db') :
    HoldsGained (ReplayMayHold db.payments dispute.orderId) db.payouts db'.payouts := by
  cases resolutionType with
  | cancelOrder => exact absurd rfl hkeeps
  | dismissed => exact restoreOrder_gained h
  | cancelService =>
      unfold applyResolution at h
      dsimp only at h
      split at h
      · cases h
      · rw [bind_eq_ok] at h
        obtain ⟨served, hservice, h⟩ := h
        obtain ⟨_, _, _, _, rfl⟩ := cancelService_frame hservice
        have hrestored := restoreOrder_gained h
        exact hrestored

end Replays

/-! ## Steps -/

/-- The step ends the dispute of an order and replays what has been received for it. -/
def MarketStep.EndsDispute (db : Db) (a : MarketStep) (orderId : Id) : Prop :=
  exists adminId disputeId resolutionType resolution dispute,
    a = .resolveDispute adminId disputeId resolutionType resolution ∧
      resolutionType ≠ .cancelOrder ∧ db.disputes.findUnique disputeId = some dispute ∧
      dispute.orderId = orderId

def MarketStep.MayHold (db : Db) (a : MarketStep) (terms : Id × Id × ℚ) : Prop :=
  exists orderId, a.EndsDispute db orderId ∧ ReplayMayHold db.payments orderId terms

section Steps

variable {env : Env} {db db' : Db} {a : MarketStep}

theorem resolveDispute_gained {adminId disputeId : Id} {resolutionType : ResolutionType}
    {resolution : String}
    (h : resolveDispute env adminId disputeId resolutionType resolution db = .ok db') :
    HoldsGained (MarketStep.MayHold db
      (.resolveDispute adminId disputeId resolutionType resolution)) db.payouts db'.payouts := by
  obtain ⟨dispute, applied, hresolvable, happly, -, rfl⟩ := resolveDispute_eq_ok h
  by_cases hcancel : resolutionType = .cancelOrder
  · subst hcancel
    obtain ⟨record, -, hcancelled⟩ := cancelLoadedOrder_money happly
    show HoldsGained _ db.payouts applied.payouts
    rw [hcancelled.payouts]
    exact holdsGained_updateMany fun _ => rfl
  · refine (applyResolution_gained hcancel happly).mono fun terms hterms => ?_
    exact ⟨dispute.orderId, ⟨adminId, disputeId, resolutionType, resolution, dispute,
      rfl, hcancel, hresolvable.found, rfl⟩, hterms⟩

theorem holdsGained_of_commit {may : Id × Id × ℚ -> Prop} {r : Except ApiError Db}
    (h : forall db', r = .ok db' -> HoldsGained may db.payouts db'.payouts) :
    HoldsGained may db.payouts (commit r db).payouts :=
  commit_preserves (P := fun db' : Db => HoldsGained may db.payouts db'.payouts) (.refl _) h

theorem OffersOnly.payouts (h : OffersOnly db db') : db'.payouts = db.payouts := by
  obtain ⟨offers, listings, rfl⟩ := h.frame
  rfl

theorem respondToOffer_payouts (env : Env) (caller : OfferCaller) (updatedAt : Nat) (id : Id)
    (action : OfferAction) (db : Db) :
    (respondToOffer env caller updatedAt id action db).1.payouts = db.payouts := by
  generalize hdb' : (respondToOffer env caller updatedAt id action db).1 = db'
  have hresponse := respondToOffer_response env caller updatedAt id action db
  rw [hdb'] at hresponse
  cases hresponse with
  | refused => rfl
  | expired => rfl
  | moved o listing _ hoffer hlisting hleaf hmove =>
      cases hmove with
      | selected => rfl
      | agreed => rfl
      | countered => rfl
      | closed => exact (closeLeafOffer_offersOnly _ _ _ _).payouts
      | confirmed quantity =>
          obtain ⟨events, hframe⟩ := recordOrderEvent_frame env (some db.orders.size)
            .orderCreated
            { setOfferStatus id .accepted db with
              orders := db.orders.create
                (orderOfOffer env id o listing listing.sellerId o.confirmedPrice quantity) }
          unfold orderedDb
          rw [hframe]
          rfl

theorem MarketStep.holdsGained (hother : forall args, a ≠ .settlePayment args) :
    HoldsGained (a.MayHold db) db.payouts (step db (env, a)).payouts := by
  have heq : forall {u : Table Payout}, u = db.payouts ->
      HoldsGained (a.MayHold db) db.payouts u := by
    intro u hu
    rw [hu]
    exact .refl _
  cases a with
  | listing call => cases call <;> exact heq rfl
  | createOffer userId listingId amount quantity =>
      exact holdsGained_of_commit fun _ h => heq (createOffer_offersOnly h).payouts
  | respondToOffer caller updatedAt offerId action =>
      exact heq (respondToOffer_payouts env caller updatedAt offerId action db)
  | expireOffers => exact heq (expireOffers_offersOnly env db).payouts
  | checkout call => cases call <;> exact heq rfl
  | settlePayment args => exact absurd rfl (hother args)
  | refund call =>
      obtain ⟨payments, refunds, obligations, events, hshape⟩ := (call.exec_frame env db).others
      have hsame : (call.exec env db).payouts = db.payouts := by rw [hshape]
      exact heq hsame
  | resolveReconciliation reconciliationId status actorId note =>
      refine holdsGained_of_commit fun db' h => heq ?_
      obtain ⟨events, hframe⟩ := resolveReconciliation_frame h
      rw [hframe]
  | shipOrder orderId leg =>
      refine holdsGained_of_commit fun db' h => heq ?_
      obtain ⟨-, -, rfl⟩ := transitionOrderStatus_eq_ok_iff.1 h
      rfl
  | confirmReceipt userId orderId =>
      refine holdsGained_of_commit fun db' h => heq ?_
      unfold MarketBridge.confirmReceipt at h
      repeat' split at h
      all_goals try cases h
      simp only [bind_eq_ok] at h
      obtain ⟨moved, hmove, h⟩ := h
      obtain ⟨-, -, rfl⟩ := transitionOrderStatus_eq_ok_iff.1 hmove
      obtain rfl := Except.ok.inj h
      rfl
  | cancelOrder load orderId actorId reason role =>
      refine holdsGained_of_commit fun db' h => ?_
      obtain ⟨record, -, hcancelled⟩ := cancelLoadedOrder_money h
      rw [hcancelled.payouts]
      exact holdsGained_updateMany fun _ => rfl
  | raiseDispute userId request =>
      exact holdsGained_of_commit fun _ h => raiseDispute_holdsGained h
  | resolveDispute adminId disputeId resolutionType resolution =>
      exact holdsGained_of_commit fun _ h => resolveDispute_gained h
  | payout call => exact call.exec_holdsGained env db
  | elsewhere other => exact heq rfl

end Steps

end MarketBridge
