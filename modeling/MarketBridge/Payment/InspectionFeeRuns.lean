import Mathlib.Data.List.Nodup
import MarketBridge.Payment.InspectionFees
import MarketBridge.Payment.SettledSync
import MarketBridge.Relational.Keyed

/-!
# Inspection fees over a history of synchronisations

A synchronisation charges each party of a confirmed inspection its share of the fee, under a
key of its own.  The other operations of the program that come between two synchronisations
are given by what they leave alone.
-/

namespace MarketBridge

open Relational

/-! ## The items of a request -/

namespace InspectionRequest

def share (r : InspectionRequest) (fee : ℚ) : OfferCounterParty -> ℚ
  | .buyer => r.buyerShare fee
  | .seller => r.sellerShare fee

def shareKey (r : InspectionRequest) (orderId requestId : Id) (role : OfferCounterParty) :
    ObligationKey :=
  if r.payerMode = .split then .inspectionShare orderId requestId role
  else .inspection orderId requestId

end InspectionRequest

/-- The item is the share of this party. -/
structure DesiredObligation.IsShare (item : DesiredObligation) (orderId : Id) (order : Order)
    (requestId : Id) (r : InspectionRequest) (fee : ℚ) (role : OfferCounterParty) : Prop where
  key : item.obligationKey = r.shareKey orderId requestId role
  type : item.type = .inspector
  payer : item.payerId = role.of order
  amount : item.amount = r.share fee role
  positive : 0 < r.share fee role
  request : item.inspectionRequestId = some requestId

/-- A fee that the seller has confirmed. -/
structure InspectionRequest.Confirmed (r : InspectionRequest) (fee : ℚ) : Prop where
  confirmed : r.sellerConfirmedAt.isSome = true
  inspector : r.inspectorId.isSome = true
  agreed : r.fee = some fee
  positive : 0 < fee

section Items

variable {db : Db} {orderId requestId : Id} {order : Order} {r : InspectionRequest} {fee : ℚ}
  {item : DesiredObligation}

variable {role role' : OfferCounterParty}

theorem inspectionObligation_isShare {inspectorId payerId : Id} {mode : InspectionFeePayer}
    {amount : ℚ} (hmode : mode = r.payerMode) (hpayer : payerId = role.of order)
    (hamount : amount = r.share fee role)
    (hitem : item ∈ inspectionObligation orderId requestId inspectorId mode role payerId amount) :
    item.IsShare orderId order requestId r fee role := by
  subst hmode hpayer hamount
  unfold inspectionObligation at hitem
  split at hitem
  · next hpos =>
      obtain rfl := List.mem_singleton.1 hitem
      exact ⟨rfl, rfl, rfl, rfl, hpos, rfl⟩
  · cases hitem

theorem inspectionObligations_isShare
    (hitem : item ∈ inspectionObligations orderId order requestId r) :
    exists fee role, r.Confirmed fee ∧ item.IsShare orderId order requestId r fee role := by
  unfold inspectionObligations at hitem
  split at hitem
  · next hconfirmed hfee hinspector =>
      split at hitem
      · next fee _ hpos =>
          have hcon : r.Confirmed fee :=
            ⟨by rw [hconfirmed]; rfl, by rw [hinspector]; rfl, hfee, hpos⟩
          rcases List.mem_append.1 hitem with hitem | hitem
          · exact ⟨fee, .buyer, hcon, inspectionObligation_isShare rfl rfl rfl hitem⟩
          · exact ⟨fee, .seller, hcon, inspectionObligation_isShare rfl rfl rfl hitem⟩
      · cases hitem
  · cases hitem

theorem exists_inspectionObligation (orderId requestId inspectorId : Id)
    (mode : InspectionFeePayer) (role : OfferCounterParty) (payerId : Id) {amount : ℚ}
    (hpos : 0 < amount) :
    exists item, item ∈
      inspectionObligation orderId requestId inspectorId mode role payerId amount := by
  unfold inspectionObligation
  rw [if_pos hpos]
  exact ⟨_, List.mem_singleton.2 rfl⟩

theorem exists_isShare (hconfirmed : r.Confirmed fee) (hpos : 0 < r.share fee role) :
    exists item, item ∈ inspectionObligations orderId order requestId r ∧
      item.IsShare orderId order requestId r fee role := by
  obtain ⟨at', hat⟩ := Option.isSome_iff_exists.1 hconfirmed.confirmed
  obtain ⟨inspectorId, hinspector⟩ := Option.isSome_iff_exists.1 hconfirmed.inspector
  have hfee := hconfirmed.agreed
  have hpositive := hconfirmed.positive
  have hshape : inspectionObligations orderId order requestId r =
      inspectionObligation orderId requestId inspectorId r.payerMode .buyer order.buyerId
          (r.buyerShare fee) ++
        inspectionObligation orderId requestId inspectorId r.payerMode .seller order.sellerId
          (r.sellerShare fee) := by
    unfold inspectionObligations
    simp only [hat, hinspector, hfee, if_pos hpositive]
  rw [hshape]
  cases role with
  | buyer =>
      obtain ⟨item, hitem⟩ := exists_inspectionObligation orderId requestId inspectorId r.payerMode
        .buyer order.buyerId hpos
      exact ⟨item, List.mem_append_left _ hitem, inspectionObligation_isShare rfl rfl rfl hitem⟩
  | seller =>
      obtain ⟨item, hitem⟩ := exists_inspectionObligation orderId requestId inspectorId r.payerMode
        .seller order.sellerId hpos
      exact ⟨item, List.mem_append_right _ hitem, inspectionObligation_isShare rfl rfl rfl hitem⟩

theorem desiredObligations_cases (hitem : item ∈ desiredObligations db orderId order) :
    (item.type ≠ .inspector ∧ item.obligationKey = .ofType orderId item.type) ∨
      exists requestId r fee role, (requestId, r) ∈ liveInspections db orderId ∧
        r.Confirmed fee ∧ item.IsShare orderId order requestId r fee role := by
  unfold desiredObligations at hitem
  rcases List.mem_append.1 hitem with hitem | hitem
  · rcases List.mem_append.1 hitem with hitem | hitem
    · obtain ⟨-, hkey, htype⟩ := goodsObligation_mem hitem
      exact Or.inl ⟨by rw [htype]; decide, by rw [hkey, htype]⟩
    · obtain ⟨e, he, hitem⟩ := List.mem_flatMap.1 hitem
      obtain ⟨fee, role, hconfirmed, hshare⟩ := inspectionObligations_isShare hitem
      exact Or.inr ⟨e.1, e.2, fee, role, he, hconfirmed, hshare⟩
  · obtain ⟨-, hkey, htype⟩ := transportObligation_mem hitem
    exact Or.inl ⟨by rw [htype]; decide, by rw [hkey, htype]⟩

theorem mem_desiredObligations_of_share (hlive : (requestId, r) ∈ liveInspections db orderId)
    (hitem : item ∈ inspectionObligations orderId order requestId r) :
    item ∈ desiredObligations db orderId order := by
  unfold desiredObligations
  refine List.mem_append_left _ (List.mem_append_right _ ?_)
  exact List.mem_flatMap.2 ⟨_, hlive, hitem⟩

theorem liveInspections_unique {r' : InspectionRequest}
    (h : (requestId, r) ∈ liveInspections db orderId)
    (h' : (requestId, r') ∈ liveInspections db orderId) : r = r' := by
  have hrow := (Table.mem_findMany.1 h).1
  have hrow' := (Table.mem_findMany.1 h').1
  exact Option.some.inj (hrow.symm.trans hrow')

/-! ## Keys -/

theorem InspectionRequest.shares_of_confirmed (hsound : r.TermsSound)
    (hconfirmed : r.Confirmed fee) :
    (r.payerMode = .split -> |r.buyerShare fee - r.sellerShare fee| ≤ 1 / 100) ∧
      r.buyerShare fee + r.sellerShare fee = r.totalFee fee ∧
      0 ≤ r.share fee .buyer ∧ 0 ≤ r.share fee .seller ∧
      (r.payerMode ≠ .split -> r.share fee .buyer = 0 ∨ r.share fee .seller = 0) := by
  obtain ⟨hbuyer, hseller, hsum, hsplit, hsingle⟩ :=
    InspectionRequest.shares hsound hconfirmed.agreed hconfirmed.positive
  exact ⟨hsplit, hsum, hbuyer, hseller, hsingle⟩

theorem InspectionRequest.role_eq_of_shareKey (hsound : r.TermsSound)
    (hconfirmed : r.Confirmed fee) (hpos : 0 < r.share fee role) (hpos' : 0 < r.share fee role')
    (hkey : r.shareKey orderId requestId role = r.shareKey orderId requestId role') :
    role = role' := by
  by_cases hsplit : r.payerMode = .split
  · unfold InspectionRequest.shareKey at hkey
    rw [if_pos hsplit, if_pos hsplit] at hkey
    cases hkey
    rfl
  · obtain ⟨-, -, -, -, hsingle⟩ := InspectionRequest.shares_of_confirmed hsound hconfirmed
    rcases hsingle hsplit with hzero | hzero
    · cases role <;> cases role' <;> first | rfl | exact absurd hzero (ne_of_gt ‹_›)
    · cases role <;> cases role' <;> first | rfl | exact absurd hzero (ne_of_gt ‹_›)

theorem InspectionRequest.requestId_eq_of_shareKey {r' : InspectionRequest}
    {orderId' requestId' : Id}
    (hkey : r.shareKey orderId requestId role = r'.shareKey orderId' requestId' role') :
    requestId = requestId' := by
  unfold InspectionRequest.shareKey at hkey
  split at hkey
  · split at hkey
    · cases hkey
      rfl
    · cases hkey
  · split at hkey
    · cases hkey
    · cases hkey
      rfl

theorem InspectionRequest.shareKey_ne_ofType {orderId' : Id} {type : PaymentType}
    : r.shareKey orderId requestId role ≠ .ofType orderId' type := by
  unfold InspectionRequest.shareKey
  split <;> exact nofun

theorem inspectionObligation_nodup {inspectorId payerId : Id} {mode : InspectionFeePayer}
    {amount : ℚ} :
    ((inspectionObligation orderId requestId inspectorId mode role payerId amount).map
      (·.obligationKey)).Nodup := by
  unfold inspectionObligation
  split
  · exact List.nodup_singleton _
  · exact List.nodup_nil

theorem inspectionObligations_nodup (hsound : r.TermsSound) :
    ((inspectionObligations orderId order requestId r).map (·.obligationKey)).Nodup := by
  unfold inspectionObligations
  split
  · next hconfirmed hfee hinspector =>
      split
      · next fee _ hpos =>
          have hcon : r.Confirmed fee :=
            ⟨by rw [hconfirmed]; rfl, by rw [hinspector]; rfl, hfee, hpos⟩
          rw [List.map_append, List.nodup_append]
          refine ⟨inspectionObligation_nodup, inspectionObligation_nodup, ?_⟩
          intro k hk k' hk' hsame
          obtain ⟨item, hitem, rfl⟩ := List.mem_map.1 hk
          obtain ⟨item', hitem', rfl⟩ := List.mem_map.1 hk'
          have hbuyer : item.IsShare orderId order requestId r fee .buyer :=
            inspectionObligation_isShare rfl rfl rfl hitem
          have hseller : item'.IsShare orderId order requestId r fee .seller :=
            inspectionObligation_isShare rfl rfl rfl hitem'
          rw [hbuyer.key, hseller.key] at hsame
          cases InspectionRequest.role_eq_of_shareKey hsound hcon hbuyer.positive
            hseller.positive hsame
      · exact List.nodup_nil
  · exact List.nodup_nil

theorem desiredObligations_nodup
    (hsound : forall e, e ∈ liveInspections db orderId -> e.2.TermsSound) :
    ((desiredObligations db orderId order).map (·.obligationKey)).Nodup := by
  have hshares : forall k, k ∈ ((liveInspections db orderId).flatMap fun e =>
      (inspectionObligations orderId order e.1 e.2).map (·.obligationKey)) ->
        exists (e : Id × InspectionRequest) (role : OfferCounterParty),
          k = e.2.shareKey orderId e.1 role := by
    intro k hk
    obtain ⟨e, -, hk⟩ := List.mem_flatMap.1 hk
    obtain ⟨item, hitem, rfl⟩ := List.mem_map.1 hk
    obtain ⟨_, role, -, hshare⟩ := inspectionObligations_isShare hitem
    exact ⟨e, role, hshare.key⟩
  unfold desiredObligations
  rw [List.map_append, List.map_append, List.map_flatMap, List.nodup_append, List.nodup_append]
  refine ⟨⟨?_, ?_, ?_⟩, ?_, ?_⟩
  · unfold goodsObligation
    split
    · exact List.nodup_singleton _
    · exact List.nodup_nil
  · rw [List.nodup_flatMap]
    refine ⟨fun e he => inspectionObligations_nodup (hsound e he), ?_⟩
    have hids : (liveInspections db orderId).Pairwise fun e e' => e.1 ≠ e'.1 :=
      List.pairwise_map.1 (Table.nodup_keys_findMany _ _)
    refine hids.imp fun {e e'} hne => ?_
    intro k hk hk'
    obtain ⟨item, hitem, rfl⟩ := List.mem_map.1 hk
    obtain ⟨item', hitem', hsame⟩ := List.mem_map.1 hk'
    obtain ⟨_, role, -, hshare⟩ := inspectionObligations_isShare hitem
    obtain ⟨_, role', -, hshare'⟩ := inspectionObligations_isShare hitem'
    rw [hshare.key, hshare'.key] at hsame
    exact hne (InspectionRequest.requestId_eq_of_shareKey hsame).symm
  · intro k hk k' hk' hsame
    obtain ⟨item, hitem, rfl⟩ := List.mem_map.1 hk
    obtain ⟨-, hkey, -⟩ := goodsObligation_mem hitem
    obtain ⟨e, role, hk'⟩ := hshares k' hk'
    rw [hkey, hk'] at hsame
    exact InspectionRequest.shareKey_ne_ofType hsame.symm
  · unfold transportObligation
    split
    · exact List.nodup_nil
    · split
      · exact List.nodup_nil
      · exact List.nodup_singleton _
  · intro k hk k' hk' hsame
    obtain ⟨item', hitem', rfl⟩ := List.mem_map.1 hk'
    obtain ⟨-, hkey', -⟩ := transportObligation_mem hitem'
    rcases List.mem_append.1 hk with hk | hk
    · obtain ⟨item, hitem, rfl⟩ := List.mem_map.1 hk
      obtain ⟨-, hkey, -⟩ := goodsObligation_mem hitem
      rw [hkey, hkey'] at hsame
      cases hsame
    · obtain ⟨e, role, hk⟩ := hshares k hk
      rw [hkey', hk] at hsame
      exact InspectionRequest.shareKey_ne_ofType hsame

/-! ## Payments -/

theorem OfferCounterParty.of_inj (hparties : order.buyerId ≠ order.sellerId)
    (h : role.of order = role'.of order) : role = role' := by
  cases role with
  | buyer =>
      cases role' with
      | buyer => rfl
      | seller => exact absurd h hparties
  | seller =>
      cases role' with
      | buyer => exact absurd h.symm hparties
      | seller => rfl

theorem Payment.isFor_shareKey {p : Payment} (h : p.IsFor db (r.shareKey orderId requestId role)) :
    p.type = .inspector ∧ p.inspectionRequestId = some requestId := by
  unfold InspectionRequest.shareKey at h
  split at h
  · exact ⟨h.1, h.2.1⟩
  · exact h

theorem desiredObligations_distinguishes (horder : db.orders.findUnique orderId = some order)
    (hparties : order.buyerId ≠ order.sellerId) :
    Distinguishes db orderId (desiredObligations db orderId order) := by
  refine ⟨?_, ?_⟩
  · intro item i p hitem hmatch
    unfold matchingPayment at hmatch
    rcases desiredObligations_cases hitem with ⟨htype, hkey⟩ |
      ⟨requestId, r, fee, role, -, -, hshare⟩
    · rw [if_neg htype] at hmatch
      have hp := (Table.findFirst_eq_some hmatch).2
      simp only [Bool.and_eq_true, decide_eq_true_eq] at hp
      rw [hkey]
      exact ⟨hp.1.1.2, hp.1.1.1⟩
    · rw [if_pos hshare.type] at hmatch
      have hp := (Table.findFirst_eq_some hmatch).2
      simp only [Bool.and_eq_true, decide_eq_true_eq] at hp
      obtain ⟨⟨⟨hrequest, htype⟩, hpayer⟩, -⟩ := hp
      rw [hshare.request] at hrequest
      rw [hshare.key]
      unfold InspectionRequest.shareKey
      split
      · refine ⟨htype, hrequest, fun order' horder' => ?_⟩
        obtain rfl := Option.some.inj (horder.symm.trans horder')
        rw [hpayer, hshare.payer]
      · exact ⟨htype, hrequest⟩
  · intro item item' p hitem hitem' hfor hfor'
    rcases desiredObligations_cases hitem with ⟨htype, hkey⟩ |
      ⟨requestId, r, fee, role, hlive, -, hshare⟩
    · rcases desiredObligations_cases hitem' with ⟨htype', hkey'⟩ |
        ⟨requestId', r', fee', role', hlive', -, hshare'⟩
      · rw [hkey] at hfor
        rw [hkey'] at hfor'
        rw [hkey, hkey', ← hfor.1, ← hfor'.1]
      · rw [hkey] at hfor
        rw [hshare'.key] at hfor'
        have hinspector := (Payment.isFor_shareKey hfor').1
        exact absurd (hfor.1.symm.trans hinspector) htype
    · rcases desiredObligations_cases hitem' with ⟨htype', hkey'⟩ |
        ⟨requestId', r', fee', role', hlive', -, hshare'⟩
      · rw [hkey'] at hfor'
        rw [hshare.key] at hfor
        have hinspector := (Payment.isFor_shareKey hfor).1
        exact absurd (hfor'.1.symm.trans hinspector) htype'
      · rw [hshare.key] at hfor
        rw [hshare'.key] at hfor'
        obtain rfl : requestId = requestId' :=
          Option.some.inj ((Payment.isFor_shareKey hfor).2.symm.trans
            (Payment.isFor_shareKey hfor').2)
        obtain rfl := liveInspections_unique hlive hlive'
        rw [hshare.key, hshare'.key]
        unfold InspectionRequest.shareKey at hfor hfor' ⊢
        split
        · next hsplit =>
            rw [if_pos hsplit] at hfor hfor'
            have hpayer := (hfor.2.2 order horder).symm.trans (hfor'.2.2 order horder)
            rw [OfferCounterParty.of_inj hparties (Option.some.inj hpayer)]
        · rfl

end Items

/-! ## What a request is charged -/

def isCharge (requestId : Id) (b : PaymentObligation) : Bool :=
  b.type = .inspector && b.inspectionRequestId = some requestId && b.status ≠ .cancelled

/-- A paid obligation of a key that the present agreement does not use: it is never touched. -/
def isOutdated (db : Db) (orderId : Id) (b : PaymentObligation) : Bool :=
  b.status = .paid && !hasKey b.obligationKey (desiredFor db orderId)

/-- The obligations that count charge the agreed fee exactly once. -/
structure ChargesOnce (counts : PaymentObligation -> Bool) (orderId : Id) (order : Order)
    (r : InspectionRequest) (fee : ℚ) (db : Db) : Prop where
  positive : forall o b, db.obligations.findUnique o = some b -> counts b = true -> 0 < b.amount
  total : db.obligations.sumOf (fun _ b => if counts b then b.amount else 0) = r.totalFee fee
  single : forall o o' b b', db.obligations.findUnique o = some b ->
    db.obligations.findUnique o' = some b' -> counts b = true -> counts b' = true ->
      b.payerId = b'.payerId -> o = o'
  payers : forall o b, db.obligations.findUnique o = some b -> counts b = true ->
    b.payerId = order.buyerId ∧ b.amount = r.buyerShare fee ∨
      b.payerId = order.sellerId ∧ b.amount = r.sellerShare fee
  again : syncOrderPaymentObligations orderId db = db
  halves : r.payerMode = .split -> |r.buyerShare fee - r.sellerShare fee| ≤ 1 / 100

/-- What fee obligations, payments and requests are like between two operations. -/
structure FeesSound (db : Db) : Prop where
  linked : ObligationsLinked db
  made : MadeFor db db
  parties : forall o order, db.orders.findUnique o = some order -> order.buyerId ≠ order.sellerId
  terms : forall i r, db.inspectionRequests.findUnique i = some r -> r.TermsSound
  named : forall o b i, db.obligations.findUnique o = some b -> b.type = .inspector ->
    b.inspectionRequestId = some i ->
      exists r, db.inspectionRequests.findUnique i = some r ∧ r.orderId = some b.orderId

section Charges

variable {db : Db} {orderId requestId : Id} {order : Order} {r : InspectionRequest} {fee : ℚ}
  {o : Id} {b : PaymentObligation}

theorem FeesSound.terms_live (h : FeesSound db) :
    forall e, e ∈ liveInspections db orderId -> e.2.TermsSound :=
  fun e he => h.terms e.1 e.2 (Table.mem_findMany.1 he).1

theorem sync_orders (db : Db) (orderId : Id) :
    (syncOrderPaymentObligations orderId db).orders = db.orders := by
  obtain ⟨_, _, hframe⟩ := (syncOrderPaymentObligations_linksOnly orderId db).frame
  rw [hframe]

theorem sync_inspectionRequests (db : Db) (orderId : Id) :
    (syncOrderPaymentObligations orderId db).inspectionRequests = db.inspectionRequests := by
  obtain ⟨_, _, hframe⟩ := (syncOrderPaymentObligations_linksOnly orderId db).frame
  rw [hframe]

theorem desiredFor_sync (db : Db) (orderId : Id) :
    desiredFor (syncOrderPaymentObligations orderId db) orderId = desiredFor db orderId := by
  obtain ⟨_, _, hframe⟩ := (syncOrderPaymentObligations_linksOnly orderId db).frame
  rw [hframe]
  rfl

/-- A share that is charged. -/
structure PaymentObligation.Charged (b : PaymentObligation) (orderId : Id) (order : Order)
    (requestId : Id) (r : InspectionRequest) (fee : ℚ) (role : OfferCounterParty) : Prop where
  key : b.obligationKey = r.shareKey orderId requestId role
  payer : b.payerId = role.of order
  amount : b.amount = r.share fee role
  positive : 0 < r.share fee role

theorem PaymentObligation.Agrees.charged {item : DesiredObligation}
    {status : PaymentObligationStatus} (hagrees : b.Agrees item status)
    (hitem : item ∈ desiredObligations db orderId order)
    (hlive : (requestId, r) ∈ liveInspections db orderId) (hconfirmed : r.Confirmed fee)
    (hcharge : isCharge requestId b = true) :
    exists role, b.Charged orderId order requestId r fee role := by
  unfold isCharge at hcharge
  simp only [Bool.and_eq_true, decide_eq_true_eq] at hcharge
  obtain ⟨⟨htype, hrequest⟩, -⟩ := hcharge
  rcases desiredObligations_cases hitem with ⟨hother, -⟩ |
    ⟨requestId', r', fee', role, hlive', hconfirmed', hshare⟩
  · exact absurd (hagrees.type.symm.trans htype) hother
  · have hsame := hagrees.inspection.symm.trans hrequest
    rw [hshare.request] at hsame
    obtain rfl := Option.some.inj hsame
    obtain rfl := liveInspections_unique hlive hlive'
    obtain rfl := Option.some.inj (hconfirmed.agreed.symm.trans hconfirmed'.agreed)
    exact ⟨role, hagrees.key.trans hshare.key, hagrees.payer.trans hshare.payer,
      hagrees.amount.trans hshare.amount, hshare.positive⟩

theorem IsSynced.agrees {loaded : Db} {item : DesiredObligation}
    (h : IsSynced loaded orderId item db o b) :
    db.obligations.findUnique o = some b ∧ b.Agrees item (syncedStatus loaded orderId item db) := by
  obtain ⟨hb, hkey⟩ := Table.findFirst_eq_some h.found
  have hagrees := PaymentObligation.synced_agrees (of_decide_eq_true hkey)
    (syncedStatus loaded orderId item db)
  rw [h.written] at hagrees
  exact ⟨hb, hagrees⟩

theorem FeesSound.charged (h : FeesSound db) (horder : db.orders.findUnique orderId = some order)
    (hlive : (requestId, r) ∈ liveInspections db orderId) (hconfirmed : r.Confirmed fee)
    (hb : (syncOrderPaymentObligations orderId db).obligations.findUnique o = some b)
    (hcharge : isCharge requestId b = true) (hnew : isOutdated db orderId b = false) :
    exists role, b.Charged orderId order requestId r fee role := by
  have hstatus : b.status = .open ∨ b.status = .paid := by
    unfold isCharge at hcharge
    cases hs : b.status with
    | «open» => exact Or.inl rfl
    | paid => exact Or.inr rfl
    | cancelled => simp [hs] at hcharge
  have hdesired : desiredFor db orderId = desiredObligations db orderId order := by
    unfold desiredFor
    rw [horder]
  rcases hstatus with hopen | hpaid
  · rcases sync_open h.linked.indexed hb hopen with ⟨item, hitem, hagrees⟩ |
      ⟨hold, hnone | hne | htype⟩
    · have hitem := mem_desiredFor_of_owed hitem
      rw [hdesired] at hitem
      exact hagrees.charged hitem hlive hconfirmed hcharge
    · rw [horder] at hnone
      cases hnone
    · -- the request belongs to the order of its obligations
      unfold isCharge at hcharge
      simp only [Bool.and_eq_true, decide_eq_true_eq] at hcharge
      obtain ⟨r', hr', hof⟩ := h.named o b requestId hold hcharge.1.1 hcharge.1.2
      obtain ⟨hr, hselected⟩ := Table.mem_findMany.1 hlive
      obtain rfl := Option.some.inj (hr.symm.trans hr')
      simp only [Bool.and_eq_true, decide_eq_true_eq] at hselected
      exact absurd (Option.some.inj (hof.symm.trans hselected.1)) hne
    · unfold isCharge at hcharge
      simp only [Bool.and_eq_true, decide_eq_true_eq] at hcharge
      rw [hcharge.1.1] at htype
      exact absurd (by decide) htype
  · have hkey : hasKey b.obligationKey (desiredFor db orderId) = true := by
      unfold isOutdated at hnew
      simpa [hpaid] using hnew
    rw [hdesired] at hkey
    obtain ⟨item, hitem, hkey⟩ := hasKey_eq_true_iff.1 hkey
    obtain ⟨o', b', hsynced⟩ := sync_isSynced h.linked h.made horder
      (desiredObligations_distinguishes horder (h.parties _ _ horder))
      (desiredObligations_nodup h.terms_live) hitem
    obtain ⟨hb', hagrees⟩ := hsynced.agrees
    obtain rfl := (sync_linked h.linked).indexed.eq_of_key hb hb'
      (hkey.symm.trans hagrees.key.symm)
    exact hagrees.charged hitem hlive hconfirmed hcharge

/-- Every positive share is charged after a synchronisation. -/
theorem FeesSound.exists_charged (h : FeesSound db)
    (horder : db.orders.findUnique orderId = some order)
    (hlive : (requestId, r) ∈ liveInspections db orderId) (hconfirmed : r.Confirmed fee)
    {role : OfferCounterParty} (hpos : 0 < r.share fee role) :
    exists o b, (syncOrderPaymentObligations orderId db).obligations.findUnique o = some b ∧
      isCharge requestId b = true ∧ isOutdated db orderId b = false ∧
        b.Charged orderId order requestId r fee role := by
  have hexists : exists item, item ∈ inspectionObligations orderId order requestId r ∧
      item.IsShare orderId order requestId r fee role := exists_isShare hconfirmed hpos
  obtain ⟨item, hitem, hshare⟩ := hexists
  have hitem := mem_desiredObligations_of_share hlive hitem
  obtain ⟨o, b, hsynced⟩ := sync_isSynced h.linked h.made horder
    (desiredObligations_distinguishes horder (h.parties _ _ horder))
    (desiredObligations_nodup h.terms_live) hitem
  obtain ⟨hb, hagrees⟩ := hsynced.agrees
  refine ⟨o, b, hb, ?_, ?_, hagrees.key.trans hshare.key, hagrees.payer.trans hshare.payer,
    hagrees.amount.trans hshare.amount, hshare.positive⟩
  · have hstatus : b.status ≠ .cancelled := by
      rw [hagrees.status]
      unfold syncedStatus
      split <;> decide
    unfold isCharge
    simp [hagrees.type, hshare.type, hagrees.inspection, hshare.request, hstatus]
  · have hkey : hasKey b.obligationKey (desiredFor db orderId) = true := by
      unfold desiredFor
      rw [horder]
      exact hasKey_eq_true_iff.2 ⟨item, hitem, hagrees.key.symm⟩
    unfold isOutdated
    rw [hkey, Bool.not_true, Bool.and_false]

theorem ObligationsIndexed.index_eq (h : ObligationsIndexed db) {o' : Id} {b' : PaymentObligation}
    (hb : db.obligations.findUnique o = some b) (hb' : db.obligations.findUnique o' = some b')
    (hkey : b.obligationKey = b'.obligationKey) : o = o' := by
  by_contra hne
  have hdiffer := h o o' b b' hb hb' hne
  simp [sameObligationKey, hkey] at hdiffer

def countsFor (db : Db) (orderId requestId : Id) (b : PaymentObligation) : Bool :=
  isCharge requestId b && !isOutdated db orderId b

def chargeOf (db : Db) (orderId requestId : Id) (order : Order) (role : OfferCounterParty)
    (b : PaymentObligation) : ℚ :=
  if countsFor db orderId requestId b ∧ b.payerId = role.of order then b.amount else 0

/-- The rows that count after a synchronisation are the positive shares, one row each. -/
structure RowsAreShares (rows : Table PaymentObligation) (counts : PaymentObligation -> Bool)
    (orderId : Id) (order : Order) (requestId : Id) (r : InspectionRequest) (fee : ℚ) : Prop where
  share : forall o b, rows.findUnique o = some b -> counts b = true ->
    exists role, b.Charged orderId order requestId r fee role
  row : forall role, 0 < r.share fee role -> exists o b, rows.findUnique o = some b ∧
    counts b = true ∧ b.Charged orderId order requestId r fee role
  index : forall o o' b b', rows.findUnique o = some b -> rows.findUnique o' = some b' ->
    b.obligationKey = b'.obligationKey -> o = o'

theorem FeesSound.rowsAreShares (h : FeesSound db)
    (horder : db.orders.findUnique orderId = some order)
    (hlive : (requestId, r) ∈ liveInspections db orderId) (hconfirmed : r.Confirmed fee) :
    RowsAreShares (syncOrderPaymentObligations orderId db).obligations
      (countsFor db orderId requestId) orderId order requestId r fee where
  share := by
    intro o b hb hcounts
    unfold countsFor at hcounts
    simp only [Bool.and_eq_true, Bool.not_eq_true'] at hcounts
    exact h.charged horder hlive hconfirmed hb hcounts.1 hcounts.2
  row := by
    intro role hpos
    obtain ⟨o, b, hb, hcharge, hnew, hcharged⟩ := h.exists_charged horder hlive hconfirmed hpos
    refine ⟨o, b, hb, ?_, hcharged⟩
    unfold countsFor
    rw [hcharge, hnew]
    rfl
  index := fun _ _ _ _ hb hb' hkey => (sync_linked h.linked).indexed.index_eq hb hb' hkey

theorem RowsAreShares.chargeOf_sum {rows : Table PaymentObligation}
    (h : RowsAreShares rows (countsFor db orderId requestId) orderId order requestId r fee)
    (hparties : order.buyerId ≠ order.sellerId) {role : OfferCounterParty}
    (hshare : 0 ≤ r.share fee role) :
    rows.sumOf (fun _ b => chargeOf db orderId requestId order role b) = r.share fee role := by
  rcases hshare.lt_or_eq with hpos | hzero
  · obtain ⟨o, b, hb, hcounts, hcharged⟩ := h.row role hpos
    rw [Table.sumOf_of_single hb ?_]
    · unfold chargeOf
      rw [if_pos ⟨hcounts, hcharged.payer⟩, hcharged.amount]
    · intro o' b' hb' hne
      unfold chargeOf
      rw [if_neg]
      rintro ⟨hcounts', hpayer⟩
      obtain ⟨role', hcharged'⟩ := h.share o' b' hb' hcounts'
      obtain rfl := OfferCounterParty.of_inj hparties (hpayer.symm.trans hcharged'.payer)
      exact hne (h.index o' o b' b hb' hb (hcharged'.key.trans hcharged.key.symm))
  · rw [← hzero]
    refine Table.sumOf_of_zero fun o b hb => ?_
    dsimp only [chargeOf]
    rw [if_neg]
    rintro ⟨hcounts, hpayer⟩
    obtain ⟨role', hcharged⟩ := h.share o b hb hcounts
    obtain rfl := OfferCounterParty.of_inj hparties (hpayer.symm.trans hcharged.payer)
    exact absurd hzero (ne_of_lt hcharged.positive)

theorem RowsAreShares.total {rows : Table PaymentObligation}
    (h : RowsAreShares rows (countsFor db orderId requestId) orderId order requestId r fee)
    (hparties : order.buyerId ≠ order.sellerId) (hsound : r.TermsSound)
    (hconfirmed : r.Confirmed fee) :
    rows.sumOf (fun _ b => if countsFor db orderId requestId b then b.amount else 0) =
      r.totalFee fee := by
  obtain ⟨-, hsum, hbuyer, hseller, -⟩ := InspectionRequest.shares_of_confirmed hsound hconfirmed
  have hsplit : rows.sumOf (fun _ b => if countsFor db orderId requestId b then b.amount else 0) =
      rows.sumOf fun _ b => chargeOf db orderId requestId order .buyer b +
        chargeOf db orderId requestId order .seller b := by
    refine Table.sumOf_congr fun o b hb => ?_
    dsimp only [chargeOf]
    cases hcounts : countsFor db orderId requestId b with
    | false => simp
    | true =>
        -- it is charged to one of the parties, and to one only
        obtain ⟨role, hcharged⟩ := h.share o b hb hcounts
        rw [hcharged.payer]
        cases role with
        | buyer =>
            have hother : ¬OfferCounterParty.buyer.of order = OfferCounterParty.seller.of order :=
              hparties
            simp [hother]
        | seller =>
            have hother : ¬OfferCounterParty.seller.of order = OfferCounterParty.buyer.of order :=
              hparties.symm
            simp [hother]
  rw [hsplit, Table.sumOf_add, h.chargeOf_sum hparties hbuyer, h.chargeOf_sum hparties hseller]
  exact hsum

theorem FeesSound.chargesOnce (h : FeesSound db)
    (horder : db.orders.findUnique orderId = some order)
    (hlive : (requestId, r) ∈ liveInspections db orderId) (hconfirmed : r.Confirmed fee) :
    ChargesOnce (countsFor db orderId requestId) orderId order r fee
      (syncOrderPaymentObligations orderId db) := by
  have hrows := h.rowsAreShares horder hlive hconfirmed
  have hparties := h.parties _ _ horder
  have hsound := h.terms_live (requestId, r) hlive
  obtain ⟨hsplit, -, -, -, -⟩ := InspectionRequest.shares_of_confirmed hsound hconfirmed
  refine ⟨?_, hrows.total hparties hsound hconfirmed, ?_, ?_, ?_, hsplit⟩
  · intro o b hb hcounts
    obtain ⟨role, hcharged⟩ := hrows.share o b hb hcounts
    rw [hcharged.amount]
    exact hcharged.positive
  · intro o o' b b' hb hb' hcounts hcounts' hpayer
    obtain ⟨role, hcharged⟩ := hrows.share o b hb hcounts
    obtain ⟨role', hcharged'⟩ := hrows.share o' b' hb' hcounts'
    rw [hcharged.payer, hcharged'.payer] at hpayer
    obtain rfl := OfferCounterParty.of_inj hparties hpayer
    exact hrows.index o o' b b' hb hb' (hcharged.key.trans hcharged'.key.symm)
  · intro o b hb hcounts
    obtain ⟨role, hcharged⟩ := hrows.share o b hb hcounts
    cases role with
    | buyer => exact Or.inl ⟨hcharged.payer, hcharged.amount⟩
    | seller => exact Or.inr ⟨hcharged.payer, hcharged.amount⟩
  · have hdesired : desiredFor db orderId = desiredObligations db orderId order := by
      unfold desiredFor
      rw [horder]
    refine sync_sync h.linked h.made ?_ ?_
    · rw [hdesired]
      exact desiredObligations_distinguishes horder hparties
    · rw [hdesired]
      exact desiredObligations_nodup h.terms_live

end Charges

/-! ## Histories -/

/--
What the other operations of the program leave alone: the parties of an order differ, a
request stays with its order and its terms are sound, obligations change their status only,
and a payment is linked to the obligation that it is made for.
-/
structure Elsewhere (db db' : Db) : Prop where
  parties : forall o order, db'.orders.findUnique o = some order -> order.buyerId ≠ order.sellerId
  terms : forall i r, db'.inspectionRequests.findUnique i = some r -> r.TermsSound
  requests : forall i r, db.inspectionRequests.findUnique i = some r ->
    exists r', db'.inspectionRequests.findUnique i = some r' ∧ r'.orderId = r.orderId
  rows : db.obligations.Rel (fun _ b b' => exists s, b' = { b with status := s }) db'.obligations
  linked : ObligationsLinked db'
  made : MadeFor db' db'

/-- The states that are reached by synchronisations and other operations, in any order. -/
inductive FeeHistory : Db -> Prop where
  | start {db : Db} (hrows : forall o, db.obligations.findUnique o = none)
      (hlinks : forall i p, db.payments.findUnique i = some p -> p.obligationId = none)
      (hparties : forall o order, db.orders.findUnique o = some order ->
        order.buyerId ≠ order.sellerId)
      (hterms : forall i r, db.inspectionRequests.findUnique i = some r -> r.TermsSound) :
      FeeHistory db
  | change {db db' : Db} (h : FeeHistory db) (hchange : Elsewhere db db') : FeeHistory db'
  | sync {db : Db} (h : FeeHistory db) (orderId : Id) :
      FeeHistory (syncOrderPaymentObligations orderId db)

section History

variable {db db' : Db} {orderId : Id}

theorem sync_rows {Q : PaymentObligation -> Prop} (hindexed : ObligationsIndexed db)
    (hstatus : forall b s, Q b -> Q { b with status := s })
    (hold : forall o b, db.obligations.findUnique o = some b -> Q b)
    (hitem : forall item b status, item ∈ desiredFor db orderId -> b.Agrees item status -> Q b)
    {o : Id} {b : PaymentObligation}
    (hb : (syncOrderPaymentObligations orderId db).obligations.findUnique o = some b) : Q b := by
  have hretired : forall (p : PaymentObligation -> Bool) (s : Db),
      (forall o b, s.obligations.findUnique o = some b -> Q b) ->
        forall o b, (retireObligations p s).obligations.findUnique o = some b -> Q b := by
    intro p s hs o b hrow
    simp only [retireObligations, Table.findUnique_updateMany] at hrow
    obtain ⟨c, hc, rfl⟩ := Option.map_eq_some_iff.1 hrow
    split
    · exact hstatus c .cancelled (hs o c hc)
    · exact hs o c hc
  unfold syncOrderPaymentObligations at hb
  cases horder : db.orders.findUnique orderId with
  | none =>
      rw [horder] at hb
      exact hold o b hb
  | some order =>
      rw [horder] at hb
      unfold desiredFor at hitem
      rw [horder] at hitem
      refine hretired _ _ (fun o b hrow => ?_) o b hb
      have hfirst : ObligationsIndexed (retireObligations (isUnconfirmedFee db orderId) db) :=
        hindexed.updateMany fun _ => rfl
      rcases foldl_syncObligation_row hfirst hrow with ⟨-, hrow⟩ | ⟨e, he, hagrees⟩
      · exact hretired _ db hold o b hrow
      · exact hitem e.1 b e.2 (mem_of_mem_syncedItems he) hagrees

theorem MadeFor.foldl {loaded : Db} {items rest : List DesiredObligation}
    (hmade : MadeFor loaded db) (hdistinct : Distinguishes loaded orderId items)
    (h : SyncState loaded orderId items db) (hrest : forall item, item ∈ rest -> item ∈ items) :
    MadeFor loaded
      (rest.foldl (fun s item => MarketBridge.syncObligation loaded orderId item s) db) := by
  induction rest generalizing db with
  | nil => exact hmade
  | cons item rest ih =>
      have hitem := hrest item List.mem_cons_self
      exact ih (hmade.syncObligation hdistinct h hitem) (h.syncObligation hitem)
        fun later hlater => hrest later (List.mem_cons_of_mem item hlater)

theorem FeesSound.sync_made (h : FeesSound db) :
    MadeFor (syncOrderPaymentObligations orderId db) (syncOrderPaymentObligations orderId db) := by
  have hmade : MadeFor db (syncOrderPaymentObligations orderId db) := by
    unfold syncOrderPaymentObligations
    cases horder : db.orders.findUnique orderId with
    | none => exact h.made
    | some order =>
        have hdistinct := desiredObligations_distinguishes horder (h.parties _ _ horder)
        have hstart : MadeFor db (retireObligations (isUnconfirmedFee db orderId) db) :=
          h.made.retire _
        have hlooped := MadeFor.foldl hstart hdistinct ((syncState_start h.linked _).retire _)
          fun _ hitem => hitem
        exact hlooped.retire _
  have horders := sync_orders db orderId
  intro i p o b hp ho hb
  have hfor := hmade i p o b hp ho hb
  cases hkey : b.obligationKey with
  | ofType orderId type =>
      rw [hkey] at hfor
      exact hfor
  | inspection orderId requestId =>
      rw [hkey] at hfor
      exact hfor
  | inspectionShare orderId requestId role =>
      rw [hkey] at hfor
      exact ⟨hfor.1, hfor.2.1, fun order horder => hfor.2.2 order (horders ▸ horder)⟩

theorem FeesSound.sync (h : FeesSound db) : FeesSound (syncOrderPaymentObligations orderId db) := by
  have horders := sync_orders db orderId
  have hrequests := sync_inspectionRequests db orderId
  refine ⟨sync_linked h.linked, h.sync_made, ?_, ?_, ?_⟩
  · rw [horders]
    exact h.parties
  · rw [hrequests]
    exact h.terms
  · rw [hrequests]
    intro o b i hb htype hrequest
    have hnamed : b.type = .inspector -> b.inspectionRequestId = some i ->
        exists r, db.inspectionRequests.findUnique i = some r ∧ r.orderId = some b.orderId := by
      refine sync_rows (Q := fun b => b.type = .inspector -> b.inspectionRequestId = some i ->
        exists r, db.inspectionRequests.findUnique i = some r ∧ r.orderId = some b.orderId)
        h.linked.indexed (fun _ _ hb => hb) (fun o b hb => h.named o b i hb) ?_ hb
      intro item b status hitem hagrees htype hrequest
      unfold desiredFor at hitem
      split at hitem
      · cases hitem
      · rcases desiredObligations_cases hitem with ⟨hother, -⟩ |
          ⟨requestId, r, fee, role, hlive, -, hshare⟩
        · exact absurd (hagrees.type.symm.trans htype) hother
        · -- the row is of the order that is synchronised
          have hsame := hagrees.inspection.symm.trans hrequest
          rw [hshare.request] at hsame
          obtain rfl := Option.some.inj hsame
          obtain ⟨hr, hselected⟩ := Table.mem_findMany.1 hlive
          simp only [Bool.and_eq_true, decide_eq_true_eq] at hselected
          refine ⟨r, hr, hselected.1.trans (congrArg some ?_)⟩
          rw [← b.keyed.1, hagrees.key]
          exact (mem_desiredObligations hitem).1.symm
    exact hnamed htype hrequest

theorem FeesSound.change (h : FeesSound db) (hchange : Elsewhere db db') : FeesSound db' := by
  refine ⟨hchange.linked, hchange.made, hchange.parties, hchange.terms, ?_⟩
  intro o b' i hb' htype hrequest
  obtain ⟨b, hb, s, rfl⟩ := hchange.rows.of_right hb'
  obtain ⟨r, hr, hof⟩ := h.named o b i hb htype hrequest
  obtain ⟨r', hr', hsame⟩ := hchange.requests i r hr
  exact ⟨r', hr', hsame.trans hof⟩

theorem FeeHistory.sound (h : FeeHistory db) : FeesSound db := by
  induction h with
  | start hrows hlinks hparties hterms =>
      have hlink : forall {α : Prop} {i : Id} {p : Payment} {o : Id} {db : Db},
          (forall i p, db.payments.findUnique i = some p -> p.obligationId = none) ->
            db.payments.findUnique i = some p -> p.obligationId = some o -> α := by
        intro α i p o db hlinks hp ho
        rw [hlinks i p hp] at ho
        cases ho
      refine ⟨⟨?_, ?_, ?_⟩, ?_, hparties, hterms, ?_⟩
      · intro i j b c hb
        rw [hrows i] at hb
        cases hb
      · intro i j p q o hp _ ho
        exact hlink hlinks hp ho
      · intro i p o hp ho
        exact hlink hlinks hp ho
      · intro i p o b hp ho
        exact hlink hlinks hp ho
      · intro o b i hb
        rw [hrows o] at hb
        cases hb
  | change _ hchange ih => exact ih.change hchange
  | sync _ orderId ih => exact ih.sync

end History

section SplitFee

def splitOrder : Order :=
  { listingId := 0
    buyerId := 1
    sellerId := 2
    finalPrice := 500
    quantity := 1 }

def splitRequest (fee : ℚ) : InspectionRequest :=
  InspectionRequest.sellerConfirmed env0
    { orderId := some 0
      inspectorId := some 3
      status := .accepted
      fee := some fee
      feePayer := .split }

def splitFeeDb : Db :=
  { orders := Table.empty.create splitOrder
    inspectionRequests := Table.empty.create (splitRequest 1) }

/--
The seller has paid its half of a fee of one birr.  A notice without an amount has put the
payment in doubt, the inspector has withdrawn, and a new one was agreed for one cent.
-/
def reagreedDb : Db :=
  { syncOrderPaymentObligations 0 splitFeeDb with
    payments := Table.empty.create
      { orderId := some 0
        createdById := some 2
        inspectionRequestId := some 0
        obligationId := some 1
        type := .inspector
        amount := 1 / 2
        status := .reconciliationRequired }
    obligations := (syncOrderPaymentObligations 0 splitFeeDb).obligations.update 1
      ({ · with status := .paid })
    inspectionRequests := Table.empty.create (splitRequest (1 / 100)) }

theorem splitRequest_sound {fee : ℚ} (hcents : IsCents fee) (hpos : 0 < fee) :
    (splitRequest fee).TermsSound := by
  refine InspectionRequest.TermsSound.sellerConfirmed ?_ rfl hpos env0
  refine ⟨?_, nofun⟩
  intro fee' hfee
  obtain rfl := Option.some.inj hfee
  exact hcents

theorem splitOrder_parties {o : Id} {order : Order}
    (h : (Table.empty.create splitOrder).findUnique o = some order) :
    order.buyerId ≠ order.sellerId := by
  have ho : o < 1 := Table.lt_size_of_findUnique h
  obtain rfl := Nat.lt_one_iff.1 ho
  obtain rfl := Option.some.inj h
  decide

theorem splitRequest_terms {fee : ℚ} (hcents : IsCents fee) (hpos : 0 < fee) {i : Id}
    {r : InspectionRequest}
    (h : (Table.empty.create (splitRequest fee)).findUnique i = some r) : r.TermsSound := by
  have hi : i < 1 := Table.lt_size_of_findUnique h
  obtain rfl := Nat.lt_one_iff.1 hi
  obtain rfl := Option.some.inj h
  exact splitRequest_sound hcents hpos

theorem splitFeeDb_history : FeeHistory splitFeeDb := by
  refine .start (fun _ => rfl) (fun i p hp => ?_) (fun _ _ h => splitOrder_parties h)
    fun _ _ h => ?_
  · have hnone : splitFeeDb.payments.findUnique i = none := Table.findUnique_empty i
    rw [hnone] at hp
    cases hp
  · exact splitRequest_terms ⟨100, by norm_num⟩ (by norm_num) h

theorem splitRequest_live : (0, splitRequest 1) ∈ liveInspections splitFeeDb 0 := by
  decide +kernel

theorem reagreedDb_orders : reagreedDb.orders = Table.empty.create splitOrder :=
  sync_orders splitFeeDb 0

theorem reagreedDb_history : FeeHistory reagreedDb := by
  refine (splitFeeDb_history.sync 0).change ?_
  have hpayment : forall i p, reagreedDb.payments.findUnique i = some p -> i = 0 ∧
      p.type = .inspector ∧ p.inspectionRequestId = some 0 ∧ p.createdById = some 2 ∧
        p.obligationId = some 1 := by
    intro i p hp
    have hi : i < 1 := Table.lt_size_of_findUnique hp
    obtain rfl : i = 0 := by omega
    obtain rfl := Option.some.inj hp
    exact ⟨rfl, rfl, rfl, rfl, rfl⟩
  have hrow : exists b, reagreedDb.obligations.findUnique 1 = some b ∧
      b.obligationKey = .inspectionShare 0 0 .seller := by
    decide +kernel
  refine ⟨fun _ _ h => ?_, fun _ _ h => ?_, ?_, ?_, ⟨?_, ?_, ?_⟩, ?_⟩
  · rw [reagreedDb_orders] at h
    exact splitOrder_parties h
  · exact splitRequest_terms ⟨1, by norm_num⟩ (by norm_num) h
  · intro i r hr
    rw [sync_inspectionRequests] at hr
    have hi : i < 1 := Table.lt_size_of_findUnique hr
    obtain rfl : i = 0 := by omega
    obtain rfl := Option.some.inj hr
    exact ⟨_, rfl, rfl⟩
  · refine Table.rel_update (fun _ b => ⟨b.status, rfl⟩) fun _ _ => ⟨.paid, rfl⟩
  · exact (splitFeeDb_history.sync 0).sound.linked.indexed.updateMany fun _ => rfl
  · intro i j p q o hp hq _ _
    rw [(hpayment i p hp).1, (hpayment j q hq).1]
  · intro i p o hp ho
    obtain ⟨-, -, -, -, ho'⟩ := hpayment i p hp
    obtain rfl := Option.some.inj (ho'.symm.trans ho)
    obtain ⟨b, hb, -⟩ := hrow
    exact ⟨b, hb⟩
  · intro i p o b hp ho hb
    obtain ⟨-, htype, hrequest, hcreator, ho'⟩ := hpayment i p hp
    obtain rfl := Option.some.inj (ho'.symm.trans ho)
    obtain ⟨b', hb', hkey⟩ := hrow
    obtain rfl := Option.some.inj (hb.symm.trans hb')
    rw [hkey]
    refine ⟨htype, hrequest, fun order horder => ?_⟩
    rw [reagreedDb_orders] at horder
    obtain rfl := Option.some.inj horder
    exact hcreator

end SplitFee

end MarketBridge
