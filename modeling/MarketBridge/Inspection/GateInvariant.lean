import MarketBridge.Inspection.GateSteps

/-!
# The invariant of inspection fees

In a sound desk the obligations and payments of every confirmed inspection match.  What a step
may do to the tables without touching a confirmed fee is said once, by `FeeTablesKept`.
-/

namespace MarketBridge

open Relational

/-! ## The invariant -/

def ObligationKey.requestId : ObligationKey -> Option Id
  | .ofType _ _ => none
  | .inspection _ requestId => some requestId
  | .inspectionShare _ requestId _ => some requestId

/-- The columns of an obligation are the ones of its key. -/
structure PaymentObligation.KeyedBy (b : PaymentObligation) (orders : Table Order) : Prop where
  order : exists order, orders.findUnique b.orderId = some order
  request : b.type = .inspector -> b.inspectionRequestId = b.obligationKey.requestId
  share : forall o i role, b.obligationKey = .inspectionShare o i role ->
    forall order, orders.findUnique o = some order -> b.payerId = role.of order

/-- What holds of a desk after every step that meets its condition. -/
structure DeskSound (s : InspectionDesk) : Prop where
  fees : FeesSound s.db
  keyed : forall o b, s.db.obligations.findUnique o = some b -> b.KeyedBy s.db.orders
  founded : forall i r o, s.db.inspectionRequests.findUnique i = some r -> r.orderId = some o ->
    exists order, s.db.orders.findUnique o = some order
  matched : forall i o order r fee, ConfirmedFee s.db i o order r fee ->
    FeeMatched s.db i o order r fee
  running : forall i o order r fee, ConfirmedFee s.db i o order r fee ->
    (s.startDueAt i).isSome = true -> AllPaid s.db i

/-! ## Shares -/

section Shares

variable {db db' : Db} {requestId orderId : Id} {order order' : Order}
  {r r' : InspectionRequest} {fee : ℚ}

theorem share_of_terms (h : r'.terms = r.terms) (role : OfferCounterParty) :
    r'.share fee role = r.share fee role := by
  have hterms : forall q : InspectionRequest, q.terms.share fee role = q.share fee role := by
    intro q
    cases role <;> rfl
  rw [← hterms r', ← hterms r, h]

theorem shareKey_of_terms (h : r'.terms = r.terms) (orderId requestId : Id)
    (role : OfferCounterParty) :
    r'.shareKey orderId requestId role = r.shareKey orderId requestId role := by
  have hterms : forall q : InspectionRequest,
      q.terms.shareKey orderId requestId role = q.shareKey orderId requestId role := fun _ => rfl
  rw [← hterms r', ← hterms r, h]

theorem FeeMatched.of_terms (hm : FeeMatched db requestId orderId order r fee)
    (hterms : r'.terms = r.terms) (hparty : forall role : OfferCounterParty,
      role.of order' = role.of order) :
    FeeMatched db requestId orderId order' r' fee := by
  have hcharged : forall {b : PaymentObligation} {role : OfferCounterParty},
      b.Charged orderId order requestId r fee role ->
        b.Charged orderId order' requestId r' fee role := by
    intro b role h
    refine ⟨?_, ?_, ?_, ?_⟩
    · rw [shareKey_of_terms hterms]
      exact h.key
    · rw [hparty]
      exact h.payer
    · rw [share_of_terms hterms]
      exact h.amount
    · rw [share_of_terms hterms]
      exact h.positive
  refine ⟨⟨?_, ?_, hm.rows.index⟩, hm.settled, ?_, hm.single⟩
  · intro o b hb hrow
    obtain ⟨role, hshare⟩ := hm.rows.share o b hb hrow
    exact ⟨role, hcharged hshare⟩
  · intro role hpos
    rw [share_of_terms hterms] at hpos
    obtain ⟨o, b, hb, hrow, hshare⟩ := hm.rows.row role hpos
    exact ⟨o, b, hb, hrow, hcharged hshare⟩
  · intro i p hp hfee
    obtain ⟨role, hpos, hcreator, hamount⟩ := hm.fits i p hp hfee
    refine ⟨role, ?_, ?_, ?_⟩
    · rw [share_of_terms hterms]
      exact hpos
    · rw [hparty]
      exact hcreator
    · rw [share_of_terms hterms]
      exact hamount

theorem FeeMatched.allPaid_iff (hm : FeeMatched db requestId orderId order r fee) :
    AllPaid db requestId ↔
      forall role, 0 < r.share fee role -> ReceivedFrom db requestId (role.of order) := by
  constructor
  · intro hall role hpos
    obtain ⟨o, b, hb, hrow, hcharged⟩ := hm.rows.row role hpos
    rcases hm.settled o b hb hrow with ⟨-, hreceived⟩ | ⟨hopen, -⟩
    · exact hcharged.payer ▸ hreceived
    · rw [hall o b hb hrow] at hopen
      cases hopen
  · intro hall o b hb hrow
    obtain ⟨role, hcharged⟩ := hm.rows.share o b hb hrow
    rcases hm.settled o b hb hrow with ⟨hpaid, -⟩ | ⟨-, hnot⟩
    · exact hpaid
    · exact absurd (hcharged.payer ▸ hall role hcharged.positive) hnot

theorem FeeMatched.allPaid_kept (hm : FeeMatched db requestId orderId order r fee)
    (hm' : FeeMatched db' requestId orderId order r fee)
    (hreceipts : ReceiptsKept requestId db db') :
    AllPaid db' requestId ↔ AllPaid db requestId := by
  rw [hm.allPaid_iff, hm'.allPaid_iff]
  simp only [hreceipts.receivedFrom_iff]

end Shares

/-! ## Steps that touch no confirmed fee -/

/-- The terms of the request stay, or it is not confirmed any more. -/
structure RequestCarried (r r' : InspectionRequest) : Prop where
  order : r'.orderId = r.orderId
  sound : r.TermsSound -> r'.TermsSound
  terms : r'.terms = r.terms ∧ (r.status = .cancelled -> r'.status = .cancelled) ∨
    r'.sellerConfirmedAt = none ∨ r'.status = .cancelled

theorem RequestCarried.refl (r : InspectionRequest) : RequestCarried r r :=
  ⟨rfl, id, Or.inl ⟨rfl, id⟩⟩

structure FeeTablesKept (db db' : Db) : Prop where
  orders : forall o order, db.orders.findUnique o = some order ->
    exists order', db'.orders.findUnique o = some order' ∧
      forall role : OfferCounterParty, role.of order' = role.of order
  parties : forall o order', db'.orders.findUnique o = some order' ->
    order'.buyerId ≠ order'.sellerId
  requests : forall i r, db.inspectionRequests.findUnique i = some r ->
    exists r', db'.inspectionRequests.findUnique i = some r' ∧ RequestCarried r r'
  fresh : forall i r', db'.inspectionRequests.findUnique i = some r' ->
    db.inspectionRequests.findUnique i = none -> r'.sellerConfirmedAt = none ∧ r'.TermsSound ∧
      forall o, r'.orderId = some o -> exists order, db.orders.findUnique o = some order
  payments : forall i p' o, db'.payments.findUnique i = some p' -> p'.obligationId = some o ->
    exists p, db.payments.findUnique i = some p ∧ p.obligationId = some o ∧ p'.core = p.core
  rows : db.obligations.Rel (fun _ b b' => exists status, b' = { b with status := status })
    db'.obligations

def ConfirmedFeesKept (db db' : Db) : Prop :=
  forall i o order r fee, ConfirmedFee db i o order r fee ->
    FeeRowsKept i db db' ∧ ReceiptsKept i db db'

section Tables

variable {db db' : Db} {s s' : InspectionDesk}

theorem FeeTablesKept.confirmed (h : FeeTablesKept db db')
    (hfounded : forall i r o, db.inspectionRequests.findUnique i = some r -> r.orderId = some o ->
      exists order, db.orders.findUnique o = some order)
    {requestId orderId : Id} {order' : Order} {r' : InspectionRequest} {fee : ℚ}
    (hconfirmed : ConfirmedFee db' requestId orderId order' r' fee) :
    exists order r, ConfirmedFee db requestId orderId order r fee ∧ r'.terms = r.terms ∧
      forall role : OfferCounterParty, role.of order' = role.of order := by
  obtain ⟨hr', hof', hlive'⟩ := hconfirmed.request
  cases hr : db.inspectionRequests.findUnique requestId with
  | none =>
      have hnone := (h.fresh requestId r' hr' hr).1
      have hsome := hconfirmed.confirmed.confirmed
      rw [hnone] at hsome
      cases hsome
  | some r =>
      obtain ⟨r'', hr'', hcarried⟩ := h.requests requestId r hr
      obtain rfl := Option.some.inj (hr'.symm.trans hr'')
      rcases hcarried.terms with ⟨hterms, hcancelled⟩ | hnone | hcancelled
      · have hof : r.orderId = some orderId := hcarried.order.symm.trans hof'
        obtain ⟨order, horder⟩ := hfounded requestId r orderId hr hof
        obtain ⟨order'', horder'', hparty⟩ := h.orders orderId order horder
        obtain rfl := Option.some.inj (hconfirmed.order.symm.trans horder'')
        refine ⟨order, r, ⟨horder, ?_, ?_⟩, hterms, hparty⟩
        · refine Table.mem_findMany.2 ⟨hr, ?_⟩
          have hlive : r.status ≠ .cancelled := fun hs => hlive' (hcancelled hs)
          simp [hof, hlive]
        · have hfield : forall {α : Type} (f : InspectionRequest -> α),
              (forall q : InspectionRequest, f q.terms = f q) -> f r = f r' := by
            intro α f hf
            rw [← hf r, ← hf r', hterms]
          exact ⟨(hfield (·.sellerConfirmedAt.isSome) fun _ => rfl).trans
              hconfirmed.confirmed.confirmed,
            (hfield (·.inspectorId.isSome) fun _ => rfl).trans hconfirmed.confirmed.inspector,
            (hfield (·.fee) fun _ => rfl).trans hconfirmed.confirmed.agreed,
            hconfirmed.confirmed.positive⟩
      · have hsome := hconfirmed.confirmed.confirmed
        rw [hnone] at hsome
        cases hsome
      · exact absurd hcancelled hlive'

theorem FeeTablesKept.linked (h : FeeTablesKept db db') (hlinked : ObligationsLinked db) :
    ObligationsLinked db' := by
  refine ⟨?_, ?_, ?_⟩
  · intro i j b' c' hb' hc' hne
    obtain ⟨b, hb, s, rfl⟩ := h.rows.of_right hb'
    obtain ⟨c, hc, t, rfl⟩ := h.rows.of_right hc'
    exact hlinked.indexed i j b c hb hc hne
  · intro i j p' q' o hp' hq' hpo hqo
    obtain ⟨p, hp, hpo, -⟩ := h.payments i p' o hp' hpo
    obtain ⟨q, hq, hqo, -⟩ := h.payments j q' o hq' hqo
    exact hlinked.unique i j p q o hp hq hpo hqo
  · intro i p' o hp' ho'
    obtain ⟨p, hp, ho, -⟩ := h.payments i p' o hp' ho'
    obtain ⟨b, hb⟩ := hlinked.founded i p o hp ho
    obtain ⟨b', hb', -⟩ := h.rows.of_left hb
    exact ⟨b', hb'⟩

theorem FeeTablesKept.keyedBy (h : FeeTablesKept db db') {b : PaymentObligation}
    (hkeyed : b.KeyedBy db.orders) (status : PaymentObligationStatus) :
    PaymentObligation.KeyedBy { b with status := status } db'.orders := by
  obtain ⟨order, horder⟩ := hkeyed.order
  obtain ⟨order', horder', -⟩ := h.orders b.orderId order horder
  refine ⟨⟨order', horder'⟩, hkeyed.request, ?_⟩
  intro o i role hkey order'' horder''
  have ho : o = b.orderId := by
    have hkeyOrder : b.obligationKey = .inspectionShare o i role := hkey
    rw [← b.keyed.1, hkeyOrder]
    rfl
  subst ho
  obtain ⟨order₂, horder₂, hparty⟩ := h.orders b.orderId order horder
  obtain rfl := Option.some.inj (horder''.symm.trans horder₂)
  rw [hparty role]
  exact hkeyed.share _ i role hkey order horder

theorem FeeTablesKept.made (h : FeeTablesKept db db') (hmade : MadeFor db db)
    (hkeyed : forall o b, db.obligations.findUnique o = some b -> b.KeyedBy db.orders) :
    MadeFor db' db' := by
  intro i p' o b' hp' ho' hb'
  obtain ⟨p, hp, ho, hcore⟩ := h.payments i p' o hp' ho'
  obtain ⟨b, hb, s, rfl⟩ := h.rows.of_right hb'
  have hfor := hmade i p o b hp ho hb
  have hsame : p'.IsFor db b.obligationKey := by
    rw [Payment.isFor_congr hcore]
    exact hfor
  cases hkey : b.obligationKey with
  | ofType orderId type =>
      rw [hkey] at hsame
      exact hsame
  | inspection orderId requestId =>
      rw [hkey] at hsame
      exact hsame
  | inspectionShare orderId requestId role =>
      rw [hkey] at hsame
      refine ⟨hsame.1, hsame.2.1, fun order' horder' => ?_⟩
      obtain ⟨order, horder⟩ := (hkeyed o b hb).order
      have horderId : orderId = b.orderId := by
        rw [← b.keyed.1, hkey]
        rfl
      subst horderId
      obtain ⟨order'', horder'', hparty⟩ := h.orders b.orderId order horder
      obtain rfl := Option.some.inj (horder'.symm.trans horder'')
      rw [hparty]
      exact hsame.2.2 order horder

theorem FeeTablesKept.elsewhere (h : FeeTablesKept s.db db') (hs : DeskSound s) :
    Elsewhere s.db db' where
  parties := h.parties
  terms := fun i r' hr' => by
    cases hr : s.db.inspectionRequests.findUnique i with
    | none => exact (h.fresh i r' hr' hr).2.1
    | some r =>
        obtain ⟨r'', hr'', hcarried⟩ := h.requests i r hr
        obtain rfl := Option.some.inj (hr'.symm.trans hr'')
        exact hcarried.sound (hs.fees.terms i r hr)
  requests := fun i r hr => by
    obtain ⟨r', hr', hcarried⟩ := h.requests i r hr
    exact ⟨r', hr', hcarried.order⟩
  rows := h.rows
  linked := h.linked hs.fees.linked
  made := h.made hs.fees.made hs.keyed

theorem DeskSound.carried (hs : DeskSound s) (h : FeeTablesKept s.db s'.db)
    (hmatched : forall i o order r fee, ConfirmedFee s.db i o order r fee ->
      FeeMatched s'.db i o order r fee ∧ (AllPaid s.db i -> AllPaid s'.db i))
    (hclock : forall i o order r fee, ConfirmedFee s'.db i o order r fee ->
      (s'.startDueAt i).isSome = true -> (s.startDueAt i).isSome = true) :
    DeskSound s' := by
  refine ⟨hs.fees.change (h.elsewhere hs), ?_, ?_, ?_, ?_⟩
  · intro o b' hb'
    obtain ⟨b, hb, status, rfl⟩ := h.rows.of_right hb'
    exact h.keyedBy (hs.keyed o b hb) status
  · intro i r' o hr' ho'
    have hexists : exists order, s.db.orders.findUnique o = some order := by
      cases hr : s.db.inspectionRequests.findUnique i with
      | none => exact (h.fresh i r' hr' hr).2.2 o ho'
      | some r =>
          obtain ⟨r'', hr'', hcarried⟩ := h.requests i r hr
          obtain rfl := Option.some.inj (hr'.symm.trans hr'')
          exact hs.founded i r o hr (hcarried.order.symm.trans ho')
    obtain ⟨order, horder⟩ := hexists
    obtain ⟨order', horder', -⟩ := h.orders o order horder
    exact ⟨order', horder'⟩
  · intro i o order' r' fee hconfirmed
    obtain ⟨order, r, hbefore, hterms, hparty⟩ := h.confirmed hs.founded hconfirmed
    exact (hmatched i o order r fee hbefore).1.of_terms hterms hparty
  · intro i o order' r' fee hconfirmed hrunning
    obtain ⟨order, r, hbefore, -, -⟩ := h.confirmed hs.founded hconfirmed
    exact (hmatched i o order r fee hbefore).2
      (hs.running i o order r fee hbefore (hclock i o order' r' fee hconfirmed hrunning))

theorem DeskSound.kept (hs : DeskSound s) (h : FeeTablesKept s.db s'.db)
    (hkept : ConfirmedFeesKept s.db s'.db)
    (hclock : forall i o order r fee, ConfirmedFee s'.db i o order r fee ->
      (s'.startDueAt i).isSome = true -> (s.startDueAt i).isSome = true) :
    DeskSound s' := by
  refine hs.carried h ?_ hclock
  intro i o order r fee hconfirmed
  obtain ⟨hrows, hreceipts⟩ := hkept i o order r fee hconfirmed
  have hm := hs.matched i o order r fee hconfirmed
  have hm' := hm.kept (h.linked hs.fees.linked).indexed hrows hreceipts
  exact ⟨hm', (hm.allPaid_kept hm' hreceipts).2⟩

end Tables

end MarketBridge
