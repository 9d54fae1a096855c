import MarketBridge.Inspection.GateInvariant

/-!
# Writes of requests and orders

Agreements, releases, cancellations and closed orders keep a sound desk, because none of them
writes an obligation or a payment of a fee that stays confirmed.
-/

namespace MarketBridge

open Relational

/-! ## Frames -/

section Frames

variable {db db' : Db}

/-- Only requests have changed. -/
theorem FeeTablesKept.of_requests (horders : db'.orders = db.orders)
    (hpayments : db'.payments = db.payments) (hobligations : db'.obligations = db.obligations)
    (hparties : forall o order, db.orders.findUnique o = some order ->
      order.buyerId ≠ order.sellerId)
    (hrequests : db.inspectionRequests.Rel (fun _ r r' => RequestCarried r r')
      db'.inspectionRequests) :
    FeeTablesKept db db' where
  orders := fun o order horder => ⟨order, by rw [horders]; exact horder, fun _ => rfl⟩
  parties := fun o order horder => hparties o order (horders ▸ horder)
  requests := fun i r hr => hrequests.of_left hr
  fresh := fun i r' hr' hr => by
    rw [hrequests.none_right hr] at hr'
    cases hr'
  payments := fun i p o hp ho => ⟨p, hpayments ▸ hp, ho, rfl⟩
  rows := by
    rw [hobligations]
    exact .refl (fun _ b => ⟨b.status, rfl⟩) _

theorem ConfirmedFeesKept.of_eq (hpayments : db'.payments = db.payments)
    (hobligations : db'.obligations = db.obligations) : ConfirmedFeesKept db db' := by
  intro i o order r fee _
  refine ⟨fun o b _ => ?_, .of_eq hpayments⟩
  rw [hobligations]

theorem feeTablesKept_retire (p : PaymentObligation -> Bool)
    (hparties : forall o order, db.orders.findUnique o = some order ->
      order.buyerId ≠ order.sellerId) :
    FeeTablesKept db (retireObligations p db) where
  orders := fun o order horder => ⟨order, horder, fun _ => rfl⟩
  parties := hparties
  requests := fun i r hr => ⟨r, hr, .refl r⟩
  fresh := fun i r' hr' hr => by
    have hnone : (retireObligations p db).inspectionRequests.findUnique i = none := hr
    rw [hnone] at hr'
    cases hr'
  payments := fun i q o hq ho => ⟨q, hq, ho, rfl⟩
  rows := Table.rel_updateMany (fun _ b => ⟨b.status, rfl⟩) fun _ b _ _ => ⟨.cancelled, rfl⟩

theorem confirmedFeesKept_retire {p : PaymentObligation -> Bool}
    (hspared : forall i o order r fee, ConfirmedFee db i o order r fee ->
      forall k b, db.obligations.findUnique k = some b -> isFeeRow i b = true ->
        b.status = .open -> p b = false) :
    ConfirmedFeesKept db (retireObligations p db) := by
  intro i o order r fee hconfirmed
  refine ⟨fun k b hrow => ?_, .of_eq rfl⟩
  simp only [retireObligations, Table.findUnique_updateMany]
  constructor
  · intro hb
    obtain ⟨c, hc, hwritten⟩ := Option.map_eq_some_iff.1 hb
    split at hwritten
    · next hselected =>
        rw [Bool.and_eq_true, decide_eq_true_eq] at hselected
        have hmine : isFeeRow i c = true := by
          rw [← hwritten] at hrow
          exact hrow
        rw [hspared i o order r fee hconfirmed k c hc hmine hselected.1] at hselected
        cases hselected.2
    · rw [← hwritten]
      exact hc
  · intro hb
    rw [hb, Option.map_some, Option.some_inj, if_neg]
    rw [Bool.and_eq_true, decide_eq_true_eq]
    rintro ⟨hopen, hp⟩
    rw [hspared i o order r fee hconfirmed k b hb hrow hopen] at hp
    cases hp

end Frames

section Requests

variable {env : Env} {r : InspectionRequest}

theorem termsSound_terms_iff : r.terms.TermsSound ↔ r.TermsSound := by
  constructor
  · intro h
    refine ⟨h.cents, fun hlocked => ?_⟩
    obtain ⟨fee, hpos, hcents, hterms⟩ := h.locked hlocked
    exact ⟨fee, hpos, hcents, hterms.amount, hterms.payer, hterms.buyer, hterms.seller⟩
  · intro h
    refine ⟨h.cents, fun hlocked => ?_⟩
    obtain ⟨fee, hpos, hcents, hterms⟩ := h.locked hlocked
    exact ⟨fee, hpos, hcents, hterms.amount, hterms.payer, hterms.buyer, hterms.seller⟩

theorem RequestCarried.of_terms {r' : InspectionRequest} (hterms : r'.terms = r.terms)
    (hcancelled : r.status = .cancelled -> r'.status = .cancelled) : RequestCarried r r' where
  order := by
    have horder : r'.terms.orderId = r.terms.orderId := congrArg InspectionRequest.orderId hterms
    exact horder
  sound := fun h => by
    rw [← termsSound_terms_iff, hterms, termsSound_terms_iff]
    exact h
  terms := Or.inl ⟨hterms, hcancelled⟩

theorem RequestCarried.cancelled (r : InspectionRequest) :
    RequestCarried r { r with status := .cancelled } :=
  .of_terms rfl fun _ => rfl

theorem RequestCarried.unassigned (r : InspectionRequest) : RequestCarried r r.unassigned :=
  ⟨rfl, fun _ => InspectionRequest.TermsSound.unassigned r, Or.inr (Or.inl rfl)⟩

theorem toDecimal_isCents (q : ℚ) : IsCents (toDecimal q) := by
  unfold toDecimal
  split
  · exact roundMoney_isCents q
  · obtain ⟨n, hn⟩ := roundMoney_isCents (-q)
    exact ⟨-n, by rw [hn]; push_cast; ring⟩

end Requests

/-! ## Steps -/

section Steps

variable {s : InspectionDesk} {env : Env} {requestId orderId : Id}

/-- A write of requests keeps a sound desk, and so does what it does to the clocks. -/
theorem DeskSound.of_requests (hs : DeskSound s) {s' : InspectionDesk}
    (horders : s'.db.orders = s.db.orders) (hpayments : s'.db.payments = s.db.payments)
    (hobligations : s'.db.obligations = s.db.obligations)
    (hrequests : s.db.inspectionRequests.Rel (fun _ r r' => RequestCarried r r')
      s'.db.inspectionRequests)
    (hclock : forall i, (s'.startDueAt i).isSome = true -> (s.startDueAt i).isSome = true) :
    DeskSound s' :=
  hs.kept (.of_requests horders hpayments hobligations hs.fees.parties hrequests)
    (.of_eq hpayments hobligations) fun i _ _ _ _ _ => hclock i

theorem rel_setRequest {f : InspectionRequest -> InspectionRequest}
    (hf : forall r, s.db.inspectionRequests.findUnique requestId = some r ->
      RequestCarried r (f r)) :
    s.db.inspectionRequests.Rel (fun _ r r' => RequestCarried r r')
      (s.setRequest requestId f).db.inspectionRequests :=
  Table.rel_update (fun _ r => .refl r) hf

theorem clock_update {due : Option Nat} (hdue : due.isSome = true ->
    (s.startDueAt requestId).isSome = true) {i : Id}
    (h : ((s.setClock requestId due).startDueAt i).isSome = true) :
    (s.startDueAt i).isSome = true := by
  unfold InspectionDesk.setClock at h
  simp only [Function.update_apply] at h
  split at h
  · next hi =>
      rw [hi]
      exact hdue h
  · exact h

theorem DeskSound.setRequest (hs : DeskSound s) {f : InspectionRequest -> InspectionRequest}
    {due : Option Nat}
    (hf : forall r, s.db.inspectionRequests.findUnique requestId = some r ->
      RequestCarried r (f r))
    (hdue : due.isSome = true -> (s.startDueAt requestId).isSome = true) :
    DeskSound ((s.setRequest requestId f).setClock requestId due) :=
  hs.of_requests rfl rfl rfl (rel_setRequest hf)
    fun _ h => clock_update (s := s.setRequest requestId f) hdue h

variable {f : InspectionRequest -> InspectionRequest} {order : Order}

theorem DeskSound.writeRequest (hs : DeskSound s) {p : InspectionRequest -> Bool}
    (hf : forall r, p r = true -> RequestCarried r (f r)) :
    DeskSound (s.writeRequest requestId p f) := by
  refine hs.of_requests rfl rfl rfl ?_ fun _ h => h
  refine Table.rel_updateMany (fun _ r => .refl r) fun i r _ hselected => hf r ?_
  rw [Bool.and_eq_true] at hselected
  exact hselected.2

theorem DeskSound.closeFees (hs : DeskSound s)
    (hnot : forall o order r fee, ¬ ConfirmedFee s.db requestId o order r fee) :
    DeskSound (s.closeFees requestId) := by
  refine hs.kept (feeTablesKept_retire _ hs.fees.parties) (confirmedFeesKept_retire ?_)
    fun _ _ _ _ _ _ h => h
  intro i o order r fee hconfirmed k b hb hrow hopen
  by_contra hmine
  have hmine : isFeeRow requestId b = true := Bool.not_eq_false _ ▸ hmine
  have hi : i = requestId := by
    unfold isFeeRow at hrow hmine
    simp only [Bool.and_eq_true, decide_eq_true_eq] at hrow hmine
    exact Option.some.inj (hrow.2.symm.trans hmine.2)
  subst hi
  exact hnot o order r fee hconfirmed

theorem not_confirmedFee_of_row {db : Db} {r : InspectionRequest}
    (hr : db.inspectionRequests.findUnique requestId = some r)
    (hnot : r.sellerConfirmedAt = none ∨ r.status = .cancelled) {o : Id} {r' : InspectionRequest}
    {fee : ℚ} : ¬ ConfirmedFee db requestId o order r' fee := by
  intro hconfirmed
  obtain ⟨hr', -, hlive⟩ := hconfirmed.request
  obtain rfl := Option.some.inj (hr.symm.trans hr')
  rcases hnot with hnone | hcancelled
  · have hsome := hconfirmed.confirmed.confirmed
    rw [hnone] at hsome
    cases hsome
  · exact hlive hcancelled

theorem not_confirmedFee_of_none {db : Db}
    (hr : db.inspectionRequests.findUnique requestId = none) {o : Id} {r' : InspectionRequest}
    {fee : ℚ} : ¬ ConfirmedFee db requestId o order r' fee := by
  intro hconfirmed
  rw [hconfirmed.request.1] at hr
  cases hr

theorem DeskSound.setAndClose (hs : DeskSound s) {f : InspectionRequest -> InspectionRequest}
    (hf : forall r, s.db.inspectionRequests.findUnique requestId = some r ->
      RequestCarried r (f r))
    (hnot : forall r, (f r).sellerConfirmedAt = none ∨ (f r).status = .cancelled) :
    DeskSound (((s.setRequest requestId f).setClock requestId none).closeFees requestId) := by
  refine (hs.setRequest hf fun hdue => by cases hdue).closeFees ?_
  intro o order r fee
  cases hr : s.db.inspectionRequests.findUnique requestId with
  | none =>
      refine not_confirmedFee_of_none ?_
      show (s.db.inspectionRequests.update requestId f).findUnique requestId = none
      rw [Table.findUnique_update_self, hr]
      rfl
  | some row =>
      refine not_confirmedFee_of_row (r := f row) ?_ (hnot row)
      show (s.db.inspectionRequests.update requestId f).findUnique requestId = some (f row)
      rw [Table.findUnique_update_self, hr]
      rfl

theorem isConfirmedFee_of {db : Db} {r : InspectionRequest} {fee : ℚ}
    (h : ConfirmedFee db requestId orderId order r fee) :
    FeeStep.isConfirmedFee db requestId = true := by
  obtain ⟨hr, hof, hlive⟩ := h.request
  unfold FeeStep.isConfirmedFee
  rw [hr, Option.any_some]
  simp [hlive, h.confirmed.confirmed, h.confirmed.inspector, h.confirmed.agreed,
    h.confirmed.positive, hof, h.order]

theorem DeskSound.cancelOrder (hs : DeskSound s)
    (hmeets : FeeStep.meets s (env, .cancelOrder orderId) = true) :
    DeskSound (s.cancelOrder orderId) := by
  have hrequests : DeskSound { s with db := { s.db with
      inspectionRequests := s.db.inspectionRequests.updateMany
        (fun _ request => request.orderId = some orderId && request.status ≠ .cancelled &&
          request.status ≠ .completed)
        ({ · with status := .cancelled }) } } := by
    refine hs.of_requests rfl rfl rfl ?_ fun _ h => h
    exact Table.rel_updateMany (fun _ r => .refl r) fun _ r _ _ => .cancelled r
  refine hrequests.kept (feeTablesKept_retire _ hrequests.fees.parties)
    (confirmedFeesKept_retire ?_) fun _ _ _ _ _ _ h => h
  intro i o order r fee hconfirmed k b hb hrow hopen
  by_contra hselected
  have hselected : b.orderId = orderId := by simpa using hselected
  have hmine := (hconfirmed.isObligationOf hrequests.fees hb).trans hrow
  unfold isObligationOf at hmine
  simp only [Bool.and_eq_true, decide_eq_true_eq] at hmine
  obtain ⟨hr, hof, hlive⟩ := hconfirmed.request
  -- an inspection that outlives its order is completed, and was confirmed before
  simp only [Table.findUnique_updateMany] at hr
  obtain ⟨r₀, hr₀, hwritten⟩ := Option.map_eq_some_iff.1 hr
  split at hwritten
  · rw [← hwritten] at hlive
    exact hlive rfl
  · next hnot =>
      subst hwritten
      have hcompleted : r₀.status = .completed := by
        rw [hmine.1.1] at hselected
        subst hselected
        by_contra hother
        exact hnot (by simp [hof, hlive, hother])
      have hbefore : ConfirmedFee s.db i o order r₀ fee :=
        ⟨hconfirmed.order, Table.mem_findMany.2 ⟨hr₀, by simp [hof, hlive]⟩, hconfirmed.confirmed⟩
      unfold FeeStep.meets at hmeets
      rw [Bool.not_eq_true', Table.any_eq_false_iff] at hmeets
      have hany := hmeets k b hb
      simp [hselected, hopen, hmine.1.2, hmine.2, isConfirmedFee_of hbefore, hr₀, hcompleted]
        at hany

end Steps

end MarketBridge
