import MarketBridge.Inspection.PaymentGates
import MarketBridge.Payment.InspectionFeeRuns

/-!
# When the payment gates of an inspection agree

The obligations of a confirmed inspection are its shares, and a share is paid exactly if its
party's payment of this share has been received.  Then the three gates agree.
-/

namespace MarketBridge

open Relational

/-- An inspection of the order whose fee is confirmed. -/
structure ConfirmedFee (db : Db) (requestId orderId : Id) (order : Order) (r : InspectionRequest)
    (fee : ℚ) : Prop where
  order : db.orders.findUnique orderId = some order
  live : (requestId, r) ∈ liveInspections db orderId
  confirmed : r.Confirmed fee

def isFeeRow (requestId : Id) (b : PaymentObligation) : Bool :=
  b.type = .inspector && b.inspectionRequestId = some requestId

def ReceivedFrom (db : Db) (requestId payerId : Id) : Prop :=
  exists i p, db.payments.findUnique i = some p ∧ isReceivedFee requestId p = true ∧
    p.createdById = some payerId

/-- Rows are shares, and what has been received are the shares that are paid. -/
structure FeeMatched (db : Db) (requestId orderId : Id) (order : Order) (r : InspectionRequest)
    (fee : ℚ) : Prop where
  rows : RowsAreShares db.obligations (isFeeRow requestId) orderId order requestId r fee
  settled : forall o b, db.obligations.findUnique o = some b -> isFeeRow requestId b = true ->
    b.status = .paid ∧ ReceivedFrom db requestId b.payerId ∨
      b.status = .open ∧ ¬ ReceivedFrom db requestId b.payerId
  fits : forall i p, db.payments.findUnique i = some p -> isReceivedFee requestId p = true ->
    exists role, 0 < r.share fee role ∧ p.createdById = some (role.of order) ∧
      p.amount = r.share fee role
  single : forall i j p q, db.payments.findUnique i = some p ->
    db.payments.findUnique j = some q -> isReceivedFee requestId p = true ->
      isReceivedFee requestId q = true -> p.createdById = q.createdById -> i = j

def AllPaid (db : Db) (requestId : Id) : Prop :=
  forall o b, db.obligations.findUnique o = some b -> isFeeRow requestId b = true ->
    b.status = .paid

section Gates

variable {db : Db} {requestId orderId : Id} {order : Order} {r : InspectionRequest} {fee : ℚ}

theorem ConfirmedFee.request (h : ConfirmedFee db requestId orderId order r fee) :
    db.inspectionRequests.findUnique requestId = some r ∧ r.orderId = some orderId ∧
      r.status ≠ .cancelled := by
  obtain ⟨hr, hselected⟩ := Table.mem_findMany.1 h.live
  simp only [Bool.and_eq_true, decide_eq_true_eq] at hselected
  exact ⟨hr, hselected.1, hselected.2⟩

theorem ConfirmedFee.isObligationOf (h : ConfirmedFee db requestId orderId order r fee)
    (hsound : FeesSound db) {o : Id} {b : PaymentObligation}
    (hb : db.obligations.findUnique o = some b) :
    isObligationOf orderId requestId b = isFeeRow requestId b := by
  obtain ⟨hr, hof, -⟩ := h.request
  unfold MarketBridge.isObligationOf isFeeRow
  rw [Bool.eq_iff_iff]
  simp only [Bool.and_eq_true, decide_eq_true_eq]
  constructor
  · rintro ⟨⟨-, hrequest⟩, htype⟩
    exact ⟨htype, hrequest⟩
  · rintro ⟨htype, hrequest⟩
    obtain ⟨r', hr', hof'⟩ := hsound.named o b requestId hb htype hrequest
    obtain rfl := Option.some.inj (hr.symm.trans hr')
    exact ⟨⟨Option.some.inj (hof'.symm.trans hof), hrequest⟩, htype⟩

theorem ConfirmedFee.mem_inspectionFees (h : ConfirmedFee db requestId orderId order r fee)
    (hsound : FeesSound db) {e : Id × PaymentObligation} :
    e ∈ inspectionFees db requestId r ↔
      db.obligations.findUnique e.1 = some e.2 ∧ isFeeRow requestId e.2 = true := by
  unfold inspectionFees
  rw [h.request.2.1]
  constructor
  · intro he
    obtain ⟨hb, hof⟩ := Table.mem_findMany.1 he
    exact ⟨hb, (h.isObligationOf hsound hb).symm.trans hof⟩
  · rintro ⟨hb, hrow⟩
    exact Table.mem_findMany.2 ⟨hb, (h.isObligationOf hsound hb).trans hrow⟩

theorem ConfirmedFee.total_pos (h : ConfirmedFee db requestId orderId order r fee)
    (hsound : FeesSound db) : 0 < r.totalFee fee :=
  (InspectionRequest.totalFee_isCents (hsound.terms requestId r h.request.1) h.confirmed.agreed
    h.confirmed.positive).2

theorem ConfirmedFee.shares (h : ConfirmedFee db requestId orderId order r fee)
    (hsound : FeesSound db) :
    r.share fee .buyer + r.share fee .seller = r.totalFee fee ∧ 0 ≤ r.share fee .buyer ∧
      0 ≤ r.share fee .seller := by
  obtain ⟨-, hsum, hbuyer, hseller, -⟩ :=
    InspectionRequest.shares_of_confirmed (hsound.terms requestId r h.request.1) h.confirmed
  exact ⟨hsum, hbuyer, hseller⟩

theorem ConfirmedFee.exists_share (h : ConfirmedFee db requestId orderId order r fee)
    (hsound : FeesSound db) : exists role, 0 < r.share fee role := by
  obtain ⟨hsum, hbuyer, hseller⟩ := h.shares hsound
  have htotal := h.total_pos hsound
  by_contra hnone
  have hno : forall role, ¬ 0 < r.share fee role := not_exists.1 hnone
  have hbuyer' := hno .buyer
  have hseller' := hno .seller
  linarith

/-! ## The gates read whether all is paid -/

theorem FeeMatched.exists_row (hm : FeeMatched db requestId orderId order r fee)
    (h : ConfirmedFee db requestId orderId order r fee) (hsound : FeesSound db) :
    exists o b, db.obligations.findUnique o = some b ∧ isFeeRow requestId b = true := by
  obtain ⟨role, hpos⟩ := h.exists_share hsound
  obtain ⟨o, b, hb, hrow, -⟩ := hm.rows.row role hpos
  exact ⟨o, b, hb, hrow⟩

theorem FeeMatched.inspectionFees_ne_nil (hm : FeeMatched db requestId orderId order r fee)
    (h : ConfirmedFee db requestId orderId order r fee) (hsound : FeesSound db) :
    (inspectionFees db requestId r).isEmpty = false := by
  obtain ⟨o, b, hb, hrow⟩ := hm.exists_row h hsound
  rw [List.isEmpty_eq_false_iff_exists_mem]
  exact ⟨(o, b), (h.mem_inspectionFees hsound).2 ⟨hb, hrow⟩⟩

theorem ConfirmedFee.all_inspectionFees (h : ConfirmedFee db requestId orderId order r fee)
    (hsound : FeesSound db) :
    ((inspectionFees db requestId r).all fun e => e.2.status = .paid) = true ↔
      AllPaid db requestId := by
  rw [List.all_eq_true]
  constructor
  · intro hall o b hb hrow
    exact of_decide_eq_true (hall (o, b) ((h.mem_inspectionFees hsound).2 ⟨hb, hrow⟩))
  · intro hall e he
    obtain ⟨hb, hrow⟩ := (h.mem_inspectionFees hsound).1 he
    exact decide_eq_true (hall e.1 e.2 hb hrow)

theorem FeeMatched.startIsPaid_iff (hm : FeeMatched db requestId orderId order r fee)
    (h : ConfirmedFee db requestId orderId order r fee) (hsound : FeesSound db) :
    startIsPaid db requestId r = true ↔ AllPaid db requestId := by
  unfold startIsPaid
  simp only [hm.inspectionFees_ne_nil h hsound, Bool.false_eq_true, if_false]
  exact h.all_inspectionFees hsound

theorem FeeMatched.reportIsPaid_iff (hm : FeeMatched db requestId orderId order r fee)
    (h : ConfirmedFee db requestId orderId order r fee) (hsound : FeesSound db) :
    reportIsPaid db requestId r = true ↔ AllPaid db requestId := by
  unfold reportIsPaid
  simp only [hm.inspectionFees_ne_nil h hsound, Bool.false_eq_true, if_false]
  exact h.all_inspectionFees hsound

theorem FeeMatched.clockFees_eq (hm : FeeMatched db requestId orderId order r fee)
    (h : ConfirmedFee db requestId orderId order r fee) (hsound : FeesSound db)
    {e : Id × PaymentObligation} :
    e ∈ InspectionDesk.clockFees db requestId orderId ↔ e ∈ inspectionFees db requestId r := by
  rw [h.mem_inspectionFees hsound]
  unfold InspectionDesk.clockFees
  rw [Table.mem_findMany, Bool.and_eq_true, decide_eq_true_eq]
  constructor
  · rintro ⟨hb, hof, -⟩
    exact ⟨hb, (h.isObligationOf hsound hb).symm.trans hof⟩
  · rintro ⟨hb, hrow⟩
    refine ⟨hb, (h.isObligationOf hsound hb).trans hrow, ?_⟩
    rcases hm.settled e.1 e.2 hb hrow with ⟨hs, -⟩ | ⟨hs, -⟩
    · simp [hs]
    · simp [hs]

theorem FeeMatched.clockIsPaid_iff (hm : FeeMatched db requestId orderId order r fee)
    (h : ConfirmedFee db requestId orderId order r fee) (hsound : FeesSound db) :
    InspectionDesk.clockIsPaid db requestId orderId = true ↔ AllPaid db requestId := by
  have hsame : (InspectionDesk.clockFees db requestId orderId).isEmpty = false := by
    obtain ⟨o, b, hb, hrow⟩ := hm.exists_row h hsound
    rw [List.isEmpty_eq_false_iff_exists_mem]
    exact ⟨(o, b), (hm.clockFees_eq h hsound).2 ((h.mem_inspectionFees hsound).2 ⟨hb, hrow⟩)⟩
  unfold InspectionDesk.clockIsPaid
  rw [hsame, Bool.not_false, Bool.true_and, ← h.all_inspectionFees hsound, List.all_eq_true,
    List.all_eq_true]
  constructor
  · intro hall e he
    exact hall e ((hm.clockFees_eq h hsound).2 he)
  · intro hall e he
    exact hall e ((hm.clockFees_eq h hsound).1 he)

/-! ## What has been received -/

def receivedOf (db : Db) (requestId : Id) (order : Order) (role : OfferCounterParty) : ℚ :=
  db.payments.sumOf fun _ p =>
    if isReceivedFee requestId p = true ∧ p.createdById = some (role.of order) then p.amount else 0

theorem FeeMatched.receivedFees_eq (hm : FeeMatched db requestId orderId order r fee)
    (hparties : order.buyerId ≠ order.sellerId) :
    receivedFees db requestId =
      receivedOf db requestId order .buyer + receivedOf db requestId order .seller := by
  unfold receivedFees receivedOf
  rw [← Table.sumOf_add]
  refine Table.sumOf_congr fun i p hp => ?_
  by_cases hreceived : isReceivedFee requestId p = true
  · obtain ⟨role, -, hcreator, -⟩ := hm.fits i p hp hreceived
    have hbuyer : ¬ order.sellerId = order.buyerId := fun hsame => hparties hsame.symm
    cases role with
    | buyer => simp [hreceived, hcreator, OfferCounterParty.of, hparties]
    | seller => simp [hreceived, hcreator, OfferCounterParty.of, hbuyer]
  · simp [hreceived]

variable {role : OfferCounterParty}

theorem FeeMatched.receivedOf_of_received (hm : FeeMatched db requestId orderId order r fee)
    (hparties : order.buyerId ≠ order.sellerId)
    (hreceived : ReceivedFrom db requestId (role.of order)) :
    receivedOf db requestId order role = r.share fee role := by
  obtain ⟨i, p, hp, hfee, hcreator⟩ := hreceived
  obtain ⟨role', -, hcreator', hamount⟩ := hm.fits i p hp hfee
  obtain rfl : role = role' :=
    OfferCounterParty.of_inj hparties (Option.some.inj (hcreator.symm.trans hcreator'))
  unfold receivedOf
  rw [Table.sumOf_of_single hp ?_, if_pos ⟨hfee, hcreator⟩, hamount]
  intro j q hq hne
  rw [if_neg]
  rintro ⟨hfee', hcreator''⟩
  exact hne (hm.single j i q p hq hp hfee' hfee (hcreator''.trans hcreator.symm))

theorem receivedOf_of_not_received (hnot : ¬ ReceivedFrom db requestId (role.of order)) :
    receivedOf db requestId order role = 0 := by
  refine Table.sumOf_of_zero fun i p hp => ?_
  dsimp only
  rw [if_neg]
  rintro ⟨hfee, hcreator⟩
  exact hnot ⟨i, p, hp, hfee, hcreator⟩

theorem FeeMatched.receivedOf_le (hm : FeeMatched db requestId orderId order r fee)
    (hparties : order.buyerId ≠ order.sellerId) (hshare : 0 ≤ r.share fee role) :
    receivedOf db requestId order role ≤ r.share fee role := by
  by_cases hreceived : ReceivedFrom db requestId (role.of order)
  · exact (hm.receivedOf_of_received hparties hreceived).le
  · rw [receivedOf_of_not_received hreceived]
    exact hshare

theorem FeeMatched.receivedOf_of_allPaid (hm : FeeMatched db requestId orderId order r fee)
    (hparties : order.buyerId ≠ order.sellerId) (hall : AllPaid db requestId)
    (hshare : 0 ≤ r.share fee role) :
    receivedOf db requestId order role = r.share fee role := by
  rcases hshare.lt_or_eq with hpos | hzero
  · obtain ⟨o, b, hb, hrow, hcharged⟩ := hm.rows.row role hpos
    refine hm.receivedOf_of_received hparties ?_
    rcases hm.settled o b hb hrow with ⟨-, hreceived⟩ | ⟨hopen, -⟩
    · exact hcharged.payer ▸ hreceived
    · rw [hall o b hb hrow] at hopen
      cases hopen
  · by_cases hreceived : ReceivedFrom db requestId (role.of order)
    · exact hm.receivedOf_of_received hparties hreceived
    · rw [receivedOf_of_not_received hreceived, hzero]

theorem FeeMatched.covered_iff (hm : FeeMatched db requestId orderId order r fee)
    (h : ConfirmedFee db requestId orderId order r fee) (hsound : FeesSound db) :
    r.totalFee fee ≤ receivedFees db requestId ↔ AllPaid db requestId := by
  have hparties := hsound.parties _ _ h.order
  obtain ⟨hsum, hbuyer, hseller⟩ := h.shares hsound
  rw [hm.receivedFees_eq hparties]
  constructor
  · intro hcovered o b hb hrow
    rcases hm.settled o b hb hrow with ⟨hpaid, -⟩ | ⟨-, hnot⟩
    · exact hpaid
    · obtain ⟨role, hcharged⟩ := hm.rows.share o b hb hrow
      rw [hcharged.payer] at hnot
      have hzero := receivedOf_of_not_received hnot
      have hpos := hcharged.positive
      have hbuyerLe := hm.receivedOf_le hparties hbuyer
      have hsellerLe := hm.receivedOf_le hparties hseller
      exfalso
      cases role with
      | buyer => linarith
      | seller => linarith
  · intro hall
    rw [hm.receivedOf_of_allPaid hparties hall hbuyer,
      hm.receivedOf_of_allPaid hparties hall hseller, hsum]

end Gates

end MarketBridge
