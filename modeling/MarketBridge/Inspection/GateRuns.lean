import MarketBridge.Inspection.ArrivalRuns
import MarketBridge.Inspection.GateConfirmation

/-!
# Runs in which the payment gates of inspections agree

Every step that meets its condition keeps a sound desk, and in a sound desk the three gates
of a confirmed inspection pass exactly if its fee is covered.
-/

namespace MarketBridge

open Relational

/-! ## The clock of the inspector -/

section Clock

variable {s : InspectionDesk} {env : Env} {requestId orderId : Id} {request : InspectionRequest}

theorem DeskSound.backfill (hs : DeskSound s) (due : Nat) :
    DeskSound (InspectionDesk.backfill requestId due request s) := by
  unfold InspectionDesk.backfill
  split
  · exact hs.of_requests rfl rfl rfl (rel_setRequest fun r _ => .of_terms rfl id) fun _ h => h
  · exact hs

theorem DeskSound.setClock (hs : DeskSound s) {due : Option Nat}
    (hpaid : forall o order r fee, ConfirmedFee s.db requestId o order r fee ->
      AllPaid s.db requestId) :
    DeskSound (s.setClock requestId due) := by
  refine ⟨hs.fees, hs.keyed, hs.founded, hs.matched, fun i o order r fee h hrunning => ?_⟩
  by_cases hi : i = requestId
  · subst hi
    exact hpaid o order r fee h
  · refine hs.running i o order r fee h ?_
    simpa [InspectionDesk.setClock, Function.update_of_ne hi] using hrunning

theorem DeskSound.startPaidInspectionClock (hs : DeskSound s) (row : InspectionDesk.ClockRow) :
    DeskSound (s.startPaidInspectionClock env requestId row) := by
  unfold InspectionDesk.startPaidInspectionClock
  split
  · exact hs
  · next request hr =>
      split
      · exact hs
      · next orderId hof =>
          split
          · split
            · exact hs.backfill _
            · exact hs
          · split
            · exact hs
            · split
              · next hpaid =>
                  split
                  · have hset : DeskSound (s.setRequest requestId
                        ({ · with workflowDueAt := none })) :=
                      hs.of_requests rfl rfl rfl (rel_setRequest fun r _ => .of_terms rfl id)
                        fun _ h => h
                    refine DeskSound.recordOrderEvent (s := (s.setRequest requestId
                      ({ · with workflowDueAt := none })).setClock requestId _)
                        (hset.setClock ?_) _ _
                    intro o order r fee h
                    -- the obligations that the clock has read are the ones of its order
                    obtain ⟨hr', hof', -⟩ := h.request
                    have hr' : (s.db.inspectionRequests.update requestId
                        ({ · with workflowDueAt := none })).findUnique requestId = some r := hr'
                    rw [Table.findUnique_update_self, hr] at hr'
                    obtain rfl := Option.some.inj hr'
                    obtain rfl := Option.some.inj (hof.symm.trans hof')
                    exact ((hset.matched _ _ _ _ _ h).clockIsPaid_iff h hset.fees).1 hpaid
                  · exact hs
              · split
                · exact hs.backfill _
                · exact hs

theorem DeskSound.startInspection (hs : DeskSound s) {userId : Id} {s' : InspectionDesk}
    (h : s.startInspection env userId requestId = .ok s') : DeskSound s' := by
  unfold InspectionDesk.startInspection at h
  cases hr : s.db.inspectionRequests.findUnique requestId with
  | none =>
      simp [hr] at h
  | some request =>
      simp only [hr, bind_eq_ok] at h
      obtain ⟨-, -, -, -, h⟩ := h
      split at h
      · next hmay =>
          obtain rfl := Except.ok.inj h
          have hset : DeskSound (s.setRequest requestId ({ · with status := .inProgress })) := by
            refine hs.of_requests rfl rfl rfl (rel_setRequest fun r hr' => .of_terms rfl ?_)
              fun _ h => h
            intro hcancelled
            obtain rfl := Option.some.inj (hr.symm.trans hr')
            unfold mayStart at hmay
            simp [hcancelled] at hmay
          split
          · exact hset.recordOrderEvent _ _
          · exact hset
      · cases h

end Clock

/-! ## Steps -/

section Steps

variable {s : InspectionDesk} {env : Env}

theorem DeskSound.acceptQuote (hs : DeskSound s) (requestId inspectorId : Id) (amount : ℚ) :
    DeskSound (FeeStep.step s (env, .acceptQuote requestId inspectorId amount)) := by
  unfold FeeStep.step
  dsimp only
  split
  · exact hs
  · split
    · refine hs.setRequest (fun r _ => ⟨rfl, fun h => ?_, Or.inr (Or.inl rfl)⟩) fun hdue => by
        cases hdue
      exact h.agreed (toDecimal_isCents amount) env inspectorId
    · exact hs

theorem DeskSound.createOrder (hs : DeskSound s) {order : Order}
    (hparties : order.buyerId ≠ order.sellerId) :
    DeskSound { s with db := { s.db with orders := s.db.orders.create order } } := by
  refine hs.kept ⟨?_, ?_, fun i r hr => ⟨r, hr, .refl r⟩, ?_, fun i p o hp ho => ⟨p, hp, ho, rfl⟩,
    .refl (fun _ b => ⟨b.status, rfl⟩) _⟩ (.of_eq rfl rfl) fun _ _ _ _ _ _ h => h
  · intro o order' horder
    refine ⟨order', ?_, fun _ => rfl⟩
    have ho : o ≠ s.db.orders.size := Nat.ne_of_lt (Table.lt_size_of_findUnique horder)
    simp only [Table.findUnique_create, if_neg ho]
    exact horder
  · intro o order' horder
    simp only [Table.findUnique_create] at horder
    split at horder
    · obtain rfl := Option.some.inj horder
      exact hparties
    · exact hs.fees.parties o order' horder
  · intro i r' hr' hr
    have hnone : s.db.inspectionRequests.findUnique i = some r' := hr'
    rw [hnone] at hr
    cases hr

theorem DeskSound.createInspection (hs : DeskSound s) {orderId : Id} (mode : InspectionMode)
    (feePayer : InspectionFeePayer) (horder : (s.db.orders.findUnique orderId).isSome = true) :
    DeskSound { s with db := { s.db with
      inspectionRequests := s.db.inspectionRequests.create
        { orderId := some orderId
          mode := mode
          feePayer := feePayer } } } := by
  refine hs.kept ⟨fun o order h => ⟨order, h, fun _ => rfl⟩, hs.fees.parties, ?_, ?_,
    fun i p o hp ho => ⟨p, hp, ho, rfl⟩, .refl (fun _ b => ⟨b.status, rfl⟩) _⟩ (.of_eq rfl rfl)
    fun _ _ _ _ _ _ h => h
  · intro i r hr
    refine ⟨r, ?_, .refl r⟩
    have hi : i ≠ s.db.inspectionRequests.size := Nat.ne_of_lt (Table.lt_size_of_findUnique hr)
    simp only [Table.findUnique_create, if_neg hi]
    exact hr
  · intro i r' hr' hr
    simp only [Table.findUnique_create] at hr'
    split at hr'
    · obtain rfl := Option.some.inj hr'
      refine ⟨rfl, ⟨nofun, nofun⟩, fun o ho => ?_⟩
      obtain rfl := Option.some.inj ho
      exact Option.isSome_iff_exists.1 horder
    · rw [hr] at hr'
      cases hr'

theorem DeskSound.moveOrder (hs : DeskSound s) (orderId : Id) (status : OrderStatus) :
    DeskSound { s with db := { s.db with
      orders := s.db.orders.update orderId ({ · with status := status }) } } := by
  refine hs.kept (.of_settlement ?_ (.refl (fun _ r => .refl r) _) hs.fees.parties
    (.refl (fun _ _ => ⟨rfl, Or.inl rfl⟩) _) (.refl (fun _ b => ⟨b.status, rfl⟩) _))
    (.of_eq rfl rfl) fun _ _ _ _ _ _ h => h
  exact Table.rel_update (fun _ _ _ => rfl) fun order _ role => by cases role <;> rfl

theorem DeskSound.step (hs : DeskSound s) (a : Env × FeeStep)
    (hmeets : FeeStep.meets s a = true) : DeskSound (FeeStep.step s a) := by
  obtain ⟨env, a⟩ := a
  cases a with
  | syncOrderPaymentObligations orderId =>
      exact hs.sync (by simpa [FeeStep.meets] using hmeets)
  | acceptQuote requestId inspectorId amount => exact hs.acceptQuote requestId inspectorId amount
  | sellerConfirm requestId => exact hs.sellerConfirm hmeets
  | confirmArrival requestId => exact hs.writeRequest fun r _ => .of_terms rfl id
  | startPaidInspectionClock requestId row => exact hs.startPaidInspectionClock row
  | startInspection userId requestId =>
      exact commit_preserves (P := DeskSound) hs fun s' h => hs.startInspection h
  | moveInspection requestId status =>
      unfold FeeStep.step
      dsimp only
      split
      · exact hs
      · refine hs.writeRequest fun r hr => .of_terms rfl fun hcancelled => ?_
        simp [hcancelled] at hr
  | release requestId keepsClock =>
      refine hs.setRequest (fun r _ => .unassigned r) fun hdue => ?_
      cases keepsClock with
      | true => exact hdue
      | false => cases hdue
  | reopenAfterNoShow requestId =>
      exact hs.setAndClose (fun r _ => ⟨rfl, fun _ => ⟨nofun, nofun⟩, Or.inr (Or.inl rfl)⟩)
        fun r => Or.inl rfl
  | lapse requestId => exact hs.setAndClose (fun r _ => .of_terms rfl fun _ => rfl) fun r => Or.inr rfl
  | cancelInspection requestId =>
      exact hs.of_requests rfl rfl rfl
        (rel_setRequest fun r _ => ⟨rfl, fun _ => ⟨nofun, nofun⟩, Or.inr (Or.inr rfl)⟩) fun _ h => h
  | cancelOrder orderId => exact hs.cancelOrder hmeets
  | createPayment data => exact hs.createPayment hmeets
  | settlePaymentCore args =>
      unfold FeeStep.step
      dsimp only
      cases hok : MarketBridge.settlePaymentCore env args s.db with
      | error e => exact hs
      | ok db' => exact hs.settlePaymentCore hmeets hok
  | movePayment paymentId status =>
      unfold FeeStep.step
      dsimp only
      split
      · exact hs
      · next hstatus => exact hs.movePayment hmeets hstatus
  | createOrder order =>
      unfold FeeStep.step
      dsimp only
      split
      · exact hs
      · next hparties => exact hs.createOrder hparties
  | createInspection orderId mode feePayer =>
      unfold FeeStep.step
      dsimp only
      split
      · next horder => exact hs.createInspection mode feePayer horder
      · exact hs
  | moveOrder orderId status => exact hs.moveOrder orderId status
  | elsewhere other =>
      exact hs.of_requests rfl rfl rfl (.refl (fun _ r => .refl r) _) fun _ h => h

end Steps

/-! ## The gates -/

section Gates

variable {s : InspectionDesk} {requestId orderId : Id} {order : Order} {r : InspectionRequest}
  {fee : ℚ}

theorem DeskSound.clock_iff (hs : DeskSound s)
    (h : ConfirmedFee s.db requestId orderId order r fee) {env : Env}
    {row : InspectionDesk.ClockRow} (hrow : row.sellerConfirmedAt.isSome = true)
    (hawaits : s.awaitsStart requestId r = true) :
    ((s.startPaidInspectionClock env requestId row).startDueAt requestId).isSome = true ↔
      AllPaid s.db requestId := by
  have hm := hs.matched _ _ _ _ _ h
  obtain ⟨hr, hof, -⟩ := h.request
  have hnone : row.sellerConfirmedAt.isNone = false := by
    rw [← Option.not_isSome, hrow]
    rfl
  have hstopped : (s.startDueAt requestId).isSome = false := by
    unfold InspectionDesk.awaitsStart at hawaits
    simp only [Bool.and_eq_true, Option.isNone_iff_eq_none] at hawaits
    rw [hawaits.2]
    rfl
  rw [← hm.clockIsPaid_iff h hs.fees]
  unfold InspectionDesk.startPaidInspectionClock
  simp only [hr, hof, hnone, hawaits, Bool.false_eq_true, if_false, if_true, Bool.and_true]
  by_cases hpaid : InspectionDesk.clockIsPaid s.db requestId orderId = true
  · have hsome : (InspectionDesk.clockFees s.db requestId orderId).isEmpty = false := by
      unfold InspectionDesk.clockIsPaid at hpaid
      rw [Bool.and_eq_true, Bool.not_eq_true'] at hpaid
      exact hpaid.1
    simp [hpaid, hsome, InspectionDesk.setClock]
  · simp only [hpaid, Bool.false_eq_true, if_false, iff_false, Bool.not_eq_true]
    split
    · exact hstopped
    · split
      · unfold InspectionDesk.backfill
        split
        · exact hstopped
        · exact hstopped
      · exact hstopped

theorem DeskSound.gatesAgree (hs : DeskSound s)
    (h : ConfirmedFee s.db requestId orderId order r fee) :
    GatesAgree s requestId r fee := by
  have hm := hs.matched _ _ _ _ _ h
  have hcovered := hm.covered_iff h hs.fees
  refine ⟨?_, ?_, ?_, ?_⟩
  · rw [hcovered]
    exact hm.startIsPaid_iff h hs.fees
  · rw [hcovered]
    exact hm.reportIsPaid_iff h hs.fees
  · intro env row hrow hawaits
    rw [hcovered]
    exact hs.clock_iff h hrow hawaits
  · intro hrunning
    rw [hm.startIsPaid_iff h hs.fees]
    exact hs.running _ _ _ _ _ h hrunning

end Gates

/-! ## Runs -/

/-- A desk before the first fee is confirmed. -/
structure InspectionDesk.IsFresh (s : InspectionDesk) : Prop where
  rows : forall o, s.db.obligations.findUnique o = none
  links : forall i p, s.db.payments.findUnique i = some p -> p.obligationId = none
  parties : forall o order, s.db.orders.findUnique o = some order -> order.buyerId ≠ order.sellerId
  requests : forall i r, s.db.inspectionRequests.findUnique i = some r ->
    r.sellerConfirmedAt = none ∧ r.TermsSound ∧
      forall o, r.orderId = some o -> exists order, s.db.orders.findUnique o = some order

theorem InspectionDesk.IsFresh.sound {s : InspectionDesk} (h : s.IsFresh) : DeskSound s := by
  have hnot : forall i o order r fee, ¬ ConfirmedFee s.db i o order r fee := by
    intro i o order r fee hconfirmed
    obtain ⟨hr, -⟩ := hconfirmed.request
    exact not_confirmedFee_of_row hr (Or.inl (h.requests i r hr).1) hconfirmed
  refine ⟨(FeeHistory.start h.rows h.links h.parties fun i r hr => (h.requests i r hr).2.1).sound,
    ?_, fun i r o hr => (h.requests i r hr).2.2 o, ?_, ?_⟩
  · intro o b hb
    rw [h.rows o] at hb
    cases hb
  · intro i o order r fee hconfirmed
    exact absurd hconfirmed (hnot i o order r fee)
  · intro i o order r fee hconfirmed
    exact absurd hconfirmed (hnot i o order r fee)

def feeDesk : InspectionDesk :=
  { db :=
      { orders := Table.empty.create splitOrder
        inspectionRequests := Table.empty.create
          { orderId := some 0
            feePayer := .split } }
    startDueAt := fun _ => none }

theorem feeDesk_isFresh : feeDesk.IsFresh := by
  refine ⟨fun _ => rfl, fun i p hp => ?_, fun _ _ h => splitOrder_parties h, fun i r hr => ?_⟩
  · have hnone : feeDesk.db.payments.findUnique i = none := Table.findUnique_empty i
    rw [hnone] at hp
    cases hp
  · have hi : i < 1 := Table.lt_size_of_findUnique hr
    obtain rfl := Nat.lt_one_iff.1 hi
    obtain rfl := Option.some.inj hr
    refine ⟨rfl, ⟨nofun, nofun⟩, fun o ho => ?_⟩
    obtain rfl := Option.some.inj ho
    exact ⟨splitOrder, rfl⟩

def feePayment (payerId : Id) (amount : ℚ) : CreatePaymentData :=
  { type := .inspector
    amount := .finite amount
    orderId := some 0
    createdById := some payerId
    inspectionRequestId := some 0 }

def feeNotice (paymentId : Id) (amount : ℚ) : SettleArgs :=
  { paymentId := paymentId
    status := .paid
    amount := some (.finite amount) }

/-- The request of `feeDesk` with its inspector on site, who waits for `fee`. -/
def onSiteRequest (inspectorId : Id) (fee : ℚ) : InspectionRequest :=
  { (({ orderId := some 0
        feePayer := .split : InspectionRequest }.agreed env0 inspectorId fee).sellerConfirmed
          env0).onSite env0 with
    workflowDueAt := none }

def readClock : InspectionDesk.ClockRow :=
  { sellerConfirmedAt := some env0.now
    workflowDueAt := none }

def paidHalves : List (Env × FeeStep) :=
  [(env0, .acceptQuote 0 3 1), (env0, .sellerConfirm 0), (env0, .confirmArrival 0),
    (env0, .createPayment (feePayment 1 (1 / 2))), (env0, .settlePaymentCore (feeNotice 0 (1 / 2))),
    (env0, .createPayment (feePayment 2 (1 / 2))), (env0, .settlePaymentCore (feeNotice 1 (1 / 2))),
    (env0, .startPaidInspectionClock 0 readClock)]

/--
The first inspector has not come, and his fee was one birr.  The second one works for one
cent, which is the buyer's alone; the cancelled half of the seller keeps him from starting.
-/
def cheaperInspector : List (Env × FeeStep) :=
  [(env0, .acceptQuote 0 3 1), (env0, .sellerConfirm 0), (env0, .reopenAfterNoShow 0),
    (env0, .acceptQuote 0 4 (1 / 100)), (env0, .sellerConfirm 0), (env0, .confirmArrival 0),
    (env0, .createPayment (feePayment 1 (1 / 100))),
    (env0, .settlePaymentCore (feeNotice 0 (1 / 100))),
    (env0, .startPaidInspectionClock 0 readClock)]

end MarketBridge
