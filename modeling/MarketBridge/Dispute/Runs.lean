import MarketBridge.Dispute.Discipline

/-!
# Runs under dispute discipline

Every step of the market that respects the dispute of its order keeps the
invariant, and so every run of such steps keeps the discipline.
-/

namespace MarketBridge

open Relational

/-! ## Steps -/

theorem status_of_loadOrder {load : OrderLoad} {db : Db} {orderId : Id} {record : OrderRecord}
    (h : loadOrder load db orderId = some record) :
    record.id = orderId ∧ exists order, db.orders.findUnique orderId = some order ∧
      order.status = record.status := by
  cases load with
  | included =>
      obtain ⟨order, horder, rfl⟩ := Option.map_eq_some_iff.mp h
      exact ⟨rfl, order, horder, rfl⟩
  | selected =>
      obtain ⟨order, horder, rfl⟩ := Option.map_eq_some_iff.mp h
      exact ⟨rfl, order, horder, rfl⟩

theorem OrderCancelled.noNewHold {record : OrderRecord} {db db' : Db}
    (h : OrderCancelled record db db') :
    NoNewHold db.payouts db'.payouts := by
  rw [h.payouts]
  exact noNewHold_updateMany fun _ _ _ => Or.inl (by simp)

/-- A cancelled order has left `DISPUTED`, and no other order has. -/
theorem OrderCancelled.disputed {record : OrderRecord} {db db' : Db}
    (h : OrderCancelled record db db') {i : Id} {order' : Order}
    (hi : db'.orders.findUnique i = some order') :
    exists order, db.orders.findUnique i = some order ∧
      (order'.status = .disputed ↔ order.status = .disputed ∧ i ≠ record.id) := by
  rw [h.orders, Table.findUnique_update] at hi
  by_cases hsame : i = record.id
  · rw [if_pos hsame] at hi
    obtain ⟨order, horder, rfl⟩ := Option.map_eq_some_iff.mp hi
    exact ⟨order, horder, by simp [Order.cancel, hsame]⟩
  · rw [if_neg hsame] at hi
    exact ⟨order', hi, by simp [hsame]⟩

theorem OrderRestored.disputed {env : Env} {dispute : Dispute} {db db' : Db}
    (h : OrderRestored env dispute db db')
    (hprevious : dispute.previousOrderStatus.getD .confirmed ≠ .disputed) {i : Id}
    {order' : Order} (hi : db'.orders.findUnique i = some order') :
    exists order, db.orders.findUnique i = some order ∧
      (order'.status = .disputed ↔ order.status = .disputed ∧ i ≠ dispute.orderId) := by
  rw [h.orders, Table.findUnique_update] at hi
  by_cases hsame : i = dispute.orderId
  · rw [if_pos hsame] at hi
    obtain ⟨order, horder, rfl⟩ := Option.map_eq_some_iff.mp hi
    exact ⟨order, horder, by simp [hprevious, hsame]⟩
  · rw [if_neg hsame] at hi
    exact ⟨order', hi, by simp [hsame]⟩

theorem exists_findUnique_update {orders : Table Order} {orderId i : Id} {f : Order -> Order}
    {order : Order} (h : orders.findUnique i = some order) :
    exists order', (orders.update orderId f).findUnique i = some order' := by
  rw [Table.findUnique_update]
  split
  · exact ⟨f order, by rw [h]; rfl⟩
  · exact ⟨order, h⟩

/-- No payout of the order is frozen once the payouts of its dispute are thawed. -/
theorem OrderRestored.thawed {env : Env} {d : Id} {dispute : Dispute} {db db' : Db}
    (h : OrderRestored env dispute db db')
    (hinv : DisputeInv db.orders db.payouts db.disputes)
    (hd : db.disputes.findUnique d = some dispute) (hopen : dispute.status.isOpen = true)
    {i : Id} {payout : Payout} (hi : db'.payouts.findUnique i = some payout)
    (hs : payout.status = .onHoldDispute) :
    payout.orderId ≠ some dispute.orderId := by
  intro howner
  rw [h.payouts, Table.findUnique_updateMany] at hi
  obtain ⟨before, hbefore, rfl⟩ := Option.map_eq_some_iff.mp hi
  by_cases hselected : selectsForResume dispute.orderId dispute.disputeType before = true
  · rw [if_pos hselected] at hs
    cases hs
  · rw [if_neg hselected] at hs howner
    obtain ⟨e, dispute', he, heopen, howner', hrole⟩ := hinv.held i before hbefore hs
    -- The dispute that froze the payout is the only one of the order that is open.
    have hsame : dispute.orderId = dispute'.orderId :=
      Option.some.inj (howner.symm.trans howner')
    obtain rfl : d = e := hinv.unique dispute.orderId d e ⟨dispute, hd, rfl, hopen⟩
      ⟨dispute', he, hsame.symm, heopen⟩
    obtain rfl : dispute = dispute' := Option.some.inj (hd.symm.trans he)
    exact hselected (by simp [selectsForResume, howner', hs, hrole])

theorem noNewHold_resume (env : Env) (dispute : Dispute) (payouts : Table Payout) :
    NoNewHold payouts (payouts.updateMany
      (fun _ payout => selectsForResume dispute.orderId dispute.disputeType payout)
      (PayoutWrite.write env (.resume 0))) :=
  noNewHold_updateMany fun _ _ _ => Or.inl (by simp [PayoutWrite.write])

/-- What a step does to the disputed orders, beside keeping the invariant. -/
structure DisputeStep (db : Db) (a : Env × MarketStep) (db' : Db) : Prop where
  inv : DisputeInv db'.orders db'.payouts db'.disputes
  left : forall i order order', db.orders.findUnique i = some order ->
    order.status = .disputed -> db'.orders.findUnique i = some order' ->
    order'.status ≠ .disputed -> a.2.Resolves db i

theorem DisputeStep.of_same {db db' : Db} {a : Env × MarketStep}
    (h : DisputeInv db.orders db.payouts db.disputes)
    (horders : SameDisputed db.orders db'.orders) (hpayouts : NoNewHold db.payouts db'.payouts)
    (hdisputes : db'.disputes = db.disputes) :
    DisputeStep db a db' := by
  refine ⟨?_, ?_⟩
  · rw [hdisputes]
    exact h.congr horders hpayouts
  · intro i order order' hi hs hi' hs'
    obtain ⟨before, hbefore, hsame⟩ := horders.find hi'
    obtain rfl : order = before := Option.some.inj (hi.symm.trans hbefore)
    exact absurd (hsame.1 hs) hs'

theorem DisputeStep.of_resolved {env : Env} {db db' : Db} {adminId d : Id}
    {resolutionType : ResolutionType} {resolution : String} {dispute : Dispute}
    (h : DisputeInv db.orders db.payouts db.disputes)
    (hresolvable : IsResolvable db d dispute)
    (horder : forall i order', db'.orders.findUnique i = some order' ->
      exists order, db.orders.findUnique i = some order ∧
        (order'.status = .disputed ↔ order.status = .disputed ∧ i ≠ dispute.orderId))
    (hexists : forall i order, db.orders.findUnique i = some order ->
      exists order', db'.orders.findUnique i = some order')
    (hpayouts : NoNewHold db.payouts db'.payouts)
    (hthawed : forall i payout, db'.payouts.findUnique i = some payout ->
      payout.status = .onHoldDispute -> payout.orderId ≠ some dispute.orderId)
    (hdisputes : db'.disputes = db.disputes.update d (·.resolve resolution)) :
    DisputeStep db (env, .resolveDispute adminId d resolutionType resolution) db' := by
  refine ⟨?_, ?_⟩
  · rw [hdisputes]
    exact h.resolved hresolvable.found hresolvable.isOpen horder hexists hpayouts hthawed
  · intro i order order' hi hs hi' hs'
    obtain ⟨before, hbefore, hsame⟩ := horder i order' hi'
    obtain rfl : order = before := Option.some.inj (hi.symm.trans hbefore)
    have howner : i = dispute.orderId := by
      by_contra hother
      exact hs' (hsame.2 ⟨hs, hother⟩)
    exact ⟨adminId, d, resolutionType, resolution, rfl, dispute, hresolvable.found,
      howner.symm, hresolvable.isOpen⟩

theorem ne_disputed_of_mem_disputableStatuses {s : OrderStatus} (h : s ∈ disputableStatuses) :
    s ≠ .disputed := by
  rintro rfl
  exact absurd h (by decide)

/-- What freezes a payout is the only dispute that is open, so a cancellation thaws it. -/
theorem OrderCancelled.thawed {record : OrderRecord} {db db' : Db}
    (h : OrderCancelled record db db')
    (hearned : forall i payout, db.payouts.findUnique i = some payout ->
      payout.orderId = some record.id -> payout.status = .onHoldDispute ->
      isRetained db (earnedInspections db record.id) payout = false)
    {i : Id} {payout : Payout} (hi : db'.payouts.findUnique i = some payout)
    (hs : payout.status = .onHoldDispute) :
    payout.orderId ≠ some record.id := by
  intro howner
  have hbefore := h.noNewHold i payout hi hs
  rw [h.payouts, Table.findUnique_updateMany, hbefore] at hi
  have hselected : selectsForOrderCancel db record.id (earnedInspections db record.id) payout =
      true := by
    simp [selectsForOrderCancel, howner, hs, hearned i payout hbefore howner hs]
  simp only [Option.map_some, hselected, if_true, Option.some.injEq] at hi
  rw [← hi] at hs
  cases hs

theorem disputeStep {db : Db} {a : Env × MarketStep}
    (h : DisputeInv db.orders db.payouts db.disputes) (hok : MarketStep.respectsDispute db a) :
    DisputeStep db a (MarketStep.step db a) := by
  obtain ⟨env, a⟩ := a
  have heffect := MarketStep.effect env db a
  generalize MarketStep.step db (env, a) = db' at heffect ⊢
  cases heffect with
  | quiet _ _ hquiet =>
      refine .of_same h ?_ hquiet.payouts hquiet.disputes
      rw [hquiet.orders]
      exact .refl _
  | ordered caller updatedAt offerId action order _ horder horders _ hpayouts hdisputes =>
      refine ⟨?_, ?_⟩
      · rw [horders, hpayouts, hdisputes]
        exact h.ordered horder.pending
      · intro i o o' hi hs hi' hs'
        rw [horders, Table.findUnique_create,
          if_neg (Nat.ne_of_lt (Table.lt_size_of_findUnique hi))] at hi'
        obtain rfl : o = o' := Option.some.inj (hi.symm.trans hi')
        exact absurd hs hs'
  | settled args _ hprogress =>
      obtain ⟨horders, hpayouts, hdisputes⟩ := hprogress.undisputed
      exact .of_same h horders hpayouts hdisputes
  | shipped orderId leg order hfind hsource =>
      refine .of_same h (sameDisputed_update hfind ?_ ?_) (.refl _) rfl
      · rw [hsource]
        cases leg <;> decide
      · cases leg <;> simp [ShippingLeg.target]
  | received userId orderId order _ hfind hreceivable _ horders _ hpayouts hdisputes =>
      have hbefore : order.status ≠ .disputed := by
        intro hs
        rw [hok order hfind hs] at hreceivable
        cases hreceivable
      refine .of_same h ?_ (hpayouts ▸ .refl _) hdisputes
      rw [horders]
      exact sameDisputed_update hfind hbefore (by simp)
  | cancelled load orderId actorId reason role record _ hload hcancellable hcancelled =>
      obtain ⟨hid, order, hfind, hstatus⟩ := status_of_loadOrder hload
      have hbefore : order.status ≠ .disputed := by
        intro hs
        exact hok record hload (hstatus ▸ hs) hcancellable
      refine .of_same h ?_ hcancelled.noNewHold hcancelled.disputes
      rw [hcancelled.orders, hid]
      exact sameDisputed_update hfind hbefore (by simp [Order.cancel])
  | raised userId request order _ hfind hdisputable horders _ hpayouts hdisputes =>
      have hbefore := ne_disputed_of_mem_disputableStatuses hdisputable
      refine ⟨?_, ?_⟩
      · rw [horders, hpayouts, hdisputes]
        exact @DisputeInv.raised _ _ _ h env db request.orderId order
          { orderId := request.orderId
            raisedById := userId
            againstId := request.againstId
            disputeType := request.disputeType
            previousOrderStatus := some order.status } hfind hbefore rfl rfl rfl
      · intro i o o' hi hs hi' hs'
        rw [horders, Table.findUnique_update, hi] at hi'
        split at hi'
        · rw [← Option.some.inj hi'] at hs'
          exact absurd rfl hs'
        · rw [← Option.some.inj hi'] at hs'
          exact absurd hs hs'
  | resolvedByCancelling adminId d resolution dispute record cancelled hcolumns hresolvable hload
      hcancelled =>
      have hid : record.id = dispute.orderId := (@status_of_loadOrder .included _ _ _ hload).1
      refine .of_resolved h hresolvable ?_ ?_ hcancelled.noNewHold ?_ ?_
      · intro i order' hi
        rw [← hid]
        exact hcancelled.disputed hi
      · intro i order hi
        change exists order', cancelled.orders.findUnique i = some order'
        rw [hcancelled.orders]
        exact exists_findUnique_update hi
      · intro i payout hi hs
        rw [← hid]
        refine hcancelled.thawed ?_ hi hs
        rw [hid]
        exact hok hcolumns dispute hresolvable.found
      · change cancelled.disputes.update d _ = _
        rw [hcancelled.disputes]
  | resolvedByRestoring adminId d resolutionType resolution dispute restored replayed hkeeps
      hresolvable hrestored hreplayed =>
      obtain ⟨horders, hpayouts, hdisputes⟩ := hreplayed.undisputed
      obtain ⟨-, s, hprevious, hs⟩ := h.row d dispute hresolvable.found hresolvable.isOpen
      refine .of_resolved h hresolvable ?_ ?_ ?_ ?_ ?_
      · intro i order' hi
        obtain ⟨middle, hmiddle, hsame⟩ := horders.find hi
        obtain ⟨order, horder, hstatus⟩ := hrestored.disputed (by simpa [hprevious] using hs) hmiddle
        exact ⟨order, horder, hsame.symm.trans hstatus⟩
      · intro i order hi
        have hmiddle : exists middle, restored.orders.findUnique i = some middle := by
          rw [hrestored.orders]
          exact exists_findUnique_update hi
        obtain ⟨middle, hmiddle⟩ := hmiddle
        obtain ⟨order', horder', -⟩ := horders.symm.find hmiddle
        exact ⟨order', horder'⟩
      · refine NoNewHold.trans ?_ hpayouts
        rw [hrestored.payouts]
        exact noNewHold_resume env dispute db.payouts
      · intro i payout hi hs
        exact hrestored.thawed h hresolvable.found hresolvable.isOpen (hpayouts i payout hi hs) hs
      · change replayed.disputes.update d _ = _
        rw [hdisputes, hrestored.disputes]

/-! ## Runs -/

theorem DisputeInv.discipline {db : Db} (h : DisputeInv db.orders db.payouts db.disputes) :
    DisputeDiscipline db := by
  refine ⟨h.disputed, ?_⟩
  intro i payout orderId hi howner hs
  obtain ⟨d, dispute, hd, hopen, howner', -⟩ := h.held i payout hi hs
  exact ⟨d, dispute, hd, Option.some.inj (howner'.symm.trans howner), hopen⟩

/-- Before the first dispute. -/
structure BeforeDisputes (db : Db) : Prop where
  disputes : db.disputes = .empty
  orders : forall i order, db.orders.findUnique i = some order -> order.status ≠ .disputed
  payouts : forall i payout, db.payouts.findUnique i = some payout ->
    payout.status ≠ .onHoldDispute

theorem BeforeDisputes.disputeInv {db : Db} (h : BeforeDisputes db) :
    DisputeInv db.orders db.payouts db.disputes := by
  have hnone : forall orderId d, ¬ IsOpenDispute db.disputes orderId d := by
    rintro orderId d ⟨dispute, hd, -⟩
    rw [h.disputes] at hd
    simp at hd
  refine ⟨?_, ?_, ?_, ?_⟩
  · intro i order hi
    constructor
    · intro hs
      exact absurd hs (h.orders i order hi)
    · rintro ⟨d, hd⟩
      exact absurd hd (hnone i d)
  · intro i d d' hd
    exact absurd hd (hnone i d)
  · intro d dispute hd
    rw [h.disputes] at hd
    simp at hd
  · intro i payout hi hs
    exact absurd hs (h.payouts i payout hi)

/--
In every run of the market that confirms no receipt and cancels no order under
dispute, and cancels no order by resolution while an earned fee is frozen, every
step keeps the dispute discipline.
-/
theorem disputes_disciplined_of_run {db : Db} (hstart : BeforeDisputes db)
    (steps : List (Env × MarketStep))
    (hmeets : RunMeets MarketStep.step MarketStep.respectsDispute db steps) :
    RunMeets MarketStep.step KeepsDiscipline db steps :=
  RunMeets.imp_of_invariant (fun db => DisputeInv db.orders db.payouts db.disputes)
    (fun _ _ h hok => (disputeStep h hok).inv)
    (fun _ _ h hok => ⟨(disputeStep h hok).inv.discipline, (disputeStep h hok).left⟩)
    hstart.disputeInv hmeets

/-! ## A delivered order -/

section DeliveredOrder

/-- An order that has been delivered and paid for, and the payout of its seller. -/
def deliveredDb : Db :=
  { orders := Table.empty.create
      { listingId := 0
        buyerId := 1
        sellerId := 2
        finalPrice := 500
        quantity := 1
        status := .delivered }
    transportJobs := Table.empty.create
      { orderId := 0
        method := .ownTruck
        status := .delivered }
    payments := Table.empty.create
      { orderId := some 0
        type := .marketplace
        amount := 500
        status := .paid }
    payouts := Table.empty.create
      { orderId := some 0
        payeeRole := .seller
        payeeId := 2
        paymentId := 0
        amount := 500
        releaseAt := 0 } }

theorem deliveredDb_beforeDisputes : BeforeDisputes deliveredDb := by
  refine ⟨rfl, ?_, ?_⟩
  · intro i order hi
    have hlt : i < 1 := Table.lt_size_of_findUnique hi
    obtain rfl : i = 0 := by omega
    obtain rfl := Option.some.inj hi
    decide
  · intro i payout hi
    have hlt : i < 1 := Table.lt_size_of_findUnique hi
    obtain rfl : i = 0 := by omega
    obtain rfl := Option.some.inj hi
    decide

def goodsDispute : DisputeRequest :=
  { orderId := 0
    againstId := 2
    disputeType := "GOODS_QUALITY" }

/-- The buyer disputes the goods, the dispute is dismissed, and receipt is confirmed. -/
def dismissedThenReceived : List (Env × MarketStep) :=
  [(env0, .raiseDispute 1 goodsDispute),
    ({ env0 with hasResolutionColumns := true }, .resolveDispute 9 0 .dismissed "no defect"),
    (env0, .confirmReceipt 1 0)]

theorem disputes_disciplined_of_dismissedThenReceived :
    RunMeets MarketStep.step KeepsDiscipline deliveredDb dismissedThenReceived := by
  refine disputes_disciplined_of_run deliveredDb_beforeDisputes dismissedThenReceived
    ⟨trivial, trivial, ?_, trivial⟩
  intro order hfind hs
  have hstatus : ((run MarketStep.step deliveredDb
      (dismissedThenReceived.take 2)).orders.findUnique 0).map (·.status) =
        some .delivered := by
    decide +kernel
  change (run MarketStep.step deliveredDb
    (dismissedThenReceived.take 2)).orders.findUnique 0 = some order at hfind
  rw [hfind, Option.map_some, hs] at hstatus
  cases hstatus

def disputedThenReceived : List (Env × MarketStep) :=
  [(env0, .raiseDispute 1 goodsDispute), (env0, .confirmReceipt 1 0)]

/-- The order is `COMPLETED` while its dispute is open and its payout frozen. -/
theorem receipt_leaves_dispute_open :
    BeforeDisputes deliveredDb ∧
      ((run MarketStep.step deliveredDb disputedThenReceived).orders.findUnique 0).map
        (·.status) = some .completed ∧
      ((run MarketStep.step deliveredDb disputedThenReceived).disputes.findUnique 0).map
        (·.status) = some .open ∧
      ((run MarketStep.step deliveredDb disputedThenReceived).payouts.findUnique 0).map
        (·.status) = some .onHoldDispute ∧
      ¬ RunMeets MarketStep.step KeepsDiscipline deliveredDb disputedThenReceived := by
  have horder : ((run MarketStep.step deliveredDb disputedThenReceived).orders.findUnique 0).map
      (·.status) = some .completed := by
    decide +kernel
  have hdispute : (run MarketStep.step deliveredDb disputedThenReceived).disputes.findUnique 0 =
      some { orderId := 0, raisedById := 1, againstId := 2, disputeType := "GOODS_QUALITY",
             previousOrderStatus := some .delivered } := by
    decide +kernel
  refine ⟨deliveredDb_beforeDisputes, horder, ?_, by decide +kernel, ?_⟩
  · rw [hdispute]
    rfl
  · rintro ⟨-, ⟨hdiscipline, -⟩, -⟩
    change DisputeDiscipline (run MarketStep.step deliveredDb disputedThenReceived)
      at hdiscipline
    obtain ⟨order, hfind, hstatus⟩ := Option.map_eq_some_iff.mp horder
    have hdisputed : order.status = .disputed :=
      (hdiscipline.disputed 0 order hfind).2 ⟨0, _, hdispute, rfl, rfl⟩
    rw [hstatus] at hdisputed
    cases hdisputed

end DeliveredOrder

end MarketBridge
