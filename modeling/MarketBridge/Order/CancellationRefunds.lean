import MarketBridge.Order.Unwinding
import MarketBridge.Refund.Requests

/-!
# When a cancellation commits

The steps of a cancellation that can fail are the return of the goods and the
refund requests.  Everything before the requests is fixed by the order and the
database, so a cancellation commits exactly if these two do.
-/

namespace MarketBridge

open Relational

def closedOrder (env : Env) (orderId : Id) (db : Db) : Db :=
  closeOrder env orderId
    { db with orders := db.orders.update orderId ({ · with status := .cancelled }) }

/-- The services of the order cancelled, its payouts cancelled and its plans closed. -/
def servicesClosed (env : Env) (order : OrderRecord) (db : Db) : Db :=
  let db := cancelTransport order db
  let earned := earnedInspections db order.id
  closeInstallmentPlans order.id
    (cancelPayoutsForOrder env order.id earned (cancelInspections order.id earned db))

def cancellationRefunds (order : OrderRecord) (db : Db) : List Id :=
  paymentsToRefund order.id (earnedInspections db order.id) db ++
    transportPaymentsToRefund order (closeInstallmentPlans order.id db)

variable {order : OrderRecord} {db : Db}

theorem cancellationRefunds_congr {db' : Db} (hpayments : db'.payments = db.payments)
    (hrequests : db'.inspectionRequests = db.inspectionRequests) :
    cancellationRefunds order db' = cancellationRefunds order db := by
  unfold cancellationRefunds paymentsToRefund transportPaymentsToRefund earnedInspections
    closeInstallmentPlans
  rw [hpayments, hrequests]

theorem servicesClosed_payments (env : Env) (order : OrderRecord) (db : Db) :
    (servicesClosed env order db).payments = (closeInstallmentPlans order.id db).payments := by
  unfold servicesClosed
  simp only [cancelPayoutsForOrder_eq, closeInstallmentPlans]
  rw [(cancelInspections_frame order.id _ _).payments, (cancelTransport_frame order db).1.payments]

theorem servicesClosed_refunds (env : Env) (order : OrderRecord) (db : Db) :
    (servicesClosed env order db).refunds = db.refunds := by
  unfold servicesClosed
  simp only [cancelPayoutsForOrder_eq, closeInstallmentPlans]
  rw [(cancelInspections_frame order.id _ _).refunds, (cancelTransport_frame order db).1.refunds]

/-- A cancellation is its checks, the return of the goods and the refund requests. -/
theorem cancelOrderInTransaction_eq_ok_iff {env : Env} {actorId : Option Id}
    {reason : Option String} {role : CancelledByRole} {db' : Db} :
    cancelOrderInTransaction env order actorId reason role db = .ok db' ↔
      assertCancellable order role = .ok () ∧
      canTransitionOrder order.status .cancelled = true ∧
      (exists o, db.orders.findUnique order.id = some o ∧ o.status = order.status) ∧
      exists restored refunded, restoreGoods order (closedOrder env order.id db) = .ok restored ∧
        requestRefunds env reason actorId (cancellationRefunds order restored)
          (servicesClosed env order restored) = .ok refunded ∧
        db' = releaseWinner env order refunded := by
  have hlist : forall restored,
      paymentsToRefund order.id (earnedInspections (cancelTransport order restored) order.id)
          (cancelPayoutsForOrder env order.id
            (earnedInspections (cancelTransport order restored) order.id)
            (cancelInspections order.id
              (earnedInspections (cancelTransport order restored) order.id)
              (cancelTransport order restored))) ++
        transportPaymentsToRefund order (servicesClosed env order restored) =
      cancellationRefunds order restored := by
    intro restored
    obtain ⟨hframe, hrequests⟩ := cancelTransport_frame order restored
    unfold cancellationRefunds
    rw [earnedInspections_congr hrequests order.id, cancelPayoutsForOrder_eq]
    unfold paymentsToRefund transportPaymentsToRefund
    rw [servicesClosed_payments]
    simp only [(cancelInspections_frame order.id _ _).payments, hframe.payments]
  unfold cancelOrderInTransaction
  simp only [bind_eq_ok, transitionOrderStatus_eq_ok_iff]
  constructor
  · rintro ⟨_, hassert, db₁, ⟨hcan, hfound, rfl⟩, restored, hrestore, refunded, hrefunds, hrest⟩
    refine ⟨hassert, hcan, hfound, restored, refunded, hrestore, ?_, (Except.ok.inj hrest).symm⟩
    rw [← hlist]
    exact hrefunds
  · rintro ⟨hassert, hcan, hfound, restored, refunded, hrestore, hrefunds, rfl⟩
    refine ⟨(), hassert, _, ⟨hcan, hfound, rfl⟩, restored, hrestore, refunded, ?_, rfl⟩
    rw [← hlist] at hrefunds
    exact hrefunds

/-! ## The return of the goods -/

theorem restoreGoods_commits_iff :
    (exists db', restoreGoods order db = .ok db') ↔
      (order.inferredCommitted = true -> 0 < order.quantity) := by
  constructor
  · rintro ⟨db', hok⟩ hinferred
    unfold restoreGoods at hok
    rw [bind_eq_ok] at hok
    obtain ⟨released, hrelease, -⟩ := hok
    cases released with
    | some restored =>
        exact (releaseListingQuantity_eq_ok_some hrelease).2.1
    | none =>
        rcases releaseListingQuantity_eq_ok_none hrelease with hnot | ⟨hpos, -⟩
        · rw [hinferred] at hnot
          cases hnot
        · exact hpos
  · intro hpos
    have hrelease : exists released, releaseListingQuantity order db = .ok released := by
      unfold releaseListingQuantity
      by_cases hinferred : order.inferredCommitted = true
      · have hnormal : normalizeQuantity order.quantity "order quantity" = .ok order.quantity :=
          normalizeQuantity_eq_ok_iff.mpr ⟨hpos hinferred, rfl⟩
        rw [if_pos hinferred, hnormal, ok_bind]
        split
        · exact ⟨_, rfl⟩
        · split
          · exact ⟨_, rfl⟩
          · exact ⟨_, rfl⟩
      · rw [if_neg hinferred]
        exact ⟨_, rfl⟩
    obtain ⟨released, hreleased⟩ := hrelease
    unfold restoreGoods
    rw [hreleased, ok_bind]
    cases released with
    | some restored =>
        exact ⟨_, rfl⟩
    | none =>
        simp only
        split
        · exact ⟨_, rfl⟩
        · exact ⟨_, rfl⟩

theorem restoreGoods_closedOrder_frame {env : Env} {restored : Db}
    (h : restoreGoods order (closedOrder env order.id db) = .ok restored) :
    GoodsRestored order db restored :=
  goodsRestored h

/-! ## The refund requests -/

/-- A payment outside the plans of the order is not touched when they are closed. -/
theorem closeInstallmentPlans_findUnique (orderId : Id) (db : Db) (i : Id) :
    (closeInstallmentPlans orderId db).payments.findUnique i =
      (db.payments.findUnique i).map fun p =>
        if p.orderId = some orderId ∧ p.status = .paid ∧ p.isInstallmentParent = true then
          p.withStatus .refundPending
        else if p.orderId = some orderId ∧ p.status = .pending ∧
            (p.isInstallmentParent = true ∨ p.type = .marketplaceInstallment) then
          p.withStatus .failed
        else
          p := by
  unfold closeInstallmentPlans
  simp only
  rw [Table.findUnique_updateMany, Table.findUnique_updateMany, Option.map_map]
  congr 1
  funext p
  by_cases horder : p.orderId = some orderId
  · cases hs : p.status <;>
      by_cases hparent : p.isInstallmentParent = true <;>
      simp [horder, hs, hparent, Payment.withStatus]
  · simp [horder]

theorem closeInstallmentPlans_indexed {orderId : Id} (h : PaymentsIndexed db.payments) :
    PaymentsIndexed (closeInstallmentPlans orderId db).payments := by
  have hinactive : forall (t : Table Payment) (q : Id -> Payment -> Bool) (s : PaymentStatus),
      s ∈ [PaymentStatus.failed, .refunded, .refundPending] -> PaymentsIndexed t ->
      PaymentsIndexed (t.updateMany q (·.withStatus s)) := by
    intro t q s hs ht
    have hleft : forall p r : Payment,
        ((p.withStatus s).sameProviderTransaction r ||
          (p.withStatus s).sameActiveTransportJob r) = true ->
        (p.sameProviderTransaction r || p.sameActiveTransportJob r) = true := by
      intro p r hsame
      rw [Bool.or_eq_true] at hsame ⊢
      rcases hsame with hprovider | hjob
      · exact Or.inl hprovider
      · obtain ⟨jobId, hholds, -⟩ := (Payment.sameActiveTransportJob_eq_true_iff _ _).mp hjob
        simp only [Payment.holdsTransportJob, Payment.withStatus, Bool.and_eq_true] at hholds
        cases s <;> simp_all
    apply Table.Unique.updateMany ht hleft
    intro p r hsame
    rw [Payment.sameProviderTransaction_comm, Payment.sameActiveTransportJob_comm] at hsame ⊢
    exact hleft r p hsame
  unfold closeInstallmentPlans
  exact hinactive _ _ _ (by simp) (hinactive _ _ _ (by simp) h)

def IsRefundedBy (order : OrderRecord) (db : Db) (p : Payment) : Prop :=
  p.status = .paid ∧
    ((p.orderId = some order.id ∧ p.isInstallmentParent = false ∧
        p.isEarnedInspectionFee (earnedInspections db order.id) = false) ∨
      ((exists job, order.transportJob = some job ∧ p.transportJobId = some job.id) ∧
        ¬ (p.orderId = some order.id ∧ p.isInstallmentParent = true)))

theorem IsRefundedBy.unclosed {i : Id} {p : Payment} (h : IsRefundedBy order db p)
    (hp : db.payments.findUnique i = some p) :
    (closeInstallmentPlans order.id db).payments.findUnique i = some p := by
  rw [closeInstallmentPlans_findUnique, hp, Option.map_some]
  obtain ⟨hpaid, hcases⟩ := h
  have hplain : ¬ (p.orderId = some order.id ∧ p.isInstallmentParent = true) := by
    rcases hcases with ⟨-, hplain, -⟩ | ⟨-, hplain⟩
    · rw [hplain]
      simp
    · exact hplain
  rw [if_neg (by
      rintro ⟨horder, -, hparent⟩
      exact hplain ⟨horder, hparent⟩),
    if_neg (by simp [hpaid])]

theorem mem_cancellationRefunds {i : Id} :
    i ∈ cancellationRefunds order db ↔
      exists p, db.payments.findUnique i = some p ∧ IsRefundedBy order db p := by
  unfold cancellationRefunds
  rw [List.mem_append]
  constructor
  · rintro (hown | hjob)
    · obtain ⟨p, hp, hselected⟩ := Table.mem_keys_findMany.mp hown
      simp only [Bool.and_eq_true, decide_eq_true_eq, Bool.not_eq_true'] at hselected
      obtain ⟨⟨⟨horder, hpaid⟩, hparent⟩, hearned⟩ := hselected
      exact ⟨p, hp, hpaid, Or.inl ⟨horder, hparent, hearned⟩⟩
    · unfold transportPaymentsToRefund at hjob
      cases hrecord : order.transportJob with
      | none =>
          rw [hrecord] at hjob
          cases hjob
      | some job =>
          rw [hrecord] at hjob
          obtain ⟨q, hq, hselected⟩ := Table.mem_keys_findMany.mp hjob
          simp only [Bool.and_eq_true, decide_eq_true_eq] at hselected
          rw [closeInstallmentPlans_findUnique] at hq
          obtain ⟨p, hp, hclosed⟩ := Option.map_eq_some_iff.mp hq
          obtain ⟨hof, hpaid⟩ := hselected
          split at hclosed
          · rw [← hclosed] at hpaid
            cases hpaid
          · next hnot =>
              split at hclosed
              · rw [← hclosed] at hpaid
                cases hpaid
              · subst hclosed
                refine ⟨p, hp, hpaid, Or.inr ⟨⟨job, hrecord, hof⟩, ?_⟩⟩
                rintro ⟨horder, hparent⟩
                exact hnot ⟨horder, hpaid, hparent⟩
  · rintro ⟨p, hp, hrefunded⟩
    have hunclosed := hrefunded.unclosed hp
    obtain ⟨hpaid, ⟨horder, hparent, hearned⟩ | ⟨⟨job, hrecord, hof⟩, -⟩⟩ := hrefunded
    · left
      apply Table.mem_keys_findMany.mpr
      refine ⟨p, hp, ?_⟩
      simp [horder, hpaid, hparent, hearned]
    · right
      unfold transportPaymentsToRefund
      rw [hrecord]
      apply Table.mem_keys_findMany.mpr
      refine ⟨p, hunclosed, ?_⟩
      simp [hpaid, hof]

/-- What the refund requests of a cancellation have done. -/
structure RefundsRequested (order : OrderRecord) (db db' : Db) : Prop where
  under : forall i, i ∈ cancellationRefunds order db -> ¬ HasBlockingRefund db i ->
    UnderRefund db' i
  stuck : forall i, i ∈ cancellationRefunds order db -> HasBlockingRefund db i -> IsStuck db' i
  other : forall i, i ∉ cancellationRefunds order db ->
    db'.payments.findUnique i = (closeInstallmentPlans order.id db).payments.findUnique i ∧
      forall φ j, HasRefund db'.refunds i φ j ↔ HasRefund db.refunds i φ j

section Commits

variable {env : Env} {order : OrderRecord} {actorId : Option Id} {reason : Option String}
  {role : CancelledByRole} {db : Db}

/-- The requests of a cancellation succeed as long as every amount is positive. -/
theorem cancellation_requests (hindexed : PaymentsIndexed db.payments) {restored : Db}
    (hrestored : GoodsRestored order db restored)
    (hamounts : forall i p, db.payments.findUnique i = some p -> IsRefundedBy order db p ->
      0 < p.amount) :
    exists refunded, requestRefunds env reason actorId (cancellationRefunds order restored)
        (servicesClosed env order restored) = .ok refunded ∧
      RefundsRequested order db refunded := by
  have hlist : cancellationRefunds order restored = cancellationRefunds order db :=
    cancellationRefunds_congr hrestored.payments hrestored.inspectionRequests
  have hpayments : (servicesClosed env order restored).payments =
      (closeInstallmentPlans order.id db).payments := by
    rw [servicesClosed_payments]
    unfold closeInstallmentPlans
    rw [hrestored.payments]
  have hrefunds : (servicesClosed env order restored).refunds = db.refunds := by
    rw [servicesClosed_refunds, hrestored.refunds]
  have hblocking : forall i, HasBlockingRefund (servicesClosed env order restored) i ↔
      HasBlockingRefund db i := by
    intro i
    unfold HasBlockingRefund
    rw [hrefunds]
  have hfound : forall i, i ∈ cancellationRefunds order db ->
      exists p, (servicesClosed env order restored).payments.findUnique i = some p ∧
        p.status = .paid ∧ 0 < p.amount := by
    intro i hi
    obtain ⟨p, hp, hrefunded⟩ := mem_cancellationRefunds.mp hi
    exact ⟨p, by rw [hpayments]; exact hrefunded.unclosed hp, hrefunded.1, hamounts i p hp hrefunded⟩
  have hdue : forall i, i ∈ cancellationRefunds order db ->
      IsDue (servicesClosed env order restored) i := by
    intro i hi
    obtain ⟨p, hp, hpaid, hpos⟩ := hfound i hi
    exact ⟨p, hp, hpos, Or.inl hpaid⟩
  have hclosed : PaymentsIndexed (servicesClosed env order restored).payments := by
    rw [hpayments]
    exact closeInstallmentPlans_indexed hindexed
  rw [hlist]
  obtain ⟨refunded, hok, hall⟩ := @requestRefunds_of_due env reason actorId
    (cancellationRefunds order db) (servicesClosed env order restored) hclosed hdue
  refine ⟨refunded, hok, ?_, ?_, ?_⟩
  · intro i hi hfree
    obtain ⟨p, hp, hpaid, -⟩ := hfound i hi
    exact hall.under i hi ⟨⟨p, hp, hpaid⟩, by rw [hblocking]; exact hfree⟩
  · intro i hi hblocked
    obtain ⟨p, hp, hpaid, -⟩ := hfound i hi
    exact hall.stuck i ⟨⟨p, hp, hpaid⟩, (hblocking i).mpr hblocked⟩
  · intro i hi
    obtain ⟨hpayment, hrefund⟩ := hall.other i hi
    rw [hpayments] at hpayment
    rw [hrefunds] at hrefund
    exact ⟨hpayment, hrefund⟩

theorem RefundsRequested.releaseWinner {refunded : Db}
    (h : RefundsRequested order db refunded) (env : Env) :
    RefundsRequested order db (releaseWinner env order refunded) := by
  obtain ⟨offers, listings, -, hwinner⟩ := releaseWinner_frame env order refunded
  rw [hwinner]
  refine ⟨?_, ?_, h.other⟩
  · intro i hi hfree
    obtain ⟨hpending, hone⟩ := h.under i hi hfree
    exact ⟨hpending, hone⟩
  · intro i hi hblocked
    obtain ⟨hpaid, hstuck⟩ := h.stuck i hi hblocked
    exact ⟨hpaid, hstuck⟩

theorem cancelOrderInTransaction_requested (hindexed : PaymentsIndexed db.payments) {db' : Db}
    (h : cancelOrderInTransaction env order actorId reason role db = .ok db') :
    RefundsRequested order db db' ∧ forall i p, db.payments.findUnique i = some p ->
      IsRefundedBy order db p -> 0 < p.amount := by
  obtain ⟨-, -, -, restored, refunded, hrestore, hrefunds, rfl⟩ :=
    cancelOrderInTransaction_eq_ok_iff.mp h
  have hrestored := restoreGoods_closedOrder_frame hrestore
  have hamounts : forall i p, db.payments.findUnique i = some p -> IsRefundedBy order db p ->
      0 < p.amount := by
    intro i p hp hrefunded
    have hi : i ∈ cancellationRefunds order restored := by
      rw [cancellationRefunds_congr hrestored.payments hrestored.inspectionRequests]
      exact mem_cancellationRefunds.mpr ⟨p, hp, hrefunded⟩
    apply requestRefunds_amounts hrefunds i p hi
    rw [servicesClosed_payments]
    have hunclosed := hrefunded.unclosed hp
    unfold closeInstallmentPlans at hunclosed ⊢
    rw [hrestored.payments]
    exact hunclosed
  obtain ⟨refunded', hok, hrequested⟩ := @cancellation_requests env order actorId reason db
    hindexed restored hrestored hamounts
  rw [hrefunds, Except.ok.injEq] at hok
  subst hok
  exact ⟨hrequested.releaseWinner env, hamounts⟩

/-- A cancellation that passes its checks commits if its quantity and amounts are positive. -/
theorem cancelOrderInTransaction_commits_iff (hindexed : PaymentsIndexed db.payments)
    (hassert : assertCancellable order role = .ok ())
    (hcan : canTransitionOrder order.status .cancelled = true)
    (hfound : exists o, db.orders.findUnique order.id = some o ∧ o.status = order.status) :
    (exists db', cancelOrderInTransaction env order actorId reason role db = .ok db') ↔
      (order.inferredCommitted = true -> 0 < order.quantity) ∧
        forall i p, db.payments.findUnique i = some p -> IsRefundedBy order db p ->
          0 < p.amount := by
  constructor
  · rintro ⟨db', hok⟩
    obtain ⟨-, -, -, restored, -, hrestore, -⟩ := cancelOrderInTransaction_eq_ok_iff.mp hok
    exact ⟨restoreGoods_commits_iff.mp ⟨restored, hrestore⟩,
      (cancelOrderInTransaction_requested hindexed hok).2⟩
  · rintro ⟨hquantity, hamounts⟩
    obtain ⟨restored, hrestore⟩ :=
      (@restoreGoods_commits_iff order (closedOrder env order.id db)).mpr hquantity
    obtain ⟨refunded, hrefunds, -⟩ := @cancellation_requests env order actorId reason db hindexed
      restored (restoreGoods_closedOrder_frame hrestore) hamounts
    exact ⟨_, cancelOrderInTransaction_eq_ok_iff.mpr
      ⟨hassert, hcan, hfound, restored, refunded, hrestore, hrefunds, rfl⟩⟩

end Commits

end MarketBridge
