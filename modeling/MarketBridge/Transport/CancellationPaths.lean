import MarketBridge.Transport.CancellationLaw

/-!
# The paths that cancel a transport

The cancellation of a whole order is the one path that refunds a received fee.
With it each path is compared with the same law.
-/

namespace MarketBridge

open Relational

/-! ## The cancellation of the order -/

section OrderCancelled

variable {env : Env} {record : OrderRecord} {actorId : Option Id} {reason : Option String}
  {role : CancelledByRole} {jobId : Id} {job : LoadedTransportJob} {db db' : Db}

theorem IsPaidFee.mem_cancellationRefunds_iff {i : Id} {p : Payment}
    (hpaid : IsPaidFee db jobId i p) (hjob : record.transportJob = some job)
    (hid : job.id = jobId) :
    i ∈ cancellationRefunds record db ↔
      ¬ (p.orderId = some record.id ∧ p.isInstallmentParent = true) := by
  obtain ⟨hp, hfee, hstatus⟩ := hpaid
  unfold isTransportPaymentOf at hfee
  rw [Bool.and_eq_true, decide_eq_true_eq] at hfee
  rw [mem_cancellationRefunds]
  constructor
  · rintro ⟨q, hq, -, hcases⟩
    rw [hp, Option.some.injEq] at hq
    subst hq
    rcases hcases with ⟨-, hplain, -⟩ | ⟨-, hplain⟩
    · rw [hplain]
      simp
    · exact hplain
  · intro hplain
    exact ⟨p, hp, hstatus, Or.inr ⟨⟨job, hjob, by rw [hid]; exact hfee.1⟩, hplain⟩⟩

/-- What the cancellation of the order leaves of a received fee. -/
theorem RefundsRequested.underRefund_iff (h : RefundsRequested record db db')
    (hjob : record.transportJob = some job) (hid : job.id = jobId) {i : Id} {p : Payment}
    (hpaid : IsPaidFee db jobId i p) :
    UnderRefund db' i ↔
      if p.orderId = some record.id ∧ p.isInstallmentParent = true then
        ∃! j, OpenRefund db.refunds i j
      else
        ¬ HasBlockingRefund db i := by
  have hmem := hpaid.mem_cancellationRefunds_iff hjob hid
  by_cases hparent : p.orderId = some record.id ∧ p.isInstallmentParent = true
  · rw [if_pos hparent]
    obtain ⟨hpayment, hrefunds⟩ := h.other i fun hi => hmem.mp hi hparent
    rw [closeInstallmentPlans_findUnique, hpaid.1, Option.map_some,
      if_pos ⟨hparent.1, hpaid.2.2, hparent.2⟩] at hpayment
    constructor
    · intro hunder
      have hone := hunder.one
      simp only [OpenRefund, hrefunds] at hone
      exact hone
    · intro hone
      refine ⟨⟨_, hpayment, rfl⟩, ?_⟩
      simp only [OpenRefund, hrefunds]
      exact hone
  · rw [if_neg hparent]
    have hi := hmem.mpr hparent
    constructor
    · intro hunder hblocked
      obtain ⟨p', hp', hpaid'⟩ := (h.stuck i hi hblocked).paid
      obtain ⟨q, hq, hpending⟩ := hunder.pending
      rw [hp', Option.some.injEq] at hq
      rw [← hq, hpaid'] at hpending
      cases hpending
    · exact h.under i hi

theorem OrderCancelled.transporterPayouts_iff (h : OrderCancelled record db db') {i : Id} :
    (forall k payout, db'.payouts.findUnique k = some payout -> payout.paymentId = i ->
        payout.payeeRole = .transporter -> payout.status ∈ [PayoutStatus.cancelled, .paidOut]) ↔
      forall k payout, db.payouts.findUnique k = some payout -> payout.paymentId = i ->
        payout.payeeRole = .transporter ->
        payout.orderId = some record.id ∨ payout.status ∈ [PayoutStatus.cancelled, .paidOut] := by
  have hselects : forall payout : Payout, payout.payeeRole = .transporter ->
      (selectsForOrderCancel db record.id (earnedInspections db record.id) payout = true ↔
        payout.orderId = some record.id ∧
          payout.status ∉ [PayoutStatus.cancelled, .paidOut]) := by
    intro payout hrole
    unfold selectsForOrderCancel isRetained
    rw [hrole]
    cases payout.status <;> simp
  rw [h.payouts]
  constructor
  · intro hall k payout hpayout howner hrole
    by_cases hselected : selectsForOrderCancel db record.id (earnedInspections db record.id)
        payout = true
    · exact Or.inl ((hselects payout hrole).mp hselected).1
    · right
      apply hall k payout _ howner hrole
      rw [Table.findUnique_updateMany, hpayout, Option.map_some, if_neg hselected]
  · intro hall k payout hpayout howner hrole
    rw [Table.findUnique_updateMany] at hpayout
    obtain ⟨before, hbefore, hafter⟩ := Option.map_eq_some_iff.mp hpayout
    by_cases hselected : selectsForOrderCancel db record.id (earnedInspections db record.id)
        before = true
    · rw [if_pos hselected] at hafter
      rw [← hafter]
      simp
    · rw [if_neg hselected] at hafter
      subst hafter
      rcases hall k before hbefore howner hrole with horder | hdone
      · by_contra hlive
        exact hselected ((hselects before hrole).mpr ⟨horder, hlive⟩)
      · exact hdone

theorem ServicesReleased.noQuote (h : ServicesReleased record db db')
    (hjob : record.transportJob = some job) (hid : job.id = jobId)
    (hstatus : job.status ∉ [TransportStatus.delivered, .cancelled]) :
    NoQuote db' jobId [.selected, .countered, .accepted] := by
  unfold NoQuote
  rw [h.quotes]
  unfold cancelTransport
  rw [hjob]
  simp only [if_neg hstatus]
  intro i quote hquote howner hlive
  rw [Table.findUnique_updateMany] at hquote
  obtain ⟨before, -, rfl⟩ := Option.map_eq_some_iff.mp hquote
  by_cases hselected : (decide (before.transportJobId = job.id) && before.status.isLive) = true
  · rw [if_pos hselected] at hlive
    have hrejected : TransportQuoteStatus.rejected ∈
        [TransportQuoteStatus.selected, .countered, .accepted] := hlive
    revert hrejected
    decide
  · rw [if_neg hselected] at howner hlive
    apply hselected
    rw [howner, hid, decide_eq_true rfl, Bool.true_and]
    revert hlive
    cases before.status <;> decide

/-- What a committed cancellation of the order leaves behind. -/
theorem cancelOrder_keepsNoMoney_iff (hindexed : PaymentsIndexed db.payments)
    (hjob : record.transportJob = some job) (hid : job.id = jobId)
    (hstatus : job.status ∉ [TransportStatus.delivered, .cancelled])
    (h : cancelOrderInTransaction env record actorId reason role db = .ok db') :
    KeepsNoMoney jobId record.id db db' ↔
      (forall i p, IsPaidFee db jobId i p ->
        if p.orderId = some record.id ∧ p.isInstallmentParent = true then
          ∃! j, OpenRefund db.refunds i j
        else
          ¬ HasBlockingRefund db i) ∧
      forall i p, IsPaidFee db jobId i p -> forall k payout,
        db.payouts.findUnique k = some payout -> payout.paymentId = i ->
        payout.payeeRole = .transporter ->
        payout.orderId = some record.id ∨ payout.status ∈ [PayoutStatus.cancelled, .paidOut] := by
  have hrequested := (cancelOrderInTransaction_requested hindexed h).1
  have hcancelled := cancelOrderInTransaction_cancelled h
  have hreleased := cancelOrderInTransaction_released h
  constructor
  · intro hkeeps
    refine ⟨?_, ?_⟩
    · intro i p hpaid
      exact (hrequested.underRefund_iff hjob hid hpaid).mp (hkeeps.refunded i p hpaid)
    · intro i p hpaid
      exact hcancelled.transporterPayouts_iff.mp (hkeeps.payouts i p hpaid)
  · rintro ⟨hfees, hpayouts⟩
    refine ⟨?_, ?_, ?_, hreleased.noQuote hjob hid hstatus⟩
    · intro i p hpaid
      exact (hrequested.underRefund_iff hjob hid hpaid).mpr (hfees i p hpaid)
    · intro i p hpaid
      exact hcancelled.transporterPayouts_iff.mpr (hpayouts i p hpaid)
    · rintro ⟨i, b, hb, horder, -, hopen⟩
      rw [hreleased.obligations] at hb
      have hclosed := @obligations_unwound db.obligations record.id
      exact hclosed i b hb horder hopen

end OrderCancelled

/-! ## All paths -/

theorem IsLoaded.showsJob {load : OrderLoad} {db : Db} {orderId jobId : Id} {order : Order}
    {record : OrderRecord} {job : TransportJob} (h : IsLoaded load db orderId order record)
    (hjob : transportJobOf db orderId = some (jobId, job)) :
    record.transportJob = some ⟨jobId, job.status, load.truck job⟩ := by
  rw [h.transportJob, hjob]
  rfl

section Paths

variable {env : Env} {path : TransportCancelPath} {jobId : Id} {job : TransportJob}
  {order : Order} {db : Db}

/-- The cancellation of an order unwinds the transport if its money can be unwound. -/
theorem orderCancellation_cleanly_iff {load : OrderLoad} {actorId : Option Id}
    {reason : Option String} {role : CancelledByRole} (hpayments : PaymentsIndexed db.payments)
    (hjob : transportJobOf db job.orderId = some (jobId, job))
    (hguard : (TransportCancelPath.orderCancellation load actorId reason role).Guard env jobId job
      order db)
    (horder : db.orders.findUnique job.orderId = some order) :
    CancelsCleanly env (.orderCancellation load actorId reason role) jobId job db ↔
      (TransportCancelPath.orderCancellation load actorId reason role).Suffices jobId job order
        db := by
  obtain ⟨hstatus, hcan, record, hload, hassert⟩ := hguard
  obtain ⟨order', hloaded⟩ := loadOrder_eq_some hload
  have hsame : order' = order := by
    have hfound := hloaded.found
    rw [horder, Option.some.injEq] at hfound
    exact hfound.symm
  subst hsame
  have hrecordJob := hloaded.showsJob hjob
  have hfound : exists o, db.orders.findUnique record.id = some o ∧ o.status = record.status :=
    ⟨order', by rw [hloaded.id]; exact horder, hloaded.status.symm⟩
  have hcommits := @cancelOrderInTransaction_commits_iff env record actorId reason role db
    hpayments hassert (by rw [hloaded.status]; exact hcan) hfound
  have hexec : (TransportCancelPath.orderCancellation load actorId reason role).exec env jobId job
      db = cancelOrderInTransaction env record actorId reason role db := by
    unfold TransportCancelPath.exec cancelLoadedOrder
    simp only [hload]
  have hsuffices : (TransportCancelPath.orderCancellation load actorId reason role).Suffices jobId
      job order' db ↔ IsUnwindable record jobId db := by
    unfold TransportCancelPath.Suffices
    constructor
    · intro hall
      exact hall record hload
    · intro hunwindable record' hload'
      rw [hload, Option.some.injEq] at hload'
      rw [← hload']
      exact hunwindable
  unfold CancelsCleanly
  rw [hsuffices, hexec, ← hloaded.id]
  constructor
  · rintro ⟨db', hok, hkeeps⟩
    obtain ⟨hquantity, hamounts⟩ := hcommits.mp ⟨db', hok⟩
    obtain ⟨hfees, hpayouts⟩ :=
      (cancelOrder_keepsNoMoney_iff hpayments hrecordJob rfl hstatus hok).mp hkeeps
    exact ⟨hquantity, hamounts, hfees, hpayouts⟩
  · intro hunwindable
    obtain ⟨db', hok⟩ := hcommits.mpr ⟨hunwindable.quantity, hunwindable.amounts⟩
    exact ⟨db', hok, (cancelOrder_keepsNoMoney_iff hpayments hrecordJob rfl hstatus hok).mpr
      ⟨hunwindable.fees, hunwindable.payouts⟩⟩

/--
Once the guards of a path have passed, it cancels the job and leaves none of its
money behind exactly under the condition of that path.
-/
theorem transportCancel_cleanly_iff (hpayments : PaymentsIndexed db.payments)
    (hobligations : ObligationsIndexed db)
    (hjob : transportJobOf db job.orderId = some (jobId, job))
    (horder : db.orders.findUnique job.orderId = some order)
    (hguard : path.Guard env jobId job order db) :
    CancelsCleanly env path jobId job db ↔ path.Suffices jobId job order db := by
  cases path with
  | route isAdmin userId =>
      obtain ⟨hmay, hactive⟩ := hguard
      have hfound : db.transportJobs.findUnique jobId = some job :=
        (Table.findFirst_eq_some hjob).1
      have hopen : assertNotClosed order
          "transport cannot proceed until the order dispute is resolved" = .ok () := by
        unfold assertNotClosed
        rw [if_neg hactive]
      have hexec : (TransportCancelPath.route isAdmin userId).exec env jobId job db =
          cancelTransportJob env jobId job db := by
        unfold TransportCancelPath.exec cancelTransportByRoute
        simp only [hfound, horder, hmay, hopen, ok_bind]
      unfold CancelsCleanly
      rw [hexec]
      exact route_cleanly_iff hobligations hjob horder
  | disputeService adminId disputeId resolution =>
      obtain ⟨e, herror⟩ := resolveDispute_asDeclared env adminId disputeId .cancelService
        resolution db
      unfold CancelsCleanly TransportCancelPath.exec TransportCancelPath.Suffices
      simp [herror]
  | preparationExpiry =>
      have hlaw := @preparationExpiry_cleanly_iff env jobId job db hguard
      unfold CancelsCleanly TransportCancelPath.exec TransportCancelPath.Suffices
      simp only [Except.ok.injEq, exists_eq_left']
      exact hlaw
  | loadingExpiry =>
      have hlaw := loadingExpiry_cleanly_iff hguard
      unfold CancelsCleanly TransportCancelPath.exec TransportCancelPath.Suffices
      simp only [Except.ok.injEq, exists_eq_left']
      exact hlaw
  | workflowExpiry =>
      have hlaw := @workflowExpiry_cleanly_iff env jobId job db hguard
      unfold CancelsCleanly TransportCancelPath.exec TransportCancelPath.Suffices
      simp only [Except.ok.injEq, exists_eq_left']
      exact hlaw
  | orderCancellation load actorId reason role =>
      exact orderCancellation_cleanly_iff hpayments hjob hguard horder

end Paths

section PaidFee

def hiredJob : TransportJob :=
  { orderId := 0
    method := .hireTransporter
    truckOwnerId := some 3
    truckId := some 0
    agreedAmount := some 100
    status := .accepted }

def hiredOrder : Order :=
  { listingId := 0
    buyerId := 1
    sellerId := 2
    finalPrice := 500
    quantity := 1
    status := .transportArranged }

/-- The received fee of the job. -/
def hiredFee : Payment :=
  { orderId := some 0
    createdById := some 1
    transportJobId := some 0
    transportQuoteId := some 0
    obligationId := some 0
    type := .transport
    amount := 100
    status := .paid }

theorem transportKey_keyed :
    (ObligationKey.ofType 0 .transport).orderId = 0 ∧
      (ObligationKey.ofType 0 .transport).type = .transport :=
  ⟨rfl, rfl⟩

/-- The fee of a hired transporter has been received, and the job is not under way. -/
def paidFeeDb : Db :=
  { orders := Table.empty.create hiredOrder
    listings := Table.empty.create
      { sellerId := 2
        quantity := 1
        availableQuantity := 0
        askingPrice := 500 }
    transportJobs := Table.empty.create hiredJob
    transportQuotes := Table.empty.create
      { transportJobId := 0
        truckOwnerId := 3
        truckId := 0
        amount := 100
        status := .accepted }
    trucks := Table.empty.create
      { ownerId := 3
        availability := .busy }
    payments := Table.empty.create hiredFee
    payouts := Table.empty.create
      { orderId := some 0
        payeeRole := .transporter
        payeeId := 3
        paymentId := 0
        amount := 100
        releaseAt := 0 }
    obligations := Table.empty.create
      { orderId := 0
        type := .transport
        status := .paid
        transportJobId := some 0
        payerId := 1
        beneficiaryId := some 3
        amount := 100
        keyed := transportKey_keyed } }

theorem paidFeeDb_payments : PaymentsIndexed paidFeeDb.payments := by
  apply Table.Unique.create (Table.unique_empty _)
  · intro p q
    rw [p.sameProviderTransaction_comm, p.sameActiveTransportJob_comm]
  · intro i q hq
    rw [Table.findUnique_empty] at hq
    cases hq

theorem paidFeeDb_obligations : ObligationsIndexed paidFeeDb := by
  apply Table.Unique.create (Table.unique_empty _)
  · intro a b
    unfold sameObligationKey
    rw [decide_eq_decide]
    exact eq_comm
  · intro i q hq
    rw [Table.findUnique_empty] at hq
    cases hq

theorem paidFeeDb_payment {i : Id} {p : Payment}
    (hp : paidFeeDb.payments.findUnique i = some p) :
    i = 0 ∧ p = hiredFee := by
  have hi : i < 1 := Table.lt_size_of_findUnique hp
  obtain rfl := Nat.lt_one_iff.mp hi
  exact ⟨rfl, (Option.some.inj hp).symm⟩

/-- The buyer's cancellation of the order refunds the fee. -/
theorem paidFee_refunded_with_order :
    CancelsCleanly env0 (.orderCancellation .included (some 1) none .buyer) 0 hiredJob
      paidFeeDb := by
  have hguard : (TransportCancelPath.orderCancellation .included (some 1) none .buyer).Guard env0 0
      hiredJob hiredOrder paidFeeDb :=
    ⟨by decide, by decide, _, rfl, by decide⟩
  apply (transportCancel_cleanly_iff paidFeeDb_payments paidFeeDb_obligations rfl rfl hguard).mpr
  intro record hload
  rw [← Option.some.inj hload]
  refine ⟨fun _ => by decide, ?_, ?_, ?_⟩
  · intro i p hp _
    rw [(paidFeeDb_payment hp).2]
    decide
  · rintro i p ⟨hp, -, -⟩
    rw [(paidFeeDb_payment hp).2, if_neg (by decide)]
    rintro ⟨j, r, hr, -⟩
    rw [show paidFeeDb.refunds = Table.empty from rfl, Table.findUnique_empty] at hr
    cases hr
  · intro i p _ k payout hpayout _ _
    have hk : k < 1 := Table.lt_size_of_findUnique hpayout
    rw [Nat.lt_one_iff.mp hk] at hpayout
    rw [← Option.some.inj hpayout]
    exact Or.inl rfl

/-- The route refuses to cancel the same job, because it cannot request the refund. -/
theorem paidFee_blocks_route :
    ¬ forall (env : Env) (path : TransportCancelPath) (jobId : Id) (job : TransportJob)
        (order : Order) (db : Db), PaymentsIndexed db.payments -> ObligationsIndexed db ->
        transportJobOf db job.orderId = some (jobId, job) ->
        db.orders.findUnique job.orderId = some order -> path.Guard env jobId job order db ->
        CancelsCleanly env path jobId job db := by
  intro hall
  have hguard : (TransportCancelPath.route false 3).Guard env0 0 hiredJob hiredOrder paidFeeDb :=
    ⟨by decide +kernel, by decide⟩
  obtain ⟨db', hok, -⟩ := hall env0 (.route false 3) 0 hiredJob hiredOrder paidFeeDb
    paidFeeDb_payments paidFeeDb_obligations rfl rfl hguard
  have hrefused : (TransportCancelPath.exec env0 0 hiredJob (.route false 3)
      paidFeeDb).isOk = false := by
    decide +kernel
  rw [hok] at hrefused
  cases hrefused

end PaidFee

end MarketBridge
