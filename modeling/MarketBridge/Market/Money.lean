import MarketBridge.Market.Effects
import MarketBridge.Order.CancellationRefunds
import MarketBridge.Payout.Concurrency
import MarketBridge.Refund.Moves

/-!
# What a step does to money

`MoneyEffect` says everything that a step can do to payments, ledger entries and
payouts.  Apart from a settlement, a step leaves the ledger alone, moves payments
along the edges of `MovesPayment` and does not reopen a payout.
-/

namespace MarketBridge

open Relational

/-! ## Payouts -/

def PayoutMove (payout payout' : Payout) : Prop :=
  payout'.paymentId = payout.paymentId ∧ (payout.status.isFinal = true -> payout' = payout)

theorem PayoutMove.refl (payout : Payout) : PayoutMove payout payout :=
  ⟨rfl, fun _ => rfl⟩

theorem PayoutMove.trans {payout payout' payout'' : Payout} (h : PayoutMove payout payout')
    (h' : PayoutMove payout' payout'') :
    PayoutMove payout payout'' := by
  refine ⟨h'.1.trans h.1, ?_⟩
  intro hfinal
  have hsame := h.2 hfinal
  subst hsame
  exact h'.2 hfinal

/-- Payments and ledger are as before, and a new payout is for a payment that is `PAID`. -/
structure MoneyKept (db db' : Db) : Prop where
  payments : db'.payments = db.payments
  ledgerEntries : db'.ledgerEntries = db.ledgerEntries
  payouts : forall k payout', db'.payouts.findUnique k = some payout' ->
    (exists payout, db.payouts.findUnique k = some payout ∧ PayoutMove payout payout') ∨
      exists p, db.payments.findUnique payout'.paymentId = some p ∧ p.status = .paid

section MoneyKept

variable {db db' db'' : Db}

theorem MoneyKept.of_eq (hpayments : db'.payments = db.payments)
    (hledger : db'.ledgerEntries = db.ledgerEntries) (hpayouts : db'.payouts = db.payouts) :
    MoneyKept db db' := by
  refine ⟨hpayments, hledger, ?_⟩
  intro k payout' hk
  rw [hpayouts] at hk
  exact Or.inl ⟨payout', hk, .refl payout'⟩

theorem MoneyKept.trans (h : MoneyKept db db') (h' : MoneyKept db' db'') :
    MoneyKept db db'' := by
  refine ⟨h'.payments.trans h.payments, h'.ledgerEntries.trans h.ledgerEntries, ?_⟩
  intro k payout'' hk
  rcases h'.payouts k payout'' hk with ⟨payout', hk', hmove'⟩ | hpaid
  · rcases h.payouts k payout' hk' with ⟨payout, hbefore, hmove⟩ | hpaid
    · exact Or.inl ⟨payout, hbefore, hmove.trans hmove'⟩
    · right
      rw [hmove'.1]
      exact hpaid
  · right
    rw [h.payments] at hpaid
    exact hpaid

theorem moneyKept_updateMany {p : Id -> Payout -> Bool} {f : Payout -> Payout}
    (hpayouts : db'.payouts = db.payouts.updateMany p f)
    (hpayments : db'.payments = db.payments) (hledger : db'.ledgerEntries = db.ledgerEntries)
    (howner : forall payout, (f payout).paymentId = payout.paymentId)
    (hopen : forall i payout, p i payout = true -> payout.status.isFinal = false) :
    MoneyKept db db' := by
  refine ⟨hpayments, hledger, ?_⟩
  intro k payout' hk
  left
  rw [hpayouts, Table.findUnique_updateMany] at hk
  obtain ⟨payout, hpayout, rfl⟩ := Option.map_eq_some_iff.mp hk
  refine ⟨payout, hpayout, ?_⟩
  split
  · next hselected =>
      refine ⟨howner payout, ?_⟩
      intro hfinal
      rw [hopen k payout hselected] at hfinal
      cases hfinal
  · exact .refl payout

theorem moneyKept_gainedHold {paymentId : Id} {p : Payment}
    (hp : db.payments.findUnique paymentId = some p) (hpaid : p.status = .paid)
    (hgained : GainedHold paymentId db.payouts db'.payouts)
    (hpayments : db'.payments = db.payments) (hledger : db'.ledgerEntries = db.ledgerEntries) :
    MoneyKept db db' := by
  rcases hgained with hsame | ⟨hold, -, howner, hcreated⟩
  · exact .of_eq hpayments hledger hsame
  · refine ⟨hpayments, hledger, ?_⟩
    intro k payout' hk
    rw [hcreated, Table.findUnique_create] at hk
    split at hk
    · rw [Option.some.injEq] at hk
      right
      rw [← hk, howner]
      exact ⟨p, hp, hpaid⟩
    · exact Or.inl ⟨payout', hk, .refl payout'⟩

end MoneyKept

variable {db db' : Db} {env : Env}

theorem OffersOnly.moneyKept (h : OffersOnly db db') : MoneyKept db db' := by
  obtain ⟨offers, listings, rfl⟩ := h.frame
  exact .of_eq rfl rfl rfl

/-! ## Operations on payouts and disputes -/

theorem PayoutWrite.moneyKept {w : PayoutWrite}
    (hopen : forall payout, w.guard payout = true -> payout.status.isFinal = false) :
    MoneyKept db { db with payouts := w.apply env db.payouts } := by
  have howner : forall payout, (w.write env payout).paymentId = payout.paymentId := by
    intro payout
    cases w <;> rfl
  refine moneyKept_updateMany rfl rfl rfl howner ?_
  intro i payout hselected
  rw [Bool.and_eq_true] at hselected
  exact hopen payout hselected.2

theorem releaseWrite_guard {updatedAt : UpdatedAt} {now : Nat} {id : Id} {payout payout' : Payout}
    {w : PayoutWrite} (h : releaseWrite env updatedAt db now id payout = some w)
    (hguard : w.guard payout' = true) :
    payout'.status = .held := by
  rcases releaseWrite_cases h with ⟨releaseAt, rfl⟩ | ⟨reviewedAt, rfl⟩
  · simpa [PayoutWrite.guard] using hguard
  · simp only [PayoutWrite.guard, Bool.and_eq_true, decide_eq_true_eq] at hguard
    exact hguard.1

theorem PayoutCall.exec_moneyKept (env : Env) (db : Db) (call : PayoutCall) :
    MoneyKept db (call.exec env db) := by
  cases call with
  | releaseDuePayouts updatedAt now =>
      have hwrites : forall w, w ∈ releaseDuePayoutsWrites env updatedAt now db ->
          forall payout, w.guard payout = true -> payout.status.isFinal = false := by
        intro w hw payout hguard
        obtain ⟨e, -, hwrite⟩ := List.mem_filterMap.1 hw
        rw [releaseWrite_guard hwrite hguard]
        rfl
      show MoneyKept db (runPayoutWrites env (releaseDuePayoutsWrites env updatedAt now db) db)
      generalize releaseDuePayoutsWrites env updatedAt now db = ws at hwrites
      induction ws generalizing db with
      | nil =>
          exact .of_eq rfl rfl rfl
      | cons w ws ih =>
          exact (PayoutWrite.moneyKept (hwrites w List.mem_cons_self)).trans
            (ih { db with payouts := w.apply env db.payouts }
              fun w' hw' => hwrites w' (List.mem_cons_of_mem w hw'))
  | releaseInspectorPayoutsForRequest now inspectionRequestId =>
      refine moneyKept_updateMany rfl rfl rfl (fun _ => rfl) ?_
      intro i payout hselected
      simp only [Bool.and_eq_true, decide_eq_true_eq] at hselected
      rw [hselected.1.1]
      rfl
  | markPaidOut payoutId actorId payoutReference =>
      apply commit_preserves (P := MoneyKept db) (.of_eq rfl rfl rfl)
      intro db' hmark
      unfold MarketBridge.markPaidOut at hmark
      rw [bind_eq_ok] at hmark
      obtain ⟨w, hw, hrun⟩ := hmark
      obtain rfl := Except.ok.inj hrun
      unfold markPaidOutWrite at hw
      split at hw
      · cases hw
      · next payout hpayout =>
          split at hw
          · next hreleased =>
              obtain rfl := Except.ok.inj hw
              refine ⟨rfl, rfl, ?_⟩
              intro k payout' hk
              left
              change (db.payouts.updateMany _ _).findUnique k = some payout' at hk
              rw [Table.findUnique_updateMany] at hk
              obtain ⟨before, hbefore, rfl⟩ := Option.map_eq_some_iff.mp hk
              refine ⟨before, hbefore, ?_⟩
              split
              · next hselected =>
                  simp only [PayoutWrite.id, PayoutWrite.guard, Bool.and_true, beq_iff_eq]
                    at hselected
                  rw [hselected, hpayout, Option.some.injEq] at hbefore
                  refine ⟨rfl, ?_⟩
                  intro hfinal
                  rw [← hbefore, hreleased] at hfinal
                  cases hfinal
              · exact .refl before
          · cases hw

theorem raiseDispute_moneyKept {userId : Id} {request : DisputeRequest}
    (h : raiseDispute env userId request db = .ok db') :
    MoneyKept db db' := by
  unfold raiseDispute at h
  split at h
  · cases h
  · simp only [bind_eq_ok] at h
    obtain ⟨_, -, moved, hmove, h⟩ := h
    obtain ⟨-, -, rfl⟩ := transitionOrderStatus_eq_ok_iff.1 hmove
    obtain rfl := Except.ok.inj h
    rw [holdForDispute_eq]
    refine moneyKept_updateMany rfl rfl rfl (fun _ => rfl) ?_
    intro i payout hselected
    unfold selectsForHold at hselected
    simp only [Bool.and_eq_true, decide_eq_true_eq, List.mem_cons, List.not_mem_nil,
      or_false] at hselected
    rcases hselected.1.1.2 with hs | hs
    · rw [hs]
      rfl
    · rw [hs]
      rfl

theorem createPayoutHold_moneyKept {orderId : Option Id} {payeeRole : PayoutPayeeRole}
    {payeeId : Option Id} {paymentId : Id} {payment p : Payment} (h : MoneyKept db db')
    (hp : db.payments.findUnique paymentId = some p) (hpaid : p.status = .paid) :
    MoneyKept db (createPayoutHold env orderId payeeRole payeeId paymentId payment db') := by
  obtain ⟨payouts, hgained, hhold⟩ :=
    createPayoutHold_frame env orderId payeeRole payeeId paymentId payment db'
  rw [hhold]
  rw [← h.payments] at hp
  exact h.trans (moneyKept_gainedHold hp hpaid hgained rfl rfl)

theorem confirmWaitingOrder_moneyKept {orderId : Id} {order : Order}
    (h : confirmWaitingOrder orderId order db = .ok db') :
    MoneyKept db db' := by
  unfold confirmWaitingOrder at h
  split at h
  · rw [bind_eq_ok] at h
    obtain ⟨committedDb, hcommit, htransition⟩ := h
    obtain ⟨committed, listings, offers, -, rfl⟩ := commitGoods_eq_ok hcommit
    obtain ⟨-, -, rfl⟩ := transitionOrderStatus_eq_ok_iff.1 htransition
    exact .of_eq rfl rfl rfl
  · obtain rfl := Except.ok.inj h
    exact .of_eq rfl rfl rfl

theorem replayGoods_moneyKept {r : PaymentRecord} {p : Payment}
    (hp : db.payments.findUnique r.id = some p) (hpaid : p.status = .paid)
    (h : replayGoods env r db = .ok db') :
    MoneyKept db db' := by
  unfold replayGoods at h
  split at h
  · rw [bind_eq_ok] at h
    obtain ⟨moved, hmove, hhold⟩ := h
    obtain rfl := Except.ok.inj hhold
    exact createPayoutHold_moneyKept (confirmWaitingOrder_moneyKept hmove) hp hpaid
  · obtain rfl := Except.ok.inj h
    exact .of_eq rfl rfl rfl

theorem replayTransport_moneyKept (env : Env) (r : PaymentRecord) (db : Db) :
    MoneyKept db (replayTransport env r db) := by
  unfold replayTransport
  split
  · split
    · exact .of_eq rfl rfl rfl
    · exact .of_eq rfl rfl rfl
  · exact .of_eq rfl rfl rfl

theorem replayInspection_moneyKept (r : PaymentRecord) (db : Db) :
    MoneyKept db (replayInspection r db) := by
  unfold replayInspection
  split
  · exact .of_eq rfl rfl rfl
  · split
    · exact .of_eq rfl rfl rfl
    · exact .of_eq rfl rfl rfl

/-- A replay holds payouts for the payment it replays, which is `PAID`. -/
theorem replayDisputedPaidPayment_moneyKept {paymentId : Id}
    (h : replayDisputedPaidPayment env paymentId db = .ok db') :
    MoneyKept db db' := by
  unfold replayDisputedPaidPayment at h
  split at h
  · obtain rfl := Except.ok.inj h
    exact .of_eq rfl rfl rfl
  · next p hp =>
      dsimp only at h
      split at h
      · next hpaid =>
          rw [bind_eq_ok] at h
          obtain ⟨replayed, hgoods, hrest⟩ := h
          obtain rfl := Except.ok.inj hrest
          have hid : (paymentRecord db paymentId p).id = paymentId := rfl
          generalize paymentRecord db paymentId p = r at hgoods hid
          subst hid
          have hreplayed := (replayGoods_moneyKept hp hpaid.1 hgoods).trans
            (replayTransport_moneyKept env r replayed)
          have hp₁ := hp
          rw [← hreplayed.payments] at hp₁
          obtain ⟨payouts, hgained, htransport⟩ :=
            holdTransportPayout_frame env r (replayTransport env r replayed)
          have hheld : MoneyKept db
              (holdTransportPayout env r (replayTransport env r replayed)) := by
            rw [htransport]
            exact hreplayed.trans (moneyKept_gainedHold hp₁ hpaid.1 hgained rfl rfl)
          have hinspected := hheld.trans (replayInspection_moneyKept r _)
          have hp₂ := hp
          rw [← hinspected.payments] at hp₂
          obtain ⟨payouts', hgained', hinspection⟩ := holdInspectionPayout_frame env r
            (replayInspection r (holdTransportPayout env r (replayTransport env r replayed)))
          rw [hinspection]
          exact hinspected.trans (moneyKept_gainedHold hp₂ hpaid.1 hgained' rfl rfl)
      · obtain rfl := Except.ok.inj h
        exact .of_eq rfl rfl rfl

theorem restoreOrder_moneyKept {dispute : Dispute} (h : restoreOrder env dispute db = .ok db') :
    MoneyKept db db' := by
  unfold restoreOrder at h
  rw [bind_eq_ok] at h
  obtain ⟨restored, hmove, hreplay⟩ := h
  obtain ⟨-, -, rfl⟩ := transitionOrderStatus_eq_ok_iff.1 hmove
  refine foldlM_preserves (P := MoneyKept db)
    (fun _ _ _ hdb hstep => hdb.trans (replayDisputedPaidPayment_moneyKept hstep)) ?_ hreplay
  rw [resumeAfterDispute_eq]
  refine moneyKept_updateMany rfl rfl rfl (fun _ => rfl) ?_
  intro i payout hselected
  unfold selectsForResume at hselected
  simp only [Bool.and_eq_true, decide_eq_true_eq] at hselected
  rw [hselected.1.2]
  rfl

theorem applyResolution_moneyKept {adminId : Id} {dispute : Dispute}
    {resolutionType : ResolutionType} (hkeeps : resolutionType ≠ .cancelOrder)
    (h : applyResolution env adminId dispute resolutionType db = .ok db') :
    MoneyKept db db' := by
  cases resolutionType with
  | cancelOrder =>
      exact absurd rfl hkeeps
  | dismissed =>
      exact restoreOrder_moneyKept h
  | cancelService =>
      unfold applyResolution at h
      dsimp only at h
      split at h
      · cases h
      · rw [bind_eq_ok] at h
        obtain ⟨served, hservice, h⟩ := h
        obtain ⟨_, _, _, _, rfl⟩ := cancelService_frame hservice
        have hrestored := restoreOrder_moneyKept h
        exact ⟨hrestored.payments, hrestored.ledgerEntries, hrestored.payouts⟩

/-! ## Edges of refunds and cancellations -/

/-- The call can take the payment from `PAID` to `REFUND_PENDING`. -/
def RefundCall.Starts (db : Db) (i : Id) : RefundCall -> Prop
  | .request paymentId _ _ _ => i = paymentId ∧ ¬ HasBlockingRefund db paymentId
  | .retry refundId _ _ _ =>
      (exists r, db.refunds.findUnique refundId = some r ∧ r.paymentId = i) ∧
        ¬ HasBlockingRefund db i
  | _ => False

/-- The call completes its refund: the provider reports it, and nothing stands in the way. -/
def RefundCall.Completes (db : Db) : RefundCall -> Prop
  | .process refundId answers =>
      ReportsRefunded answers.verification ∧ Completable db refundId
  | .verifyAndFinalize refundId answer => ReportsRefunded answer ∧ Completable db refundId
  | .finalize refundId providerStatus =>
      providerStatus = some "refunded" ∧ Completable db refundId
  | .retry refundId _ _ answers =>
      ReportsRefunded answers.verification ∧
        exists r p, db.refunds.findUnique refundId = some r ∧
          db.payments.findUnique r.paymentId = some p ∧
          assertOrderCancelled "completion" p db = .ok ()
  | _ => False

inductive RefundEdge (db : Db) (call : RefundCall) : StatusEdges where
  | started (i : Id) (hstarts : call.Starts db i) : RefundEdge db call i .paid .refundPending
  | givenBack (i : Id) : RefundEdge db call i .refundPending .paid
  | completed (i : Id) (hcompletes : call.Completes db) :
      RefundEdge db call i .refundPending .refunded

theorem RefundCall.exec_moved (env : Env) (db : Db) (call : RefundCall) :
    PaymentsMoved (RefundEdge db call) db (call.exec env db) := by
  cases call with
  | request paymentId amount reason requestedById =>
      unfold exec
      dsimp only
      split
      · next hrequest =>
          exact requestRefund_moved (fun hfree => .started _ ⟨rfl, hfree⟩) hrequest
      · exact .of_eq rfl
  | process refundId answers =>
      exact processRefund_moved (fun i => .givenBack i) fun hdone i => .completed i hdone
  | verifyAndFinalize refundId answer =>
      exact verifyAndFinalizeRefund_moved (fun i => .givenBack i) fun hdone i =>
        .completed i hdone
  | finalize refundId providerStatus =>
      exact commit_preserves (P := PaymentsMoved _ db) (.of_eq rfl) fun _ hfinal =>
        finalizeRefund_moved (fun hdone i => .completed i hdone) hfinal
  | fail refundId failureReason allowProcessing =>
      exact failRefund_moved (fun i => .givenBack i) env refundId failureReason allowProcessing db
  | retry refundId actorId note answers =>
      exact retryRefund_moved (fun r hr hfree => .started _ ⟨⟨r, hr, rfl⟩, hfree⟩)
        (fun i => .givenBack i) fun hdone i => .completed i hdone

inductive CancelEdge (record : OrderRecord) (db : Db) : StatusEdges where
  /-- A refund of the payment is requested. -/
  | refunded (i : Id) (hmem : i ∈ cancellationRefunds record db)
      (hfree : ¬ HasBlockingRefund db i) :
      CancelEdge record db i .paid .refundPending
  /-- The parent of a plan waits for its installments. -/
  | held (i : Id) (p : Payment) (hp : db.payments.findUnique i = some p)
      (horder : p.orderId = some record.id) (hparent : p.isInstallmentParent = true) :
      CancelEdge record db i .paid .refundPending
  | closed (i : Id) : CancelEdge record db i .pending .failed

section Cancellation

variable {edges : StatusEdges} {env : Env} {record : OrderRecord} {actorId : Option Id}
  {reason : Option String} {role : CancelledByRole} {db db' : Db}

theorem HasBlockingRefund.of_added {i : Id} (h : HasBlockingRefund db i)
    (hadded : RefundsAdded db db') :
    HasBlockingRefund db' i := by
  obtain ⟨j, r, hr, hblocks⟩ := h
  exact ⟨j, r, hadded.refunds j r hr, hblocks⟩

theorem requestRefunds_moved {ids : List Id}
    (hstart : forall i, i ∈ ids -> ¬ HasBlockingRefund db i -> edges i .paid .refundPending)
    (h : requestRefunds env reason actorId ids db = .ok db') :
    PaymentsMoved edges db db' := by
  unfold requestRefunds at h
  induction ids generalizing db with
  | nil =>
      have hsame : db = db' := by simpa [pure, Except.pure] using h
      exact .of_eq (by rw [hsame])
  | cons k rest ih =>
      rw [List.foldlM_cons, bind_eq_ok] at h
      obtain ⟨db₁, hstep, hrest⟩ := h
      rw [bind_eq_ok] at hstep
      obtain ⟨⟨db₂, id⟩, hrequest, hok⟩ := hstep
      simp only [Except.ok.injEq] at hok
      subst hok
      obtain ⟨hadded, -⟩ := requestRefund_refundsAdded hrequest
      have hfirst := requestRefund_moved (hstart k List.mem_cons_self) hrequest
      refine hfirst.trans (ih ?_ hrest)
      intro i hi hfree
      exact hstart i (List.mem_cons_of_mem _ hi) fun hblocked => hfree (hblocked.of_added hadded)

theorem closeInstallmentPlans_moved {orderId : Id}
    (hheld : forall i p, db.payments.findUnique i = some p -> p.orderId = some orderId ->
      p.isInstallmentParent = true -> edges i .paid .refundPending)
    (hclosed : forall i, edges i .pending .failed) :
    PaymentsMoved edges db (closeInstallmentPlans orderId db) := by
  intro i
  rw [closeInstallmentPlans_findUnique]
  cases hp : db.payments.findUnique i with
  | none =>
      exact .none
  | some p =>
      refine .some ?_
      dsimp only
      split
      · next hparent =>
          refine ⟨rfl, ?_⟩
          rw [hparent.2.1]
          exact .single (hheld i p hp hparent.1 hparent.2.2)
      · split
        · next hpending =>
            refine ⟨rfl, ?_⟩
            rw [hpending.2.1]
            exact .single (hclosed i)
        · exact .refl edges i p

/-- What a cancellation does to payments, ledger and payouts. -/
structure MoneyCancelled (record : OrderRecord) (db db' : Db) : Prop where
  payments : PaymentsMoved (CancelEdge record db) db db'
  ledgerEntries : db'.ledgerEntries = db.ledgerEntries
  payouts : db'.payouts = db.payouts.updateMany
    (fun _ payout =>
      selectsForOrderCancel db record.id (earnedInspections db record.id) payout)
    ({ · with status := .cancelled })

theorem servicesClosed_ledgerEntries (env : Env) (record : OrderRecord) (db : Db) :
    (servicesClosed env record db).ledgerEntries = db.ledgerEntries := by
  have htransport : (cancelTransport record db).ledgerEntries = db.ledgerEntries := by
    unfold cancelTransport
    split
    · rfl
    · split
      · rfl
      · rfl
  unfold servicesClosed
  simp only [cancelPayoutsForOrder_eq, closeInstallmentPlans]
  exact htransport

theorem cancelOrderInTransaction_money
    (h : cancelOrderInTransaction env record actorId reason role db = .ok db') :
    MoneyCancelled record db db' := by
  have hpayouts := (cancelOrderInTransaction_cancelled h).payouts
  obtain ⟨-, -, -, restored, refunded, hrestore, hrefunds, rfl⟩ :=
    cancelOrderInTransaction_eq_ok_iff.mp h
  have hrestored := restoreGoods_closedOrder_frame hrestore
  obtain ⟨listings, orders, hshape, -⟩ := restoreGoods_eq_ok hrestore
  obtain ⟨offers, winners, -, hwinner⟩ := releaseWinner_frame env record refunded
  have hlist : cancellationRefunds record restored = cancellationRefunds record db :=
    cancellationRefunds_congr hrestored.payments hrestored.inspectionRequests
  have hservices : (servicesClosed env record restored).payments =
      (closeInstallmentPlans record.id db).payments := by
    rw [servicesClosed_payments]
    unfold closeInstallmentPlans
    rw [hrestored.payments]
  have hrequests : (servicesClosed env record restored).refunds = db.refunds := by
    rw [servicesClosed_refunds, hrestored.refunds]
  refine ⟨?_, ?_, hpayouts⟩
  · have hplans : PaymentsMoved (CancelEdge record db) db (closeInstallmentPlans record.id db) :=
      closeInstallmentPlans_moved (fun i p hp horder hparent => .held i p hp horder hparent)
        fun i => .closed i
    have hclosed : PaymentsMoved (CancelEdge record db) db
        (servicesClosed env record restored) := by
      unfold PaymentsMoved
      rw [hservices]
      exact hplans
    have hrequested : PaymentsMoved (CancelEdge record db)
        (servicesClosed env record restored) refunded := by
      apply requestRefunds_moved _ hrefunds
      intro i hi hfree
      rw [hlist] at hi
      unfold HasBlockingRefund at hfree
      rw [hrequests] at hfree
      exact .refunded i hi hfree
    rw [hwinner]
    exact hclosed.trans hrequested
  · obtain ⟨-, -, payments, refunds, events, hframe⟩ := requestRefunds_refundsAdded hrefunds
    rw [hwinner, hframe]
    show (servicesClosed env record restored).ledgerEntries = db.ledgerEntries
    rw [servicesClosed_ledgerEntries, hshape]
    rfl

theorem cancelLoadedOrder_money {load : OrderLoad} {orderId : Id}
    (h : cancelLoadedOrder env load orderId actorId reason role db = .ok db') :
    exists record, loadOrder load db orderId = some record ∧ MoneyCancelled record db db' := by
  unfold cancelLoadedOrder at h
  split at h
  · cases h
  · next record hload =>
      exact ⟨record, hload, cancelOrderInTransaction_money h⟩

end Cancellation

/-! ## Steps -/

/-- The step can move the payment from one status to the other. -/
inductive MovesPayment (db : Db) : MarketStep -> StatusEdges where
  | started (paymentId : Id) :
      MovesPayment db (.checkout (.start paymentId)) paymentId .pending .processing
  | abandoned (paymentId : Id) :
      MovesPayment db (.checkout (.abandon paymentId)) paymentId .processing .pending
  | refund (call : RefundCall) (i : Id) (s s' : PaymentStatus)
      (hedge : RefundEdge db call i s s') :
      MovesPayment db (.refund call) i s s'
  | cancelled (load : OrderLoad) (orderId : Id) (actorId : Option Id) (reason : Option String)
      (role : CancelledByRole) (record : OrderRecord) (i : Id) (s s' : PaymentStatus)
      (hload : loadOrder load db orderId = some record) (hedge : CancelEdge record db i s s') :
      MovesPayment db (.cancelOrder load orderId actorId reason role) i s s'
  | resolved (adminId disputeId : Id) (resolution : String) (dispute : Dispute)
      (record : OrderRecord) (i : Id) (s s' : PaymentStatus)
      (hdispute : db.disputes.findUnique disputeId = some dispute)
      (hload : includeOrder db dispute.orderId = some record)
      (hedge : CancelEdge record db i s s') :
      MovesPayment db (.resolveDispute adminId disputeId .cancelOrder resolution) i s s'

/-- The step cancels the order of the record. -/
inductive CancelsOrder (db : Db) : MarketStep -> OrderRecord -> Prop where
  | cancelled (load : OrderLoad) (orderId : Id) (actorId : Option Id) (reason : Option String)
      (role : CancelledByRole) (record : OrderRecord)
      (hload : loadOrder load db orderId = some record) :
      CancelsOrder db (.cancelOrder load orderId actorId reason role) record
  | resolved (adminId disputeId : Id) (resolution : String) (dispute : Dispute)
      (record : OrderRecord) (hdispute : db.disputes.findUnique disputeId = some dispute)
      (hload : includeOrder db dispute.orderId = some record) :
      CancelsOrder db (.resolveDispute adminId disputeId .cancelOrder resolution) record

inductive MoneyEffect (env : Env) (db : Db) : MarketStep -> Db -> Prop where
  | kept (a : MarketStep) (db' : Db) (h : MoneyKept db db') : MoneyEffect env db a db'
  | created (payment : Payment) :
      MoneyEffect env db (.checkout (.createPayment payment))
        { db with payments := db.payments.create payment.asCreated }
  | moved (a : MarketStep) (db' : Db) (hpayments : PaymentsMoved (MovesPayment db a) db db')
      (hledger : db'.ledgerEntries = db.ledgerEntries) (hpayouts : db'.payouts = db.payouts)
      (hcalls : forall record, ¬ CancelsOrder db a record) :
      MoneyEffect env db a db'
  | cancelled (a : MarketStep) (record : OrderRecord) (db' : Db)
      (hcancels : CancelsOrder db a record) (h : MoneyCancelled record db db') :
      MoneyEffect env db a db'
  | settled (args : SettleArgs) (db' : Db) (h : settlePayment env args db = .ok db') :
      MoneyEffect env db (.settlePayment args) db'
  | elsewhere (other db' : Db) (hpayments : db'.payments = db.payments)
      (hledger : db'.ledgerEntries = other.ledgerEntries) (hpayouts : db'.payouts = db.payouts) :
      MoneyEffect env db (.elsewhere other) db'

section Steps

variable {env : Env} {db db' : Db} {a : MarketStep}

theorem MoneyEffect.of_commit {r : Except ApiError Db}
    (h : forall db', r = .ok db' -> MoneyEffect env db a db') :
    MoneyEffect env db a (commit r db) := by
  rcases commit_cases r db with hok | hrolled
  · exact h _ hok
  · rw [hrolled]
    exact .kept a db (.of_eq rfl rfl rfl)

theorem MoneyCancelled.moved {record : OrderRecord} (hcancels : CancelsOrder db a record)
    (h : MoneyCancelled record db db') :
    PaymentsMoved (MovesPayment db a) db db' := by
  apply h.payments.mono
  intro i s s' hedge
  cases hcancels with
  | cancelled load orderId actorId reason role _ hload =>
      exact .cancelled load orderId actorId reason role record i s s' hload hedge
  | resolved adminId disputeId resolution dispute _ hdispute hload =>
      exact .resolved adminId disputeId resolution dispute record i s s' hdispute hload hedge

theorem CheckoutCall.exec_money (db : Db) (call : CheckoutCall) :
    MoneyEffect env db (.checkout call) (call.exec db) := by
  cases call with
  | createPayment payment =>
      exact .created payment
  | start paymentId =>
      refine .moved _ _ ?_ rfl rfl (fun _ hcancels => nomatch hcancels)
      refine Table.rel_updateMany (Moved.refl _) ?_
      intro i p hp hselected
      simp only [Bool.and_eq_true, beq_iff_eq, decide_eq_true_eq] at hselected
      refine ⟨rfl, ?_⟩
      rw [hselected.1, hselected.2]
      exact .single (.started paymentId)
  | abandon paymentId =>
      refine .moved _ _ ?_ rfl rfl (fun _ hcancels => nomatch hcancels)
      refine Table.rel_updateMany (Moved.refl _) ?_
      intro i p hp hselected
      simp only [Bool.and_eq_true, beq_iff_eq, decide_eq_true_eq] at hselected
      refine ⟨rfl, ?_⟩
      rw [hselected.1, hselected.2]
      exact .single (.abandoned paymentId)

theorem respondToOffer_moneyKept (env : Env) (caller : OfferCaller) (updatedAt : Nat) (id : Id)
    (action : OfferAction) (db : Db) :
    MoneyKept db (respondToOffer env caller updatedAt id action db).1 := by
  generalize hdb' : (respondToOffer env caller updatedAt id action db).1 = db'
  have hresponse := respondToOffer_response env caller updatedAt id action db
  rw [hdb'] at hresponse
  cases hresponse with
  | refused =>
      exact .of_eq rfl rfl rfl
  | expired =>
      exact (setOfferStatus_offersOnly _ _ _).moneyKept
  | moved o listing _ hoffer hlisting hleaf hmove =>
      cases hmove with
      | selected =>
          exact (setOfferStatus_offersOnly _ _ _).moneyKept
      | agreed =>
          exact (setOfferStatus_offersOnly _ _ _).moneyKept
      | countered =>
          exact .of_eq rfl rfl rfl
      | closed =>
          exact (closeLeafOffer_offersOnly _ _ _ _).moneyKept
      | confirmed quantity =>
          obtain ⟨events, hframe⟩ := recordOrderEvent_frame env (some db.orders.size)
            .orderCreated
            { setOfferStatus id .accepted db with
              orders := db.orders.create
                (orderOfOffer env id o listing listing.sellerId o.confirmedPrice quantity) }
          unfold orderedDb
          rw [hframe]
          exact .of_eq rfl rfl rfl

theorem confirmReceipt_moneyKept {userId orderId : Id}
    (h : confirmReceipt env userId orderId db = .ok db') :
    MoneyKept db db' := by
  unfold confirmReceipt at h
  repeat' split at h
  all_goals try cases h
  simp only [bind_eq_ok] at h
  obtain ⟨moved, hmove, h⟩ := h
  obtain ⟨-, -, rfl⟩ := transitionOrderStatus_eq_ok_iff.1 hmove
  obtain rfl := Except.ok.inj h
  exact .of_eq rfl rfl rfl

theorem resolveDispute_money {adminId disputeId : Id} {resolutionType : ResolutionType}
    {resolution : String}
    (h : resolveDispute env adminId disputeId resolutionType resolution db = .ok db') :
    MoneyEffect env db (.resolveDispute adminId disputeId resolutionType resolution) db' := by
  obtain ⟨dispute, applied, hresolvable, happly, -, rfl⟩ := resolveDispute_eq_ok h
  by_cases hcancel : resolutionType = .cancelOrder
  · subst hcancel
    obtain ⟨record, hload, hcancelled⟩ := cancelLoadedOrder_money happly
    exact .cancelled _ record _
      (.resolved adminId disputeId resolution dispute record hresolvable.found hload)
      ⟨hcancelled.payments, hcancelled.ledgerEntries, hcancelled.payouts⟩
  · have hkept := applyResolution_moneyKept hcancel happly
    exact .kept _ _ ⟨hkept.payments, hkept.ledgerEntries, hkept.payouts⟩

theorem MarketStep.money (env : Env) (db : Db) (a : MarketStep) :
    MoneyEffect env db a (step db (env, a)) := by
  cases a with
  | listing call =>
      cases call with
      | create listing =>
          exact .kept _ _ (.of_eq rfl rfl rfl)
      | setStatus listingId status =>
          exact .kept _ _ (setListingStatus_offersOnly listingId status db).moneyKept
  | createOffer userId listingId amount quantity =>
      exact .of_commit fun _ h => .kept _ _ (createOffer_offersOnly h).moneyKept
  | respondToOffer caller updatedAt offerId action =>
      exact .kept _ _ (respondToOffer_moneyKept env caller updatedAt offerId action db)
  | expireOffers =>
      exact .kept _ _ (expireOffers_offersOnly env db).moneyKept
  | checkout call =>
      exact call.exec_money db
  | settlePayment args =>
      exact .of_commit fun db' h => .settled args db' h
  | refund call =>
      have hframe := (call.exec_frame env db).others
      obtain ⟨payments, refunds, obligations, events, hshape⟩ := hframe
      have hmoved : PaymentsMoved (MovesPayment db (.refund call)) db (call.exec env db) :=
        (call.exec_moved env db).mono fun i s s' hedge => .refund call i s s' hedge
      have hledger : (call.exec env db).ledgerEntries = db.ledgerEntries := by rw [hshape]
      have hpayouts : (call.exec env db).payouts = db.payouts := by rw [hshape]
      exact .moved _ _ hmoved hledger hpayouts (fun _ hcancels => nomatch hcancels)
  | resolveReconciliation reconciliationId status actorId note =>
      refine .of_commit fun db' h => .kept _ _ ?_
      obtain ⟨events, hframe⟩ := resolveReconciliation_frame h
      rw [hframe]
      exact .of_eq rfl rfl rfl
  | shipOrder orderId leg =>
      refine .of_commit fun db' h => .kept _ _ ?_
      obtain ⟨-, -, rfl⟩ := transitionOrderStatus_eq_ok_iff.1 h
      exact .of_eq rfl rfl rfl
  | confirmReceipt userId orderId =>
      exact .of_commit fun _ h => .kept _ _ (confirmReceipt_moneyKept h)
  | cancelOrder load orderId actorId reason role =>
      refine .of_commit fun db' h => ?_
      obtain ⟨record, hload, hcancelled⟩ := cancelLoadedOrder_money h
      exact .cancelled _ record db' (.cancelled load orderId actorId reason role record hload)
        hcancelled
  | raiseDispute userId request =>
      exact .of_commit fun _ h => .kept _ _ (raiseDispute_moneyKept h)
  | resolveDispute adminId disputeId resolutionType resolution =>
      exact .of_commit fun _ h => resolveDispute_money h
  | payout call =>
      exact .kept _ _ (call.exec_moneyKept env db)
  | elsewhere other =>
      exact .elsewhere other _ rfl rfl rfl

end Steps

end MarketBridge
