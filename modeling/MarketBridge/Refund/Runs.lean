import MarketBridge.Payment.SettlementExits
import MarketBridge.Refund.Operations

/-!
# Runs of refunds and settlements

In every run of the refund operations and of settlements whose steps meet their
conditions, refunds and payments stay coupled, in whatever order the steps and
the provider's answers come; and then a refund that the provider has paid can be
finalized.
-/

namespace MarketBridge

open Relational

/-! ## Settlement -/

/-- What a settlement writes to the payments, if anything; the refunds stay. -/
theorem settlePaymentCore_refundFrame (env : Env) {args : SettleArgs} {db : Db}
    {p : Payment} (hp : db.payments.findUnique args.paymentId = some p) :
    (commit (settlePaymentCore env args db) db).refunds = db.refunds ∧
      ((commit (settlePaymentCore env args db) db).payments = db.payments ∨
        (settlementWrites args db p = true ∧
          (commit (settlePaymentCore env args db) db).payments =
            db.payments.update args.paymentId (·.afterSettlement args)) ∨
        (mismatchReason p args ≠ none ∧ flagCommits args db p = true ∧
          canTransition p.status .reconciliationRequired = true ∧
          (commit (settlePaymentCore env args db) db).payments =
            db.payments.update args.paymentId (·.flagged args))) := by
  cases hsettle : settlePaymentCore env args db with
  | error e =>
      exact ⟨rfl, Or.inl rfl⟩
  | ok db' =>
      rw [commit_ok]
      cases settlePaymentCore_exit hp hsettle with
      | flagged reason hreason hcommits =>
          obtain ⟨events, hissue⟩ := withIssue_frame env
            (issueData (paymentRecord db args.paymentId p) args reason) db
          unfold flaggedDb
          split
          · rename_i hcan
            refine ⟨by rw [hissue], Or.inr (Or.inr ⟨by simp [hreason], hcommits, hcan, rfl⟩)⟩
          · exact ⟨by rw [hissue], Or.inl (by rw [hissue])⟩
      | replayed =>
          exact ⟨rfl, Or.inl rfl⟩
      | ignored =>
          obtain ⟨events, h⟩ := withEvent_frame args (paymentRecord db args.paymentId p) db
          rw [h]
          exact ⟨rfl, Or.inl rfl⟩
      | written written _ hwrites hwritten heffects =>
          have hframe := applyEffects_frame heffects
          obtain ⟨events, rfl⟩ := hwritten.shape
          exact ⟨hframe.refunds, Or.inr (Or.inl ⟨hwrites, hframe.payments⟩)⟩

theorem RefundInv.settlePaymentCore {env : Env} {args : SettleArgs} {db : Db}
    (h : RefundInv db) (hstatus : args.status ∈ notifiedStatuses)
    (hsafe : forall p, db.payments.findUnique args.paymentId = some p ->
      p.isInstallmentParent = false -> p.status = .refundPending ->
      settlementWrites args db p = false ∧
        (mismatchReason p args = none ∨ flagCommits args db p = false)) :
    RefundInv (commit (MarketBridge.settlePaymentCore env args db) db) := by
  cases hp : db.payments.findUnique args.paymentId with
  | none =>
      rw [commit_settlePaymentCore_of_not_found env hp]
      exact h
  | some p =>
      have hsafe := hsafe p hp
      obtain ⟨hrefunds, hpayments⟩ := settlePaymentCore_refundFrame env hp
      rcases hpayments with hsame | ⟨hwrites, hwrite⟩ | ⟨hreason, hcommits, hcan, hwrite⟩
      · exact h.congr hsame hrefunds
      · have hguards := hwrites
        simp only [settlementWrites, Bool.and_eq_true, Bool.not_eq_true'] at hguards
        obtain ⟨⟨⟨-, hignored⟩, hconflict⟩, -⟩ := hguards
        refine h.writePayment hp rfl hconflict ?_ hwrite hrefunds
        intro hparent
        have hc := h.coupled _ p hp hparent
        have hnot : p.status ≠ .refundPending := by
          intro hs
          rw [(hsafe hparent hs).1] at hwrites
          cases hwrites
        refine ⟨fun j hj => absurd (hc.pending j hj) hnot, ?_, hc.unique, ?_⟩
        · intro hpending
          have hargs : args.status = .refundPending := hpending
          rw [hargs] at hstatus
          exact absurd hstatus (by decide)
        · intro j hj
          -- A refunded payment ignores everything but a further `REFUNDED`.
          rw [hc.completed j hj] at hignored
          have hargs : args.status = .refunded := by
            simpa [ignoresNotification] using hignored
          exact hargs
      · have hconflict : paymentConflict db args.paymentId (p.flagged args) = false := by
          simp only [flagCommits, hcan, Bool.not_true, Bool.false_or, Bool.and_eq_true,
            Bool.not_eq_true'] at hcommits
          exact hcommits.2
        refine h.writePayment (g := (·.flagged args)) hp rfl hconflict ?_ hwrite hrefunds
        intro hparent
        have hc := h.coupled _ p hp hparent
        have hnot : p.status ≠ .refundPending := by
          intro hs
          cases (hsafe hparent hs).2 with
          | inl hnone =>
              exact hreason hnone
          | inr hfails =>
              rw [hfails] at hcommits
              cases hcommits
        refine ⟨fun j hj => absurd (hc.pending j hj) hnot, ?_, hc.unique, ?_⟩
        · intro hpending
          cases hpending
        · intro j hj
          rw [hc.completed j hj] at hcan
          exact absurd hcan (by decide)

/-! ## Finalization -/

/-- The parent of an installment is written only to `REFUNDED`. -/
theorem markParentOfInstallment_ok {payment : Payment} {db : Db}
    (h : PaymentsIndexed db.payments) :
    exists db', markParentOfInstallment payment db = .ok db' ∧
      db'.refunds = db.refunds ∧
      (db'.payments = db.payments ∨
        exists k, db'.payments = db.payments.update k (·.withStatus .refunded)) := by
  unfold markParentOfInstallment
  cases payment.parentPaymentId with
  | none =>
      exact ⟨db, rfl, rfl, Or.inl rfl⟩
  | some k =>
      simp only [markParentRefundedIfComplete]
      cases hp : db.payments.findUnique k with
      | none =>
          exact ⟨db, rfl, rfl, Or.inl rfl⟩
      | some parent =>
          dsimp only
          split
          · have hwrite : updatePayment k (·.withStatus .refunded) db =
                .ok { db with payments := db.payments.update k (·.withStatus .refunded) } :=
              updatePayment_eq_ok_iff.2
                ⟨parent, hp, h.inactive_conflict hp (by simp), rfl⟩
            rw [hwrite, ok_bind]
            cases parent.obligationId with
            | none =>
                exact ⟨_, rfl, rfl, Or.inr ⟨k, rfl⟩⟩
            | some o =>
                exact ⟨_, rfl, rfl, Or.inr ⟨k, rfl⟩⟩
          · exact ⟨db, rfl, rfl, Or.inl rfl⟩

/-- An open refund of a payment under refund is completed, once its order is cancelled. -/
theorem finalizeRefund_completes {db : Db} {j : Id} {r : PaymentRefund} {p : Payment}
    (hunique : db.refunds.Unique PaymentRefund.sameProviderRefund)
    (hindexed : PaymentsIndexed db.payments)
    (hr : db.refunds.findUnique j = some r) (hopen : r.status.isOpen = true)
    (hp : db.payments.findUnique r.paymentId = some p) (hpending : p.status = .refundPending)
    (horder : ((related db.orders p.orderId).all fun order => order.status = .cancelled) = true)
    (env : Env) :
    exists db', finalizeRefund env j (some "refunded") db = .ok db' ∧
      CompletedRefund db'.refunds r.paymentId j ∧
      (db'.payments.findUnique r.paymentId).map (·.status) = some .refunded := by
  have hdone : r.status ≠ .completed := by
    intro hs
    rw [hs] at hopen
    cases hopen
  have hcancelled : assertOrderCancelled "completion" p db = .ok () := by
    unfold assertOrderCancelled
    cases ho : related db.orders p.orderId with
    | none =>
        rfl
    | some order =>
        rw [ho] at horder
        simp only [Option.all_some, decide_eq_true_eq] at horder
        simp [horder]
  have htransition : assertTransition p.status .refunded = .ok () := by
    rw [hpending]
    rfl
  have hfree : (db.refunds.any fun k q =>
      k ≠ j && (r.complete env.now).sameProviderRefund q) = false := by
    rw [Table.any_eq_false_iff]
    intro k q hq
    by_cases hk : k = j
    · simp [hk]
    · have hother : (r.complete env.now).sameProviderRefund q = false :=
        hunique j k r q hr hq fun hjk => hk hjk.symm
      simp [hother]
  have hmove : MarketBridge.moveRefund j PaymentRefundStatus.isOpen (·.complete env.now) db =
      .ok ({ db with refunds := db.refunds.update j (·.complete env.now) }, true) := by
    unfold MarketBridge.moveRefund
    simpa [hr, hopen] using hfree
  have hwrite : updatePayment r.paymentId (·.withStatus .refunded)
      { db with refunds := db.refunds.update j (·.complete env.now) } =
      .ok { db with
        refunds := db.refunds.update j (·.complete env.now)
        payments := db.payments.update r.paymentId (·.withStatus .refunded) } :=
    updatePayment_eq_ok_iff.2 ⟨p, hp, hindexed.inactive_conflict hp (by simp), rfl⟩
  have hmarkable : PaymentsIndexed
      (db.payments.update r.paymentId (·.withStatus .refunded)) := by
    apply hindexed.update
    intro q hq
    exact hindexed.inactive_conflict hq (by simp)
  have hmarked := @markParentOfInstallment_ok p { db with
    refunds := db.refunds.update j (·.complete env.now)
    payments := db.payments.update r.paymentId (·.withStatus .refunded) } hmarkable
  obtain ⟨marked, hmark, hrefunds, hpayments⟩ := hmarked
  refine ⟨recordOrderEvent env p.orderId .paymentRefunded marked, ?_, ?_, ?_⟩
  · unfold MarketBridge.finalizeRefund MarketBridge.completeRefund
    simp [hr, hdone, hopen, hp, hcancelled, htransition, hmove, hwrite, hmark]
  · rw [recordOrderEvent_refunds, hrefunds]
    exact ⟨r.complete env.now, by simp [hr], rfl, rfl⟩
  · rw [recordOrderEvent_payments]
    rcases hpayments with heq | ⟨k, heq⟩
    · simp [heq, hp]
    · rw [heq, Table.findUnique_update]
      by_cases hk : r.paymentId = k <;> simp [hk, hp]
      simp [← hk, hp]

theorem RefundInv.refundsFinalizable {db : Db} (h : RefundInv db) (env : Env) :
    RefundsFinalizable env db := by
  intro j r p hr hopen hp hparent horder
  have hpending : p.status = .refundPending :=
    (h.coupled _ p hp hparent).pending j ((hasRefund_self hr).2 hopen)
  exact finalizeRefund_completes h.refunds h.payments hr hopen hp hpending horder env

/-! ## Runs -/

theorem RefundInv.step {db : Db} {a : Env × RefundStep} (h : RefundInv db)
    (hsafe : RefundStep.keepsCoupling db a) :
    RefundInv (RefundStep.step db a) := by
  obtain ⟨env, a⟩ := a
  cases a with
  | requestRefund paymentId amount reason requestedById =>
      simp only [RefundStep.step]
      split
      · rename_i hrequest
        obtain ⟨p, hp, hcases⟩ := requestRefund_cases hrequest
        cases hcases with
        | inl hexisting =>
            exact hexisting.1 ▸ h
        | inr hnew =>
            exact h.requestedRefund hp hnew.2
      · exact h
  | processRefund refundId answers =>
      exact h.processRefund hsafe
  | verifyAndFinalizeRefund refundId answer =>
      exact h.verifyAndFinalizeRefund hsafe
  | finalizeRefund refundId providerStatus =>
      exact commit_preserves (P := RefundInv) h fun _ hfinal => h.finalizeRefund hfinal
  | failRefund refundId failureReason allowProcessing =>
      exact h.failRefund hsafe
  | retryRefund refundId actorId note answers =>
      exact h.retryRefund hsafe
  | settlePaymentCore args hstatus =>
      exact h.settlePaymentCore hstatus hsafe
  | elsewhere other =>
      exact h.congr rfl rfl

/-- Before the first refund. -/
structure BeforeRefunds (db : Db) : Prop where
  refunds : db.refunds = .empty
  notPending : forall i p, db.payments.findUnique i = some p -> p.status ≠ .refundPending
  indexed : PaymentsIndexed db.payments

theorem BeforeRefunds.refundInv {db : Db} (h : BeforeRefunds db) : RefundInv db := by
  have hnone : forall i φ j, ¬ HasRefund db.refunds i φ j := by
    rintro i φ j ⟨r, hr, -⟩
    rw [h.refunds] at hr
    simp at hr
  refine ⟨?_, ?_, h.indexed, ?_⟩
  · intro i p hp _
    exact ⟨fun j hj => absurd hj (hnone i _ j), fun hs => absurd hs (h.notPending i p hp),
      fun j _ hj => absurd hj (hnone i _ j), fun j hj => absurd hj (hnone i _ j)⟩
  · intro j r hr
    rw [h.refunds] at hr
    simp at hr
  · rw [h.refunds]
    exact Table.unique_empty _

/--
In every run whose steps settle no payment under refund and fail no refund but
the live one, refunds and payments stay coupled, and an open refund of a
cancelled order can be finalized once the provider has paid it.
-/
theorem refunds_coupled_of_run (env : Env) {db : Db} (hstart : BeforeRefunds db)
    (steps : List (Env × RefundStep))
    (hmeets : RunMeets RefundStep.step RefundStep.keepsCoupling db steps) :
    RefundsCoupled (run RefundStep.step db steps) ∧
      RefundsFinalizable env (run RefundStep.step db steps) := by
  have hinv : RefundInv (run RefundStep.step db steps) :=
    run_invariant (fun _ _ h hsafe => h.step hsafe) hstart.refundInv hmeets
  exact ⟨hinv.refundsCoupled, hinv.refundsFinalizable env⟩

/-! ## A cancelled order under refund -/

section CancelledOrder

def paidGoods : Payment :=
  { orderId := some 0
    type := .marketplace
    amount := 500
    status := .paid
    provider := some "CHAPA"
    chapaTxRef := some "tx-1" }

/-- A cancelled order whose goods had been paid. -/
def cancelledOrderDb : Db :=
  { orders := Table.empty.create
      { listingId := 0
        buyerId := 1
        sellerId := 2
        finalPrice := 500
        quantity := 1
        status := .cancelled }
    payments := Table.empty.create paidGoods }

theorem cancelledOrderDb_beforeRefunds : BeforeRefunds cancelledOrderDb := by
  have hrow : forall i p, cancelledOrderDb.payments.findUnique i = some p ->
      i = 0 ∧ p.status = .paid := by
    intro i p hp
    have hi : i < 1 := Table.lt_size_of_findUnique hp
    obtain rfl : i = 0 := by omega
    obtain rfl := Option.some.inj hp
    exact ⟨rfl, rfl⟩
  refine ⟨rfl, ?_, ?_⟩
  · intro i p hp
    rw [(hrow i p hp).2]
    decide
  · intro i j p q hp hq hij
    exact absurd ((hrow i p hp).1.trans (hrow j q hq).1.symm) hij

/-- The refund is requested, and the provider accepts it and is still at work. -/
def refundUnderWay : List (Env × RefundStep) :=
  [(env0, .requestRefund 0 none none none),
    (env0, .processRefund 0
      { submission := .ok (some "refund-1"), verification := .ok "processing" })]

theorem refunds_coupled_of_refundUnderWay :
    RefundsCoupled (run RefundStep.step cancelledOrderDb refundUnderWay) ∧
      RefundsFinalizable env0 (run RefundStep.step cancelledOrderDb refundUnderWay) :=
  refunds_coupled_of_run env0 cancelledOrderDb_beforeRefunds refundUnderWay
    ⟨trivial, fun _ _ _ _ _ _ hfail => absurd hfail (by decide), trivial⟩

/-- The refund is requested, and the callback of the checkout reports success again. -/
def paidAgainUnderRefund : List (Env × RefundStep) :=
  [(env0, .requestRefund 0 none none none),
    (env0, .settlePaymentCore
      { paymentId := 0
        status := .paid
        eventId := some "chapa-callback-2"
        amount := some (.finite 500) } (by decide))]

/-- The payment is `PAID` with an open refund, which can never be finalized. -/
theorem paid_again_separates_refund :
    BeforeRefunds cancelledOrderDb ∧
      ¬ RefundsCoupled (run RefundStep.step cancelledOrderDb paidAgainUnderRefund) ∧
      ¬ RefundsFinalizable env0
        (run RefundStep.step cancelledOrderDb paidAgainUnderRefund) := by
  generalize hdb : run RefundStep.step cancelledOrderDb paidAgainUnderRefund = db
  have hrefunds : db.refunds = Table.empty.create { paymentId := 0, amount := 500 } := by
    rw [← hdb]
    decide +kernel
  have hpayments : db.payments = Table.empty.create paidGoods := by
    rw [← hdb]
    decide +kernel
  have hread : db.refunds.findUnique 0 = some { paymentId := 0, amount := 500 } := by
    rw [hrefunds]
    rfl
  refine ⟨cancelledOrderDb_beforeRefunds, ?_, ?_⟩
  · intro h
    obtain ⟨hiff, -⟩ := h 0 _ (by rw [hpayments]; rfl) rfl
    have hlive : ∃! j, OpenRefund db.refunds 0 j := by
      refine ⟨0, ⟨_, hread, rfl, rfl⟩, ?_⟩
      rintro j ⟨r, hr, -⟩
      rw [hrefunds] at hr
      have hj : j < 1 := Table.lt_size_of_findUnique hr
      exact Nat.lt_one_iff.mp hj
    cases hiff.2 hlive
  · intro h
    have horders : db.orders = cancelledOrderDb.orders := by
      rw [← hdb]
      decide +kernel
    obtain ⟨db', hfinal, -⟩ := h 0 _ _ hread rfl (by rw [hpayments]; rfl) rfl
      (by rw [horders]; rfl)
    have hfails : (finalizeRefund env0 0 (some "refunded") db).isOk = false := by
      rw [← hdb]
      decide +kernel
    rw [hfinal] at hfails
    cases hfails

end CancelledOrder

end MarketBridge
